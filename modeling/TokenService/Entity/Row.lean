import TokenService.Entity.Key
import TokenService.Table

set_option autoImplicit false

namespace TokenService

inductive TokenType where
  | fungible
  | nonFungible
  deriving DecidableEq, Repr, Inhabited

namespace TokenType

def code : TokenType → Int32
  | .fungible => 0
  | .nonFungible => 1

end TokenType

inductive SupplyType where
  | infinite
  | finite
  deriving DecidableEq, Repr, Inhabited

-- A second of zero means that none is set.
structure Expiry where
  second : Int64 := 0
  autoRenewAccount : Option AccountId := none
  autoRenewPeriod : Int64 := 0
  deriving DecidableEq, Repr, Inhabited

-- Charged in the named token, in the moved token itself, or else in hbar.
structure FixedFee where
  amount : Int64 := 0
  denomination : Option TokenId := none
  inMovedToken : Bool := false
  collector : AccountId := .zero
  deriving DecidableEq, Repr, Inhabited

-- A maximum of zero means that there is none.
structure FractionalFee where
  numerator : Int64 := 0
  denominator : Int64 := 0
  minimum : Int64 := 0
  maximum : Int64 := 0
  netOfTransfers : Bool := false
  collector : AccountId := .zero
  deriving DecidableEq, Repr, Inhabited

structure RoyaltyFee where
  numerator : Int64 := 0
  denominator : Int64 := 0
  fallback : Option FixedFee := none
  collector : AccountId := .zero
  deriving DecidableEq, Repr, Inhabited

inductive CustomFee where
  | fixed (fee : FixedFee)
  | fractional (fee : FractionalFee)
  | royalty (fee : RoyaltyFee)
  deriving DecidableEq, Repr

structure Token where
  id : TokenId := .zero
  type : TokenType := .fungible
  supplyType : SupplyType := .infinite
  name : String := ""
  symbol : String := ""
  memo : String := ""
  treasury : AccountId := .zero
  decimals : UInt32 := 0
  totalSupply : Int64 := 0
  maxSupply : Int64 := 0
  freezeDefault : Bool := false
  kycGrantedByDefault : Bool := false
  keys : TokenKeys := {}
  expiry : Expiry := {}
  customFees : List CustomFee := []
  paused : Bool := false
  deleted : Bool := false
  lastUsedSerial : Int64 := 0
  deriving DecidableEq, Inhabited

structure Account where
  id : AccountId := .zero
  key : Option Key := none
  balance : Int64 := 0
  deleted : Bool := false
  smartContract : Bool := false
  aliasAddress : Option Address := none
  hbarAllowances : Table AccountId Int64 := ∅
  tokenAllowances : Table Delegate Int64 := ∅
  operators : Table Delegate Unit := ∅
  deriving DecidableEq, Inhabited

-- The balance counts units, or serials of a non-fungible token.
structure Relationship where
  balance : Int64 := 0
  frozen : Bool := false
  kycGranted : Bool := false
  automatic : Bool := false
  deriving DecidableEq, Repr, Inhabited

-- A zero owner stands for the treasury of the token.
structure Nft where
  id : NftId := default
  owner : AccountId := .zero
  spender : Option AccountId := none
  metadata : Bytes := []
  creationTime : Timestamp := ⟨0, 0⟩
  deriving DecidableEq, Repr, Inhabited

namespace Nft

def holder (nft : Nft) (token : Token) : AccountId := if nft.owner.isZero then token.treasury else nft.owner

end Nft

end TokenService
