import TokenService.Entity.Row
import TokenService.NativeFunction

set_option autoImplicit false

namespace TokenService

-- A credit, or a debit when the amount is negative; an approved debit draws on an allowance.
structure Adjustment where
  account : AccountId
  amount : Int64
  approval : Bool := false
  deriving DecidableEq, Repr

structure NftMove where
  sender : AccountId
  receiver : AccountId
  serial : Int64
  approval : Bool := false
  deriving DecidableEq, Repr

structure TokenMoves where
  token : TokenId
  adjustments : List Adjustment := []
  nftMoves : List NftMove := []
  deriving DecidableEq, Repr

structure Association where
  account : AccountId
  tokens : List TokenId
  deriving DecidableEq, Repr

structure Mint where
  token : TokenId
  amount : Int64
  metadata : List Bytes
  deriving DecidableEq, Repr

structure Burn where
  token : TokenId
  amount : Int64
  serials : List Int64
  deriving DecidableEq, Repr

structure Wipe where
  token : TokenId
  account : AccountId
  amount : Int64
  serials : List Int64
  deriving DecidableEq, Repr

structure Creation where
  name : String := ""
  symbol : String := ""
  treasury : AccountId := .zero
  memo : String := ""
  type : TokenType := .fungible
  supplyType : SupplyType := .infinite
  maxSupply : Int64 := 0
  initialSupply : Int64 := 0
  decimals : Int32 := 0
  freezeDefault : Bool := false
  keys : TokenKeys := {}
  expiry : Expiry := {}
  customFees : List CustomFee := []
  deriving DecidableEq, Repr

-- An absent value and an empty key slot stay as they are.
structure Update where
  token : TokenId := .zero
  name : Option String := none
  symbol : Option String := none
  treasury : Option AccountId := none
  memo : Option String := none
  keys : TokenKeys := {}
  expirySecond : Option Int64 := none
  autoRenewAccount : Option AccountId := none
  autoRenewPeriod : Option Int64 := none
  deriving DecidableEq, Repr

structure HbarGrant where
  owner : AccountId
  spender : AccountId
  amount : Int64
  deriving DecidableEq, Repr

structure UnitGrant where
  token : TokenId
  owner : AccountId
  spender : AccountId
  amount : Int64
  deriving DecidableEq, Repr

-- Serials lent to a spender, an operator set or unset, or both; a delegating spender acts for the
-- owner.
structure NftGrant where
  token : TokenId
  owner : AccountId
  spender : AccountId
  serials : List Int64
  forAll : Option Bool
  delegatingSpender : Option AccountId
  deriving DecidableEq, Repr

structure NftRevocation where
  token : TokenId
  owner : AccountId
  serials : List Int64
  deriving DecidableEq, Repr

inductive Body where
  | associate (association : Association)
  | dissociate (association : Association)
  | mint (mint : Mint)
  | burn (burn : Burn)
  | wipe (wipe : Wipe)
  | pause (token : TokenId)
  | unpause (token : TokenId)
  | create (creation : Creation)
  | update (update : Update)
  | transfer (hbar : List Adjustment) (tokens : List TokenMoves)
  | approve (hbar : List HbarGrant) (units : List UnitGrant) (nfts : List NftGrant)
  | revoke (revocations : List NftRevocation)
  | queryToken (token : TokenId)
  | queryNft (id : NftId)
  deriving DecidableEq, Repr

namespace Body

def function : Body → NativeFunction
  | .associate _ => .tokenAssociateToAccount
  | .dissociate _ => .tokenDissociateFromAccount
  | .mint _ => .tokenMint
  | .burn _ => .tokenBurn
  | .wipe _ => .tokenAccountWipe
  | .pause _ => .tokenPause
  | .unpause _ => .tokenUnpause
  | .create _ => .tokenCreate
  | .update _ => .tokenUpdate
  | .transfer _ _ => .cryptoTransfer
  | .approve _ _ _ => .cryptoApproveAllowance
  | .revoke _ => .cryptoDeleteAllowance
  | .queryToken _ => .tokenGetInfo
  | .queryNft _ => .tokenGetNftInfo

end Body

structure Transaction where
  body : Body
  memo : String := ""
  deriving DecidableEq, Repr

end TokenService
