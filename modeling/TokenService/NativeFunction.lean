set_option autoImplicit false

namespace TokenService

inductive NativeFunction where
  | tokenAssociateToAccount
  | tokenDissociateFromAccount
  | tokenMint
  | tokenBurn
  | tokenAccountWipe
  | tokenPause
  | tokenUnpause
  | tokenCreate
  | tokenUpdate
  | cryptoTransfer
  | cryptoApproveAllowance
  | cryptoDeleteAllowance
  | tokenGetInfo
  | tokenGetNftInfo
  | contractCall
  deriving DecidableEq, Repr

namespace NativeFunction

def all : List NativeFunction := [
  .tokenAssociateToAccount, .tokenDissociateFromAccount, .tokenMint, .tokenBurn, .tokenAccountWipe, .tokenPause,
  .tokenUnpause, .tokenCreate, .tokenUpdate, .cryptoTransfer, .cryptoApproveAllowance, .cryptoDeleteAllowance,
  .tokenGetInfo, .tokenGetNftInfo, .contractCall]

def name : NativeFunction → String
  | .tokenAssociateToAccount => "TokenAssociateToAccount"
  | .tokenDissociateFromAccount => "TokenDissociateFromAccount"
  | .tokenMint => "TokenMint"
  | .tokenBurn => "TokenBurn"
  | .tokenAccountWipe => "TokenAccountWipe"
  | .tokenPause => "TokenPause"
  | .tokenUnpause => "TokenUnpause"
  | .tokenCreate => "TokenCreate"
  | .tokenUpdate => "TokenUpdate"
  | .cryptoTransfer => "CryptoTransfer"
  | .cryptoApproveAllowance => "CryptoApproveAllowance"
  | .cryptoDeleteAllowance => "CryptoDeleteAllowance"
  | .tokenGetInfo => "TokenGetInfo"
  | .tokenGetNftInfo => "TokenGetNftInfo"
  | .contractCall => "ContractCall"

def ofName? (name : String) : Option NativeFunction := all.find? fun function => function.name == name

def isQuery : NativeFunction → Bool
  | .tokenGetInfo => true
  | .tokenGetNftInfo => true
  | _ => false

end NativeFunction

inductive PriceClass where
  | default
  | fungible
  | nonFungible
  | fungibleWithFees
  | nonFungibleWithFees
  deriving DecidableEq, Repr

namespace PriceClass

def all : List PriceClass := [.default, .fungible, .nonFungible, .fungibleWithFees, .nonFungibleWithFees]

def name : PriceClass → String
  | .default => "Default"
  | .fungible => "TokenFungibleCommon"
  | .nonFungible => "TokenNonFungibleUnique"
  | .fungibleWithFees => "TokenFungibleCommonWithCustomFees"
  | .nonFungibleWithFees => "TokenNonFungibleUniqueWithCustomFees"

def ofName? (name : String) : Option PriceClass := all.find? fun priceClass => priceClass.name == name

end PriceClass

end TokenService
