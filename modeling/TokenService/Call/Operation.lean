import TokenService.Transaction

set_option autoImplicit false

namespace TokenService

-- Generations of one function differ in the widths of their numbers.
inductive Generation where
  | first
  | second
  | third
  deriving DecidableEq, Repr

inductive KeyChoice where
  | inherit
  | contract (id : ContractId)
  | ed25519 (bytes : Bytes)
  | secp256k1 (bytes : Bytes)
  | delegatable (id : ContractId)
  | unset
  deriving DecidableEq, Repr

structure KeyArgument where
  mask : UInt64
  choice : KeyChoice
  deriving DecidableEq, Repr

structure CreateOrder where
  type : TokenType
  name : String
  symbol : String
  treasury : AccountId
  memo : String
  supplyType : SupplyType
  maxSupply : Int64
  initialSupply : Int64
  decimals : Int32
  freezeDefault : Bool
  keys : List KeyArgument
  expiry : Expiry
  customFees : List CustomFee
  deriving DecidableEq, Repr

-- Empty text, an absent account and a zero time stay as they are.
structure InfoOrder where
  token : TokenId
  name : String
  symbol : String
  treasury : Option AccountId
  memo : String
  keys : List KeyArgument
  expiry : Expiry
  deriving DecidableEq, Repr

inductive TransferEntry where
  | cryptoTransfer
  | atomicTransfer
  | transferTokens
  | transferToken
  | transferNfts
  | transferNft
  deriving DecidableEq, Repr

inductive Asset where
  | amount (units : Int64)
  | serial (serial : Int64)
  deriving DecidableEq, Repr

inductive Query where
  | info (token : TokenId)
  | fungibleInfo (token : TokenId)
  | nftInfo (id : NftId)
  | key (token : TokenId) (mask : UInt64)
  | customFees (token : TokenId)
  | expiry (token : TokenId)
  | isToken (token : TokenId)
  | type (token : TokenId)
  | name (token : TokenId)
  | symbol (token : TokenId)
  | decimals (token : TokenId)
  | totalSupply (token : TokenId)
  | balanceOf (token : TokenId) (account : AccountId)
  | ownerOf (id : NftId)
  | tokenUri (id : NftId)
  | allowance (token : TokenId) (owner spender : AccountId)
  | getApproved (id : NftId)
  | isApprovedForAll (token : TokenId) (owner operator : AccountId)
  deriving DecidableEq, Repr

namespace Query

def nft? : Query → Option NftId
  | .nftInfo id => some id
  | .ownerOf id => some id
  | .tokenUri id => some id
  | .getApproved id => some id
  | _ => none

def token : Query → TokenId
  | .info token => token
  | .fungibleInfo token => token
  | .nftInfo id => id.token
  | .key token _ => token
  | .customFees token => token
  | .expiry token => token
  | .isToken token => token
  | .type token => token
  | .name token => token
  | .symbol token => token
  | .decimals token => token
  | .totalSupply token => token
  | .balanceOf token _ => token
  | .ownerOf id => id.token
  | .tokenUri id => id.token
  | .allowance token _ _ => token
  | .getApproved id => id.token
  | .isApprovedForAll token _ _ => token

end Query

inductive Operation where
  | associate (account : AccountId) (token : TokenId)
  | associateAll (account : AccountId) (tokens : List TokenId)
  | dissociate (account : AccountId) (token : TokenId)
  | dissociateAll (account : AccountId) (tokens : List TokenId)
  | mint (mint : Mint) (generation : Generation)
  | burn (burn : Burn) (generation : Generation)
  | wipe (wipe : Wipe) (generation : Generation)
  | pause (token : TokenId)
  | unpause (token : TokenId)
  | create (order : CreateOrder) (generation : Generation)
  | updateInfo (order : InfoOrder) (generation : Generation)
  | updateKeys (token : TokenId) (keys : List KeyArgument)
  | updateExpiry (token : TokenId) (expiry : Expiry) (generation : Generation)
  | transfer (entry : TransferEntry) (hbar : List Adjustment) (tokens : List TokenMoves)
  | transferAsset (token : TokenId) (source : Option AccountId) (receiver : AccountId) (asset : Asset)
  | approve (token : TokenId) (spender : AccountId) (asset : Asset)
  | setApprovalForAll (token : TokenId) (operator : AccountId) (approved : Bool)
  | query (query : Query)
  deriving DecidableEq, Repr

namespace Operation

-- A serial approved for nobody loses its allowance.
def function : Operation → NativeFunction
  | .associate _ _ => .tokenAssociateToAccount
  | .associateAll _ _ => .tokenAssociateToAccount
  | .dissociate _ _ => .tokenDissociateFromAccount
  | .dissociateAll _ _ => .tokenDissociateFromAccount
  | .mint _ _ => .tokenMint
  | .burn _ _ => .tokenBurn
  | .wipe _ _ => .tokenAccountWipe
  | .pause _ => .tokenPause
  | .unpause _ => .tokenUnpause
  | .create _ _ => .tokenCreate
  | .updateInfo _ _ => .tokenUpdate
  | .updateKeys _ _ => .tokenUpdate
  | .updateExpiry _ _ _ => .tokenUpdate
  | .transfer _ _ _ => .cryptoTransfer
  | .transferAsset _ _ _ _ => .cryptoTransfer
  | .approve _ _ (.amount _) => .cryptoApproveAllowance
  | .approve _ spender (.serial _) =>
      if spender.isZero then .cryptoDeleteAllowance else .cryptoApproveAllowance
  | .setApprovalForAll _ _ _ => .cryptoApproveAllowance
  | .query question => if question.nft?.isSome then .tokenGetNftInfo else .tokenGetInfo

def isQuery : Operation → Bool
  | .query _ => true
  | _ => false

end Operation

end TokenService
