import TokenService.Call.Struct
import TokenService.Config

set_option autoImplicit false

namespace TokenService

open Abi

abbrev Selector := BitVec 32

namespace Selector

def toBytes (selector : Selector) : Bytes := Bytes.ofNat 4 selector.toNat

def ofInput? (input : Bytes) : Option Selector :=
  if 4 ≤ input.length then some (BitVec.ofNat 32 (Bytes.toNat (input.take 4))) else none

end Selector

-- Whether amounts and times are unsigned, as in the first generation, or signed.
inductive Signedness where
  | unsigned
  | signed
  deriving DecidableEq, Repr

namespace Signedness

def generation : Signedness → Generation
  | .unsigned => .first
  | .signed => .second

end Signedness

inductive ServiceFunction where
  | associateToken
  | associateTokens
  | dissociateToken
  | dissociateTokens
  | mintToken (signedness : Signedness)
  | burnToken (signedness : Signedness)
  | wipeTokenAccount (signedness : Signedness)
  | wipeTokenAccountNft
  | pauseToken
  | unpauseToken
  | createFungible (generation : Generation)
  | createFungibleWithFees (generation : Generation)
  | createNonFungible (generation : Generation)
  | createNonFungibleWithFees (generation : Generation)
  | updateTokenInfo (generation : Generation)
  | updateTokenKeys
  | updateTokenExpiryInfo (signedness : Signedness)
  | cryptoTransfer
  | atomicTransfer
  | transferTokens
  | transferToken
  | transferNfts
  | transferNft
  | transferFrom
  | transferFromNft
  | approve
  | approveNft
  | setApprovalForAll
  | getApproved
  | isApprovedForAll
  | allowance
  | getTokenInfo
  | getFungibleTokenInfo
  | getNonFungibleTokenInfo
  | getTokenKey
  | getTokenCustomFees
  | getTokenExpiryInfo
  | isToken
  | getTokenType
  deriving DecidableEq, Repr

namespace ServiceFunction

def all : List ServiceFunction := [
  .associateToken, .associateTokens, .dissociateToken, .dissociateTokens,
  .mintToken .unsigned, .mintToken .signed, .burnToken .unsigned, .burnToken .signed,
  .wipeTokenAccount .unsigned, .wipeTokenAccount .signed, .wipeTokenAccountNft, .pauseToken, .unpauseToken,
  .createFungible .first, .createFungible .second, .createFungible .third,
  .createFungibleWithFees .first, .createFungibleWithFees .second, .createFungibleWithFees .third,
  .createNonFungible .first, .createNonFungible .second, .createNonFungible .third,
  .createNonFungibleWithFees .first, .createNonFungibleWithFees .second, .createNonFungibleWithFees .third,
  .updateTokenInfo .first, .updateTokenInfo .second, .updateTokenInfo .third, .updateTokenKeys,
  .updateTokenExpiryInfo .unsigned, .updateTokenExpiryInfo .signed,
  .cryptoTransfer, .atomicTransfer, .transferTokens, .transferToken, .transferNfts, .transferNft, .transferFrom,
  .transferFromNft, .approve, .approveNft, .setApprovalForAll, .getApproved, .isApprovedForAll, .allowance,
  .getTokenInfo, .getFungibleTokenInfo, .getNonFungibleTokenInfo, .getTokenKey, .getTokenCustomFees,
  .getTokenExpiryInfo, .isToken, .getTokenType]

def selector : ServiceFunction → Selector
  | .associateToken => 0x49146bde
  | .associateTokens => 0x2e63879b
  | .dissociateToken => 0x099794e8
  | .dissociateTokens => 0x78b63918
  | .mintToken .unsigned => 0x278e0b88
  | .mintToken .signed => 0xe0f4059a
  | .burnToken .unsigned => 0xacb9cff9
  | .burnToken .signed => 0xd6910d06
  | .wipeTokenAccount .unsigned => 0x9790686d
  | .wipeTokenAccount .signed => 0xefef57f9
  | .wipeTokenAccountNft => 0xf7f38e26
  | .pauseToken => 0x7c41ad2c
  | .unpauseToken => 0x3b3bff0f
  | .createFungible .first => 0x7812a04b
  | .createFungible .second => 0xc23baeb6
  | .createFungible .third => 0x0fb65bf3
  | .createFungibleWithFees .first => 0x444d1412
  | .createFungibleWithFees .second => 0x20b71819
  | .createFungibleWithFees .third => 0x2af0c59a
  | .createNonFungible .first => 0x9dc711e0
  | .createNonFungible .second => 0x9c89bb35
  | .createNonFungible .third => 0xea83f293
  | .createNonFungibleWithFees .first => 0xc1dbfff0
  | .createNonFungibleWithFees .second => 0x4409e721
  | .createNonFungibleWithFees .third => 0xabb54eb5
  | .updateTokenInfo .first => 0x2cccc36f
  | .updateTokenInfo .second => 0x18370d34
  | .updateTokenInfo .third => 0x7d305cfa
  | .updateTokenKeys => 0x6fc3cbaf
  | .updateTokenExpiryInfo .unsigned => 0x593d6e82
  | .updateTokenExpiryInfo .signed => 0xd27be6cd
  | .cryptoTransfer => 0x189a554c
  | .atomicTransfer => 0x0e71804f
  | .transferTokens => 0x82bba493
  | .transferToken => 0xeca36917
  | .transferNfts => 0x2c4ba191
  | .transferNft => 0x5cfc9011
  | .transferFrom => 0x15dacbea
  | .transferFromNft => 0x9b23d3d9
  | .approve => 0xe1f21c67
  | .approveNft => 0x7336aaf0
  | .setApprovalForAll => 0x367605ca
  | .getApproved => 0x098f2366
  | .isApprovedForAll => 0xf49f40db
  | .allowance => 0x927da105
  | .getTokenInfo => 0x1f69565f
  | .getFungibleTokenInfo => 0x3f28a19b
  | .getNonFungibleTokenInfo => 0x287e1da8
  | .getTokenKey => 0x3c4dd32e
  | .getTokenCustomFees => 0xae7611a0
  | .getTokenExpiryInfo => 0xd614cdb8
  | .isToken => 0x19f37361
  | .getTokenType => 0x93272baf

def ofSelector? (selector : Selector) : Option ServiceFunction :=
  all.find? fun function => function.selector == selector

def params : ServiceFunction → List Ty
  | .associateToken => [.address, .address]
  | .associateTokens => [.address, .array .address]
  | .dissociateToken => [.address, .address]
  | .dissociateTokens => [.address, .array .address]
  | .mintToken .unsigned => [.address, .uint64, .array .bytes]
  | .mintToken .signed => [.address, .int64, .array .bytes]
  | .burnToken .unsigned => [.address, .uint64, .array .int64]
  | .burnToken .signed => [.address, .int64, .array .int64]
  | .wipeTokenAccount .unsigned => [.address, .address, .uint32]
  | .wipeTokenAccount .signed => [.address, .address, .int64]
  | .wipeTokenAccountNft => [.address, .address, .array .int64]
  | .pauseToken => [.address]
  | .unpauseToken => [.address]
  | .createFungible generation =>
      [Struct.token generation, .atom generation.supplyAtom, .atom generation.decimalsAtom]
  | .createFungibleWithFees generation =>
      [Struct.token generation, .atom generation.supplyAtom, .atom generation.decimalsAtom, .array Struct.fixedFee,
        .array Struct.fractionalFee]
  | .createNonFungible generation => [Struct.token generation]
  | .createNonFungibleWithFees generation =>
      [Struct.token generation, .array Struct.fixedFee, .array Struct.royaltyFee]
  | .updateTokenInfo generation => [.address, Struct.token generation]
  | .updateTokenKeys => [.address, .array Struct.tokenKey]
  | .updateTokenExpiryInfo .unsigned => [.address, Struct.expiry .first]
  | .updateTokenExpiryInfo .signed => [.address, Struct.expiry .third]
  | .cryptoTransfer => [.array Struct.plainMoves]
  | .atomicTransfer => [.tuple [.array Struct.adjustment], .array Struct.moves]
  | .transferTokens => [.address, .array .address, .array .int64]
  | .transferToken => [.address, .address, .address, .int64]
  | .transferNfts => [.address, .array .address, .array .address, .array .int64]
  | .transferNft => [.address, .address, .address, .int64]
  | .transferFrom => [.address, .address, .address, .uint256]
  | .transferFromNft => [.address, .address, .address, .uint256]
  | .approve => [.address, .address, .uint256]
  | .approveNft => [.address, .address, .uint256]
  | .setApprovalForAll => [.address, .address, .bool]
  | .getApproved => [.address, .uint256]
  | .isApprovedForAll => [.address, .address, .address]
  | .allowance => [.address, .address, .address]
  | .getTokenInfo => [.address]
  | .getFungibleTokenInfo => [.address]
  | .getNonFungibleTokenInfo => [.address, .int64]
  | .getTokenKey => [.address, .uint256]
  | .getTokenCustomFees => [.address]
  | .getTokenExpiryInfo => [.address]
  | .isToken => [.address]
  | .getTokenType => [.address]

def family? : ServiceFunction → Option Family
  | .createFungible _ => some .tokenCreate
  | .createFungibleWithFees _ => some .tokenCreate
  | .createNonFungible _ => some .tokenCreate
  | .createNonFungibleWithFees _ => some .tokenCreate
  | .atomicTransfer => some .atomicTransfer
  | .approve => some .allowances
  | .approveNft => some .allowances
  | .setApprovalForAll => some .allowances
  | .getApproved => some .allowances
  | .isApprovedForAll => some .allowances
  | .allowance => some .allowances
  | _ => none

def isPayable : ServiceFunction → Bool
  | .createFungible _ => true
  | .createFungibleWithFees _ => true
  | .createNonFungible _ => true
  | .createNonFungibleWithFees _ => true
  | _ => false

def isView : ServiceFunction → Bool
  | .getApproved => true
  | .isApprovedForAll => true
  | .allowance => true
  | .getTokenInfo => true
  | .getFungibleTokenInfo => true
  | .getNonFungibleTokenInfo => true
  | .getTokenKey => true
  | .getTokenCustomFees => true
  | .getTokenExpiryInfo => true
  | .isToken => true
  | .getTokenType => true
  | _ => false

end ServiceFunction

inductive Facade where
  | erc20
  | erc721
  | hrc
  deriving DecidableEq, Repr

namespace Facade

def refusal : Facade → String
  | .erc20 => "Invalid operation for ERC-20 token!"
  | .erc721 => "Invalid operation for ERC-721 token!"
  | .hrc => "Invalid operation for HRC token!"

end Facade

inductive FacadeFunction where
  | name
  | symbol
  | decimals
  | totalSupply
  | balanceOf
  | transfer
  | transferFrom
  | allowance
  | approve
  | ownerOf
  | tokenUri
  | setApprovalForAll
  | getApproved
  | isApprovedForAll
  | associate
  | dissociate
  deriving DecidableEq, Repr

namespace FacadeFunction

def all : List FacadeFunction := [
  .name, .symbol, .decimals, .totalSupply, .balanceOf, .transfer, .transferFrom, .allowance, .approve, .ownerOf,
  .tokenUri, .setApprovalForAll, .getApproved, .isApprovedForAll, .associate, .dissociate]

def selector : FacadeFunction → Selector
  | .name => 0x06fdde03
  | .symbol => 0x95d89b41
  | .decimals => 0x313ce567
  | .totalSupply => 0x18160ddd
  | .balanceOf => 0x70a08231
  | .transfer => 0xa9059cbb
  | .transferFrom => 0x23b872dd
  | .allowance => 0xdd62ed3e
  | .approve => 0x095ea7b3
  | .ownerOf => 0x6352211e
  | .tokenUri => 0xc87b56dd
  | .setApprovalForAll => 0xa22cb465
  | .getApproved => 0x081812fc
  | .isApprovedForAll => 0xe985e9c5
  | .associate => 0x0a754de6
  | .dissociate => 0x5c9217e0

def ofSelector? (selector : Selector) : Option FacadeFunction :=
  all.find? fun function => function.selector == selector

def params : FacadeFunction → List Ty
  | .name => []
  | .symbol => []
  | .decimals => []
  | .totalSupply => []
  | .balanceOf => [.address]
  | .transfer => [.address, .uint256]
  | .transferFrom => [.address, .address, .uint256]
  | .allowance => [.address, .address]
  | .approve => [.address, .uint256]
  | .ownerOf => [.uint256]
  | .tokenUri => [.uint256]
  | .setApprovalForAll => [.address, .bool]
  | .getApproved => [.uint256]
  | .isApprovedForAll => [.address, .address]
  | .associate => []
  | .dissociate => []

def family? : FacadeFunction → Option Family
  | .allowance => some .allowances
  | .approve => some .allowances
  | .setApprovalForAll => some .allowances
  | .getApproved => some .allowances
  | .isApprovedForAll => some .allowances
  | .associate => some .hrcAssociate
  | .dissociate => some .hrcAssociate
  | _ => none

def mismatch? (type : Option TokenType) : FacadeFunction → Option Facade
  | .decimals => if type = some .fungible then none else some .erc20
  | .transfer => if type = some .fungible then none else some .erc20
  | .ownerOf => if type = some .nonFungible then none else some .erc721
  | .tokenUri => if type = some .nonFungible then none else some .erc721
  | .associate => if type.isSome then none else some .hrc
  | .dissociate => if type.isSome then none else some .hrc
  | _ => none

def isView : FacadeFunction → Bool
  | .name => true
  | .symbol => true
  | .decimals => true
  | .totalSupply => true
  | .balanceOf => true
  | .allowance => true
  | .ownerOf => true
  | .tokenUri => true
  | .getApproved => true
  | .isApprovedForAll => true
  | _ => false

end FacadeFunction

namespace Selector

def isPayable (selector : Selector) : Bool := (ServiceFunction.ofSelector? selector).any ServiceFunction.isPayable

def isServiceView (selector : Selector) : Bool := (ServiceFunction.ofSelector? selector).any ServiceFunction.isView

def isFacadeView (selector : Selector) : Bool := (FacadeFunction.ofSelector? selector).any FacadeFunction.isView

def redirect : Selector := 0x618dc65e

end Selector

end TokenService
