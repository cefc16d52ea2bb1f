import TokenService.Call.Operation
import TokenService.Ledger.View
import TokenService.Text.Utf8

set_option autoImplicit false

namespace TokenService

inductive Answer where
  | info (token : Token)
  | fungibleInfo (token : Token)
  | nftInfo (token : Token) (nft : Nft)
  | key (key : Option Key)
  | customFees (fees : List CustomFee)
  | expiry (expiry : Expiry)
  | isToken (exists? : Bool)
  | type (type : TokenType)
  | text (text : String)
  | decimals (decimals : UInt32)
  | amount (amount : Int64)
  | owner (owner : AccountId)
  | allowance (amount : Int64)
  | approved (spender : AccountId)
  | approvedForAll (approved : Bool)
  deriving DecidableEq

namespace View

def missingTokenUri : String := "ERC721Metadata: URI query for nonexistent token"

def knownToken (view : View) (id : TokenId) : Except Status Token := demand (view.token id) .invalidTokenId

def knownNft (view : View) (id : NftId) : Except Status Nft := demand (view.nft id) .invalidTokenNftSerialNumber

def answer (view : View) : Query → Except Status Answer
  | .info token => return .info (← view.knownToken token)
  | .fungibleInfo token => return .fungibleInfo (← view.knownToken token)
  | .nftInfo id => do
      let token ← view.knownToken id.token
      let nft ← view.knownNft id
      return .nftInfo token nft
  | .key token mask => return .key ((← view.knownToken token).keys.lookup mask)
  | .customFees token => return .customFees (← view.knownToken token).customFees
  | .expiry token => return .expiry (← view.knownToken token).expiry
  | .isToken token => return .isToken (view.token token).isSome
  | .type token => return .type (← view.knownToken token).type
  | .name token => return .text (← view.knownToken token).name
  | .symbol token => return .text (← view.knownToken token).symbol
  | .decimals token => return .decimals (← view.knownToken token).decimals
  | .totalSupply token => return .amount (← view.knownToken token).totalSupply
  | .balanceOf token account => do
      discard <| view.knownToken token
      return .amount (((view.relationship account token).map Relationship.balance).getD 0)
  | .ownerOf id => do
      let nft ← view.knownNft id
      if nft.owner.isZero then return .owner (← view.knownToken id.token).treasury
      else return .owner nft.owner
  | .tokenUri id => return .text (((view.nft id).map fun nft => Utf8.decode nft.metadata).getD missingTokenUri)
  | .allowance token owner spender => do
      discard <| view.knownToken token
      let account ← demand (view.account owner) .invalidAccountId
      return .allowance ((account.tokenAllowances.get? ⟨token, spender⟩).getD 0)
  | .getApproved id => return .approved ((← view.knownNft id).spender.getD .zero)
  | .isApprovedForAll token owner operator => do
      discard <| view.knownToken token
      return .approvedForAll ((view.account owner).any fun account => account.operators.contains ⟨token, operator⟩)

end View

end TokenService
