import TokenService.Call.Dispatch
import TokenService.Proofs.Form

set_option autoImplicit false

namespace TokenService

open Abi

inductive OperationKind where
  | associate
  | associateAll
  | dissociate
  | dissociateAll
  | mint
  | burn
  | wipe
  | pause
  | unpause
  | create
  | updateInfo
  | updateKeys
  | updateExpiry
  | transfer
  | transferAsset
  | approve
  | setApprovalForAll
  | query
  deriving DecidableEq

namespace Operation

def kind : Operation → OperationKind
  | .associate _ _ => .associate
  | .associateAll _ _ => .associateAll
  | .dissociate _ _ => .dissociate
  | .dissociateAll _ _ => .dissociateAll
  | .mint _ _ => .mint
  | .burn _ _ => .burn
  | .wipe _ _ => .wipe
  | .pause _ => .pause
  | .unpause _ => .unpause
  | .create _ _ => .create
  | .updateInfo _ _ => .updateInfo
  | .updateKeys _ _ => .updateKeys
  | .updateExpiry _ _ _ => .updateExpiry
  | .transfer _ _ _ => .transfer
  | .transferAsset _ _ _ _ => .transferAsset
  | .approve _ _ _ => .approve
  | .setApprovalForAll _ _ _ => .setApprovalForAll
  | .query _ => .query

theorem kind_create (operation : Operation) (creates : operation.kind = .create) :
    ∃ order generation, operation = .create order generation := by
  cases operation with
  | create order generation => exact ⟨order, generation, rfl⟩
  | _ => cases creates

theorem kind_query (operation : Operation) (asks : operation.kind = .query) : ∃ question, operation = .query question := by
  cases operation with
  | query question => exact ⟨question, rfl⟩
  | _ => cases asks

end Operation

namespace ServiceFunction

def kind : ServiceFunction → OperationKind
  | .associateToken => .associate
  | .associateTokens => .associateAll
  | .dissociateToken => .dissociate
  | .dissociateTokens => .dissociateAll
  | .mintToken _ => .mint
  | .burnToken _ => .burn
  | .wipeTokenAccount _ | .wipeTokenAccountNft => .wipe
  | .pauseToken => .pause
  | .unpauseToken => .unpause
  | .createFungible _ | .createFungibleWithFees _ | .createNonFungible _ | .createNonFungibleWithFees _ => .create
  | .updateTokenInfo _ => .updateInfo
  | .updateTokenKeys => .updateKeys
  | .updateTokenExpiryInfo _ => .updateExpiry
  | .cryptoTransfer | .atomicTransfer | .transferTokens | .transferToken | .transferNfts | .transferNft => .transfer
  | .transferFrom | .transferFromNft => .transferAsset
  | .approve | .approveNft => .approve
  | .setApprovalForAll => .setApprovalForAll
  | .getApproved | .isApprovedForAll | .allowance | .getTokenInfo | .getFungibleTokenInfo | .getNonFungibleTokenInfo
  | .getTokenKey | .getTokenCustomFees | .getTokenExpiryInfo | .isToken | .getTokenType => .query

theorem view_kind (function : ServiceFunction) : function.isView = (function.kind == .query) := by
  cases function <;> rfl

theorem payable_kind (function : ServiceFunction) : function.isPayable = (function.kind == .create) := by
  cases function <;> rfl

theorem operation_kind (setting : CallSetting) (function : ServiceFunction) (values : Ty.Vals function.params)
    (operation : Operation) (given : function.operation setting values = .ok operation) :
    operation.kind = function.kind := by
  cases function with
  | mintToken signedness | burnToken signedness =>
      cases signedness with
      | unsigned =>
          obtain ⟨_, _, same⟩ := (except_bind_ok _ _ _).mp given
          cases same
          rfl
      | signed =>
          cases given
          rfl
  | wipeTokenAccount signedness | updateTokenExpiryInfo signedness =>
      cases signedness <;> cases given <;> rfl
  | createFungible | createFungibleWithFees =>
      obtain ⟨_, _, given⟩ := (except_bind_ok _ _ _).mp given
      obtain ⟨_, _, given⟩ := (except_bind_ok _ _ _).mp given
      obtain ⟨_, _, same⟩ := (except_bind_ok _ _ _).mp given
      cases same
      rfl
  | transferNfts =>
      obtain ⟨_, _, given⟩ := (except_bind_ok _ _ _).mp given
      obtain ⟨_, _, same⟩ := (except_bind_ok _ _ _).mp given
      cases same
      rfl
  | createNonFungible | createNonFungibleWithFees | updateTokenInfo | updateTokenKeys | transferTokens
  | transferFrom | transferFromNft | approve | approveNft | getApproved =>
      obtain ⟨_, _, same⟩ := (except_bind_ok _ _ _).mp given
      cases same
      rfl
  | transferToken =>
      obtain ⟨token, sender, receiver, amount, ⟨⟩⟩ := values
      simp only [ServiceFunction.operation] at given
      split at given
      · cases given
        rfl
      · cases given
  | getTokenKey =>
      obtain ⟨token, mask, ⟨⟩⟩ := values
      simp only [ServiceFunction.operation] at given
      split at given
      · cases given
        rfl
      · cases given
  | _ =>
      cases given
      rfl

end ServiceFunction

namespace FacadeFunction

def kind : FacadeFunction → OperationKind
  | .transfer | .transferFrom => .transferAsset
  | .approve => .approve
  | .setApprovalForAll => .setApprovalForAll
  | .associate => .associate
  | .dissociate => .dissociate
  | .name | .symbol | .decimals | .totalSupply | .balanceOf | .allowance | .ownerOf | .tokenUri | .getApproved
  | .isApprovedForAll => .query

theorem view_kind (function : FacadeFunction) : function.isView = (function.kind == .query) := by
  cases function <;> rfl

theorem operation_kind (setting : CallSetting) (token : TokenId) (type : Option TokenType)
    (function : FacadeFunction) (values : Ty.Vals function.params) (operation : Operation)
    (given : function.operation setting token type values = .ok operation) : operation.kind = function.kind := by
  cases function with
  | transfer | transferFrom | approve | ownerOf | tokenUri | getApproved =>
      obtain ⟨_, _, same⟩ := (except_bind_ok _ _ _).mp given
      cases same
      rfl
  | _ =>
      cases given
      rfl

theorem kind_not_create (function : FacadeFunction) : function.kind ≠ .create := by
  cases function <;> decide

end FacadeFunction

end TokenService
