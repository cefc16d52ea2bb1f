import TokenService.Proofs.Call.Routes

set_option autoImplicit false

namespace TokenService

open Abi

namespace Config

def unlocked (config : Config) : Config :=
  { config with
    allowancesEnabled := true
    createEnabled := true
    atomicTransferEnabled := true
    hrcAssociateEnabled := true }

theorem unlocked_enables (config : Config) (family : Family) : config.unlocked.enables family = true := by
  cases family <;> rfl

end Config

namespace CallSetting

def unlocked (setting : CallSetting) : CallSetting := { setting with config := setting.config.unlocked }

theorem unlocked_gate (setting : CallSetting) (family? : Option Family) : setting.unlocked.gate family? = .ok () := by
  cases family? with
  | none => rfl
  | some family => exact if_pos (setting.config.unlocked_enables family)

def barred? (setting : CallSetting) : Option Family → Option Family
  | none => none
  | some family => if setting.config.enables family then none else some family

theorem gate_barred (setting : CallSetting) (family? : Option Family) :
    setting.gate family? = match setting.barred? family? with
      | some family => .error (.disabled family)
      | none => .ok () := by
  cases family? with
  | none => rfl
  | some family =>
      by_cases enabled : setting.config.enables family = true
      · simp only [gate, barred?, if_pos enabled]
      · simp only [gate, barred?, if_neg enabled]

end CallSetting

-- The family of the function that the input names: of the nested one, when the input is an envelope.
def familyNamed? (input : Bytes) : Option Family :=
  match Redirect.unwrap input with
  | .error _ => none
  | .ok (some redirect) =>
      ((Selector.ofInput? redirect.nested).bind FacadeFunction.ofSelector?).bind FacadeFunction.family?
  | .ok none => ((Selector.ofInput? input).bind ServiceFunction.ofSelector?).bind ServiceFunction.family?

section Switches

variable (setting : CallSetting)

theorem service_operation_unlocked (function : ServiceFunction) (values : Ty.Vals function.params) :
    function.operation setting.unlocked values = function.operation setting values := by
  cases function with
  | mintToken signedness | burnToken signedness | wipeTokenAccount signedness | updateTokenExpiryInfo signedness =>
      cases signedness <;> rfl
  | _ => rfl

theorem facade_operation_unlocked (token : TokenId) (type : Option TokenType) (function : FacadeFunction)
    (values : Ty.Vals function.params) :
    function.operation setting.unlocked token type values = function.operation setting token type values := by
  cases function <;> rfl

theorem dispatch_service_switch (function : ServiceFunction) (input : Bytes) :
    dispatchService setting function input = match setting.barred? function.family? with
      | some family => .error (.disabled family)
      | none => dispatchService setting.unlocked function input := by
  unfold dispatchService
  rw [setting.gate_barred, setting.unlocked_gate]
  cases setting.barred? function.family? with
  | some family => rfl
  | none => simp only [service_operation_unlocked]

theorem dispatch_facade_switch (token : TokenId) (function : FacadeFunction) (nested : Bytes) :
    dispatchFacade setting token function nested = match setting.barred? function.family? with
      | some family => .error (.disabled family)
      | none => dispatchFacade setting.unlocked token function nested := by
  unfold dispatchFacade
  rw [setting.gate_barred, setting.unlocked_gate]
  cases setting.barred? function.family? with
  | some family => rfl
  | none =>
      simp only [facade_operation_unlocked]
      rfl

theorem dispatch_switch (input : Bytes) :
    dispatch setting input = match setting.barred? (familyNamed? input) with
      | some family => .error (.disabled family)
      | none => dispatch setting.unlocked input := by
  unfold dispatch familyNamed?
  cases Redirect.unwrap input with
  | error fault => rfl
  | ok envelope =>
      cases envelope with
      | some redirect =>
          simp only [map_error_ok, bind, Except.bind]
          cases Selector.ofInput? redirect.nested with
          | none => rfl
          | some selector =>
              cases known : FacadeFunction.ofSelector? selector with
              | none => simp only [Option.bind_some, known, Option.bind_none, CallSetting.barred?]
              | some function =>
                  simp only [Option.bind_some, known, dispatch_facade_switch setting]
                  cases setting.barred? function.family? <;> rfl
      | none =>
          simp only [map_error_ok, bind, Except.bind]
          cases Selector.ofInput? input with
          | none => rfl
          | some selector =>
              cases known : ServiceFunction.ofSelector? selector with
              | none => simp only [Option.bind_some, known, Option.bind_none, CallSetting.barred?]
              | some function =>
                  simp only [Option.bind_some, known, dispatch_service_switch setting]
                  cases setting.barred? function.family? <;> rfl

end Switches

namespace TokenMoves

def flagged (moves : TokenMoves) : Bool :=
  moves.adjustments.any Adjustment.approval || moves.nftMoves.any NftMove.approval

end TokenMoves

namespace ResolvedCall

-- The family of a call, told by what it asks for: a transfer needs the atomic one when it moves hbar or draws on an
-- approval, and an association when it came through the facade of its token.
def family? (call : ResolvedCall) : Option Family :=
  match call.operation with
  | .create _ _ => some .tokenCreate
  | .transfer entry hbar tokens =>
      if entry = .atomicTransfer ∨ hbar ≠ [] ∨ tokens.any TokenMoves.flagged = true then some .atomicTransfer else none
  | .approve _ _ _ | .setApprovalForAll _ _ _ => some .allowances
  | .query (.getApproved _) | .query (.isApprovedForAll _ _ _) | .query (.allowance _ _ _) => some .allowances
  | .associate _ _ | .dissociate _ _ => if call.convention.isRedirect then some .hrcAssociate else none
  | _ => none

end ResolvedCall

section Families

theorem unflagged (moves : TokenMoves) (amounts : ∀ adjustment ∈ moves.adjustments, adjustment.approval = false)
    (serials : ∀ move ∈ moves.nftMoves, move.approval = false) : moves.flagged = false := by
  simp only [TokenMoves.flagged, Bool.or_eq_false_iff, List.any_eq_false, Bool.not_eq_true]
  exact ⟨amounts, serials⟩

theorem zip_with_forall {α β γ : Type} (make : α → β → γ) (good : γ → Prop)
    (made : ∀ left right, good (make left right)) (lefts : List α) (rights : List β) :
    ∀ item ∈ List.zipWith make lefts rights, good item := by
  intro item member
  obtain ⟨index, bound, rfl⟩ := List.mem_iff_getElem.mp member
  rw [List.getElem_zipWith]
  exact made _ _

theorem unflagged_family (selector : Selector) (entry : TransferEntry) (tokens : List TokenMoves)
    (convention : Convention) (other : entry ≠ .atomicTransfer) (plain : ∀ moves ∈ tokens, moves.flagged = false) :
    ResolvedCall.family? ⟨selector, .transfer entry [] tokens, convention⟩ = none := by
  refine if_neg fun belongs => ?_
  obtain same | some | flagged := belongs
  · exact other same
  · exact some rfl
  · obtain ⟨moves, member, flagged⟩ := List.any_eq_true.mp flagged
    rw [plain moves member] at flagged
    cases flagged

theorem plain_moves_unflagged (setting : CallSetting) (moves : Struct.plainMoves.Val) :
    (Struct.toPlainMoves setting moves).flagged = false :=
  unflagged _ (List.forall_mem_map.mpr fun _ _ => rfl) (List.forall_mem_map.mpr fun _ _ => rfl)

def OperationKind.family? (convention : Convention) : OperationKind → Option Family
  | .create => some .tokenCreate
  | .approve | .setApprovalForAll => some .allowances
  | .associate | .dissociate => if convention.isRedirect then some .hrcAssociate else none
  | _ => none

theorem kind_family (call : ResolvedCall) (kind : OperationKind) (told : call.operation.kind = kind)
    (moves : kind ≠ .transfer) (asks : kind ≠ .query) : call.family? = kind.family? call.convention := by
  obtain ⟨selector, operation, convention⟩ := call
  subst told
  cases operation with
  | transfer entry hbar tokens => exact absurd rfl moves
  | query question => exact absurd rfl asks
  | _ => rfl

theorem service_family (setting : CallSetting) (function : ServiceFunction) (values : Ty.Vals function.params)
    (selector : Selector) (operation : Operation) (given : function.operation setting values = .ok operation) :
    ResolvedCall.family? ⟨selector, operation, .direct⟩ = function.family? := by
  cases function with
  | cryptoTransfer =>
      cases given
      exact unflagged_family _ _ _ _ (by decide)
        (List.forall_mem_map.mpr fun moves _ => plain_moves_unflagged setting moves)
  | transferTokens =>
      obtain ⟨_, _, same⟩ := (except_bind_ok _ _ _).mp given
      cases same
      have plain := zip_with_forall
        (fun account amount => ({ account := setting.entity account, amount := amount } : Adjustment))
        (fun adjustment => adjustment.approval = false) (fun _ _ => rfl) values.2.1 values.2.2.1
      exact unflagged_family _ _ _ _ (by decide)
        (List.forall_mem_singleton.mpr (unflagged _ plain (List.forall_mem_nil _)))
  | transferNfts =>
      obtain ⟨_, _, given⟩ := (except_bind_ok _ _ _).mp given
      obtain ⟨_, _, same⟩ := (except_bind_ok _ _ _).mp given
      cases same
      have plain := zip_with_forall
        (fun (ends : Address × Address) serial =>
          ({ sender := setting.entity ends.1, receiver := setting.entity ends.2, serial := serial } : NftMove))
        (fun move => move.approval = false) (fun _ _ => rfl) (List.zip values.2.1 values.2.2.1) values.2.2.2.1
      exact unflagged_family _ _ _ _ (by decide)
        (List.forall_mem_singleton.mpr (unflagged _ (List.forall_mem_nil _) plain))
  | transferToken =>
      obtain ⟨token, sender, receiver, amount, ⟨⟩⟩ := values
      simp only [ServiceFunction.operation] at given
      split at given
      · cases given
        rfl
      · cases given
  | getTokenKey =>
      obtain ⟨token, mask, ⟨⟩⟩ := values
      simp only [ServiceFunction.operation] at given
      split at given
      · cases given
        rfl
      · cases given
  | getApproved =>
      obtain ⟨_, _, same⟩ := (except_bind_ok _ _ _).mp given
      cases same
      rfl
  | atomicTransfer | transferNft | isApprovedForAll | allowance | getTokenInfo | getFungibleTokenInfo
  | getNonFungibleTokenInfo | getTokenCustomFees | getTokenExpiryInfo | isToken | getTokenType =>
      cases given
      rfl
  | _ =>
      have told := kind_family ⟨selector, operation, .direct⟩ _
        (ServiceFunction.operation_kind setting _ values operation given)
      exact told (by rintro ⟨⟩) (by rintro ⟨⟩)

theorem facade_family (setting : CallSetting) (token : TokenId) (type : Option TokenType) (function : FacadeFunction)
    (values : Ty.Vals function.params) (selector : Selector) (explicit : Bool) (operation : Operation)
    (given : function.operation setting token type values = .ok operation) :
    ResolvedCall.family? ⟨selector, operation, .redirect token explicit⟩ = function.family? := by
  cases function with
  | ownerOf | tokenUri | getApproved =>
      obtain ⟨_, _, same⟩ := (except_bind_ok _ _ _).mp given
      cases same
      rfl
  | name | symbol | decimals | totalSupply | balanceOf | allowance | isApprovedForAll =>
      cases given
      rfl
  | _ =>
      have told := kind_family ⟨selector, operation, .redirect token explicit⟩ _
        (FacadeFunction.operation_kind setting token type _ values operation given)
      exact told (by rintro ⟨⟩) (by rintro ⟨⟩)

theorem dispatched_family (setting : CallSetting) (input : Bytes) (call : ResolvedCall)
    (dispatched : dispatch setting input = .ok (some call)) : call.family? = familyNamed? input := by
  cases dispatch_routes setting input call dispatched with
  | service selector function values operation bare named known enabled read given =>
      simp only [familyNamed?, bare, named, Option.bind_some, known]
      exact service_family setting function values selector operation given
  | facade redirect selector function values operation wrapped named known enabled fits read given =>
      simp only [familyNamed?, wrapped, named, Option.bind_some, known]
      exact facade_family setting _ _ function values selector redirect.explicit operation given

end Families

/-- A switch that is off bars the calls to functions of its family, whatever is behind their selector, and
bears on no other call. So what comes through never asks for anything of a family that is off. -/
theorem switch_bars_its_family_alone (setting : CallSetting) (input : Bytes) :
    dispatch setting input = (match setting.barred? (familyNamed? input) with
      | some family => .error (.disabled family)
      | none => dispatch setting.unlocked input) ∧
    ∀ call, dispatch setting input = .ok (some call) →
      call.family? = familyNamed? input ∧
        ∀ family, setting.config.enables family = false → call.family? ≠ some family := by
  refine ⟨dispatch_switch setting input, fun call dispatched => ?_⟩
  have family := dispatched_family setting input call dispatched
  refine ⟨family, fun off disabled belongs => ?_⟩
  have barred := dispatch_switch setting input
  rw [← family, belongs, dispatched] at barred
  simp only [CallSetting.barred?, disabled] at barred
  cases barred

namespace Sample

def curbed : CallSetting :=
  { sender := .ofNum 1001
    resolve := id
    tokenType? := fun _ => some .fungible
    config := { allowancesEnabled := false } }

def pauseCall : Bytes :=
  ServiceFunction.pauseToken.selector.toBytes ++ encode ServiceFunction.pauseToken.params ((2001 : Address), ())

end Sample

theorem curbed_calls :
    dispatch Sample.curbed ServiceFunction.approve.selector.toBytes = .error (.disabled .allowances) ∧
      dispatch Sample.curbed (Redirect.pack 2001 FacadeFunction.approve.selector.toBytes) =
        .error (.disabled .allowances) ∧
      ∃ call, dispatch Sample.curbed Sample.pauseCall = .ok (some call) ∧ call.family? ≠ some .allowances := by
  refine ⟨(switch_bars_its_family_alone Sample.curbed _).1.trans (by decide +kernel),
    (switch_bars_its_family_alone Sample.curbed _).1.trans (by decide +kernel), ?_⟩
  have read : dispatch Sample.curbed Sample.pauseCall =
      .ok (some ⟨ServiceFunction.pauseToken.selector, .pause (.ofAddress 2001), .direct⟩) := by decide +kernel
  exact ⟨_, read, ((switch_bars_its_family_alone Sample.curbed Sample.pauseCall).2 _ read).2 .allowances rfl⟩

end TokenService
