import TokenService.Proofs.Call.Routes
import TokenService.Proofs.Ledger.Definitions
import TokenService.Proofs.Settlement.Runs

set_option autoImplicit false

namespace TokenService

open Abi

structure FacadeRequest where
  function : FacadeFunction
  values : Ty.Vals function.params

def FacadeRequest.ofInput? (input : Bytes) : Option FacadeRequest :=
  match Redirect.unwrap input with
  | .ok (some redirect) => do
      let selector ← Selector.ofInput? redirect.nested
      let function ← FacadeFunction.ofSelector? selector
      match decode function.params (redirect.nested.drop 4) with
      | .ok values => some ⟨function, values⟩
      | .error _ => none
  | _ => none

theorem unwrap_wrapped (input : Bytes) (wrapped : Selector.ofInput? input = some .redirect) :
    Redirect.unwrap input ≠ .ok none := by
  unfold Redirect.unwrap
  rw [if_neg (not_not_intro wrapped)]
  split
  · exact (nomatch ·)
  · split
    · exact (nomatch ·)
    · exact (nomatch ·)

namespace Call

def sender (call : Call) : AccountId := .ofAddress (call.resolve call.frame.sender)

def entity (call : Call) (address : Address) : EntityId := .ofAddress (call.resolve address)

def setting (call : Call) (ledger : Ledger) : CallSetting :=
  { sender := call.sender
    resolve := call.resolve
    tokenType? := fun id => (ledger.tokens.get? id).map Token.type
    config := call.config }

def caller (call : Call) (ledger : Ledger) (operation : Operation) : Caller :=
  { sender := call.sender
    key := (ledger.accounts.get? call.sender).bind Account.key
    nftOwner := operation.approvedNftOwner { ledger := ledger } }

structure Redirects (call : Call) (id : TokenId) : Prop where
  wrapped : Selector.ofInput? call.input = some .redirect
  about : ∀ redirect, Redirect.unwrap call.input = .ok (some redirect) → call.entity redirect.token = id

theorem redirects_of_unwrapped (call : Call) (id : TokenId) (redirect : Redirect)
    (wrapped : Selector.ofInput? call.input = some .redirect)
    (unwrapped : (Redirect.unwrap call.input).toOption = some (some redirect))
    (named : call.entity redirect.token = id) : call.Redirects id where
  wrapped := wrapped
  about other again := by
    rw [again] at unwrapped
    cases unwrapped
    exact named

-- What a call to a facade has done: the operation of its request, and the answer where it is a
-- question.
structure Serves (call : Call) (ledger : Ledger) (id : TokenId) (request : FacadeRequest) (operation : Operation)
    (output : Bytes) (view : View) : Prop where
  asked : FacadeRequest.ofInput? call.input = some request
  fits : request.function.mismatch? ((ledger.tokens.get? id).map Token.type) = none
  given : request.function.operation (call.setting ledger) id ((ledger.tokens.get? id).map Token.type)
    request.values = .ok operation
  wellFormed : (operation.body (call.caller ledger operation)).check call.config = .ok ()
  done : Deeds call.sender call.frame.consensusTime (operation.body (call.caller ledger operation)).deeds
    { ledger := ledger } view
  answered : ∀ question, operation = .query question → ∃ answer explicit,
    (View.mk ledger {}).answer question = .ok answer ∧
      output = answer.encode (.redirect id explicit) call.config.ledgerId
  told : ∃ settlement, (call.settled ledger).result = .ok settlement ∧ settlement.output = some output
  after : call.after ledger = view.merged

theorem success_serves (call : Call) (ledger : Ledger) (rooted : ledger.Rooted) (id : TokenId)
    (redirects : call.Redirects id) (success : (call.settled ledger).succeeds) :
    ∃ request operation output view, call.Serves ledger id request operation output view := by
  have ends : (Service.native call.config call.market call.prices).Ends (call.host ledger) call.frame call.input
      (call.settled ledger) := Service.compute_ends _ _ _ _ rfl
  obtain ⟨other, resolved, view, takes⟩ := Service.success_takes _ _ _ _ _ ends success
  cases call.lends_own ledger other (guard_lent _ _ _ _ _ takes.passes.unguarded)
  obtain ⟨output, evaluated⟩ := takes.passes.evaluated
  have done := evaluated_deeds _ rfl _ _ ledger resolved output view rooted evaluated
  have base := deeds_ledger _ _ _ _ _ done
  obtain ⟨settlement, result, _⟩ := success
  have told := (success_told _ _ _ _ _ _ _ _ takes.passes evaluated settlement result).1
  have after : call.after ledger = view.merged := by
    rw [Call.after, Settled.ledgerAfter, takes.applied, View.merged, base]
  have wellFormed := takes.passes.wellFormed
  cases dispatch_routes _ _ _ takes.passes.dispatched with
  | service selector function values operation bare => exact absurd bare (unwrap_wrapped _ redirects.wrapped)
  | facade redirect selector function values operation wrapped named known enabled fits read given =>
      have about : EntityId.ofAddress (call.resolve redirect.token) = id := redirects.about redirect wrapped
      refine ⟨⟨function, values⟩, operation, output, view, ?_, ?_, ?_, wellFormed, done, ?_, ⟨_, result, told⟩, after⟩
      · simp only [FacadeRequest.ofInput?, wrapped, named, known, read, bind, Option.bind]
      · rw [← about]
        exact fits
      · rw [← about]
        exact given
      · rintro question rfl
        rw [Service.evaluate_query _ _ _ question rfl] at evaluated
        split at evaluated
        · rename_i answer answered
          cases evaluated
          refine ⟨answer, redirect.explicit, answered, ?_⟩
          rw [← about]
          rfl
        · cases evaluated

end Call

section Numbers

theorem native64_ok (argument : WideArgument) (number : Nat) (value : Int64)
    (fits : native64 argument number = .ok value) : value.toInt = number := by
  unfold native64 at fits
  split at fits
  · rename_i found
    cases fits
    exact (int64_some_iff _ _).mp found
  · cases fits

theorem native64_mapped {α : Type} (argument : WideArgument) (number : Nat) (build : Int64 → α) (result : α)
    (fits : ((native64 argument number).map build).mapError DispatchFault.decode = .ok result) :
    ∃ value : Int64, result = build value ∧ value.toInt = number := by
  have fits := (map_error_ok_iff _ _ _).mp fits
  cases found : native64 argument number with
  | ok value =>
      rw [found] at fits
      cases fits
      exact ⟨value, rfl, native64_ok _ _ _ found⟩
  | error fault =>
      rw [found] at fits
      cases fits

end Numbers

theorem facade_quiet (setting : CallSetting) (id : TokenId) (type : Option TokenType) (function : FacadeFunction)
    (values : Ty.Vals function.params) (operation : Operation) (caller : Caller)
    (given : function.operation setting id type values = .ok operation) :
    ∀ deed ∈ (operation.body caller).deeds, deed.definesToken = false := by
  refine quiet_deeds _ ?_
  cases function with
  | name | symbol | decimals | totalSupply | balanceOf | allowance | isApprovedForAll | setApprovalForAll | associate
  | dissociate =>
      cases given
      rfl
  | ownerOf | tokenUri | getApproved | transfer | transferFrom =>
      obtain ⟨_, _, given⟩ := (except_bind_ok _ _ _).mp given
      cases given
      rfl
  | approve =>
      obtain ⟨asset, _, given⟩ := (except_bind_ok _ _ _).mp given
      cases given
      cases asset with
      | amount units => rfl
      | serial serial =>
          simp only [Operation.body, nftApproval]
          split <;> rfl

section Served

variable (call : Call) (ledger : Ledger) (id : TokenId) (request : FacadeRequest) (operation : Operation)
  (output : Bytes) (view : View) (serves : call.Serves ledger id request operation output view)
include serves

theorem served_rooted (rooted : ledger.Rooted) : (call.after ledger).Rooted := by
  rw [serves.after]
  refine Deeds.keeps (fun view => view.merged.Rooted) _ _ _
    (fun deed _ first next does kept => deed_rooted _ _ deed first next does kept) serves.done ?_
  rwa [View.fresh_merged]

theorem served_token (other : TokenId) : (call.after ledger).tokens.get? other = ledger.tokens.get? other := by
  rw [serves.after, View.merged_token]
  exact quiet_token_rows _ _ _ _ _ (facade_quiet _ _ _ _ _ operation _ serves.given) serves.done other

theorem served_question (question : Query) (asked : operation = .query question) :
    view = { ledger := ledger } := by
  have done := serves.done
  rw [asked, query_deeds] at done
  cases done
  rfl

end Served

namespace Sample

def facade (token : TokenId) (function : FacadeFunction) (values : Ty.Vals function.params) : Call :=
  call (Redirect.wrap token.toAddress (function.selector.toBytes ++ encode function.params values))

end Sample

end TokenService
