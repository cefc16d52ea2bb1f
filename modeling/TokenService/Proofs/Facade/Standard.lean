import TokenService.Proofs.Facade.Requests
import TokenService.Proofs.Facade.Simulation

set_option autoImplicit false

namespace TokenService

structure Standard (σ ε : Type) where
  look : Ledger → TokenId → σ
  meaning : Call → FacadeRequest → ε
  Does : ε → σ → σ → Prop
  answer : σ → ε → Option Bytes
  idle : ε
  stays : ∀ state, Does idle state state
  silent : ∀ state, answer state idle = none

namespace Standard

variable {σ ε : Type} (standard : Standard σ ε)

-- What a call has done: the event of its request, and nothing where it does not succeed.
def event (call : Call) (ledger : Ledger) : ε :=
  if (call.settled ledger).succeeds then
    ((FacadeRequest.ofInput? call.input).map (standard.meaning call)).getD standard.idle
  else standard.idle

structure Met (call : Call) (ledger : Ledger) (id : TokenId) : Prop where
  does : standard.Does (standard.event call ledger) (standard.look ledger id) (standard.look (call.after ledger) id)
  answers : ∀ told, standard.answer (standard.look ledger id) (standard.event call ledger) = some told →
    ∃ settlement, (call.settled ledger).result = .ok settlement ∧ settlement.output = some told

structure Served (call : Call) (ledger : Ledger) (id : TokenId) (request : FacadeRequest) (output : Bytes)
    (after : Ledger) : Prop where
  does : standard.Does (standard.meaning call request) (standard.look ledger id) (standard.look after id)
  answers : ∀ told, standard.answer (standard.look ledger id) (standard.meaning call request) = some told →
    output = told

section Requests

variable (call : Call) (ledger : Ledger) (id : TokenId) (request : FacadeRequest) (output : Bytes)

theorem idle_served (after : Ledger) (idle : standard.meaning call request = standard.idle)
    (same : standard.look after id = standard.look ledger id) :
    standard.Served call ledger id request output after where
  does := by
    rw [idle, same]
    exact standard.stays _
  answers told asked := by
    rw [idle, standard.silent] at asked
    cases asked

theorem question_served (view : View) (question : Query)
    (serves : call.Serves ledger id request (.query question) output view)
    (does : standard.Does (standard.meaning call request) (standard.look ledger id) (standard.look ledger id))
    (answers : ∀ answer explicit told, (View.mk ledger {}).answer question = .ok answer →
      standard.answer (standard.look ledger id) (standard.meaning call request) = some told →
      answer.encode (.redirect id explicit) call.config.ledgerId = told) :
    standard.Served call ledger id request output view.merged := by
  cases served_question call ledger id request _ output view serves question rfl
  rw [View.fresh_merged]
  refine ⟨does, fun told asked => ?_⟩
  obtain ⟨answer, explicit, answered, rfl⟩ := serves.answered question rfl
  exact answers answer explicit told answered asked

end Requests

variable (id : TokenId) (Keep : Ledger → Prop) (rooted : ∀ ledger, Keep ledger → ledger.Rooted)
  (served : ∀ (call : Call) ledger request operation output view,
    call.Serves ledger id request operation output view → Keep ledger →
    standard.Served call ledger id request output (call.after ledger) ∧ Keep (call.after ledger))
include rooted served

theorem call_meets (call : Call) (redirects : call.Redirects id) (ledger : Ledger) (kept : Keep ledger) :
    standard.Met call ledger id ∧ Keep (call.after ledger) := by
  by_cases success : (call.settled ledger).succeeds
  · obtain ⟨request, operation, output, view, serves⟩ :=
      call.success_serves ledger (rooted ledger kept) id redirects success
    obtain ⟨⟨does, answers⟩, still⟩ := served call ledger request operation output view serves kept
    have event : standard.event call ledger = standard.meaning call request := by
      rw [Standard.event, if_pos success, serves.asked]
      rfl
    rw [← event] at does answers
    refine ⟨⟨does, fun told asked => ?_⟩, still⟩
    obtain ⟨settlement, result, returned⟩ := serves.told
    exact ⟨settlement, result, returned.trans (congrArg some (answers told asked))⟩
  · have idle : standard.event call ledger = standard.idle := if_neg success
    have unchanged := call.failure_after ledger success
    refine ⟨⟨?_, fun told asked => ?_⟩, unchanged.symm ▸ kept⟩
    · rw [idle, unchanged]
      exact standard.stays _
    · rw [idle, standard.silent] at asked
      cases asked

/-- A facade that serves its requests by a standard meets it call by call, and so run by run. -/
theorem calls_meet (calls : List Call) (redirected : ∀ call ∈ calls, call.Redirects id) (ledger : Ledger)
    (start : Keep ledger) :
    (∀ entry ∈ calls.zip (history calls ledger), Keep entry.2 ∧ standard.Met entry.1 entry.2 id) ∧
      Keep (afterAll calls ledger) ∧
      Run standard.Does (events standard.event calls ledger) (standard.look ledger id)
        (standard.look (afterAll calls ledger) id) := by
  have step (call : Call) (member : call ∈ calls) (later : Ledger) (kept : Keep later) :=
    call_meets standard id Keep rooted served call (redirected call member) later kept
  refine ⟨each_call Keep calls (fun call later => standard.Met call later id) step ledger start, ?_⟩
  refine calls_run (fun later => standard.look later id) standard.event standard.Does Keep calls ?_ ledger start
  intro call member later kept
  obtain ⟨met, still⟩ := step call member later kept
  exact ⟨met.does, still⟩

end Standard

end TokenService
