import TokenService.Proofs.Ledger.TokenRows
import TokenService.Proofs.Settlement.Founding

set_option autoImplicit false

namespace TokenService

namespace Call

variable (call : Call) (ledger : Ledger)

structure Executes (body : Body) (outcome : Execution) (view : View) : Prop where
  performs : call.Performs ledger body
  wellFormed : body.check call.config = .ok ()
  run : (Work.execute body call.sender call.frame.consensusTime).Yields { ledger := ledger } outcome view
  after : call.after ledger = ledger.apply view.changes

theorem performed (body : Body) (performs : call.Performs ledger body) :
    (body.deeds = [] ∧ call.after ledger = ledger) ∨ ∃ outcome view, call.Executes ledger body outcome view := by
  have success := performs.succeeds
  obtain ⟨other, lent⟩ := success_lent _ _ _ _ (call.settled ledger) (Service.compute_ends _ _ _ _ rfl) success
  cases call.lends_own ledger other lent
  obtain ⟨resolved, view, takes⟩ := success_takes_lent _ _ _ _ _ _ _ (call.settled ledger) lent rfl success
  obtain ⟨output, evaluated⟩ := takes.passes.evaluated
  obtain ⟨record, recorded⟩ := takes.recorded
  have about := performs.recorded
  rw [Call.recorded, recorded, Option.map_some] at about
  cases about
  have after : call.after ledger = ledger.apply view.changes := by
    rw [Call.after, Settled.ledgerAfter, takes.applied]
  by_cases asked : ∃ question, resolved.operation = .query question
  · -- An answer comes with the view that was asked, which has nothing staged.
    obtain ⟨question, asked⟩ := asked
    rw [Service.evaluate_query _ _ _ question asked] at evaluated
    split at evaluated
    · cases evaluated
      refine .inl ⟨?_, after.trans (View.fresh_merged ledger)⟩
      simp only [Service.ready, Operation.transaction, asked]
      exact query_deeds question _
    · cases evaluated
  · obtain ⟨outcome, run, _⟩ := evaluated_yields _ rfl _ _ _ _ output view
      (fun question same => asked ⟨question, same⟩) evaluated
    exact .inr ⟨outcome, _, performs, takes.passes.wellFormed, run, after⟩

theorem success_performs (success : (call.settled ledger).succeeds) : ∃ body, call.Performs ledger body := by
  obtain ⟨other, lent⟩ := success_lent _ _ _ _ (call.settled ledger) (Service.compute_ends _ _ _ _ rfl) success
  obtain ⟨resolved, view, takes⟩ := success_takes_lent _ _ _ _ _ _ _ (call.settled ledger) lent rfl success
  obtain ⟨record, recorded⟩ := takes.recorded
  exact ⟨_, success, congrArg (Option.map _) recorded⟩

theorem after_executed :
    call.after ledger = ledger ∨ ∃ body outcome view, call.Executes ledger body outcome view := by
  by_cases success : (call.settled ledger).succeeds
  · obtain ⟨body, performs⟩ := call.success_performs ledger success
    rcases call.performed ledger body performs with ⟨_, same⟩ | ⟨outcome, view, executes⟩
    · exact .inl same
    · exact .inr ⟨body, outcome, view, executes⟩
  · exact .inl (call.failure_after ledger success)

inductive Registers : Prop
  | alike (same : ∀ id, (call.after ledger).tokens.get? id = ledger.tokens.get? id)
  | rewrites (body : Body) (row : Token)
      (performs : call.Performs ledger body)
      (wellFormed : body.check call.config = .ok ())
      (written : body.Rewrites { ledger := ledger } row)
      (rows : ∀ id, (call.after ledger).tokens.get? id = if id = row.id then some row else ledger.tokens.get? id)

theorem registers : call.Registers ledger := by
  rcases call.after_executed ledger with same | ⟨body, outcome, view, executes⟩
  · exact .alike fun id => by rw [same]
  · have merged (base : view.ledger = ledger) (id : TokenId) :
        (call.after ledger).tokens.get? id = view.token id := by
      rw [executes.after, ← base]
      exact View.merged_token view id
    rcases Work.execute_token_rows _ _ _ _ _ _ executes.run with same | ⟨row, written, rewritten⟩
    · obtain ⟨base, rows⟩ := Prod.mk.inj same
      exact .alike fun id => (merged base id).trans (congrFun rows id)
    · exact .rewrites body row executes.performs executes.wellFormed written fun id =>
        (merged rewritten.base id).trans (rewritten.rows id)

end Call

def Ledger.AllRows (ledger : Ledger) (Fine : Token → Prop) : Prop :=
  ∀ id row, ledger.tokens.get? id = some row → Fine row

theorem after_rows (Fine : Token → Prop) (call : Call) (ledger : Ledger) (fine : ledger.AllRows Fine)
    (made : ∀ body row, call.Performs ledger body → body.check call.config = .ok () →
      body.Rewrites { ledger := ledger } row → Fine row) :
    (call.after ledger).AllRows Fine := by
  intro id found present
  cases call.registers ledger with
  | alike same => exact fine id found ((same id).symm.trans present)
  | rewrites body row performs wellFormed written rows =>
      rw [rows] at present
      split at present
      · cases present
        exact made body _ performs wellFormed written
      · exact fine id found present

theorem after_all_keeps (Keep : Ledger → Prop) (calls : List Call) (ledger : Ledger)
    (step : ∀ moment ∈ calls.zip (history calls ledger), Keep moment.2 → Keep (moment.1.after moment.2))
    (start : Keep ledger) : Keep (afterAll calls ledger) := by
  induction calls generalizing ledger with
  | nil => exact start
  | cons call rest ih =>
      exact ih _ (fun moment member => step moment (List.mem_cons_of_mem _ member))
        (step (call, ledger) List.mem_cons_self start)

theorem supplies_stay (calls : List Call) (ledger : Ledger)
    (floor : ledger.AllRows fun row => 0 ≤ row.totalSupply.toInt) :
    (afterAll calls ledger).AllRows fun row => 0 ≤ row.totalSupply.toInt := by
  refine after_all_keeps (fun ledger => ledger.AllRows fun row => 0 ≤ row.totalSupply.toInt) calls ledger
    (fun moment _ fine => after_rows _ moment.1 moment.2 fine ?_) floor
  intro body row performs wellFormed written
  cases written with
  | mint order token supply last found floor => exact floor
  | burn order token supply found floor => exact floor
  | wipe order token supply found floor => exact floor
  | pause id token found => exact fine id token found
  | unpause id token found => exact fine id token found
  | create order id now => exact (creation_of_check _ order wellFormed).floor
  | update order token found => exact fine order.token token found

section Questions

-- A question that a successful call comes to, and the bytes that it is answered with; there are no
-- more of them than can be addressed.
structure Call.Learns (call : Call) (ledger : Ledger) (convention : Convention) (question : Query) (output : Bytes) :
    Prop where
  succeeds : (call.settled ledger).succeeds
  asks : ∃ selector, dispatch (call.setting ledger) call.input = .ok (some ⟨selector, .query question, convention⟩)
  returns : call.output? ledger = some output
  room : output.length < UInt64.size

theorem learns_answer (call : Call) (ledger : Ledger) (convention : Convention) (question : Query) (output : Bytes)
    (learns : call.Learns ledger convention question output) :
    ∃ answer, (View.mk ledger {}).answer question = .ok answer ∧
      output = answer.encode convention call.config.ledgerId := by
  have ends : (Service.native call.config call.market call.prices).Ends (call.host ledger) call.frame call.input
      (call.settled ledger) := Service.compute_ends _ _ _ _ rfl
  obtain ⟨other, resolved, view, takes⟩ := Service.success_takes _ _ _ _ _ ends learns.succeeds
  cases call.lends_own ledger other (guard_lent _ _ _ _ _ takes.passes.unguarded)
  obtain ⟨found, evaluated⟩ := takes.passes.evaluated
  obtain ⟨selector, asks⟩ := learns.asks
  cases asks.symm.trans takes.passes.dispatched
  obtain ⟨settlement, result, _⟩ := learns.succeeds
  have told := (success_told _ _ _ _ _ _ _ _ takes.passes evaluated settlement result).1
  have returns := learns.returns
  rw [Call.output?, result] at returns
  cases Option.some.inj (told.symm.trans returns)
  rw [Service.evaluate_query _ _ _ question rfl] at evaluated
  split at evaluated
  · rename_i answer answered
    cases evaluated
    exact ⟨answer, answered, rfl⟩
  · cases evaluated

end Questions

end TokenService
