import TokenService.Proofs.Ledger.Execution
import TokenService.Proofs.Settlement.Atomicity

set_option autoImplicit false

namespace TokenService

theorem guard_lent (service : Service) (host : Host) (frame : Frame) (input : Bytes) (ledger : Ledger)
    (unguarded : service.guard host frame input = .ok ledger) : host.ledger = some ledger := by
  unfold Service.guard at unguarded
  split at unguarded
  · cases unguarded
  · split at unguarded
    · cases unguarded
    · split at unguarded
      · cases unguarded
      · split at unguarded
        · rename_i lent _
          cases unguarded
          exact lent
        · cases unguarded

theorem success_lent (service : Service) (host : Host) (frame : Frame) (input : Bytes) (settled : Settled)
    (ends : service.Ends host frame input settled) (success : settled.succeeds) :
    ∃ ledger, host.ledger = some ledger := by
  obtain ⟨ledger, call, view, takes⟩ := service.success_takes host frame input settled ends success
  exact ⟨ledger, guard_lent _ _ _ _ _ takes.passes.unguarded⟩

theorem query_deeds (question : Query) (caller : Caller) : ((Operation.query question).body caller).deeds = [] := by
  cases question <;> rfl

theorem deeds_ledger (sender : AccountId) (now : Timestamp) (deeds : List Deed) (before after : View)
    (done : Deeds sender now deeds before after) : after.ledger = before.ledger :=
  Deeds.keeps (fun view => view.ledger = before.ledger) deeds before after
    (fun deed _ first next does kept => (deed_ledger sender now deed first next does).trans kept) done rfl

def Host.sender (host : Host) (frame : Frame) : AccountId := .ofAddress (host.resolve frame.sender)

structure Settled.Carries (settled : Settled) (config : Config) (host : Host) (frame : Frame) (ledger : Ledger)
    (body : Body) (view : View) : Prop where
  recorded : ∃ record transaction, settled.record = some (record, transaction) ∧ transaction.body = body
  permitted : (Service.authority host frame).check (some { ledger := ledger }) body (host.sender frame) = .ok ()
  wellFormed : body.check config = .ok ()
  done : Deeds (host.sender frame) frame.consensusTime body.deeds { ledger := ledger } view
  accepted : host.refuses view.changes = none
  after : settled.ledgerAfter ledger = view.merged
  next : (settled.ledgerAfter ledger).nextEntity = ledger.nextEntity + view.changes.entitiesCreated

theorem evaluated_yields (service : Service) (native : service.rules = Work.execute) (host : Host) (frame : Frame)
    (ledger : Ledger) (call : ResolvedCall) (output : Bytes) (view : View)
    (change : ∀ question, call.operation ≠ .query question)
    (evaluated : service.evaluate frame (service.ready host frame ledger call) = .ok (output, view)) :
    ∃ execution, (Work.execute (service.ready host frame ledger call).transaction.body (host.sender frame)
        frame.consensusTime).Yields { ledger := ledger } execution view ∧
      output = call.operation.encodeExecution call.convention execution := by
  rw [Service.evaluate_change _ _ _ change, native] at evaluated
  split at evaluated
  · rename_i execution after run
    cases evaluated
    exact ⟨execution, run, rfl⟩
  · cases evaluated

theorem evaluated_deeds (service : Service) (native : service.rules = Work.execute) (host : Host) (frame : Frame)
    (ledger : Ledger) (call : ResolvedCall) (output : Bytes) (view : View) (rooted : ledger.Rooted)
    (evaluated : service.evaluate frame (service.ready host frame ledger call) = .ok (output, view)) :
    Deeds (host.sender frame) frame.consensusTime (service.ready host frame ledger call).transaction.body.deeds
      { ledger := ledger } view := by
  by_cases asked : ∃ question, call.operation = .query question
  · obtain ⟨question, asked⟩ := asked
    rw [Service.evaluate_query _ _ _ question asked] at evaluated
    have bare : (service.ready host frame ledger call).transaction.body.deeds = [] := by
      simp only [Service.ready, Operation.transaction, asked]
      exact query_deeds question _
    rw [bare]
    split at evaluated
    · cases evaluated
      exact .nil _
    · cases evaluated
  · have change : ∀ question, call.operation ≠ .query question := fun question same => asked ⟨question, same⟩
    have fresh : (View.mk ledger {}).merged.Rooted := by
      rw [View.fresh_merged]
      exact rooted
    obtain ⟨execution, run, _⟩ := evaluated_yields service native host frame ledger call output view change evaluated
    exact Work.execute_deeds _ _ _ _ _ execution fresh run

theorem commit_effects (view : View) (refuses : Changes → Option String) (effects : Effects)
    (committed : view.commit refuses = .ok effects) : view.changes.effects view.ledger = .ok effects := by
  unfold View.commit at committed
  split at committed
  · cases committed
  · rename_i found told
    split at committed
    · cases committed
    · cases committed
      exact told

theorem success_concluded (service : Service) (host : Host) (frame : Frame) (input : Bytes) (ledger : Ledger)
    (call : ResolvedCall) (output : Bytes) (view : View) (passes : service.Passes host frame input ledger call view)
    (evaluated : service.evaluate frame (service.ready host frame ledger call) = .ok (output, view))
    (settlement : Settlement) (result : (service.compute host frame input).result = .ok settlement) :
    settlement.output = some output ∧ ∃ effects, view.changes.effects view.ledger = .ok effects ∧
      (service.compute host frame input).record = some (service.record frame (service.ready host frame ledger call)
        .success (some effects) output settlement.gas) := by
  have ready := (Service.prepare_ok service host frame input _).mpr
    ⟨ledger, call, passes.unguarded, passes.dispatched, rfl⟩
  have performed := Service.passes_performs _ _ _ _ _ _ _ _ passes evaluated
  unfold Service.compute at result ⊢
  rw [ready] at result ⊢
  simp only [Service.settle, if_neg (UInt64.not_lt.mpr passes.affordable), performed] at result ⊢
  cases committed : view.commit host.refuses with
  | error fault =>
      rw [committed] at result
      cases fault <;> cases result
  | ok effects =>
      rw [committed] at result
      cases result
      exact ⟨rfl, effects, commit_effects view _ effects committed, rfl⟩

theorem success_told (service : Service) (host : Host) (frame : Frame) (input : Bytes) (ledger : Ledger)
    (call : ResolvedCall) (output : Bytes) (view : View) (passes : service.Passes host frame input ledger call view)
    (evaluated : service.evaluate frame (service.ready host frame ledger call) = .ok (output, view))
    (settlement : Settlement) (result : (service.compute host frame input).result = .ok settlement) :
    settlement.output = some output ∧ ∃ record effects,
      (service.compute host frame input).record = some (record, (service.ready host frame ledger call).transaction) ∧
      view.changes.effects view.ledger = .ok effects ∧ record.hbarTransfers = effects.hbarTransfers ∧
      record.tokenTransfers = effects.tokenTransfers := by
  obtain ⟨returned, effects, told, recorded⟩ :=
    success_concluded service host frame input ledger call output view passes evaluated settlement result
  exact ⟨returned, _, effects, recorded, told, rfl, rfl⟩

section Successes

variable (config : Config) (market : Market) (prices : PriceTable) (host : Host) (frame : Frame) (input : Bytes)
  (ledger : Ledger) (settled : Settled)

theorem success_takes_lent (lent : host.ledger = some ledger)
    (computed : settled = (Service.native config market prices).compute host frame input)
    (success : settled.succeeds) :
    ∃ call view, (Service.native config market prices).Takes host frame input settled ledger call view := by
  have ends : (Service.native config market prices).Ends host frame input settled := by
    rw [computed]
    exact Service.compute_ends _ _ _ _ rfl
  obtain ⟨other, call, view, takes⟩ := Service.success_takes _ host frame input settled ends success
  cases (guard_lent _ _ _ _ _ takes.passes.unguarded).symm.trans lent
  exact ⟨call, view, takes⟩

theorem takes_carries (rooted : ledger.Rooted) (call : ResolvedCall) (view : View)
    (takes : (Service.native config market prices).Takes host frame input settled ledger call view) :
    settled.Carries config host frame ledger
      ((Service.native config market prices).ready host frame ledger call).transaction.body view := by
  obtain ⟨output, evaluated⟩ := takes.passes.evaluated
  have done := evaluated_deeds _ rfl host frame ledger call output view rooted evaluated
  have base := deeds_ledger _ _ _ _ _ done
  obtain ⟨record, recorded⟩ := takes.recorded
  refine ⟨⟨record, _, recorded, rfl⟩, takes.passes.permitted, takes.passes.wellFormed, done, takes.accepted, ?_, ?_⟩
  · rw [Settled.ledgerAfter, takes.applied, View.merged, base]
  · rw [Settled.ledgerAfter, takes.applied]
    rfl

theorem success_carries (lent : host.ledger = some ledger) (rooted : ledger.Rooted)
    (computed : settled = (Service.native config market prices).compute host frame input)
    (success : settled.succeeds) :
    ∃ body view, settled.Carries config host frame ledger body view := by
  obtain ⟨call, view, takes⟩ :=
    success_takes_lent config market prices host frame input ledger settled lent computed success
  exact ⟨_, view, takes_carries config market prices host frame input ledger settled rooted call view takes⟩

end Successes

namespace Sample

theorem ledger_rooted : ledger.Rooted := rooted_of_rows ledger (by decide) (by decide) (by decide)

theorem ledger_numbered : ledger.Numbered ledger.nextEntity.toNat :=
  numbered_of_rows ledger _ (by decide) (by decide) (by decide)

end Sample

end TokenService
