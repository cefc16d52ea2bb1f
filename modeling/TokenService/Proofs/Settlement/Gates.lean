import TokenService.Proofs.Form
import TokenService.Settlement.Compute

set_option autoImplicit false

namespace TokenService

structure Settled.Idle (settled : Settled) : Prop where
  unrecorded : settled.record = none
  unoffered : settled.offered = []
  unapplied : settled.applied = none

namespace Service

def native (config : Config) (market : Market) (prices : PriceTable) : Service :=
  { config := config, rules := Work.execute, market := market, prices := prices }

-- Every gate lets a call on a ledger pass: the guards, the dispatch to an operation, the gas, the
-- consent of those concerned, the form of the transaction, and the answer or the rules.
structure Passes (service : Service) (host : Host) (frame : Frame) (input : Bytes) (ledger : Ledger)
    (call : ResolvedCall) (view : View) : Prop where
  unguarded : service.guard host frame input = .ok ledger
  dispatched : dispatch (service.setting host frame { ledger := ledger }) input = .ok (some call)
  affordable : (service.quote frame (service.ready host frame ledger call)).gas ≤ frame.remainingGas
  permitted : (authority host frame).check (some { ledger := ledger })
    (service.ready host frame ledger call).transaction.body (service.ready host frame ledger call).sender = .ok ()
  wellFormed : (service.ready host frame ledger call).transaction.body.check service.config = .ok ()
  evaluated : ∃ output, service.evaluate frame (service.ready host frame ledger call) = .ok (output, view)

inductive Ends (service : Service) (host : Host) (frame : Frame) (input : Bytes) (settled : Settled) : Prop
  | taken (ledger : Ledger) (call : ResolvedCall) (view : View) (settlement : Settlement)
      (passes : service.Passes host frame input ledger call view)
      (accepted : host.refuses view.changes = none)
      (offered : settled.offered = [view.changes])
      (applied : settled.applied = some view.changes)
      (result : settled.result = .ok settlement)
      (success : settlement.status = .success)
      (price : settlement.gas = (service.quote frame (service.ready host frame ledger call)).gas)
      (recorded : ∃ record, settled.record = some (record, (service.ready host frame ledger call).transaction))
  | refused (ledger : Ledger) (call : ResolvedCall) (view : View) (reason : String)
      (passes : service.Passes host frame input ledger call view)
      (rejected : host.refuses view.changes = some reason)
      (offered : settled.offered = [view.changes])
      (applied : settled.applied = none)
      (result : settled.result = .error (.store reason))
  | stopped
      (closed : ∀ ledger call view, ¬ service.Passes host frame input ledger call view)
      (offered : settled.offered = [])
      (applied : settled.applied = none)
      (result : ∀ settlement, settled.result = .ok settlement → settlement.status ≠ .success)
  | overflowed (operation : Overflow)
      (offered : settled.offered = [])
      (applied : settled.applied = none)
      (result : settled.result = .error (.overflow operation))

section Preparation

variable (service : Service) (host : Host) (frame : Frame) (input : Bytes)

theorem stop_unsuccessful (stop : Stop) (gas : UInt64) : (stop.settlement gas).status ≠ .success := by
  cases stop with
  | revert reason => exact fun same => nomatch same
  | halt reason => cases reason <;> exact fun same => nomatch same
  | noOperation => exact fun same => nomatch same

theorem prepare_ok (prepared : Prepared) :
    service.prepare host frame input = .ok prepared ↔
      ∃ ledger call, service.guard host frame input = .ok ledger ∧
        dispatch (service.setting host frame { ledger := ledger }) input = .ok (some call) ∧
        prepared = service.ready host frame ledger call := by
  unfold prepare
  cases guarded : service.guard host frame input with
  | error stop => simp [bind, Except.bind]
  | ok ledger =>
      cases found : dispatch (service.setting host frame { ledger := ledger }) input with
      | error fault =>
          simp only [bind, Except.bind, found, map_error_error, reduceCtorEq, false_iff, Except.ok.injEq]
          rintro ⟨_, call, rfl, found', _⟩
          rw [found] at found'
          cases found'
      | ok call? =>
          cases call? with
          | none =>
              simp only [bind, Except.bind, found, map_error_ok, throw, throwThe, MonadExceptOf.throw, reduceCtorEq,
                false_iff, Except.ok.injEq]
              rintro ⟨_, call, rfl, found', _⟩
              rw [found] at found'
              cases found'
          | some call =>
              simp only [bind, Except.bind, found, map_error_ok, pure, Except.pure, Except.ok.injEq]
              constructor
              · rintro rfl
                exact ⟨ledger, call, rfl, found, rfl⟩
              · rintro ⟨_, other, rfl, found', rfl⟩
                rw [found] at found'
                cases found'
                rfl

theorem compute_cases :
    (∃ stop, service.prepare host frame input = .error stop ∧ (service.compute host frame input).Idle) ∨
      ∃ ledger call, service.prepare host frame input = .ok (service.ready host frame ledger call) ∧
        service.guard host frame input = .ok ledger ∧
        dispatch (service.setting host frame { ledger := ledger }) input = .ok (some call) ∧
        service.compute host frame input = service.settle host frame (service.ready host frame ledger call) := by
  unfold compute
  cases prepared : service.prepare host frame input with
  | error stop => exact .inl ⟨stop, rfl, rfl, rfl, rfl⟩
  | ok found =>
      obtain ⟨ledger, call, unguarded, dispatched, rfl⟩ := (prepare_ok service host frame input found).mp prepared
      exact .inr ⟨ledger, call, rfl, unguarded, dispatched, rfl⟩

end Preparation

section Performance

variable (service : Service) (host : Host) (frame : Frame) (prepared : Prepared)

theorem evaluate_query (question : Query) (asked : prepared.call.operation = .query question) :
    service.evaluate frame prepared = match prepared.view.answer question with
      | .ok answer => .ok (answer.encode prepared.call.convention service.config.ledgerId, prepared.view)
      | .error status => .error (.status status) := by
  unfold evaluate
  cases answer : prepared.view.answer question with
  | ok row => simp only [asked, answer]
  | error status => simp only [asked, answer]

theorem evaluate_change (change : ∀ question, prepared.call.operation ≠ .query question) :
    service.evaluate frame prepared =
      match service.rules prepared.transaction.body prepared.sender frame.consensusTime prepared.view with
      | (.ok execution, view) =>
          .ok (prepared.call.operation.encodeExecution prepared.call.convention execution, view)
      | (.error failure, _) => .error failure := by
  unfold evaluate
  split
  · rename_i question asked
    exact absurd asked (change question)
  · rfl

inductive Performance : Except SettlementFault (Except Refusal (Bytes × View)) → Prop
  | done (output : Bytes) (view : View)
      (consent : (authority host frame).check (some prepared.view) prepared.transaction.body prepared.sender = .ok ())
      (form : prepared.transaction.body.check service.config = .ok ())
      (evaluated : service.evaluate frame prepared = .ok (output, view)) :
      Performance (.ok (.ok (output, view)))
  | denied (status : Status)
      (dissent : (authority host frame).check (some prepared.view) prepared.transaction.body prepared.sender =
        .error status) :
      Performance (.ok (.error (.denied status)))
  | malformed (status : Status)
      (breach : prepared.transaction.body.check service.config = .error status) :
      Performance (.ok (.error (.malformed status)))
  | failed (status : Status)
      (failure : service.evaluate frame prepared = .error (.status status)) :
      Performance (.ok (.error (.failed status)))
  | broken (reason : String)
      (failure : service.evaluate frame prepared = .error (.other reason)) :
      Performance (.ok (.error (.failed .failInvalid)))
  | exhausted (reason : String)
      (failure : service.evaluate frame prepared = .error (.resourceLimit reason)) :
      Performance (.error (.resourceLimit reason))
  | overflowed (operation : Overflow)
      (failure : service.evaluate frame prepared = .error (.overflow operation)) :
      Performance (.error (.overflow operation))

theorem performance : service.Performance host frame prepared (service.perform host frame prepared) := by
  unfold perform
  cases consent : (authority host frame).check (some prepared.view) prepared.transaction.body prepared.sender with
  | error status => exact .denied status consent
  | ok =>
      cases form : prepared.transaction.body.check service.config with
      | error status => exact .malformed status form
      | ok =>
          cases outcome : service.evaluate frame prepared with
          | ok done => exact .done done.1 done.2 consent form outcome
          | error failure =>
              cases failure with
              | status status => exact .failed status outcome
              | other reason => exact .broken reason outcome
              | resourceLimit reason => exact .exhausted reason outcome
              | overflow operation => exact .overflowed operation outcome

theorem evaluate_candid (native : service.rules = Work.execute) :
    service.evaluate frame prepared ≠ .error (.status .success) := by
  by_cases asked : ∃ question, prepared.call.operation = .query question
  · obtain ⟨question, asked⟩ := asked
    have candid := View.answer_candid prepared.view question
    rw [evaluate_query _ _ _ question asked]
    cases answer : prepared.view.answer question with
    | ok value => exact fun same => nomatch same
    | error status =>
        intro same
        cases same
        exact candid answer
  · have change : ∀ question, prepared.call.operation ≠ .query question :=
      fun question same => asked ⟨question, same⟩
    have candid := Work.execute_candid prepared.transaction.body prepared.sender frame.consensusTime prepared.view
    rw [evaluate_change _ _ _ change, native]
    cases run : Work.execute prepared.transaction.body prepared.sender frame.consensusTime prepared.view with
    | mk result view =>
        cases result with
        | ok execution => exact fun same => nomatch same
        | error failure =>
            rw [run] at candid
            intro same
            cases same
            exact candid rfl

theorem refusal_candid (native : service.rules = Work.execute) (refusal : Refusal)
    (refused : service.perform host frame prepared = .ok (.error refusal)) : refusal.status ≠ .success := by
  have performed := performance service host frame prepared
  rw [refused] at performed
  cases performed with
  | denied status dissent => exact fun success => check_candid _ _ _ _ (dissent.trans (congrArg Except.error success))
  | malformed status breach => exact fun success => body_check_candid _ _ (breach.trans (congrArg Except.error success))
  | failed status failure =>
      rintro (rfl : status = .success)
      exact evaluate_candid _ _ _ native failure
  | broken reason failure => exact fun success => nomatch success

end Performance

section Settlement

variable (service : Service) (host : Host) (frame : Frame) (input : Bytes)

theorem passes_prepared (ledger : Ledger) (call : ResolvedCall) (view : View) (prepared : Prepared)
    (ready : service.prepare host frame input = .ok prepared)
    (passes : service.Passes host frame input ledger call view) :
    prepared = service.ready host frame ledger call := by
  have same := (prepare_ok service host frame input _).mpr
    ⟨ledger, call, passes.unguarded, passes.dispatched, rfl⟩
  rw [ready] at same
  cases same
  rfl

theorem passes_performs (ledger : Ledger) (call : ResolvedCall) (output : Bytes) (view : View)
    (passes : service.Passes host frame input ledger call view)
    (evaluated : service.evaluate frame (service.ready host frame ledger call) = .ok (output, view)) :
    service.perform host frame (service.ready host frame ledger call) = .ok (.ok (output, view)) := by
  unfold perform
  rw [show (service.ready host frame ledger call).view = { ledger := ledger } from rfl, passes.permitted]
  simp only [passes.wellFormed, evaluated]

theorem compute_ends (native : service.rules = Work.execute) :
    service.Ends host frame input (service.compute host frame input) := by
  unfold compute
  cases ready : service.prepare host frame input with
  | error stop =>
      refine .stopped (fun ledger call view passes => ?_) rfl rfl fun settlement same => ?_
      · have found := (prepare_ok service host frame input _).mpr
          ⟨ledger, call, passes.unguarded, passes.dispatched, rfl⟩
        rw [ready] at found
        cases found
      · cases same
        exact stop_unsuccessful stop _
  | ok prepared =>
      obtain ⟨ledger, call, unguarded, dispatched, rfl⟩ := (prepare_ok service host frame input _).mp ready
      unfold settle
      -- From here on the prepared operation is the only one that could pass, so each failing gate
      -- closes the call.
      by_cases dear : frame.remainingGas < (service.quote frame (service.ready host frame ledger call)).gas
      · simp only [if_pos dear]
        refine .stopped (fun other call' view passes => ?_) rfl rfl fun settlement same => ?_
        · have affordable := passes.affordable
          rw [← passes_prepared _ _ _ _ _ _ _ _ ready passes] at affordable
          exact absurd dear (UInt64.not_lt.mpr affordable)
        · cases same
          exact fun same => nomatch same
      · simp only [if_neg dear]
        have affordable := UInt64.not_lt.mp dear
        have closed (barred : ∀ output view,
            service.perform host frame (service.ready host frame ledger call) ≠ .ok (.ok (output, view))) :
            ∀ other call' view, ¬ service.Passes host frame input other call' view := by
          intro other call' view passes
          obtain ⟨output, evaluated⟩ := passes.evaluated
          have performs := passes_performs _ _ _ _ _ _ _ _ passes evaluated
          rw [← passes_prepared _ _ _ _ _ _ _ _ ready passes] at performs
          exact barred output view performs
        have performed := performance service host frame (service.ready host frame ledger call)
        cases outcome : service.perform host frame (service.ready host frame ledger call) with
        | error fault =>
            rw [outcome] at performed closed
            cases performed with
            | exhausted reason failure =>
                exact .stopped (closed fun _ _ same => nomatch same) rfl rfl fun _ same => nomatch same
            | overflowed operation failure => exact .overflowed operation rfl rfl rfl
        | ok ended =>
            cases ended with
            | error refusal =>
                have candid := refusal_candid service host frame _ native refusal outcome
                rw [outcome] at closed
                refine .stopped (closed fun _ _ same => nomatch same) rfl rfl fun settlement same => ?_
                cases same
                exact candid
            | ok done =>
                rw [outcome] at performed
                cases performed with
                | done output view consent form evaluated =>
                    have passes : service.Passes host frame input ledger call view :=
                      ⟨unguarded, dispatched, affordable, consent, form, output, evaluated⟩
                    simp only [View.commit]
                    cases view.changes.effects view.ledger with
                    | error overflow => exact .overflowed overflow rfl rfl rfl
                    | ok effects =>
                        cases verdict : host.refuses view.changes with
                        | some reason => exact .refused ledger call view reason passes verdict rfl rfl rfl
                        | none => exact .taken ledger call view _ passes verdict rfl rfl rfl rfl rfl ⟨_, rfl⟩

end Settlement

end Service

end TokenService
