import TokenService.Proofs.Settlement.Guards

set_option autoImplicit false

namespace TokenService

namespace Service

section Exits

variable (service : Service) (host : Host) (frame : Frame) (input : Bytes)

inductive Exit : Settlement → Frame → Prop
  | stopped (stop : Stop) (early : service.prepare host frame input = .error stop) :
      Exit (stop.settlement service.config.defaultGasCost) (stop.frame frame)
  | unpaid (prepared : Prepared) (ready : service.prepare host frame input = .ok prepared)
      (dear : frame.remainingGas < (service.quote frame prepared).gas) :
      Exit { status := .insufficientGas, output := none, gas := (service.quote frame prepared).gas } frame
  | refused (prepared : Prepared) (refusal : Refusal) (ready : service.prepare host frame input = .ok prepared)
      (affordable : ¬ frame.remainingGas < (service.quote frame prepared).gas)
      (performed : service.perform host frame prepared = .ok (.error refusal)) (calm : refusal.revertReason = none) :
      Exit
        { status := refusal.status
          output := some (prepared.call.operation.encodeFailure refusal.status)
          gas := (service.quote frame prepared).gas } frame
  | failed (prepared : Prepared) (status : Status) (ready : service.prepare host frame input = .ok prepared)
      (affordable : ¬ frame.remainingGas < (service.quote frame prepared).gas)
      (performed : service.perform host frame prepared = .ok (.error (.failed status))) :
      Exit
        { status := status
          output := some (prepared.call.operation.encodeFailure status)
          gas := (service.quote frame prepared).gas
          revertReason := some status.name } (frame.revert status.name)
  | done (prepared : Prepared) (output : Bytes) (view : View)
      (ready : service.prepare host frame input = .ok prepared)
      (affordable : ¬ frame.remainingGas < (service.quote frame prepared).gas)
      (performed : service.perform host frame prepared = .ok (.ok (output, view))) :
      Exit { status := .success, output := some output, gas := (service.quote frame prepared).gas } frame

theorem prepared_stage (prepared : Prepared) (ready : service.prepare host frame input = .ok prepared) :
    prepared.stage.next.next = .finalized := by
  obtain ⟨ledger, call, _, _, rfl⟩ := (prepare_ok service host frame input prepared).mp ready
  rfl

theorem exits (settlement : Settlement) (result : (service.compute host frame input).result = .ok settlement) :
    service.Exit host frame input settlement (service.compute host frame input).frame := by
  unfold compute at result ⊢
  cases ready : service.prepare host frame input with
  | error stop =>
      rw [ready] at result
      cases result
      exact .stopped stop ready
  | ok prepared =>
      rw [ready] at result
      have stage := prepared_stage service host frame input prepared ready
      simp only [settle, stage] at result ⊢
      by_cases dear : frame.remainingGas < (service.quote frame prepared).gas
      · rw [if_pos dear] at result ⊢
        cases result
        exact .unpaid prepared ready dear
      · rw [if_neg dear] at result ⊢
        cases performed : service.perform host frame prepared with
        | error fault =>
            rw [performed] at result
            cases result
        | ok outcome =>
            rw [performed] at result
            cases outcome with
            | error refusal =>
                cases result
                cases refusal with
                | failed status => exact .failed prepared status ready dear performed
                | denied | malformed => exact .refused prepared _ ready dear performed rfl
            | ok finished =>
                simp only at result ⊢
                cases committed : finished.2.commit host.refuses with
                | error fault =>
                    rw [committed] at result
                    cases fault <;> cases result
                | ok effects =>
                    rw [committed] at result
                    cases result
                    exact .done prepared finished.1 finished.2 ready dear performed

theorem prepare_stops (stop : Stop) (early : service.prepare host frame input = .error stop) :
    service.guard host frame input = .error stop ∨
      ∃ ledger, service.guard host frame input = .ok ledger ∧
        ((∃ fault, dispatch (service.setting host frame { ledger := ledger }) input = .error fault ∧
            stop = fault.stop) ∨
          (dispatch (service.setting host frame { ledger := ledger }) input = .ok none ∧ stop = .noOperation)) := by
  unfold prepare at early
  cases guarded : service.guard host frame input with
  | error reason =>
      rw [guarded] at early
      cases early
      exact .inl rfl
  | ok ledger =>
      rw [guarded] at early
      refine .inr ⟨ledger, rfl, ?_⟩
      cases found : dispatch (service.setting host frame { ledger := ledger }) input with
      | error fault =>
          simp only [bind, Except.bind, found, map_error_error] at early
          cases early
          exact .inl ⟨fault, rfl, rfl⟩
      | ok call? =>
          simp only [bind, Except.bind, found, map_error_ok] at early
          cases call? with
          | none =>
              cases early
              exact .inr ⟨rfl, rfl⟩
          | some call => cases early

theorem prepare_reverts_iff :
    (∃ reason, service.prepare host frame input = .error (.revert reason)) ↔
      (∃ reason, service.guard host frame input = .error (.revert reason)) ∨
        ∃ ledger facade, service.guard host frame input = .ok ledger ∧
          dispatch (service.setting host frame { ledger := ledger }) input = .error (.unsupported facade) := by
  constructor
  · rintro ⟨reason, early⟩
    rcases prepare_stops service host frame input _ early with
      guarded | ⟨ledger, unguarded, ⟨fault, found, stop⟩ | ⟨_, stop⟩⟩
    · exact .inl ⟨reason, guarded⟩
    · cases fault with
      | unsupported facade => exact .inr ⟨ledger, facade, unguarded, found⟩
      | decode | disabled => cases stop
    · cases stop
  · rintro (⟨reason, guarded⟩ | ⟨ledger, facade, unguarded, found⟩)
    · exact ⟨reason, by simp only [prepare, guarded, bind, Except.bind]⟩
    · refine ⟨facade.refusal, ?_⟩
      simp only [prepare, unguarded, bind, Except.bind, found, map_error_error]
      rfl

structure Paid (prepared : Prepared) : Prop where
  ready : service.prepare host frame input = .ok prepared
  affordable : ¬ frame.remainingGas < (service.quote frame prepared).gas

-- What the frame that a call leaves and the settlement that it returns say of each other.
structure Coherent (settlement : Settlement) (ending : Frame) : Prop where
  halted_iff : ending.state = .halted ↔ settlement.stage = .halted
  halted : settlement.stage = .halted → ∃ reason, ending = frame.halt reason ∧ settlement.haltReason = some reason ∧
    settlement.revertReason = none ∧ settlement.output = none ∧ settlement.gas = service.config.defaultGasCost
  reverted_iff : ending.state = .reverted ↔ ∃ reason, settlement.revertReason = some reason
  reverted : ∀ reason, settlement.revertReason = some reason →
    ending = frame.revert reason ∧ settlement.stage = .finalized
  otherwise : ending.state = .running → ending = frame ∧ settlement.revertReason = none ∧
    settlement.haltReason = none ∧ settlement.stage = .finalized
  same : ending.revertReason = settlement.revertReason ∧ ending.haltReason = settlement.haltReason
  single : settlement.revertReason = none ∨ settlement.haltReason = none

-- How the settlement follows from the step at which the call ended.
structure Accounts (settlement : Settlement) (ending : Frame) : Prop where
  quoted : ∀ prepared, service.prepare host frame input = .ok prepared →
    settlement.gas = (service.quote frame prepared).gas
  unquoted : ∀ stop, service.prepare host frame input = .error stop →
    settlement.gas = service.config.defaultGasCost
  denied : ∀ prepared status, service.Paid host frame input prepared →
    (authority host frame).check (some prepared.view) prepared.transaction.body prepared.sender = .error status →
    settlement.status = status ∧ settlement.revertReason = none ∧ ending = frame
  malformed : ∀ prepared status, service.Paid host frame input prepared →
    (authority host frame).check (some prepared.view) prepared.transaction.body prepared.sender = .ok () →
    prepared.transaction.body.check service.config = .error status →
    settlement.status = status ∧ settlement.revertReason = none ∧ ending = frame
  failed : ∀ prepared failure, service.Paid host frame input prepared →
    (authority host frame).check (some prepared.view) prepared.transaction.body prepared.sender = .ok () →
    prepared.transaction.body.check service.config = .ok () → service.evaluate frame prepared = .error failure →
    (failure = .status settlement.status ∨ ∃ reason, failure = .other reason ∧ settlement.status = .failInvalid) ∧
      settlement.revertReason = some settlement.status.name ∧ ending = frame.revert settlement.status.name
  silent : settlement.output = none ↔
    (∃ reason, service.guard host frame input = .error (.revert reason)) ∨
      (∃ ledger facade, service.guard host frame input = .ok ledger ∧
        dispatch (service.setting host frame { ledger := ledger }) input = .error (.unsupported facade)) ∨
      settlement.stage = .halted ∨
      ∃ prepared, service.prepare host frame input = .ok prepared ∧
        frame.remainingGas < (service.quote frame prepared).gas

def Silent (settlement : Settlement) : Prop :=
  (∃ reason, service.prepare host frame input = .error (.revert reason)) ∨ settlement.stage = .halted ∨
    ∃ prepared, service.prepare host frame input = .ok prepared ∧ frame.remainingGas < (service.quote frame prepared).gas

variable {service host frame input} {settlement : Settlement} {ending : Frame}

theorem exit_coherent (running : frame.state = .running) (unreverted : frame.revertReason = none)
    (unhalted : frame.haltReason = none) (exit : service.Exit host frame input settlement ending) :
    service.Coherent frame settlement ending := by
  have quiet (told : Settlement) (revert : told.revertReason = none) (halt : told.haltReason = none)
      (stage : told.stage = .finalized) : service.Coherent frame told frame := by
    refine ⟨?_, ?_, ?_, ?_, fun _ => ⟨rfl, revert, halt, stage⟩, ⟨?_, ?_⟩, .inl revert⟩
    · rw [running, stage]
      exact ⟨(nomatch ·), (nomatch ·)⟩
    · rw [stage]
      exact (nomatch ·)
    · rw [running, revert]
      exact ⟨(nomatch ·), fun ⟨_, same⟩ => nomatch same⟩
    · rw [revert]
      exact fun _ same => nomatch same
    · rw [unreverted, revert]
    · rw [unhalted, halt]
  have reverting (told : Settlement) (reason : String) (revert : told.revertReason = some reason)
      (halt : told.haltReason = none) (stage : told.stage = .finalized) :
      service.Coherent frame told (frame.revert reason) := by
    refine ⟨?_, ?_, ⟨fun _ => ⟨reason, revert⟩, fun _ => rfl⟩, fun other same => ?_, (nomatch ·), ⟨revert.symm, ?_⟩,
      .inr halt⟩
    · rw [stage]
      exact ⟨(nomatch ·), (nomatch ·)⟩
    · rw [stage]
      exact (nomatch ·)
    · cases revert.symm.trans same
      exact ⟨rfl, stage⟩
    · exact unhalted.trans halt.symm
  cases exit with
  | stopped stop early =>
      cases stop with
      | revert reason => exact reverting _ reason rfl rfl rfl
      | halt reason =>
          refine ⟨⟨fun _ => rfl, fun _ => rfl⟩, fun _ => ⟨reason, rfl, rfl, rfl, rfl, rfl⟩,
            ⟨(nomatch ·), fun ⟨_, same⟩ => nomatch same⟩, (fun _ same => nomatch same), (nomatch ·), ⟨unreverted, rfl⟩,
            .inl rfl⟩
      | noOperation => exact quiet _ rfl rfl rfl
  | unpaid => exact quiet _ rfl rfl rfl
  | refused prepared refusal ready affordable performed calm => exact quiet _ rfl rfl rfl
  | failed prepared status ready affordable performed => exact reverting _ status.name rfl rfl rfl
  | done => exact quiet _ rfl rfl rfl

theorem exit_quoted (prepared : Prepared) (ready : service.prepare host frame input = .ok prepared)
    (exit : service.Exit host frame input settlement ending) : settlement.gas = (service.quote frame prepared).gas := by
  cases exit with
  | stopped stop early => cases early.symm.trans ready
  | unpaid other found | refused other _ found | failed other _ found | done other _ _ found =>
      cases found.symm.trans ready
      rfl

theorem exit_unquoted (stop : Stop) (early : service.prepare host frame input = .error stop)
    (exit : service.Exit host frame input settlement ending) : settlement.gas = service.config.defaultGasCost := by
  cases exit with
  | stopped other _ => cases other <;> rfl
  | unpaid _ found | refused _ _ found | failed _ _ found | done _ _ _ found => cases early.symm.trans found

theorem exit_performed (prepared : Prepared) (paid : service.Paid host frame input prepared)
    (exit : service.Exit host frame input settlement ending) :
    (∃ refusal, service.perform host frame prepared = .ok (.error refusal) ∧ settlement.status = refusal.status ∧
      settlement.revertReason = refusal.revertReason ∧
      ending = match refusal.revertReason with
        | some reason => frame.revert reason
        | none => frame) ∨
      ∃ done, service.perform host frame prepared = .ok (.ok done) := by
  cases exit with
  | stopped stop early => cases early.symm.trans paid.ready
  | unpaid other found dear =>
      cases found.symm.trans paid.ready
      exact absurd dear paid.affordable
  | refused other refusal found _ performed calm =>
      cases found.symm.trans paid.ready
      exact .inl ⟨refusal, performed, rfl, calm.symm, by rw [calm]⟩
  | failed other status found _ performed =>
      cases found.symm.trans paid.ready
      exact .inl ⟨.failed status, performed, rfl, rfl, rfl⟩
  | done other output view found _ performed =>
      cases found.symm.trans paid.ready
      exact .inr ⟨(output, view), performed⟩

theorem exit_refused (prepared : Prepared) (refusal : Refusal) (paid : service.Paid host frame input prepared)
    (performed : service.perform host frame prepared = .ok (.error refusal))
    (exit : service.Exit host frame input settlement ending) :
    settlement.status = refusal.status ∧ settlement.revertReason = refusal.revertReason ∧
      ending = match refusal.revertReason with
        | some reason => frame.revert reason
        | none => frame := by
  rcases exit_performed prepared paid exit with ⟨other, found, told⟩ | ⟨done, found⟩
  · cases found.symm.trans performed
    exact told
  · cases found.symm.trans performed

theorem exit_evaluated (prepared : Prepared) (failure : Failure) (paid : service.Paid host frame input prepared)
    (consent : (authority host frame).check (some prepared.view) prepared.transaction.body prepared.sender = .ok ())
    (form : prepared.transaction.body.check service.config = .ok ())
    (evaluated : service.evaluate frame prepared = .error failure)
    (exit : service.Exit host frame input settlement ending) :
    (failure = .status settlement.status ∨ ∃ reason, failure = .other reason ∧ settlement.status = .failInvalid) ∧
      settlement.revertReason = some settlement.status.name ∧ ending = frame.revert settlement.status.name := by
  have performs : service.perform host frame prepared = match failure with
      | .status status => .ok (.error (.failed status))
      | .other _ => .ok (.error (.failed .failInvalid))
      | .resourceLimit reason => .error (.resourceLimit reason)
      | .overflow overflow => .error (.overflow overflow) := by
    simp only [perform, consent, form, evaluated]
    cases failure <;> rfl
  rcases exit_performed prepared paid exit with ⟨refusal, found, told, reason, left⟩ | ⟨done, found⟩
  · cases failure with
    | status status =>
        cases performs.symm.trans found
        exact ⟨.inl (congrArg Failure.status told.symm), told ▸ reason, told ▸ left⟩
    | other other =>
        cases performs.symm.trans found
        exact ⟨.inr ⟨other, rfl, told⟩, told ▸ reason, told ▸ left⟩
    | resourceLimit | overflow => cases performs.symm.trans found
  · cases failure <;> cases performs.symm.trans found

theorem exit_silent (exit : service.Exit host frame input settlement ending) :
    settlement.output = none ↔ service.Silent host frame input settlement := by
  have spoken (prepared : Prepared) (output : Bytes) (ready : service.prepare host frame input = .ok prepared)
      (affordable : ¬ frame.remainingGas < (service.quote frame prepared).gas) (told : settlement.output = some output)
      (stage : settlement.stage = .finalized) : settlement.output = none ↔ service.Silent host frame input settlement := by
    rw [told, Silent, stage]
    refine ⟨(nomatch ·), ?_⟩
    rintro (⟨reason, early⟩ | halted | ⟨other, found, dear⟩)
    · cases early.symm.trans ready
    · cases halted
    · cases found.symm.trans ready
      exact absurd dear affordable
  cases exit with
  | stopped stop early =>
      cases stop with
      | revert reason => exact ⟨fun _ => .inl ⟨reason, early⟩, fun _ => rfl⟩
      | halt reason => exact ⟨fun _ => .inr (.inl rfl), fun _ => rfl⟩
      | noOperation =>
          refine ⟨(nomatch ·), ?_⟩
          rintro (⟨reason, found⟩ | halted | ⟨prepared, ready, _⟩)
          · cases early.symm.trans found
          · cases halted
          · cases early.symm.trans ready
  | unpaid prepared ready dear => exact ⟨fun _ => .inr (.inr ⟨prepared, ready, dear⟩), fun _ => rfl⟩
  | refused prepared refusal ready affordable => exact spoken prepared _ ready affordable rfl rfl
  | failed prepared status ready affordable => exact spoken prepared _ ready affordable rfl rfl
  | done prepared output view ready affordable => exact spoken prepared _ ready affordable rfl rfl

theorem exit_accounts (exit : service.Exit host frame input settlement ending) :
    service.Accounts host frame input settlement ending where
  quoted prepared ready := exit_quoted prepared ready exit
  unquoted stop early := exit_unquoted stop early exit
  denied prepared status paid dissent := by
    refine exit_refused prepared (.denied status) paid ?_ exit
    simp only [perform, dissent]
  malformed prepared status paid consent breach := by
    refine exit_refused prepared (.malformed status) paid ?_ exit
    simp only [perform, consent, breach]
  failed prepared failure paid consent form evaluated :=
    exit_evaluated prepared failure paid consent form evaluated exit
  silent := by
    rw [exit_silent exit, Silent, prepare_reverts_iff, or_assoc]

end Exits

end Service

/-- A call that returns a settlement on a fresh frame tells it and the frame the same. Both halt or neither does, with
one reason, no output and the default cost; both revert with one reason or neither does; and otherwise the frame stays
as it was. What was priced costs its quote and everything before that the default. Of the operations only one that the
rules or the ledger fail reverts, with the name of its status; and a call is without output when it reverts before an
operation is found, when it halts and when its gas is missing, and then alone. -/
theorem frame_and_settlement_agree (service : Service) (host : Host) (frame : Frame) (input : Bytes)
    (settlement : Settlement) (running : frame.state = .running) (unreverted : frame.revertReason = none)
    (unhalted : frame.haltReason = none) (result : (service.compute host frame input).result = .ok settlement) :
    service.Coherent frame settlement (service.compute host frame input).frame ∧
      service.Accounts host frame input settlement (service.compute host frame input).frame := by
  have exit := service.exits host frame input settlement result
  exact ⟨Service.exit_coherent running unreverted unhalted exit, Service.exit_accounts exit⟩

namespace Sample

def unrecorded : Host := { host ledger with keepsRecords := false }

end Sample

theorem uncovered_and_unrecorded_agree :
    (∃ settlement, (Sample.settled (Sample.payment 71)).result = .ok settlement ∧
      settlement.revertReason = some "INSUFFICIENT_TOKEN_BALANCE" ∧ settlement.haltReason = none ∧
      (Sample.settled (Sample.payment 71)).frame = Sample.frame.revert "INSUFFICIENT_TOKEN_BALANCE") ∧
    ∃ settlement,
      (Sample.service.compute Sample.unrecorded Sample.frame (Sample.payment 25)).result = .ok settlement ∧
      settlement.stage = .halted ∧ settlement.output = none ∧ settlement.gas = Sample.service.config.defaultGasCost := by
  constructor
  · have told : (Sample.settled (Sample.payment 71)).result.toOption.map Settlement.revertReason =
        some (some "INSUFFICIENT_TOKEN_BALANCE") := by decide +kernel
    obtain ⟨settlement, found, reason⟩ := Option.map_eq_some_iff.mp told
    have result := (to_option_some _ _).mp found
    obtain ⟨coherent, _⟩ := frame_and_settlement_agree (Service.native {} Sample.market .empty)
      (Sample.host Sample.ledger) Sample.frame (Sample.payment 71) settlement rfl rfl rfl result
    refine ⟨settlement, result, reason, ?_, (coherent.reverted _ reason).1⟩
    rcases coherent.single with none | none
    · cases none.symm.trans reason
    · exact none
  · obtain ⟨coherent, _⟩ := frame_and_settlement_agree Sample.service Sample.unrecorded Sample.frame
      (Sample.payment 25) _ rfl rfl rfl rfl
    have stage := coherent.halted_iff.mp (by decide +kernel)
    obtain ⟨_, _, _, _, silent, gas⟩ := coherent.halted stage
    exact ⟨_, rfl, stage, silent, gas⟩

end TokenService
