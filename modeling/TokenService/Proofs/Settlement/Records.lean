import TokenService.Proofs.Form
import TokenService.Proofs.Settlement.Overflow

set_option autoImplicit false

namespace TokenService

theorem body_function (caller : Caller) (operation : Operation) :
    (operation.body caller).function = operation.function := by
  cases operation with
  | approve token spender asset =>
      cases asset with
      | amount units => rfl
      | serial serial =>
          simp only [Operation.body, nftApproval, Operation.function]
          split <;> rfl
  | query question => cases question <;> rfl
  | _ => rfl

namespace Record

structure Bare (record : Record) : Prop where
  token : record.receipt.token = none
  newTotalSupply : record.receipt.newTotalSupply = none
  serials : record.receipt.serials = []
  hbarTransfers : record.hbarTransfers = []
  tokenTransfers : record.tokenTransfers = []
  associations : record.associations = []

structure Reports (record : Record) (config : Config) (frame : Frame) (settlement : Settlement) : Prop where
  status : record.receipt.status = settlement.status
  memo : record.memo = ""
  time : record.consensusTime = frame.consensusTime
  bare : settlement.status ≠ .success → record.Bare
  exported : record.details.isSome = config.exportResults
  gas : ∀ details, record.details = some details → details.gasUsed = settlement.gas
  output : ∀ details, record.details = some details → details.result = settlement.output.getD []
  message : ∀ details, record.details = some details →
    details.errorMessage = if settlement.status = .success then none else some settlement.status.name

theorem conclude_status (status : Status) (effects : Effects) (memo : String) (time : Timestamp)
    (details : Option CallDetails) : (conclude status effects memo time details).receipt.status = status := by
  unfold conclude
  split <;> rfl

theorem conclude_memo (status : Status) (effects : Effects) (memo : String) (time : Timestamp)
    (details : Option CallDetails) : (conclude status effects memo time details).memo = memo := by
  unfold conclude
  split <;> rfl

theorem conclude_time (status : Status) (effects : Effects) (memo : String) (time : Timestamp)
    (details : Option CallDetails) : (conclude status effects memo time details).consensusTime = time := by
  unfold conclude
  split <;> rfl

theorem conclude_details (status : Status) (effects : Effects) (memo : String) (time : Timestamp)
    (details : Option CallDetails) : (conclude status effects memo time details).details = details := by
  unfold conclude
  split <;> rfl

theorem conclude_bare (status : Status) (memo : String) (time : Timestamp) (details : Option CallDetails) :
    (conclude status {} memo time details).Bare := by
  unfold conclude
  split <;> exact ⟨rfl, rfl, rfl, rfl, rfl, rfl⟩

end Record

namespace Service

section Records

variable (service : Service) (host : Host) (frame : Frame) (prepared : Prepared)

-- The effects and the error message both hang on whether there are effects to report, so this has
-- to say the same as the status.
theorem record_reports (settlement : Settlement) (effects : Option Effects) (memo : prepared.transaction.memo = "")
    (effective : effects.isSome = true ↔ settlement.status = .success) :
    (service.record frame prepared settlement.status effects (settlement.output.getD []) settlement.gas).1.Reports
      service.config frame settlement := by
  have details : (service.record frame prepared settlement.status effects (settlement.output.getD [])
      settlement.gas).1.details =
      if service.config.exportResults then
        some { contract := serviceContract
               result := settlement.output.getD []
               errorMessage := if effects.isSome then none else some settlement.status.name
               gasUsed := settlement.gas
               sender := prepared.sender }
      else none := Record.conclude_details _ _ _ _ _
  refine ⟨?_, ?_, ?_, fun failed => ?_, ?_, fun entry found => ?_, fun entry found => ?_, fun entry found => ?_⟩
  · exact Record.conclude_status _ _ _ _ _
  · exact (Record.conclude_memo _ _ _ _ _).trans memo
  · exact Record.conclude_time _ _ _ _ _
  · cases effects with
    | some reported => exact absurd (effective.mp rfl) failed
    | none => exact Record.conclude_bare _ _ _ _
  · rw [details]
    cases service.config.exportResults <;> rfl
  all_goals
    rw [details] at found
    split at found
    · cases found
      simp only [← effective]
    · cases found

theorem settle_recorded (native : service.rules = Work.execute) (memo : prepared.transaction.memo = "")
    (settlement : Settlement) (result : (service.settle host frame prepared).result = .ok settlement) :
    ∃ record, (service.settle host frame prepared).record = some (record, prepared.transaction) ∧
      record.Reports service.config frame settlement := by
  unfold settle at result ⊢
  simp only at result ⊢
  split at result
  · rename_i dear
    rw [if_pos dear]
    cases result
    exact ⟨_, rfl, service.record_reports frame prepared
      { status := .insufficientGas, output := none, gas := _ } none memo ⟨(nomatch ·), (nomatch ·)⟩⟩
  · rename_i affordable
    rw [if_neg affordable]
    cases performed : service.perform host frame prepared with
    | error fault =>
        rw [performed] at result
        cases result
    | ok outcome =>
        rw [performed] at result
        cases outcome with
        | ok done =>
            obtain ⟨output, view⟩ := done
            simp only at result ⊢
            cases committed : view.commit host.refuses with
            | error fault =>
                rw [committed] at result
                cases fault <;> cases result
            | ok effects =>
                rw [committed] at result
                cases result
                exact ⟨_, rfl, service.record_reports frame prepared
                  { status := .success, output := some output, gas := _, stage := _ } (some effects) memo
                  ⟨fun _ => rfl, fun _ => rfl⟩⟩
        | error refusal =>
            have candid := service.refusal_candid host frame prepared native refusal performed
            cases result
            exact ⟨_, rfl, service.record_reports frame prepared
              { status := refusal.status, output := some _, gas := _, revertReason := refusal.revertReason, stage := _ }
              none memo ⟨(nomatch ·), fun success => absurd success candid⟩⟩

theorem settle_unrecorded (fault : SettlementFault) (result : (service.settle host frame prepared).result = .error fault) :
    (service.settle host frame prepared).record = none := by
  unfold settle at result ⊢
  simp only at result ⊢
  split at result
  · cases result
  · rename_i affordable
    rw [if_neg affordable]
    cases performed : service.perform host frame prepared with
    | error broken => rfl
    | ok outcome =>
        rw [performed] at result
        cases outcome with
        | ok done =>
            obtain ⟨output, view⟩ := done
            simp only at result ⊢
            cases committed : view.commit host.refuses with
            | error broken => cases broken <;> rfl
            | ok effects =>
                rw [committed] at result
                cases result
        | error refusal => cases result

theorem compute_unrecorded (input : Bytes) (fault : SettlementFault)
    (result : (service.compute host frame input).result = .error fault) :
    (service.compute host frame input).record = none := by
  rcases service.compute_cases host frame input with ⟨_, _, idle⟩ | ⟨ledger, call, _, _, _, settles⟩
  · exact idle.unrecorded
  · rw [settles] at result ⊢
    exact service.settle_unrecorded host frame _ fault result

end Records

end Service

def Host.caller (host : Host) (frame : Frame) (ledger : Ledger) (operation : Operation) : Caller :=
  { sender := host.sender frame
    key := (ledger.accounts.get? (host.sender frame)).bind Account.key
    nftOwner := operation.approvedNftOwner { ledger := ledger } }

/-- A call has a record exactly when it comes to an operation and returns. The record then comes with the transaction
of that operation, whose native function is the operation's, and agrees with what is returned. A call that breaks off
where a number leaves its range does not return. -/
theorem settled_operations_recorded (config : Config) (market : Market) (prices : PriceTable) (host : Host)
    (frame : Frame) (input : Bytes) (settled : Settled)
    (computed : settled = (Service.native config market prices).compute host frame input) :
    (∀ fault, settled.result = .error fault → settled.record = none) ∧
      ((∀ ledger call, (Service.native config market prices).guard host frame input = .ok ledger →
        dispatch ((Service.native config market prices).setting host frame { ledger := ledger }) input ≠
          .ok (some call)) → settled.record = none) ∧
      ∀ ledger call settlement, (Service.native config market prices).guard host frame input = .ok ledger →
        dispatch ((Service.native config market prices).setting host frame { ledger := ledger }) input =
          .ok (some call) →
        settled.result = .ok settlement →
        ∃ record, settled.record =
            some (record, call.operation.transaction (host.caller frame ledger call.operation)) ∧
          (call.operation.transaction (host.caller frame ledger call.operation)).body.function =
            call.operation.function ∧
          record.Reports config frame settlement := by
  subst computed
  refine ⟨Service.compute_unrecorded _ host frame input, ?_⟩
  rcases (Service.native config market prices).compute_cases host frame input with
    ⟨stop, stopped, idle⟩ | ⟨lent, resolved, _, unguarded, dispatched, settles⟩
  · refine ⟨fun _ => idle.unrecorded, fun ledger call _ guarded found _ => ?_⟩
    have prepared := (Service.prepare_ok _ host frame input _).mpr ⟨ledger, call, guarded, found, rfl⟩
    rw [stopped] at prepared
    cases prepared
  · rw [settles]
    refine ⟨fun none => ?_, fun ledger call settlement guarded found result => ?_⟩
    · exact absurd dispatched (none lent resolved unguarded)
    · cases unguarded.symm.trans guarded
      cases dispatched.symm.trans found
      obtain ⟨record, recorded, reports⟩ := Service.settle_recorded _ host frame _ rfl rfl settlement result
      exact ⟨record, recorded, body_function _ _, reports⟩

namespace Sample

def exporting : Settled :=
  (Service.native { exportResults := true } market .empty).compute (host ledger) frame (payment 71)

end Sample

theorem refused_payment_recorded :
    ∃ record transaction details, Sample.exporting.record = some (record, transaction) ∧
      transaction.body.function = .cryptoTransfer ∧ record.Bare ∧ record.details = some details ∧
      details.errorMessage = some "INSUFFICIENT_TOKEN_BALANCE" := by
  obtain ⟨_, _, records⟩ := settled_operations_recorded { exportResults := true } Sample.market .empty
    (Sample.host Sample.ledger) Sample.frame (Sample.payment 71) Sample.exporting rfl
  have refused : Sample.exporting.result.toOption.map Settlement.status = some .insufficientTokenBalance := by
    decide +kernel
  cases result : Sample.exporting.result with
  | error fault =>
      rw [result] at refused
      cases refused
  | ok settlement =>
      rw [result] at refused
      have status : settlement.status = .insufficientTokenBalance := Option.some.inj refused
      have dispatched : (dispatch ((Service.native { exportResults := true } Sample.market .empty).setting
          (Sample.host Sample.ledger) Sample.frame { ledger := Sample.ledger }) (Sample.payment 71)).toOption =
          some (some ⟨ServiceFunction.transferToken.selector,
            .transfer .transferToken [] [{ token := Sample.coin
                                           adjustments := [{ account := Sample.holder, amount := -71 },
                                             { account := Sample.friend, amount := 71 }] }], .direct⟩) := by
        decide +kernel
      obtain ⟨record, recorded, function, reports⟩ :=
        records Sample.ledger _ settlement rfl ((to_option_some _ _).mp dispatched) result
      have failed : settlement.status ≠ .success := by
        rw [status]
        decide
      obtain ⟨details, exported⟩ := Option.isSome_iff_exists.mp (reports.exported : record.details.isSome = true)
      refine ⟨record, _, details, recorded, function, reports.bare failed, exported, ?_⟩
      rw [reports.message details exported, if_neg failed, status]
      rfl

theorem overflowing_transfer_unrecorded :
    ¬ ∀ (config : Config) (market : Market) (prices : PriceTable) (host : Host) (frame : Frame) (input : Bytes)
      (ledger : Ledger) (call : ResolvedCall),
      (Service.native config market prices).guard host frame input = .ok ledger →
      dispatch ((Service.native config market prices).setting host frame { ledger := ledger }) input =
        .ok (some call) →
      (∀ fault, ((Service.native config market prices).compute host frame input).result = .error fault →
        ∃ operation, fault = .overflow operation) →
      ((Service.native config market prices).compute host frame input).record ≠ none := by
  intro always
  have broken := Sample.foundering_overflows
  have dispatched : ∃ call, dispatch ((Service.native {} Sample.market .empty).setting (Sample.host Sample.ledger)
      Sample.frame { ledger := Sample.ledger }) Sample.foundering = .ok (some call) := by
    have found : ((dispatch ((Service.native {} Sample.market .empty).setting (Sample.host Sample.ledger) Sample.frame
        { ledger := Sample.ledger }) Sample.foundering).toOption.bind id).isSome = true := by
      decide +kernel
    obtain ⟨call, found⟩ := Option.isSome_iff_exists.mp found
    obtain ⟨inner, outer, same⟩ := Option.bind_eq_some_iff.mp found
    cases (show inner = some call from same)
    exact ⟨call, (to_option_some _ _).mp outer⟩
  obtain ⟨call, dispatched⟩ := dispatched
  refine always {} Sample.market .empty (Sample.host Sample.ledger) Sample.frame Sample.foundering Sample.ledger call
    rfl dispatched (fun fault failed => ?_) ?_
  · cases broken.symm.trans failed
    exact ⟨.negate, rfl⟩
  · exact Service.compute_unrecorded _ _ _ _ _ broken

end TokenService
