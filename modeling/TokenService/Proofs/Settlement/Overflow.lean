import TokenService.Proofs.Call.Routes
import TokenService.Proofs.Ledger.Committing
import TokenService.Proofs.Ledger.Overflow
import TokenService.Proofs.Settlement.Success

set_option autoImplicit false

namespace TokenService

structure Ledger.Roomy (ledger : Ledger) : Prop extends ledger.Afloat where
  supplies : ∀ id row, ledger.tokens.get? id = some row → 0 ≤ row.totalSupply.toInt
  hbarLent : ∀ id row spender amount, ledger.accounts.get? id = some row →
    row.hbarAllowances.get? spender = some amount → 0 ≤ amount.toInt
  unitsLent : ∀ id row delegate amount, ledger.accounts.get? id = some row →
    row.tokenAllowances.get? delegate = some amount → 0 ≤ amount.toInt
  serials : ∀ id row, ledger.tokens.get? id = some row → row.lastUsedSerial.toInt < 4611686018427387904
  numbers : ledger.nextEntity.toNat < 4611686018427387904

namespace Service

-- Every gate before the rules lets a call on a ledger pass.
structure Admits (service : Service) (host : Host) (frame : Frame) (input : Bytes) (ledger : Ledger)
    (call : ResolvedCall) : Prop where
  unguarded : service.guard host frame input = .ok ledger
  dispatched : dispatch (service.setting host frame { ledger := ledger }) input = .ok (some call)
  affordable : (service.quote frame (service.ready host frame ledger call)).gas ≤ frame.remainingGas
  permitted : (authority host frame).check (some { ledger := ledger })
    (service.ready host frame ledger call).transaction.body (service.ready host frame ledger call).sender = .ok ()
  wellFormed : (service.ready host frame ledger call).transaction.body.check service.config = .ok ()

section Stages

variable (service : Service) (host : Host) (frame : Frame) (prepared : Prepared) (operation : Overflow)

theorem perform_overflows :
    service.perform host frame prepared = .error (.overflow operation) ↔
      (authority host frame).check (some prepared.view) prepared.transaction.body prepared.sender = .ok () ∧
        prepared.transaction.body.check service.config = .ok () ∧
        service.evaluate frame prepared = .error (.overflow operation) := by
  unfold perform
  cases (authority host frame).check (some prepared.view) prepared.transaction.body prepared.sender with
  | error status => simp
  | ok =>
      cases prepared.transaction.body.check service.config with
      | error status => simp
      | ok =>
          cases service.evaluate frame prepared with
          | ok done => simp
          | error failure => cases failure <;> simp

theorem perform_done (output : Bytes) (view : View)
    (performed : service.perform host frame prepared = .ok (.ok (output, view))) :
    prepared.transaction.body.check service.config = .ok () ∧
      service.evaluate frame prepared = .ok (output, view) := by
  have performance := performance service host frame prepared
  rw [performed] at performance
  cases performance with
  | done _ _ _ form evaluated => exact ⟨form, evaluated⟩

theorem settle_overflows
    (told : ∀ output view, service.perform host frame prepared = .ok (.ok (output, view)) →
      ∃ effects, view.changes.effects view.ledger = .ok effects) :
    (service.settle host frame prepared).result = .error (.overflow operation) ↔
      (service.quote frame prepared).gas ≤ frame.remainingGas ∧
        service.perform host frame prepared = .error (.overflow operation) := by
  unfold settle
  by_cases dear : frame.remainingGas < (service.quote frame prepared).gas
  · simp only [if_pos dear]
    exact iff_of_false (nomatch ·) fun ⟨affordable, _⟩ => absurd dear (UInt64.not_lt.mpr affordable)
  · simp only [if_neg dear]
    rw [and_iff_right (UInt64.not_lt.mp dear)]
    cases performed : service.perform host frame prepared with
    | error fault => simp
    | ok outcome =>
        cases outcome with
        | error refusal => simp
        | ok done =>
            obtain ⟨effects, found⟩ := told done.1 done.2 performed
            simp only [View.commit, found]
            cases host.refuses done.2.changes <;> simp

theorem evaluate_overflows (native : service.rules = Work.execute) :
    service.evaluate frame prepared = .error (.overflow operation) ↔
      (∀ question, prepared.call.operation ≠ .query question) ∧
        (Work.execute prepared.transaction.body prepared.sender frame.consensusTime).Overflows prepared.view
          operation := by
  by_cases asked : ∃ question, prepared.call.operation = .query question
  · obtain ⟨question, asked⟩ := asked
    refine iff_of_false (fun fault => ?_) fun ⟨change, _⟩ => change question asked
    rw [evaluate_query _ _ _ question asked] at fault
    split at fault <;> cases fault
  · have change : ∀ question, prepared.call.operation ≠ .query question :=
      fun question same => asked ⟨question, same⟩
    rw [evaluate_change _ _ _ change, native, and_iff_right change]
    unfold Work.Overflows
    cases Work.execute prepared.transaction.body prepared.sender frame.consensusTime prepared.view with
    | mk result view => cases result <;> simp

theorem evaluate_afloat (native : service.rules = Work.execute) (afloat : prepared.view.Afloat)
    (wellFormed : prepared.transaction.body.check service.config = .ok ()) (output : Bytes) (view : View)
    (evaluated : service.evaluate frame prepared = .ok (output, view)) : view.Afloat := by
  by_cases asked : ∃ question, prepared.call.operation = .query question
  · obtain ⟨question, asked⟩ := asked
    rw [evaluate_query _ _ _ question asked] at evaluated
    split at evaluated
    · cases evaluated
      exact afloat
    · cases evaluated
  · have change : ∀ question, prepared.call.operation ≠ .query question :=
      fun question same => asked ⟨question, same⟩
    rw [evaluate_change _ _ _ change, native] at evaluated
    split at evaluated
    · rename_i execution after run
      cases evaluated
      exact (Work.execute_careful _ _ wellFormed _ _ _ _ _ afloat run).1
    · cases evaluated

end Stages

end Service

theorem mint_operation (caller : Caller) (operation : Operation) (order : Mint)
    (mints : operation.body caller = .mint order) : ∃ generation, operation = .mint order generation := by
  cases operation with
  | mint other generation =>
      cases mints
      exact ⟨generation, rfl⟩
  | approve token spender asset =>
      cases asset with
      | amount units => cases mints
      | serial serial =>
          simp only [Operation.body, nftApproval] at mints
          split at mints <;> cases mints
  | query question => cases question <;> cases mints
  | _ => cases mints

theorem roomy_serials (service : Service) (host : Host) (frame : Frame) (input : Bytes) (ledger : Ledger)
    (roomy : ledger.Roomy) (addressable : input.length < UInt64.size) (call : ResolvedCall)
    (dispatched : dispatch (service.setting host frame { ledger := ledger }) input = .ok (some call)) (order : Mint)
    (mints : (service.ready host frame ledger call).transaction.body = .mint order) (token : Token)
    (usable : (View.mk ledger {}).usableToken order.token = .ok token) :
    token.lastUsedSerial.toInt + order.metadata.length ≤ Int64.maxValue.toInt := by
  obtain ⟨generation, mints⟩ := mint_operation _ _ _ mints
  have fits := route_mint_fits _ _ _ order generation (dispatch_routes _ _ _ dispatched) mints
  have low := roomy.serials order.token token ((View.usable_token_ok _ _ _).mp usable).1
  have size : UInt64.size = 18446744073709551616 := rfl
  have high : Int64.maxValue.toInt = 9223372036854775807 := by decide
  omega

/-- On a ledger with room, a call leaves the range of numbers exactly when every gate before the rules lets it pass
and its transaction is a transfer that founders on an approved debit of the least amount. -/
theorem overflows_iff_transfer_founders (config : Config) (market : Market) (prices : PriceTable) (host : Host)
    (frame : Frame) (input : Bytes) (roomy : ∀ ledger, host.ledger = some ledger → ledger.Roomy)
    (addressable : input.length < UInt64.size) (operation : Overflow) :
    ((Service.native config market prices).compute host frame input).result = .error (.overflow operation) ↔
      operation = .negate ∧ ∃ ledger call hbar tokens,
        (Service.native config market prices).Admits host frame input ledger call ∧
          ((Service.native config market prices).ready host frame ledger call).transaction.body =
            .transfer hbar tokens ∧
          Work.Founders (host.sender frame) hbar tokens { ledger := ledger } := by
  generalize serves : Service.native config market prices = service
  have native : service.rules = Work.execute := by
    rw [← serves]
    rfl
  unfold Service.compute
  cases ready : service.prepare host frame input with
  | error stop =>
      refine iff_of_false (nomatch ·) ?_
      rintro ⟨_, ledger, call, hbar, tokens, admits, _⟩
      have found := (Service.prepare_ok service host frame input _).mpr
        ⟨ledger, call, admits.unguarded, admits.dispatched, rfl⟩
      rw [ready] at found
      cases found
  | ok prepared =>
      obtain ⟨ledger, call, unguarded, dispatched, rfl⟩ := (Service.prepare_ok service host frame input _).mp ready
      have room := roomy ledger (guard_lent _ _ _ _ _ unguarded)
      have afloat : (service.ready host frame ledger call).view.Afloat := View.afloat_fresh ledger room.toAfloat
      have told (output : Bytes) (view : View)
          (performed : service.perform host frame (service.ready host frame ledger call) = .ok (.ok (output, view))) :
          ∃ effects, view.changes.effects view.ledger = .ok effects := by
        obtain ⟨form, evaluated⟩ := Service.perform_done _ _ _ _ _ _ performed
        exact effects_ok _ (Service.evaluate_afloat _ _ _ native afloat form _ _ evaluated)
      have numbers : (View.mk ledger {}).limit + 1 < UInt64.size := by
        have size : UInt64.size = 18446744073709551616 := rfl
        have low := room.numbers
        rw [View.fresh_limit]
        omega
      have rules := Work.execute_overflows (service.ready host frame ledger call).transaction.body
        (host.sender frame) frame.consensusTime { ledger := ledger } operation
        (fun order mints => roomy_serials service host frame input ledger room addressable call dispatched order mints)
        numbers
      rw [Service.settle_overflows _ _ _ _ _ told, Service.perform_overflows, Service.evaluate_overflows _ _ _ _ native]
      constructor
      · rintro ⟨affordable, permitted, wellFormed, _, fault⟩
        obtain ⟨negates, hbar, tokens, body, founders⟩ := rules.mp fault
        exact ⟨negates, ledger, call, hbar, tokens, ⟨unguarded, dispatched, affordable, permitted, wellFormed⟩, body,
          founders⟩
      · rintro ⟨negates, other, otherCall, hbar, tokens, admits, body, founders⟩
        cases unguarded.symm.trans admits.unguarded
        cases dispatched.symm.trans admits.dispatched
        refine ⟨admits.affordable, admits.permitted, admits.wellFormed, fun question asked => ?_,
          rules.mpr ⟨negates, hbar, tokens, body, founders⟩⟩
        simp only [Service.ready, Operation.transaction] at asked body
        rw [asked] at body
        cases question <;> cases body

namespace Sample

def stranger : AccountId := .ofNum 1003

-- The entries add up to nothing, and the approved one is of the least amount.
def foundering : Bytes :=
  ServiceFunction.atomicTransfer.selector.toBytes ++
    Abi.encode ServiceFunction.atomicTransfer.params
      (([(holder.toAddress, (Int64.minValue, (true, ()))), (friend.toAddress, (Int64.maxValue, (false, ()))),
          (stranger.toAddress, ((1 : Int64), (false, ())))], ()), ([], ()))

theorem ledger_roomy : ledger.Roomy where
  hbar := every_row ledger.accounts (fun _ row => 0 ≤ row.balance.toInt) (by decide)
  units := every_row ledger.relationships (fun _ row => 0 ≤ row.balance.toInt) (by decide)
  supplies := every_row ledger.tokens (fun _ row => 0 ≤ row.totalSupply.toInt) (by decide)
  hbarLent := fun id row spender amount found =>
    every_row row.hbarAllowances (fun _ amount => 0 ≤ amount.toInt)
      (every_row ledger.accounts (fun _ row => ∀ entry ∈ row.hbarAllowances.rows, 0 ≤ entry.2.toInt) (by decide) id row
        found) spender amount
  unitsLent := fun id row delegate amount found =>
    every_row row.tokenAllowances (fun _ amount => 0 ≤ amount.toInt)
      (every_row ledger.accounts (fun _ row => ∀ entry ∈ row.tokenAllowances.rows, 0 ≤ entry.2.toInt) (by decide) id row
        found) delegate amount
  serials := every_row ledger.tokens (fun _ row => row.lastUsedSerial.toInt < 4611686018427387904) (by decide)
  numbers := by decide

theorem foundering_overflows : (settled foundering).result = .error (.overflow .negate) := by
  have ended : (match (settled foundering).result with
      | .error (.overflow operation) => operation == .negate
      | _ => false) = true := by
    decide +kernel
  split at ended
  · rename_i operation found
    rw [found, beq_iff_eq.mp ended]
  · cases ended

end Sample

theorem sample_transfer_founders :
    Sample.ledger.Roomy ∧ ∃ ledger call hbar tokens,
      (Service.native {} Sample.market .empty).Admits (Sample.host Sample.ledger) Sample.frame Sample.foundering ledger
          call ∧
        ((Service.native {} Sample.market .empty).ready (Sample.host Sample.ledger) Sample.frame ledger
            call).transaction.body = .transfer hbar tokens ∧
        Work.Founders Sample.holder hbar tokens { ledger := ledger } := by
  have sender : (Sample.host Sample.ledger).sender Sample.frame = Sample.holder := by decide
  have founders := (overflows_iff_transfer_founders {} Sample.market .empty (Sample.host Sample.ledger) Sample.frame
    Sample.foundering (fun _ lent => Option.some.inj lent ▸ Sample.ledger_roomy) (by decide +kernel) .negate).mp
    Sample.foundering_overflows
  rw [sender] at founders
  exact ⟨Sample.ledger_roomy, founders.2⟩

theorem approved_least_debit_overflows :
    ¬ ∀ (config : Config) (market : Market) (prices : PriceTable) (host : Host) (frame : Frame) (input : Bytes),
      (∀ ledger, host.ledger = some ledger → ledger.Roomy) → input.length < UInt64.size → ∀ operation,
        ((Service.native config market prices).compute host frame input).result ≠ .error (.overflow operation) := by
  intro never
  exact never {} Sample.market .empty (Sample.host Sample.ledger) Sample.frame Sample.foundering
    (fun _ lent => Option.some.inj lent ▸ Sample.ledger_roomy) (by decide +kernel) .negate Sample.foundering_overflows

end TokenService
