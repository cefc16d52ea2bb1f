import TokenService.Proofs.Call.Routes
import TokenService.Proofs.Ledger.Rows
import TokenService.Proofs.Settlement.Atomicity

set_option autoImplicit false

namespace TokenService

namespace Service

section Guarded

variable (service : Service) (host : Host) (frame : Frame) (input : Bytes)

theorem guard_static (ledger : Ledger) (unguarded : service.guard host frame input = .ok ledger)
    (static : frame.isStatic = true) : isViewInput input = true := by
  cases view : isViewInput input with
  | true => rfl
  | false =>
      unfold guard at unguarded
      split at unguarded
      · cases unguarded
      · rw [if_pos ⟨static, by rw [view]; rfl⟩] at unguarded
        cases unguarded

theorem guard_value (ledger : Ledger) (unguarded : service.guard host frame input = .ok ledger)
    (value : frame.value ≠ 0) : (Selector.ofInput? input).any Selector.isPayable = true := by
  cases payable : (Selector.ofInput? input).any Selector.isPayable with
  | true => rfl
  | false =>
      unfold guard at unguarded
      rw [if_pos ⟨value, by rw [payable]; rfl⟩] at unguarded
      cases unguarded

end Guarded

theorem settle_question (service : Service) (host : Host) (frame : Frame) (ledger : Ledger) (call : ResolvedCall)
    (question : Query) (asked : call.operation = .query question) :
    ∀ changes, (service.settle host frame (service.ready host frame ledger call)).applied = some changes →
      changes = {} := by
  intro changes applied
  unfold settle at applied
  simp only at applied
  split at applied
  · cases applied
  · have performed := performance service host frame (service.ready host frame ledger call)
    generalize service.perform host frame (service.ready host frame ledger call) = outcome at performed applied
    cases performed with
    | done output view consent form evaluated =>
        have same : view = { ledger := ledger } := by
          rw [evaluate_query _ _ _ question asked] at evaluated
          split at evaluated
          · cases evaluated
            rfl
          · cases evaluated
        subst same
        simp only at applied
        split at applied
        · cases applied
        · cases applied
        · cases applied
          rfl
    | denied | malformed | failed | broken | exhausted | overflowed => cases applied

theorem static_unchanged (service : Service) (host : Host) (frame : Frame) (input : Bytes)
    (static : frame.isStatic = true) (ledger : Ledger) :
    (service.compute host frame input).ledgerAfter ledger = ledger := by
  rcases service.compute_cases host frame input with ⟨_, _, idle⟩ | ⟨lent, call, _, unguarded, dispatched, settles⟩
  · rw [Settled.ledgerAfter, idle.unapplied]
  · have kind := (dispatched_kind _ input call dispatched).1
    rw [service.guard_static host frame input lent unguarded static] at kind
    obtain ⟨question, asked⟩ := call.operation.kind_query (beq_iff_eq.mp kind.symm)
    rw [settles, Settled.ledgerAfter]
    split
    · rename_i changes applied
      rw [settle_question service host frame lent call question asked changes applied]
      exact View.fresh_merged ledger
    · rfl

theorem value_creates (service : Service) (host : Host) (frame : Frame) (input : Bytes) (value : frame.value ≠ 0) :
    (service.compute host frame input).Idle ∨
      ∃ prepared order generation, service.prepare host frame input = .ok prepared ∧
        prepared.call.operation = .create order generation := by
  rcases service.compute_cases host frame input with ⟨_, _, idle⟩ | ⟨lent, call, ready, unguarded, dispatched, _⟩
  · exact .inl idle
  · have kind := (dispatched_kind _ input call dispatched).2
    rw [service.guard_value host frame input lent unguarded value] at kind
    obtain ⟨order, generation, creates⟩ := call.operation.kind_create (beq_iff_eq.mp kind.symm)
    exact .inr ⟨_, order, generation, ready, creates⟩

end Service

/-- The tables of views and of payable functions agree with the dispatch on every input: what they call a view is
dispatched to a question and nothing else is, and what they call payable to a creation. So no call in a static frame
changes the ledger, and of the calls with value only creations come to be settled. -/
theorem tables_agree_and_guard (service : Service) (host : Host) (frame : Frame) (input : Bytes) :
    (∀ setting call, dispatch setting input = .ok (some call) →
      (isViewInput input = true ↔ ∃ question, call.operation = .query question) ∧
        ((Selector.ofInput? input).any Selector.isPayable = true ↔
          ∃ order generation, call.operation = .create order generation)) ∧
      (frame.isStatic = true → ∀ ledger, (service.compute host frame input).ledgerAfter ledger = ledger) ∧
      (frame.value ≠ 0 → (service.compute host frame input).Idle ∨
        ∃ prepared order generation, service.prepare host frame input = .ok prepared ∧
          prepared.call.operation = .create order generation) := by
  refine ⟨fun setting call dispatched => ?_, service.static_unchanged host frame input,
    service.value_creates host frame input⟩
  obtain ⟨views, payable⟩ := dispatched_kind setting input call dispatched
  rw [views, payable, beq_iff_eq, beq_iff_eq]
  refine ⟨⟨call.operation.kind_query, ?_⟩, ⟨call.operation.kind_create, ?_⟩⟩
  · rintro ⟨question, same⟩
    rw [same]
    rfl
  · rintro ⟨order, generation, same⟩
    rw [same]
    rfl

namespace Sample

def service : Service := .native {} market .empty

def statically : Frame := { frame with isStatic := true }

def paying : Frame := { frame with value := 5 }

def inquiry : Bytes := Redirect.pack coin.toAddress FacadeFunction.totalSupply.selector.toBytes

def founding : Bytes :=
  (ServiceFunction.createNonFungible .third).selector.toBytes ++
    Abi.encode (ServiceFunction.createNonFungible .third).params
      (("Gallery", "G", holder.toAddress, "", false, (0 : Int64), false, ([] : List (Abi.Ty.Val Struct.tokenKey)),
        ((0 : Int64), (0 : Address), (0 : Int64), ()), ()), ())

end Sample

theorem inquiry_and_founding_guarded :
    (∃ call question, dispatch (Sample.service.setting (Sample.host Sample.ledger) Sample.statically
        { ledger := Sample.ledger }) Sample.inquiry = .ok (some call) ∧ call.operation = .query question) ∧
      (Sample.service.compute (Sample.host Sample.ledger) Sample.statically Sample.inquiry).ledgerAfter
        Sample.ledger = Sample.ledger ∧
      ∃ prepared order generation, Sample.service.prepare (Sample.host Sample.ledger) Sample.paying
        Sample.founding = .ok prepared ∧ prepared.call.operation = .create order generation := by
  obtain ⟨agrees, static, _⟩ := tables_agree_and_guard Sample.service (Sample.host Sample.ledger) Sample.statically
    Sample.inquiry
  obtain ⟨_, _, value⟩ := tables_agree_and_guard Sample.service (Sample.host Sample.ledger) Sample.paying
    Sample.founding
  refine ⟨?_, static rfl Sample.ledger, ?_⟩
  · have dispatched : dispatch (Sample.service.setting (Sample.host Sample.ledger) Sample.statically
        { ledger := Sample.ledger }) Sample.inquiry = .ok (some ⟨FacadeFunction.totalSupply.selector,
          .query (.totalSupply Sample.coin), .redirect Sample.coin false⟩) := rfl
    obtain ⟨question, asked⟩ := (agrees _ _ dispatched).1.mp (by decide +kernel)
    exact ⟨_, question, dispatched, asked⟩
  · have founded : (Sample.service.compute (Sample.host Sample.ledger) Sample.paying Sample.founding).record.map
        (fun entry => entry.1.receipt.status) = some .success := by
      decide +kernel
    rcases value (by decide) with idle | creates
    · rw [idle.unrecorded] at founded
      cases founded
    · exact creates

end TokenService
