import TokenService.Proofs.Call.Orders
import TokenService.Proofs.Facade.Counterparts
import TokenService.Proofs.Ledger.Outcomes

set_option autoImplicit false

namespace TokenService

open Abi

namespace Call

def output? (call : Call) (ledger : Ledger) : Option Bytes :=
  (call.settled ledger).result.toOption.bind Settlement.output

structure Meets (call : Call) (ledger : Ledger) (request : ServiceRequest) (operation : Operation) (output : Bytes)
    (view : View) : Prop where
  meant : request.function.operation (call.setting ledger) request.values = .ok operation
  answered : ∀ question, operation = .query question → ∃ answer,
    (View.mk ledger {}).answer question = .ok answer ∧ output = answer.encode .direct call.config.ledgerId
  done : (∀ question, operation ≠ .query question) → ∃ execution,
    (Work.execute (operation.body (call.caller ledger operation)) call.sender call.frame.consensusTime).Yields
      { ledger := ledger } execution view ∧ output = operation.encodeExecution .direct execution
  returns : call.output? ledger = some output
  after : call.after ledger = ledger.apply view.changes

theorem success_meets (call : Call) (ledger : Ledger) (request : ServiceRequest)
    (read : decode request.function.params (encode request.function.params request.values) = .ok request.values)
    (written : call.input = request.bytes) (success : (call.settled ledger).succeeds) :
    ∃ operation output view, call.Meets ledger request operation output view := by
  have ends : (Service.native call.config call.market call.prices).Ends (call.host ledger) call.frame call.input
      (call.settled ledger) := Service.compute_ends _ _ _ _ rfl
  obtain ⟨other, ⟨selector, operation, convention⟩, view, takes⟩ := Service.success_takes _ _ _ _ _ ends success
  cases call.lends_own ledger other (guard_lent _ _ _ _ _ takes.passes.unguarded)
  obtain ⟨output, evaluated⟩ := takes.passes.evaluated
  obtain ⟨settlement, result, _⟩ := success
  have told := (success_told _ _ _ _ _ _ _ _ takes.passes evaluated settlement result).1
  have returns : call.output? ledger = some output := by
    rw [Call.output?, result]
    exact told
  have dispatched := takes.passes.dispatched
  rw [written] at dispatched
  obtain ⟨meant, rfl⟩ := dispatched_read_service _ request read _ dispatched
  refine ⟨operation, output, view, meant, fun question asked => ?_, fun change => ?_, returns, ?_⟩
  · rw [Service.evaluate_query _ _ _ question asked] at evaluated
    split at evaluated
    · rename_i answer answered
      cases evaluated
      exact ⟨answer, answered, rfl⟩
    · cases evaluated
  · exact evaluated_yields _ rfl _ _ _ _ output view change evaluated
  · rw [Call.after, Settled.ledgerAfter, takes.applied]

end Call

namespace TokenOrder

def inquiry (token : TokenId) : ServiceRequest := ⟨.getTokenInfo, (token.toAddress, ())⟩

end TokenOrder

theorem returned_token (call : Call) (ledger : Ledger) (token other : TokenId)
    (first : call.output? ledger = some (encode [.int32, .address] (Status.success.number, token.toAddress, ())))
    (second : call.output? ledger = some (encode [.int32, .address] (Status.success.number, other.toAddress, ()))) :
    token = other := by
  have read (id : TokenId) := decode_encode [.int32, .address] rfl (Status.success.number, id.toAddress, ())
  have alike := congrArg (decode [.int32, .address]) (Option.some.inj (first.symm.trans second))
  have same := Except.ok.inj ((read token).symm.trans (alike.trans (read other)))
  have addresses : token.toAddress = other.toAddress := congrArg (fun values => values.2.1) same
  rw [← EntityId.of_address_to_address token, addresses, EntityId.of_address_to_address]

/-- A successful order for a token of the third generation returns the address of the token, and whoever then asks
successfully about that address is told the token as it was ordered. -/
theorem created_token_reads_back (creating : Call) (ledger : Ledger) (request : ServiceRequest) (ordered : TokenOrder)
    (orders : request.order? = some ordered) (plain : creating.resolve = id)
    (room : request.bytes.length < UInt64.size) (written : creating.input = request.bytes)
    (success : (creating.settled ledger).succeeds) :
    ∃ token : TokenId,
      creating.output? ledger =
          some (encode [.int32, .address] (Status.success.number, token.toAddress, ())) ∧
        ∀ reading : Call, reading.resolve = id → reading.input = (TokenOrder.inquiry token).bytes →
          (reading.settled (creating.after ledger)).succeeds →
          reading.output? (creating.after ledger) = some (encode [.int32, Struct.tokenInfo] (Status.success.number,
            ordered.info ((ledger.accounts.get? creating.sender).bind Account.key) creating.frame.consensusTime
              reading.config.ledgerId, ())) := by
  have short : (encode request.function.params request.values).length < UInt64.size := by
    rw [ServiceRequest.bytes, List.length_append] at room
    omega
  obtain ⟨operation, output, view, meets⟩ :=
    creating.success_meets ledger request (decode_written _ request.function.params_solid _ short) written success
  obtain ⟨order, rfl, told⟩ :=
    ordered.operation_told (creating.setting ledger) plain request orders operation meets.meant
  obtain ⟨execution, run, rfl⟩ := meets.done (fun _ same => by cases same)
  obtain ⟨token, reserved, _⟩ := Work.create_founds _ _ _ _ _ run
  have row : (creating.after ledger).tokens.get? token =
      some (Work.created (order.creation (creating.caller ledger (.create order .third))) token
        creating.frame.consensusTime) := by
    rw [meets.after]
    exact (Work.founded_token { ledger := ledger } _ _ token reserved token).trans (if_pos rfl)
  refine ⟨token, meets.returns, fun reading also asks answers => ?_⟩
  obtain ⟨_, _, _, reads⟩ :=
    reading.success_meets _ (TokenOrder.inquiry token) (decode_encode _ rfl _) asks answers
  obtain ⟨answer, answered, rfl⟩ := reads.answered _ (Except.ok.inj reads.meant).symm
  have about : (reading.setting (creating.after ledger)).entity token.toAddress = token := by
    rw [CallSetting.entity, Call.setting, also]
    exact EntityId.of_address_to_address token
  rw [about] at answered
  obtain ⟨found, known, same⟩ := (except_bind_ok _ _ _).mp answered
  cases same
  cases row.symm.trans ((View.demand_ok _ _ _).mp known)
  have returns := reads.returns
  rw [Answer.encode, told] at returns
  exact returns

namespace Struct

def royaltyTerms : royaltyFee.Val → Int64 × Int64 × Int64 × Address × Address
  | (numerator, denominator, amount, token, _, collector, ()) => (numerator, denominator, amount, token, collector)

def royalties : tokenInfo.Val → List royaltyFee.Val
  | (_, _, _, _, _, _, _, royalties, _, ()) => royalties

end Struct

namespace Sample

def mintage : TokenOrder :=
  { token :=
      ("Gold", "G", holder.toAddress, "memo", true, (500 : Int64), false,
        [(17#256, (true, (0 : Address), ([] : Bytes), ([] : Bytes), (0 : Address), ()), ())],
        ((0 : Int64), friend.toAddress, (90 : Int64), ()), ())
    supply := 100
    fixed := [((3 : Int64), (0 : Address), false, false, holder.toAddress, ())]
    fractional := [((1 : Int64), (10 : Int64), (2 : Int64), (5 : Int64), true, holder.toAddress, ())]
    royalty := [] }

def mintageRequest : ServiceRequest :=
  ⟨.createFungibleWithFees .third,
    (mintage.token, mintage.supply, (2 : Int32), mintage.fixed, mintage.fractional, ())⟩

def artwork : TokenOrder :=
  { token := ("Art", "A", holder.toAddress, "", false, (0 : Int64), false, [],
      ((0 : Int64), (0 : Address), (0 : Int64), ()), ())
    supply := 0
    fixed := []
    fractional := []
    royalty := [((1 : Int64), (10 : Int64), (0 : Int64), coin.toAddress, false, holder.toAddress, ())] }

def founded : TokenId := .ofNum 3000

def asking : Call := call (TokenOrder.inquiry founded).bytes

end Sample

theorem mintage_reads_back :
    (Sample.asking.settled ((Sample.call Sample.mintageRequest.bytes).after Sample.ledger)).succeeds ∧
      Sample.asking.output? ((Sample.call Sample.mintageRequest.bytes).after Sample.ledger) =
        some (encode [.int32, Struct.tokenInfo]
          (Status.success.number, Sample.mintage.info (some Sample.key) ⟨0, 0⟩ "0x03", ())) := by
  have made : ((Sample.call Sample.mintageRequest.bytes).settled Sample.ledger).succeeds ∧
      (Sample.call Sample.mintageRequest.bytes).output? Sample.ledger =
        some (encode [.int32, .address] (Status.success.number, Sample.founded.toAddress, ())) ∧
      (Sample.asking.settled ((Sample.call Sample.mintageRequest.bytes).after Sample.ledger)).succeeds := by
    decide +kernel
  obtain ⟨created, output, asked⟩ := made
  obtain ⟨token, returned, reads⟩ := created_token_reads_back (Sample.call Sample.mintageRequest.bytes) Sample.ledger
    Sample.mintageRequest Sample.mintage rfl rfl (by decide +kernel) rfl created
  cases returned_token _ _ token Sample.founded returned output
  exact ⟨asked, reads Sample.asking rfl rfl asked⟩

theorem fallback_of_nothing_names_nothing :
    ¬ ∀ (creating reading : Call) (ledger : Ledger) (request : ServiceRequest) (ordered : TokenOrder) (token : TokenId)
      (info : Struct.tokenInfo.Val), request.order? = some ordered → creating.resolve = id →
      request.bytes.length < UInt64.size → creating.input = request.bytes → (creating.settled ledger).succeeds →
      creating.output? ledger = some (encode [.int32, .address] (Status.success.number, token.toAddress, ())) →
      reading.resolve = id → reading.input = (TokenOrder.inquiry token).bytes →
      (reading.settled (creating.after ledger)).succeeds →
      reading.output? (creating.after ledger) =
        some (encode [.int32, Struct.tokenInfo] (Status.success.number, info, ())) →
      (Struct.royalties info).map Struct.royaltyTerms = ordered.royalty.map Struct.royaltyTerms := by
  intro always
  have made : ((Sample.call Sample.artRequest.bytes).settled Sample.ledger).succeeds ∧
      (Sample.call Sample.artRequest.bytes).output? Sample.ledger =
        some (encode [.int32, .address] (Status.success.number, Sample.founded.toAddress, ())) ∧
      (Sample.asking.settled ((Sample.call Sample.artRequest.bytes).after Sample.ledger)).succeeds ∧
      Sample.asking.output? ((Sample.call Sample.artRequest.bytes).after Sample.ledger) =
        some (encode [.int32, Struct.tokenInfo]
          (Status.success.number, Sample.artwork.info (some Sample.key) ⟨0, 0⟩ "0x03", ())) := by
    decide +kernel
  obtain ⟨created, output, asked, told⟩ := made
  have same := always (Sample.call Sample.artRequest.bytes) Sample.asking Sample.ledger Sample.artRequest Sample.artwork
    Sample.founded (Sample.artwork.info (some Sample.key) ⟨0, 0⟩ "0x03") rfl rfl (by decide +kernel) rfl created output
    rfl rfl asked told
  exact absurd same (by decide)

end TokenService
