import TokenService.Proofs.Settlement.Keys
import TokenService.Proofs.Settlement.Records

set_option autoImplicit false

namespace TokenService

namespace Requirement

def denial : Requirement → Status
  | .ledger kind _ => kind.denial
  | .explicit _ => .invalidSignature

theorem denial_code (requirement : Requirement) :
    requirement.denial = .invalidSignature ∨ requirement.denial = .invalidFullPrefixSignatureForPrecompile := by
  cases requirement with
  | ledger kind subject =>
      cases kind with
      | ordinary => exact .inr rfl
      | _ => exact .inl rfl
  | explicit key => exact .inl rfl

end Requirement

namespace Authority

section More

variable (authority : Authority) (signed : Key → Bool)

variable (more : ∀ key, authority.signed key = true → signed key = true)
include more

theorem more_covers : { authority with signed := signed }.Covers authority := by
  intro key vouches
  cases key with
  | ed25519 bytes => exact more _ vouches
  | secp256k1 bytes => exact more _ vouches
  | _ => exact vouches

theorem active_more (key : Key) (active : authority.isActive key = true) :
    { authority with signed := signed }.isActive key = true :=
  active_covered (more_covers authority signed more) key active

theorem active_same (key : Key) : authority.isActive key = false ∨
    authority.isActive key = { authority with signed := signed }.isActive key := by
  by_cases active : authority.isActive key = true
  · exact .inr (active.trans (active_more authority signed more key active).symm)
  · exact .inl (Bool.eq_false_iff.mpr active)

theorem authorize_more (view : Option View) (kind : KeyKind) (subject : Subject) :
    authority.authorize view kind subject = .ok false ∨
      authority.authorize view kind subject = { authority with signed := signed }.authorize view kind subject := by
  cases view with
  | none => exact .inr rfl
  | some view =>
      cases subject with
      | account id =>
          by_cases own : authority.actsForItself id = true
          · exact .inr ((if_pos own).trans (if_pos own).symm)
          · have alike : ¬ { authority with signed := signed }.actsForItself id = true := own
            simp only [authorize, if_neg own, if_neg alike]
            cases view.account id with
            | none => exact .inr rfl
            | some account =>
                cases held : account.key with
                | none => exact .inl (by simp only [held, Option.any_none])
                | some key =>
                    simp only [held, Option.any_some, Except.ok.injEq]
                    exact active_same authority signed more key
      | token id =>
          simp only [authorize]
          cases view.token id with
          | none => exact .inr rfl
          | some token =>
              cases held : kind.slot?.bind token.keys.get with
              | none => exact .inr (by simp only [held])
              | some key =>
                  simp only [held, Except.ok.injEq]
                  exact active_same authority signed more key

theorem check_one_more (view : Option View) (requirement : Requirement) :
    authority.checkOne view requirement = .error requirement.denial ∨
      authority.checkOne view requirement = { authority with signed := signed }.checkOne view requirement := by
  cases requirement with
  | ledger kind subject =>
      simp only [checkOne]
      rcases authorize_more authority signed more view kind subject with denied | same
      · exact .inl (by rw [denied]; rfl)
      · exact .inr (by rw [same])
  | explicit key =>
      by_cases active : authority.isActive key = true
      · exact .inr ((if_pos active).trans (if_pos (active_more authority signed more key active)).symm)
      · exact .inl (if_neg active)

theorem check_more (view : Option View) (requirements : List Requirement) :
    (∃ requirement ∈ requirements, authority.checkOne view requirement = .error requirement.denial ∧
      requirements.forM (authority.checkOne view) = .error requirement.denial) ∨
      requirements.forM (authority.checkOne view) =
        requirements.forM ({ authority with signed := signed }.checkOne view) := by
  induction requirements with
  | nil => exact .inr rfl
  | cons requirement rest ih =>
      simp only [List.forM_eq_forM, List.forM_cons] at ih ⊢
      rcases check_one_more authority signed more view requirement with denied | same
      · exact .inl ⟨requirement, List.mem_cons_self, denied, by rw [denied]; rfl⟩
      · rw [← same]
        cases checked : authority.checkOne view requirement with
        | error status => exact .inr rfl
        | ok =>
            rcases ih with ⟨other, member, unmet, denied⟩ | alike
            · exact .inl ⟨other, List.mem_cons_of_mem _ member, unmet, denied⟩
            · exact .inr alike

end More

end Authority

namespace Service

-- A call that ends because one requirement of its operation is not met: the record tells the code of that
-- requirement and no effect, the frame is as it was, and the store was not asked.
structure Denies (service : Service) (host : Host) (frame : Frame) (input : Bytes) (status : Status) : Prop where
  code : status = .invalidSignature ∨ status = .invalidFullPrefixSignatureForPrecompile
  unmet : ∃ prepared requirement, service.prepare host frame input = .ok prepared ∧
    requirement ∈ prepared.transaction.body.requirements prepared.sender ∧
    (authority host frame).checkOne (some prepared.view) requirement = .error status
  told : ∃ settlement, (service.compute host frame input).result = .ok settlement ∧ settlement.status = status
  framed : (service.compute host frame input).frame = frame
  recorded : ∃ record transaction, (service.compute host frame input).record = some (record, transaction) ∧
    record.receipt = { status := status } ∧ record.hbarTransfers = [] ∧ record.tokenTransfers = [] ∧
    record.associations = []
  unoffered : (service.compute host frame input).offered = []
  unapplied : (service.compute host frame input).applied = none

section Lifting

variable (service : Service) (host : Host) (frame : Frame) (input : Bytes) (signed : Key → Bool)

theorem denies_unsuccessful (status : Status) (denied : service.Denies host frame input status) :
    ¬ (service.compute host frame input).succeeds := by
  rintro ⟨settlement, result, success⟩
  obtain ⟨other, told, rfl⟩ := denied.told
  cases result.symm.trans told
  rcases denied.code with code | code
  · cases success.symm.trans code
  · cases success.symm.trans code

theorem settle_denied (prepared : Prepared) (requirement : Requirement)
    (ready : service.prepare host frame input = .ok prepared)
    (affordable : ¬ frame.remainingGas < (service.quote frame prepared).gas)
    (needed : requirement ∈ prepared.transaction.body.requirements prepared.sender)
    (unmet : (authority host frame).checkOne (some prepared.view) requirement = .error requirement.denial)
    (dissent : (authority host frame).check (some prepared.view) prepared.transaction.body prepared.sender =
      .error requirement.denial) :
    service.Denies host frame input requirement.denial := by
  have settled : service.compute host frame input =
      { result := .ok
          { status := requirement.denial
            output := some (prepared.call.operation.encodeFailure requirement.denial)
            gas := (service.quote frame prepared).gas
            stage := prepared.stage.next.next }
        frame := frame
        record := some (service.record frame prepared requirement.denial none
          (prepared.call.operation.encodeFailure requirement.denial) (service.quote frame prepared).gas) } := by
    simp only [compute, ready, settle, if_neg affordable, perform, dissent, Refusal.status, Refusal.revertReason]
  refine ⟨requirement.denial_code, ⟨prepared, requirement, ready, needed, unmet⟩, ?_, ?_, ?_, ?_, ?_⟩
  · rw [settled]
    exact ⟨_, rfl, rfl⟩
  · rw [settled]
  · rw [settled]
    refine ⟨_, _, rfl, ?_⟩
    rcases requirement.denial_code with code | code
    · rw [code]
      exact ⟨rfl, rfl, rfl, rfl⟩
    · rw [code]
      exact ⟨rfl, rfl, rfl, rfl⟩
  · rw [settled]
  · rw [settled]

theorem perform_consented (prepared : Prepared)
    (same : (authority host frame).check (some prepared.view) prepared.transaction.body prepared.sender =
      (authority { host with signed := signed } frame).check (some prepared.view) prepared.transaction.body
        prepared.sender) :
    service.perform host frame prepared = service.perform { host with signed := signed } frame prepared := by
  simp only [perform, same]

theorem compute_more (more : ∀ key, host.signed key = true → signed key = true) :
    (∃ status, service.Denies host frame input status) ∨
      service.compute host frame input = service.compute { host with signed := signed } frame input := by
  have prepares : service.prepare { host with signed := signed } frame input = service.prepare host frame input := rfl
  cases ready : service.prepare host frame input with
  | error stop => exact .inr (by simp only [compute, prepares, ready])
  | ok prepared =>
      by_cases dear : frame.remainingGas < (service.quote frame prepared).gas
      · exact .inr (by simp only [compute, prepares, ready, settle, if_pos dear])
      · rcases (authority host frame).check_more signed more (some prepared.view)
          (prepared.transaction.body.requirements prepared.sender) with ⟨requirement, needed, unmet, dissent⟩ | same
        · exact .inl ⟨_, settle_denied service host frame input prepared requirement ready dear needed unmet dissent⟩
        · right
          have performs := perform_consented service host frame signed prepared same
          simp only [compute, prepares, ready, settle, performs]

end Lifting

end Service

/-- Signatures only lift denials. With more of them a call that was not denied is the same call, so a success stays the
same success; and whatever two sets of signatures there are, a call comes out the same unless one of them denies it. -/
theorem signatures_only_lift_denials (service : Service) (host : Host) (frame : Frame) (input : Bytes)
    (signed : Key → Bool) :
    ((∀ key, host.signed key = true → signed key = true) →
      ((∃ status, service.Denies host frame input status) ∨
        service.compute host frame input = service.compute { host with signed := signed } frame input) ∧
      ((service.compute host frame input).succeeds →
        service.compute { host with signed := signed } frame input = service.compute host frame input)) ∧
    ((∃ status, service.Denies host frame input status) ∨
      (∃ status, service.Denies { host with signed := signed } frame input status) ∨
      service.compute host frame input = service.compute { host with signed := signed } frame input) := by
  refine ⟨fun more => ?_, ?_⟩
  · have lifted := service.compute_more host frame input signed more
    refine ⟨lifted, fun success => ?_⟩
    rcases lifted with ⟨status, denied⟩ | same
    · exact absurd success (service.denies_unsuccessful host frame input status denied)
    · exact same.symm
  -- The signatures of both are more than those of each.
  · rcases service.compute_more host frame input (fun key => host.signed key || signed key)
      (fun key held => by rw [held, Bool.true_or]) with denied | left
    · exact .inl denied
    · rcases service.compute_more { host with signed := signed } frame input (fun key => host.signed key || signed key)
        (fun key held => by rw [show signed key = true from held, Bool.or_true]) with denied | right
      · exact .inr (.inl denied)
      · exact .inr (.inr (left.trans right.symm))

theorem coining_signed_and_unsigned :
    (Service.native {} Sample.market .empty).compute { Sample.host Sample.ledger with signed := fun _ => true }
        Sample.frame Sample.coining = Sample.settled Sample.coining ∧
      ∃ status, (Service.native {} Sample.market .empty).Denies
        { Sample.host Sample.ledger with signed := fun _ => false } Sample.frame Sample.coining status := by
  have minted : (Sample.settled Sample.coining).succeeds := by decide +kernel
  have barred : ¬ ((Service.native {} Sample.market .empty).compute
      { Sample.host Sample.ledger with signed := fun _ => false } Sample.frame Sample.coining).succeeds := by
    decide +kernel
  constructor
  · exact ((signatures_only_lift_denials (Service.native {} Sample.market .empty) (Sample.host Sample.ledger)
      Sample.frame Sample.coining fun _ => true).1 fun _ _ => rfl).2 minted
  · rcases (signatures_only_lift_denials (Service.native {} Sample.market .empty) (Sample.host Sample.ledger)
      Sample.frame Sample.coining fun _ => false).2 with ⟨status, denied⟩ | denied | same
    · exact absurd minted (Service.denies_unsuccessful _ _ _ _ status denied)
    · exact denied
    · exact absurd (same ▸ minted) barred

end TokenService
