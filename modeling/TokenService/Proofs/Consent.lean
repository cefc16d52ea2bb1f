import TokenService.Authority
import TokenService.Proofs.Form
import TokenService.Proofs.Ledger.Rows

set_option autoImplicit false

namespace TokenService

namespace Authority

variable (authority : Authority) (ledger : Ledger)

-- An account consents when it is the calling contract of an ordinary call, or when its key is
-- active.
def Consents (account : AccountId) : Prop :=
  (authority.delegated = false ∧ account = authority.activeContract) ∨
    ∃ row key, ledger.accounts.get? account = some row ∧ row.key = some key ∧ authority.isActive key = true

def Holds (token : Token) (slot : KeySlot) : Prop :=
  ∃ key, token.keys.get slot = some key ∧ authority.isActive key = true

theorem check_covers (view : Option View) (body : Body) (sender : AccountId) (requirement : Requirement)
    (checked : authority.check view body sender = .ok ()) (needed : requirement ∈ body.requirements sender) :
    authority.checkOne view requirement = .ok () := by
  unfold check at checked
  generalize body.requirements sender = requirements at checked needed
  induction requirements with
  | nil => cases needed
  | cons first rest ih =>
      obtain ⟨_, head, tail⟩ := (except_bind_ok _ _ _).mp checked
      rcases List.mem_cons.mp needed with rfl | later
      · exact head
      · exact ih tail later

theorem account_consents (account : AccountId)
    (checked : authority.checkOne (some { ledger := ledger }) (.ofAccount account) = .ok ()) :
    authority.Consents ledger account := by
  simp only [Requirement.ofAccount, checkOne, authorize, actsForItself, Bool.and_eq_true, Bool.not_eq_true',
    beq_iff_eq] at checked
  by_cases self : authority.delegated = false ∧ account = authority.activeContract
  · exact .inl self
  · rw [if_neg self, View.fresh_account] at checked
    refine .inr ?_
    cases found : ledger.accounts.get? account with
    | none =>
        rw [found] at checked
        cases checked
    | some row =>
        rw [found] at checked
        cases stored : row.key with
        | none => simp [stored] at checked
        | some key =>
            cases active : authority.isActive key with
            | true => exact ⟨row, key, rfl, stored, active⟩
            | false => simp [stored, active] at checked

theorem token_consents (kind : KeyKind) (slot : KeySlot) (id : TokenId) (named : kind.slot? = some slot)
    (checked : authority.checkOne (some { ledger := ledger }) (.ofToken kind id) = .ok ()) :
    ∃ token, ledger.tokens.get? id = some token ∧ authority.Holds token slot := by
  simp only [Requirement.ofToken, checkOne, authorize, View.fresh_token, named, Option.bind_some] at checked
  cases found : ledger.tokens.get? id with
  | none =>
      rw [found] at checked
      cases checked
  | some token =>
      rw [found] at checked
      cases stored : token.keys.get slot with
      | none => simp [stored] at checked
      | some key =>
          cases active : authority.isActive key with
          | true => exact ⟨token, rfl, key, stored, active⟩
          | false => simp [stored, active] at checked

theorem mem_distinct (account : AccountId) (accounts : List AccountId) (member : account ∈ accounts) :
    account ∈ TokenService.distinct accounts := by
  induction accounts with
  | nil => cases member
  | cons first rest ih =>
      rw [TokenService.distinct]
      by_cases same : account = first
      · exact same ▸ List.mem_cons_self
      · have later := (List.mem_cons.mp member).resolve_left same
        exact List.mem_cons_of_mem _ (List.mem_filter.mpr ⟨ih later, bne_iff_ne.mpr same⟩)

end Authority

section Debited

variable (hbar : List Adjustment) (tokens : List TokenMoves)

theorem debited_hbar (entry : Adjustment) (member : entry ∈ hbar) (negative : entry.amount.toInt < 0)
    (own : entry.approval = false) : entry.account ∈ debited hbar tokens := by
  apply Authority.mem_distinct
  refine List.mem_append.mpr (.inl (List.mem_map.mpr ⟨entry, List.mem_filter.mpr ⟨?_, ?_⟩, rfl⟩))
  · exact List.mem_append.mpr (.inl member)
  · rw [own]
    simpa using Int64.lt_iff_toInt_lt.mpr negative

theorem debited_units (moves : TokenMoves) (listed : moves ∈ tokens) (entry : Adjustment)
    (member : entry ∈ moves.adjustments) (negative : entry.amount.toInt < 0) (own : entry.approval = false) :
    entry.account ∈ debited hbar tokens := by
  apply Authority.mem_distinct
  refine List.mem_append.mpr (.inl (List.mem_map.mpr ⟨entry, List.mem_filter.mpr ⟨?_, ?_⟩, rfl⟩))
  · exact List.mem_append.mpr (.inr (List.mem_flatMap.mpr ⟨moves, listed, member⟩))
  · rw [own]
    simpa using Int64.lt_iff_toInt_lt.mpr negative

theorem debited_nft (moves : TokenMoves) (listed : moves ∈ tokens) (move : NftMove) (member : move ∈ moves.nftMoves)
    (own : move.approval = false) : move.sender ∈ debited hbar tokens := by
  apply Authority.mem_distinct
  refine List.mem_append.mpr (.inr (List.mem_map.mpr ⟨move, List.mem_filter.mpr ⟨?_, ?_⟩, rfl⟩))
  · exact List.mem_flatMap.mpr ⟨moves, listed, member⟩
  · rw [own]
    rfl

theorem debited_consents (authority : Authority) (ledger : Ledger) (sender account : AccountId)
    (checked : authority.check (some { ledger := ledger }) (.transfer hbar tokens) sender = .ok ())
    (lost : account ∈ debited hbar tokens) : authority.Consents ledger account :=
  authority.account_consents ledger account
    (authority.check_covers _ _ _ _ checked (List.mem_map.mpr ⟨account, lost, rfl⟩))

end Debited

end TokenService
