import Mathlib.Data.List.Forall2
import TokenService.Proofs.Ledger.Candor
import TokenService.WellFormed

set_option autoImplicit false

namespace TokenService

theorem require_ok (rule : Bool) (status : Status) (value : Unit) :
    require rule status = .ok value ↔ rule = true := by
  cases rule <;> simp [require]

theorem except_bind_ok {ε α β : Type} (first : Except ε α) (next : α → Except ε β) (result : β) :
    (first >>= next) = .ok result ↔ ∃ value, first = .ok value ∧ next value = .ok result := by
  cases first with
  | ok value => simp [bind, Except.bind]
  | error fault => simp [bind, Except.bind]

theorem except_step_ok {ε β : Type} (first : Except ε Unit) (next : Unit → Except ε β) (result : β) :
    (first >>= next) = .ok result ↔ first = .ok () ∧ next () = .ok result :=
  (except_bind_ok first next result).trans ⟨fun ⟨_, done, rest⟩ => ⟨done, rest⟩, fun ⟨done, rest⟩ => ⟨(), done, rest⟩⟩

theorem map_m_ok {ε α β : Type} (step : α → Except ε β) (items : List α) (results : List β) :
    items.mapM step = .ok results ↔ List.Forall₂ (fun item result => step item = .ok result) items results := by
  induction items generalizing results with
  | nil =>
      rw [List.mapM_nil, List.forall₂_nil_left_iff]
      exact ⟨fun same => by cases same; rfl, fun same => by rw [same]; rfl⟩
  | cons item rest ih =>
      simp only [List.mapM_cons, except_bind_ok, List.forall₂_cons_left_iff, ih]
      constructor
      · rintro ⟨first, head, others, tail, same⟩
        cases same
        exact ⟨first, others, head, tail, rfl⟩
      · rintro ⟨first, others, head, tail, rfl⟩
        exact ⟨first, head, others, tail, rfl⟩

theorem map_m_done_iff {ε α β : Type} (step : α → Except ε β) (items : List α) :
    (∃ results, items.mapM step = .ok results) ↔ ∀ item ∈ items, ∃ result, step item = .ok result := by
  simp only [map_m_ok]
  induction items with
  | nil => simp
  | cons item rest ih =>
      simp only [List.forall₂_cons_left_iff, List.forall_mem_cons, ← ih]
      constructor
      · rintro ⟨_, first, others, head, tail, rfl⟩
        exact ⟨⟨first, head⟩, others, tail⟩
      · rintro ⟨⟨first, head⟩, others, tail⟩
        exact ⟨_, first, others, head, tail, rfl⟩

theorem to_option_some {ε α : Type} (result : Except ε α) (value : α) :
    result.toOption = some value ↔ result = .ok value := by
  cases result with
  | ok found => exact ⟨fun same => congrArg Except.ok (Option.some.inj same), fun same => by cases same; rfl⟩
  | error fault => exact ⟨(nomatch ·), (nomatch ·)⟩

theorem map_error_ok {ε δ α : Type} (convert : ε → δ) (value : α) :
    (Except.ok value : Except ε α).mapError convert = .ok value := rfl

theorem map_error_error {ε δ α : Type} (convert : ε → δ) (fault : ε) :
    (Except.error fault : Except ε α).mapError convert = .error (convert fault) := rfl

structure Balanced (adjustments : List Adjustment) : Prop where
  distinct : (adjustments.map Adjustment.account).Nodup
  zero : netAmount adjustments = 0

section Distinct

variable {α κ : Type} (key : α → κ) (earlier : List κ) (item : α) (rest : List α)

theorem distinct_cons_iff :
    (key item ∉ earlier ∧ (∀ other ∈ rest, key other ∉ key item :: earlier) ∧ (rest.map key).Nodup) ↔
      (∀ other ∈ item :: rest, key other ∉ earlier) ∧ ((item :: rest).map key).Nodup := by
  rw [List.map_cons, List.nodup_cons, List.forall_mem_cons]
  simp only [List.mem_cons, not_or, List.mem_map, not_exists, not_and]
  constructor
  · rintro ⟨new, others, distinct⟩
    exact ⟨⟨new, fun other member => (others other member).2⟩, fun other member => (others other member).1, distinct⟩
  · rintro ⟨⟨new, others⟩, apart, distinct⟩
    exact ⟨new, fun other member => ⟨apart other member, others other member⟩, distinct⟩

end Distinct

theorem sum_adjustments_ok (earlier : List AccountId) (net total : Int) (adjustments : List Adjustment) :
    sumAdjustments earlier net adjustments = .ok total ↔
      ((∀ adjustment ∈ adjustments, adjustment.account ∉ earlier) ∧ (adjustments.map Adjustment.account).Nodup) ∧
        total = net + netAmount adjustments := by
  induction adjustments generalizing earlier net with
  | nil =>
      rw [sumAdjustments, netAmount, Int.add_zero, Except.ok.injEq, eq_comm]
      exact (and_iff_right ⟨fun _ member => (List.not_mem_nil member).elim, List.nodup_nil⟩).symm
  | cons adjustment rest ih =>
      simp only [sumAdjustments, except_step_ok, require_ok, Bool.not_eq_true', List.contains_eq_mem,
        decide_eq_false_iff_not, ih, ← distinct_cons_iff, netAmount, Int.add_assoc, and_assoc]

theorem adjustments_check_iff (adjustments : List Adjustment) (unbalanced : Status) :
    checkAdjustments adjustments unbalanced = .ok () ↔ Balanced adjustments := by
  simp only [checkAdjustments, except_bind_ok, sum_adjustments_ok, require_ok, beq_iff_eq, Int.zero_add]
  constructor
  · rintro ⟨_, ⟨⟨_, distinct⟩, rfl⟩, zero⟩
    exact ⟨distinct, zero⟩
  · intro balanced
    exact ⟨_, ⟨⟨fun _ _ => List.not_mem_nil, balanced.distinct⟩, rfl⟩, balanced.zero⟩

structure NftMove.Proper (move : NftMove) : Prop where
  positive : 0 < move.serial.toInt
  apart : move.sender ≠ move.receiver
  somebody : move.receiver ≠ .zero

theorem nft_moves_check_iff (earlier : List Int64) (moves : List NftMove) :
    checkNftMoves earlier moves = .ok () ↔
      (∀ move ∈ moves, move.Proper) ∧ (∀ move ∈ moves, move.serial ∉ earlier) ∧ (moves.map NftMove.serial).Nodup := by
  induction moves generalizing earlier with
  | nil => simp [checkNftMoves]
  | cons move rest ih =>
      simp only [checkNftMoves, except_step_ok, require_ok, decide_eq_true_eq, Bool.and_eq_true, bne_iff_ne,
        Bool.not_eq_true', List.contains_eq_mem, decide_eq_false_iff_not, EntityId.isZero, beq_eq_false_iff_ne,
        ih, ← distinct_cons_iff NftMove.serial]
      rw [List.forall_mem_cons]
      constructor
      · rintro ⟨positive, ⟨apart, somebody⟩, new, proper, distinct⟩
        exact ⟨⟨⟨Int64.lt_iff_toInt_lt.mp positive, apart, somebody⟩, proper⟩, new, distinct⟩
      · rintro ⟨⟨head, proper⟩, new, distinct⟩
        exact ⟨Int64.lt_iff_toInt_lt.mpr head.positive, ⟨head.apart, head.somebody⟩, new, proper, distinct⟩

structure TokenMoves.Proper (moves : TokenMoves) : Prop where
  stocked : moves.adjustments ≠ [] ∨ moves.nftMoves ≠ []
  balanced : Balanced moves.adjustments
  proper : ∀ move ∈ moves.nftMoves, move.Proper
  serials : (moves.nftMoves.map NftMove.serial).Nodup

theorem token_moves_check_iff (earlier : List TokenId) (tokens : List TokenMoves) :
    checkTokenMoves earlier tokens = .ok () ↔
      (∀ moves ∈ tokens, moves.Proper) ∧ (∀ moves ∈ tokens, moves.token ∉ earlier) ∧
        (tokens.map TokenMoves.token).Nodup := by
  induction tokens generalizing earlier with
  | nil => simp [checkTokenMoves]
  | cons moves rest ih =>
      simp only [checkTokenMoves, except_step_ok, require_ok, Bool.not_eq_true', List.contains_eq_mem,
        decide_eq_false_iff_not, Bool.and_eq_false_iff, List.isEmpty_eq_false_iff,
        adjustments_check_iff, nft_moves_check_iff, ih, ← distinct_cons_iff TokenMoves.token]
      rw [List.forall_mem_cons]
      constructor
      · rintro ⟨new, stocked, balanced, ⟨movable, _, serials⟩, proper, distinct⟩
        exact ⟨⟨⟨stocked, balanced, movable, serials⟩, proper⟩, new, distinct⟩
      · rintro ⟨⟨head, proper⟩, new, distinct⟩
        exact ⟨new, head.stocked, head.balanced, ⟨head.proper, fun _ _ => List.not_mem_nil, head.serials⟩, proper,
          distinct⟩

structure ProperTransfer (hbar : List Adjustment) (tokens : List TokenMoves) : Prop where
  stocked : hbar ≠ [] ∨ tokens ≠ []
  balanced : Balanced hbar
  proper : ∀ moves ∈ tokens, moves.Proper
  distinct : (tokens.map TokenMoves.token).Nodup

theorem transfer_check_iff (hbar : List Adjustment) (tokens : List TokenMoves) :
    checkTransfer hbar tokens = .ok () ↔ ProperTransfer hbar tokens := by
  simp only [checkTransfer, except_step_ok, require_ok, Bool.not_eq_true', Bool.and_eq_false_iff,
    List.isEmpty_eq_false_iff, adjustments_check_iff, token_moves_check_iff]
  constructor
  · rintro ⟨stocked, balanced, proper, _, distinct⟩
    exact ⟨stocked, balanced, proper, distinct⟩
  · intro transfer
    exact ⟨transfer.stocked, transfer.balanced, transfer.proper, fun _ _ => List.not_mem_nil, transfer.distinct⟩

theorem transfer_of_check (hbar : List Adjustment) (tokens : List TokenMoves)
    (checked : checkTransfer hbar tokens = .ok ()) : ProperTransfer hbar tokens :=
  (transfer_check_iff hbar tokens).mp checked

structure Creation.Proper (order : Creation) : Prop where
  floor : 0 ≤ order.initialSupply.toInt
  bare : order.type = .nonFungible → order.initialSupply = 0
  capped : order.supplyType = .finite → order.initialSupply.toInt ≤ order.maxSupply.toInt

theorem creation_of_check (config : Config) (order : Creation) (checked : order.check config = .ok ()) :
    order.Proper := by
  simp only [Creation.check, except_bind_ok, require_ok, decide_eq_true_eq, Bool.or_eq_true, beq_iff_eq] at checked
  obtain ⟨_, _, _, _, _, _, _, _, _, _, _, floor, _, _, _, bare, capped⟩ := checked
  refine ⟨Int64.le_iff_toInt_le.mp floor, fun serials => ?_, fun finite => ?_⟩
  · rcases bare with fungible | none
    · rw [serials] at fungible
      cases fungible
    · exact none
  · rcases capped with infinite | bound
    · rw [finite] at infinite
      cases infinite
    · exact Int64.le_iff_toInt_le.mp bound

theorem association_of_check (association : Association) (checked : association.check = .ok ()) :
    association.tokens.Nodup := by
  simp only [Association.check, except_bind_ok, require_ok, decide_eq_true_eq] at checked
  obtain ⟨_, _, distinct⟩ := checked
  exact distinct

end TokenService
