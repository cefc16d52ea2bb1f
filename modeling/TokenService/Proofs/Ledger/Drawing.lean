import TokenService.Proofs.Ledger.Deeds
import TokenService.Proofs.Ledger.Yields

set_option autoImplicit false

namespace TokenService

structure Room (balance amount : Int64) : Prop where
  floor : 0 ≤ balance.toInt + amount.toInt
  top : balance.toInt + amount.toInt ≤ Int64.maxValue.toInt

theorem room_sum (balance amount : Int64) (room : Room balance amount) :
    (balance + amount).toInt = balance.toInt + amount.toInt := by
  have floor := room.floor
  have top := room.top
  have high : Int64.maxValue.toInt = 9223372036854775807 := by decide
  rw [Int64.toInt_add]
  exact Int.bmod_eq_of_le (by omega) (by omega)

theorem room_iff (balance amount after : Int64) :
    after.toInt = balance.toInt + amount.toInt ∧ 0 ≤ after.toInt ↔ Room balance amount ∧ after = balance + amount := by
  constructor
  · rintro ⟨sum, floor⟩
    have room : Room balance amount := ⟨sum ▸ floor, sum ▸ Int64.toInt_le after⟩
    exact ⟨room, Int64.toInt_inj.mp (sum.trans (room_sum _ _ room).symm)⟩
  · rintro ⟨room, rfl⟩
    exact ⟨room_sum _ _ room, (room_sum _ _ room).symm ▸ room.floor⟩

theorem draws_debit (adjustment : Adjustment) (draws : Work.draws adjustment = true) : adjustment.amount.toInt < 0 := by
  simp only [Work.draws, Bool.and_eq_true, decide_eq_true_eq, Int64.lt_iff_toInt_lt] at draws
  exact draws.2

section Draws

variable {κ : Type} [Ord κ]

def Covered (allowances : Table κ Int64) (key : κ) (adjustment : Adjustment) : Prop :=
  Work.draws adjustment = true → ∃ granted ∈ allowances.get? key, -adjustment.amount.toInt ≤ granted.toInt

variable [Std.TransOrd κ] [Std.LawfulEqOrd κ]

-- What is left of an allowance after an adjustment. One that is used up ends.
def leftOf (granted : Option Int64) (adjustment : Adjustment) : Option Int64 :=
  if Work.draws adjustment then
    granted.bind fun granted => if granted + adjustment.amount = 0 then none else some (granted + adjustment.amount)
  else granted

def spent (allowances : Table κ Int64) (key : κ) (adjustment : Adjustment) : Table κ Int64 :=
  allowances.set key (leftOf (allowances.get? key) adjustment)

variable [DecidableEq κ]

theorem get_spent (allowances : Table κ Int64) (key other : κ) (adjustment : Adjustment) :
    (spent allowances key adjustment).get? other =
      if other = key then leftOf (allowances.get? key) adjustment else allowances.get? other :=
  Table.get_set _ _ _ _

theorem spent_comm (allowances : Table κ Int64) (key other : κ) (first second : Adjustment) (apart : key ≠ other) :
    spent (spent allowances other second) key first = spent (spent allowances key first) other second := by
  apply Table.table_ext
  intro query
  simp only [get_spent, if_neg apart, if_neg (Ne.symm apart)]
  by_cases here : query = key
  · simp [here, apart]
  · simp [here]

theorem spent_same (allowances : Table κ Int64) (key : κ) (adjustment : Adjustment)
    (kept : leftOf (allowances.get? key) adjustment = allowances.get? key) :
    spent allowances key adjustment = allowances := by
  apply Table.table_ext
  intro query
  rw [get_spent, kept]
  by_cases here : query = key
  · rw [if_pos here, here]
  · rw [if_neg here]

theorem spent_drawn (allowances : Table κ Int64) (key : κ) (adjustment : Adjustment)
    (covered : Covered allowances key adjustment) :
    Drawn allowances key adjustment (spent allowances key adjustment) := by
  refine ⟨fun idle => ?_, fun draws => ?_, fun other apart => ?_⟩
  · refine spent_same _ _ _ (if_neg ?_)
    rw [idle]
    exact Bool.false_ne_true
  · obtain ⟨granted, found, enough⟩ := covered draws
    refine ⟨granted, found, enough, ?_⟩
    have top := granted.toInt_le
    have debit := draws_debit adjustment draws
    have sum := room_sum granted adjustment.amount ⟨by omega, by omega⟩
    rw [get_spent, if_pos rfl, leftOf, if_pos draws, found, Option.bind_some, ← sum]
    by_cases all : granted + adjustment.amount = 0
    · rw [if_pos all, all, Option.getD_none]
    · rw [if_neg all, Option.getD_some]
  · rw [get_spent, if_neg apart]

end Draws

namespace Work

variable (before after : View)

theorem adjusted_yields (balance amount value : Int64) (insufficient : Status) :
    (adjusted balance amount insufficient).Yields before value after ↔
      Room balance amount ∧ value = balance + amount ∧ after = before := by
  rw [yields_adjusted, ← and_assoc, room_iff, and_assoc]

section Draws

variable {κ : Type} [Ord κ] [Std.TransOrd κ] [Std.LawfulEqOrd κ] [DecidableEq κ]

omit [DecidableEq κ] in
theorem rest_yields (allowances rest : Table κ Int64) (key : κ) (granted amount debit : Int64)
    (negative : amount.toInt = -debit.toInt) (room : Room granted debit) :
    (if granted = amount then pure (allowances.erase key) else do
        let rest ← exact (subExact granted amount)
        pure (allowances.insert key rest) : Work (Table κ Int64)).Yields before rest after ↔
      rest = allowances.set key (if granted + debit = 0 then none else some (granted + debit)) ∧ after = before := by
  have sum := room_sum _ _ room
  have zero : (0 : Int64).toInt = 0 := rfl
  have ends : granted + debit = 0 ↔ granted = amount := by
    rw [← Int64.toInt_inj, ← Int64.toInt_inj]
    omega
  by_cases all : granted = amount
  · rw [if_pos all, if_pos (ends.mpr all), yields_pure]
    exact Iff.rfl
  · rw [if_neg all, if_neg (mt ends.mp all)]
    simp only [yields_bind, yields_exact, yields_pure, sub_exact_ok, Table.set]
    constructor
    · rintro ⟨left, _, ⟨less, rfl⟩, rfl, rfl⟩
      have same : left = granted + debit := Int64.toInt_inj.mp (by omega)
      exact ⟨by rw [same], rfl⟩
    · rintro ⟨rfl, rfl⟩
      exact ⟨granted + debit, after, ⟨by omega, rfl⟩, rfl, rfl⟩

omit [DecidableEq κ] in
theorem draw_yields (allowances rest : Table κ Int64) (key : κ) (adjustment : Adjustment)
    (draws : Work.draws adjustment = true) : (draw allowances key adjustment.amount).Yields before rest after ↔
      Covered allowances key adjustment ∧ rest = spent allowances key adjustment ∧ after = before := by
  have debit := draws_debit adjustment draws
  simp only [draw, yields_bind, yields_exact, neg_exact_ok, spent, Covered, leftOf, draws, if_true, true_imp_iff]
  cases look : allowances.get? key with
  | none =>
      constructor
      · rintro ⟨_, _, _, found⟩
        exact absurd found (yields_refuse _ _ _ _)
      · rintro ⟨⟨_, absent, _⟩, _⟩
        cases absent
  | some granted =>
      simp only [yields_bind, yields_require, decide_eq_true_eq, Int64.le_iff_toInt_le, Option.bind_some]
      have top := granted.toInt_le
      constructor
      · rintro ⟨amount, _, ⟨negative, rfl⟩, _, _, ⟨enough, rfl⟩, found⟩
        have room : Room granted adjustment.amount := ⟨by omega, by omega⟩
        exact ⟨⟨granted, rfl, by omega⟩, (rest_yields _ _ _ _ _ _ _ _ negative room).mp found⟩
      · rintro ⟨⟨_, found, enough⟩, rest⟩
        cases found
        have room : Room granted adjustment.amount := ⟨by omega, by omega⟩
        have low : Int64.minValue.toInt = -9223372036854775808 := by decide
        obtain ⟨amount, exact⟩ : ∃ amount, int64? (-adjustment.amount.toInt) = some amount :=
          ⟨_, if_pos ⟨by omega, by omega⟩⟩
        have negative := (int64_some_iff _ _).mp exact
        exact ⟨amount, before, ⟨negative, rfl⟩, (), before, ⟨by omega, rfl⟩,
          (rest_yields _ _ _ _ _ _ _ _ negative room).mpr rest⟩

theorem drawn_yields (allowances rest : Table κ Int64) (key : κ) (adjustment : Adjustment) :
    (drawn allowances key adjustment).Yields before rest after ↔
      Covered allowances key adjustment ∧ rest = spent allowances key adjustment ∧ after = before := by
  unfold drawn
  by_cases draws : Work.draws adjustment = true
  · rw [if_pos draws, draw_yields before after allowances rest key adjustment draws]
  · rw [if_neg draws, yields_pure, spent_same _ _ _ (if_neg draws)]
    exact (and_iff_right fun drawing => absurd drawing draws).symm

end Draws

end Work

end TokenService
