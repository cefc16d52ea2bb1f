import TokenService.Ledger.Work

set_option autoImplicit false

namespace TokenService

theorem add_exact_ok (a b sum : Int64) : addExact a b = .ok sum ↔ sum.toInt = a.toInt + b.toInt := by
  rw [← int64_some_iff]
  unfold addExact Overflow.guard
  cases int64? (a.toInt + b.toInt) <;> simp

theorem sub_exact_ok (a b rest : Int64) : subExact a b = .ok rest ↔ rest.toInt = a.toInt - b.toInt := by
  rw [← int64_some_iff]
  unfold subExact Overflow.guard
  cases int64? (a.toInt - b.toInt) <;> simp

theorem neg_exact_ok (a loss : Int64) : negExact a = .ok loss ↔ loss.toInt = -a.toInt := by
  rw [← int64_some_iff]
  unfold negExact Overflow.guard
  cases int64? (-a.toInt) <;> simp

namespace Work

variable {α β : Type}

def Yields (work : Work α) (before : View) (value : α) (after : View) : Prop := work before = (.ok value, after)

theorem yields_of_ok (work : Work α) (before : View) (ok : (work before).1.isOk = true) :
    ∃ value after, work.Yields before value after := by
  rcases run : work before with ⟨_ | value, after⟩
  · rw [run] at ok
    cases ok
  · exact ⟨value, after, run⟩

theorem run_bind (work : Work α) (next : α → Work β) (before : View) :
    (work >>= next) before = match work before with
      | (.ok value, middle) => next value middle
      | (.error failure, middle) => (.error failure, middle) := by
  change ExceptT.bind work next before = _
  simp only [ExceptT.bind, ExceptT.mk, bind, StateT.bind, ExceptT.bindCont]
  rcases work before with ⟨_ | _, _⟩ <;> rfl

theorem yields_bind (work : Work α) (next : α → Work β) (before after : View) (value : β) :
    (work >>= next).Yields before value after ↔
      ∃ middle between, work.Yields before middle between ∧ (next middle).Yields between value after := by
  unfold Yields
  rw [run_bind]
  constructor
  · intro run
    cases first : work before with
    | mk result between =>
        rw [first] at run
        cases result with
        | ok middle => exact ⟨middle, between, rfl, run⟩
        | error failure => cases run
  · rintro ⟨middle, between, first, rest⟩
    rw [first]
    exact rest

theorem yields_pure (result value : α) (before after : View) :
    (pure result : Work α).Yields before value after ↔ value = result ∧ after = before := by
  constructor
  · intro run
    cases run
    exact ⟨rfl, rfl⟩
  · rintro ⟨rfl, rfl⟩
    rfl

theorem yields_get (before after view : View) :
    (get : Work View).Yields before view after ↔ view = before ∧ after = before := by
  constructor
  · intro run
    cases run
    exact ⟨rfl, rfl⟩
  · rintro ⟨rfl, rfl⟩
    rfl

theorem yields_set (before after view : View) (value : PUnit) :
    (set view : Work PUnit).Yields before value after ↔ after = view := by
  constructor
  · intro run
    cases run
    rfl
  · rintro rfl
    rfl

theorem yields_throw (failure : Failure) (before after : View) (value : α) :
    ¬ (throw failure : Work α).Yields before value after := by
  intro run
  cases run

theorem yields_refuse (status : Status) (before after : View) (value : α) :
    ¬ (refuse status : Work α).Yields before value after := by
  intro run
  cases run

theorem yields_require (rule : Bool) (status : Status) (before after : View) (value : Unit) :
    (require rule status).Yields before value after ↔ rule = true ∧ after = before := by
  cases rule with
  | true => simp [require, yields_pure]
  | false => simp [require, yields_refuse]

theorem yields_read (look : View → Except Status α) (before after : View) (value : α) :
    (read look).Yields before value after ↔ look before = .ok value ∧ after = before := by
  unfold read
  rw [yields_bind]
  constructor
  · rintro ⟨view, between, seen, found⟩
    obtain ⟨rfl, rfl⟩ := (yields_get _ _ _).mp seen
    cases answer : look between with
    | ok row =>
        rw [answer] at found
        obtain ⟨rfl, rfl⟩ := (yields_pure _ _ _ _).mp found
        exact ⟨rfl, rfl⟩
    | error status =>
        rw [answer] at found
        exact absurd found (yields_refuse _ _ _ _)
  · rintro ⟨found, rfl⟩
    refine ⟨after, after, rfl, ?_⟩
    rw [found]
    rfl

theorem yields_discard (work : Work α) (before after : View) (value : PUnit) :
    (discard work : Work PUnit).Yields before value after ↔ ∃ row, work.Yields before row after := by
  change (work >>= fun _ => pure PUnit.unit).Yields before value after ↔ _
  rw [yields_bind]
  constructor
  · rintro ⟨row, between, run, rest⟩
    obtain ⟨_, rfl⟩ := (yields_pure _ _ _ _).mp rest
    exact ⟨row, run⟩
  · rintro ⟨row, run⟩
    exact ⟨row, after, run, rfl⟩

theorem yields_change (step : View → View) (before after : View) (value : Unit) :
    (change step).Yields before value after ↔ after = step before := by
  constructor
  · intro run
    cases run
    rfl
  · rintro rfl
    rfl

theorem yields_exact (result : Except Overflow α) (before after : View) (value : α) :
    (exact result).Yields before value after ↔ result = .ok value ∧ after = before := by
  cases result with
  | ok row =>
      change (pure row : Work α).Yields before value after ↔ _
      rw [yields_pure]
      constructor
      · rintro ⟨rfl, rfl⟩
        exact ⟨rfl, rfl⟩
      · rintro ⟨same, rfl⟩
        cases same
        exact ⟨rfl, rfl⟩
  | error operation =>
      constructor
      · intro run
        cases run
      · rintro ⟨same, _⟩
        cases same

theorem yields_adjusted (balance delta : Int64) (insufficient : Status) (before after : View) (value : Int64) :
    (adjusted balance delta insufficient).Yields before value after ↔
      value.toInt = balance.toInt + delta.toInt ∧ 0 ≤ value.toInt ∧ after = before := by
  unfold adjusted
  have zero : (0 : Int64).toInt = 0 := by decide
  cases sum : int64? (balance.toInt + delta.toInt) with
  | none =>
      constructor
      · intro run
        exact absurd run (yields_refuse _ _ _ _)
      · rintro ⟨same, _⟩
        rw [(int64_some_iff _ value).mpr same] at sum
        cases sum
  | some updated =>
      have total := (int64_some_iff _ _).mp sum
      by_cases floor : 0 ≤ updated
      · simp only [if_pos floor, yields_pure]
        rw [Int64.le_iff_toInt_le, zero] at floor
        constructor
        · rintro ⟨rfl, rfl⟩
          exact ⟨total, floor, rfl⟩
        · rintro ⟨same, _, rfl⟩
          exact ⟨Int64.toInt_inj.mp (same.trans total.symm), rfl⟩
      · simp only [if_neg floor]
        rw [Int64.le_iff_toInt_le, zero] at floor
        constructor
        · intro run
          exact absurd run (yields_refuse _ _ _ _)
        · rintro ⟨same, bound, _⟩
          exact absurd (total ▸ same ▸ bound) floor

theorem yields_completed (work : Work Unit) (before after : View) (value : Execution)
    (run : (do work; pure Execution.completed : Work Execution).Yields before value after) :
    work.Yields before () after ∧ value = .completed := by
  obtain ⟨_, between, first, rest⟩ := (yields_bind _ _ _ _ _).mp run
  obtain ⟨rfl, rfl⟩ := (yields_pure _ _ _ _).mp rest
  exact ⟨first, rfl⟩

theorem yields_for_nil (step : α → Work PUnit) (before after : View) (value : PUnit) :
    (([] : List α).forM step).Yields before value after ↔ after = before := by
  change (pure PUnit.unit : Work PUnit).Yields before value after ↔ _
  rw [yields_pure]
  exact and_iff_right rfl

theorem yields_for_cons (step : α → Work PUnit) (item : α) (rest : List α) (before after : View) (value : PUnit) :
    ((item :: rest).forM step).Yields before value after ↔
      ∃ between, (step item).Yields before () between ∧ (rest.forM step).Yields between () after := by
  change (step item >>= fun _ => rest.forM step).Yields before value after ↔ _
  rw [yields_bind]
  constructor
  · rintro ⟨_, between, first, last⟩
    exact ⟨between, first, last⟩
  · rintro ⟨between, first, last⟩
    exact ⟨(), between, first, last⟩

end Work

end TokenService
