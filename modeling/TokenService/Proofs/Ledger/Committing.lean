import TokenService.Proofs.Ledger.Differences
import TokenService.Proofs.Ledger.Floor
import TokenService.Settlement.Compute

set_option autoImplicit false

namespace TokenService

structure Ledger.Spans (before after : Ledger) : Prop where
  hbar : ∀ account, ∃ amount : Int64, amount.toInt = after.hbar account - before.hbar account
  units : ∀ account id, Ledger.lastType before after id ≠ some .nonFungible →
    ∃ amount : Int64, amount.toInt = after.units account id - before.units account id

section Gathering

variable {ε α β : Type}

theorem gathered_done_iff (step : α → Except ε (Option β)) (items : List α) :
    (∃ found, (do let results ← items.mapM step; pure (results.filterMap id) : Except ε (List β)) = .ok found) ↔
      ∀ item ∈ items, ∃ result, step item = .ok result := by
  rw [← map_m_done_iff]
  constructor
  · rintro ⟨found, gathered⟩
    obtain ⟨results, mapped, _⟩ := (except_bind_ok _ _ _).mp gathered
    exact ⟨results, mapped⟩
  · rintro ⟨results, mapped⟩
    exact ⟨_, (except_bind_ok _ _ _).mpr ⟨results, mapped, rfl⟩⟩

def FailsAs (fault : ε) (computed : Except ε α) : Prop := ∀ other, computed = .error other → other = fault

variable {fault : ε}

theorem fails_as_bind (first : Except ε α) (next : α → Except ε β) (head : FailsAs fault first)
    (tail : ∀ value, FailsAs fault (next value)) : FailsAs fault (first >>= next) := by
  cases first with
  | ok value => exact tail value
  | error other =>
      intro fails same
      cases same
      exact head other rfl

theorem fails_as_map_m (step : α → Except ε β) (items : List α) (each : ∀ item, FailsAs fault (step item)) :
    FailsAs fault (items.mapM step) := by
  induction items with
  | nil => exact fun _ none => nomatch none
  | cons item rest ih =>
      rw [List.mapM_cons]
      refine fails_as_bind _ _ (each item) fun first => fails_as_bind _ _ ih fun others => ?_
      exact fun _ none => nomatch none

end Gathering

section Amounts

variable (account : AccountId) (before after : Int64)

theorem difference_done_iff : (∃ found, Effects.difference account before after = .ok found) ↔
    ∃ amount : Int64, amount.toInt = after.toInt - before.toInt := by
  unfold Effects.difference
  by_cases same : after = before
  · rw [if_pos same, same, Int.sub_self]
    exact iff_of_true ⟨none, rfl⟩ ⟨0, rfl⟩
  · rw [if_neg same]
    constructor
    · rintro ⟨found, told⟩
      obtain ⟨amount, exact, _⟩ := (except_bind_ok _ _ _).mp told
      exact ⟨amount, (sub_exact_ok _ _ _).mp exact⟩
    · rintro ⟨amount, exact⟩
      exact ⟨_, (except_bind_ok _ _ _).mpr ⟨amount, (sub_exact_ok _ _ _).mpr exact, rfl⟩⟩

theorem difference_fails : FailsAs .subtract (Effects.difference account before after) := by
  unfold Effects.difference
  split
  · exact fun _ none => nomatch none
  · refine fails_as_bind _ _ ?_ fun amount _ none => nomatch none
    unfold subExact Overflow.guard
    split
    · exact fun _ none => nomatch none
    · exact fun _ same => (Except.error.inj same).symm

end Amounts

namespace View

variable (view : View)

theorem hbar_done_iff : (∃ found, Effects.hbarDifferences view.ledger view.changes = .ok found) ↔
    ∀ account, ∃ amount : Int64, amount.toInt = view.merged.hbar account - view.ledger.hbar account := by
  rw [Effects.hbarDifferences, gathered_done_iff]
  constructor
  · intro each account
    by_cases same : view.merged.hbar account = view.ledger.hbar account
    · exact ⟨0, by rw [same, Int.sub_self]; rfl⟩
    · obtain ⟨staged, member⟩ := hbar_differing view.ledger view.changes account same
      have fits := (difference_done_iff _ _ _).mp (each _ member)
      rwa [staged_hbar _ _ _ _ member, hbar_balance] at fits
  · intro each ⟨id, staged⟩ member
    refine (difference_done_iff _ _ _).mpr ?_
    rw [staged_hbar _ _ _ _ member, hbar_balance]
    exact each id

theorem unit_difference_done_iff (account : AccountId) (id : TokenId) (staged : Option Relationship)
    (member : (⟨account, id⟩, staged) ∈ view.changes.relationships.rows) :
    (∃ found, unitDifference view.ledger view.changes (⟨account, id⟩, staged) = .ok found) ↔
      (Ledger.lastType view.ledger view.merged id ≠ some .nonFungible →
        ∃ amount : Int64, amount.toInt = view.merged.units account id - view.ledger.units account id) := by
  unfold unitDifference
  simp only [type_after]
  by_cases serial : Ledger.lastType view.ledger view.merged id = some .nonFungible
  · rw [if_pos serial]
    exact iff_of_true ⟨none, rfl⟩ fun counted => absurd serial counted
  · rw [if_neg serial, forall_prop_of_true serial]
    have fits := difference_done_iff account
      (((view.ledger.relationships.get? ⟨account, id⟩).map Relationship.balance).getD 0)
      ((staged.map Relationship.balance).getD 0)
    rw [staged_units _ _ _ _ _ member, units_balance] at fits
    refine Iff.trans ?_ fits
    constructor
    · rintro ⟨_, told⟩
      obtain ⟨found, difference, _⟩ := (except_bind_ok _ _ _).mp told
      exact ⟨found, difference⟩
    · rintro ⟨found, difference⟩
      exact ⟨_, (except_bind_ok _ _ _).mpr ⟨found, difference, rfl⟩⟩

theorem units_done_iff : (∃ found, Effects.unitDifferences view.ledger view.changes = .ok found) ↔
    ∀ account id, Ledger.lastType view.ledger view.merged id ≠ some .nonFungible →
      ∃ amount : Int64, amount.toInt = view.merged.units account id - view.ledger.units account id := by
  rw [unit_differences_each, gathered_done_iff]
  constructor
  · intro each account id counted
    by_cases same : view.merged.units account id = view.ledger.units account id
    · exact ⟨0, by rw [same, Int.sub_self]; rfl⟩
    · obtain ⟨staged, member⟩ := units_differing view.ledger view.changes account id same
      exact (unit_difference_done_iff view account id staged member).mp (each _ member) counted
  · intro each ⟨⟨account, id⟩, staged⟩ member
    exact (unit_difference_done_iff view account id staged member).mpr (each account id)

theorem effects_done_iff : (∃ effects, view.changes.effects view.ledger = .ok effects) ↔
    view.ledger.Spans view.merged := by
  constructor
  · rintro ⟨effects, told⟩
    obtain ⟨units, unitsFound, told⟩ := (except_bind_ok _ _ _).mp told
    obtain ⟨hbar, hbarFound, _⟩ := (except_bind_ok _ _ _).mp told
    exact ⟨view.hbar_done_iff.mp ⟨hbar, hbarFound⟩, view.units_done_iff.mp ⟨units, unitsFound⟩⟩
  · rintro ⟨hbar, units⟩
    obtain ⟨hbar, hbarFound⟩ := view.hbar_done_iff.mpr hbar
    obtain ⟨units, unitsFound⟩ := view.units_done_iff.mpr units
    exact ⟨_, (except_bind_ok _ _ _).mpr ⟨units, unitsFound, (except_bind_ok _ _ _).mpr ⟨hbar, hbarFound, rfl⟩⟩⟩

theorem unit_difference_fails (row : Holding × Option Relationship) :
    FailsAs .subtract (unitDifference view.ledger view.changes row) := by
  unfold unitDifference
  split
  · exact fun _ none => nomatch none
  · exact fails_as_bind _ _ (difference_fails _ _ _) fun _ _ none => nomatch none

theorem effects_fail : FailsAs .subtract (view.changes.effects view.ledger) := by
  refine fails_as_bind _ _ ?_ fun units => fails_as_bind _ _ ?_ fun hbar _ none => nomatch none
  · exact fails_as_bind _ _ (fails_as_map_m _ _ view.unit_difference_fails) fun _ _ none => nomatch none
  · exact fails_as_bind _ _ (fails_as_map_m _ _ fun row => difference_fails _ _ _) fun _ _ none => nomatch none

-- The ways in which a commit ends. The store is asked only when all effects can be told.
inductive Commits (refuses : Changes → Option String) : Except SettlementFault Effects → Prop
  | applied (effects : Effects)
      (spans : view.ledger.Spans view.merged)
      (told : view.changes.effects view.ledger = .ok effects)
      (taken : refuses view.changes = none) :
      Commits refuses (.ok effects)
  | refused (reason : String)
      (spans : view.ledger.Spans view.merged)
      (asked : refuses view.changes = some reason) :
      Commits refuses (.error (.store reason))
  | broken (beyond : ¬ view.ledger.Spans view.merged) : Commits refuses (.error (.overflow .subtract))

theorem commit_ends (refuses : Changes → Option String) : view.Commits refuses (view.commit refuses) := by
  unfold commit
  cases told : view.changes.effects view.ledger with
  | ok effects =>
      have spans := view.effects_done_iff.mp ⟨effects, told⟩
      cases asked : refuses view.changes with
      | none => exact .applied effects spans told asked
      | some reason => exact .refused reason spans asked
  | error operation =>
      cases view.effects_fail operation told
      refine .broken fun spans => ?_
      obtain ⟨effects, found⟩ := view.effects_done_iff.mpr spans
      cases told.symm.trans found

def stored (refuses : Changes → Option String) : Ledger :=
  match view.commit refuses with
  | .ok _ => view.ledger.apply view.changes
  | .error _ => view.ledger

theorem stored_committed (refuses : Changes → Option String) (effects : Effects)
    (committed : view.commit refuses = .ok effects) : view.stored refuses = view.ledger.apply view.changes := by
  rw [stored, committed]

theorem stored_broken (refuses : Changes → Option String) (fault : SettlementFault)
    (broken : view.commit refuses = .error fault) : view.stored refuses = view.ledger := by
  rw [stored, broken]

end View

section Afloat

theorem afloat_hbar (ledger : Ledger) (afloat : ledger.Afloat) (account : AccountId) :
    0 ≤ ledger.hbar account ∧ ledger.hbar account ≤ Int64.maxValue.toInt := by
  unfold Ledger.hbar
  cases found : ledger.accounts.get? account with
  | none => decide
  | some row => exact ⟨afloat.hbar account row found, Int64.toInt_le _⟩

theorem afloat_units (ledger : Ledger) (afloat : ledger.Afloat) (account : AccountId) (id : TokenId) :
    0 ≤ ledger.units account id ∧ ledger.units account id ≤ Int64.maxValue.toInt := by
  unfold Ledger.units
  cases found : ledger.relationships.get? ⟨account, id⟩ with
  | none => decide
  | some row => exact ⟨afloat.units _ row found, Int64.toInt_le _⟩

theorem afloat_amount (before after : Int) (floor : 0 ≤ before ∧ before ≤ Int64.maxValue.toInt)
    (above : 0 ≤ after ∧ after ≤ Int64.maxValue.toInt) : ∃ amount : Int64, amount.toInt = after - before := by
  have low : Int64.minValue.toInt = -9223372036854775808 := by decide
  have high : Int64.maxValue.toInt = 9223372036854775807 := by decide
  exact ⟨.ofInt (after - before), Int64.toInt_ofInt_of_le (by omega) (by omega)⟩

theorem afloat_spans (view : View) (afloat : view.Afloat) : view.ledger.Spans view.merged where
  hbar account := afloat_amount _ _ (afloat_hbar _ afloat.base account) (afloat_hbar _ afloat.top account)
  units account id _ := afloat_amount _ _ (afloat_units _ afloat.base account id) (afloat_units _ afloat.top account id)

theorem effects_ok (view : View) (afloat : view.Afloat) : ∃ effects, view.changes.effects view.ledger = .ok effects :=
  view.effects_done_iff.mpr (afloat_spans view afloat)

end Afloat

end TokenService
