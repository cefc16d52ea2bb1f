import TokenService.Table

set_option autoImplicit false

namespace TokenService

section Rows

variable {κ ρ : Type}

def totalRows (weight : κ → ρ → Int) : List (κ × ρ) → Int
  | [] => 0
  | (key, row) :: rest => weight key row + totalRows weight rest

theorem total_rows_zero (weight : κ → ρ → Int) (rows : List (κ × ρ))
    (weightless : ∀ entry ∈ rows, weight entry.1 entry.2 = 0) : totalRows weight rows = 0 := by
  induction rows with
  | nil => rfl
  | cons head rest ih =>
      have first := weightless head List.mem_cons_self
      have others := ih fun entry member => weightless entry (List.mem_cons_of_mem _ member)
      rw [totalRows, first, others]
      rfl

theorem total_rows_sub (weight part : κ → ρ → Int) (rows : List (κ × ρ)) :
    totalRows (fun key row => weight key row - part key row) rows = totalRows weight rows - totalRows part rows := by
  induction rows with
  | nil => rfl
  | cons head rest ih =>
      rw [totalRows, ih, totalRows, totalRows]
      omega

theorem total_rows_nonneg (weight : κ → ρ → Int) (rows : List (κ × ρ))
    (nonneg : ∀ entry ∈ rows, 0 ≤ weight entry.1 entry.2) : 0 ≤ totalRows weight rows := by
  induction rows with
  | nil => exact Int.le_refl 0
  | cons head rest ih =>
      have first := nonneg head List.mem_cons_self
      have others := ih fun entry member => nonneg entry (List.mem_cons_of_mem _ member)
      exact Int.add_nonneg first others

theorem total_rows_member (weight : κ → ρ → Int) (rows : List (κ × ρ)) (entry : κ × ρ)
    (nonneg : ∀ other ∈ rows, 0 ≤ weight other.1 other.2) (member : entry ∈ rows) :
    weight entry.1 entry.2 ≤ totalRows weight rows := by
  induction rows with
  | nil => cases member
  | cons head rest ih =>
      have first := nonneg head List.mem_cons_self
      have others : ∀ other ∈ rest, 0 ≤ weight other.1 other.2 :=
        fun other later => nonneg other (List.mem_cons_of_mem _ later)
      have floor := total_rows_nonneg weight rest others
      rw [totalRows]
      rcases List.mem_cons.mp member with same | later
      · subst same
        omega
      · have bound := ih others later
        omega

variable [Ord κ] [Std.LawfulEqOrd κ]

theorem total_rows_insert (weight : κ → ρ → Int) (key : κ) (row : ρ) (rows : List (κ × ρ)) :
    totalRows weight (insertRow key row rows) =
      totalRows weight rows + weight key row - ((findRow key rows).map (weight key)).getD 0 := by
  induction rows with
  | nil => simp [insertRow, findRow, totalRows]
  | cons head rest ih =>
      obtain ⟨other, old⟩ := head
      rw [insertRow, findRow]
      cases order : compare key other with
      | lt =>
          simp only [totalRows, Option.map_none, Option.getD_none]
          omega
      | eq =>
          cases Std.LawfulEqOrd.eq_of_compare order
          simp only [totalRows, Option.map_some, Option.getD_some]
          omega
      | gt =>
          simp only [totalRows, ih]
          omega

theorem total_rows_erase (weight : κ → ρ → Int) (key : κ) (rows : List (κ × ρ)) :
    totalRows weight (eraseRow key rows) =
      totalRows weight rows - ((findRow key rows).map (weight key)).getD 0 := by
  induction rows with
  | nil => rfl
  | cons head rest ih =>
      obtain ⟨other, old⟩ := head
      rw [eraseRow, findRow]
      cases order : compare key other with
      | lt =>
          simp only [Option.map_none, Option.getD_none]
          omega
      | eq =>
          cases Std.LawfulEqOrd.eq_of_compare order
          simp only [totalRows, Option.map_some, Option.getD_some]
          omega
      | gt =>
          simp only [totalRows, ih]
          omega

end Rows

namespace Table

variable {κ ρ : Type} [Ord κ]

def total (weight : κ → ρ → Int) (table : Table κ ρ) : Int := totalRows weight table.rows

theorem total_sub (weight part : κ → ρ → Int) (table : Table κ ρ) :
    table.total (fun key row => weight key row - part key row) = table.total weight - table.total part :=
  total_rows_sub weight part table.rows

variable [Std.LawfulEqOrd κ]

theorem total_erase (weight : κ → ρ → Int) (table : Table κ ρ) (key : κ) :
    (table.erase key).total weight = table.total weight - ((table.get? key).map (weight key)).getD 0 :=
  total_rows_erase weight key table.rows

variable [Std.TransOrd κ]

theorem total_insert (weight : κ → ρ → Int) (table : Table κ ρ) (key : κ) (row : ρ) :
    (table.insert key row).total weight =
      table.total weight + weight key row - ((table.get? key).map (weight key)).getD 0 :=
  total_rows_insert weight key row table.rows

theorem total_set [DecidableEq κ] (weight : κ → ρ → Int) (table : Table κ ρ) (key : κ) (row : Option ρ) :
    (table.set key row).total weight =
      table.total weight + (row.map (weight key)).getD 0 - ((table.get? key).map (weight key)).getD 0 := by
  cases row with
  | none => exact (total_erase weight table key).trans (by rw [Option.map_none, Option.getD_none, Int.add_zero])
  | some row => exact total_insert weight table key row

-- Changes are made one after the other, and each finds the row that was there before all of them.
theorem total_merge [DecidableEq κ] (weight : κ → ρ → Int) (table : Table κ ρ) (changes : Table κ (Option ρ)) :
    (table.merge changes).total weight = table.total weight + totalRows
      (fun key row => (row.map (weight key)).getD 0 - ((table.get? key).map (weight key)).getD 0) changes.rows := by
  have along (rows : List (κ × Option ρ)) (ascending : Ascending rows) (middle : Table κ ρ)
      (same : ∀ entry ∈ rows, middle.get? entry.1 = table.get? entry.1) :
      (rows.foldl (fun table entry => table.set entry.1 entry.2) middle).total weight =
        middle.total weight + totalRows
          (fun key row => (row.map (weight key)).getD 0 - ((table.get? key).map (weight key)).getD 0) rows := by
    induction rows generalizing middle with
    | nil => exact (Int.add_zero _).symm
    | cons head rest ih =>
        obtain ⟨first, others⟩ := List.forall_mem_cons.mp same
        obtain ⟨below, ascending⟩ := List.pairwise_cons.mp ascending
        have later : ∀ entry ∈ rest, (middle.set head.1 head.2).get? entry.1 = table.get? entry.1 := by
          intro entry member
          have apart : entry.1 ≠ head.1 := by
            intro equal
            have less := below entry member
            rw [equal, Std.ReflOrd.compare_self] at less
            cases less
          rw [get_set, if_neg apart, others entry member]
        rw [List.foldl_cons, ih ascending _ later, total_set, first, totalRows]
        omega
  exact along changes.rows changes.ascending table fun _ _ => rfl

theorem total_zero (weight : κ → ρ → Int) (table : Table κ ρ)
    (weightless : ∀ key row, table.get? key = some row → weight key row = 0) : table.total weight = 0 :=
  total_rows_zero weight table.rows fun entry member =>
    weightless entry.1 entry.2 ((table.get_some_iff entry.1 entry.2).mpr member)

theorem total_nonneg (weight : κ → ρ → Int) (table : Table κ ρ)
    (nonneg : ∀ key row, table.get? key = some row → 0 ≤ weight key row) : 0 ≤ table.total weight :=
  total_rows_nonneg weight table.rows fun entry member =>
    nonneg entry.1 entry.2 ((table.get_some_iff entry.1 entry.2).mpr member)

theorem weight_le_total (weight : κ → ρ → Int) (table : Table κ ρ) (key : κ) (row : ρ)
    (nonneg : ∀ other found, table.get? other = some found → 0 ≤ weight other found)
    (present : table.get? key = some row) : weight key row ≤ table.total weight :=
  total_rows_member weight table.rows (key, row)
    (fun entry member => nonneg entry.1 entry.2 ((table.get_some_iff entry.1 entry.2).mpr member))
    ((table.get_some_iff key row).mp present)

end Table

end TokenService
