set_option autoImplicit false

namespace TokenService

section Rows

variable {κ ρ : Type} [Ord κ]

def Ascending (rows : List (κ × ρ)) : Prop := rows.Pairwise fun earlier later => compare earlier.1 later.1 = .lt

def findRow (key : κ) : List (κ × ρ) → Option ρ
  | [] => none
  | (other, row) :: rest =>
      match compare key other with
      | .lt => none
      | .eq => some row
      | .gt => findRow key rest

def insertRow (key : κ) (row : ρ) : List (κ × ρ) → List (κ × ρ)
  | [] => [(key, row)]
  | (other, old) :: rest =>
      match compare key other with
      | .lt => (key, row) :: (other, old) :: rest
      | .eq => (key, row) :: rest
      | .gt => (other, old) :: insertRow key row rest

def eraseRow (key : κ) : List (κ × ρ) → List (κ × ρ)
  | [] => []
  | (other, old) :: rest =>
      match compare key other with
      | .lt => (other, old) :: rest
      | .eq => rest
      | .gt => (other, old) :: eraseRow key rest

theorem insert_row_keys (key : κ) (row : ρ) (rows : List (κ × ρ)) (entry : κ × ρ)
    (present : entry ∈ insertRow key row rows) : entry = (key, row) ∨ entry ∈ rows := by
  induction rows with
  | nil => simpa [insertRow] using present
  | cons head rest ih =>
      obtain ⟨other, old⟩ := head
      unfold insertRow at present
      split at present
      · simpa using present
      · rcases List.mem_cons.mp present with same | later
        · exact .inl same
        · exact .inr (List.mem_cons_of_mem _ later)
      · rcases List.mem_cons.mp present with same | later
        · exact .inr (same ▸ List.mem_cons_self)
        · exact (ih later).imp_right (List.mem_cons_of_mem _)

theorem erase_row_sublist (key : κ) (rows : List (κ × ρ)) : (eraseRow key rows).Sublist rows := by
  induction rows with
  | nil => exact .slnil
  | cons head rest ih =>
      obtain ⟨other, old⟩ := head
      unfold eraseRow
      split
      · exact .refl _
      · exact .cons _ (.refl _)
      · exact .cons_cons _ ih

theorem find_row_below (key : κ) (rows : List (κ × ρ))
    (below : ∀ entry ∈ rows, compare key entry.1 = .lt) : findRow key rows = none := by
  cases rows with
  | nil => rfl
  | cons head rest =>
      obtain ⟨other, old⟩ := head
      have less := below (other, old) List.mem_cons_self
      simp only at less
      simp [findRow, less]

variable [Std.TransOrd κ] [Std.LawfulEqOrd κ]

theorem insert_row_ascending (key : κ) (row : ρ) (rows : List (κ × ρ)) (ascending : Ascending rows) :
    Ascending (insertRow key row rows) := by
  induction rows with
  | nil => exact List.pairwise_singleton _ _
  | cons head rest ih =>
      obtain ⟨other, old⟩ := head
      have above := List.pairwise_cons.mp ascending
      unfold insertRow
      split
      · rename_i below
        refine List.pairwise_cons.mpr ⟨fun entry present => ?_, ascending⟩
        rcases List.mem_cons.mp present with same | later
        · exact same ▸ below
        · exact Std.TransCmp.lt_trans below (above.1 entry later)
      · rename_i equal
        cases Std.LawfulEqOrd.eq_of_compare equal
        exact List.pairwise_cons.mpr ⟨above.1, above.2⟩
      · rename_i beyond
        refine List.pairwise_cons.mpr ⟨fun entry present => ?_, ih above.2⟩
        rcases insert_row_keys key row rest entry present with same | later
        · exact same ▸ Std.OrientedCmp.lt_of_gt beyond
        · exact above.1 entry later

theorem find_row_insert [DecidableEq κ] (key other : κ) (row : ρ) (rows : List (κ × ρ)) (ascending : Ascending rows) :
    findRow other (insertRow key row rows) = if other = key then some row else findRow other rows := by
  induction rows with
  | nil =>
      by_cases same : other = key
      · subst same
        simp [insertRow, findRow]
      · have apart : compare other key ≠ .eq := fun equal => same (Std.LawfulEqOrd.eq_of_compare equal)
        rw [if_neg same]
        unfold insertRow findRow
        split <;> simp_all [findRow]
  | cons head rest ih =>
      obtain ⟨first, old⟩ := head
      have above := List.pairwise_cons.mp ascending
      unfold insertRow
      split
      · rename_i below
        by_cases same : other = key
        · subst same
          simp [findRow]
        · rw [if_neg same]
          have apart : compare other key ≠ .eq := fun equal => same (Std.LawfulEqOrd.eq_of_compare equal)
          rw [findRow]
          split
          · rename_i less
            have lower := Std.TransCmp.lt_trans less below
            simp [findRow, lower]
          · contradiction
          · rfl
      · rename_i equal
        cases Std.LawfulEqOrd.eq_of_compare equal
        by_cases same : other = key
        · subst same
          simp [findRow]
        · have apart : compare other key ≠ .eq := fun equal => same (Std.LawfulEqOrd.eq_of_compare equal)
          rw [if_neg same, findRow, findRow]
          split <;> simp_all
      · rename_i beyond
        by_cases same : other = key
        · subst same
          simp only [findRow, beyond, ih above.2, if_true]
        · simp only [findRow, ih above.2, if_neg same]

theorem find_row_erase [DecidableEq κ] (key other : κ) (rows : List (κ × ρ)) (ascending : Ascending rows) :
    findRow other (eraseRow key rows) = if other = key then none else findRow other rows := by
  induction rows with
  | nil => simp [eraseRow, findRow]
  | cons head rest ih =>
      obtain ⟨first, old⟩ := head
      have above := List.pairwise_cons.mp ascending
      unfold eraseRow
      split
      · rename_i below
        by_cases same : other = key
        · subst same
          simp [findRow, below]
        · rw [if_neg same]
      · rename_i equal
        cases Std.LawfulEqOrd.eq_of_compare equal
        by_cases same : other = key
        · subst same
          rw [if_pos rfl, find_row_below _ _ above.1]
        · rw [if_neg same, findRow]
          split
          · rename_i less
            exact find_row_below _ _ fun entry present => Std.TransCmp.lt_trans less (above.1 entry present)
          · rename_i alike
            exact absurd (Std.LawfulEqOrd.eq_of_compare alike) same
          · rfl
      · rename_i beyond
        by_cases same : other = key
        · subst same
          simp only [findRow, beyond, ih above.2, if_true]
        · simp only [findRow, ih above.2, if_neg same]

theorem find_row_some_iff (key : κ) (row : ρ) (rows : List (κ × ρ)) (ascending : Ascending rows) :
    findRow key rows = some row ↔ (key, row) ∈ rows := by
  induction rows with
  | nil => simp [findRow]
  | cons head rest ih =>
      obtain ⟨other, old⟩ := head
      have above := List.pairwise_cons.mp ascending
      rw [findRow]
      split
      · rename_i below
        constructor
        · intro found
          cases found
        · intro present
          rcases List.mem_cons.mp present with same | later
          · cases same
            simp at below
          · have lower := Std.TransCmp.lt_trans below (above.1 _ later)
            simp at lower
      · rename_i equal
        cases Std.LawfulEqOrd.eq_of_compare equal
        constructor
        · intro found
          cases found
          exact List.mem_cons_self
        · intro present
          rcases List.mem_cons.mp present with same | later
          · cases same
            rfl
          · have lower := above.1 _ later
            simp at lower
      · rename_i beyond
        rw [ih above.2]
        constructor
        · exact List.mem_cons_of_mem _
        · intro present
          rcases List.mem_cons.mp present with same | later
          · cases same
            simp at beyond
          · exact later

theorem ascending_ext (left right : List (κ × ρ)) (leftAscending : Ascending left) (rightAscending : Ascending right)
    (same : ∀ key, findRow key left = findRow key right) : left = right := by
  induction left generalizing right with
  | nil =>
      cases right with
      | nil => rfl
      | cons head rest =>
          have answer := same head.1
          simp [findRow] at answer
  | cons head rest ih =>
      obtain ⟨key, row⟩ := head
      cases right with
      | nil =>
          have answer := same key
          simp [findRow] at answer
      | cons other others =>
          obtain ⟨first, value⟩ := other
          have above := List.pairwise_cons.mp leftAscending
          have beyond := List.pairwise_cons.mp rightAscending
          have keys : key = first := by
            have atLeft := (same key).symm
            rw [show findRow key ((key, row) :: rest) = some row by simp [findRow],
              find_row_some_iff _ _ _ rightAscending] at atLeft
            have atRight := same first
            rw [show findRow first ((first, value) :: others) = some value by simp [findRow],
              find_row_some_iff _ _ _ leftAscending] at atRight
            rcases List.mem_cons.mp atLeft with equal | later
            · cases equal
              rfl
            · rcases List.mem_cons.mp atRight with equal | earlier
              · cases equal
                rfl
              · have down := beyond.1 _ later
                have up := above.1 _ earlier
                exact absurd (Std.TransCmp.lt_trans down up) (by simp)
          subst keys
          have values : row = value := by
            have answer := same key
            simpa [findRow] using answer
          subst values
          refine congrArg _ (ih others above.2 beyond.2 fun query => ?_)
          have answer := same query
          rw [findRow, findRow] at answer
          cases order : compare query key with
          | lt =>
              rw [find_row_below _ _ fun entry present => Std.TransCmp.lt_trans order (above.1 entry present),
                find_row_below _ _ fun entry present => Std.TransCmp.lt_trans order (beyond.1 entry present)]
          | eq =>
              cases Std.LawfulEqOrd.eq_of_compare order
              rw [find_row_below _ _ above.1, find_row_below _ _ beyond.1]
          | gt => simpa [order] using answer

end Rows

/-- A finite table, its rows in ascending key order. -/
structure Table (κ ρ : Type) [Ord κ] where
  rows : List (κ × ρ)
  ascending : Ascending rows

namespace Table

variable {κ ρ : Type} [Ord κ]

def empty : Table κ ρ := ⟨[], List.Pairwise.nil⟩

instance : EmptyCollection (Table κ ρ) := ⟨empty⟩

instance : Inhabited (Table κ ρ) := ⟨empty⟩

instance [DecidableEq κ] [DecidableEq ρ] : DecidableEq (Table κ ρ) := fun left right =>
  match decEq left.rows right.rows with
  | isTrue same => isTrue (by cases left; cases right; cases same; rfl)
  | isFalse apart => isFalse fun same => apart (same ▸ rfl)

def get? (table : Table κ ρ) (key : κ) : Option ρ := findRow key table.rows

def contains (table : Table κ ρ) (key : κ) : Bool := (table.get? key).isSome

def keys (table : Table κ ρ) : List κ := table.rows.map Prod.fst

@[simp] theorem get_empty (key : κ) : (empty : Table κ ρ).get? key = none := rfl

variable [Std.TransOrd κ] [Std.LawfulEqOrd κ]

def insert (table : Table κ ρ) (key : κ) (row : ρ) : Table κ ρ :=
  ⟨insertRow key row table.rows, insert_row_ascending key row table.rows table.ascending⟩

def erase (table : Table κ ρ) (key : κ) : Table κ ρ :=
  ⟨eraseRow key table.rows, List.Pairwise.sublist (erase_row_sublist key table.rows) table.ascending⟩

def set (table : Table κ ρ) (key : κ) : Option ρ → Table κ ρ
  | some row => table.insert key row
  | none => table.erase key

def ofList (rows : List (κ × ρ)) : Table κ ρ := rows.foldl (fun table entry => table.insert entry.1 entry.2) empty

def merge (table : Table κ ρ) (changes : Table κ (Option ρ)) : Table κ ρ :=
  changes.rows.foldl (fun table entry => table.set entry.1 entry.2) table

@[simp] theorem get_insert [DecidableEq κ] (table : Table κ ρ) (key other : κ) (row : ρ) :
    (table.insert key row).get? other = if other = key then some row else table.get? other :=
  find_row_insert key other row table.rows table.ascending

@[simp] theorem get_erase [DecidableEq κ] (table : Table κ ρ) (key other : κ) :
    (table.erase key).get? other = if other = key then none else table.get? other :=
  find_row_erase key other table.rows table.ascending

@[simp] theorem get_set [DecidableEq κ] (table : Table κ ρ) (key other : κ) (row : Option ρ) :
    (table.set key row).get? other = if other = key then row else table.get? other := by
  cases row with
  | none => exact get_erase table key other
  | some row => exact get_insert table key other row

theorem get_some_iff (table : Table κ ρ) (key : κ) (row : ρ) :
    table.get? key = some row ↔ (key, row) ∈ table.rows :=
  find_row_some_iff key row table.rows table.ascending

theorem table_ext (left right : Table κ ρ) (same : ∀ key, left.get? key = right.get? key) : left = right := by
  have rows := ascending_ext left.rows right.rows left.ascending right.ascending same
  cases left
  cases right
  cases rows
  rfl

theorem get_merge_rows [DecidableEq κ] (changes : List (κ × Option ρ)) (ascending : Ascending changes)
    (table : Table κ ρ) (key : κ) :
    (changes.foldl (fun table entry => table.set entry.1 entry.2) table).get? key =
      (findRow key changes).getD (table.get? key) := by
  induction changes generalizing table with
  | nil => rfl
  | cons head rest ih =>
      obtain ⟨other, change⟩ := head
      have above := List.pairwise_cons.mp ascending
      rw [List.foldl_cons, ih above.2, findRow, get_set]
      cases order : compare key other with
      | lt =>
          have apart : key ≠ other := fun same => by simp [same] at order
          have missing := find_row_below key rest fun entry present =>
            Std.TransCmp.lt_trans order (above.1 entry present)
          simp [missing, apart]
      | eq =>
          cases Std.LawfulEqOrd.eq_of_compare order
          have missing := find_row_below key rest above.1
          simp [missing]
      | gt =>
          have apart : key ≠ other := fun same => by simp [same] at order
          simp [apart]

@[simp] theorem get_merge [DecidableEq κ] (table : Table κ ρ) (changes : Table κ (Option ρ)) (key : κ) :
    (table.merge changes).get? key = (changes.get? key).getD (table.get? key) :=
  get_merge_rows changes.rows changes.ascending table key

end Table

end TokenService
