import TokenService.Abi.Decode
import TokenService.Proofs.Form

set_option autoImplicit false

namespace TokenService

namespace Abi

theorem reader_bind_ok {α β : Type} (read : Reader α) (next : α → Reader β) (here there : Bytes) (value : β) :
    (read >>= next) here = .ok (value, there) ↔
      ∃ first middle, read here = .ok (first, middle) ∧ next first middle = .ok (value, there) := by
  change (read here >>= fun entry => next entry.1 entry.2) = _ ↔ _
  rw [except_bind_ok]
  constructor
  · rintro ⟨⟨first, middle⟩, start, rest⟩
    exact ⟨first, middle, start, rest⟩
  · rintro ⟨first, middle, start, rest⟩
    exact ⟨(first, middle), start, rest⟩

theorem reader_pure_ok {α : Type} (result value : α) (here there : Bytes) :
    (pure result : Reader α) here = .ok (value, there) ↔ value = result ∧ there = here := by
  constructor
  · intro run
    cases run
    exact ⟨rfl, rfl⟩
  · rintro ⟨rfl, rfl⟩
    rfl

theorem take_shortens (size : Nat) (here there bytes : Bytes) (run : Reader.take size here = .ok (bytes, there)) :
    there.length ≤ here.length := by
  unfold Reader.take at run
  split at run
  · cases run
    exact List.length_drop ▸ Nat.sub_le _ _
  · cases run

theorem offset_shortens (here there : Bytes) (count : Nat) (run : Reader.offset here = .ok (count, there)) :
    there.length ≤ here.length := by
  obtain ⟨word, middle, first, rest⟩ := (reader_bind_ok _ _ _ _ _).mp run
  obtain ⟨bytes, between, taken, word'⟩ := (reader_bind_ok _ _ _ _ _).mp first
  obtain ⟨_, rfl⟩ := (reader_pure_ok _ _ _ _).mp word'
  split at rest
  · obtain ⟨_, rfl⟩ := (reader_pure_ok _ _ _ _).mp rest
    exact take_shortens _ _ _ _ taken
  · cases rest

theorem enter_shortens (region child here there : Bytes) (run : Reader.enter region here = .ok (child, there)) :
    child.length ≤ region.length := by
  obtain ⟨start, middle, _, rest⟩ := (reader_bind_ok _ _ _ _ _).mp run
  split at rest
  · obtain ⟨rfl, _⟩ := (reader_pure_ok _ _ _ _).mp rest
    exact List.length_drop ▸ Nat.sub_le _ _
  · cases rest

theorem times_length {α : Type} (read : Reader α) (count : Nat) (here there : Bytes) (values : List α)
    (run : Reader.times read count here = .ok (values, there)) : values.length = count := by
  induction count generalizing here values with
  | zero =>
      obtain ⟨rfl, _⟩ := (reader_pure_ok _ _ _ _).mp run
      rfl
  | succ count ih =>
      obtain ⟨first, middle, _, rest⟩ := (reader_bind_ok _ _ _ _ _).mp run
      obtain ⟨others, last, more, rest⟩ := (reader_bind_ok _ _ _ _ _).mp rest
      obtain ⟨rfl, rfl⟩ := (reader_pure_ok _ _ _ _).mp rest
      rw [List.length_cons, ih middle others more]

theorem array_fits {α : Type} (width : Nat) (element : Bytes → Reader α) (here there : Bytes) (values : List α)
    (run : readArray width element here = .ok (values, there)) : values.length * (width * 32) ≤ here.length := by
  obtain ⟨count, middle, counted, rest⟩ := (reader_bind_ok _ _ _ _ _).mp run
  obtain ⟨region, between, seen, rest⟩ := (reader_bind_ok _ _ _ _ _).mp rest
  cases seen
  split at rest
  · rename_i room
    rw [times_length _ _ _ _ _ rest]
    exact Nat.le_trans room (offset_shortens _ _ _ counted)
  · cases rest

theorem within_ok {α : Type} (bytes here there : Bytes) (read : Reader α) (value : α)
    (run : Reader.within bytes read here = .ok (value, there)) : ∃ last, read bytes = .ok (value, last) := by
  unfold Reader.within at run
  split at run
  · rename_i found last inner
    cases run
    exact ⟨last, inner⟩
  · cases run

theorem read_array_fits (element : Ty) (region here there : Bytes) (values : List element.Val)
    (run : (Ty.array element).read region here = .ok (values, there)) :
    values.length * (element.headWords * 32) ≤ region.length := by
  rw [Ty.read] at run
  obtain ⟨child, middle, entered, rest⟩ := (reader_bind_ok _ _ _ _ _).mp run
  obtain ⟨last, inner⟩ := within_ok _ _ _ _ _ rest
  exact Nat.le_trans (array_fits _ _ _ _ _ inner) (enter_shortens _ _ _ _ entered)

theorem read_all_cons (field : Ty) (rest : List Ty) (region here there : Bytes) (values : Ty.Vals (field :: rest)) :
    Ty.readAll (field :: rest) region here = .ok (values, there) ↔
      ∃ middle, field.read region here = .ok (values.1, middle) ∧
        Ty.readAll rest region middle = .ok (values.2, there) := by
  rw [Ty.readAll, reader_bind_ok]
  constructor
  · rintro ⟨first, middle, start, later⟩
    obtain ⟨others, last, more, done⟩ := (reader_bind_ok _ _ _ _ _).mp later
    obtain ⟨rfl, rfl⟩ := (reader_pure_ok _ _ _ _).mp done
    exact ⟨middle, start, more⟩
  · rintro ⟨middle, start, later⟩
    refine ⟨values.1, middle, start, (reader_bind_ok _ _ _ _ _).mpr ⟨values.2, there, later, ?_⟩⟩
    rfl

theorem decode_ok (types : List Ty) (bytes : Bytes) (values : Ty.Vals types)
    (decoded : decode types bytes = .ok values) : ∃ last, Ty.readAll types bytes bytes = .ok (values, last) := by
  unfold decode StateT.run' at decoded
  cases run : Ty.readAll types bytes bytes with
  | error fault =>
      rw [run] at decoded
      cases decoded
  | ok outcome =>
      rw [run] at decoded
      cases decoded
      exact ⟨outcome.2, rfl⟩

end Abi

end TokenService
