import TokenService.Proofs.Call.Written

set_option autoImplicit false

namespace TokenService

theorem Utf8.decode_encode_text (text : String) : Utf8.decode (Utf8.encode text) = text := by
  have valid : String.fromUTF8? ⟨(Utf8.encode text).toArray⟩ = some text := by
    rw [Utf8.encode, Array.toArray_toList]
    exact dif_pos text.isValidUTF8
  rw [Utf8.decode, valid]

namespace Abi

namespace Ty

mutual

def solid : Ty → Bool
  | .atom _ => true
  | .bytes => true
  | .string => true
  | .array element => decide (0 < element.headWords) && element.solid
  | .tuple fields => allSolid fields

def allSolid : List Ty → Bool
  | [] => true
  | field :: rest => field.solid && allSolid rest

end

end Ty

section Numbers

theorem nat_word (number : Nat) (fits : number < UInt64.size) : (BitVec.ofNat 256 number).toNat = number := by
  have wide : UInt64.size ≤ 2 ^ 256 := by decide
  rw [BitVec.toNat_ofNat, Nat.mod_eq_of_lt (Nat.lt_of_lt_of_le fits wide)]

theorem write_nat_length (number : Nat) : (writeNat number).length = 32 := Bytes.length_of_nat 32 number

theorem read_offset (number : Nat) (rest : Bytes) (fits : number < UInt64.size) :
    Reader.offset (writeNat number ++ rest) = .ok (number, rest) := by
  have written : writeNat number = Word.toBytes (BitVec.ofNat 256 number) := by
    rw [writeNat, Word.toBytes, nat_word number fits]
  have word := read_word (BitVec.ofNat 256 number) rest
  rw [← written] at word
  refine (reader_bind_ok _ _ _ _ _).mpr ⟨_, rest, word, ?_⟩
  rw [nat_word number fits, if_pos fits]
  rfl

theorem read_enter (region rest : Bytes) (start : Nat) (room : region.length < UInt64.size)
    (inside : start ≤ region.length) : Reader.enter region (writeNat start ++ rest) = .ok (region.drop start, rest) := by
  refine (reader_bind_ok _ _ _ _ _).mpr ⟨start, rest, read_offset start rest (Nat.lt_of_le_of_lt inside room), ?_⟩
  rw [if_pos inside]
  rfl

theorem read_within {α : Type} (bytes here last : Bytes) (read : Reader α) (value : α)
    (found : read bytes = .ok (value, last)) : Reader.within bytes read here = .ok (value, here) := by
  rw [Reader.within, found]

theorem read_bytes_written (bytes rest : Bytes) (room : (writeBytes bytes ++ rest).length < UInt64.size) :
    ∃ last, readBytes (writeBytes bytes ++ rest) = .ok (bytes, last) := by
  have fits : bytes.length < UInt64.size := by
    simp only [writeBytes, List.length_append] at room
    omega
  rw [writeBytes, List.append_assoc, List.append_assoc]
  exact ⟨_, (reader_bind_ok _ _ _ _ _).mpr ⟨_, _, read_offset _ _ fits, take_front _ _⟩⟩

theorem read_string_written (text : String) (rest : Bytes)
    (room : (writeBytes (Utf8.encode text) ++ rest).length < UInt64.size) (here : Bytes) :
    (Reader.within (writeBytes (Utf8.encode text) ++ rest) readBytes >>= fun bytes => pure (Utf8.decode bytes)) here =
      .ok (text, here) := by
  obtain ⟨last, found⟩ := read_bytes_written (Utf8.encode text) rest room
  refine (reader_bind_ok _ _ _ _ _).mpr ⟨_, here, read_within _ _ _ _ _ found, ?_⟩
  rw [Utf8.decode_encode_text]
  rfl

end Numbers

section Sizes

def Part.head (offset : Nat) : Part → Bytes
  | .inPlace bytes => bytes
  | .behind _ => writeNat offset

def Ty.part (ty : Ty) (value : ty.Val) : Part := Part.place ty.isDynamic (ty.write value)

theorem write_heads_cons (offset : Nat) (part : Part) (rest : List Part) :
    writeHeads offset (part :: rest) = part.head offset ++ writeHeads (offset + part.tail.length) rest := by
  cases part <;> rfl

theorem head_length (offset : Nat) (part : Part) : (part.head offset).length = part.headSize := by
  cases part with
  | inPlace bytes => rfl
  | behind bytes => exact write_nat_length offset

theorem write_heads_length (offset : Nat) (parts : List Part) : (writeHeads offset parts).length = headsSize parts := by
  induction parts generalizing offset with
  | nil => rfl
  | cons part rest ih => rw [write_heads_cons, List.length_append, head_length, ih, headsSize]

theorem write_parts_drop (parts : List Part) (rest : Bytes) :
    (writeParts parts ++ rest).drop (headsSize parts) = parts.flatMap Part.tail ++ rest := by
  have heads := write_heads_length (headsSize parts) parts
  rw [writeParts, List.append_assoc]
  exact List.drop_left' heads

theorem heads_fit (parts : List Part) (rest : Bytes) : headsSize parts ≤ (writeParts parts ++ rest).length := by
  rw [writeParts, List.length_append, List.length_append, write_heads_length]
  omega

mutual

theorem part_size (ty : Ty) (value : ty.Val) : (ty.part value).headSize = ty.headWords * 32 := by
  cases ty with
  | atom kind => exact Bytes.length_of_nat 32 (kind.toWord value).toNat
  | bytes | string | array => rfl
  | tuple fields =>
      rw [Ty.part, Ty.isDynamic, Ty.headWords]
      cases dynamic : Ty.anyDynamic fields with
      | true => rfl
      | false =>
          have heads := parts_size fields value
          rw [← write_heads_length (headsSize (Ty.parts fields value))] at heads
          rw [Ty.write, writeParts, static_tails fields dynamic value, List.append_nil]
          exact heads

theorem parts_size (fields : List Ty) (values : Ty.Vals fields) :
    headsSize (Ty.parts fields values) = Ty.sumWords fields * 32 := by
  cases fields with
  | nil => exact (Nat.zero_mul 32).symm
  | cons field rest =>
      obtain ⟨value, others⟩ := values
      have first := part_size field value
      rw [Ty.part] at first
      rw [Ty.parts, headsSize, Ty.sumWords, Nat.add_mul, first, parts_size rest others]

end

theorem elements_size (element : Ty) (values : List element.Val) :
    headsSize (values.map element.part) = values.length * (element.headWords * 32) := by
  induction values with
  | nil => exact (Nat.zero_mul _).symm
  | cons value rest ih => rw [List.map_cons, headsSize, part_size, ih, List.length_cons, Nat.succ_mul, Nat.add_comm]

end Sizes

section Placed

-- From an offset on, a region holds the tails of some parts and then other bytes.
structure Holds (region : Bytes) (offset : Nat) (tails rest : Bytes) : Prop where
  room : region.length < UInt64.size
  inside : offset ≤ region.length
  stands : region.drop offset = tails ++ rest

namespace Holds

variable (region tail tails rest : Bytes) (offset : Nat)

theorem first (holds : Holds region offset (tail ++ tails) rest) : Holds region offset tail (tails ++ rest) :=
  ⟨holds.room, holds.inside, by rw [holds.stands, List.append_assoc]⟩

theorem later (holds : Holds region offset (tail ++ tails) rest) :
    Holds region (offset + tail.length) tails rest := by
  have size := congrArg List.length holds.stands
  have inside := holds.inside
  simp only [List.length_drop, List.length_append] at size
  refine ⟨holds.room, by omega, ?_⟩
  rw [← List.drop_drop, holds.stands, List.append_assoc, List.drop_left]

theorem child (holds : Holds region offset tail rest) : (tail ++ rest).length < UInt64.size := by
  rw [← holds.stands, List.length_drop]
  exact Nat.lt_of_le_of_lt (Nat.sub_le _ _) holds.room

end Holds

theorem parts_hold (parts : List Part) (rest : Bytes) (room : (writeParts parts ++ rest).length < UInt64.size) :
    Holds (writeParts parts ++ rest) (headsSize parts) (parts.flatMap Part.tail) rest :=
  ⟨room, heads_fit parts rest, write_parts_drop parts rest⟩

theorem read_elements (element : Ty) (region : Bytes)
    (each : ∀ value offset after rest, Holds region offset (element.part value).tail rest →
      element.read region ((element.part value).head offset ++ after) = .ok (value, after))
    (values : List element.Val) (offset : Nat) (after rest : Bytes)
    (holds : Holds region offset ((values.map element.part).flatMap Part.tail) rest) :
    Reader.times (element.read region) values.length (writeHeads offset (values.map element.part) ++ after) =
      .ok (values, after) := by
  induction values generalizing offset with
  | nil => rfl
  | cons value others ih =>
      rw [List.map_cons, List.flatMap_cons] at holds
      rw [List.map_cons, write_heads_cons, List.append_assoc]
      refine (reader_bind_ok _ _ _ _ _).mpr ⟨value, _, each value offset _ _ holds.first, ?_⟩
      exact (reader_bind_ok _ _ _ _ _).mpr ⟨others, after, ih _ holds.later, rfl⟩

theorem read_array_written (element : Ty) (solid : 0 < element.headWords) (values : List element.Val) (rest : Bytes)
    (each : ∀ region value offset after rest, Holds region offset (element.part value).tail rest →
      element.read region ((element.part value).head offset ++ after) = .ok (value, after))
    (room : (writeNat values.length ++ writeParts (values.map element.part) ++ rest).length < UInt64.size) :
    ∃ last, readArray element.headWords element.read
      (writeNat values.length ++ writeParts (values.map element.part) ++ rest) = .ok (values, last) := by
  rw [List.append_assoc] at room ⊢
  have inner : (writeParts (values.map element.part) ++ rest).length < UInt64.size := by
    rw [List.length_append] at room
    omega
  have heads := heads_fit (values.map element.part) rest
  rw [elements_size] at heads
  -- Each element takes a word at least, so there are no more of them than bytes.
  have counted : values.length < UInt64.size := by
    have words : values.length * 1 ≤ values.length * (element.headWords * 32) := Nat.mul_le_mul_left _ (by omega)
    omega
  have elements := read_elements element _ (each _) values _ ((values.map element.part).flatMap Part.tail ++ rest) rest
    (parts_hold _ rest inner)
  rw [← List.append_assoc, ← writeParts] at elements
  refine ⟨(values.map element.part).flatMap Part.tail ++ rest, ?_⟩
  refine (reader_bind_ok _ _ _ _ _).mpr ⟨_, _, read_offset _ _ counted, ?_⟩
  refine (reader_bind_ok _ _ _ _ _).mpr ⟨_, _, rfl, ?_⟩
  rw [if_pos heads]
  exact elements

mutual

theorem read_placed (ty : Ty) (solid : ty.solid = true) (value : ty.Val) (region : Bytes) (offset : Nat)
    (after rest : Bytes) (holds : Holds region offset (ty.part value).tail rest) :
    ty.read region ((ty.part value).head offset ++ after) = .ok (value, after) := by
  rw [Ty.part] at holds ⊢
  cases dynamic : ty.isDynamic with
  | false => exact read_written ty dynamic value region after
  | true =>
      rw [dynamic] at holds
      have entered := read_enter region after offset holds.room holds.inside
      rw [holds.stands] at entered
      have room := holds.child
      cases ty with
      | atom kind => cases dynamic
      | bytes =>
          obtain ⟨last, found⟩ := read_bytes_written value rest room
          exact (reader_bind_ok _ _ _ _ _).mpr ⟨_, after, entered, read_within _ _ _ _ _ found⟩
      | string =>
          exact (reader_bind_ok _ _ _ _ _).mpr ⟨_, after, entered, read_string_written value rest room after⟩
      | array element =>
          rw [Ty.solid, Bool.and_eq_true, decide_eq_true_eq] at solid
          obtain ⟨last, found⟩ := read_array_written element solid.1 value rest
            (fun region value offset after rest => read_placed element solid.2 value region offset after rest) room
          exact (reader_bind_ok _ _ _ _ _).mpr ⟨_, after, entered, read_within _ _ _ _ _ found⟩
      | tuple fields =>
          rw [Ty.solid] at solid
          have child : (Ty.tuple fields).read region = (do
              let child ← Reader.enter region
              Reader.within child (Ty.readAll fields child)) := by
            rw [Ty.read]
            exact if_pos dynamic
          have all := read_all_placed fields solid value _ _ ((Ty.parts fields value).flatMap Part.tail ++ rest) rest
            (parts_hold (Ty.parts fields value) rest room)
          rw [← List.append_assoc, ← writeParts] at all
          rw [child]
          exact (reader_bind_ok _ _ _ _ _).mpr ⟨_, after, entered, read_within _ _ _ _ _ all⟩

theorem read_all_placed (fields : List Ty) (solid : Ty.allSolid fields = true) (values : Ty.Vals fields)
    (region : Bytes) (offset : Nat) (after rest : Bytes)
    (holds : Holds region offset ((Ty.parts fields values).flatMap Part.tail) rest) :
    Ty.readAll fields region (writeHeads offset (Ty.parts fields values) ++ after) = .ok (values, after) := by
  cases fields with
  | nil => rfl
  | cons field others =>
      rw [Ty.allSolid, Bool.and_eq_true] at solid
      obtain ⟨value, later⟩ := values
      rw [Ty.parts, List.flatMap_cons] at holds
      rw [Ty.parts, write_heads_cons, List.append_assoc]
      exact (read_all_cons _ _ _ _ _ _).mpr ⟨_, read_placed field solid.1 value region offset _ _ holds.first,
        read_all_placed others solid.2 later region _ after rest holds.later⟩

end

theorem decode_written (types : List Ty) (solid : Ty.allSolid types = true) (values : Ty.Vals types)
    (room : (encode types values).length < UInt64.size) : decode types (encode types values) = .ok values := by
  have start := parts_hold (Ty.parts types values) [] (by rwa [List.append_nil])
  have all := read_all_placed types solid values _ _ ((Ty.parts types values).flatMap Part.tail) [] start
  rw [List.append_nil, ← writeParts, ← encode] at all
  rw [decode, StateT.run', all]
  rfl

end Placed

end Abi

end TokenService
