import TokenService.Abi.Encode
import TokenService.Proofs.Call.Routes

set_option autoImplicit false

namespace TokenService

namespace Abi

theorem word_of_bytes (word : Word) : Word.ofBytes word.toBytes = word := by
  have wide : Bytes.span 32 = 2 ^ 256 := by decide
  rw [Word.ofBytes, Word.toBytes, Bytes.to_nat_of_nat, wide, Nat.mod_eq_of_lt word.isLt, BitVec.ofNat_toNat,
    BitVec.setWidth_eq]

theorem take_front (bytes rest : Bytes) : Reader.take bytes.length (bytes ++ rest) = .ok (bytes, rest) := by
  rw [Reader.take, if_pos (by rw [List.length_append]; omega), List.take_left, List.drop_left]

theorem read_word (word : Word) (rest : Bytes) : Reader.word (word.toBytes ++ rest) = .ok (word, rest) := by
  have front := take_front word.toBytes rest
  rw [show word.toBytes.length = 32 from Bytes.length_of_nat 32 word.toNat] at front
  exact (reader_bind_ok _ _ _ _ _).mpr ⟨word.toBytes, rest, front, by rw [word_of_bytes]; rfl⟩

theorem read_atom (kind : Atom) (value : kind.Val) (rest : Bytes) :
    (Reader.word >>= fun word => pure (kind.ofWord word)) ((kind.toWord value).toBytes ++ rest) =
      .ok (value, rest) := by
  refine (reader_bind_ok _ _ _ _ _).mpr ⟨kind.toWord value, rest, read_word _ _, ?_⟩
  rw [Atom.of_word_to_word]
  rfl

theorem static_tails (fields : List Ty) (static : Ty.anyDynamic fields = false) (values : Ty.Vals fields) :
    (Ty.parts fields values).flatMap Part.tail = [] := by
  induction fields with
  | nil => rfl
  | cons field rest ih =>
      rw [Ty.anyDynamic, Bool.or_eq_false_iff] at static
      obtain ⟨value, others⟩ := values
      rw [Ty.parts, static.1, List.flatMap_cons, ih static.2 others]
      rfl

mutual

theorem read_written (ty : Ty) (static : ty.isDynamic = false) (value : ty.Val) (region rest : Bytes) :
    ty.read region (ty.write value ++ rest) = .ok (value, rest) := by
  cases ty with
  | atom kind =>
      rw [Ty.read, Ty.write]
      exact read_atom kind value rest
  | tuple fields =>
      rw [Ty.isDynamic] at static
      have inPlace : (Ty.tuple fields).read region = Ty.readAll fields region := by
        rw [Ty.read]
        exact if_neg (by rw [static]; exact Bool.false_ne_true)
      rw [inPlace, Ty.write, writeParts]
      have tails := static_tails fields static value
      have heads := read_all_written fields static value (headsSize (Ty.parts fields value)) region rest
      rw [← List.append_nil (writeHeads _ _), ← tails] at heads
      exact heads
  | bytes | string | array => cases static

theorem read_all_written (fields : List Ty) (static : Ty.anyDynamic fields = false) (values : Ty.Vals fields)
    (size : Nat) (region rest : Bytes) :
    Ty.readAll fields region (writeHeads size (Ty.parts fields values) ++ rest) = .ok (values, rest) := by
  cases fields with
  | nil => rfl
  | cons field others =>
      rw [Ty.anyDynamic, Bool.or_eq_false_iff] at static
      obtain ⟨value, later⟩ := values
      rw [Ty.parts, static.1, Part.place, if_neg Bool.false_ne_true, writeHeads, List.append_assoc]
      exact (read_all_cons _ _ _ _ _ _).mpr ⟨_, read_written field static.1 value region _,
        read_all_written others static.2 later size region rest⟩

end

theorem decode_encode (types : List Ty) (static : Ty.anyDynamic types = false) (values : Ty.Vals types) :
    decode types (encode types values) = .ok values := by
  have written := read_all_written types static values (headsSize (Ty.parts types values)) (encode types values) []
  rw [List.append_nil] at written
  have whole : encode types values = writeHeads (headsSize (Ty.parts types values)) (Ty.parts types values) := by
    rw [encode, writeParts, static_tails types static values, List.append_nil]
  rw [← whole] at written
  rw [decode, StateT.run', written]
  rfl

end Abi

namespace Selector

theorem of_input_written (selector : Selector) (rest : Bytes) :
    Selector.ofInput? (selector.toBytes ++ rest) = some selector := by
  have length : selector.toBytes.length = 4 := Bytes.length_of_nat 4 selector.toNat
  have wide : Bytes.span 4 = 2 ^ 32 := by decide
  rw [Selector.ofInput?, if_pos (by rw [List.length_append]; omega), ← length, List.take_left, Selector.toBytes,
    Bytes.to_nat_of_nat, wide, Nat.mod_eq_of_lt selector.isLt, BitVec.ofNat_toNat, BitVec.setWidth_eq]

theorem drop_written (selector : Selector) (rest : Bytes) : (selector.toBytes ++ rest).drop 4 = rest := by
  have length : selector.toBytes.length = 4 := Bytes.length_of_nat 4 selector.toNat
  rw [← length, List.drop_left]

end Selector

theorem service_of_selector (function : ServiceFunction) :
    ServiceFunction.ofSelector? function.selector = some function := by
  cases function with
  | mintToken signedness | burnToken signedness | wipeTokenAccount signedness | updateTokenExpiryInfo signedness =>
      cases signedness <;> rfl
  | createFungible generation | createFungibleWithFees generation | createNonFungible generation
  | createNonFungibleWithFees generation | updateTokenInfo generation =>
      cases generation <;> rfl
  | _ => rfl

theorem facade_of_selector (function : FacadeFunction) :
    FacadeFunction.ofSelector? function.selector = some function := by
  cases function <;> rfl

end TokenService
