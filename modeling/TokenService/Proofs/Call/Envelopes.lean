import TokenService.Call.Redirect
import TokenService.Proofs.Abi.RoundTrip
import TokenService.Proofs.Addresses

set_option autoImplicit false

namespace TokenService

open Abi

namespace Address

theorem word_to_bytes (address : Address) :
    Word.toBytes (address.setWidth 256) = Bytes.ofNat 12 0 ++ address.toBytes := by
  have fits : address.toNat < 2 ^ 256 := Nat.lt_trans address.isLt (by decide)
  have span : Bytes.span 20 = 2 ^ 160 := rfl
  rw [Word.toBytes, BitVec.toNat_setWidth, Nat.mod_eq_of_lt fits, Bytes.of_nat_append 12 20, span,
    Nat.div_eq_of_lt address.isLt, toBytes]

end Address

namespace Redirect

/-- A packed call to a token that is an explicit call to another token as well: the token has an entity number alone,
and the call goes on behind its twelfth byte with an offset and a byte string, as an explicit call would. -/
structure Mistakable (token : Address) (nested : Bytes) (other : Address) (inner : Bytes) : Prop where
  longZero : token.isLongZero = true
  named : other.toBytes = token.toBytes.drop 12 ++ nested.take 12
  standard : nested.drop 12 = writeNat 64 ++ writeBytes inner
  call : 4 ≤ inner.length

section Bytes

variable (token : Address) (nested : Bytes)

theorem encode_params :
    encode params (token, nested, ()) = Bytes.ofNat 12 0 ++ token.toBytes ++ (writeNat 64 ++ writeBytes nested) := by
  have word : (Word.toBytes (token.setWidth 256)).length = 32 := Bytes.length_of_nat 32 _
  rw [← Address.word_to_bytes]
  simp only [encode, Ty.parts, Ty.isDynamic, Part.place, Bool.false_eq_true, if_false, if_true, writeParts, headsSize,
    Part.headSize, writeHeads, Ty.write, Atom.toWord, word, List.flatMap_cons, List.flatMap_nil, Part.tail,
    List.nil_append, List.append_nil, List.append_assoc]

theorem unwrap_eq (input : Bytes) (starts : Selector.ofInput? input = some .redirect) :
    unwrap input =
      match explicit? input with
      | some redirect => .ok (some redirect)
      | none =>
          if input.length < 28 then .error (.shortRedirect input.length)
          else .ok (some ⟨.ofBytes ((input.drop 4).take 20), input.drop 24, false⟩) :=
  if_neg fun other => other starts

theorem wrap_starts : Selector.ofInput? (wrap token nested) = some .redirect := Selector.of_input_written _ _

theorem pack_starts : Selector.ofInput? (pack token nested) = some .redirect := by
  rw [pack, List.append_assoc]
  exact Selector.of_input_written _ _

theorem explicit_wrap (call : 4 ≤ nested.length) (room : (wrap token nested).length < UInt64.size) :
    explicit? (wrap token nested) = some ⟨token, nested, true⟩ := by
  have fits : (encode params (token, nested, ())).length < UInt64.size := by
    rw [wrap, List.length_append] at room
    omega
  have read := decode_written params rfl (token, nested, ()) fits
  have rest : (wrap token nested).drop 4 = encode params (token, nested, ()) := Selector.drop_written _ _
  rw [explicit?, rest, read]
  exact if_pos ⟨rfl, call⟩

theorem explicit_some (input : Bytes) (redirect : Redirect) (found : explicit? input = some redirect) :
    wrap redirect.token redirect.nested = input ∧ 4 ≤ redirect.nested.length ∧ redirect.explicit = true := by
  unfold explicit? at found
  split at found
  · split at found
    · rename_i exact
      cases found
      exact ⟨exact.1, exact.2, rfl⟩
    · cases found
  · cases found

theorem pack_eq_wrap_iff (other : Address) (inner : Bytes) (call : 4 ≤ inner.length) :
    pack token nested = wrap other inner ↔ Mistakable token nested other inner := by
  have length := token.to_bytes_length
  have front : (token.toBytes.take 12).length = (Bytes.ofNat 12 0).length := by
    rw [List.length_take, length, Bytes.length_of_nat]
    rfl
  have sides : pack token nested = wrap other inner ↔
      token.toBytes.take 12 ++ (token.toBytes.drop 12 ++ nested) =
        Bytes.ofNat 12 0 ++ (other.toBytes ++ (writeNat 64 ++ writeBytes inner)) := by
    rw [← List.append_assoc, List.take_append_drop, ← List.append_assoc, ← encode_params, pack, wrap,
      List.append_assoc, List.append_right_inj]
  rw [sides]
  constructor
  · intro same
    obtain ⟨zeros, rest⟩ := List.append_inj same front
    -- The first twelve bytes of the call end the other token's address.
    have middle : nested = nested.take 12 ++ nested.drop 12 := (List.take_append_drop 12 nested).symm
    have long : 12 ≤ nested.length := by
      have sizes := congrArg List.length rest
      simp only [List.length_append, List.length_drop, length, other.to_bytes_length, write_nat_length] at sizes
      omega
    have widths : (token.toBytes.drop 12 ++ nested.take 12).length = other.toBytes.length := by
      rw [List.length_append, List.length_drop, length, List.length_take, other.to_bytes_length, Nat.min_eq_left long]
    rw [middle, ← List.append_assoc] at rest
    obtain ⟨named, standard⟩ := List.append_inj rest widths
    exact ⟨token.long_zero_iff.mpr zeros, named.symm, standard, call⟩
  · intro mistakable
    rw [token.long_zero_iff.mp mistakable.longZero, mistakable.named, ← mistakable.standard, List.append_assoc,
      List.take_append_drop]

theorem pack_length : (pack token nested).length = 24 + nested.length := by
  rw [pack, List.length_append, List.length_append, token.to_bytes_length]
  rfl

theorem pack_room (room : (wrap token nested).length < UInt64.size) : (pack token nested).length < UInt64.size := by
  simp only [wrap, encode_params, writeBytes, List.length_append, token.to_bytes_length, write_nat_length] at room
  rw [pack_length]
  omega

theorem pack_parts : ((pack token nested).drop 4).take 20 = token.toBytes ∧ (pack token nested).drop 24 = nested := by
  have length := token.to_bytes_length
  have first : (pack token nested).drop 4 = token.toBytes ++ nested := by
    rw [pack, List.append_assoc]
    exact Selector.drop_written _ _
  rw [show 24 = 4 + 20 from rfl, ← List.drop_drop, first]
  exact ⟨List.take_left' length, List.drop_left' length⟩

theorem unwrap_pack_unmistaken (call : 4 ≤ nested.length)
    (clear : ∀ other inner, ¬ Mistakable token nested other inner) :
    unwrap (pack token nested) = .ok (some ⟨token, nested, false⟩) := by
  have implicit : explicit? (pack token nested) = none := by
    cases found : explicit? (pack token nested) with
    | none => rfl
    | some redirect =>
        obtain ⟨same, named, _⟩ := explicit_some _ _ found
        exact absurd ((pack_eq_wrap_iff token nested _ _ named).mp same.symm) (clear _ _)
  have long : ¬ (pack token nested).length < 28 := by
    rw [pack_length]
    omega
  obtain ⟨address, call⟩ := pack_parts token nested
  rw [unwrap_eq _ (pack_starts token nested), implicit]
  simp only [if_neg long, address, call, Address.of_bytes_to_bytes]

theorem unwrap_pack_mistaken (other : Address) (inner : Bytes) (mistakable : Mistakable token nested other inner)
    (room : (pack token nested).length < UInt64.size) :
    unwrap (pack token nested) = .ok (some ⟨other, inner, true⟩) := by
  have same := (pack_eq_wrap_iff token nested other inner mistakable.call).mpr mistakable
  rw [unwrap_eq _ (pack_starts token nested)]
  rw [same] at room ⊢
  rw [explicit_wrap other inner mistakable.call room]

theorem mistaken_elsewhere (function : FacadeFunction) (starts : Selector.ofInput? nested = some function.selector)
    (other : Address) (inner : Bytes) (mistakable : Mistakable token nested other inner) : other ≠ token := by
  rintro rfl
  have length := other.to_bytes_length
  have zeros := other.long_zero_iff.mp mistakable.longZero
  have tail : (other.toBytes.drop 12).length = 8 := by rw [List.length_drop, length]
  have front : nested.take 4 = Bytes.ofNat 4 0 := by
    have same := congrArg (fun bytes => (bytes.take 12).drop 8) mistakable.named
    simp only [zeros, List.take_append, tail, List.take_take] at same
    rw [List.take_of_length_le (Nat.le_trans (Nat.le_of_eq tail) (by decide)), List.drop_left' tail] at same
    exact same.symm
  unfold Selector.ofInput? at starts
  split at starts
  · rw [front] at starts
    cases function <;> cases starts
  · cases starts

end Bytes

end Redirect

/-- What each envelope of a facade call is read as. The explicit one names the token and the call that it was made for.
The packed one does so too, exactly when it is not an explicit envelope by accident; if it is one, it is read as a call
to another token. Bytes that fit into memory are fewer than 2^64. -/
theorem envelopes_read_back (token : Address) (nested : Bytes) (function : FacadeFunction)
    (starts : Selector.ofInput? nested = some function.selector)
    (room : (Redirect.wrap token nested).length < UInt64.size) :
    Redirect.unwrap (Redirect.wrap token nested) = .ok (some ⟨token, nested, true⟩) ∧
      (Redirect.unwrap (Redirect.pack token nested) = .ok (some ⟨token, nested, false⟩) ↔
        ∀ other inner, ¬ Redirect.Mistakable token nested other inner) ∧
      ∀ other inner, Redirect.Mistakable token nested other inner →
        other ≠ token ∧ Redirect.unwrap (Redirect.pack token nested) = .ok (some ⟨other, inner, true⟩) := by
  have call : 4 ≤ nested.length := by
    unfold Selector.ofInput? at starts
    split at starts
    · assumption
    · cases starts
  have mistaken : ∀ other inner, Redirect.Mistakable token nested other inner →
      Redirect.unwrap (Redirect.pack token nested) = .ok (some ⟨other, inner, true⟩) :=
    fun other inner mistakable =>
      Redirect.unwrap_pack_mistaken token nested other inner mistakable (Redirect.pack_room token nested room)
  refine ⟨?_, ⟨fun read other inner mistakable => ?_, Redirect.unwrap_pack_unmistaken token nested call⟩,
    fun other inner mistakable =>
      ⟨Redirect.mistaken_elsewhere token nested function starts other inner mistakable, mistaken _ _ mistakable⟩⟩
  · rw [Redirect.unwrap_eq _ (Redirect.wrap_starts token nested), Redirect.explicit_wrap token nested call room]
  · cases read.symm.trans (mistaken other inner mistakable)

namespace Sample

def redirected : Address := (EntityId.ofNum 2001).toAddress

def balanceCall : Bytes :=
  FacadeFunction.balanceOf.selector.toBytes ++ encode FacadeFunction.balanceOf.params (redirected, ())

def disguisedCall : Bytes :=
  FacadeFunction.name.selector.toBytes ++ Bytes.ofNat 8 1 ++
    (writeNat 64 ++ writeBytes FacadeFunction.name.selector.toBytes)

end Sample

theorem balance_call_read_back :
    Selector.ofInput? Sample.balanceCall = some FacadeFunction.balanceOf.selector ∧
      Redirect.unwrap (Redirect.wrap Sample.redirected Sample.balanceCall) =
        .ok (some ⟨Sample.redirected, Sample.balanceCall, true⟩) ∧
      Redirect.unwrap (Redirect.pack Sample.redirected Sample.balanceCall) =
        .ok (some ⟨Sample.redirected, Sample.balanceCall, false⟩) := by
  have starts : Selector.ofInput? Sample.balanceCall = some FacadeFunction.balanceOf.selector :=
    Selector.of_input_written _ _
  obtain ⟨explicit, packed, _⟩ :=
    envelopes_read_back Sample.redirected Sample.balanceCall .balanceOf starts (by decide +kernel)
  refine ⟨starts, explicit, packed.mpr fun other inner mistakable => ?_⟩
  -- Behind its twelfth byte the call is shorter than an offset and a length.
  have sizes := congrArg List.length mistakable.standard
  simp only [writeBytes, List.length_append, write_nat_length] at sizes
  have short : (Sample.balanceCall.drop 12).length = 24 := by decide +kernel
  omega

theorem disguised_call_misread :
    ¬ ∀ (token : Address) (nested : Bytes) (function : FacadeFunction),
      Selector.ofInput? nested = some function.selector →
      (Redirect.wrap token nested).length < UInt64.size →
      Redirect.unwrap (Redirect.pack token nested) = .ok (some ⟨token, nested, false⟩) := by
  intro always
  have read := always Sample.redirected Sample.disguisedCall .name (Selector.of_input_written _ _) (by decide +kernel)
  have other : Redirect.unwrap (Redirect.pack Sample.redirected Sample.disguisedCall) =
      .ok (some ⟨0x7d106fdde030000000000000001, FacadeFunction.name.selector.toBytes, true⟩) :=
    Redirect.unwrap_pack_mistaken _ _ _ _
      ⟨by decide +kernel, by decide +kernel, by decide +kernel, by decide +kernel⟩ (by decide +kernel)
  cases other.symm.trans read

end TokenService
