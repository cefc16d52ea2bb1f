import Mathlib.Data.UInt
import TokenService.Call.Arguments

set_option autoImplicit false

namespace TokenService

namespace Bytes

theorem of_nat_append (high low number : Nat) :
    ofNat (high + low) number = ofNat high (number / span low) ++ ofNat low number := by
  induction low generalizing number with
  | zero => rw [span, Nat.div_one, ofNat, List.append_nil, Nat.add_zero]
  | succ low ih =>
      have digits := ih (number / 256)
      rw [Nat.div_div_eq_div_mul] at digits
      rw [← Nat.add_assoc, ofNat, digits, List.append_assoc]
      rfl

theorem of_nat_inj (size left right : Nat) (first : left < span size) (second : right < span size)
    (same : ofNat size left = ofNat size right) : left = right := by
  have numbers := congrArg toNat same
  rwa [to_nat_of_nat, to_nat_of_nat, Nat.mod_eq_of_lt first, Nat.mod_eq_of_lt second] at numbers

theorem of_nat_mod (size number : Nat) : ofNat size (number % span size) = ofNat size number := by
  induction size generalizing number with
  | zero => rfl
  | succ size ih => rw [ofNat, span, Nat.mod_mul_right_div_self, Nat.mod_mul_right_mod, ih, ofNat]

theorem of_nat_words {upper lower : Nat} (high low : Nat) (first : BitVec upper) (second : BitVec lower)
    (exact : span low = 2 ^ lower) :
    ofNat (high + low) (first ++ second).toNat = ofNat high first.toNat ++ ofNat low second.toNat := by
  have fits : second.toNat < span low := exact ▸ second.isLt
  have number : (first ++ second).toNat = span low * first.toNat + second.toNat := by
    rw [BitVec.toNat_append, ← Nat.shiftLeft_add_eq_or_of_lt second.isLt, Nat.shiftLeft_eq, exact, Nat.mul_comm]
  have whole : (first ++ second).toNat / span low = first.toNat := by
    rw [number, Nat.mul_add_div (Nat.zero_lt_of_lt fits), Nat.div_eq_of_lt fits, Nat.add_zero]
  have rest : (first ++ second).toNat % span low = second.toNat := by
    rw [number, Nat.mul_add_mod, Nat.mod_eq_of_lt fits]
  rw [of_nat_append, whole, ← of_nat_mod low, rest]

theorem compare_append (first second left right : Bytes) (even : first.length = second.length) :
    compare (first ++ left) (second ++ right) = (compare first second).then (compare left right) := by
  induction first generalizing second with
  | nil =>
      cases List.length_eq_zero_iff.mp even.symm
      rfl
  | cons byte first ih =>
      cases second with
      | nil => cases even
      | cons other second =>
          rw [List.cons_append, List.cons_append, List.compare_cons_cons, List.compare_cons_cons,
            ih second (Nat.succ.inj even), Ordering.then_assoc]

theorem compare_digits (left right : Nat) :
    compare left right = (compare (left / 256) (right / 256)).then (compare (left % 256) (right % 256)) := by
  obtain less | same | greater := Nat.lt_trichotomy (left / 256) (right / 256)
  · rw [Nat.compare_eq_lt.mpr less]
    exact Nat.compare_eq_lt.mpr (by omega)
  · have less : left < right ↔ left % 256 < right % 256 := by omega
    have greater : right < left ↔ right % 256 < left % 256 := by omega
    rw [Nat.compare_eq_eq.mpr same, Ordering.eq_then]
    simp only [Nat.compare_eq_ite_lt, less, greater]
  · rw [Nat.compare_eq_gt.mpr greater]
    exact Nat.compare_eq_gt.mpr (by omega)

/-- Numbers of one size come in the order of their bytes. -/
theorem compare_of_nat (size left right : Nat) (first : left < span size) (second : right < span size) :
    compare (ofNat size left) (ofNat size right) = compare left right := by
  induction size generalizing left right with
  | zero =>
      cases Nat.lt_one_iff.mp first
      cases Nat.lt_one_iff.mp second
      rfl
  | succ size ih =>
      have upper := ih (left / 256) (right / 256) (Nat.div_lt_of_lt_mul first) (Nat.div_lt_of_lt_mul second)
      have byte (number : Nat) : (UInt8.ofNat (number % 256)).toNat = number % 256 :=
        UInt8.toNat_ofNat_of_lt' (Nat.mod_lt number (by decide))
      have lower : compare [UInt8.ofNat (left % 256)] [UInt8.ofNat (right % 256)] =
          compare (left % 256) (right % 256) := by
        rw [List.compare_cons_cons, UInt8.compare_eq_toNat_compare_toNat, byte, byte]
        exact Ordering.then_eq
      rw [ofNat, ofNat, compare_append _ _ _ _ (by rw [length_of_nat, length_of_nat]), upper, lower, ← compare_digits]

end Bytes

namespace EntityId

theorem of_address_to_address (id : EntityId) : ofAddress id.toAddress = id := by
  obtain ⟨⟨shard⟩, ⟨realm⟩, ⟨num⟩⟩ := id
  have first : (shard ++ realm ++ num).extractLsb' 128 32 = shard := by
    ext i inside
    rw [BitVec.getElem_extractLsb']
    grind
  have second : (shard ++ realm ++ num).extractLsb' 64 64 = realm := by
    ext i inside
    grind
  have third : (shard ++ realm ++ num).extractLsb' 0 64 = num := by
    ext i inside
    grind
  simp only [ofAddress, toAddress, first, second, third]

theorem to_address_of_address (address : Address) : (ofAddress address).toAddress = address := by
  have upper : address.extractLsb' 128 32 ++ address.extractLsb' 64 64 = address.extractLsb' 64 96 :=
    BitVec.extractLsb'_append_extractLsb'_eq_extractLsb' rfl
  have whole : address.extractLsb' 64 96 ++ address.extractLsb' 0 64 = address.extractLsb' 0 160 :=
    BitVec.extractLsb'_append_extractLsb'_eq_extractLsb' rfl
  rw [ofAddress, toAddress, upper, whole, BitVec.extractLsb'_eq_self]

theorem to_address_bytes (id : EntityId) :
    id.toAddress.toBytes =
      Bytes.ofNat 4 id.shard.toNat ++ Bytes.ofNat 8 id.realm.toNat ++ Bytes.ofNat 8 id.num.toNat := by
  have front := Bytes.of_nat_words 4 8 id.shard.toBitVec id.realm.toBitVec rfl
  have whole := Bytes.of_nat_words 12 8 (id.shard.toBitVec ++ id.realm.toBitVec) id.num.toBitVec rfl
  exact whole.trans (congrArg (· ++ _) front)

theorem is_zero_iff (id : EntityId) : id.isZero = true ↔ id.toAddress = 0 := by
  rw [isZero, beq_iff_eq]
  constructor
  · rintro rfl
    rfl
  · intro same
    rw [← of_address_to_address id, same]
    rfl

theorem compare_to_address (left right : EntityId) :
    compare left right = compare left.toAddress.toBytes right.toAddress.toBytes := by
  have shards := Bytes.compare_of_nat 4 left.shard.toNat right.shard.toNat left.shard.toNat_lt right.shard.toNat_lt
  have realms := Bytes.compare_of_nat 8 left.realm.toNat right.realm.toNat left.realm.toNat_lt right.realm.toNat_lt
  have nums := Bytes.compare_of_nat 8 left.num.toNat right.num.toNat left.num.toNat_lt right.num.toNat_lt
  rw [to_address_bytes, to_address_bytes, Bytes.compare_append _ _ _ _ (by simp [Bytes.length_of_nat]),
    Bytes.compare_append _ _ _ _ (by simp [Bytes.length_of_nat]), shards, realms, nums,
    ← UInt32.compare_eq_toNat_compare_toNat, ← UInt64.compare_eq_toNat_compare_toNat,
    ← UInt64.compare_eq_toNat_compare_toNat, Ordering.then_assoc]
  rfl

end EntityId

namespace Address

theorem to_bytes_length (address : Address) : address.toBytes.length = 20 := Bytes.length_of_nat 20 address.toNat

theorem long_zero_iff (address : Address) :
    address.isLongZero = true ↔ address.toBytes.take 12 = Bytes.ofNat 12 0 := by
  have front : address.toBytes.take 12 = Bytes.ofNat 12 (address.toNat / UInt64.size) := by
    rw [toBytes, Bytes.of_nat_append 12 8, List.take_left' (Bytes.length_of_nat 12 _)]
    rfl
  have bound : address.toNat < Bytes.span 12 * UInt64.size := address.isLt
  rw [front, isLongZero, decide_eq_true_eq]
  constructor
  · intro small
    rw [Nat.div_eq_of_lt small]
  · intro same
    have zero := Bytes.of_nat_inj 12 _ 0 (Nat.div_lt_of_lt_mul (Nat.mul_comm _ _ ▸ bound)) (by decide) same
    exact (Nat.div_eq_zero_iff.mp zero).resolve_left (by decide)

theorem long_zero_named (address : Address) :
    address.isLongZero = true ↔ (EntityId.ofAddress address).shard = 0 ∧ (EntityId.ofAddress address).realm = 0 := by
  obtain ⟨id, rfl⟩ : ∃ id : EntityId, id.toAddress = address := ⟨_, EntityId.to_address_of_address address⟩
  have front : id.toAddress.toBytes.take 12 = Bytes.ofNat 4 id.shard.toNat ++ Bytes.ofNat 8 id.realm.toNat := by
    rw [EntityId.to_address_bytes]
    exact List.take_left' (by rw [List.length_append, Bytes.length_of_nat, Bytes.length_of_nat])
  have blank : Bytes.ofNat 12 0 = Bytes.ofNat 4 0 ++ Bytes.ofNat 8 0 := rfl
  rw [long_zero_iff, front, blank, EntityId.of_address_to_address]
  constructor
  · intro same
    obtain ⟨shards, realms⟩ := List.append_inj same (by rw [Bytes.length_of_nat, Bytes.length_of_nat])
    exact ⟨UInt32.toNat_inj.mp (Bytes.of_nat_inj 4 _ 0 id.shard.toNat_lt (by decide) shards),
      UInt64.toNat_inj.mp (Bytes.of_nat_inj 8 _ 0 id.realm.toNat_lt (by decide) realms)⟩
  · rintro ⟨shard, realm⟩
    rw [shard, realm]
    rfl

end Address

namespace CallSetting

variable (setting : CallSetting) (address : Address)

theorem entity_none_iff : setting.entity? address = none ↔ address = 0 := by
  simp [entity?]

theorem entity_zero_iff : (setting.entity address).isZero = true ↔ setting.resolve address = 0 := by
  rw [entity, EntityId.is_zero_iff, EntityId.to_address_of_address]

theorem resolved_entity (zero : ∀ address, setting.resolve address = 0 ↔ address = 0) :
    (if setting.resolve address = 0 then none else some (setting.entity address)) = setting.entity? address := by
  simp only [zero, entity?]

end CallSetting

/-- Every id has an address of its own and every address an id, accounts, tokens and contracts alike: 4, 8 and 8 bytes
hold the shard, the realm and the number, so that ids come in the order of the bytes of their addresses, and the zero
id is the one of the zero address. To ask for zero of an address of a call, or of what it resolves to, is therefore to
ask for zero of the id; and the two questions have one answer unless resolving leads to zero or away from it. -/
theorem ids_and_addresses_correspond :
    (∀ id : EntityId,
      EntityId.ofAddress id.toAddress = id ∧
        id.toAddress.toBytes =
          Bytes.ofNat 4 id.shard.toNat ++ Bytes.ofNat 8 id.realm.toNat ++ Bytes.ofNat 8 id.num.toNat ∧
        (id.isZero = true ↔ id.toAddress = 0)) ∧
      (∀ address : Address,
        (EntityId.ofAddress address).toAddress = address ∧
          (address.isLongZero = true ↔
            (EntityId.ofAddress address).shard = 0 ∧ (EntityId.ofAddress address).realm = 0)) ∧
      (∀ left right : EntityId, compare left right = compare left.toAddress.toBytes right.toAddress.toBytes) ∧
      ∀ (setting : CallSetting) (address : Address),
        (setting.entity? address = none ↔ (EntityId.ofAddress address).isZero = true) ∧
          (setting.resolve address = 0 ↔ (setting.entity address).isZero = true) ∧
          ((setting.entity? address = none ↔ (setting.entity address).isZero = true) ↔
            (setting.resolve address = 0 ↔ address = 0)) := by
  refine ⟨fun id => ⟨id.of_address_to_address, id.to_address_bytes, id.is_zero_iff⟩,
    fun address => ⟨EntityId.to_address_of_address address, address.long_zero_named⟩,
    EntityId.compare_to_address, fun setting address => ?_⟩
  have raw := setting.entity_none_iff address
  have resolved := setting.entity_zero_iff address
  have named : (EntityId.ofAddress address).isZero = true ↔ address = 0 := by
    rw [EntityId.is_zero_iff, EntityId.to_address_of_address]
  refine ⟨raw.trans named.symm, resolved.symm, ?_⟩
  rw [raw, resolved]
  exact Iff.comm

example : (EntityId.mk 1 2 3).toAddress = 0x0000000100000000000000020000000000000003 := by decide

end TokenService
