import TokenService.Proofs.Addresses
import TokenService.Proofs.Form

set_option autoImplicit false

namespace TokenService

open Abi

theorem bind_given {ε α β : Type} (first : Except ε α) (next : α → Except ε β) :
    (∃ result, (first >>= next) = .ok result) ↔ ∃ value, first = .ok value ∧ ∃ result, next value = .ok result := by
  simp only [except_bind_ok]
  rw [exists_comm]
  simp only [exists_and_left]

theorem pure_given {ε α : Type} (value : α) : (∃ result, (pure value : Except ε α) = .ok result) ↔ True :=
  iff_true_intro ⟨value, rfl⟩

section Lists

variable {α β γ : Type}

theorem all_say_map (tells : α → β → Prop) (meaning : α → β)
    (each : ∀ item result, tells item result ↔ result = meaning item) (items : List α) (results : List β) :
    List.Forall₂ tells items results ↔ results = items.map meaning := by
  induction items generalizing results with
  | nil => simp
  | cons item rest ih =>
      simp only [List.forall₂_cons_left_iff, List.map_cons, each, ih]
      constructor
      · rintro ⟨_, _, rfl, rfl, whole⟩
        exact whole
      · intro whole
        exact ⟨_, _, rfl, rfl, whole⟩

theorem in_step_iff (left : α → γ → Prop) (right : β → γ → Prop) (firsts : List α) (seconds : List β)
    (results : List γ) :
    List.Forall₂ left firsts results ∧ List.Forall₂ right seconds results ↔
      firsts.length = seconds.length ∧
        List.Forall₂ (fun pair result => left pair.1 result ∧ right pair.2 result) (firsts.zip seconds) results := by
  constructor
  · rintro ⟨lefts, rights⟩
    induction lefts generalizing seconds with
    | nil =>
        cases rights
        exact ⟨rfl, .nil⟩
    | cons here _ ih =>
        cases rights with
        | cons there rights =>
            obtain ⟨even, both⟩ := ih _ rights
            exact ⟨congrArg (· + 1) even, .cons ⟨here, there⟩ both⟩
  · rintro ⟨even, both⟩
    induction firsts generalizing seconds results with
    | nil =>
        cases List.length_eq_zero_iff.mp even.symm
        cases both
        exact ⟨.nil, .nil⟩
    | cons first firsts ih =>
        cases seconds with
        | nil => cases even
        | cons second seconds =>
            cases both with
            | cons here both =>
                obtain ⟨lefts, rights⟩ := ih _ _ (Nat.succ.inj even) both
                exact ⟨.cons here.1 lefts, .cons here.2 rights⟩

end Lists

section Numbers

def Abi.Atom.number : (atom : Atom) → atom.Val → Int
  | .uint32, value => value.toNat
  | .uint64, value => value.toNat
  | .uint256, value => value.toNat
  | .int32, value => value.toInt
  | .int64, value => value.toInt
  | .bool, value => value.toNat
  | .address, value => value.toNat

theorem native64_ok_iff (argument : WideArgument) (number : Nat) (value : Int64) :
    native64 argument number = .ok value ↔ value.toInt = number := by
  rw [← int64_some_iff, native64]
  cases int64? number <;> simp

theorem native32_ok_iff (argument : WideArgument) (number : Nat) (value : Int32) :
    native32 argument number = .ok value ↔ value.toInt = number := by
  rw [← int32_some_iff, native32]
  cases int32? number <;> simp

theorem int64_fits_iff (number : Int) :
    (∃ value : Int64, value.toInt = number) ↔ Int64.minValue.toInt ≤ number ∧ number ≤ Int64.maxValue.toInt := by
  constructor
  · rintro ⟨value, rfl⟩
    exact ⟨Int64.minValue_le_toInt value, Int64.toInt_le value⟩
  · intro range
    exact ⟨.ofInt number, Int64.toInt_ofInt_of_le range.1 (Int.lt_of_le_of_lt range.2 (by decide))⟩

theorem int32_fits_iff (number : Int) :
    (∃ value : Int32, value.toInt = number) ↔ Int32.minValue.toInt ≤ number ∧ number ≤ Int32.maxValue.toInt := by
  constructor
  · rintro ⟨value, rfl⟩
    exact ⟨Int32.minValue_le_toInt value, Int32.toInt_le value⟩
  · intro range
    exact ⟨.ofInt number, Int32.toInt_ofInt_of_le range.1 (Int.lt_of_le_of_lt range.2 (by decide))⟩

theorem uint64_fits_iff (number : Nat) : (∃ value : UInt64, value.toNat = number) ↔ number < UInt64.size := by
  constructor
  · rintro ⟨value, rfl⟩
    exact UInt64.toNat_lt_size value
  · intro range
    exact ⟨.ofNat number, UInt64.toNat_ofNat_of_lt' range⟩

theorem native64_given_iff (argument : WideArgument) (number : Nat) :
    (∃ value, native64 argument number = .ok value) ↔ (number : Int) ≤ Int64.maxValue.toInt := by
  simp only [native64_ok_iff, int64_fits_iff]
  exact and_iff_right (Int.le_trans (by decide) (Int.natCast_nonneg number))

theorem native32_given_iff (argument : WideArgument) (number : Nat) :
    (∃ value, native32 argument number = .ok value) ↔ (number : Int) ≤ Int32.maxValue.toInt := by
  simp only [native32_ok_iff, int32_fits_iff]
  exact and_iff_right (Int.le_trans (by decide) (Int.natCast_nonneg number))

namespace Generation

variable (generation : Generation)

theorem widened_number (number : UInt32) : number.toUInt64.toInt64.toInt = number.toNat := by
  have small := number.toNat_lt
  have same : number.toUInt64.toBitVec.toNat = number.toNat := UInt32.toNat_toUInt64 number
  change number.toUInt64.toBitVec.toInt = number.toNat
  rw [BitVec.toInt_eq_toNat_of_lt (by rw [same]; omega), same]

theorem cap_number (value : generation.capAtom.Val) :
    (generation.cap value).toInt = generation.capAtom.number value := by
  cases generation with
  | first => exact widened_number value
  | second => rfl
  | third => rfl

theorem time_number (value : generation.timeAtom.Val) :
    (generation.time value).toInt = generation.timeAtom.number value := by
  cases generation with
  | first => exact widened_number value
  | second => exact widened_number value
  | third => rfl

theorem supply_ok_iff (value : generation.supplyAtom.Val) (supply : Int64) :
    generation.supply value = .ok supply ↔ supply.toInt = generation.supplyAtom.number value := by
  cases generation with
  | first => exact native64_ok_iff _ _ _
  | second => exact native64_ok_iff _ _ _
  | third =>
      exact ⟨fun same => congrArg Int64.toInt (Except.ok.inj same).symm,
        fun same => congrArg Except.ok (Int64.toInt_inj.mp same).symm⟩

theorem decimals_ok_iff (value : generation.decimalsAtom.Val) (decimals : Int32) :
    generation.decimals value = .ok decimals ↔ decimals.toInt = generation.decimalsAtom.number value := by
  cases generation with
  | first => exact native32_ok_iff _ _ _
  | second => exact native32_ok_iff _ _ _
  | third =>
      exact ⟨fun same => congrArg Int32.toInt (Except.ok.inj same).symm,
        fun same => congrArg Except.ok (Int32.toInt_inj.mp same).symm⟩

theorem supply_given_iff (value : generation.supplyAtom.Val) :
    (∃ supply, generation.supply value = .ok supply) ↔
      generation.supplyAtom.number value ≤ Int64.maxValue.toInt := by
  cases generation with
  | first => exact native64_given_iff _ _
  | second => exact native64_given_iff _ _
  | third => exact ⟨fun _ => Int64.toInt_le value, fun _ => ⟨value, rfl⟩⟩

theorem decimals_given_iff (value : generation.decimalsAtom.Val) :
    (∃ decimals, generation.decimals value = .ok decimals) ↔
      generation.decimalsAtom.number value ≤ Int32.maxValue.toInt := by
  cases generation with
  | first => exact native32_given_iff _ _
  | second => exact native32_given_iff _ _
  | third => exact ⟨fun _ => Int32.toInt_le value, fun _ => ⟨value, rfl⟩⟩

end Generation

end Numbers

namespace CallSetting

variable (setting : CallSetting)

def Names (address : Address) (id : EntityId) : Prop := id.toAddress = setting.resolve address

def MayName (address : Address) : Option EntityId → Prop
  | none => address = 0
  | some id => address ≠ 0 ∧ setting.Names address id

theorem names_iff (address : Address) (id : EntityId) : setting.Names address id ↔ id = setting.entity address := by
  constructor
  · intro named
    rw [entity, ← named, EntityId.of_address_to_address]
  · intro same
    rw [same, Names, entity, EntityId.to_address_of_address]

theorem may_name_iff (address : Address) (id : Option EntityId) :
    setting.MayName address id ↔ id = setting.entity? address := by
  cases id with
  | none => exact (setting.entity_none_iff address).symm.trans eq_comm
  | some id =>
      rw [MayName, names_iff, entity?]
      by_cases absent : address = 0
      · simp [absent]
      · rw [if_neg absent, Option.some.injEq]
        exact ⟨And.right, And.intro absent⟩

end CallSetting

namespace Struct

section Keys

variable (setting : CallSetting) (inherit : Bool) (contract : Address) (ed25519 secp256k1 : Bytes)
  (delegatable : Address)

def keyKinds : Nat :=
  [inherit, contract != 0, !ed25519.isEmpty, !secp256k1.isEmpty, delegatable != 0].count true

structure KeySound : Prop where
  single : keyKinds inherit contract ed25519 secp256k1 delegatable ≤ 1
  ed25519 : ed25519.length = 0 ∨ ed25519.length = 32
  secp256k1 : secp256k1.length = 0 ∨ secp256k1.length = 33

def KeyTells : KeyChoice → Prop
  | .inherit => inherit = true
  | .contract id => setting.MayName contract (some id)
  | .ed25519 bytes => ed25519 ≠ [] ∧ bytes = ed25519
  | .secp256k1 bytes => secp256k1 ≠ [] ∧ bytes = secp256k1
  | .delegatable id => setting.MayName delegatable (some id)
  | .unset => keyKinds inherit contract ed25519 secp256k1 delegatable = 0

def keyChoices : List (Option KeyChoice) := [
  bif inherit then some .inherit else none,
  (setting.entity? contract).map .contract,
  if ed25519.length = 0 then none else some (.ed25519 ed25519),
  if secp256k1.length = 0 then none else some (.secp256k1 secp256k1),
  (setting.entity? delegatable).map .delegatable]

theorem entity_given (address : Address) : (setting.entity? address).isSome = (address != 0) := by
  rw [Bool.eq_iff_iff, Option.isSome_iff_ne_none, bne_iff_ne, ne_eq, setting.entity_none_iff]

theorem key_choices_length :
    ((keyChoices setting inherit contract ed25519 secp256k1 delegatable).filterMap id).length =
      keyKinds inherit contract ed25519 secp256k1 delegatable := by
  have bytes (key : Bytes) (kind : Bytes → KeyChoice) :
      (if key.length = 0 then none else some (kind key)).isSome = !key.isEmpty := by
    cases key <;> simp
  have flags : (keyChoices setting inherit contract ed25519 secp256k1 delegatable).map Option.isSome =
      [inherit, contract != 0, !ed25519.isEmpty, !secp256k1.isEmpty, delegatable != 0] := by
    simp only [keyChoices, List.map_cons, List.map_nil, Option.isSome_map, entity_given, bytes]
    cases inherit <;> rfl
  rw [keyKinds, ← flags, List.length_filterMap_eq_countP, List.count, List.countP_map]
  exact List.countP_congr fun kind _ => by simp

theorem mem_key_choices (choice : KeyChoice) :
    choice ∈ (keyChoices setting inherit contract ed25519 secp256k1 delegatable).filterMap id ↔
      choice ≠ .unset ∧ KeyTells setting inherit contract ed25519 secp256k1 delegatable choice := by
  have named (address : Address) (kind : EntityId → KeyChoice) :
      some choice = (setting.entity? address).map kind ↔
        ∃ id, choice = kind id ∧ setting.MayName address (some id) := by
    cases found : setting.entity? address with
    | none => simp [CallSetting.may_name_iff, found]
    | some id => simp [CallSetting.may_name_iff, found]
  have bytes (key : Bytes) (kind : KeyChoice) :
      some choice = (if key.length = 0 then none else some kind) ↔ key ≠ [] ∧ choice = kind := by
    cases key <;> simp
  simp only [List.mem_filterMap, id, exists_eq_right, keyChoices, List.mem_cons, List.not_mem_nil, or_false, named,
    bytes]
  cases choice <;> cases inherit <;> simp [KeyTells]

theorem sole_kind_iff (kinds : List KeyChoice) (choice : KeyChoice) :
    (match kinds with
      | [] => pure .unset
      | [kind] => pure kind
      | several => throw (.severalKinds several.length) : Except KeyFault KeyChoice) = .ok choice ↔
      kinds.length ≤ 1 ∧ (choice ∈ kinds ∨ kinds.length = 0 ∧ choice = .unset) := by
  cases kinds with
  | nil => simp [pure, Except.pure, eq_comm]
  | cons first rest =>
      cases rest with
      | nil => simp [pure, Except.pure, eq_comm]
      | cons => simp [throw, throwThe, MonadExceptOf.throw]

theorem key_choice_ok_iff (choice : KeyChoice) :
    toKeyChoice setting (inherit, contract, ed25519, secp256k1, delegatable, ()) = .ok choice ↔
      KeySound inherit contract ed25519 secp256k1 delegatable ∧
        KeyTells setting inherit contract ed25519 secp256k1 delegatable choice := by
  have sole := sole_kind_iff ((keyChoices setting inherit contract ed25519 secp256k1 delegatable).filterMap id) choice
  have told : choice ≠ .unset ∧ KeyTells setting inherit contract ed25519 secp256k1 delegatable choice ∨
      keyKinds inherit contract ed25519 secp256k1 delegatable = 0 ∧ choice = .unset ↔
        KeyTells setting inherit contract ed25519 secp256k1 delegatable choice := by
    cases choice <;> simp [KeyTells]
  rw [key_choices_length, mem_key_choices, told] at sole
  simp only [toKeyChoice]
  split
  · rename_i wrong
    exact ⟨nofun, fun ⟨sound, _⟩ => (sound.ed25519.elim wrong.1 wrong.2).elim⟩
  · rename_i right
    split
    · rename_i wrong
      exact ⟨nofun, fun ⟨sound, _⟩ => (sound.secp256k1.elim wrong.1 wrong.2).elim⟩
    · rename_i also
      refine sole.trans
        ⟨fun ⟨single, tells⟩ => ⟨⟨single, ?_, ?_⟩, tells⟩, fun ⟨sound, tells⟩ => ⟨sound.single, tells⟩⟩
      · exact Decidable.or_iff_not_not_and_not.mpr right
      · exact Decidable.or_iff_not_not_and_not.mpr also

theorem key_tells_some : ∃ choice, KeyTells setting inherit contract ed25519 secp256k1 delegatable choice := by
  have size := key_choices_length setting inherit contract ed25519 secp256k1 delegatable
  by_cases unset : keyKinds inherit contract ed25519 secp256k1 delegatable = 0
  · exact ⟨.unset, unset⟩
  · obtain ⟨choice, member⟩ := List.exists_mem_of_length_pos (Nat.pos_of_ne_zero (size ▸ unset))
    exact ⟨choice, ((mem_key_choices _ _ _ _ _ _ choice).mp member).2⟩

end Keys

section Fields

variable (setting : CallSetting)

def KeyFits : tokenKey.Val → Prop
  | (mask, (inherit, contract, ed25519, secp256k1, delegatable, ()), ()) =>
      BitVec.toNat mask < UInt64.size ∧ KeySound inherit contract ed25519 secp256k1 delegatable

def KeyArgumentTells : tokenKey.Val → KeyArgument → Prop
  | (mask, (inherit, contract, ed25519, secp256k1, delegatable, ()), ()), argument =>
      argument.mask.toNat = BitVec.toNat mask ∧
        KeyTells setting inherit contract ed25519 secp256k1 delegatable argument.choice

theorem key_argument_ok_iff (value : tokenKey.Val) (argument : KeyArgument) :
    toKeyArgument setting value = .ok argument ↔ KeyFits value ∧ KeyArgumentTells setting value argument := by
  obtain ⟨mask, ⟨inherit, contract, ed25519, secp256k1, delegatable, ⟨⟩⟩, ⟨⟩⟩ := value
  have choice := key_choice_ok_iff setting inherit contract ed25519 secp256k1 delegatable
  simp only [toKeyArgument, KeyFits, KeyArgumentTells, ← uint64_fits_iff, ← uint64_some_iff]
  cases uint64? (BitVec.toNat mask) with
  | none => simp
  | some mask =>
      cases given : toKeyChoice setting (inherit, contract, ed25519, secp256k1, delegatable, ()) with
      | ok found =>
          have sound := (choice found).mp given
          have only (other : KeyChoice) : found = other ↔ KeySound inherit contract ed25519 secp256k1 delegatable ∧
              KeyTells setting inherit contract ed25519 secp256k1 delegatable other := by
            rw [← choice, given, Except.ok.injEq]
          obtain ⟨number, kind⟩ := argument
          simp [only, sound.1]
      | error fault =>
          have none (other : KeyChoice) := (choice other).not.mp (given ▸ nofun)
          simp only [reduceCtorEq, false_iff]
          exact fun ⟨⟨_, sound⟩, _, tells⟩ => none _ ⟨sound, tells⟩

theorem keys_ok_iff (values : List tokenKey.Val) (keys : List KeyArgument) :
    List.mapM (toKeyArgument setting) values = .ok keys ↔
      (∀ value ∈ values, KeyFits value) ∧ List.Forall₂ (KeyArgumentTells setting) values keys := by
  rw [map_m_ok]
  simp only [key_argument_ok_iff]
  rw [List.forall₂_and_left]

theorem key_argument_given_iff (value : tokenKey.Val) :
    (∃ argument, toKeyArgument setting value = .ok argument) ↔ KeyFits value := by
  simp only [key_argument_ok_iff, exists_and_left]
  refine and_iff_left_of_imp fun fits => ?_
  obtain ⟨mask, ⟨inherit, contract, ed25519, secp256k1, delegatable, ⟨⟩⟩, ⟨⟩⟩ := value
  obtain ⟨choice, tells⟩ := key_tells_some setting inherit contract ed25519 secp256k1 delegatable
  obtain ⟨native, same⟩ := (uint64_fits_iff _).mpr fits.1
  exact ⟨⟨native, choice⟩, same, tells⟩

theorem keys_given_iff (values : List tokenKey.Val) :
    (∃ keys, List.mapM (toKeyArgument setting) values = .ok keys) ↔ ∀ value ∈ values, KeyFits value := by
  simp only [map_m_done_iff, key_argument_given_iff]

def ExpiryTells (generation : Generation) : (expiry generation).Val → Expiry → Prop
  | (second, account, period, ()), given =>
      given.second.toInt = generation.timeAtom.number second ∧ setting.MayName account given.autoRenewAccount ∧
        given.autoRenewPeriod.toInt = generation.timeAtom.number period

theorem expiry_tells_iff (generation : Generation) (value : (expiry generation).Val) (given : Expiry) :
    ExpiryTells setting generation value given ↔ given = toExpiry setting generation value := by
  obtain ⟨(second : generation.timeAtom.Val), (account : Address), (period : generation.timeAtom.Val), ⟨⟩⟩ := value
  obtain ⟨_, _, _⟩ := given
  simp [ExpiryTells, toExpiry, CallSetting.may_name_iff, ← Generation.time_number, Int64.toInt_inj]

def FixedFeeTells : fixedFee.Val → CustomFee → Prop
  | (amount, token, _, inMovedToken, collector, ()), .fixed fee =>
      fee.amount = amount ∧ setting.MayName token fee.denomination ∧ fee.inMovedToken = inMovedToken ∧
        setting.Names collector fee.collector
  | _, _ => False

theorem fixed_fee_tells_iff (value : fixedFee.Val) (fee : CustomFee) :
    FixedFeeTells setting value fee ↔ fee = toFixedFee setting value := by
  obtain ⟨(amount : Int64), (token : Address), inHbar, (inMovedToken : Bool), (collector : Address), ⟨⟩⟩ := value
  cases fee with
  | fixed fee =>
      obtain ⟨_, _, _, _⟩ := fee
      simp [FixedFeeTells, toFixedFee, CallSetting.may_name_iff, CallSetting.names_iff]
  | fractional => simp [FixedFeeTells, toFixedFee]
  | royalty => simp [FixedFeeTells, toFixedFee]

def FractionalFeeTells : fractionalFee.Val → CustomFee → Prop
  | (numerator, denominator, minimum, maximum, netOfTransfers, collector, ()), .fractional fee =>
      fee.numerator = numerator ∧ fee.denominator = denominator ∧ fee.minimum = minimum ∧ fee.maximum = maximum ∧
        fee.netOfTransfers = netOfTransfers ∧ setting.Names collector fee.collector
  | _, _ => False

theorem fractional_fee_tells_iff (value : fractionalFee.Val) (fee : CustomFee) :
    FractionalFeeTells setting value fee ↔ fee = toFractionalFee setting value := by
  obtain ⟨(numerator : Int64), (denominator : Int64), (minimum : Int64), (maximum : Int64), (netOfTransfers : Bool),
    (collector : Address), ⟨⟩⟩ := value
  cases fee with
  | fractional fee =>
      obtain ⟨_, _, _, _, _, _⟩ := fee
      simp [FractionalFeeTells, toFractionalFee, CallSetting.names_iff]
  | fixed => simp [FractionalFeeTells, toFractionalFee]
  | royalty => simp [FractionalFeeTells, toFractionalFee]

-- A fallback of nothing is none, whatever token it names.
def FallbackTells (amount : Int64) (token collector : Address) : Option FixedFee → Prop
  | none => amount = 0
  | some fee =>
      amount ≠ 0 ∧ fee.amount = amount ∧ setting.MayName token fee.denomination ∧ fee.inMovedToken = false ∧
        setting.Names collector fee.collector

theorem fallback_tells_iff (amount : Int64) (token collector : Address) (fallback : Option FixedFee) :
    FallbackTells setting amount token collector fallback ↔
      fallback =
        if amount = 0 then none
        else
          some
            { amount := amount, denomination := setting.entity? token, collector := setting.entity collector } := by
  cases fallback with
  | none => simp [FallbackTells]
  | some fee =>
      obtain ⟨_, _, _, _⟩ := fee
      simp [FallbackTells, CallSetting.may_name_iff, CallSetting.names_iff]

def RoyaltyFeeTells : royaltyFee.Val → CustomFee → Prop
  | (numerator, denominator, amount, token, _, collector, ()), .royalty fee =>
      fee.numerator = numerator ∧ fee.denominator = denominator ∧
        FallbackTells setting amount token collector fee.fallback ∧ setting.Names collector fee.collector
  | _, _ => False

theorem royalty_fee_tells_iff (value : royaltyFee.Val) (fee : CustomFee) :
    RoyaltyFeeTells setting value fee ↔ fee = toRoyaltyFee setting value := by
  obtain ⟨(numerator : Int64), (denominator : Int64), (amount : Int64), (token : Address), _,
    (collector : Address), ⟨⟩⟩ := value
  cases fee with
  | royalty fee =>
      obtain ⟨_, _, _, _⟩ := fee
      simp [RoyaltyFeeTells, toRoyaltyFee, fallback_tells_iff, CallSetting.names_iff]
  | fixed => simp [RoyaltyFeeTells, toRoyaltyFee]
  | fractional => simp [RoyaltyFeeTells, toRoyaltyFee]

def FeesTell {α β : Type} (first : α → CustomFee → Prop) (second : β → CustomFee → Prop) (firsts : List α)
    (seconds : List β) (fees : List CustomFee) : Prop :=
  ∃ front back, List.Forall₂ first firsts front ∧ List.Forall₂ second seconds back ∧ fees = front ++ back

theorem fees_tell_iff {α β : Type} (first : α → CustomFee → Prop) (second : β → CustomFee → Prop)
    (meaning : α → CustomFee) (other : β → CustomFee) (firstly : ∀ item fee, first item fee ↔ fee = meaning item)
    (secondly : ∀ item fee, second item fee ↔ fee = other item) (firsts : List α) (seconds : List β)
    (fees : List CustomFee) :
    FeesTell first second firsts seconds fees ↔ fees = firsts.map meaning ++ seconds.map other := by
  simp [FeesTell, all_say_map _ _ firstly, all_say_map _ _ secondly]

def TokenTells (generation : Generation) : (token generation).Val → CreateOrder → Prop
  | (name, symbol, treasury, memo, finite, maxSupply, freezeDefault, keys, expiry, ()), order =>
      order.name = name ∧ order.symbol = symbol ∧ setting.Names treasury order.treasury ∧ order.memo = memo ∧
        order.supplyType = (bif finite then .finite else .infinite) ∧
        order.maxSupply.toInt = generation.capAtom.number maxSupply ∧ order.freezeDefault = freezeDefault ∧
        List.Forall₂ (KeyArgumentTells setting) keys order.keys ∧ ExpiryTells setting generation expiry order.expiry

def keysOf (generation : Generation) : (token generation).Val → List tokenKey.Val
  | (_, _, _, _, _, _, _, keys, _, ()) => keys

theorem create_order_ok_iff (generation : Generation) (type : TokenType) (supply : Int64) (decimals : Int32)
    (fees : List CustomFee) (value : (token generation).Val) (order : CreateOrder) :
    toCreateOrder setting generation type supply decimals fees value = .ok order ↔
      (∀ key ∈ keysOf generation value, KeyFits key) ∧ TokenTells setting generation value order ∧ order.type = type ∧
        order.initialSupply = supply ∧ order.decimals = decimals ∧ order.customFees = fees := by
  obtain ⟨(name : String), (symbol : String), (treasury : Address), (memo : String), (finite : Bool),
    (maxSupply : generation.capAtom.Val), (freezeDefault : Bool), (keys : List tokenKey.Val), expiry, ⟨⟩⟩ := value
  obtain ⟨_, _, _, _, _, _, _, _, _, _, _, _, _⟩ := order
  simp only [toCreateOrder, except_bind_ok, keys_ok_iff, keysOf, TokenTells, CallSetting.names_iff, expiry_tells_iff,
    ← Generation.cap_number, Int64.toInt_inj, pure, Except.pure, Except.ok.injEq, CreateOrder.mk.injEq]
  constructor
  · rintro ⟨found, ⟨fits, told⟩, rfl, rfl, rfl, rfl, rfl, rfl, rfl, rfl, rfl, rfl, rfl, rfl, rfl⟩
    exact ⟨fits, ⟨rfl, rfl, rfl, rfl, rfl, rfl, rfl, told, rfl⟩, rfl, rfl, rfl, rfl⟩
  · rintro ⟨fits, ⟨rfl, rfl, rfl, rfl, rfl, rfl, rfl, told, rfl⟩, rfl, rfl, rfl, rfl⟩
    exact ⟨_, ⟨fits, told⟩, rfl, rfl, rfl, rfl, rfl, rfl, rfl, rfl, rfl, rfl, rfl, rfl, rfl⟩

theorem create_order_given_iff (generation : Generation) (type : TokenType) (supply : Int64) (decimals : Int32)
    (fees : List CustomFee) (value : (token generation).Val) :
    (∃ order, toCreateOrder setting generation type supply decimals fees value = .ok order) ↔
      ∀ key ∈ keysOf generation value, KeyFits key := by
  obtain ⟨name, symbol, treasury, memo, finite, maxSupply, freezeDefault, keys, expiry, ⟨⟩⟩ := value
  simp only [toCreateOrder, bind_given, pure_given, and_true]
  exact keys_given_iff setting keys

-- No word of supply and freezing: an update leaves them as they are.
def InfoTells (generation : Generation) : (token generation).Val → InfoOrder → Prop
  | (name, symbol, treasury, memo, _, _, _, keys, expiry, ()), order =>
      order.name = name ∧ order.symbol = symbol ∧ setting.MayName treasury order.treasury ∧ order.memo = memo ∧
        List.Forall₂ (KeyArgumentTells setting) keys order.keys ∧ ExpiryTells setting generation expiry order.expiry

theorem info_order_ok_iff (generation : Generation) (zero : ∀ address, setting.resolve address = 0 ↔ address = 0)
    (target : Address) (value : (token generation).Val) (order : InfoOrder) :
    toInfoOrder setting generation target value = .ok order ↔
      (∀ key ∈ keysOf generation value, KeyFits key) ∧ InfoTells setting generation value order ∧
        setting.Names target order.token := by
  obtain ⟨(name : String), (symbol : String), (treasury : Address), (memo : String), _, _, _,
    (keys : List tokenKey.Val), expiry, ⟨⟩⟩ := value
  obtain ⟨_, _, _, _, _, _, _⟩ := order
  have same := setting.resolved_entity treasury zero
  simp only [toInfoOrder, except_bind_ok, keys_ok_iff, keysOf, InfoTells, CallSetting.names_iff,
    CallSetting.may_name_iff, expiry_tells_iff, same, pure, Except.pure, Except.ok.injEq, InfoOrder.mk.injEq]
  constructor
  · rintro ⟨found, ⟨fits, told⟩, rfl, rfl, rfl, rfl, rfl, rfl, rfl⟩
    exact ⟨fits, ⟨rfl, rfl, rfl, rfl, told, rfl⟩, rfl⟩
  · rintro ⟨fits, ⟨rfl, rfl, rfl, rfl, told, rfl⟩, rfl⟩
    exact ⟨_, ⟨fits, told⟩, rfl, rfl, rfl, rfl, rfl, rfl, rfl⟩

theorem info_order_given_iff (generation : Generation) (target : Address) (value : (token generation).Val) :
    (∃ order, toInfoOrder setting generation target value = .ok order) ↔
      ∀ key ∈ keysOf generation value, KeyFits key := by
  obtain ⟨name, symbol, treasury, memo, finite, maxSupply, freezeDefault, keys, expiry, ⟨⟩⟩ := value
  simp only [toInfoOrder, bind_given, pure_given, and_true]
  exact keys_given_iff setting keys

end Fields

section Moves

variable (setting : CallSetting)

def AdjustmentTells : adjustment.Val → Adjustment → Prop
  | (account, amount, approval, ()), given =>
      setting.Names account given.account ∧ given.amount = amount ∧ given.approval = approval

def PlainAdjustmentTells : plainAdjustment.Val → Adjustment → Prop
  | (account, amount, ()), given => AdjustmentTells setting (account, amount, false, ()) given

def NftMoveTells : nftMove.Val → NftMove → Prop
  | (sender, receiver, serial, approval, ()), given =>
      setting.Names sender given.sender ∧ setting.Names receiver given.receiver ∧ given.serial = serial ∧
        given.approval = approval

def PlainNftMoveTells : plainNftMove.Val → NftMove → Prop
  | (sender, receiver, serial, ()), given => NftMoveTells setting (sender, receiver, serial, false, ()) given

theorem adjustment_tells_iff (value : adjustment.Val) (given : Adjustment) :
    AdjustmentTells setting value given ↔ given = toAdjustment setting value := by
  obtain ⟨(account : Address), (amount : Int64), (approval : Bool), ⟨⟩⟩ := value
  obtain ⟨_, _, _⟩ := given
  simp [AdjustmentTells, toAdjustment, CallSetting.names_iff]

theorem nft_move_tells_iff (value : nftMove.Val) (given : NftMove) :
    NftMoveTells setting value given ↔
      given = ⟨setting.entity value.1, setting.entity value.2.1, value.2.2.1, value.2.2.2.1⟩ := by
  obtain ⟨(sender : Address), (receiver : Address), (serial : Int64), (approval : Bool), ⟨⟩⟩ := value
  obtain ⟨_, _, _, _⟩ := given
  simp [NftMoveTells, CallSetting.names_iff]

def MovesTell : moves.Val → TokenMoves → Prop
  | (token, adjustments, nftMoves, ()), given =>
      setting.Names token given.token ∧ List.Forall₂ (AdjustmentTells setting) adjustments given.adjustments ∧
        List.Forall₂ (NftMoveTells setting) nftMoves given.nftMoves

theorem moves_tell_iff (value : moves.Val) (given : TokenMoves) :
    MovesTell setting value given ↔ given = toMoves setting value := by
  obtain ⟨(token : Address), (adjustments : List adjustment.Val), (nftMoves : List nftMove.Val), ⟨⟩⟩ := value
  obtain ⟨_, _, _⟩ := given
  have adjusts := all_say_map _ _ (adjustment_tells_iff setting) adjustments
  have moved := all_say_map _ _ (nft_move_tells_iff setting) nftMoves
  simp only [MovesTell, CallSetting.names_iff, adjusts, moved, toMoves, TokenMoves.mk.injEq]
  rfl

def PlainMovesTell : plainMoves.Val → TokenMoves → Prop
  | (token, adjustments, nftMoves, ()), given =>
      setting.Names token given.token ∧ List.Forall₂ (PlainAdjustmentTells setting) adjustments given.adjustments ∧
        List.Forall₂ (PlainNftMoveTells setting) nftMoves given.nftMoves

theorem plain_moves_tell_iff (value : plainMoves.Val) (given : TokenMoves) :
    PlainMovesTell setting value given ↔ given = toPlainMoves setting value := by
  obtain ⟨(token : Address), (adjustments : List plainAdjustment.Val), (nftMoves : List plainNftMove.Val), ⟨⟩⟩ := value
  obtain ⟨_, _, _⟩ := given
  have adjusts := all_say_map (PlainAdjustmentTells setting) _
    (fun item => adjustment_tells_iff setting (item.1, item.2.1, false, ())) adjustments
  have moved := all_say_map (PlainNftMoveTells setting) _
    (fun item => nft_move_tells_iff setting (item.1, item.2.1, item.2.2.1, false, ())) nftMoves
  simp only [PlainMovesTell, CallSetting.names_iff, adjusts, moved, toPlainMoves, TokenMoves.mk.injEq]
  rfl

end Moves

end Struct

end TokenService
