import TokenService.Bytes

set_option autoImplicit false

namespace TokenService

abbrev Address := BitVec 160

namespace Address

def toBytes (address : Address) : Bytes := Bytes.ofNat 20 address.toNat

def ofBytes (bytes : Bytes) : Address := BitVec.ofNat 160 (Bytes.toNat bytes)

-- The first twelve bytes are zero, so the address holds an entity number and no alias.
def isLongZero (address : Address) : Bool := address.toNat < UInt64.size

-- Exactly forty digits of either case, after an optional 0x or 0X.
def ofText? (text : String) : Option Address :=
  let digits := match text.toList with
    | '0' :: 'x' :: rest => rest
    | '0' :: 'X' :: rest => rest
    | all => all
  if digits.length = 40 then (Bytes.ofHex? digits).map ofBytes else none

def text (address : Address) : String := "0x" ++ Bytes.hex address.toBytes

theorem of_bytes_to_bytes (address : Address) : ofBytes address.toBytes = address := by
  apply BitVec.eq_of_toNat_eq
  have span : Bytes.span 20 = 2 ^ 160 := rfl
  rw [ofBytes, toBytes, Bytes.to_nat_of_nat, BitVec.toNat_ofNat, span]
  have bound := address.isLt
  omega

end Address

structure EntityId where
  shard : UInt32
  realm : UInt64
  num : UInt64
  deriving DecidableEq, Repr

abbrev AccountId := EntityId
abbrev TokenId := EntityId
abbrev ContractId := EntityId

namespace EntityId

def zero : EntityId := ⟨0, 0, 0⟩

instance : Inhabited EntityId := ⟨zero⟩

def ofNum (num : UInt64) : EntityId := ⟨0, 0, num⟩

def isZero (id : EntityId) : Bool := id == zero

def toAddress (id : EntityId) : Address := id.shard.toBitVec ++ id.realm.toBitVec ++ id.num.toBitVec

def ofAddress (address : Address) : EntityId :=
  ⟨⟨address.extractLsb' 128 32⟩, ⟨address.extractLsb' 64 64⟩, ⟨address.extractLsb' 0 64⟩⟩

def text (id : EntityId) : String := s!"{id.shard.toNat}.{id.realm.toNat}.{id.num.toNat}"

instance : Ord EntityId :=
  ⟨compareLex (compareOn shard) (compareLex (compareOn realm) (compareOn num))⟩

instance : Std.TransOrd EntityId :=
  inferInstanceAs (Std.TransCmp (compareLex (compareOn shard) (compareLex (compareOn realm) (compareOn num))))

instance : Std.LawfulEqOrd EntityId where
  compare_self := Std.ReflOrd.compare_self
  eq_of_compare {left right} equal := by
    obtain ⟨shards, rest⟩ := Ordering.then_eq_eq.mp equal
    obtain ⟨realms, nums⟩ := Ordering.then_eq_eq.mp rest
    cases left
    cases right
    cases Std.LawfulEqOrd.eq_of_compare shards
    cases Std.LawfulEqOrd.eq_of_compare realms
    cases Std.LawfulEqOrd.eq_of_compare nums
    rfl

end EntityId

structure NftId where
  token : TokenId
  serial : Int64
  deriving DecidableEq, Repr

namespace NftId

instance : Inhabited NftId := ⟨.zero, 0⟩

def text (id : NftId) : String := s!"{id.token.text}#{id.serial.toInt}"

instance : Ord NftId := ⟨compareLex (compareOn token) (compareOn serial)⟩

instance : Std.TransOrd NftId := inferInstanceAs (Std.TransCmp (compareLex (compareOn token) (compareOn serial)))

instance : Std.LawfulEqOrd NftId where
  compare_self := Std.ReflOrd.compare_self
  eq_of_compare {left right} equal := by
    obtain ⟨tokens, serials⟩ := Ordering.then_eq_eq.mp equal
    cases left
    cases right
    cases Std.LawfulEqOrd.eq_of_compare tokens
    cases Std.LawfulEqOrd.eq_of_compare serials
    rfl

end NftId

structure Holding where
  account : AccountId
  token : TokenId
  deriving DecidableEq, Repr

namespace Holding

instance : Ord Holding := ⟨compareLex (compareOn account) (compareOn token)⟩

instance : Std.TransOrd Holding := inferInstanceAs (Std.TransCmp (compareLex (compareOn account) (compareOn token)))

instance : Std.LawfulEqOrd Holding where
  compare_self := Std.ReflOrd.compare_self
  eq_of_compare {left right} equal := by
    obtain ⟨accounts, tokens⟩ := Ordering.then_eq_eq.mp equal
    cases left
    cases right
    cases Std.LawfulEqOrd.eq_of_compare accounts
    cases Std.LawfulEqOrd.eq_of_compare tokens
    rfl

end Holding

structure Delegate where
  token : TokenId
  account : AccountId
  deriving DecidableEq, Repr

namespace Delegate

instance : Ord Delegate := ⟨compareLex (compareOn token) (compareOn account)⟩

instance : Std.TransOrd Delegate := inferInstanceAs (Std.TransCmp (compareLex (compareOn token) (compareOn account)))

instance : Std.LawfulEqOrd Delegate where
  compare_self := Std.ReflOrd.compare_self
  eq_of_compare {left right} equal := by
    obtain ⟨tokens, accounts⟩ := Ordering.then_eq_eq.mp equal
    cases left
    cases right
    cases Std.LawfulEqOrd.eq_of_compare tokens
    cases Std.LawfulEqOrd.eq_of_compare accounts
    rfl

end Delegate

structure Timestamp where
  seconds : Int64
  nanos : Int32
  deriving DecidableEq, Repr

end TokenService
