set_option autoImplicit false

namespace TokenService

inductive Overflow where
  | add
  | subtract
  | negate
  deriving DecidableEq, Repr

namespace Overflow

def message : Overflow → String
  | .add => "attempt to add with overflow"
  | .subtract => "attempt to subtract with overflow"
  | .negate => "attempt to negate with overflow"

end Overflow

def int64? (n : Int) : Option Int64 :=
  if Int64.minValue.toInt ≤ n ∧ n ≤ Int64.maxValue.toInt then some (Int64.ofInt n) else none

def int32? (n : Int) : Option Int32 :=
  if Int32.minValue.toInt ≤ n ∧ n ≤ Int32.maxValue.toInt then some (Int32.ofInt n) else none

def uint64? (n : Nat) : Option UInt64 :=
  if n < UInt64.size then some (UInt64.ofNat n) else none

theorem int64_some_iff (n : Int) (value : Int64) : int64? n = some value ↔ value.toInt = n := by
  unfold int64?
  constructor
  · intro found
    split at found
    · rename_i range
      cases found
      exact Int64.toInt_ofInt_of_le range.1 (Int.lt_of_le_of_lt range.2 (by decide))
    · cases found
  · intro same
    subst same
    rw [if_pos ⟨Int64.minValue_le_toInt value, Int64.toInt_le value⟩, Int64.ofInt_toInt]

theorem int32_some_iff (n : Int) (value : Int32) : int32? n = some value ↔ value.toInt = n := by
  unfold int32?
  constructor
  · intro found
    split at found
    · rename_i range
      cases found
      exact Int32.toInt_ofInt_of_le range.1 (Int.lt_of_le_of_lt range.2 (by decide))
    · cases found
  · intro same
    subst same
    rw [if_pos ⟨Int32.minValue_le_toInt value, Int32.toInt_le value⟩, Int32.ofInt_toInt]

theorem uint64_some_iff (n : Nat) (value : UInt64) : uint64? n = some value ↔ value.toNat = n := by
  unfold uint64?
  constructor
  · intro found
    split at found
    · rename_i range
      cases found
      exact UInt64.toNat_ofNat_of_lt' range
    · cases found
  · intro same
    subst same
    rw [if_pos (UInt64.toNat_lt_size value), UInt64.ofNat_toNat]

def Overflow.guard {α : Type} (operation : Overflow) (exact : Option α) : Except Overflow α :=
  match exact with
  | some value => .ok value
  | none => .error operation

def addExact (a b : Int64) : Except Overflow Int64 := Overflow.add.guard (int64? (a.toInt + b.toInt))

def subExact (a b : Int64) : Except Overflow Int64 := Overflow.subtract.guard (int64? (a.toInt - b.toInt))

def negExact (a : Int64) : Except Overflow Int64 := Overflow.negate.guard (int64? (-a.toInt))

def addExact64 (a b : UInt64) : Except Overflow UInt64 := Overflow.add.guard (uint64? (a.toNat + b.toNat))

def saturate (n : Nat) : UInt64 := (uint64? n).getD (UInt64.ofNat (UInt64.size - 1))

def addSaturating (a b : UInt64) : UInt64 := saturate (a.toNat + b.toNat)

def mulSaturating (a : UInt64) (count : Nat) : UInt64 := saturate (a.toNat * count)

def clamp (n : Int) : Int64 :=
  if n < Int64.minValue.toInt then Int64.minValue
  else if Int64.maxValue.toInt < n then Int64.maxValue
  else Int64.ofInt n

-- A negative amount counts as nothing.
def unsigned (n : Int64) : UInt64 := UInt64.ofNat n.toInt.toNat

theorem saturate_to_nat (n : Nat) : (saturate n).toNat = min n (UInt64.size - 1) := by
  unfold saturate
  cases found : uint64? n with
  | some value =>
      have same := (uint64_some_iff n value).mp found
      have bound := UInt64.toNat_lt_size value
      simp only [Option.getD_some]
      omega
  | none =>
      have large : ¬ n < UInt64.size := by
        intro small
        simp [uint64?, small] at found
      have last : (UInt64.ofNat (UInt64.size - 1)).toNat = UInt64.size - 1 := by decide
      simp only [Option.getD_none, last]
      omega

end TokenService
