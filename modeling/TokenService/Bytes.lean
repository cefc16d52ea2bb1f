set_option autoImplicit false

namespace TokenService

abbrev Bytes := List UInt8

namespace Bytes

def toNat (bytes : Bytes) : Nat := bytes.foldl (fun number byte => number * 256 + byte.toNat) 0

def ofNat : Nat → Nat → Bytes
  | 0, _ => []
  | size + 1, number => ofNat size (number / 256) ++ [UInt8.ofNat (number % 256)]

def span : Nat → Nat
  | 0 => 1
  | size + 1 => 256 * span size

theorem length_of_nat (size number : Nat) : (ofNat size number).length = size := by
  induction size generalizing number with
  | zero => rfl
  | succ size ih => simp [ofNat, ih]

theorem to_nat_snoc (bytes : Bytes) (byte : UInt8) : toNat (bytes ++ [byte]) = toNat bytes * 256 + byte.toNat := by
  simp [toNat]

theorem to_nat_of_nat (size number : Nat) : toNat (ofNat size number) = number % span size := by
  induction size generalizing number with
  | zero => simp [ofNat, toNat, span, Nat.mod_one]
  | succ size ih =>
      have step : toNat (ofNat (size + 1) number) = number / 256 % span size * 256 + number % 256 := by
        simp [ofNat, to_nat_snoc, ih]
      rw [step, span, Nat.mod_mul, Nat.mul_comm, Nat.add_comm]

def hexDigit (digit : Nat) : Char := Char.ofNat (if digit < 10 then 48 + digit else 87 + digit)

def hex (bytes : Bytes) : String :=
  String.ofList (bytes.flatMap fun byte => [hexDigit (byte.toNat / 16), hexDigit (byte.toNat % 16)])

def hexValue? (digit : Char) : Option Nat :=
  if '0' ≤ digit ∧ digit ≤ '9' then some (digit.toNat - 48)
  else if 'a' ≤ digit ∧ digit ≤ 'f' then some (digit.toNat - 87)
  else if 'A' ≤ digit ∧ digit ≤ 'F' then some (digit.toNat - 55)
  else none

def ofHex? : List Char → Option Bytes
  | [] => some []
  | [_] => none
  | high :: low :: rest => do
      let upper ← hexValue? high
      let lower ← hexValue? low
      let bytes ← ofHex? rest
      pure (UInt8.ofNat (upper * 16 + lower) :: bytes)

end Bytes

end TokenService
