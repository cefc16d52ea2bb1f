import TokenService.Bytes

/-!
Text as UTF-8 bytes. Valid bytes are read as they are; in other bytes each longest piece that no character starts
with, or that breaks off inside a character, becomes one replacement character.
-/

set_option autoImplicit false

namespace TokenService.Utf8

def encode (text : String) : Bytes := text.toUTF8.data.toList

-- A character under way: the bits so far, the bytes to come, and the range of the next one.
structure Pending where
  bits : Nat
  missing : Nat
  low : UInt8
  high : UInt8

inductive Start where
  | whole (char : Char)
  | pending (pending : Pending)
  | bad

def start (byte : UInt8) : Start :=
  let bits := byte.toNat
  if byte < 0x80 then .whole (Char.ofNat bits)
  else if byte < 0xC2 then .bad
  else if byte < 0xE0 then .pending ⟨bits - 0xC0, 1, 0x80, 0xBF⟩
  else if byte = 0xE0 then .pending ⟨0, 2, 0xA0, 0xBF⟩
  else if byte = 0xED then .pending ⟨0xD, 2, 0x80, 0x9F⟩
  else if byte < 0xF0 then .pending ⟨bits - 0xE0, 2, 0x80, 0xBF⟩
  else if byte = 0xF0 then .pending ⟨0, 3, 0x90, 0xBF⟩
  else if byte < 0xF4 then .pending ⟨bits - 0xF0, 3, 0x80, 0xBF⟩
  else if byte = 0xF4 then .pending ⟨4, 3, 0x80, 0x8F⟩
  else .bad

def replacement : Char := Char.ofNat 0xFFFD

structure Reading where
  done : List Char
  pending : Option Pending

namespace Reading

def begin (done : List Char) (byte : UInt8) : Reading :=
  match start byte with
  | .whole char => ⟨char :: done, none⟩
  | .pending pending => ⟨done, some pending⟩
  | .bad => ⟨replacement :: done, none⟩

def step (reading : Reading) (byte : UInt8) : Reading :=
  match reading.pending with
  | none => begin reading.done byte
  | some pending =>
      if pending.low ≤ byte ∧ byte ≤ pending.high then
        let bits := pending.bits * 64 + (byte.toNat - 0x80)
        if pending.missing ≤ 1 then ⟨Char.ofNat bits :: reading.done, none⟩
        else ⟨reading.done, some ⟨bits, pending.missing - 1, 0x80, 0xBF⟩⟩
      else begin (replacement :: reading.done) byte

def finish (reading : Reading) : List Char :=
  match reading.pending with
  | none => reading.done.reverse
  | some _ => (replacement :: reading.done).reverse

end Reading

def repair (bytes : Bytes) : List Char := (bytes.foldl Reading.step ⟨[], none⟩).finish

def decode (bytes : Bytes) : String :=
  match String.fromUTF8? ⟨bytes.toArray⟩ with
  | some text => text
  | none => String.ofList (repair bytes)

end TokenService.Utf8
