import TokenService.Abi.Type
import TokenService.Text.Utf8

/-!
Reading values from call bytes by the head and tail rules of the contract ABI, without the test that the bytes are those
that encoding would give. A word is 32 bytes and a narrow value the low bits of it, a truth value any word but zero. The
offset of a dynamic value counts from the first head of the tuple or array that it is in, and its region reaches to the
end of the bytes. Offsets may overlap, point backwards or leave gaps, and bytes that no value needs, padding among them,
are not looked at. Text that is no UTF-8 is read with replacement characters. An offset or a length from 2^64 on fails
with its word and all else with an overrun, the first failure in the order of reading.
-/

set_option autoImplicit false

namespace TokenService.Abi

inductive Fault where
  | overrun
  | wideOffset (word : Word)
  deriving DecidableEq, Repr

namespace Fault

def message : Fault → String
  | .overrun => "ABI decoding failed: buffer overrun while deserializing"
  | .wideOffset word =>
      "type check failed for \"offset (usize)\" with data: " ++ Bytes.hex word.toBytes

end Fault

abbrev Reader (α : Type) := StateT Bytes (Except Fault) α

namespace Reader

def take (size : Nat) : Reader Bytes := fun bytes =>
  if size ≤ bytes.length then .ok (bytes.take size, bytes.drop size) else .error .overrun

def word : Reader Word := do
  let bytes ← take 32
  pure (Word.ofBytes bytes)

-- An offset or a length: a word below 2^64.
def offset : Reader Nat := do
  let word ← word
  if word.toNat < UInt64.size then pure word.toNat else throw (.wideOffset word)

def enter (region : Bytes) : Reader Bytes := do
  let start ← offset
  if start ≤ region.length then pure (region.drop start) else throw .overrun

def times {α : Type} (read : Reader α) : Nat → Reader (List α)
  | 0 => pure []
  | count + 1 => do
      let first ← read
      let rest ← times read count
      pure (first :: rest)

-- Read other bytes, and go on behind them where this reading stood.
def within {α : Type} (bytes : Bytes) (read : Reader α) : Reader α := fun here =>
  match read bytes with
  | .ok (value, _) => .ok (value, here)
  | .error fault => .error fault

end Reader

def readBytes : Reader Bytes := do
  let size ← Reader.offset
  Reader.take size

-- A length and as many elements; all of their words must be there before the first is read.
def readArray {α : Type} (width : Nat) (element : Bytes → Reader α) : Reader (List α) := do
  let count ← Reader.offset
  let region ← get
  if count * (width * 32) ≤ region.length then Reader.times (element region) count else throw .overrun

mutual

def Ty.read : (ty : Ty) → (region : Bytes) → Reader ty.Val
  | .atom kind, _ => do
      let word ← Reader.word
      pure (kind.ofWord word)
  | .bytes, region => do
      let child ← Reader.enter region
      Reader.within child readBytes
  | .string, region => do
      let child ← Reader.enter region
      let bytes ← Reader.within child readBytes
      pure (Utf8.decode bytes)
  | .array element, region => do
      let child ← Reader.enter region
      Reader.within child (readArray element.headWords element.read)
  | .tuple fields, region =>
      if Ty.anyDynamic fields then do
        let child ← Reader.enter region
        Reader.within child (Ty.readAll fields child)
      else Ty.readAll fields region

def Ty.readAll : (fields : List Ty) → (region : Bytes) → Reader (Ty.Vals fields)
  | [], _ => pure ()
  | field :: rest, region => do
      let first ← field.read region
      let others ← Ty.readAll rest region
      pure (first, others)

end

def decode (types : List Ty) (bytes : Bytes) : Except Fault (Ty.Vals types) :=
  (Ty.readAll types bytes).run' bytes

end TokenService.Abi
