import TokenService.Entity.Id

set_option autoImplicit false

namespace TokenService.Abi

abbrev Word := BitVec 256

namespace Word

def toBytes (word : Word) : Bytes := Bytes.ofNat 32 word.toNat

def ofBytes (bytes : Bytes) : Word := BitVec.ofNat 256 (Bytes.toNat bytes)

end Word

inductive Atom where
  | uint32
  | uint64
  | uint256
  | int32
  | int64
  | bool
  | address
  deriving DecidableEq, Repr

namespace Atom

abbrev Val : Atom → Type
  | .uint32 => UInt32
  | .uint64 => UInt64
  | .uint256 => Word
  | .int32 => Int32
  | .int64 => Int64
  | .bool => Bool
  | .address => Address

-- The low bits of the word; any word but zero is true.
def ofWord : (atom : Atom) → Word → atom.Val
  | .uint32, word => ⟨word.setWidth 32⟩
  | .uint64, word => ⟨word.setWidth 64⟩
  | .uint256, word => word
  | .int32, word => .ofBitVec (word.setWidth 32)
  | .int64, word => .ofBitVec (word.setWidth 64)
  | .bool, word => word != 0
  | .address, word => word.setWidth 160

def toWord : (atom : Atom) → atom.Val → Word
  | .uint32, value => value.toBitVec.setWidth 256
  | .uint64, value => value.toBitVec.setWidth 256
  | .uint256, value => value
  | .int32, value => value.toBitVec.signExtend 256
  | .int64, value => value.toBitVec.signExtend 256
  | .bool, value => if value then 1 else 0
  | .address, value => value.setWidth 256

theorem set_width_sign_extend (width : Nat) (fits : width ≤ 256) (value : BitVec width) :
    (value.signExtend 256).setWidth width = value := by
  ext i inside
  have below : i < 256 := by omega
  simp [BitVec.getElem_signExtend, inside, below]

theorem of_word_to_word (atom : Atom) (value : atom.Val) : atom.ofWord (atom.toWord value) = value := by
  cases atom with
  | uint32 => cases value; simp [ofWord, toWord]
  | uint64 => cases value; simp [ofWord, toWord]
  | uint256 => rfl
  | int32 =>
      obtain ⟨⟨value⟩⟩ := value
      exact congrArg Int32.ofBitVec (set_width_sign_extend 32 (by decide) value)
  | int64 =>
      obtain ⟨⟨value⟩⟩ := value
      exact congrArg Int64.ofBitVec (set_width_sign_extend 64 (by decide) value)
  | bool => cases value <;> rfl
  | address => simp [ofWord, toWord]

end Atom

inductive Ty where
  | atom (atom : Atom)
  | bytes
  | string
  | array (element : Ty)
  | tuple (fields : List Ty)
  deriving Repr

namespace Ty

abbrev uint32 : Ty := .atom .uint32
abbrev uint64 : Ty := .atom .uint64
abbrev uint256 : Ty := .atom .uint256
abbrev int32 : Ty := .atom .int32
abbrev int64 : Ty := .atom .int64
abbrev bool : Ty := .atom .bool
abbrev address : Ty := .atom .address

mutual

def Val : Ty → Type
  | .atom kind => kind.Val
  | .bytes => Bytes
  | .string => String
  | .array element => List element.Val
  | .tuple fields => Vals fields

def Vals : List Ty → Type
  | [] => Unit
  | field :: rest => field.Val × Vals rest

end

mutual

def isDynamic : Ty → Bool
  | .atom _ => false
  | .bytes => true
  | .string => true
  | .array _ => true
  | .tuple fields => anyDynamic fields

def anyDynamic : List Ty → Bool
  | [] => false
  | field :: rest => field.isDynamic || anyDynamic rest

end

mutual

def headWords : Ty → Nat
  | .atom _ => 1
  | .bytes => 1
  | .string => 1
  | .array _ => 1
  | .tuple fields => if anyDynamic fields then 1 else sumWords fields

def sumWords : List Ty → Nat
  | [] => 0
  | field :: rest => field.headWords + sumWords rest

end

end Ty

end TokenService.Abi
