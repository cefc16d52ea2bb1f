import TokenService.Abi.Type
import TokenService.Text.Utf8

/-!
Writing values as result bytes by the strict encoding of the contract ABI. The heads of a tuple stand together and the
tails behind them in the same order, without gaps. A static value is its own head; the head of a dynamic one is the
offset of its tail from the first head. Numbers fill words of 32 bytes, negative ones in two's complement, and byte
strings follow their length and are filled up with zeros to whole words.
-/

set_option autoImplicit false

namespace TokenService.Abi

inductive Part where
  | inPlace (bytes : Bytes)
  | behind (bytes : Bytes)

namespace Part

def place (dynamic : Bool) (bytes : Bytes) : Part := if dynamic then .behind bytes else .inPlace bytes

def headSize : Part → Nat
  | .inPlace bytes => bytes.length
  | .behind _ => 32

def tail : Part → Bytes
  | .inPlace _ => []
  | .behind bytes => bytes

end Part

def writeNat (number : Nat) : Bytes := Bytes.ofNat 32 number

def headsSize : List Part → Nat
  | [] => 0
  | part :: rest => part.headSize + headsSize rest

-- What stands in place, when `size` bytes have been written before the next tail.
def writeHeads (size : Nat) : List Part → Bytes
  | [] => []
  | .inPlace bytes :: rest => bytes ++ writeHeads size rest
  | .behind bytes :: rest => writeNat size ++ writeHeads (size + bytes.length) rest

def writeParts (parts : List Part) : Bytes := writeHeads (headsSize parts) parts ++ parts.flatMap Part.tail

def writeBytes (bytes : Bytes) : Bytes :=
  writeNat bytes.length ++ bytes ++ List.replicate ((32 - bytes.length % 32) % 32) 0

mutual

def Ty.write : (ty : Ty) → ty.Val → Bytes
  | .atom kind, value => (kind.toWord value).toBytes
  | .bytes, value => writeBytes value
  | .string, value => writeBytes (Utf8.encode value)
  | .array element, values =>
      let part := fun value => Part.place element.isDynamic (element.write value)
      writeNat (List.length values) ++ writeParts (List.map part values)
  | .tuple fields, values => writeParts (Ty.parts fields values)

def Ty.parts : (fields : List Ty) → Ty.Vals fields → List Part
  | [], _ => []
  | field :: rest, (value, values) => Part.place field.isDynamic (field.write value) :: Ty.parts rest values

end

def encode (types : List Ty) (values : Ty.Vals types) : Bytes := writeParts (Ty.parts types values)

end TokenService.Abi
