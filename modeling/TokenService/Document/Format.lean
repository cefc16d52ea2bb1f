import TokenService.Bounded
import TokenService.Json.Value

/-!
Formats: how the values of a type are written as documents and read back. What is absent or null reads as zero, as
empty, or as the first of its kind. A record is an object with the fields of its parts, and one case of several is an
object whose only field is named for the case, or that name alone where the case holds nothing.
-/

set_option autoImplicit false

namespace TokenService

structure Format (α : Type) where
  write : α → Json
  read : Json → Option α

structure Fields (record α : Type) where
  write : record → List (String × Json)
  read : Json → Option α

structure Case (α : Type) where
  name : String
  write : α → Option Json
  read : Json → Option α

namespace Format

variable {α β : Type}

def refine (format : Format α) (read : α → Option β) (write : β → α) : Format β :=
  ⟨fun value => format.write (write value), fun json => (format.read json).bind read⟩

def whole : Format Int where
  write := .whole
  read
    | .whole number => some number
    | .null => some 0
    | _ => none

def nat : Format Nat := whole.refine (fun number => if 0 ≤ number then some number.toNat else none) Int.ofNat

def int64 : Format Int64 := whole.refine int64? Int64.toInt

def uint64 : Format UInt64 := nat.refine uint64? UInt64.toNat

def int32 : Format Int32 := whole.refine int32? Int32.toInt

def uint32 : Format UInt32 :=
  nat.refine (fun number => if number < UInt32.size then some (UInt32.ofNat number) else none) UInt32.toNat

def text : Format String where
  write := .string
  read
    | .string text => some text
    | .null => some ""
    | _ => none

def flag : Format Bool where
  write := .bool
  read
    | .bool value => some value
    | .null => some false
    | _ => none

def written (write : α → String) (read : String → Option α) (absent : α) : Format α where
  write value := .string (write value)
  read
    | .string text => read text
    | .null => some absent
    | _ => none

def optional (format : Format α) : Format (Option α) where
  write
    | some value => format.write value
    | none => .null
  read
    | .null => some none
    | json => (format.read json).map some

def list (format : Format α) : Format (List α) where
  write values := .array (values.map format.write)
  read
    | .array items => items.mapM format.read
    | .null => some []
    | _ => none

-- Values that have names of their own; the first may be left out.
def named [BEq α] (names : List (String × α)) : Format α where
  write value := ((names.find? fun entry => entry.2 == value).map fun entry => .string entry.1).getD .null
  read
    | .string name => (names.find? fun entry => entry.1 == name).map Prod.snd
    | .null => names.head?.map Prod.snd
    | _ => none

def unit : Format Unit := ⟨fun _ => .null, fun _ => some ()⟩

-- A value of one of the cases, under the name of its case.
def oneOf (cases : List (Case α)) : Format α where
  write value :=
    (cases.findSome? fun part => (part.write value).map fun held =>
      match held with
      | .null => .string part.name
      | held => .object [(part.name, held)]).getD .null
  read
    | .string name => (cases.find? fun part => part.name == name).bind fun part => part.read .null
    | .object [(name, held)] => (cases.find? fun part => part.name == name).bind fun part => part.read held
    | _ => none

end Format

def Format.case {α β : Type} (format : Format β) (name : String) (wrap : β → α) (unwrap? : α → Option β) : Case α :=
  ⟨name, fun value => (unwrap? value).map format.write, fun json => (format.read json).map wrap⟩

def Format.field {record α : Type} (format : Format α) (name : String) (part : record → α) : Fields record α :=
  ⟨fun whole => [(name, format.write (part whole))], fun json => format.read (json.field name)⟩

namespace Fields

variable {record : Type}

instance : Applicative (Fields record) where
  pure value := ⟨fun _ => [], fun _ => some value⟩
  seq build rest :=
    ⟨fun whole => build.write whole ++ (rest ()).write whole, fun json => do
      let build ← build.read json
      let part ← (rest ()).read json
      pure (build part)⟩

def within {outer α : Type} (fields : Fields record α) (part : outer → record) : Fields outer α :=
  ⟨fun whole => fields.write (part whole), fields.read⟩

def format (fields : Fields record record) : Format record where
  write value := .object (fields.write value)
  read
    | .object entries => fields.read (.object entries)
    | .null => fields.read .null
    | _ => none

end Fields

end TokenService
