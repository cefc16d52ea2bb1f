import TokenService.Json.Token
import TokenService.Json.Value

/-!
One value from a text, by the standard grammar of JSON and no more than it: no comma behind the last item, no comment,
and nothing but blanks around the value. Fields stay in the order in which they are written, also those of one name, of
which a look-up takes the last. A whole number is read exactly, whatever its size, so that its reader can ask for a
range; any other number is kept as its text. What is open is kept as a stack, innermost first.
-/

set_option autoImplicit false

namespace TokenService.Json

inductive Frame where
  | array (items : List Json)
  | object (fields : List (String × Json)) (name : String)

inductive Expected where
  | value
  | valueOrClose
  | nameOrClose (fields : List (String × Json))
  | name (fields : List (String × Json))
  | colon (fields : List (String × Json)) (name : String)
  | commaOrClose
  | nothing (result : Json)

structure Progress where
  stack : List Frame
  expected : Expected

def place (value : Json) : List Frame → Progress
  | [] => ⟨[], .nothing value⟩
  | .array items :: rest => ⟨.array (value :: items) :: rest, .commaOrClose⟩
  | .object fields name :: rest => ⟨.object ((name, value) :: fields) name :: rest, .commaOrClose⟩

def beginValue (stack : List Frame) : Token → Option Progress
  | .openArray => some ⟨.array [] :: stack, .valueOrClose⟩
  | .openObject => some ⟨stack, .nameOrClose []⟩
  | .null => some (place .null stack)
  | .bool value => some (place (.bool value) stack)
  | .whole value => some (place (.whole value) stack)
  | .fractional text => some (place (.fractional text) stack)
  | .string text => some (place (.string text) stack)
  | _ => none

def advance (progress : Progress) (token : Token) : Option Progress :=
  match progress.expected, token with
  | .value, token => beginValue progress.stack token
  | .valueOrClose, .closeArray => some (place (.array []) (progress.stack.drop 1))
  | .valueOrClose, token => beginValue progress.stack token
  | .nameOrClose _, .closeObject => some (place (.object []) progress.stack)
  | .nameOrClose fields, .string name => some ⟨progress.stack, .colon fields name⟩
  | .name fields, .string name => some ⟨progress.stack, .colon fields name⟩
  | .colon fields name, .colon => some ⟨.object fields name :: progress.stack, .value⟩
  | .commaOrClose, .comma =>
      match progress.stack with
      | .array items :: rest => some ⟨.array items :: rest, .value⟩
      | .object fields _ :: rest => some ⟨rest, .name fields⟩
      | [] => none
  | .commaOrClose, .closeArray =>
      match progress.stack with
      | .array items :: rest => some (place (.array items.reverse) rest)
      | _ => none
  | .commaOrClose, .closeObject =>
      match progress.stack with
      | .object fields _ :: rest => some (place (.object fields.reverse) rest)
      | _ => none
  | _, _ => none

-- The value that a text writes; nothing else may follow it.
def ofText? (text : String) : Option Json := do
  let tokens ← tokens? text
  let progress ← tokens.foldlM advance ⟨[], .value⟩
  match progress.expected with
  | .nothing value => some value
  | _ => none

end TokenService.Json
