import TokenService.Bounded

set_option autoImplicit false

namespace TokenService

inductive Json where
  | null
  | bool (value : Bool)
  | whole (value : Int)
  | fractional (text : String)
  | string (text : String)
  | array (items : List Json)
  | object (fields : List (String × Json))
  deriving Repr

namespace Json

instance : Inhabited Json := ⟨.null⟩

-- Of several fields with one name the last counts.
def lookup (name : String) (fields : List (String × Json)) : Option Json :=
  (fields.reverse.find? fun field => field.1 == name).map Prod.snd

def field? (name : String) : Json → Option Json
  | .object fields => lookup name fields
  | _ => none

def field (name : String) (json : Json) : Json := (json.field? name).getD .null

def uint64 : Json → Option UInt64
  | .whole number => if 0 ≤ number then uint64? number.toNat else none
  | _ => none

end Json

end TokenService
