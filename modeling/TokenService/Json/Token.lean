import TokenService.Bytes

/-!
The tokens of a JSON text. Marks and strings end by themselves; a scalar, which is a number or a word, is a longest
run of characters that belong to neither, and has to be a number or one of the three words. A string holds no bare
control character, no escape but the standard ones, and no half of a surrogate pair without the other.
-/

set_option autoImplicit false

namespace TokenService.Json

inductive Token where
  | openArray
  | closeArray
  | openObject
  | closeObject
  | comma
  | colon
  | null
  | bool (value : Bool)
  | whole (value : Int)
  | fractional (text : String)
  | string (text : String)
  deriving DecidableEq, Repr

def isBlank (char : Char) : Bool := char == ' ' || char == '\n' || char == '\t' || char == '\r'

def mark? : Char → Option Token
  | '[' => some .openArray
  | ']' => some .closeArray
  | '{' => some .openObject
  | '}' => some .closeObject
  | ',' => some .comma
  | ':' => some .colon
  | _ => none

namespace Scalar

def value (digits : List Char) : Nat := digits.foldl (fun number digit => number * 10 + (digit.toNat - 48)) 0

def isInteger : List Char → Bool
  | [] => false
  | ['0'] => true
  | '0' :: _ => false
  | digits => digits.all Char.isDigit

def isDigits (chars : List Char) : Bool := !chars.isEmpty && chars.all Char.isDigit

def isExponent : List Char → Bool
  | '+' :: digits => isDigits digits
  | '-' :: digits => isDigits digits
  | digits => isDigits digits

def isExponentMark (char : Char) : Bool := char == 'e' || char == 'E'

def isRest (rest : List Char) : Bool :=
  match rest with
  | '.' :: tail =>
      let (fraction, exponent) := tail.span fun char => !isExponentMark char
      isDigits fraction && (exponent.isEmpty || isExponent (exponent.drop 1))
  | mark :: exponent => isExponentMark mark && isExponent exponent
  | [] => false

-- A minus sign in front of zero is no whole number.
def number? (negative : Bool) (chars : List Char) : Option Token :=
  let (digits, rest) := chars.span Char.isDigit
  let text := String.ofList (if negative then '-' :: chars else chars)
  if !isInteger digits then none
  else if rest.isEmpty then
    if negative then
      if value digits = 0 then some (.fractional text) else some (.whole (-(value digits : Int)))
    else some (.whole (value digits))
  else if isRest rest then some (.fractional text)
  else none

def token? (chars : List Char) : Option Token :=
  if chars = ['n', 'u', 'l', 'l'] then some .null
  else if chars = ['t', 'r', 'u', 'e'] then some (.bool true)
  else if chars = ['f', 'a', 'l', 's', 'e'] then some (.bool false)
  else match chars with
    | '-' :: digits => number? true digits
    | digits => number? false digits

end Scalar

-- Where in a token the reading stands. Characters read are in reverse.
inductive Place where
  | between
  | scalar (chars : List Char)
  | string (chars : List Char)
  | escape (chars : List Char)
  | code (chars : List Char) (high : Option Nat) (digits : List Char)
  | afterHigh (chars : List Char) (high : Nat)
  | lowEscape (chars : List Char) (high : Nat)

structure Reading where
  done : List Token
  place : Place

def simpleEscape? : Char → Option Char
  | '"' => some '"'
  | '\\' => some '\\'
  | '/' => some '/'
  | 'b' => some (Char.ofNat 8)
  | 'f' => some (Char.ofNat 12)
  | 'n' => some '\n'
  | 'r' => some '\r'
  | 't' => some '\t'
  | _ => none

def hexCode? (digits : List Char) : Option Nat :=
  digits.foldlM (fun number digit => (Bytes.hexValue? digit).map fun value => number * 16 + value) 0

def endCode (done : List Token) (chars : List Char) (high : Option Nat) (code : Nat) : Option Reading :=
  match high with
  | some high =>
      if 0xDC00 ≤ code ∧ code < 0xE000 then
        some ⟨done, .string (Char.ofNat (0x10000 + (high - 0xD800) * 0x400 + (code - 0xDC00)) :: chars)⟩
      else none
  | none =>
      if 0xD800 ≤ code ∧ code < 0xDC00 then some ⟨done, .afterHigh chars code⟩
      else if 0xDC00 ≤ code ∧ code < 0xE000 then none
      else some ⟨done, .string (Char.ofNat code :: chars)⟩

def beginToken (done : List Token) (char : Char) : Reading :=
  if isBlank char then ⟨done, .between⟩
  else if char = '"' then ⟨done, .string []⟩
  else match mark? char with
    | some token => ⟨token :: done, .between⟩
    | none => ⟨done, .scalar [char]⟩

def step (reading : Reading) (char : Char) : Option Reading :=
  match reading.place with
  | .between => some (beginToken reading.done char)
  | .scalar chars =>
      if isBlank char || char == '"' || (mark? char).isSome then
        (Scalar.token? chars.reverse).map fun token => beginToken (token :: reading.done) char
      else some ⟨reading.done, .scalar (char :: chars)⟩
  | .string chars =>
      if char = '"' then some ⟨.string (String.ofList chars.reverse) :: reading.done, .between⟩
      else if char = '\\' then some ⟨reading.done, .escape chars⟩
      else if char.toNat < 0x20 then none
      else some ⟨reading.done, .string (char :: chars)⟩
  | .escape chars =>
      if char = 'u' then some ⟨reading.done, .code chars none []⟩
      else (simpleEscape? char).map fun escaped => ⟨reading.done, .string (escaped :: chars)⟩
  | .code chars high digits =>
      if digits.length < 3 then some ⟨reading.done, .code chars high (digits ++ [char])⟩
      else (hexCode? (digits ++ [char])).bind (endCode reading.done chars high)
  | .afterHigh chars high => if char = '\\' then some ⟨reading.done, .lowEscape chars high⟩ else none
  | .lowEscape chars high => if char = 'u' then some ⟨reading.done, .code chars (some high) []⟩ else none

def tokens? (text : String) : Option (List Token) := do
  let reading ← text.toList.foldlM step ⟨[], .between⟩
  match reading.place with
  | .between => some reading.done.reverse
  | .scalar chars => (Scalar.token? chars.reverse).map fun token => (token :: reading.done).reverse
  | _ => none

end TokenService.Json
