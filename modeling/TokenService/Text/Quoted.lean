import TokenService.Text.Hidden

/-!
Quoted text: between double quotes, with an escape for quotes, backslashes and whatever would not be seen.
-/

set_option autoImplicit false

namespace TokenService.Text

def hexDigits (number : Nat) : List Char := Nat.toDigits 16 number

def quoteChar (char : Char) : List Char :=
  if char = '"' then ['\\', '"']
  else if char = '\\' then ['\\', '\\']
  else if char = '\t' then ['\\', 't']
  else if char = '\n' then ['\\', 'n']
  else if char = '\r' then ['\\', 'r']
  else if char.toNat = 0 then ['\\', '0']
  else if char.toNat < 0x20 ∨ char.toNat = 0x7F ∨ isHidden char then
    ['\\', 'u', '\x7b'] ++ hexDigits char.toNat ++ ['\x7d']
  else [char]

def quote (text : String) : String := String.ofList ('"' :: text.toList.flatMap quoteChar ++ ['"'])

end TokenService.Text
