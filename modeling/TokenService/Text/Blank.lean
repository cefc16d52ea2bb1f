/-!
White space of Unicode, and text without it at either end.
-/

set_option autoImplicit false

namespace TokenService.Text

def isBlank (char : Char) : Bool :=
  let code := char.toNat
  9 ≤ code && code ≤ 13 || code == 0x20 || code == 0x85 || code == 0xA0 || code == 0x1680 ||
    0x2000 ≤ code && code ≤ 0x200A || code == 0x2028 || code == 0x2029 || code == 0x202F || code == 0x205F ||
    code == 0x3000

def trimStart (chars : List Char) : List Char := chars.dropWhile isBlank

def trim (text : String) : String := String.ofList (trimStart (trimStart text.toList).reverse).reverse

end TokenService.Text
