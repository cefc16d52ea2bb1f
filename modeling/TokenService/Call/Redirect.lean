import TokenService.Abi.Encode
import TokenService.Call.Fault

/-!
Redirects: a facade call in an envelope that names its token. The packed envelope is the selector, the twenty bytes
of the token, and the call. The explicit one is an ordinary call with a token and a byte string as arguments, and
counts only when its bytes are the standard encoding of those arguments. A packed envelope whose bytes happen to be
that as well is taken for the explicit one.
-/

set_option autoImplicit false

namespace TokenService

open Abi

structure Redirect where
  token : Address
  nested : Bytes
  explicit : Bool
  deriving DecidableEq, Repr

namespace Redirect

abbrev params : List Ty := [.address, .bytes]

def wrap (token : Address) (nested : Bytes) : Bytes :=
  Selector.redirect.toBytes ++ encode params (token, nested, ())

def pack (token : Address) (nested : Bytes) : Bytes := Selector.redirect.toBytes ++ token.toBytes ++ nested

def explicit? (input : Bytes) : Option Redirect :=
  match decode params (input.drop 4) with
  | .ok (token, nested, ()) =>
      if wrap token nested = input ∧ 4 ≤ List.length nested then some ⟨token, nested, true⟩ else none
  | .error _ => none

def unwrap (input : Bytes) : Except DecodeFault (Option Redirect) :=
  if Selector.ofInput? input ≠ some .redirect then .ok none
  else match explicit? input with
    | some redirect => .ok (some redirect)
    | none =>
        if input.length < 28 then .error (.shortRedirect input.length)
        else .ok (some ⟨.ofBytes ((input.drop 4).take 20), input.drop 24, false⟩)

end Redirect

end TokenService
