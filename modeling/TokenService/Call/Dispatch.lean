import TokenService.Call.Arguments
import TokenService.Call.Redirect

set_option autoImplicit false

namespace TokenService

open Abi

inductive Convention where
  | direct
  | redirect (token : TokenId) (explicit : Bool)
  deriving DecidableEq, Repr

namespace Convention

def isRedirect : Convention → Bool
  | .direct => false
  | .redirect _ _ => true

end Convention

-- The selector is the nested one for a redirect.
structure ResolvedCall where
  selector : Selector
  operation : Operation
  convention : Convention
  deriving DecidableEq, Repr

namespace CallSetting

def gate (setting : CallSetting) (family : Option Family) : Except DispatchFault Unit :=
  match family with
  | none => .ok ()
  | some family => if setting.config.enables family then .ok () else .error (.disabled family)

end CallSetting

def readArguments (types : List Ty) (call : Bytes) : Except DispatchFault (Ty.Vals types) :=
  (decode types (call.drop 4)).mapError fun fault => .decode (.abi fault)

def dispatchService (setting : CallSetting) (function : ServiceFunction) (input : Bytes) :
    Except DispatchFault Operation := do
  setting.gate function.family?
  let values ← readArguments function.params input
  (function.operation setting values).mapError .decode

def dispatchFacade (setting : CallSetting) (token : TokenId) (function : FacadeFunction) (nested : Bytes) :
    Except DispatchFault Operation := do
  let type := setting.tokenType? token
  setting.gate function.family?
  match function.mismatch? type with
  | some facade => throw (.unsupported facade)
  | none => pure ()
  let values ← readArguments function.params nested
  function.operation setting token type values

def dispatch (setting : CallSetting) (input : Bytes) : Except DispatchFault (Option ResolvedCall) := do
  match ← (Redirect.unwrap input).mapError .decode with
  | some redirect =>
      match Selector.ofInput? redirect.nested with
      | none => throw (.decode (.shortRedirect (redirect.nested.length + 24)))
      | some selector =>
          match FacadeFunction.ofSelector? selector with
          | none => pure none
          | some function =>
              let token := setting.entity redirect.token
              let operation ← dispatchFacade setting token function redirect.nested
              pure (some ⟨selector, operation, .redirect token redirect.explicit⟩)
  | none =>
      match Selector.ofInput? input with
      | none => pure none
      | some selector =>
          match ServiceFunction.ofSelector? selector with
          | none => pure none
          | some function =>
              let operation ← dispatchService setting function input
              pure (some ⟨selector, operation, .direct⟩)

def isViewInput (input : Bytes) : Bool :=
  match Redirect.unwrap input with
  | .ok (some redirect) => (Selector.ofInput? redirect.nested).any Selector.isFacadeView
  | _ => (Selector.ofInput? input).any Selector.isServiceView

end TokenService
