import TokenService.Proofs.Call.Kinds
import TokenService.Proofs.Call.Reading

set_option autoImplicit false

namespace TokenService

open Abi

inductive Route (setting : CallSetting) (input : Bytes) : ResolvedCall → Prop
  | service (selector : Selector) (function : ServiceFunction) (values : Ty.Vals function.params)
      (operation : Operation)
      (bare : Redirect.unwrap input = .ok none)
      (named : Selector.ofInput? input = some selector)
      (known : ServiceFunction.ofSelector? selector = some function)
      (enabled : setting.gate function.family? = .ok ())
      (read : decode function.params (input.drop 4) = .ok values)
      (given : function.operation setting values = .ok operation) :
      Route setting input ⟨selector, operation, .direct⟩
  | facade (redirect : Redirect) (selector : Selector) (function : FacadeFunction) (values : Ty.Vals function.params)
      (operation : Operation)
      (wrapped : Redirect.unwrap input = .ok (some redirect))
      (named : Selector.ofInput? redirect.nested = some selector)
      (known : FacadeFunction.ofSelector? selector = some function)
      (enabled : setting.gate function.family? = .ok ())
      (fits : function.mismatch? (setting.tokenType? (setting.entity redirect.token)) = none)
      (read : decode function.params (redirect.nested.drop 4) = .ok values)
      (given : function.operation setting (setting.entity redirect.token)
        (setting.tokenType? (setting.entity redirect.token)) values = .ok operation) :
      Route setting input ⟨selector, operation, .redirect (setting.entity redirect.token) redirect.explicit⟩

theorem map_error_ok_iff {ε δ α : Type} (convert : ε → δ) (result : Except ε α) (value : α) :
    result.mapError convert = .ok value ↔ result = .ok value := by
  cases result with
  | ok found => exact ⟨fun same => congrArg Except.ok (Except.ok.inj same), fun same => by cases same; rfl⟩
  | error fault => exact ⟨(nomatch ·), (nomatch ·)⟩

theorem read_arguments_ok (types : List Ty) (call : Bytes) (values : Ty.Vals types)
    (read : readArguments types call = .ok values) : decode types (call.drop 4) = .ok values :=
  (map_error_ok_iff _ _ _).mp read

theorem dispatch_routes (setting : CallSetting) (input : Bytes) (call : ResolvedCall)
    (dispatched : dispatch setting input = .ok (some call)) : Route setting input call := by
  obtain ⟨envelope, unwrapped, inner⟩ := (except_bind_ok _ _ _).mp dispatched
  have unwrapped := (map_error_ok_iff _ _ _).mp unwrapped
  cases envelope with
  | some redirect =>
      simp only at inner
      split at inner
      · cases inner
      · rename_i selector named
        split at inner
        · cases inner
        · rename_i function known
          obtain ⟨operation, facade, same⟩ := (except_bind_ok _ _ _).mp inner
          cases same
          obtain ⟨_, enabled, facade⟩ := (except_bind_ok _ _ _).mp facade
          split at facade
          · cases facade
          · rename_i fits
            obtain ⟨values, read, given⟩ := (except_bind_ok _ _ _).mp facade
            exact .facade redirect selector function values operation unwrapped named known enabled fits
              (read_arguments_ok _ _ _ read) given
  | none =>
      simp only at inner
      split at inner
      · cases inner
      · rename_i selector named
        split at inner
        · cases inner
        · rename_i function known
          obtain ⟨operation, service, same⟩ := (except_bind_ok _ _ _).mp inner
          cases same
          obtain ⟨_, enabled, service⟩ := (except_bind_ok _ _ _).mp service
          obtain ⟨values, read, given⟩ := (except_bind_ok _ _ _).mp service
          exact .service selector function values operation unwrapped named known enabled
            (read_arguments_ok _ _ _ read) ((map_error_ok_iff _ _ _).mp given)

section Kinds

theorem unwrap_some_wrapped (input : Bytes) (redirect : Redirect)
    (unwrapped : Redirect.unwrap input = .ok (some redirect)) : Selector.ofInput? input = some .redirect := by
  unfold Redirect.unwrap at unwrapped
  split at unwrapped
  · cases unwrapped
  · rename_i wrapped
    exact Decidable.not_not.mp wrapped

theorem dispatched_kind (setting : CallSetting) (input : Bytes) (call : ResolvedCall)
    (dispatched : dispatch setting input = .ok (some call)) :
    isViewInput input = (call.operation.kind == .query) ∧
      (Selector.ofInput? input).any Selector.isPayable = (call.operation.kind == .create) := by
  cases dispatch_routes setting input call dispatched with
  | service selector function values operation bare named known enabled read given =>
      have kind := function.operation_kind setting values operation given
      simp only [isViewInput, bare, named, Option.any_some, Selector.isServiceView, Selector.isPayable, known]
      exact ⟨kind ▸ function.view_kind, kind ▸ function.payable_kind⟩
  | facade redirect selector function values operation wrapped named known enabled fits read given =>
      have kind := function.operation_kind setting _ _ values operation given
      have closed : Selector.isPayable .redirect = false := by decide
      have other : (operation.kind == .create) = false := by
        rw [kind]
        exact beq_eq_false_iff_ne.mpr function.kind_not_create
      simp only [isViewInput, wrapped, named, Option.any_some, Selector.isFacadeView, known,
        unwrap_some_wrapped input redirect wrapped, closed, other, and_true]
      exact kind ▸ function.view_kind

end Kinds

section Mints

theorem mint_arguments_fit (amount : Ty) (bytes : Bytes) (values : Ty.Vals [.address, amount, .array .bytes])
    (decoded : decode [.address, amount, .array .bytes] bytes = .ok values) :
    List.length values.2.2.1 * 32 ≤ bytes.length := by
  obtain ⟨_, run⟩ := decode_ok _ _ _ decoded
  obtain ⟨_, _, run⟩ := (read_all_cons _ _ _ _ _ _).mp run
  obtain ⟨_, _, run⟩ := (read_all_cons _ _ _ _ _ _).mp run
  obtain ⟨_, metadata, _⟩ := (read_all_cons _ _ _ _ _ _).mp run
  exact read_array_fits .bytes _ _ _ _ metadata

theorem service_mint_fits (setting : CallSetting) (function : ServiceFunction) (bytes : Bytes)
    (values : Ty.Vals function.params) (decoded : decode function.params bytes = .ok values) (order : Mint)
    (generation : Generation) (given : function.operation setting values = .ok (.mint order generation)) :
    order.metadata.length * 32 ≤ bytes.length := by
  have mints : .mint = function.kind := function.operation_kind setting values _ given
  cases function with
  | mintToken signedness =>
      cases signedness with
      | unsigned =>
          have fits := mint_arguments_fit .uint64 bytes values decoded
          obtain ⟨token, amount, metadata, ⟨⟩⟩ := values
          obtain ⟨_, _, same⟩ := (except_bind_ok _ _ _).mp given
          cases same
          exact fits
      | signed =>
          have fits := mint_arguments_fit .int64 bytes values decoded
          obtain ⟨token, amount, metadata, ⟨⟩⟩ := values
          cases given
          exact fits
  | _ => cases mints

theorem facade_mints_nothing (setting : CallSetting) (token : TokenId) (type : Option TokenType)
    (function : FacadeFunction) (values : Ty.Vals function.params) (order : Mint) (generation : Generation) :
    function.operation setting token type values ≠ .ok (.mint order generation) := by
  intro given
  have mints : .mint = function.kind := function.operation_kind setting token type values _ given
  cases function <;> cases mints

theorem route_mint_fits (setting : CallSetting) (input : Bytes) (call : ResolvedCall) (order : Mint)
    (generation : Generation) (route : Route setting input call) (mints : call.operation = .mint order generation) :
    order.metadata.length * 32 ≤ input.length := by
  cases route with
  | service selector function values operation bare named known enabled read given =>
      cases mints
      have fits := service_mint_fits setting function _ values read order generation given
      exact Nat.le_trans fits (List.length_drop ▸ Nat.sub_le _ _)
  | facade redirect selector function values operation wrapped named known enabled fits read given =>
      cases mints
      exact absurd given (facade_mints_nothing _ _ _ _ values order generation)

end Mints

end TokenService
