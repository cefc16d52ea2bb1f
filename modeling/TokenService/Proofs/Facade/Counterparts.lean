import TokenService.Proofs.Call.Written
import TokenService.Proofs.Facade.Requests

set_option autoImplicit false

namespace TokenService

open Abi

structure ServiceRequest where
  function : ServiceFunction
  values : Ty.Vals function.params

def ServiceRequest.bytes (request : ServiceRequest) : Bytes :=
  request.function.selector.toBytes ++ encode request.function.params request.values

def FacadeRequest.bytes (request : FacadeRequest) : Bytes :=
  request.function.selector.toBytes ++ encode request.function.params request.values

namespace FacadeFunction

-- The direct call for a token of a type. Only what an account does about itself names it by `own`.
def direct? (token own : Address) (type : Option TokenType) :
    (function : FacadeFunction) → Ty.Vals function.params → Option ServiceRequest
  | .allowance, (owner, spender, ()) => some ⟨.allowance, (token, owner, spender, ())⟩
  | .getApproved, (serial, ()) => some ⟨.getApproved, (token, serial, ())⟩
  | .isApprovedForAll, (owner, operator, ()) => some ⟨.isApprovedForAll, (token, owner, operator, ())⟩
  | .setApprovalForAll, (operator, approved, ()) => some ⟨.setApprovalForAll, (token, operator, approved, ())⟩
  | .approve, (spender, number, ()) =>
      type.map fun
        | .fungible => ⟨.approve, (token, spender, number, ())⟩
        | .nonFungible => ⟨.approveNft, (token, spender, number, ())⟩
  | .transferFrom, (source, receiver, number, ()) =>
      type.map fun
        | .fungible => ⟨.transferFrom, (token, source, receiver, number, ())⟩
        | .nonFungible => ⟨.transferFromNft, (token, source, receiver, number, ())⟩
  | .associate, () => type.map fun _ => ⟨.associateToken, (own, token, ())⟩
  | .dissociate, () => type.map fun _ => ⟨.dissociateToken, (own, token, ())⟩
  | _, _ => none

def aboutSender : FacadeFunction → Bool
  | .associate | .dissociate => true
  | _ => false

def asksType : FacadeFunction → Bool
  | .approve | .transferFrom | .associate | .dissociate => true
  | _ => false

theorem params_static (function : FacadeFunction) : Ty.anyDynamic function.params = false := by
  cases function <;> rfl

end FacadeFunction

inductive Alike : Except DispatchFault (Option ResolvedCall) → Except DispatchFault (Option ResolvedCall) → Prop
  | operation (left right : ResolvedCall) (same : left.operation = right.operation) :
      Alike (.ok (some left)) (.ok (some right))
  | unread (left right : DecodeFault) : Alike (.error (.decode left)) (.error (.decode right))

inductive SameMeaning : Except DispatchFault Operation → Except DecodeFault Operation → Prop
  | operation (operation : Operation) : SameMeaning (.ok operation) (.ok operation)
  | unread (left right : DecodeFault) : SameMeaning (.error (.decode left)) (.error right)

theorem alike_of_meaning (left : Except DispatchFault Operation) (right : Except DecodeFault Operation)
    (same : SameMeaning left right) (first second : Selector) (entry other : Convention) :
    Alike (left.map fun operation => some ⟨first, operation, entry⟩)
      ((right.mapError .decode).map fun operation => some ⟨second, operation, other⟩) := by
  cases same with
  | operation operation => exact .operation _ _ rfl
  | unread left right => exact .unread left right

section Dispatch

variable (setting : CallSetting)

theorem read_arguments_written (types : List Ty) (static : Ty.anyDynamic types = false) (values : Ty.Vals types)
    (selector : Selector) : readArguments types (selector.toBytes ++ encode types values) = .ok values := by
  rw [readArguments, Selector.drop_written, decode_encode types static values]
  rfl

theorem gate_open (enabled : ∀ family, setting.config.enables family = true) (family : Option Family) :
    setting.gate family = .ok () := by
  cases family with
  | none => rfl
  | some family => exact if_pos (enabled family)

theorem dispatch_written_facade (enabled : ∀ family, setting.config.enables family = true) (input : Bytes)
    (redirect : Redirect) (unwrapped : Redirect.unwrap input = .ok (some redirect)) (request : FacadeRequest)
    (written : redirect.nested = request.bytes) :
    dispatch setting input =
      match request.function.mismatch? (setting.tokenType? (setting.entity redirect.token)) with
      | some facade => .error (.unsupported facade)
      | none =>
          (request.function.operation setting (setting.entity redirect.token)
            (setting.tokenType? (setting.entity redirect.token)) request.values).map fun operation =>
              some ⟨request.function.selector, operation, .redirect (setting.entity redirect.token) redirect.explicit⟩
              := by
  have named : Selector.ofInput? redirect.nested = some request.function.selector := by
    rw [written, FacadeRequest.bytes, Selector.of_input_written]
  have read : readArguments request.function.params redirect.nested = .ok request.values := by
    rw [written]
    exact read_arguments_written _ request.function.params_static _ _
  simp only [dispatch, unwrapped, map_error_ok, bind, Except.bind, named, facade_of_selector, dispatchFacade,
    gate_open setting enabled]
  cases request.function.mismatch? (setting.tokenType? (setting.entity redirect.token)) with
  | some facade => rfl
  | none =>
      simp only [read, pure, Except.pure]
      cases request.function.operation setting (setting.entity redirect.token)
        (setting.tokenType? (setting.entity redirect.token)) request.values <;> rfl

theorem service_not_redirect (function : ServiceFunction) : function.selector ≠ .redirect := by
  intro same
  have known := service_of_selector function
  have unknown : ServiceFunction.ofSelector? .redirect = none := by decide
  rw [same, unknown] at known
  cases known

theorem dispatch_read_service (enabled : ∀ family, setting.config.enables family = true) (request : ServiceRequest)
    (read : decode request.function.params (encode request.function.params request.values) = .ok request.values) :
    dispatch setting request.bytes =
      ((request.function.operation setting request.values).mapError .decode).map fun operation =>
        some ⟨request.function.selector, operation, .direct⟩ := by
  have named : Selector.ofInput? request.bytes = some request.function.selector := Selector.of_input_written _ _
  have bare : Redirect.unwrap request.bytes = .ok none := by
    rw [Redirect.unwrap, named, if_pos]
    exact fun same => service_not_redirect request.function (Option.some.inj same)
  have arguments : readArguments request.function.params request.bytes = .ok request.values := by
    rw [readArguments, ServiceRequest.bytes, Selector.drop_written, read]
    rfl
  simp only [dispatch, bare, map_error_ok, bind, Except.bind, named, service_of_selector, dispatchService,
    gate_open setting enabled, arguments]
  cases request.function.operation setting request.values <;> rfl

theorem dispatched_service (function : ServiceFunction) (input : Bytes) (call : ResolvedCall)
    (chosen : Selector.ofInput? input = some function.selector)
    (dispatched : dispatch setting input = .ok (some call)) :
    ∃ values, decode function.params (input.drop 4) = .ok values ∧
      function.operation setting values = .ok call.operation ∧ call.convention = .direct := by
  cases dispatch_routes setting input call dispatched with
  | service selector other values operation bare named known enabled read given =>
      cases chosen.symm.trans named
      cases (service_of_selector function).symm.trans known
      exact ⟨values, read, given, rfl⟩
  | facade redirect selector other values operation wrapped =>
      have wrapped := Option.some.inj (chosen.symm.trans (unwrap_some_wrapped _ redirect wrapped))
      exact absurd wrapped (service_not_redirect function)

theorem dispatched_read_service (request : ServiceRequest)
    (read : decode request.function.params (encode request.function.params request.values) = .ok request.values)
    (call : ResolvedCall) (dispatched : dispatch setting request.bytes = .ok (some call)) :
    request.function.operation setting request.values = .ok call.operation ∧ call.convention = .direct := by
  obtain ⟨values, again, given⟩ :=
    dispatched_service setting request.function request.bytes call (Selector.of_input_written _ _) dispatched
  rw [ServiceRequest.bytes, Selector.drop_written] at again
  cases read.symm.trans again
  exact given

theorem dispatch_written_service (enabled : ∀ family, setting.config.enables family = true) (request : ServiceRequest)
    (static : Ty.anyDynamic request.function.params = false) :
    dispatch setting request.bytes =
      ((request.function.operation setting request.values).mapError .decode).map fun operation =>
        some ⟨request.function.selector, operation, .direct⟩ :=
  dispatch_read_service setting enabled request (decode_encode _ static _)

end Dispatch

section Meaning

variable (setting : CallSetting)

-- A number fits whatever it is an argument of; only the fault names the argument.
theorem number_means_same {α : Type} (left right : WideArgument) (number : Nat) (wrap : Int64 → α)
    (build : α → Operation) :
    SameMeaning (((native64 left number).map wrap).mapError .decode >>= fun item => pure (build item))
      (native64 right number >>= fun value => pure (build (wrap value))) := by
  cases found : int64? number with
  | some value =>
      rw [native64, native64, found]
      exact .operation _
  | none =>
      rw [native64, native64, found]
      exact .unread _ _

theorem direct_means_same (token own : Address) (request : FacadeRequest) (direct : ServiceRequest)
    (self : request.function.aboutSender = true → setting.entity own = setting.sender)
    (counterpart : request.function.direct? token own (setting.tokenType? (setting.entity token)) request.values =
      some direct) :
    request.function.mismatch? (setting.tokenType? (setting.entity token)) = none ∧
      Ty.anyDynamic direct.function.params = false ∧
      SameMeaning
        (request.function.operation setting (setting.entity token) (setting.tokenType? (setting.entity token))
          request.values)
        (direct.function.operation setting direct.values) := by
  obtain ⟨function, values⟩ := request
  cases function with
  | allowance | isApprovedForAll | setApprovalForAll =>
      cases counterpart
      exact ⟨rfl, rfl, .operation _⟩
  | getApproved =>
      obtain ⟨serial, ⟨⟩⟩ := values
      cases counterpart
      exact ⟨rfl, rfl, number_means_same .tokenId .serialNumber serial.toNat (NftId.mk (setting.entity token)) fun id =>
        .query (.getApproved id)⟩
  -- The number is an amount or a serial by the type, and the direct function is chosen by it too.
  | approve =>
      obtain ⟨spender, number, ⟨⟩⟩ := values
      obtain ⟨type, known, named⟩ := Option.map_eq_some_iff.mp counterpart
      rw [known]
      cases type with
      | fungible =>
          cases named
          exact ⟨rfl, rfl, number_means_same .amount .amount number.toNat Asset.amount fun asset =>
            .approve (setting.entity token) (setting.entity spender) asset⟩
      | nonFungible =>
          cases named
          exact ⟨rfl, rfl, number_means_same .serialNumber .serialNumber number.toNat Asset.serial fun asset =>
            .approve (setting.entity token) (setting.entity spender) asset⟩
  | transferFrom =>
      obtain ⟨source, receiver, number, ⟨⟩⟩ := values
      obtain ⟨type, known, named⟩ := Option.map_eq_some_iff.mp counterpart
      rw [known]
      cases type with
      | fungible =>
          cases named
          exact ⟨rfl, rfl, number_means_same .amount .amount number.toNat Asset.amount fun asset =>
            .transferAsset (setting.entity token) (some (setting.entity source)) (setting.entity receiver) asset⟩
      | nonFungible =>
          cases named
          exact ⟨rfl, rfl, number_means_same .serialNumber .serialNumber number.toNat Asset.serial fun asset =>
            .transferAsset (setting.entity token) (some (setting.entity source)) (setting.entity receiver) asset⟩
  | associate | dissociate =>
      obtain ⟨type, known, named⟩ := Option.map_eq_some_iff.mp counterpart
      cases named
      rw [known]
      refine ⟨rfl, rfl, ?_⟩
      simp only [FacadeFunction.operation, ServiceFunction.operation, self rfl]
      exact .operation _
  | name | symbol | decimals | totalSupply | balanceOf | transfer | ownerOf | tokenUri => cases counterpart

theorem unknown_unsupported (token : TokenId) (request : FacadeRequest) (asks : request.function.asksType = true) :
    (∃ facade, request.function.mismatch? none = some facade) ∨
      (request.function.mismatch? none = none ∧
        ∃ facade, request.function.operation setting token none request.values = .error (.unsupported facade)) := by
  obtain ⟨function, values⟩ := request
  cases function with
  | approve | transferFrom => exact .inr ⟨rfl, .erc20, rfl⟩
  | associate | dissociate => exact .inl ⟨.hrc, rfl⟩
  | _ => cases asks

end Meaning

section Assets

def Asset.type : Asset → TokenType
  | .amount _ => .fungible
  | .serial _ => .nonFungible

def Operation.asset? : Operation → Option (TokenId × Asset)
  | .transferAsset token _ _ asset => some (token, asset)
  | .approve token _ asset => some (token, asset)
  | _ => none

theorem facade_asset_type (type : Option TokenType) (number : Word) (asset : Asset)
    (given : FacadeFunction.asset type number = .ok asset) : type = some asset.type := by
  unfold FacadeFunction.asset at given
  split at given
  · obtain ⟨value, rfl, _⟩ := native64_mapped _ _ _ _ given
    rfl
  · obtain ⟨value, rfl, _⟩ := native64_mapped _ _ _ _ given
    rfl
  · cases given

theorem facade_asset_fits (setting : CallSetting) (token : TokenId) (function : FacadeFunction)
    (values : Ty.Vals function.params) (operation : Operation)
    (fits : function.mismatch? (setting.tokenType? token) = none)
    (given : function.operation setting token (setting.tokenType? token) values = .ok operation) (about : TokenId)
    (asset : Asset) (moves : operation.asset? = some (about, asset)) :
    setting.tokenType? about = some asset.type := by
  cases function with
  | transferFrom | approve =>
      obtain ⟨found, number, given⟩ := (except_bind_ok _ _ _).mp given
      cases given
      cases moves
      exact facade_asset_type _ _ _ number
  | transfer =>
      obtain ⟨amount, _, given⟩ := (except_bind_ok _ _ _).mp given
      cases given
      cases moves
      simp only [FacadeFunction.mismatch?] at fits
      split at fits
      · assumption
      · cases fits
  | ownerOf | tokenUri | getApproved =>
      obtain ⟨_, _, given⟩ := (except_bind_ok _ _ _).mp given
      cases given
      cases moves
  | name | symbol | decimals | totalSupply | balanceOf | allowance | isApprovedForAll | setApprovalForAll | associate
  | dissociate =>
      cases given
      cases moves

end Assets

/-- A call in an envelope of either shape whose bytes are those of a facade function comes to the operation of the
direct call that names the token, or neither of the two can be read; a call about the sender itself names it by any
address that resolves to it. Where the function depends on the type of the token, a token of unknown type is
unsupported. No call in an envelope makes an amount of a token that counts serials, or a serial of one that counts
units. -/
theorem redirects_match_direct_calls (setting : CallSetting) (input : Bytes) (redirect : Redirect)
    (unwrapped : Redirect.unwrap input = .ok (some redirect)) :
    (∀ request : FacadeRequest, redirect.nested = request.bytes →
      (∀ family, setting.config.enables family = true) →
        (∀ own direct, (request.function.aboutSender = true → setting.entity own = setting.sender) →
          request.function.direct? redirect.token own (setting.tokenType? (setting.entity redirect.token))
            request.values = some direct → Alike (dispatch setting input) (dispatch setting direct.bytes)) ∧
        (request.function.asksType = true → setting.tokenType? (setting.entity redirect.token) = none →
          ∃ facade, dispatch setting input = .error (.unsupported facade))) ∧
      ∀ call, dispatch setting input = .ok (some call) → ∀ token asset, call.operation.asset? = some (token, asset) →
        setting.tokenType? token = some asset.type := by
  refine ⟨fun request written enabled => ⟨fun own direct self counterpart => ?_, fun asks unknown => ?_⟩,
    fun call dispatched token asset moves => ?_⟩
  · obtain ⟨fits, static, same⟩ := direct_means_same setting redirect.token own request direct self counterpart
    rw [dispatch_written_facade setting enabled input redirect unwrapped request written, fits,
      dispatch_written_service setting enabled direct static]
    exact alike_of_meaning _ _ same _ _ _ _
  · rw [dispatch_written_facade setting enabled input redirect unwrapped request written, unknown]
    rcases unknown_unsupported setting (setting.entity redirect.token) request asks with
      ⟨facade, refused⟩ | ⟨fits, facade, refused⟩
    · rw [refused]
      exact ⟨facade, rfl⟩
    · rw [fits, refused]
      exact ⟨facade, rfl⟩
  · cases dispatch_routes setting input call dispatched with
    | service selector function values operation bare => cases unwrapped.symm.trans bare
    | facade other selector function values operation wrapped named known enabled fits read given =>
        exact facade_asset_fits setting _ function values operation fits given token asset moves

namespace Sample

def setting : CallSetting := (call []).setting ledger

def grant : FacadeRequest := ⟨.approve, (friend.toAddress, 5#256, ())⟩

def coinGrant : ServiceRequest := ⟨.approve, (coin.toAddress, friend.toAddress, 5#256, ())⟩

def artGrant : ServiceRequest := ⟨.approveNft, (art.toAddress, friend.toAddress, 5#256, ())⟩

end Sample

theorem grant_in_both_envelopes :
    Alike (dispatch Sample.setting (Redirect.wrap Sample.coin.toAddress Sample.grant.bytes))
        (dispatch Sample.setting Sample.coinGrant.bytes) ∧
      Alike (dispatch Sample.setting (Redirect.pack Sample.art.toAddress Sample.grant.bytes))
        (dispatch Sample.setting Sample.artGrant.bytes) := by
  have other : ¬ Sample.grant.function.aboutSender = true := by decide
  have enabled : ∀ family, Sample.setting.config.enables family = true := by
    intro family
    cases family <;> rfl
  have wrapped : (Redirect.unwrap (Redirect.wrap Sample.coin.toAddress Sample.grant.bytes)).toOption =
      some (some ⟨Sample.coin.toAddress, Sample.grant.bytes, true⟩) := by
    decide +kernel
  have packed : (Redirect.unwrap (Redirect.pack Sample.art.toAddress Sample.grant.bytes)).toOption =
      some (some ⟨Sample.art.toAddress, Sample.grant.bytes, false⟩) := by
    decide +kernel
  have coins : Sample.setting.tokenType? (Sample.setting.entity Sample.coin.toAddress) = some .fungible := by decide
  have art : Sample.setting.tokenType? (Sample.setting.entity Sample.art.toAddress) = some .nonFungible := by decide
  constructor
  · obtain ⟨meets, _⟩ := redirects_match_direct_calls Sample.setting _ _ ((to_option_some _ _).mp wrapped)
    refine (meets Sample.grant rfl enabled).1 0 Sample.coinGrant (absurd · other) ?_
    rw [coins]
    rfl
  · obtain ⟨meets, _⟩ := redirects_match_direct_calls Sample.setting _ _ ((to_option_some _ _).mp packed)
    refine (meets Sample.grant rfl enabled).1 0 Sample.artGrant (absurd · other) ?_
    rw [art]
    rfl

end TokenService
