import TokenService.Proofs.Settlement.Founding

set_option autoImplicit false

namespace TokenService

open Abi

namespace Abi.Ty

mutual

def blank : (ty : Ty) → ty.Val
  | .atom kind => kind.ofWord 0
  | .bytes => ([] : Bytes)
  | .string => ""
  | .array element => ([] : List element.Val)
  | .tuple fields => blanks fields

def blanks : (fields : List Ty) → Vals fields
  | [] => ()
  | field :: rest => (field.blank, blanks rest)

end

end Abi.Ty

namespace Query

-- What the service answers a question with, behind the status; some questions only a facade answers.
def returns? : Query → Option (List Ty)
  | .info _ => some [Struct.tokenInfo]
  | .fungibleInfo _ => some [Struct.fungibleInfo]
  | .nftInfo _ => some [Struct.nftInfo]
  | .key _ _ => some [Struct.keyValue]
  | .customFees _ => some [.array Struct.fixedFee, .array Struct.fractionalFee, .array Struct.royaltyFee]
  | .expiry _ => some [Struct.expiry .third]
  | .isToken _ => some [.bool]
  | .type _ => some [.int32]
  | .allowance _ _ _ => some [.uint256]
  | .getApproved _ => some [.address]
  | .isApprovedForAll _ _ _ => some [.bool]
  | .name _ | .symbol _ | .decimals _ | .totalSupply _ | .balanceOf _ _ | .ownerOf _ | .tokenUri _ => none

end Query

namespace Operation

def returns? : Operation → Option (List Ty)
  | .mint _ _ => some [.uint64, .array .int64]
  | .burn _ _ => some [.uint64]
  | .create _ _ => some [.address]
  | .approve _ _ (.amount _) => some [.bool]
  | .query question => question.returns?
  | _ => some []

def curt : Operation → Bool
  | .approve _ _ (.amount _) => true
  | .query _ => true
  | _ => false

-- The bytes that a success of an operation can return: for some outcome of the rules, or for some
-- answer, on whatever view.
inductive Returns (operation : Operation) (convention : Convention) (ledgerId : String) : Bytes → Prop
  | done (caller : Caller) (sender : AccountId) (now : Timestamp) (before after : View) (outcome : Execution)
      (run : (Work.execute (operation.body caller) sender now).Yields before outcome after) :
      Returns operation convention ledgerId (operation.encodeExecution convention outcome)
  | answered (question : Query) (view : View) (answer : Answer) (asked : operation = .query question)
      (found : view.answer question = .ok answer) :
      Returns operation convention ledgerId (answer.encode convention ledgerId)

end Operation

def OperationKind.returns? : OperationKind → Option (List Ty)
  | .mint => some [.uint64, .array .int64]
  | .burn => some [.uint64]
  | .create => some [.address]
  | .approve | .query => none
  | _ => some []

theorem Operation.returns_of_kind (operation : Operation) (types : List Ty)
    (settled : operation.kind.returns? = some types) : operation.returns? = some types ∧ operation.curt = false := by
  cases operation with
  | approve | query => cases settled
  | _ => exact ⟨settled, rfl⟩

namespace ServiceFunction

def returns : ServiceFunction → List Ty
  | .mintToken _ => [.uint64, .array .int64]
  | .burnToken _ => [.uint64]
  | .createFungible _ | .createFungibleWithFees _ | .createNonFungible _ | .createNonFungibleWithFees _ => [.address]
  | .approve => [.bool]
  | .getApproved => [.address]
  | .isApprovedForAll => [.bool]
  | .allowance => [.uint256]
  | .getTokenInfo => [Struct.tokenInfo]
  | .getFungibleTokenInfo => [Struct.fungibleInfo]
  | .getNonFungibleTokenInfo => [Struct.nftInfo]
  | .getTokenKey => [Struct.keyValue]
  | .getTokenCustomFees => [.array Struct.fixedFee, .array Struct.fractionalFee, .array Struct.royaltyFee]
  | .getTokenExpiryInfo => [Struct.expiry .third]
  | .isToken => [.bool]
  | .getTokenType => [.int32]
  | _ => []

theorem returns_solid (function : ServiceFunction) : Ty.allSolid (.int32 :: function.returns) = true := by
  cases function <;> rfl

theorem approved_amount (setting : CallSetting) (values : Ty.Vals ServiceFunction.approve.params)
    (operation : Operation) (given : ServiceFunction.approve.operation setting values = .ok operation) :
    ∃ token spender units, operation = .approve token spender (.amount units) := by
  obtain ⟨_, _, same⟩ := (except_bind_ok _ _ _).mp given
  cases same
  exact ⟨_, _, _, rfl⟩

theorem approved_serial (setting : CallSetting) (values : Ty.Vals ServiceFunction.approveNft.params)
    (operation : Operation) (given : ServiceFunction.approveNft.operation setting values = .ok operation) :
    ∃ token spender serial, operation = .approve token spender (.serial serial) := by
  obtain ⟨_, _, same⟩ := (except_bind_ok _ _ _).mp given
  cases same
  exact ⟨_, _, _, rfl⟩

theorem operation_returns (setting : CallSetting) (function : ServiceFunction) (values : Ty.Vals function.params)
    (operation : Operation) (given : function.operation setting values = .ok operation) :
    operation.returns? = some function.returns ∧ operation.curt = (function.isView || function == .approve) := by
  have kind := function.operation_kind setting values operation given
  cases function with
  | approve =>
      obtain ⟨_, _, _, rfl⟩ := approved_amount setting values operation given
      exact ⟨rfl, rfl⟩
  | approveNft =>
      obtain ⟨_, _, _, rfl⟩ := approved_serial setting values operation given
      exact ⟨rfl, rfl⟩
  | getApproved =>
      obtain ⟨_, _, same⟩ := (except_bind_ok _ _ _).mp given
      cases same
      exact ⟨rfl, rfl⟩
  | getTokenKey =>
      obtain ⟨token, mask, ⟨⟩⟩ := values
      simp only [ServiceFunction.operation] at given
      split at given
      · cases given
        exact ⟨rfl, rfl⟩
      · cases given
  | isApprovedForAll | allowance | getTokenInfo | getFungibleTokenInfo | getNonFungibleTokenInfo
  | getTokenCustomFees | getTokenExpiryInfo | isToken | getTokenType =>
      cases given
      exact ⟨rfl, rfl⟩
  | _ => exact operation.returns_of_kind _ (congrArg OperationKind.returns? kind)

end ServiceFunction

namespace Abi

theorem read_alone (ty : Ty) (static : Ty.anyDynamic [ty] = false) (values : Ty.Vals [ty]) (region : Bytes) :
    ty.read region (encode [ty] values) = .ok (values.1, []) := by
  have whole : encode [ty] values = writeHeads (headsSize (Ty.parts [ty] values)) (Ty.parts [ty] values) := by
    rw [encode, writeParts, static_tails [ty] static values, List.append_nil]
  have written := read_all_written [ty] static values (headsSize (Ty.parts [ty] values)) region []
  rw [List.append_nil, ← whole] at written
  obtain ⟨middle, first, rest⟩ := (read_all_cons _ _ _ _ _ _).mp written
  cases rest
  exact first

-- Reading on behind it fails as reading from nothing does.
theorem decode_alone (ty : Ty) (static : Ty.anyDynamic [ty] = false) (values : Ty.Vals [ty]) (types : List Ty)
    (fault : Fault) (fails : Ty.readAll types (encode [ty] values) [] = .error fault) :
    decode (ty :: types) (encode [ty] values) = .error fault := by
  have first := read_alone ty static values (encode [ty] values)
  simp only [decode, StateT.run', Ty.readAll, bind, StateT.bind, first, fails, Except.bind]
  rfl

theorem encode_length (types : List Ty) (values : Ty.Vals types) :
    (encode types values).length = Ty.sumWords types * 32 + ((Ty.parts types values).flatMap Part.tail).length := by
  rw [encode, writeParts, List.length_append, write_heads_length, parts_size]

end Abi

section Returned

variable (operation : Operation) (types : List Ty) (known : operation.returns? = some types)
include known

theorem success_encoded (ledgerId : String) (bytes : Bytes) (returned : operation.Returns .direct ledgerId bytes) :
    ∃ values, bytes = encode (.int32 :: types) (Status.success.number, values) := by
  cases returned with
  | done caller sender now before after outcome run =>
      cases operation with
      | mint order generation =>
          cases known
          cases Work.mint_strikes _ _ _ _ _ run
          exact ⟨_, rfl⟩
      | burn order generation =>
          cases known
          cases Work.burn_retires _ _ _ _ run
          exact ⟨_, rfl⟩
      | create order generation =>
          cases known
          cases Work.create_founds _ _ _ _ _ run
          exact ⟨_, rfl⟩
      | approve token spender asset => cases asset <;> cases known <;> exact ⟨_, rfl⟩
      | query question => cases question <;> exact absurd run (Work.yields_throw _ _ _ _)
      | _ =>
          cases known
          exact ⟨(), rfl⟩
  | answered question view answer asked found =>
      subst asked
      cases question with
      | info | fungibleInfo | key | customFees | expiry | type | getApproved | isApprovedForAll =>
          cases known
          obtain ⟨_, _, same⟩ := (except_bind_ok _ _ _).mp found
          cases same
          exact ⟨_, rfl⟩
      | nftInfo | allowance =>
          cases known
          obtain ⟨_, _, found⟩ := (except_bind_ok _ _ _).mp found
          obtain ⟨_, _, same⟩ := (except_bind_ok _ _ _).mp found
          cases same
          exact ⟨_, rfl⟩
      | isToken =>
          cases known
          cases found
          exact ⟨_, rfl⟩
      | name | symbol | decimals | totalSupply | balanceOf | ownerOf | tokenUri => cases known

theorem failure_padded (status : Status) (full : operation.curt = false) :
    operation.encodeFailure status = encode (.int32 :: types) (status.number, Ty.blanks types) := by
  cases operation with
  | approve token spender asset =>
      cases asset with
      | amount units => cases full
      | serial serial =>
          cases known
          rfl
  | query question => cases full
  | _ =>
      cases known
      rfl

theorem padding_short (status : Status) (full : operation.curt = false) :
    (encode (.int32 :: types) (status.number, Ty.blanks types)).length < UInt64.size := by
  refine Nat.lt_of_le_of_lt (Nat.le_of_eq (encode_length _ _)) ?_
  cases operation with
  | mint order generation =>
      cases known
      exact show 96 + 32 < UInt64.size by decide
  | burn | create =>
      cases known
      exact show 64 + 0 < UInt64.size by decide
  | approve token spender asset =>
      cases asset with
      | amount units => cases full
      | serial serial =>
          cases known
          exact show 32 + 0 < UInt64.size by decide
  | query question => cases full
  | _ =>
      cases known
      exact show 32 + 0 < UInt64.size by decide

theorem failure_bare (status : Status) (curt : operation.curt = true) :
    operation.encodeFailure status = statusBytes status ∧
      Ty.readAll types (statusBytes status) [] = .error .overrun := by
  cases operation with
  | approve token spender asset =>
      cases asset with
      | amount units =>
          cases known
          exact ⟨rfl, rfl⟩
      | serial serial => cases curt
  | query question =>
      refine ⟨rfl, ?_⟩
      cases question <;> cases known <;> rfl
  | _ => cases curt

end Returned

/-- Whoever calls a function directly can read a success with the types that the function returns behind the status. A
failure is read with the same types as the status and blank values, unless the function is a view or approves an
amount: then it is a bare status, which is too short for them. -/
theorem failures_decode_as_successes (setting : CallSetting) (input : Bytes) (call : ResolvedCall)
    (dispatched : dispatch setting input = .ok (some call)) (direct : call.convention = .direct) :
    ∃ function, ServiceFunction.ofSelector? call.selector = some function ∧
      (∀ ledgerId bytes, call.operation.Returns .direct ledgerId bytes → ∃ values,
        bytes = encode (.int32 :: function.returns) (Status.success.number, values) ∧
          (bytes.length < UInt64.size →
            decode (.int32 :: function.returns) bytes = .ok (Status.success.number, values))) ∧
      ∀ status, decode (.int32 :: function.returns) (call.operation.encodeFailure status) =
        if function.isView || function == .approve then .error .overrun
        else .ok (status.number, Ty.blanks function.returns) := by
  cases dispatch_routes _ _ _ dispatched with
  | facade => cases direct
  | service selector function values operation bare named found enabled read given =>
      obtain ⟨known, curt⟩ := function.operation_returns setting values operation given
      refine ⟨function, found, fun ledgerId bytes returned => ?_, fun status => ?_⟩
      · obtain ⟨results, rfl⟩ := success_encoded operation _ known ledgerId bytes returned
        exact ⟨results, rfl, decode_written _ function.returns_solid _⟩
      · rw [← curt]
        cases short : operation.curt with
        | true =>
            obtain ⟨alone, fails⟩ := failure_bare operation _ known status short
            rw [if_pos rfl, alone]
            exact decode_alone .int32 rfl (status.number, ()) _ _ fails
        | false =>
            rw [if_neg Bool.false_ne_true, failure_padded operation _ known status short]
            exact decode_written _ function.returns_solid _ (padding_short operation _ known status short)

namespace Sample

def office : CallSetting := { sender := holder, resolve := id, tokenType? := fun _ => some .fungible, config := {} }

def striking : Bytes :=
  ServiceRequest.bytes ⟨.mintToken .signed, (coin.toAddress, (5 : Int64), ([] : List Bytes), ())⟩

def approving : Bytes := ServiceRequest.bytes ⟨.approve, (coin.toAddress, friend.toAddress, 5#256, ())⟩

end Sample

theorem failed_mint_decodes :
    decode [.int32, .uint64, .array .int64]
        ((Operation.mint ⟨Sample.coin, 5, []⟩ .second).encodeFailure .invalidTokenId) =
      .ok (Status.invalidTokenId.number, (0 : UInt64), ([] : List Int64), ()) := by
  obtain ⟨function, found, _, failure⟩ := failures_decode_as_successes Sample.office Sample.striking
    ⟨(ServiceFunction.mintToken .signed).selector, .mint ⟨Sample.coin, 5, []⟩ .second, .direct⟩ (by decide +kernel) rfl
  cases (service_of_selector (.mintToken .signed)).symm.trans found
  exact failure .invalidTokenId

theorem failed_approval_unreadable :
    ¬ ∀ (setting : CallSetting) (input : Bytes) (call : ResolvedCall) (function : ServiceFunction) (status : Status),
      dispatch setting input = .ok (some call) → call.convention = .direct →
      ServiceFunction.ofSelector? call.selector = some function → status ≠ .success →
      decode (.int32 :: function.returns) (call.operation.encodeFailure status) =
        .ok (status.number, Ty.blanks function.returns) := by
  intro always
  have read := always Sample.office Sample.approving
    ⟨ServiceFunction.approve.selector, .approve Sample.coin Sample.friend (.amount 5), .direct⟩ .approve
    .invalidAccountId (by decide +kernel) rfl (service_of_selector .approve) (by decide)
  have unread : (decode [.int32, .bool] (statusBytes .invalidAccountId)).isOk = false := by decide +kernel
  rw [show decode [.int32, .bool] (statusBytes .invalidAccountId) = _ from read] at unread
  cases unread

end TokenService
