import TokenService.Proofs.Call.Meaning

set_option autoImplicit false

namespace TokenService

namespace Abi

mutual

-- Two values say the same: numbers of any width as numbers, all else part by part.
def Ty.Alike : (left right : Ty) → left.Val → right.Val → Prop
  | .atom kind, .atom other, value, again => kind.number value = other.number again
  | .bytes, .bytes, value, again => value = again
  | .string, .string, value, again => value = again
  | .array element, .array other, values, again => List.Forall₂ (Ty.Alike element other) values again
  | .tuple fields, .tuple others, values, again => Ty.AllAlike fields others values again
  | _, _, _, _ => False

def Ty.AllAlike : (left right : List Ty) → Ty.Vals left → Ty.Vals right → Prop
  | [], [], _, _ => True
  | field :: fields, other :: others, values, again =>
      Ty.Alike field other values.1 again.1 ∧ Ty.AllAlike fields others values.2 again.2
  | _, _, _, _ => False

end

theorem Atom.number_injective (kind : Atom) (value again : kind.Val) (same : kind.number value = kind.number again) :
    value = again := by
  cases kind with
  | uint32 => exact UInt32.toNat_inj.mp (Int.ofNat_inj.mp same)
  | uint64 => exact UInt64.toNat_inj.mp (Int.ofNat_inj.mp same)
  | uint256 => exact BitVec.eq_of_toNat_eq (Int.ofNat_inj.mp same)
  | int32 => exact Int32.toInt_inj.mp same
  | int64 => exact Int64.toInt_inj.mp same
  | bool =>
      cases value <;> cases again
      · rfl
      · cases same
      · cases same
      · rfl
  | address => exact BitVec.eq_of_toNat_eq (Int.ofNat_inj.mp same)

mutual

theorem Ty.alike_same (ty : Ty) (value again : ty.Val) (alike : Ty.Alike ty ty value again) : value = again := by
  cases ty with
  | atom kind => exact kind.number_injective value again alike
  | bytes => exact alike
  | string => exact alike
  | array element =>
      have each : List.Forall₂ Eq value again := List.Forall₂.imp (Ty.alike_same element) alike
      rwa [List.forall₂_eq_eq_eq] at each
  | tuple fields => exact Ty.all_alike_same fields value again alike

theorem Ty.all_alike_same (fields : List Ty) (values again : Ty.Vals fields)
    (alike : Ty.AllAlike fields fields values again) : values = again := by
  cases fields with
  | nil => rfl
  | cons field rest =>
      obtain ⟨first, others⟩ := alike
      exact Prod.ext (Ty.alike_same field _ _ first) (Ty.all_alike_same rest _ _ others)

end

mutual

theorem Ty.alike_symm (left right : Ty) (value : left.Val) (again : right.Val)
    (alike : Ty.Alike left right value again) : Ty.Alike right left again value := by
  cases left with
  | atom kind =>
      cases right with
      | atom other => exact Eq.symm alike
      | _ => exact False.elim alike
  | bytes =>
      cases right with
      | bytes => exact Eq.symm alike
      | _ => exact False.elim alike
  | string =>
      cases right with
      | string => exact Eq.symm alike
      | _ => exact False.elim alike
  | array element =>
      cases right with
      | array other => exact (List.Forall₂.imp (Ty.alike_symm element other) alike).flip
      | _ => exact False.elim alike
  | tuple fields =>
      cases right with
      | tuple others => exact Ty.all_alike_symm fields others value again alike
      | _ => exact False.elim alike

theorem Ty.all_alike_symm (lefts rights : List Ty) (values : Ty.Vals lefts) (again : Ty.Vals rights)
    (alike : Ty.AllAlike lefts rights values again) : Ty.AllAlike rights lefts again values := by
  cases lefts with
  | nil =>
      cases rights with
      | nil => trivial
      | cons _ _ => exact False.elim alike
  | cons field fields =>
      cases rights with
      | nil => exact False.elim alike
      | cons other others =>
          exact ⟨Ty.alike_symm field other _ _ alike.1, Ty.all_alike_symm fields others _ _ alike.2⟩

end

end Abi

open Abi

inductive Sibling : ServiceFunction → ServiceFunction → Prop
  | mintToken (one other : Signedness) : Sibling (.mintToken one) (.mintToken other)
  | burnToken (one other : Signedness) : Sibling (.burnToken one) (.burnToken other)
  | wipeTokenAccount (one other : Signedness) : Sibling (.wipeTokenAccount one) (.wipeTokenAccount other)
  | createFungible (one other : Generation) : Sibling (.createFungible one) (.createFungible other)
  | createFungibleWithFees (one other : Generation) :
      Sibling (.createFungibleWithFees one) (.createFungibleWithFees other)
  | createNonFungible (one other : Generation) : Sibling (.createNonFungible one) (.createNonFungible other)
  | createNonFungibleWithFees (one other : Generation) :
      Sibling (.createNonFungibleWithFees one) (.createNonFungibleWithFees other)
  | updateTokenInfo (one other : Generation) : Sibling (.updateTokenInfo one) (.updateTokenInfo other)
  | updateTokenExpiryInfo (one other : Signedness) :
      Sibling (.updateTokenExpiryInfo one) (.updateTokenExpiryInfo other)

namespace Struct

def unapprovedAdjustment : plainAdjustment.Val → adjustment.Val
  | (account, amount, ()) => (account, amount, false, ())

def unapprovedMove : plainNftMove.Val → nftMove.Val
  | (sender, receiver, serial, ()) => (sender, receiver, serial, false, ())

def unapproved : plainMoves.Val → moves.Val
  | (token, adjustments, nftMoves, ()) =>
      (token, List.map unapprovedAdjustment adjustments, List.map unapprovedMove nftMoves, ())

end Struct

-- Two requests for the same, in two generations of a function. The second generation of a transfer has room for hbar
-- and for approvals, and goes without them here.
inductive ServiceRequest.Restates : ServiceRequest → ServiceRequest → Prop
  | sibling (one other : ServiceFunction) (values : Ty.Vals one.params) (again : Ty.Vals other.params)
      (related : Sibling one other) (alike : Ty.AllAlike one.params other.params values again) :
      Restates ⟨one, values⟩ ⟨other, again⟩
  | transfer (moves : List Struct.plainMoves.Val) :
      Restates ⟨.cryptoTransfer, (moves, ())⟩ ⟨.atomicTransfer, (([], ()), moves.map Struct.unapproved, ())⟩

namespace Operation

def unmarked : Operation → Operation
  | .mint order _ => .mint order .third
  | .burn order _ => .burn order .third
  | .wipe order _ => .wipe order .third
  | .create order _ => .create order .third
  | .updateInfo order _ => .updateInfo order .third
  | .updateExpiry token expiry _ => .updateExpiry token expiry .third
  | .transfer _ hbar tokens => .transfer .cryptoTransfer hbar tokens
  | other => other

theorem unmarked_transaction (caller : Caller) (operation : Operation) :
    operation.unmarked.transaction caller = operation.transaction caller := by
  cases operation <;> rfl

end Operation

section Numbers

def read64 (argument : WideArgument) (number : Int) : Except DecodeFault Int64 :=
  match int64? number with
  | some value => .ok value
  | none => .error (.overflow argument)

def read32 (argument : WideArgument) (number : Int) : Except DecodeFault Int32 :=
  match int32? number with
  | some value => .ok value
  | none => .error (.overflow argument)

theorem read64_own (argument : WideArgument) (value : Int64) : read64 argument value.toInt = .ok value := by
  rw [read64, (int64_some_iff _ value).mpr rfl]

theorem read32_own (argument : WideArgument) (value : Int32) : read32 argument value.toInt = .ok value := by
  rw [read32, (int32_some_iff _ value).mpr rfl]

namespace Generation

variable (generation : Generation)

theorem supply_read (value : generation.supplyAtom.Val) :
    generation.supply value = read64 .initialTotalSupply (generation.supplyAtom.number value) := by
  cases generation with
  | first => rfl
  | second => rfl
  | third => exact (read64_own _ value).symm

theorem decimals_read (value : generation.decimalsAtom.Val) :
    generation.decimals value = read32 .decimals (generation.decimalsAtom.number value) := by
  cases generation with
  | first => rfl
  | second => rfl
  | third => exact (read32_own _ value).symm

end Generation

end Numbers

section Structs

variable (setting : CallSetting) (one other : Generation)

theorem times_alike (value : one.timeAtom.Val) (again : other.timeAtom.Val)
    (alike : one.timeAtom.number value = other.timeAtom.number again) : one.time value = other.time again := by
  rw [← Int64.toInt_inj, Generation.time_number, Generation.time_number]
  exact alike

theorem caps_alike (value : one.capAtom.Val) (again : other.capAtom.Val)
    (alike : one.capAtom.number value = other.capAtom.number again) : one.cap value = other.cap again := by
  rw [← Int64.toInt_inj, Generation.cap_number, Generation.cap_number]
  exact alike

theorem expiry_alike (value : (Struct.expiry one).Val) (again : (Struct.expiry other).Val)
    (alike : Ty.Alike (Struct.expiry one) (Struct.expiry other) value again) :
    Struct.toExpiry setting one value = Struct.toExpiry setting other again := by
  obtain ⟨start, account, period, ⟨⟩⟩ := value
  obtain ⟨start', account', period', ⟨⟩⟩ := again
  obtain ⟨starts, accounts, periods, _⟩ := alike
  have begins := times_alike one other start start' starts
  have lasts := times_alike one other period period' periods
  have pays : account = account' := Atom.number_injective .address account account' accounts
  simp only [Struct.toExpiry, begins, lasts, pays]

theorem create_order_alike (type : TokenType) (supply : Int64) (decimals : Int32) (fees : List CustomFee)
    (value : (Struct.token one).Val) (again : (Struct.token other).Val)
    (alike : Ty.Alike (Struct.token one) (Struct.token other) value again) :
    Struct.toCreateOrder setting one type supply decimals fees value =
      Struct.toCreateOrder setting other type supply decimals fees again := by
  obtain ⟨name, symbol, treasury, memo, finite, cap, freezes, keys, expiry, ⟨⟩⟩ := value
  obtain ⟨name', symbol', treasury', memo', finite', cap', freezes', keys', expiry', ⟨⟩⟩ := again
  obtain ⟨names, symbols, treasuries, memos, supplies, caps, defaults, keyed, expiries, _⟩ := alike
  obtain rfl : name = name' := names
  obtain rfl : symbol = symbol' := symbols
  obtain rfl : treasury = treasury' := Atom.number_injective .address _ _ treasuries
  obtain rfl : memo = memo' := memos
  obtain rfl : finite = finite' := Atom.number_injective .bool _ _ supplies
  obtain rfl : freezes = freezes' := Atom.number_injective .bool _ _ defaults
  obtain rfl : keys = keys' := Ty.alike_same (.array Struct.tokenKey) _ _ keyed
  have limits := caps_alike one other cap cap' caps
  have ends := expiry_alike setting one other expiry expiry' expiries
  simp only [Struct.toCreateOrder, limits, ends]

-- An update has no use for the supply type, the cap and the freeze default.
theorem info_order_alike (target : Address) (value : (Struct.token one).Val) (again : (Struct.token other).Val)
    (alike : Ty.Alike (Struct.token one) (Struct.token other) value again) :
    Struct.toInfoOrder setting one target value = Struct.toInfoOrder setting other target again := by
  obtain ⟨name, symbol, treasury, memo, finite, cap, freezes, keys, expiry, ⟨⟩⟩ := value
  obtain ⟨name', symbol', treasury', memo', finite', cap', freezes', keys', expiry', ⟨⟩⟩ := again
  obtain ⟨names, symbols, treasuries, memos, _, _, _, keyed, expiries, _⟩ := alike
  obtain rfl : name = name' := names
  obtain rfl : symbol = symbol' := symbols
  obtain rfl : treasury = treasury' := Atom.number_injective .address _ _ treasuries
  obtain rfl : memo = memo' := memos
  obtain rfl : keys = keys' := Ty.alike_same (.array Struct.tokenKey) _ _ keyed
  have ends := expiry_alike setting one other expiry expiry' expiries
  simp only [Struct.toInfoOrder, ends]

end Structs

namespace ServiceFunction

variable (setting : CallSetting)

def Agrees (one other : ServiceFunction) : Prop :=
  ∀ (values : Ty.Vals one.params) (again : Ty.Vals other.params), Ty.AllAlike one.params other.params values again →
    (one.operation setting values).map Operation.unmarked = (other.operation setting again).map Operation.unmarked

theorem agrees_self (function : ServiceFunction) : function.Agrees setting function := by
  intro values again alike
  rw [Ty.all_alike_same _ values again alike]

theorem agrees_symm (one other : ServiceFunction) (agrees : one.Agrees setting other) : other.Agrees setting one := by
  intro values again alike
  exact (agrees again values (Ty.all_alike_symm _ _ values again alike)).symm

theorem signednesses_agree (function : Signedness → ServiceFunction)
    (agrees : (function .unsigned).Agrees setting (function .signed)) (one other : Signedness) :
    (function one).Agrees setting (function other) := by
  cases one with
  | unsigned =>
      cases other with
      | unsigned => exact agrees_self setting _
      | signed => exact agrees
  | signed =>
      cases other with
      | unsigned => exact agrees_symm setting _ _ agrees
      | signed => exact agrees_self setting _

theorem amount_alike (amount : UInt64) (units : Int64) (alike : Atom.uint64.number amount = Atom.int64.number units) :
    native64 .amount amount.toNat = .ok units :=
  (congrArg (read64 .amount) alike).trans (read64_own .amount units)

theorem mints_agree : (mintToken .unsigned).Agrees setting (mintToken .signed) := by
  rintro ⟨token, amount, metadata, ⟨⟩⟩ ⟨token', units, metadata', ⟨⟩⟩ ⟨tokens, amounts, items, _⟩
  obtain rfl : token = token' := Atom.number_injective .address _ _ tokens
  obtain rfl : metadata = metadata' := Ty.alike_same (.array .bytes) _ _ items
  simp only [operation, amount_alike amount units amounts]
  rfl

theorem burns_agree : (burnToken .unsigned).Agrees setting (burnToken .signed) := by
  rintro ⟨token, amount, serials, ⟨⟩⟩ ⟨token', units, serials', ⟨⟩⟩ ⟨tokens, amounts, items, _⟩
  obtain rfl : token = token' := Atom.number_injective .address _ _ tokens
  obtain rfl : serials = serials' := Ty.alike_same (.array .int64) _ _ items
  simp only [operation, amount_alike amount units amounts]
  rfl

theorem wipes_agree : (wipeTokenAccount .unsigned).Agrees setting (wipeTokenAccount .signed) := by
  rintro ⟨token, account, amount, ⟨⟩⟩ ⟨token', account', units, ⟨⟩⟩ ⟨tokens, accounts, amounts, _⟩
  obtain rfl : token = token' := Atom.number_injective .address _ _ tokens
  obtain rfl : account = account' := Atom.number_injective .address _ _ accounts
  have widened : (UInt32.toUInt64 amount).toInt64 = units :=
    Int64.toInt_inj.mp ((Generation.widened_number amount).trans amounts)
  simp only [operation, widened]
  rfl

theorem expiries_agree : (updateTokenExpiryInfo .unsigned).Agrees setting (updateTokenExpiryInfo .signed) := by
  rintro ⟨token, expiry, ⟨⟩⟩ ⟨token', expiry', ⟨⟩⟩ ⟨tokens, expiries, _⟩
  obtain rfl : token = token' := Atom.number_injective .address _ _ tokens
  simp only [operation, expiry_alike setting .first .third expiry expiry' expiries]
  rfl

theorem infos_agree (one other : Generation) : (updateTokenInfo one).Agrees setting (updateTokenInfo other) := by
  rintro ⟨target, token, ⟨⟩⟩ ⟨target', token', ⟨⟩⟩ ⟨targets, tokens, _⟩
  obtain rfl : target = target' := Atom.number_injective .address _ _ targets
  simp only [operation, info_order_alike setting one other target token token' tokens]
  cases Struct.toInfoOrder setting other target token' <;> rfl

theorem creations_agree (one other : Generation) (type : TokenType) (supply : Int64) (decimals : Int32)
    (fees : List CustomFee) (value : (Struct.token one).Val) (again : (Struct.token other).Val)
    (alike : Ty.Alike (Struct.token one) (Struct.token other) value again) :
    (Struct.toCreateOrder setting one type supply decimals fees value >>= fun order =>
        pure (Operation.create order one)).map Operation.unmarked =
      (Struct.toCreateOrder setting other type supply decimals fees again >>= fun order =>
        pure (Operation.create order other)).map Operation.unmarked := by
  rw [create_order_alike setting one other type supply decimals fees value again alike]
  cases Struct.toCreateOrder setting other type supply decimals fees again <;> rfl

theorem fungible_agree (one other : Generation) (fees : List CustomFee) (token : (Struct.token one).Val)
    (token' : (Struct.token other).Val) (supply : one.supplyAtom.Val) (supply' : other.supplyAtom.Val)
    (decimals : one.decimalsAtom.Val) (decimals' : other.decimalsAtom.Val)
    (tokens : Ty.Alike (Struct.token one) (Struct.token other) token token')
    (supplies : one.supplyAtom.number supply = other.supplyAtom.number supply')
    (places : one.decimalsAtom.number decimals = other.decimalsAtom.number decimals') :
    (do
      let supply ← one.supply supply
      let decimals ← one.decimals decimals
      let order ← Struct.toCreateOrder setting one .fungible supply decimals fees token
      pure (Operation.create order one)).map Operation.unmarked =
    (do
      let supply ← other.supply supply'
      let decimals ← other.decimals decimals'
      let order ← Struct.toCreateOrder setting other .fungible supply decimals fees token'
      pure (Operation.create order other)).map Operation.unmarked := by
  rw [Generation.supply_read, Generation.decimals_read, Generation.supply_read, Generation.decimals_read, supplies,
    places]
  cases read64 .initialTotalSupply (other.supplyAtom.number supply') with
  | error fault => rfl
  | ok units =>
      cases read32 .decimals (other.decimalsAtom.number decimals') with
      | error fault => rfl
      | ok digits => exact creations_agree setting one other .fungible units digits fees token token' tokens

theorem siblings_agree (one other : ServiceFunction) (related : Sibling one other) : one.Agrees setting other := by
  cases related with
  | mintToken one other => exact signednesses_agree setting .mintToken (mints_agree setting) one other
  | burnToken one other => exact signednesses_agree setting .burnToken (burns_agree setting) one other
  | wipeTokenAccount one other => exact signednesses_agree setting .wipeTokenAccount (wipes_agree setting) one other
  | updateTokenExpiryInfo one other =>
      exact signednesses_agree setting .updateTokenExpiryInfo (expiries_agree setting) one other
  | updateTokenInfo one other => exact infos_agree setting one other
  | createNonFungible one other =>
      rintro ⟨token, ⟨⟩⟩ ⟨token', ⟨⟩⟩ ⟨tokens, _⟩
      exact creations_agree setting one other .nonFungible 0 0 [] token token' tokens
  | createNonFungibleWithFees one other =>
      rintro ⟨token, fixed, royalty, ⟨⟩⟩ ⟨token', fixed', royalty', ⟨⟩⟩ ⟨tokens, charges, royalties, _⟩
      obtain rfl : fixed = fixed' := Ty.alike_same (.array Struct.fixedFee) _ _ charges
      obtain rfl : royalty = royalty' := Ty.alike_same (.array Struct.royaltyFee) _ _ royalties
      exact creations_agree setting one other .nonFungible 0 0 _ token token' tokens
  | createFungible one other =>
      rintro ⟨token, supply, decimals, ⟨⟩⟩ ⟨token', supply', decimals', ⟨⟩⟩ ⟨tokens, supplies, places, _⟩
      exact fungible_agree setting one other [] token token' supply supply' decimals decimals' tokens supplies places
  | createFungibleWithFees one other =>
      rintro ⟨token, supply, decimals, fixed, fractional, ⟨⟩⟩ ⟨token', supply', decimals', fixed', fractional', ⟨⟩⟩
        ⟨tokens, supplies, places, charges, fractions, _⟩
      obtain rfl : fixed = fixed' := Ty.alike_same (.array Struct.fixedFee) _ _ charges
      obtain rfl : fractional = fractional' := Ty.alike_same (.array Struct.fractionalFee) _ _ fractions
      exact fungible_agree setting one other _ token token' supply supply' decimals decimals' tokens supplies places

end ServiceFunction

theorem unapproved_moves (setting : CallSetting) (moves : Struct.plainMoves.Val) :
    Struct.toMoves setting (Struct.unapproved moves) = Struct.toPlainMoves setting moves := by
  obtain ⟨token, adjustments, nftMoves, ⟨⟩⟩ := moves
  exact congrArg₂ (fun adjusted moved => (⟨setting.entity token, adjusted, moved⟩ : TokenMoves)) List.map_map
    List.map_map

theorem ServiceRequest.restated (setting : CallSetting) (one other : ServiceRequest) (restates : one.Restates other) :
    (one.function.operation setting one.values).map Operation.unmarked =
      (other.function.operation setting other.values).map Operation.unmarked := by
  cases restates with
  | sibling one other values again related alike =>
      exact ServiceFunction.siblings_agree setting one other related values again alike
  | transfer moves =>
      have same : (moves.map Struct.unapproved).map (Struct.toMoves setting) =
          moves.map (Struct.toPlainMoves setting) := by
        rw [List.map_map]
        exact List.map_congr_left fun move _ => unapproved_moves setting move
      exact congrArg (fun tokens => Except.ok (Operation.transfer .cryptoTransfer [] tokens)) same.symm

namespace Sample

def coinAgain : ServiceRequest :=
  ⟨.createFungible .third,
    (("Coin", "C", holder.toAddress, "", false, (0 : Int64), false, [], ((0 : Int64), (0 : Address), (0 : Int64), ()),
      ()), (100 : Int64), (8 : Int32), ())⟩

theorem coin_restated : (coinRequest 8).Restates coinAgain := by
  refine .sibling _ _ _ _ (.createFungible .second .third) ?_
  exact ⟨⟨rfl, rfl, rfl, rfl, rfl, rfl, rfl, .nil, ⟨rfl, rfl, rfl, trivial⟩, trivial⟩, rfl, rfl, trivial⟩

end Sample

theorem ServiceRequest.dispatch_written (setting : CallSetting)
    (enabled : ∀ family, setting.config.enables family = true) (request : ServiceRequest)
    (room : request.bytes.length < UInt64.size) :
    dispatch setting request.bytes =
      ((request.function.operation setting request.values).mapError .decode).map fun operation =>
        some ⟨request.function.selector, operation, .direct⟩ := by
  have short : (encode request.function.params request.values).length < UInt64.size := by
    rw [ServiceRequest.bytes, List.length_append] at room
    omega
  exact dispatch_read_service setting enabled request (decode_written _ request.function.params_solid _ short)

/-- A request is read alike in every generation that can say it: as one operation, up to the mark of the generation,
or with one fault. What is built from the two readings is then one transaction. -/
theorem generations_agree (setting : CallSetting) (enabled : ∀ family, setting.config.enables family = true)
    (one other : ServiceRequest) (restates : one.Restates other) (short : one.bytes.length < UInt64.size)
    (short' : other.bytes.length < UInt64.size) :
    (∃ fault, dispatch setting one.bytes = .error (.decode fault) ∧
        dispatch setting other.bytes = .error (.decode fault)) ∨
      ∃ operation again,
        dispatch setting one.bytes = .ok (some ⟨one.function.selector, operation, .direct⟩) ∧
          dispatch setting other.bytes = .ok (some ⟨other.function.selector, again, .direct⟩) ∧
          operation.unmarked = again.unmarked ∧
          ∀ caller, operation.transaction caller = again.transaction caller := by
  have same := one.restated setting other restates
  rw [one.dispatch_written setting enabled short, other.dispatch_written setting enabled short']
  cases read : one.function.operation setting one.values with
  | error fault =>
      cases reread : other.function.operation setting other.values with
      | error again =>
          rw [read, reread] at same
          obtain rfl : fault = again := Except.error.inj same
          exact .inl ⟨fault, rfl, rfl⟩
      | ok again =>
          rw [read, reread] at same
          cases same
  | ok operation =>
      cases reread : other.function.operation setting other.values with
      | error fault =>
          rw [read, reread] at same
          cases same
      | ok again =>
          rw [read, reread] at same
          have agree : operation.unmarked = again.unmarked := Except.ok.inj same
          refine .inr ⟨operation, again, rfl, rfl, agree, fun caller => ?_⟩
          rw [← Operation.unmarked_transaction, agree, Operation.unmarked_transaction]

theorem coin_ordered_alike :
    (Sample.coinRequest 8).Restates Sample.coinAgain ∧
      ((∃ fault, dispatch Sample.plain (Sample.coinRequest 8).bytes = .error (.decode fault) ∧
          dispatch Sample.plain Sample.coinAgain.bytes = .error (.decode fault)) ∨
        ∃ operation again,
          dispatch Sample.plain (Sample.coinRequest 8).bytes =
              .ok (some ⟨(Sample.coinRequest 8).function.selector, operation, .direct⟩) ∧
            dispatch Sample.plain Sample.coinAgain.bytes =
              .ok (some ⟨Sample.coinAgain.function.selector, again, .direct⟩) ∧
            operation.unmarked = again.unmarked ∧
            ∀ caller, operation.transaction caller = again.transaction caller) :=
  ⟨Sample.coin_restated,
    generations_agree Sample.plain Sample.plain_enabled (Sample.coinRequest 8) Sample.coinAgain Sample.coin_restated
      (by decide +kernel) (by decide +kernel)⟩

end TokenService
