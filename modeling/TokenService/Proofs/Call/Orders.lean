import TokenService.Call.Native
import TokenService.Call.Output
import TokenService.Ledger.Definition
import TokenService.Proofs.Call.Meaning

set_option autoImplicit false

namespace TokenService

open Abi

namespace Struct

def keyRead (own : Option Key) : keyValue.Val → Option keyValue.Val
  | value@(inherit, contract, ed25519, secp256k1, delegatable, ()) =>
      bif inherit then own.map fun key => ofKey (some key)
      else if keyKinds inherit contract ed25519 secp256k1 delegatable = 0 then none
      else some value

def slotWord (slot : KeySlot) : Word := slot.bit.toBitVec.setWidth 256

def keyReadAt (own : Option Key) (slot : KeySlot) : tokenKey.Val → Option keyValue.Val
  | (mask, value, ()) => if BitVec.and mask (slotWord slot) = 0 then none else keyRead own value

-- The last argument that puts a key into a slot counts.
def slotRead (own : Option Key) (keys : List tokenKey.Val) (slot : KeySlot) : Option keyValue.Val :=
  keys.reverse.findSome? (keyReadAt own slot)

def keysRead (own : Option Key) (keys : List tokenKey.Val) : List tokenKey.Val :=
  KeySlot.all.filterMap fun slot => (slotRead own keys slot).map fun value => (slotWord slot, value, ())

def secondRead (now : Timestamp) (second period : Int64) : Int64 :=
  if second = 0 then clamp (now.seconds.toInt + period.toInt) else second

def expiryRead (now : Timestamp) : (expiry .third).Val → (expiry .third).Val
  | (second, account, period, ()) => (secondRead now second period, account, period, ())

def hbarRead (token : Address) (inMovedToken : Bool) : Bool := token == 0 && !inMovedToken

def fixedFeeRead : fixedFee.Val → fixedFee.Val
  | (amount, token, _, inMovedToken, collector, ()) =>
      (amount, token, hbarRead token inMovedToken, inMovedToken, collector, ())

-- A royalty without a fallback names no token and no hbar.
def fallbackRead (amount : Int64) (token : Address) : Address × Bool :=
  if amount = 0 then (0, false) else (token, hbarRead token false)

def royaltyFeeRead : royaltyFee.Val → royaltyFee.Val
  | (numerator, denominator, amount, token, _, collector, ()) =>
      (numerator, denominator, amount, (fallbackRead amount token).1, (fallbackRead amount token).2, collector, ())

def tokenRead (own : Option Key) (now : Timestamp) : (token .third).Val → (token .third).Val
  | (name, symbol, treasury, memo, finite, maxSupply, freezeDefault, keys, expiry, ()) =>
      (name, symbol, treasury, memo, finite, maxSupply, freezeDefault, keysRead own keys, expiryRead now expiry, ())

end Struct

structure TokenOrder where
  token : (Struct.token .third).Val
  supply : Int64
  fixed : List Struct.fixedFee.Val
  fractional : List Struct.fractionalFee.Val
  royalty : List Struct.royaltyFee.Val

namespace TokenOrder

def info (order : TokenOrder) (own : Option Key) (now : Timestamp) (ledgerId : String) : Struct.tokenInfo.Val :=
  (Struct.tokenRead own now order.token, order.supply, false,
    (Struct.slotRead own (Struct.keysOf .third order.token) .kyc).isNone, false,
    order.fixed.map Struct.fixedFeeRead, order.fractional, order.royalty.map Struct.royaltyFeeRead, ledgerId, ())

end TokenOrder

def ServiceRequest.order? : ServiceRequest → Option TokenOrder
  | ⟨.createFungible .third, (token, supply, _, ())⟩ => some ⟨token, supply, [], [], []⟩
  | ⟨.createFungibleWithFees .third, (token, supply, _, fixed, fractional, ())⟩ =>
      some ⟨token, supply, fixed, fractional, []⟩
  | ⟨.createNonFungible .third, (token, ())⟩ => some ⟨token, 0, [], [], []⟩
  | ⟨.createNonFungibleWithFees .third, (token, fixed, royalty, ())⟩ => some ⟨token, 0, fixed, [], royalty⟩
  | _ => none

section Keys

variable (caller : Caller)

def KeyArgument.at? (slot : KeySlot) (argument : KeyArgument) : Option Key :=
  if slot.covered argument.mask then argument.choice.resolve caller else none

theorem assigned_get (slot : KeySlot) (arguments : List KeyArgument) (keys : TokenKeys) :
    (arguments.foldl (fun keys argument =>
        match argument.choice.resolve caller with
        | some key => keys.assign argument.mask key
        | none => keys) keys).get slot =
      (arguments.reverse.findSome? (KeyArgument.at? caller slot)).or (keys.get slot) := by
  induction arguments generalizing keys with
  | nil => rfl
  | cons argument rest ih =>
      rw [List.foldl_cons, ih, List.reverse_cons, List.findSome?_append, Option.or_assoc]
      congr 1
      simp only [List.findSome?_singleton, KeyArgument.at?]
      cases argument.choice.resolve caller with
      | none => simp
      | some key =>
          simp only [TokenKeys.assign, TokenKeys.get_of_slots]
          split <;> simp

theorem token_keys_get (slot : KeySlot) (arguments : List KeyArgument) :
    (tokenKeys caller arguments).get slot = arguments.reverse.findSome? (KeyArgument.at? caller slot) := by
  have unassigned : ({} : TokenKeys).get slot = none := by cases slot <;> rfl
  exact (assigned_get caller slot arguments {}).trans (by rw [unassigned, Option.or_none])

end Keys

namespace Struct

variable (setting : CallSetting) (plain : setting.resolve = id)

include plain

theorem name_told (address : Address) (account : EntityId) (named : setting.Names address account) :
    account.toAddress = address := by
  rwa [CallSetting.Names, plain, id] at named

omit plain in
theorem one_of_five : ∀ a b c d e : Bool, [a, b, c, d, e].count true ≤ 1 →
    (b = true → a = false ∧ c = false ∧ d = false ∧ e = false) ∧
      (c = true → a = false ∧ b = false ∧ d = false ∧ e = false) ∧
      (d = true → a = false ∧ b = false ∧ c = false ∧ e = false) ∧
      (e = true → a = false ∧ b = false ∧ c = false ∧ d = false) := by
  decide

theorem key_told (caller : Caller) (inherit : Bool) (contract : Address) (ed25519 secp256k1 : Bytes)
    (delegatable : Address) (choice : KeyChoice)
    (sound : KeySound inherit contract ed25519 secp256k1 delegatable)
    (tells : KeyTells setting inherit contract ed25519 secp256k1 delegatable choice) :
    (choice.resolve caller).map (fun key => ofKey (some key)) =
      keyRead caller.key (inherit, contract, ed25519, secp256k1, delegatable, ()) := by
  have single := sound.single
  obtain ⟨second, third, fourth, fifth⟩ := one_of_five _ _ _ _ _ single
  -- Where one kind is set the others are not, so the whole value is the form of that kind.
  have whole (kind : Bool)
      (listed : kind ∈ [inherit, contract != 0, !ed25519.isEmpty, !secp256k1.isEmpty, delegatable != 0])
      (set : kind = true) (own : inherit = false) :
      keyRead caller.key (inherit, contract, ed25519, secp256k1, delegatable, ()) =
        some (inherit, contract, ed25519, secp256k1, delegatable, ()) := by
    have some_kind : keyKinds inherit contract ed25519 secp256k1 delegatable ≠ 0 :=
      Nat.pos_iff_ne_zero.mp (List.count_pos_iff.mpr (set ▸ listed))
    rw [own] at some_kind ⊢
    exact if_neg some_kind
  have empty (bytes : Bytes) (unset : (!bytes.isEmpty) = false) : bytes = [] := by
    rwa [Bool.not_eq_false', List.isEmpty_iff] at unset
  have nobody (address : Address) (unset : (address != 0) = false) : address = 0 := by
    rwa [bne_eq_false_iff_eq] at unset
  cases choice with
  | inherit =>
      cases tells
      rfl
  | unset =>
      have own : inherit = false := by
        cases inherit with
        | false => rfl
        | true => exact absurd tells (Nat.pos_iff_ne_zero.mp (List.count_pos_iff.mpr List.mem_cons_self))
      rw [own] at tells ⊢
      exact (if_pos tells).symm
  | contract key =>
      obtain ⟨given, named⟩ := tells
      have flag := bne_iff_ne.mpr given
      obtain ⟨own, first, next, last⟩ := second flag
      rw [whole (contract != 0) (by simp) flag own, own, empty _ first, empty _ next, nobody _ last]
      rw [← name_told setting plain _ key named]
      rfl
  | delegatable key =>
      obtain ⟨given, named⟩ := tells
      have flag := bne_iff_ne.mpr given
      obtain ⟨own, first, next, last⟩ := fifth flag
      rw [whole (delegatable != 0) (by simp) flag own, own, nobody _ first, empty _ next, empty _ last]
      rw [← name_told setting plain _ key named]
      rfl
  | ed25519 bytes =>
      obtain ⟨given, same⟩ := tells
      have flag : (!ed25519.isEmpty) = true := by simp [given]
      obtain ⟨own, first, next, last⟩ := third flag
      rw [whole (!ed25519.isEmpty) (by simp) flag own, own, nobody _ first, empty _ next, nobody _ last, same]
      rfl
  | secp256k1 bytes =>
      obtain ⟨given, same⟩ := tells
      have flag : (!secp256k1.isEmpty) = true := by simp [given]
      obtain ⟨own, first, next, last⟩ := fourth flag
      rw [whole (!secp256k1.isEmpty) (by simp) flag own, own, nobody _ first, empty _ next, nobody _ last, same]
      rfl

omit plain in
theorem covered_iff (slot : KeySlot) (native : UInt64) (mask : Word) (same : native.toNat = mask.toNat) :
    slot.covered native = true ↔ ¬ BitVec.and mask (slotWord slot) = 0 := by
  have widened : mask = native.toBitVec.setWidth 256 := by
    apply BitVec.eq_of_toNat_eq
    rw [BitVec.toNat_setWidth_of_le (by decide)]
    exact same.symm
  have both : BitVec.and mask (slotWord slot) = (native &&& slot.bit).toBitVec.setWidth 256 := by
    rw [widened, slotWord]
    exact BitVec.setWidth_and.symm
  rw [KeySlot.covered, bne_iff_ne, both, ne_eq, not_iff_not]
  constructor
  · intro none
    rw [none]
    rfl
  · intro none
    have number := congrArg BitVec.toNat none
    rw [BitVec.toNat_setWidth_of_le (by decide)] at number
    exact UInt64.toNat_inj.mp number

theorem key_told_at (caller : Caller) (slot : KeySlot) (value : tokenKey.Val) (argument : KeyArgument)
    (fits : KeyFits value) (tells : KeyArgumentTells setting value argument) :
    (argument.at? caller slot).map (fun key => ofKey (some key)) = keyReadAt caller.key slot value := by
  obtain ⟨mask, ⟨inherit, contract, ed25519, secp256k1, delegatable, ⟨⟩⟩, ⟨⟩⟩ := value
  have covered := covered_iff slot argument.mask mask tells.1
  have told := key_told setting plain caller _ _ _ _ _ argument.choice fits.2 tells.2
  simp only [KeyArgument.at?, keyReadAt]
  by_cases bare : BitVec.and mask (slotWord slot) = 0
  · rw [if_pos bare, if_neg (fun covers => covered.mp covers bare), Option.map_none]
  · rw [if_neg bare, if_pos (covered.mpr bare), told]

theorem slot_told (caller : Caller) (slot : KeySlot) (values : List tokenKey.Val) (arguments : List KeyArgument)
    (fits : ∀ value ∈ values, KeyFits value) (tells : List.Forall₂ (KeyArgumentTells setting) values arguments) :
    ((tokenKeys caller arguments).get slot).map (fun key => ofKey (some key)) = slotRead caller.key values slot := by
  rw [token_keys_get, slotRead]
  induction tells with
  | nil => rfl
  | cons told _ ih =>
      obtain ⟨fit, fits⟩ := List.forall_mem_cons.mp fits
      simp only [List.reverse_cons, List.findSome?_append, Option.map_or, ih fits, List.findSome?_singleton,
        key_told_at setting plain caller slot _ _ fit told]

theorem keys_told (caller : Caller) (values : List tokenKey.Val) (arguments : List KeyArgument)
    (fits : ∀ value ∈ values, KeyFits value) (tells : List.Forall₂ (KeyArgumentTells setting) values arguments) :
    ofKeys (tokenKeys caller arguments) = keysRead caller.key values := by
  rw [ofKeys, TokenKeys.filled, List.map_filterMap, keysRead]
  refine List.filterMap_congr fun slot _ => ?_
  rw [← slot_told setting plain caller slot values arguments fits tells, Option.map_map]
  cases (tokenKeys caller arguments).get slot <;> rfl

theorem address_told (address : Address) (account : Option EntityId) (tells : setting.MayName address account) :
    optionalAddress account = address ∧ account.isNone = (address == 0) := by
  cases account with
  | none =>
      cases (show address = 0 from tells)
      exact ⟨rfl, rfl⟩
  | some account =>
      obtain ⟨given, named⟩ := tells
      exact ⟨name_told setting plain address account named, (beq_eq_false_iff_ne.mpr given).symm⟩

theorem fixed_fee_told (value : fixedFee.Val) (fee : CustomFee) (tells : FixedFeeTells setting value fee) :
    ∃ plainly, fee = .fixed plainly ∧ ofFixedFee plainly = fixedFeeRead value := by
  obtain ⟨(amount : Int64), (token : Address), _, (inMovedToken : Bool), (collector : Address), ⟨⟩⟩ := value
  cases fee with
  | fixed fee =>
      obtain ⟨rfl, denominated, rfl, named⟩ := tells
      obtain ⟨told, absent⟩ := address_told setting plain token fee.denomination denominated
      refine ⟨fee, rfl, ?_⟩
      simp only [ofFixedFee, inHbar, told, absent, name_told setting plain collector fee.collector named, fixedFeeRead]
      rfl
  | fractional => cases tells
  | royalty => cases tells

theorem fractional_fee_told (value : fractionalFee.Val) (fee : CustomFee)
    (tells : FractionalFeeTells setting value fee) :
    ∃ plainly, fee = .fractional plainly ∧ ofFractionalFee plainly = value := by
  obtain ⟨numerator, denominator, minimum, maximum, netOfTransfers, collector, ⟨⟩⟩ := value
  cases fee with
  | fractional fee =>
      obtain ⟨rfl, rfl, rfl, rfl, rfl, named⟩ := tells
      refine ⟨fee, rfl, ?_⟩
      rw [ofFractionalFee, name_told setting plain collector fee.collector named]
  | fixed => cases tells
  | royalty => cases tells

theorem royalty_fee_told (value : royaltyFee.Val) (fee : CustomFee) (tells : RoyaltyFeeTells setting value fee) :
    ∃ plainly, fee = .royalty plainly ∧ ofRoyaltyFee plainly = royaltyFeeRead value := by
  obtain ⟨(numerator : Int64), (denominator : Int64), (amount : Int64), (token : Address), _, (collector : Address),
    ⟨⟩⟩ := value
  cases fee with
  | royalty fee =>
      obtain ⟨rfl, rfl, told, named⟩ := tells
      refine ⟨fee, rfl, ?_⟩
      simp only [ofRoyaltyFee, name_told setting plain collector fee.collector named, royaltyFeeRead]
      cases given : fee.fallback with
      | none =>
          rw [given] at told
          cases told
          rfl
      | some fallback =>
          rw [given] at told
          obtain ⟨given, rfl, denominated, moved, _⟩ := told
          obtain ⟨told, absent⟩ := address_told setting plain token fallback.denomination denominated
          simp only [Option.map_some, Option.getD_some, Option.bind_some, Option.any_some, told, inHbar, absent, moved,
            fallbackRead, if_neg given]
          rfl
  | fixed => cases tells
  | fractional => cases tells

theorem fixed_fees_told (values : List fixedFee.Val) (fees : List CustomFee)
    (tells : List.Forall₂ (FixedFeeTells setting) values fees) :
    fixedFees fees = values.map fixedFeeRead ∧ fractionalFees fees = [] ∧ royaltyFees fees = [] := by
  induction tells with
  | nil => exact ⟨rfl, rfl, rfl⟩
  | cons told _ ih =>
      obtain ⟨fee, rfl, same⟩ := fixed_fee_told setting plain _ _ told
      obtain ⟨fixed, fractional, royalty⟩ := ih
      refine ⟨?_, fractional, royalty⟩
      rw [List.map_cons, ← same, ← fixed]
      rfl

theorem fractional_fees_told (values : List fractionalFee.Val) (fees : List CustomFee)
    (tells : List.Forall₂ (FractionalFeeTells setting) values fees) :
    fixedFees fees = [] ∧ fractionalFees fees = values ∧ royaltyFees fees = [] := by
  induction tells with
  | nil => exact ⟨rfl, rfl, rfl⟩
  | cons told _ ih =>
      obtain ⟨fee, rfl, rfl⟩ := fractional_fee_told setting plain _ _ told
      obtain ⟨fixed, fractional, royalty⟩ := ih
      refine ⟨fixed, ?_, royalty⟩
      exact congrArg _ fractional

theorem royalty_fees_told (values : List royaltyFee.Val) (fees : List CustomFee)
    (tells : List.Forall₂ (RoyaltyFeeTells setting) values fees) :
    fixedFees fees = [] ∧ fractionalFees fees = [] ∧ royaltyFees fees = values.map royaltyFeeRead := by
  induction tells with
  | nil => exact ⟨rfl, rfl, rfl⟩
  | cons told _ ih =>
      obtain ⟨fee, rfl, same⟩ := royalty_fee_told setting plain _ _ told
      obtain ⟨fixed, fractional, royalty⟩ := ih
      refine ⟨fixed, fractional, ?_⟩
      rw [List.map_cons, ← same, ← royalty]
      rfl

omit plain in
theorem fees_append (front back : List CustomFee) :
    fixedFees (front ++ back) = fixedFees front ++ fixedFees back ∧
      fractionalFees (front ++ back) = fractionalFees front ++ fractionalFees back ∧
      royaltyFees (front ++ back) = royaltyFees front ++ royaltyFees back :=
  ⟨List.filterMap_append, List.filterMap_append, List.filterMap_append⟩

theorem expiry_told (now : Timestamp) (value : (expiry .third).Val) (given : Expiry)
    (tells : ExpiryTells setting .third value given) :
    ofExpiry (Work.initialExpiry given now) = expiryRead now value := by
  obtain ⟨(second : Int64), (account : Address), (period : Int64), ⟨⟩⟩ := value
  obtain ⟨seconds, named, periods⟩ := tells
  have renewer := (address_told setting plain account given.autoRenewAccount named).1
  cases (Int64.toInt_inj.mp seconds)
  cases (Int64.toInt_inj.mp periods)
  simp only [ofExpiry, Work.initialExpiry, expiryRead, secondRead]
  by_cases none : given.second = 0
  · simp only [if_pos none, renewer]
    rfl
  · simp only [if_neg none, renewer]
    rfl

theorem token_told (caller : Caller) (id : TokenId) (now : Timestamp) (value : (token .third).Val) (order : CreateOrder)
    (fits : ∀ key ∈ keysOf .third value, KeyFits key) (tells : TokenTells setting .third value order) :
    ofToken (Work.created (order.creation caller) id now) = tokenRead caller.key now value := by
  obtain ⟨(name : String), (symbol : String), (treasury : Address), (memo : String), (finite : Bool),
    (maxSupply : Int64), (freezeDefault : Bool), (keys : List tokenKey.Val), (expiry : (Struct.expiry .third).Val),
    ⟨⟩⟩ := value
  obtain ⟨rfl, rfl, named, rfl, supply, cap, rfl, keyed, expires⟩ := tells
  have keys := keys_told setting plain caller keys order.keys fits keyed
  have expiry := expiry_told setting plain now expiry order.expiry expires
  cases (Int64.toInt_inj.mp cap)
  have finite : (order.supplyType == .finite) = finite := by
    rw [supply]
    cases finite <;> rfl
  simp only [ofToken, Work.created, CreateOrder.creation, tokenRead, keys, expiry, finite,
    name_told setting plain treasury order.treasury named]
  rfl

theorem keyless_told (caller : Caller) (slot : KeySlot) (values : List tokenKey.Val) (arguments : List KeyArgument)
    (fits : ∀ value ∈ values, KeyFits value) (tells : List.Forall₂ (KeyArgumentTells setting) values arguments) :
    ((tokenKeys caller arguments).get slot).isNone = (slotRead caller.key values slot).isNone := by
  rw [← slot_told setting plain caller slot values arguments fits tells, Option.isNone_map]

end Struct

namespace TokenOrder

variable (setting : CallSetting) (plain : setting.resolve = id)

include plain

theorem info_told (caller : Caller) (id : TokenId) (now : Timestamp) (ledgerId : String) (ordered : TokenOrder)
    (order : CreateOrder) (fits : ∀ key ∈ Struct.keysOf .third ordered.token, Struct.KeyFits key)
    (tells : Struct.TokenTells setting .third ordered.token order) (supply : order.initialSupply = ordered.supply)
    (fixed : Struct.fixedFees order.customFees = ordered.fixed.map Struct.fixedFeeRead)
    (fractional : Struct.fractionalFees order.customFees = ordered.fractional)
    (royalty : Struct.royaltyFees order.customFees = ordered.royalty.map Struct.royaltyFeeRead) :
    Struct.ofTokenInfo ledgerId (Work.created (order.creation caller) id now) =
      ordered.info caller.key now ledgerId := by
  have token := Struct.token_told setting plain caller id now ordered.token order fits tells
  have keyed : List.Forall₂ (Struct.KeyArgumentTells setting) (Struct.keysOf .third ordered.token) order.keys :=
    tells.2.2.2.2.2.2.2.1
  have kyc := Struct.keyless_told setting plain caller .kyc _ order.keys fits keyed
  have row : (Work.created (order.creation caller) id now).customFees = order.customFees := rfl
  rw [Struct.ofTokenInfo, info, token, row, fixed, fractional, royalty, ← kyc, ← supply]
  rfl

theorem operation_told (request : ServiceRequest) (ordered : TokenOrder) (orders : request.order? = some ordered)
    (operation : Operation) (meant : request.function.operation setting request.values = .ok operation) :
    ∃ order, operation = .create order .third ∧ ∀ caller id now ledgerId,
      Struct.ofTokenInfo ledgerId (Work.created (order.creation caller) id now) =
        ordered.info caller.key now ledgerId := by
  obtain ⟨fits, tells⟩ :=
    (request.function.operation_ok_iff setting (fun address => by rw [plain]; rfl) request.values operation).mp meant
  obtain ⟨function, values⟩ := request
  cases function with
  | createFungible generation =>
      cases generation with
      | third =>
          obtain ⟨token, supply, decimals, ⟨⟩⟩ := values
          cases orders
          obtain ⟨order, told, _, supplied, _, charged, rfl⟩ := tells
          refine ⟨order, rfl, fun caller id now ledgerId => ?_⟩
          exact info_told setting plain caller id now ledgerId _ order fits told
            (Int64.toInt_inj.mp supplied) (by rw [charged]; rfl) (by rw [charged]; rfl) (by rw [charged]; rfl)
      | first => cases orders
      | second => cases orders
  | createFungibleWithFees generation =>
      cases generation with
      | third =>
          obtain ⟨token, supply, decimals, fixed, fractional, ⟨⟩⟩ := values
          cases orders
          obtain ⟨order, told, _, supplied, _, ⟨front, back, plainly, shares, charged⟩, rfl⟩ := tells
          obtain ⟨fixed, fractional, royalty⟩ := Struct.fees_append front back
          obtain ⟨first, second, third⟩ := Struct.fixed_fees_told setting plain _ front plainly
          obtain ⟨also, next, last⟩ := Struct.fractional_fees_told setting plain _ back shares
          refine ⟨order, rfl, fun caller id now ledgerId => ?_⟩
          exact info_told setting plain caller id now ledgerId _ order fits told
            (Int64.toInt_inj.mp supplied) (by rw [charged, fixed, first, also, List.append_nil])
            (by rw [charged, fractional, second, next]; rfl) (by rw [charged, royalty, third, last]; rfl)
      | first => cases orders
      | second => cases orders
  | createNonFungible generation =>
      cases generation with
      | third =>
          obtain ⟨token, ⟨⟩⟩ := values
          cases orders
          obtain ⟨order, told, _, supplied, _, charged, rfl⟩ := tells
          refine ⟨order, rfl, fun caller id now ledgerId => ?_⟩
          exact info_told setting plain caller id now ledgerId _ order fits told supplied
            (by rw [charged]; rfl) (by rw [charged]; rfl) (by rw [charged]; rfl)
      | first => cases orders
      | second => cases orders
  | createNonFungibleWithFees generation =>
      cases generation with
      | third =>
          obtain ⟨token, fixed, royalty, ⟨⟩⟩ := values
          cases orders
          obtain ⟨order, told, _, supplied, _, ⟨front, back, plainly, shares, charged⟩, rfl⟩ := tells
          obtain ⟨fixed, fractional, royalty⟩ := Struct.fees_append front back
          obtain ⟨first, second, third⟩ := Struct.fixed_fees_told setting plain _ front plainly
          obtain ⟨also, next, last⟩ := Struct.royalty_fees_told setting plain _ back shares
          refine ⟨order, rfl, fun caller id now ledgerId => ?_⟩
          exact info_told setting plain caller id now ledgerId _ order fits told supplied
            (by rw [charged, fixed, first, also, List.append_nil])
            (by rw [charged, fractional, second, next, List.nil_append])
            (by rw [charged, royalty, third, last, List.nil_append])
      | first => cases orders
      | second => cases orders
  | _ => cases orders

end TokenOrder

end TokenService
