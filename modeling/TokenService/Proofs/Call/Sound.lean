import TokenService.Proofs.Call.Meaning
import TokenService.Proofs.Call.Switches

set_option autoImplicit false

namespace TokenService

open Abi

def Natural (largest number : Int) : Prop := 0 ≤ number ∧ number ≤ largest

instance (largest number : Int) : Decidable (Natural largest number) :=
  inferInstanceAs (Decidable (0 ≤ number ∧ number ≤ largest))

namespace Asset

def number : Asset → Int64
  | .amount units => units
  | .serial item => item

end Asset

namespace KeyChoice

def Sized : KeyChoice → Prop
  | .ed25519 bytes => bytes.length = 32
  | .secp256k1 bytes => bytes.length = 33
  | _ => True

end KeyChoice

namespace TokenMoves

def Exchanges (moves : TokenMoves) : Prop :=
  moves.nftMoves = [] ∧ ∃ debit credit, moves.adjustments = [debit, credit] ∧ debit.amount.toInt = -credit.amount.toInt

end TokenMoves

namespace Operation

def keyArguments : Operation → List KeyArgument
  | .create order _ => order.keys
  | .updateInfo order _ => order.keys
  | .updateKeys _ keys => keys
  | _ => []

-- What comes as an unsigned word is no native number below zero.
def Counts : Operation → Prop
  | .mint order .first => Natural Int64.maxValue.toInt order.amount.toInt
  | .burn order .first => Natural Int64.maxValue.toInt order.amount.toInt
  | .wipe order .first => Natural Int64.maxValue.toInt order.amount.toInt
  | .create order generation =>
      generation ≠ .third →
        Natural Int64.maxValue.toInt order.initialSupply.toInt ∧ Natural Int32.maxValue.toInt order.decimals.toInt
  | .transferAsset _ _ _ asset => Natural Int64.maxValue.toInt asset.number.toInt
  | .approve _ _ asset => Natural Int64.maxValue.toInt asset.number.toInt
  | .query (.getApproved id) => Natural Int64.maxValue.toInt id.serial.toInt
  | .query (.ownerOf id) => Natural Int64.maxValue.toInt id.serial.toInt
  | .query (.tokenUri id) => Natural Int64.maxValue.toInt id.serial.toInt
  | _ => True

def Plain : Operation → Prop
  | .transfer .atomicTransfer _ _ => True
  | .transfer _ hbar tokens => hbar = [] ∧ ∀ moves ∈ tokens, moves.flagged = false
  | _ => True

structure Sound (operation : Operation) : Prop where
  counts : operation.Counts
  sized : ∀ argument ∈ operation.keyArguments, argument.choice.Sized
  plain : operation.Plain
  exchanges : ∀ hbar tokens, operation = .transfer .transferToken hbar tokens →
    ∃ moves, tokens = [moves] ∧ moves.Exchanges
  bare : ∀ order generation, operation = .create order generation → order.type = .nonFungible →
    order.initialSupply = 0 ∧ order.decimals = 0

end Operation

-- How an operation follows the arguments in the bytes of its call: its keys are those that are written there, each of
-- one kind at most, and lists that stand beside each other there are told entry by entry.
structure ResolvedCall.Follows (call : ResolvedCall) (setting : CallSetting) (input : Bytes) : Prop where
  keys : ∀ function values, call.convention = .direct → ServiceFunction.ofSelector? call.selector = some function →
    decode function.params (input.drop 4) = .ok values →
    (∀ key ∈ function.keys values, Struct.KeyFits key) ∧
      List.Forall₂ (Struct.KeyArgumentTells setting) (function.keys values) call.operation.keyArguments
  amounts : ∀ hbar tokens, call.operation = .transfer .transferTokens hbar tokens →
    ∃ token accounts amounts adjustments,
      decode ServiceFunction.transferTokens.params (input.drop 4) = .ok (token, accounts, amounts, ()) ∧
        tokens = [⟨setting.entity token, adjustments, []⟩] ∧
        List.Forall₂ (fun account entry => setting.Names account (Adjustment.account entry)) accounts adjustments ∧
        List.Forall₂ (fun amount entry => Adjustment.amount entry = amount) amounts adjustments
  serials : ∀ hbar tokens, call.operation = .transfer .transferNfts hbar tokens →
    ∃ token senders receivers serials moves,
      decode ServiceFunction.transferNfts.params (input.drop 4) = .ok (token, senders, receivers, serials, ()) ∧
        tokens = [⟨setting.entity token, [], moves⟩] ∧
        List.Forall₂ (fun sender move => setting.Names sender (NftMove.sender move)) senders moves ∧
        List.Forall₂ (fun receiver move => setting.Names receiver (NftMove.receiver move)) receivers moves ∧
        List.Forall₂ (fun serial move => NftMove.serial move = serial) serials moves

section Numbers

theorem natural_of_nat (value : Int64) (number : Nat) (same : value.toInt = number) :
    Natural Int64.maxValue.toInt value.toInt :=
  ⟨same ▸ Int.natCast_nonneg number, Int64.toInt_le value⟩

theorem native_natural (argument : WideArgument) (number : Nat) (value : Int64)
    (native : native64 argument number = .ok value) : Natural Int64.maxValue.toInt value.toInt :=
  natural_of_nat value number ((native64_ok_iff argument number value).mp native)

theorem native_natural32 (argument : WideArgument) (number : Nat) (value : Int32)
    (native : native32 argument number = .ok value) : Natural Int32.maxValue.toInt value.toInt := by
  have same := (native32_ok_iff argument number value).mp native
  exact ⟨same ▸ Int.natCast_nonneg number, Int32.toInt_le value⟩

namespace Generation

variable (generation : Generation) (unsigned : generation ≠ .third)

include unsigned

theorem supply_natural (value : generation.supplyAtom.Val) (supply : Int64)
    (given : generation.supply value = .ok supply) : Natural Int64.maxValue.toInt supply.toInt := by
  cases generation with
  | first => exact native_natural _ _ _ given
  | second => exact native_natural _ _ _ given
  | third => exact absurd rfl unsigned

theorem decimals_natural (value : generation.decimalsAtom.Val) (decimals : Int32)
    (given : generation.decimals value = .ok decimals) : Natural Int32.maxValue.toInt decimals.toInt := by
  cases generation with
  | first => exact native_natural32 _ _ _ given
  | second => exact native_natural32 _ _ _ given
  | third => exact absurd rfl unsigned

end Generation

end Numbers

section Keys

variable (setting : CallSetting)

theorem told_sized (value : Struct.tokenKey.Val) (argument : KeyArgument) (fits : Struct.KeyFits value)
    (tells : Struct.KeyArgumentTells setting value argument) : argument.choice.Sized := by
  obtain ⟨mask, ⟨inherit, contract, ed25519, secp256k1, delegatable, ⟨⟩⟩, ⟨⟩⟩ := value
  obtain ⟨number, choice⟩ := argument
  obtain ⟨_, sound⟩ := fits
  obtain ⟨_, told⟩ := tells
  cases choice with
  | ed25519 bytes =>
      obtain ⟨present, rfl⟩ := told
      exact sound.ed25519.resolve_left fun empty => present (List.length_eq_zero_iff.mp empty)
  | secp256k1 bytes =>
      obtain ⟨present, rfl⟩ := told
      exact sound.secp256k1.resolve_left fun empty => present (List.length_eq_zero_iff.mp empty)
  | inherit | contract | delegatable | unset => trivial

theorem all_sized (values : List Struct.tokenKey.Val) (arguments : List KeyArgument)
    (fits : ∀ value ∈ values, Struct.KeyFits value)
    (tells : List.Forall₂ (Struct.KeyArgumentTells setting) values arguments) :
    ∀ argument ∈ arguments, argument.choice.Sized := by
  induction tells with
  | nil => exact List.forall_mem_nil _
  | cons told _ ih =>
      obtain ⟨fit, fits⟩ := List.forall_mem_cons.mp fits
      exact List.forall_mem_cons.mpr ⟨told_sized setting _ _ fit told, ih fits⟩

theorem create_keys (generation : Generation) (type : TokenType) (supply : Int64) (decimals : Int32)
    (fees : List CustomFee) (value : (Struct.token generation).Val) (order : CreateOrder)
    (given : Struct.toCreateOrder setting generation type supply decimals fees value = .ok order) :
    (∀ key ∈ Struct.keysOf generation value, Struct.KeyFits key) ∧
      List.Forall₂ (Struct.KeyArgumentTells setting) (Struct.keysOf generation value) order.keys := by
  obtain ⟨fits, tells, _⟩ :=
    (Struct.create_order_ok_iff setting generation type supply decimals fees value order).mp given
  obtain ⟨name, symbol, treasury, memo, finite, maxSupply, freezeDefault, keys, expiry, ⟨⟩⟩ := value
  obtain ⟨_, _, _, _, _, _, _, told, _⟩ := tells
  exact ⟨fits, told⟩

theorem info_keys (generation : Generation) (target : Address) (value : (Struct.token generation).Val)
    (order : InfoOrder) (given : Struct.toInfoOrder setting generation target value = .ok order) :
    (∀ key ∈ Struct.keysOf generation value, Struct.KeyFits key) ∧
      List.Forall₂ (Struct.KeyArgumentTells setting) (Struct.keysOf generation value) order.keys := by
  obtain ⟨name, symbol, treasury, memo, finite, maxSupply, freezeDefault, keys, expiry, ⟨⟩⟩ := value
  obtain ⟨arguments, read, same⟩ := (except_bind_ok _ _ _).mp given
  cases same
  exact (Struct.keys_ok_iff setting _ _).mp read

theorem keyless_operation (operation : Operation) (creates : operation.kind ≠ .create)
    (informs : operation.kind ≠ .updateInfo) (rekeys : operation.kind ≠ .updateKeys) :
    operation.keyArguments = [] := by
  cases operation with
  | create order generation => exact absurd rfl creates
  | updateInfo order generation => exact absurd rfl informs
  | updateKeys token keys => exact absurd rfl rekeys
  | _ => rfl

theorem service_keys (function : ServiceFunction) (values : Ty.Vals function.params) (operation : Operation)
    (given : function.operation setting values = .ok operation) :
    (∀ key ∈ function.keys values, Struct.KeyFits key) ∧
      List.Forall₂ (Struct.KeyArgumentTells setting) (function.keys values) operation.keyArguments := by
  have kind := function.operation_kind setting values operation given
  cases function with
  | createFungible generation =>
      obtain ⟨supply, _, given⟩ := (except_bind_ok _ _ _).mp given
      obtain ⟨decimals, _, given⟩ := (except_bind_ok _ _ _).mp given
      obtain ⟨order, made, same⟩ := (except_bind_ok _ _ _).mp given
      cases same
      exact create_keys setting generation _ _ _ _ _ order made
  | createFungibleWithFees generation =>
      obtain ⟨supply, _, given⟩ := (except_bind_ok _ _ _).mp given
      obtain ⟨decimals, _, given⟩ := (except_bind_ok _ _ _).mp given
      obtain ⟨order, made, same⟩ := (except_bind_ok _ _ _).mp given
      cases same
      exact create_keys setting generation _ _ _ _ _ order made
  | createNonFungible generation =>
      obtain ⟨order, made, same⟩ := (except_bind_ok _ _ _).mp given
      cases same
      exact create_keys setting generation _ _ _ _ _ order made
  | createNonFungibleWithFees generation =>
      obtain ⟨order, made, same⟩ := (except_bind_ok _ _ _).mp given
      cases same
      exact create_keys setting generation _ _ _ _ _ order made
  | updateTokenInfo generation =>
      obtain ⟨order, made, same⟩ := (except_bind_ok _ _ _).mp given
      cases same
      exact info_keys setting generation _ _ order made
  | updateTokenKeys =>
      obtain ⟨arguments, read, same⟩ := (except_bind_ok _ _ _).mp given
      cases same
      exact (Struct.keys_ok_iff setting _ _).mp read
  | _ =>
      have bare := keyless_operation operation (kind ▸ nofun) (kind ▸ nofun) (kind ▸ nofun)
      rw [bare]
      exact ⟨List.forall_mem_nil _, .nil⟩

end Keys

section Transfers

namespace ServiceFunction

def entry? : ServiceFunction → Option TransferEntry
  | .cryptoTransfer => some .cryptoTransfer
  | .atomicTransfer => some .atomicTransfer
  | .transferTokens => some .transferTokens
  | .transferToken => some .transferToken
  | .transferNfts => some .transferNfts
  | .transferNft => some .transferNft
  | _ => none

end ServiceFunction

variable (setting : CallSetting)

theorem transfer_entry (function : ServiceFunction) (values : Ty.Vals function.params) (entry : TransferEntry)
    (hbar : List Adjustment) (tokens : List TokenMoves)
    (given : function.operation setting values = .ok (.transfer entry hbar tokens)) : function.entry? = some entry := by
  have kind : .transfer = function.kind := function.operation_kind setting values _ given
  cases function with
  | cryptoTransfer | atomicTransfer | transferNft =>
      cases given
      rfl
  | transferTokens =>
      obtain ⟨_, _, same⟩ := (except_bind_ok _ _ _).mp given
      cases same
      rfl
  | transferToken =>
      obtain ⟨token, sender, receiver, amount, ⟨⟩⟩ := values
      obtain ⟨_, _, _, _, _, _, _, _, same⟩ :=
        (ServiceFunction.units_sent_iff setting _ token sender receiver amount).mp given
      cases same
      rfl
  | transferNfts =>
      obtain ⟨_, _, given⟩ := (except_bind_ok _ _ _).mp given
      obtain ⟨_, _, same⟩ := (except_bind_ok _ _ _).mp given
      cases same
      rfl
  | _ => cases kind

theorem amounts_entered (function : ServiceFunction) (entered : function.entry? = some .transferTokens) :
    function = .transferTokens := by
  cases function with
  | transferTokens => rfl
  | _ => cases entered

theorem serials_entered (function : ServiceFunction) (entered : function.entry? = some .transferNfts) :
    function = .transferNfts := by
  cases function with
  | transferNfts => rfl
  | _ => cases entered

theorem payment_entered (function : ServiceFunction) (entered : function.entry? = some .transferToken) :
    function = .transferToken := by
  cases function with
  | transferToken => rfl
  | _ => cases entered

theorem plain_transfer (selector : Selector) (entry : TransferEntry) (hbar : List Adjustment)
    (tokens : List TokenMoves) (convention : Convention)
    (free : ResolvedCall.family? ⟨selector, .transfer entry hbar tokens, convention⟩ = none) :
    hbar = [] ∧ ∀ moves ∈ tokens, moves.flagged = false := by
  have apart : ¬ (entry = .atomicTransfer ∨ hbar ≠ [] ∨ tokens.any TokenMoves.flagged = true) := fun belongs => by
    rw [show ResolvedCall.family? ⟨selector, .transfer entry hbar tokens, convention⟩ = some .atomicTransfer
      from if_pos belongs] at free
    cases free
  simp only [not_or, ne_eq, not_not, List.any_eq_true, not_exists, not_and, Bool.not_eq_true] at apart
  exact ⟨apart.2.1, apart.2.2⟩

theorem service_plain (function : ServiceFunction) (values : Ty.Vals function.params) (operation : Operation)
    (given : function.operation setting values = .ok operation) : operation.Plain := by
  cases operation with
  | transfer entry hbar tokens =>
      have entered := transfer_entry setting function values entry hbar tokens given
      have family := service_family setting function values function.selector _ given
      have plain (free : function.family? = none) := plain_transfer _ entry hbar tokens _ (family.trans free)
      cases function with
      | atomicTransfer =>
          cases entered
          trivial
      | cryptoTransfer | transferTokens | transferToken | transferNfts | transferNft =>
          cases entered
          exact plain rfl
      | _ => cases entered
  | _ => trivial

theorem payment_exchanges (values : Ty.Vals ServiceFunction.transferToken.params) (hbar : List Adjustment)
    (tokens : List TokenMoves)
    (given : ServiceFunction.operation setting .transferToken values = .ok (.transfer .transferToken hbar tokens)) :
    ∃ moves, tokens = [moves] ∧ moves.Exchanges := by
  obtain ⟨token, sender, receiver, amount, ⟨⟩⟩ := values
  obtain ⟨t, s, r, debit, _, _, _, opposite, same⟩ :=
    (ServiceFunction.units_sent_iff setting _ token sender receiver amount).mp given
  cases same
  exact ⟨_, rfl, rfl, _, _, rfl, opposite⟩

end Transfers

section Sound

variable (setting : CallSetting)

theorem created_sound (function : ServiceFunction) (values : Ty.Vals function.params) (order : CreateOrder)
    (generation : Generation) (given : function.operation setting values = .ok (.create order generation)) :
    (Operation.create order generation).Counts ∧
      (order.type = .nonFungible → order.initialSupply = 0 ∧ order.decimals = 0) := by
  have kind : .create = function.kind := function.operation_kind setting values _ given
  cases function with
  | createFungible version | createFungibleWithFees version =>
      obtain ⟨supply, supplied, given⟩ := (except_bind_ok _ _ _).mp given
      obtain ⟨decimals, divided, given⟩ := (except_bind_ok _ _ _).mp given
      obtain ⟨made, ordered, same⟩ := (except_bind_ok _ _ _).mp given
      cases same
      obtain ⟨_, _, fungible, rfl, rfl, _⟩ := (Struct.create_order_ok_iff setting generation _ _ _ _ _ order).mp ordered
      refine ⟨fun unsigned => ⟨?_, ?_⟩, fun serial => ?_⟩
      · exact generation.supply_natural unsigned _ _ supplied
      · exact generation.decimals_natural unsigned _ _ divided
      · rw [fungible] at serial
        cases serial
  | createNonFungible version | createNonFungibleWithFees version =>
      obtain ⟨made, ordered, same⟩ := (except_bind_ok _ _ _).mp given
      cases same
      obtain ⟨_, _, _, none, whole, _⟩ := (Struct.create_order_ok_iff setting generation _ _ _ _ _ order).mp ordered
      refine ⟨fun _ => ?_, fun _ => ⟨none, whole⟩⟩
      rw [none, whole]
      exact ⟨by decide, by decide⟩
  | _ => cases kind

theorem service_counts (function : ServiceFunction) (values : Ty.Vals function.params) (operation : Operation)
    (given : function.operation setting values = .ok operation) : operation.Counts := by
  have kind := function.operation_kind setting values operation given
  cases function with
  | createFungible | createFungibleWithFees | createNonFungible | createNonFungibleWithFees =>
      obtain ⟨order, generation, rfl⟩ := operation.kind_create kind
      exact (created_sound setting _ values order generation given).1
  | mintToken signedness | burnToken signedness =>
      cases signedness with
      | unsigned =>
          obtain ⟨amount, native, same⟩ := (except_bind_ok _ _ _).mp given
          cases same
          exact native_natural _ _ _ native
      | signed =>
          cases given
          trivial
  | wipeTokenAccount signedness =>
      cases signedness with
      | unsigned =>
          cases given
          exact natural_of_nat _ _ (Generation.widened_number _)
      | signed =>
          cases given
          trivial
  | wipeTokenAccountNft =>
      cases given
      have none : Natural Int64.maxValue.toInt (0 : Int64).toInt := by decide
      exact none
  | transferFrom | transferFromNft | approve | approveNft | getApproved =>
      obtain ⟨number, native, same⟩ := (except_bind_ok _ _ _).mp given
      cases same
      exact native_natural _ _ _ native
  | getTokenKey =>
      obtain ⟨token, mask, ⟨⟩⟩ := values
      obtain ⟨_, _, _, _, same⟩ := (ServiceFunction.key_asked_iff setting operation token mask).mp given
      cases same
      trivial
  | isApprovedForAll | allowance | getTokenInfo | getFungibleTokenInfo | getNonFungibleTokenInfo
  | getTokenCustomFees | getTokenExpiryInfo | isToken | getTokenType =>
      cases given
      trivial
  | _ =>
      cases operation with
      | mint | burn | wipe | create | transferAsset | approve | query => cases kind
      | _ => trivial

theorem service_sound (function : ServiceFunction) (values : Ty.Vals function.params) (operation : Operation)
    (given : function.operation setting values = .ok operation) : operation.Sound where
  counts := service_counts setting function values operation given
  sized := by
    obtain ⟨fits, told⟩ := service_keys setting function values operation given
    exact all_sized setting _ _ fits told
  plain := service_plain setting function values operation given
  exchanges := by
    rintro hbar tokens rfl
    cases payment_entered function (transfer_entry setting function values _ hbar tokens given)
    exact payment_exchanges setting values hbar tokens given
  bare := by
    rintro order generation rfl
    exact (created_sound setting function values order generation given).2

theorem asset_natural (type : Option TokenType) (number : Word) (asset : Asset)
    (given : FacadeFunction.asset type number = .ok asset) : Natural Int64.maxValue.toInt asset.number.toInt := by
  rcases type with _ | _ | _
  · cases given
  · obtain ⟨units, rfl, same⟩ := native64_mapped _ _ _ _ given
    exact natural_of_nat _ _ same
  · obtain ⟨serial, rfl, same⟩ := native64_mapped _ _ _ _ given
    exact natural_of_nat _ _ same

theorem facade_counts (token : TokenId) (type : Option TokenType) (function : FacadeFunction)
    (values : Ty.Vals function.params) (operation : Operation)
    (given : function.operation setting token type values = .ok operation) : operation.Counts := by
  cases function with
  | transfer =>
      obtain ⟨amount, native, same⟩ := (except_bind_ok _ _ _).mp given
      cases same
      exact native_natural _ _ _ ((map_error_ok_iff _ _ _).mp native)
  | transferFrom | approve =>
      obtain ⟨asset, found, same⟩ := (except_bind_ok _ _ _).mp given
      cases same
      exact asset_natural type _ asset found
  | ownerOf | tokenUri | getApproved =>
      obtain ⟨id, found, same⟩ := (except_bind_ok _ _ _).mp given
      cases same
      obtain ⟨serial, rfl, native⟩ := native64_mapped _ _ _ _ found
      exact natural_of_nat _ _ native
  | _ =>
      cases given
      trivial

theorem facade_sound (token : TokenId) (type : Option TokenType) (function : FacadeFunction)
    (values : Ty.Vals function.params) (operation : Operation)
    (given : function.operation setting token type values = .ok operation) : operation.Sound := by
  have counts := facade_counts setting token type function values operation given
  have kind := function.operation_kind setting token type values operation given
  have apart (other : OperationKind) (none : ∀ function : FacadeFunction, function.kind ≠ other) :
      operation.kind ≠ other := kind ▸ none function
  have moves := apart .transfer (by rintro ⟨⟩ <;> nofun)
  have creates := apart .create (by rintro ⟨⟩ <;> nofun)
  have informs := apart .updateInfo (by rintro ⟨⟩ <;> nofun)
  have rekeys := apart .updateKeys (by rintro ⟨⟩ <;> nofun)
  refine ⟨counts, ?_, ?_, ?_, ?_⟩
  · rw [keyless_operation operation creates informs rekeys]
    exact List.forall_mem_nil _
  · cases operation with
    | transfer => exact absurd rfl moves
    | _ => trivial
  · rintro hbar tokens rfl
    exact absurd rfl moves
  · rintro order generation rfl
    exact absurd rfl creates

end Sound

section Follows

variable (setting : CallSetting) (input : Bytes)

theorem service_follows (selector : Selector) (function : ServiceFunction) (values : Ty.Vals function.params)
    (operation : Operation) (known : ServiceFunction.ofSelector? selector = some function)
    (read : decode function.params (input.drop 4) = .ok values)
    (given : function.operation setting values = .ok operation) :
    ResolvedCall.Follows ⟨selector, operation, .direct⟩ setting input where
  keys := by
    intro other others _ also reads
    cases known.symm.trans also
    cases read.symm.trans reads
    exact service_keys setting function values operation given
  amounts := by
    rintro hbar tokens rfl
    cases amounts_entered function (transfer_entry setting function values _ hbar tokens given)
    obtain ⟨token, accounts, amounts, ⟨⟩⟩ := values
    obtain ⟨t, adjustments, named, told, paired, same⟩ :=
      (ServiceFunction.units_moved_iff setting _ token accounts amounts).mp given
    cases same
    obtain rfl := (setting.names_iff token t).mp named
    exact ⟨token, accounts, amounts, adjustments, read, rfl, told, paired.imp fun _ _ tells => tells.1⟩
  serials := by
    rintro hbar tokens rfl
    cases serials_entered function (transfer_entry setting function values _ hbar tokens given)
    obtain ⟨token, senders, receivers, serials, ⟨⟩⟩ := values
    obtain ⟨t, moves, named, sent, received, paired, same⟩ :=
      (ServiceFunction.nfts_moved_iff setting _ token senders receivers serials).mp given
    cases same
    obtain rfl := (setting.names_iff token t).mp named
    exact ⟨token, senders, receivers, serials, moves, read, rfl, sent, received, paired.imp fun _ _ tells => tells.1⟩

theorem facade_follows (selector : Selector) (token : TokenId) (type : Option TokenType) (function : FacadeFunction)
    (values : Ty.Vals function.params) (operation : Operation) (explicit : Bool)
    (given : function.operation setting token type values = .ok operation) :
    ResolvedCall.Follows ⟨selector, operation, .redirect token explicit⟩ setting input := by
  have kind := function.operation_kind setting token type values operation given
  refine ⟨fun _ _ direct => (nomatch direct), ?_, ?_⟩
  · rintro hbar tokens rfl
    cases function <;> cases kind
  · rintro hbar tokens rfl
    cases function <;> cases kind

end Follows

/-- Whatever bytes a call is read from, its operation is sound: what was unsigned is natural, key bytes have the
length of their kind, only the atomic transfer moves hbar or draws on approvals, a payment takes what it gives, and
serials are created from nothing. And it follows its arguments, key by key and entry by entry. -/
theorem resolved_calls_sound (setting : CallSetting) (input : Bytes) (call : ResolvedCall)
    (dispatched : dispatch setting input = .ok (some call)) :
    call.operation.Sound ∧ call.Follows setting input := by
  cases dispatch_routes setting input call dispatched with
  | service selector function values operation bare named known enabled read given =>
      exact ⟨service_sound setting function values operation given,
        service_follows setting input selector function values operation known read given⟩
  | facade redirect selector function values operation wrapped named known enabled fits read given =>
      exact ⟨facade_sound setting _ _ function values operation given,
        facade_follows setting input selector _ _ function values operation redirect.explicit given⟩

namespace Sample

def sharing : Bytes :=
  ServiceFunction.transferTokens.selector.toBytes ++
    encode ServiceFunction.transferTokens.params
      (coin.toAddress, [holder.toAddress, friend.toAddress, (7 : Address)], ([-25, 15, 10] : List Int64), ())

end Sample

theorem sharing_in_step : ∃ call token accounts amounts adjustments,
    dispatch Sample.plain Sample.sharing = .ok (some call) ∧ call.operation.Sound ∧
      decode ServiceFunction.transferTokens.params (Sample.sharing.drop 4) = .ok (token, accounts, amounts, ()) ∧
      call.operation = .transfer .transferTokens [] [⟨Sample.plain.entity token, adjustments, []⟩] ∧
      adjustments.map Adjustment.amount = [-25, 15, 10] ∧
      List.Forall₂ (fun account entry => Sample.plain.Names account (Adjustment.account entry)) accounts adjustments ∧
      List.Forall₂ (fun amount entry => Adjustment.amount entry = amount) amounts adjustments := by
  have read : dispatch Sample.plain Sample.sharing =
      .ok (some ⟨ServiceFunction.transferTokens.selector,
        .transfer .transferTokens []
          [⟨Sample.coin, [⟨Sample.holder, -25, false⟩, ⟨Sample.friend, 15, false⟩, ⟨.ofNum 7, 10, false⟩], []⟩],
        .direct⟩) := by
    decide +kernel
  obtain ⟨sound, follows⟩ := resolved_calls_sound Sample.plain Sample.sharing _ read
  obtain ⟨token, accounts, amounts, adjustments, decoded, same, named, paired⟩ := follows.amounts _ _ rfl
  refine ⟨_, token, accounts, amounts, adjustments, read, sound, decoded,
    congrArg (Operation.transfer .transferTokens []) same, ?_, named, paired⟩
  obtain ⟨_, told, _⟩ := TokenMoves.mk.inj (List.cons.inj same).1
  rw [← told]
  rfl

end TokenService
