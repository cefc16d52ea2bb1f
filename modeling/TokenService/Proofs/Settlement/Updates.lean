import TokenService.Proofs.Call.Orders
import TokenService.Proofs.Facade.Counterparts
import TokenService.Proofs.Settlement.Success

set_option autoImplicit false

namespace TokenService

open Abi

inductive UpdateFunction where
  | tokenInfo (generation : Generation)
  | tokenKeys
  | tokenExpiry (signedness : Signedness)

-- What an update names of its target; of most it may name nothing.
structure Amendment where
  target : Address
  name : String := ""
  symbol : String := ""
  memo : String := ""
  treasury : Address := 0
  keys : List Struct.tokenKey.Val := []
  second : Int := 0
  renewer : Address := 0
  period : Int := 0

def Amendment.ofExpiry (generation : Generation) (target : Address) : (Struct.expiry generation).Val → Amendment
  | (second, renewer, period, ()) =>
      { target, renewer
        second := generation.timeAtom.number second
        period := generation.timeAtom.number period }

namespace UpdateFunction

def service : UpdateFunction → ServiceFunction
  | .tokenInfo generation => .updateTokenInfo generation
  | .tokenKeys => .updateTokenKeys
  | .tokenExpiry signedness => .updateTokenExpiryInfo signedness

-- The supply type, the cap and the freeze default of a token structure name nothing here.
def amendment : (function : UpdateFunction) → Ty.Vals function.service.params → Amendment
  | .tokenInfo generation,
      (target, (name, symbol, treasury, memo, _, _, _, keys, (second, renewer, period, ()), ()), ()) =>
      { target, name, symbol, memo, treasury, keys, renewer
        second := generation.timeAtom.number second
        period := generation.timeAtom.number period }
  | .tokenKeys, (target, keys, ()) => { target, keys }
  | .tokenExpiry .unsigned, (target, expiry, ()) => .ofExpiry .first target expiry
  | .tokenExpiry .signed, (target, expiry, ()) => .ofExpiry .third target expiry

end UpdateFunction

namespace Amendment

variable (setting : CallSetting) (caller : Caller) (amendment : Amendment)

structure Asks (order : Update) : Prop where
  token : order.token = setting.entity amendment.target
  name : order.name = nonEmpty amendment.name
  symbol : order.symbol = nonEmpty amendment.symbol
  memo : order.memo = nonEmpty amendment.memo
  treasury : order.treasury = setting.entity? amendment.treasury
  keys : ∃ arguments, List.Forall₂ (Struct.KeyArgumentTells setting) amendment.keys arguments ∧
    order.keys = tokenKeys caller arguments
  second : ∃ second : Int64, second.toInt = amendment.second ∧ order.expirySecond = nonZero second
  renewer : order.autoRenewAccount = setting.entity? amendment.renewer
  period : ∃ period : Int64, period.toInt = amendment.period ∧ order.autoRenewPeriod = nonZero period

-- What becomes of the row of the token. The last key argument that comes to a key in a slot counts there.
structure Turns (before after : Token) : Prop where
  name : after.name = if amendment.name.isEmpty then before.name else amendment.name
  symbol : after.symbol = if amendment.symbol.isEmpty then before.symbol else amendment.symbol
  memo : after.memo = if amendment.memo.isEmpty then before.memo else amendment.memo
  treasury : after.treasury =
    if amendment.treasury = 0 then before.treasury else setting.entity amendment.treasury
  keys : ∃ arguments, List.Forall₂ (Struct.KeyArgumentTells setting) amendment.keys arguments ∧
    ∀ slot, after.keys.get slot =
      (arguments.reverse.findSome? (KeyArgument.at? caller slot)).or (before.keys.get slot)
  filled : ∀ slot, (before.keys.get slot).isSome → (after.keys.get slot).isSome
  second : after.expiry.second.toInt =
    if amendment.second = 0 then before.expiry.second.toInt else amendment.second
  renewer : after.expiry.autoRenewAccount =
    if amendment.renewer = 0 then before.expiry.autoRenewAccount else some (setting.entity amendment.renewer)
  period : after.expiry.autoRenewPeriod.toInt =
    if amendment.period = 0 then before.expiry.autoRenewPeriod.toInt else amendment.period
  untouched : after =
    { before with
      name := after.name, symbol := after.symbol, memo := after.memo, treasury := after.treasury, keys := after.keys
      expiry := after.expiry }

end Amendment

-- Only a new treasury of a fungible token has a part in the relationships: it takes over all that the old one holds.
inductive Rehomed (before after : Token) (relationships : Table Holding Relationship) :
    Table Holding Relationship → Prop
  | stay (kept : before.type = .nonFungible ∨ after.treasury = before.treasury) :
      Rehomed before after relationships relationships
  | move (outgoing incoming : Relationship) (balance : Int64)
      (fungible : before.type = .fungible)
      (apart : after.treasury ≠ before.treasury)
      (left : relationships.get? ⟨before.treasury, before.id⟩ = some outgoing)
      (met : relationships.get? ⟨after.treasury, before.id⟩ = some incoming)
      (whole : balance.toInt = incoming.balance.toInt + outgoing.balance.toInt) :
      Rehomed before after relationships
        ((relationships.insert ⟨before.treasury, before.id⟩ { outgoing with balance := 0 }).insert
          ⟨after.treasury, before.id⟩ { incoming with balance := balance })

section Asked

variable (setting : CallSetting) (caller : Caller)

theorem info_asked (zero : ∀ address, setting.resolve address = 0 ↔ address = 0) (generation : Generation)
    (target : Address) (value : (Struct.token generation).Val) (order : InfoOrder)
    (made : Struct.toInfoOrder setting generation target value = .ok order) :
    ((UpdateFunction.tokenInfo generation).amendment (target, value, ())).Asks setting caller
      (order.update caller) := by
  obtain ⟨name, symbol, treasury, memo, finite, cap, freezes, keys, ⟨second, renewer, period, ⟨⟩⟩, ⟨⟩⟩ := value
  obtain ⟨arguments, read, same⟩ := (except_bind_ok _ _ _).mp made
  cases same
  exact
    { token := rfl
      name := rfl
      symbol := rfl
      memo := rfl
      treasury := setting.resolved_entity treasury zero
      keys := ⟨arguments, ((Struct.keys_ok_iff setting _ _).mp read).2, rfl⟩
      second := ⟨_, generation.time_number second, rfl⟩
      renewer := rfl
      period := ⟨_, generation.time_number period, rfl⟩ }

theorem keys_asked (target : Address) (keys : List Struct.tokenKey.Val) (arguments : List KeyArgument)
    (read : List.mapM (Struct.toKeyArgument setting) keys = .ok arguments) :
    (UpdateFunction.tokenKeys.amendment (target, keys, ())).Asks setting caller
      { token := setting.entity target, keys := tokenKeys caller arguments } where
  token := rfl
  name := rfl
  symbol := rfl
  memo := rfl
  treasury := rfl
  keys := ⟨arguments, ((Struct.keys_ok_iff setting _ _).mp read).2, rfl⟩
  second := ⟨0, rfl, rfl⟩
  renewer := rfl
  period := ⟨0, rfl, rfl⟩

theorem expiry_asked (generation : Generation) (target : Address) (value : (Struct.expiry generation).Val) :
    (Amendment.ofExpiry generation target value).Asks setting caller
      (Update.withExpiry { token := setting.entity target } (Struct.toExpiry setting generation value)) := by
  obtain ⟨second, renewer, period, ⟨⟩⟩ := value
  exact
    { token := rfl
      name := rfl
      symbol := rfl
      memo := rfl
      treasury := rfl
      keys := ⟨[], .nil, rfl⟩
      second := ⟨_, generation.time_number second, rfl⟩
      renewer := rfl
      period := ⟨_, generation.time_number period, rfl⟩ }

theorem update_asked (zero : ∀ address, setting.resolve address = 0 ↔ address = 0) (function : UpdateFunction)
    (values : Ty.Vals function.service.params) (operation : Operation)
    (given : function.service.operation setting values = .ok operation) :
    ∃ order, operation.body caller = .update order ∧ (function.amendment values).Asks setting caller order := by
  cases function with
  | tokenInfo generation =>
      obtain ⟨order, made, same⟩ := (except_bind_ok _ _ _).mp given
      cases same
      exact ⟨_, rfl, info_asked setting caller zero generation _ _ order made⟩
  | tokenKeys =>
      obtain ⟨arguments, read, same⟩ := (except_bind_ok _ _ _).mp given
      cases same
      exact ⟨_, rfl, keys_asked setting caller _ _ arguments read⟩
  | tokenExpiry signedness =>
      cases signedness with
      | unsigned =>
          cases given
          exact ⟨_, rfl, expiry_asked setting caller .first _ _⟩
      | signed =>
          cases given
          exact ⟨_, rfl, expiry_asked setting caller .third _ _⟩

end Asked

section Turned

theorem text_turned (text before : String) :
    (nonEmpty text).getD before = if text.isEmpty then before else text := by
  unfold nonEmpty
  split <;> rfl

theorem number_turned (number : Int64) (before : Int64) (given : Int) (same : number.toInt = given) :
    ((nonZero number).getD before).toInt = if given = 0 then before.toInt else given := by
  have zero : number = 0 ↔ given = 0 := by
    rw [← same, ← Int64.toInt_inj]
    exact Iff.rfl
  unfold nonZero
  by_cases none : given = 0
  · rw [if_pos none, if_pos (zero.mpr none)]
    rfl
  · rw [if_neg none, if_neg (mt zero.mp none), ← same]
    rfl

variable (setting : CallSetting) (caller : Caller)

theorem entity_turned (address : Address) (before : EntityId) :
    (setting.entity? address).getD before = if address = 0 then before else setting.entity address := by
  unfold CallSetting.entity?
  split <;> rfl

theorem renewer_turned (address : Address) (before : Option EntityId) :
    (setting.entity? address).or before = if address = 0 then before else some (setting.entity address) := by
  unfold CallSetting.entity?
  split <;> rfl

theorem asked_turns (amendment : Amendment) (order : Update) (token : Token)
    (asks : amendment.Asks setting caller order) : amendment.Turns setting caller token (Work.revised order token) := by
  obtain ⟨arguments, told, assigned⟩ := asks.keys
  obtain ⟨second, seconds, expires⟩ := asks.second
  obtain ⟨period, periods, renews⟩ := asks.period
  have slots (slot : KeySlot) : (Work.revised order token).keys.get slot =
      (arguments.reverse.findSome? (KeyArgument.at? caller slot)).or (token.keys.get slot) := by
    rw [Work.revised, TokenKeys.override, TokenKeys.get_of_slots, assigned, token_keys_get]
  refine ⟨?_, ?_, ?_, ?_, ⟨arguments, told, slots⟩, fun slot set => ?_, ?_, ?_, ?_, rfl⟩
  · rw [Work.revised, asks.name]
    exact text_turned _ _
  · rw [Work.revised, asks.symbol]
    exact text_turned _ _
  · rw [Work.revised, asks.memo]
    exact text_turned _ _
  · rw [Work.revised, asks.treasury]
    exact entity_turned setting _ _
  · rw [slots, Option.isSome_or, set, Bool.or_true]
  · rw [Work.revised, expires]
    exact number_turned second _ _ seconds
  · rw [Work.revised, asks.renewer]
    exact renewer_turned setting _ _
  · rw [Work.revised, renews]
    exact number_turned period _ _ periods

end Turned

theorem update_rehomes (ledger : Ledger) (order : Update) (token : Token) (middle : View)
    (handover : Handover token (order.treasury.getD token.treasury) { ledger := ledger } middle) :
    ∃ relationships, Rehomed token (Work.revised order token) ledger.relationships relationships ∧
      (middle.putToken (Work.revised order token)).merged =
        { ledger with tokens := ledger.tokens.insert token.id (Work.revised order token), relationships } := by
  cases handover with
  | stay same =>
      refine ⟨_, .stay (.inr same), ?_⟩
      rw [View.merged_put_token, View.fresh_merged]
      rfl
  | items account incoming apart nonFungible lives trades =>
      refine ⟨_, .stay (.inl nonFungible), ?_⟩
      rw [View.merged_put_token, View.fresh_merged]
      rfl
  | units account incoming outgoing balance apart fungible lives trades found sum =>
      refine ⟨_, .move outgoing incoming balance fungible apart found trades.found sum.sum, ?_⟩
      rw [View.merged_put_token, View.merged_put_relationship, View.merged_put_relationship, View.fresh_merged]
      rfl

theorem update_unlent (setting : CallSetting) (function : UpdateFunction) (values : Ty.Vals function.service.params)
    (operation : Operation) (given : function.service.operation setting values = .ok operation) (view : View) :
    operation.approvedNftOwner view = none := by
  have kind := function.service.operation_kind setting values operation given
  cases function with
  | tokenInfo | tokenKeys | tokenExpiry =>
      cases operation with
      | approve => cases kind
      | _ => rfl

/-- A successful update leaves the ledger as it was, but for the row of its target, which turns into what the arguments
name, and for the supply of a fungible token, which follows a new treasury. -/
theorem updates_change_what_they_name (config : Config) (market : Market) (prices : PriceTable) (host : Host)
    (frame : Frame) (input : Bytes) (ledger : Ledger) (lent : host.ledger = some ledger) (rooted : ledger.Rooted)
    (zero : ∀ address, host.resolve address = 0 ↔ address = 0) (function : UpdateFunction)
    (named : Selector.ofInput? input = some function.service.selector) (settled : Settled)
    (computed : settled = (Service.native config market prices).compute host frame input)
    (success : settled.succeeds) :
    ∃ values before after relationships,
      decode function.service.params (input.drop 4) = .ok values ∧
        before.id = .ofAddress (host.resolve (function.amendment values).target) ∧
        ledger.tokens.get? before.id = some before ∧
        (function.amendment values).Turns
          ((Service.native config market prices).setting host frame { ledger := ledger })
          { sender := host.sender frame, key := (ledger.accounts.get? (host.sender frame)).bind Account.key }
          before after ∧
        Rehomed before after ledger.relationships relationships ∧
        settled.ledgerAfter ledger =
          { ledger with tokens := ledger.tokens.insert before.id after, relationships } := by
  obtain ⟨call, view, takes⟩ :=
    success_takes_lent config market prices host frame input ledger settled lent computed success
  have carries := takes_carries config market prices host frame input ledger settled rooted call view takes
  obtain ⟨values, read, given, _⟩ := dispatched_service _ _ _ _ named takes.passes.dispatched
  obtain ⟨order, body, asks⟩ := update_asked
    ((Service.native config market prices).setting host frame { ledger := ledger })
    { sender := host.sender frame, key := (ledger.accounts.get? (host.sender frame)).bind Account.key } zero function
    values call.operation given
  have unlent := update_unlent _ function values call.operation given { ledger := ledger }
  have done := carries.done
  have same :
      ((Service.native config market prices).ready host frame ledger call).transaction.body = .update order := by
    rw [← body, Service.ready, unlent]
    rfl
  rw [same] at done
  cases Deeds.of_single _ _ _ done with
  | update token usable handover =>
      obtain ⟨relationships, rehomed, merged⟩ := update_rehomes ledger order token _ handover
      have own : token.id = .ofAddress (host.resolve (function.amendment values).target) :=
        usable.own.trans asks.token
      refine ⟨values, token, Work.revised order token, relationships, read, own, ?_, asked_turns _ _ _ order token asks,
        rehomed, carries.after.trans merged⟩
      rw [usable.own]
      exact usable.found

namespace Sample

def governedCoin : Token :=
  { id := coin, name := "Coin", symbol := "C", treasury := holder, totalSupply := 100, keys := { admin := some key } }

def governed : Ledger :=
  { ledger with
    tokens := .ofList [(coin, governedCoin)]
    relationships := .ofList
      [(⟨holder, coin⟩, { balance := 70, kycGranted := true }), (⟨friend, coin⟩, { balance := 30, kycGranted := true })]
    nfts := .ofList [] }

theorem governed_rooted : governed.Rooted := rooted_of_rows governed (by decide) (by decide) (by decide)

def bequest : Ty.Vals (UpdateFunction.tokenInfo .third).service.params :=
  (coin.toAddress,
    ("Copper", "", friend.toAddress, "", true, (1 : Int64), true, [],
      ((0 : Int64), (0 : Address), (0 : Int64), ()), ()), ())

def bequeathing : Bytes :=
  (UpdateFunction.tokenInfo .third).service.selector.toBytes ++
    encode (UpdateFunction.tokenInfo .third).service.params bequest

def bequeathed : Settled := (Service.native {} market .empty).compute (host governed) frame bequeathing

end Sample

theorem coin_changes_name_and_hands :
    Sample.bequeathed.succeeds ∧ ∃ after relationships,
      Sample.bequeathed.ledgerAfter Sample.governed =
          { Sample.governed with tokens := Sample.governed.tokens.insert Sample.coin after, relationships } ∧
        after.name = "Copper" ∧ after.symbol = "C" ∧ after.treasury = Sample.friend ∧ after.maxSupply = 0 ∧
        relationships.get? ⟨Sample.friend, Sample.coin⟩ = some { balance := 100, kycGranted := true } := by
  have done : Sample.bequeathed.succeeds := by decide +kernel
  obtain ⟨values, before, after, relationships, read, own, found, turns, rehomed, next⟩ :=
    updates_change_what_they_name {} Sample.market .empty (Sample.host Sample.governed) Sample.frame Sample.bequeathing
      Sample.governed rfl Sample.governed_rooted (fun _ => Iff.rfl) (.tokenInfo .third)
      (Selector.of_input_written _ _) Sample.bequeathed rfl done
  have written : decode (UpdateFunction.tokenInfo .third).service.params (Sample.bequeathing.drop 4) =
      .ok Sample.bequest := by
    rw [Sample.bequeathing, Selector.drop_written]
    exact decode_written _ rfl _ (by decide +kernel)
  cases written.symm.trans read
  obtain rfl : Sample.governedCoin = before := by
    rw [own] at found
    exact Option.some.inj found
  have heir : after.treasury = Sample.friend := turns.treasury
  refine ⟨done, after, relationships, next, turns.name, turns.symbol, heir, ?_, ?_⟩
  · rw [turns.untouched]
    rfl
  · cases rehomed with
    | stay kept =>
        rcases kept with items | kept
        · cases items
        · exact absurd (heir.symm.trans kept) (by decide)
    | move outgoing incoming balance fungible apart left met whole =>
        rw [heir] at met ⊢
        cases left
        cases met
        have total : balance = 100 := Int64.toInt_inj.mp whole
        rw [total]
        exact (Table.get_insert _ _ _ _).trans (if_pos rfl)

end TokenService
