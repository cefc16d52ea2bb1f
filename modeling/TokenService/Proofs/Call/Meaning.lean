import TokenService.Proofs.Abi.RoundTrip
import TokenService.Proofs.Call.Given
import TokenService.Proofs.Facade.Counterparts

set_option autoImplicit false

namespace TokenService

open Abi

structure Narrowing where
  atom : Atom
  number : Int
  largest : Int

namespace Narrowing

def Fits (narrowing : Narrowing) : Prop := narrowing.number ≤ narrowing.largest

def int64 (atom : Atom) (value : atom.Val) : Narrowing := ⟨atom, atom.number value, Int64.maxValue.toInt⟩

def int32 (atom : Atom) (value : atom.Val) : Narrowing := ⟨atom, atom.number value, Int32.maxValue.toInt⟩

def uint64 (atom : Atom) (value : atom.Val) : Narrowing := ⟨atom, atom.number value, UInt64.size - 1⟩

end Narrowing

namespace ServiceFunction

def narrowings : (function : ServiceFunction) → Ty.Vals function.params → List Narrowing
  | .mintToken .unsigned, (_, amount, _, ()) => [.int64 .uint64 amount]
  | .burnToken .unsigned, (_, amount, _, ()) => [.int64 .uint64 amount]
  | .createFungible generation, (_, supply, decimals, ()) =>
      [.int64 generation.supplyAtom supply, .int32 generation.decimalsAtom decimals]
  | .createFungibleWithFees generation, (_, supply, decimals, _, _, ()) =>
      [.int64 generation.supplyAtom supply, .int32 generation.decimalsAtom decimals]
  | .transferFrom, (_, _, _, amount, ()) => [.int64 .uint256 amount]
  | .transferFromNft, (_, _, _, serial, ()) => [.int64 .uint256 serial]
  | .approve, (_, _, amount, ()) => [.int64 .uint256 amount]
  | .approveNft, (_, _, serial, ()) => [.int64 .uint256 serial]
  | .getApproved, (_, serial, ()) => [.int64 .uint256 serial]
  | .getTokenKey, (_, mask, ()) => [.uint64 .uint256 mask]
  | _, _ => []

def keys : (function : ServiceFunction) → Ty.Vals function.params → List Struct.tokenKey.Val
  | .createFungible generation, (token, _) => Struct.keysOf generation token
  | .createFungibleWithFees generation, (token, _) => Struct.keysOf generation token
  | .createNonFungible generation, (token, _) => Struct.keysOf generation token
  | .createNonFungibleWithFees generation, (token, _) => Struct.keysOf generation token
  | .updateTokenInfo generation, (_, token, ()) => Struct.keysOf generation token
  | .updateTokenKeys, (_, keys, ()) => keys
  | _, _ => []

def Even : (function : ServiceFunction) → Ty.Vals function.params → Prop
  | .transferTokens, (_, accounts, amounts, ()) => List.length accounts = List.length amounts
  | .transferNfts, (_, senders, receivers, serials, ()) =>
      List.length senders = List.length receivers ∧ List.length senders = List.length serials
  | _, _ => True

def Negatable : (function : ServiceFunction) → Ty.Vals function.params → Prop
  | .transferToken, (_, _, _, amount, ()) => amount ≠ Int64.minValue
  | _, _ => True

structure Fits (function : ServiceFunction) (values : Ty.Vals function.params) : Prop where
  numbers : ∀ narrowing ∈ function.narrowings values, narrowing.Fits
  keys : ∀ key ∈ function.keys values, Struct.KeyFits key
  even : function.Even values
  negatable : function.Negatable values

section Tells

variable (setting : CallSetting)

def Tells : (function : ServiceFunction) → Ty.Vals function.params → Operation → Prop
  | .associateToken, (account, token, ()), operation =>
      ∃ a t, setting.Names account a ∧ setting.Names token t ∧ operation = .associate a t
  | .associateTokens, (account, tokens, ()), operation =>
      ∃ a ts, setting.Names account a ∧ List.Forall₂ setting.Names tokens ts ∧ operation = .associateAll a ts
  | .dissociateToken, (account, token, ()), operation =>
      ∃ a t, setting.Names account a ∧ setting.Names token t ∧ operation = .dissociate a t
  | .dissociateTokens, (account, tokens, ()), operation =>
      ∃ a ts, setting.Names account a ∧ List.Forall₂ setting.Names tokens ts ∧ operation = .dissociateAll a ts
  | .mintToken .unsigned, (token, amount, metadata, ()), operation =>
      ∃ t units, setting.Names token t ∧ Int64.toInt units = Atom.uint64.number amount ∧
        operation = .mint ⟨t, units, metadata⟩ .first
  | .mintToken .signed, (token, amount, metadata, ()), operation =>
      ∃ t, setting.Names token t ∧ operation = .mint ⟨t, amount, metadata⟩ .second
  | .burnToken .unsigned, (token, amount, serials, ()), operation =>
      ∃ t units, setting.Names token t ∧ Int64.toInt units = Atom.uint64.number amount ∧
        operation = .burn ⟨t, units, serials⟩ .first
  | .burnToken .signed, (token, amount, serials, ()), operation =>
      ∃ t, setting.Names token t ∧ operation = .burn ⟨t, amount, serials⟩ .second
  | .wipeTokenAccount .unsigned, (token, account, amount, ()), operation =>
      ∃ t a units, setting.Names token t ∧ setting.Names account a ∧
        Int64.toInt units = Atom.uint32.number amount ∧ operation = .wipe ⟨t, a, units, []⟩ .first
  | .wipeTokenAccount .signed, (token, account, amount, ()), operation =>
      ∃ t a, setting.Names token t ∧ setting.Names account a ∧ operation = .wipe ⟨t, a, amount, []⟩ .second
  | .wipeTokenAccountNft, (token, account, serials, ()), operation =>
      ∃ t a, setting.Names token t ∧ setting.Names account a ∧ operation = .wipe ⟨t, a, 0, serials⟩ .first
  | .pauseToken, (token, ()), operation => ∃ t, setting.Names token t ∧ operation = .pause t
  | .unpauseToken, (token, ()), operation => ∃ t, setting.Names token t ∧ operation = .unpause t
  | .createFungible generation, (token, supply, decimals, ()), operation =>
      ∃ order, Struct.TokenTells setting generation token order ∧ order.type = .fungible ∧
        order.initialSupply.toInt = generation.supplyAtom.number supply ∧
        order.decimals.toInt = generation.decimalsAtom.number decimals ∧ order.customFees = [] ∧
        operation = .create order generation
  | .createFungibleWithFees generation, (token, supply, decimals, fixed, fractional, ()), operation =>
      ∃ order, Struct.TokenTells setting generation token order ∧ order.type = .fungible ∧
        order.initialSupply.toInt = generation.supplyAtom.number supply ∧
        order.decimals.toInt = generation.decimalsAtom.number decimals ∧
        Struct.FeesTell (Struct.FixedFeeTells setting) (Struct.FractionalFeeTells setting) fixed fractional
          order.customFees ∧
        operation = .create order generation
  | .createNonFungible generation, (token, ()), operation =>
      ∃ order, Struct.TokenTells setting generation token order ∧ order.type = .nonFungible ∧
        order.initialSupply = 0 ∧ order.decimals = 0 ∧ order.customFees = [] ∧ operation = .create order generation
  | .createNonFungibleWithFees generation, (token, fixed, royalty, ()), operation =>
      ∃ order, Struct.TokenTells setting generation token order ∧ order.type = .nonFungible ∧
        order.initialSupply = 0 ∧ order.decimals = 0 ∧
        Struct.FeesTell (Struct.FixedFeeTells setting) (Struct.RoyaltyFeeTells setting) fixed royalty
          order.customFees ∧
        operation = .create order generation
  | .updateTokenInfo generation, (target, token, ()), operation =>
      ∃ order, setting.Names target order.token ∧ Struct.InfoTells setting generation token order ∧
        operation = .updateInfo order generation
  | .updateTokenKeys, (token, keys, ()), operation =>
      ∃ t arguments, setting.Names token t ∧ List.Forall₂ (Struct.KeyArgumentTells setting) keys arguments ∧
        operation = .updateKeys t arguments
  | .updateTokenExpiryInfo .unsigned, (token, expiry, ()), operation =>
      ∃ t given, setting.Names token t ∧ Struct.ExpiryTells setting .first expiry given ∧
        operation = .updateExpiry t given .first
  | .updateTokenExpiryInfo .signed, (token, expiry, ()), operation =>
      ∃ t given, setting.Names token t ∧ Struct.ExpiryTells setting .third expiry given ∧
        operation = .updateExpiry t given .second
  | .cryptoTransfer, (moves, ()), operation =>
      ∃ tokens, List.Forall₂ (Struct.PlainMovesTell setting) moves tokens ∧
        operation = .transfer .cryptoTransfer [] tokens
  | .atomicTransfer, ((adjustments, ()), moves, ()), operation =>
      ∃ hbar tokens, List.Forall₂ (Struct.AdjustmentTells setting) adjustments hbar ∧
        List.Forall₂ (Struct.MovesTell setting) moves tokens ∧ operation = .transfer .atomicTransfer hbar tokens
  | .transferTokens, (token, accounts, amounts, ()), operation =>
      ∃ t adjustments, setting.Names token t ∧
        List.Forall₂ (fun account given => setting.Names account (Adjustment.account given)) accounts adjustments ∧
        List.Forall₂ (fun amount given => Adjustment.amount given = amount ∧ given.approval = false) amounts
          adjustments ∧
        operation = .transfer .transferTokens [] [⟨t, adjustments, []⟩]
  | .transferToken, (token, sender, receiver, amount, ()), operation =>
      ∃ t s r debit, setting.Names token t ∧ setting.Names sender s ∧ setting.Names receiver r ∧
        Int64.toInt debit = -Int64.toInt amount ∧
        operation = .transfer .transferToken [] [⟨t, [⟨s, debit, false⟩, ⟨r, amount, false⟩], []⟩]
  | .transferNfts, (token, senders, receivers, serials, ()), operation =>
      ∃ t moves, setting.Names token t ∧
        List.Forall₂ (fun sender given => setting.Names sender (NftMove.sender given)) senders moves ∧
        List.Forall₂ (fun receiver given => setting.Names receiver (NftMove.receiver given)) receivers moves ∧
        List.Forall₂ (fun serial given => NftMove.serial given = serial ∧ given.approval = false) serials moves ∧
        operation = .transfer .transferNfts [] [⟨t, [], moves⟩]
  | .transferNft, (token, sender, receiver, serial, ()), operation =>
      ∃ t s r, setting.Names token t ∧ setting.Names sender s ∧ setting.Names receiver r ∧
        operation = .transfer .transferNft [] [⟨t, [], [⟨s, r, serial, false⟩]⟩]
  | .transferFrom, (token, source, receiver, amount, ()), operation =>
      ∃ t s r units, setting.Names token t ∧ setting.Names source s ∧ setting.Names receiver r ∧
        Int64.toInt units = Atom.uint256.number amount ∧ operation = .transferAsset t (some s) r (.amount units)
  | .transferFromNft, (token, source, receiver, number, ()), operation =>
      ∃ t s r serial, setting.Names token t ∧ setting.Names source s ∧ setting.Names receiver r ∧
        Int64.toInt serial = Atom.uint256.number number ∧ operation = .transferAsset t (some s) r (.serial serial)
  | .approve, (token, spender, amount, ()), operation =>
      ∃ t s units, setting.Names token t ∧ setting.Names spender s ∧ Int64.toInt units = Atom.uint256.number amount ∧
        operation = .approve t s (.amount units)
  | .approveNft, (token, spender, number, ()), operation =>
      ∃ t s serial, setting.Names token t ∧ setting.Names spender s ∧
        Int64.toInt serial = Atom.uint256.number number ∧ operation = .approve t s (.serial serial)
  | .setApprovalForAll, (token, operator, approved, ()), operation =>
      ∃ t o, setting.Names token t ∧ setting.Names operator o ∧ operation = .setApprovalForAll t o approved
  | .getApproved, (token, number, ()), operation =>
      ∃ t serial, setting.Names token t ∧ Int64.toInt serial = Atom.uint256.number number ∧
        operation = .query (.getApproved ⟨t, serial⟩)
  | .isApprovedForAll, (token, owner, operator, ()), operation =>
      ∃ t o p, setting.Names token t ∧ setting.Names owner o ∧ setting.Names operator p ∧
        operation = .query (.isApprovedForAll t o p)
  | .allowance, (token, owner, spender, ()), operation =>
      ∃ t o s, setting.Names token t ∧ setting.Names owner o ∧ setting.Names spender s ∧
        operation = .query (.allowance t o s)
  | .getTokenInfo, (token, ()), operation => ∃ t, setting.Names token t ∧ operation = .query (.info t)
  | .getFungibleTokenInfo, (token, ()), operation =>
      ∃ t, setting.Names token t ∧ operation = .query (.fungibleInfo t)
  | .getNonFungibleTokenInfo, (token, serial, ()), operation =>
      ∃ t, setting.Names token t ∧ operation = .query (.nftInfo ⟨t, serial⟩)
  | .getTokenKey, (token, number, ()), operation =>
      ∃ t mask, setting.Names token t ∧ (UInt64.toNat mask : Int) = Atom.uint256.number number ∧
        operation = .query (.key t mask)
  | .getTokenCustomFees, (token, ()), operation => ∃ t, setting.Names token t ∧ operation = .query (.customFees t)
  | .getTokenExpiryInfo, (token, ()), operation => ∃ t, setting.Names token t ∧ operation = .query (.expiry t)
  | .isToken, (token, ()), operation => ∃ t, setting.Names token t ∧ operation = .query (.isToken t)
  | .getTokenType, (token, ()), operation => ∃ t, setting.Names token t ∧ operation = .query (.type t)

section Families

variable (operation : Operation)

theorem keyless {meant told : Prop} (same : meant ↔ told) :
    meant ↔ (∀ key ∈ ([] : List Struct.tokenKey.Val), Struct.KeyFits key) ∧ told :=
  same.trans ⟨fun tells => ⟨nofun, tells⟩, And.right⟩

theorem one_named (first : Address) (build : EntityId → Operation) :
    (.ok (build (setting.entity first)) : Except DecodeFault Operation) = .ok operation ↔
      ∃ a, setting.Names first a ∧ operation = build a := by
  simp [CallSetting.names_iff, eq_comm]

theorem two_named (first second : Address) (build : EntityId → EntityId → Operation) :
    (.ok (build (setting.entity first) (setting.entity second)) : Except DecodeFault Operation) = .ok operation ↔
      ∃ a b, setting.Names first a ∧ setting.Names second b ∧ operation = build a b := by
  simp [CallSetting.names_iff, eq_comm]

theorem three_named (first second third : Address) (build : EntityId → EntityId → EntityId → Operation) :
    (.ok (build (setting.entity first) (setting.entity second) (setting.entity third)) :
        Except DecodeFault Operation) = .ok operation ↔
      ∃ a b c, setting.Names first a ∧ setting.Names second b ∧ setting.Names third c ∧ operation = build a b c := by
  simp [CallSetting.names_iff, eq_comm]

theorem one_and_all_named (first : Address) (others : List Address)
    (build : EntityId → List EntityId → Operation) :
    (.ok (build (setting.entity first) (others.map setting.entity)) : Except DecodeFault Operation) = .ok operation ↔
      ∃ a bs, setting.Names first a ∧ List.Forall₂ setting.Names others bs ∧ operation = build a bs := by
  simp [CallSetting.names_iff, all_say_map _ _ setting.names_iff, eq_comm]

section Numbered

variable (argument : WideArgument) (number : Nat)

theorem one_numbered (first : Address) (build : EntityId → Int64 → Operation) :
    (native64 argument number >>= fun value => pure (build (setting.entity first) value)) = .ok operation ↔
      ∃ a value, setting.Names first a ∧ Int64.toInt value = number ∧ operation = build a value := by
  simp [except_bind_ok, native64_ok_iff, CallSetting.names_iff, pure, Except.pure, @eq_comm _ operation]

theorem two_numbered (first second : Address) (build : EntityId → EntityId → Int64 → Operation) :
    (native64 argument number >>= fun value => pure (build (setting.entity first) (setting.entity second) value)) =
        .ok operation ↔
      ∃ a b value, setting.Names first a ∧ setting.Names second b ∧ Int64.toInt value = number ∧
        operation = build a b value := by
  simp [except_bind_ok, native64_ok_iff, CallSetting.names_iff, pure, Except.pure, @eq_comm _ operation]

theorem three_numbered (first second third : Address) (build : EntityId → EntityId → EntityId → Int64 → Operation) :
    (native64 argument number >>= fun value =>
        pure (build (setting.entity first) (setting.entity second) (setting.entity third) value)) = .ok operation ↔
      ∃ a b c value, setting.Names first a ∧ setting.Names second b ∧ setting.Names third c ∧
        Int64.toInt value = number ∧ operation = build a b c value := by
  simp [except_bind_ok, native64_ok_iff, CallSetting.names_iff, pure, Except.pure, @eq_comm _ operation]

end Numbered

section Listed

theorem keys_updated (token : Address) (values : List Struct.tokenKey.Val) :
    (List.mapM (Struct.toKeyArgument setting) values >>= fun keys => pure (.updateKeys (setting.entity token) keys)) =
        .ok operation ↔
      (∀ value ∈ values, Struct.KeyFits value) ∧
        ∃ t keys, setting.Names token t ∧ List.Forall₂ (Struct.KeyArgumentTells setting) values keys ∧
          operation = .updateKeys t keys := by
  simp [except_bind_ok, Struct.keys_ok_iff, CallSetting.names_iff, pure, Except.pure, @eq_comm _ operation, and_assoc]

theorem expiry_updated (generation : Generation) (token : Address) (value : (Struct.expiry generation).Val)
    (version : Generation) :
    (.ok (.updateExpiry (setting.entity token) (Struct.toExpiry setting generation value) version) :
        Except DecodeFault Operation) = .ok operation ↔
      ∃ t given, setting.Names token t ∧ Struct.ExpiryTells setting generation value given ∧
        operation = .updateExpiry t given version := by
  simp [Struct.expiry_tells_iff, CallSetting.names_iff, @eq_comm _ operation]

theorem in_step_ok_iff (left right : Nat) (value : Unit) : inStep left right = .ok value ↔ left = right := by
  rw [inStep]
  split <;> simp [*]

theorem amounts_paired (accounts : List Address) (amounts : List Int64) (adjustments : List Adjustment) :
    List.Forall₂ (fun account given => setting.Names account (Adjustment.account given)) accounts adjustments ∧
        List.Forall₂ (fun amount given => Adjustment.amount given = amount ∧ given.approval = false) amounts
          adjustments ↔
      accounts.length = amounts.length ∧
        adjustments =
          List.zipWith (fun account amount => ⟨setting.entity account, amount, false⟩) accounts amounts := by
  have each (pair : Address × Int64) (given : Adjustment) :
      setting.Names pair.1 given.account ∧ given.amount = pair.2 ∧ given.approval = false ↔
        given = ⟨setting.entity pair.1, pair.2, false⟩ := by
    obtain ⟨_, _, _⟩ := given
    simp [CallSetting.names_iff]
  rw [in_step_iff, all_say_map _ _ each, List.zip, List.map_zipWith]

theorem moves_paired (senders receivers : List Address) (serials : List Int64) (moves : List NftMove) :
    List.Forall₂ (fun sender given => setting.Names sender (NftMove.sender given)) senders moves ∧
        List.Forall₂ (fun receiver given => setting.Names receiver (NftMove.receiver given)) receivers moves ∧
        List.Forall₂ (fun serial given => NftMove.serial given = serial ∧ given.approval = false) serials moves ↔
      (senders.length = receivers.length ∧ senders.length = serials.length) ∧
        moves =
          List.zipWith (fun ends serial => ⟨setting.entity ends.1, setting.entity ends.2, serial, false⟩)
            (senders.zip receivers) serials := by
  have each (item : (Address × Address) × Int64) (given : NftMove) :
      (setting.Names item.1.1 given.sender ∧ setting.Names item.1.2 given.receiver) ∧ given.serial = item.2 ∧
          given.approval = false ↔
        given = ⟨setting.entity item.1.1, setting.entity item.1.2, item.2, false⟩ := by
    obtain ⟨_, _, _, _⟩ := given
    simp [CallSetting.names_iff, and_assoc]
  rw [← and_assoc, in_step_iff, and_assoc, in_step_iff, all_say_map _ _ each, and_assoc]
  refine and_congr_right fun even => ?_
  rw [List.length_zip, even, Nat.min_self]
  simp only [List.zip, List.map_zipWith]

theorem units_moved_iff (token : Address) (accounts : List Address) (amounts : List Int64) :
    ServiceFunction.operation setting .transferTokens (token, accounts, amounts, ()) = .ok operation ↔
      Tells setting .transferTokens (token, accounts, amounts, ()) operation := by
  simp only [ServiceFunction.operation, Tells, except_bind_ok, in_step_ok_iff, pure, Except.pure, Except.ok.injEq]
  constructor
  · rintro ⟨_, even, rfl⟩
    obtain ⟨named, told⟩ := (amounts_paired setting accounts amounts _).mpr ⟨even, rfl⟩
    exact ⟨_, _, (setting.names_iff token _).mpr rfl, named, told, rfl⟩
  · rintro ⟨t, adjustments, token, named, told, rfl⟩
    obtain ⟨even, rfl⟩ := (amounts_paired setting accounts amounts _).mp ⟨named, told⟩
    rw [(setting.names_iff _ t).mp token]
    exact ⟨(), even, rfl⟩

theorem nfts_moved_iff (token : Address) (senders receivers : List Address) (serials : List Int64) :
    ServiceFunction.operation setting .transferNfts (token, senders, receivers, serials, ()) = .ok operation ↔
      Tells setting .transferNfts (token, senders, receivers, serials, ()) operation := by
  simp only [ServiceFunction.operation, Tells, except_bind_ok, in_step_ok_iff, pure, Except.pure, Except.ok.injEq]
  constructor
  · rintro ⟨_, even, _, also, rfl⟩
    obtain ⟨sent, received, told⟩ := (moves_paired setting senders receivers serials _).mpr ⟨⟨even, also⟩, rfl⟩
    exact ⟨_, _, (setting.names_iff token _).mpr rfl, sent, received, told, rfl⟩
  · rintro ⟨t, moves, token, sent, received, told, rfl⟩
    obtain ⟨⟨even, also⟩, rfl⟩ := (moves_paired setting senders receivers serials _).mp ⟨sent, received, told⟩
    rw [(setting.names_iff _ t).mp token]
    exact ⟨(), even, (), also, rfl⟩

theorem units_wiped_iff (token account : Address) (amount : UInt32) :
    ServiceFunction.operation setting (.wipeTokenAccount .unsigned) (token, account, amount, ()) = .ok operation ↔
      Tells setting (.wipeTokenAccount .unsigned) (token, account, amount, ()) operation := by
  have widened (units : Int64) : units.toInt = Atom.uint32.number amount ↔ units = amount.toUInt64.toInt64 := by
    rw [← Int64.toInt_inj, Generation.widened_number]
    rfl
  simp [ServiceFunction.operation, Tells, widened, CallSetting.names_iff, @eq_comm _ operation]

theorem units_sent_iff (token sender receiver : Address) (amount : Int64) :
    ServiceFunction.operation setting .transferToken (token, sender, receiver, amount, ()) = .ok operation ↔
      Tells setting .transferToken (token, sender, receiver, amount, ()) operation := by
  simp only [ServiceFunction.operation, Tells, CallSetting.names_iff, ← int64_some_iff]
  cases int64? (-amount.toInt) <;> simp [bind, Except.bind, pure, Except.pure, @eq_comm _ operation]

theorem key_asked_iff (token : Address) (number : Word) :
    ServiceFunction.operation setting .getTokenKey (token, number, ()) = .ok operation ↔
      Tells setting .getTokenKey (token, number, ()) operation := by
  have native (mask : UInt64) : (mask.toNat : Int) = Atom.uint256.number number ↔ uint64? number.toNat = some mask := by
    rw [uint64_some_iff]
    exact Int.ofNat_inj
  simp only [ServiceFunction.operation, Tells, native, CallSetting.names_iff]
  cases uint64? number.toNat <;> simp [@eq_comm _ operation]

theorem hbar_and_tokens_moved_iff (adjustments : List Struct.adjustment.Val) (moves : List Struct.moves.Val) :
    ServiceFunction.operation setting .atomicTransfer ((adjustments, ()), moves, ()) = .ok operation ↔
      Tells setting .atomicTransfer ((adjustments, ()), moves, ()) operation := by
  have hbar := all_say_map _ _ (Struct.adjustment_tells_iff setting) adjustments
  have tokens := all_say_map _ _ (Struct.moves_tell_iff setting) moves
  simp [ServiceFunction.operation, Tells, hbar, tokens, @eq_comm _ operation]

theorem tokens_moved_iff (moves : List Struct.plainMoves.Val) :
    ServiceFunction.operation setting .cryptoTransfer (moves, ()) = .ok operation ↔
      Tells setting .cryptoTransfer (moves, ()) operation := by
  have tokens := all_say_map _ _ (Struct.plain_moves_tell_iff setting) moves
  simp [ServiceFunction.operation, Tells, tokens, @eq_comm _ operation]

theorem info_updated (generation : Generation) (zero : ∀ address, setting.resolve address = 0 ↔ address = 0)
    (target : Address) (token : (Struct.token generation).Val) :
    (Struct.toInfoOrder setting generation target token >>= fun order => pure (.updateInfo order generation)) =
        .ok operation ↔
      (∀ key ∈ Struct.keysOf generation token, Struct.KeyFits key) ∧
        ∃ order, setting.Names target order.token ∧ Struct.InfoTells setting generation token order ∧
          operation = .updateInfo order generation := by
  simp only [except_bind_ok, Struct.info_order_ok_iff setting generation zero, pure, Except.pure, Except.ok.injEq]
  constructor
  · rintro ⟨order, ⟨fits, told, named⟩, rfl⟩
    exact ⟨fits, order, named, told, rfl⟩
  · rintro ⟨fits, order, named, told, rfl⟩
    exact ⟨order, ⟨fits, told, named⟩, rfl⟩

end Listed

section Created

theorem fungible_created (generation : Generation) (supply : generation.supplyAtom.Val)
    (decimals : generation.decimalsAtom.Val) (fees : List CustomFee) (token : (Struct.token generation).Val) :
    (generation.supply supply >>= fun supply => generation.decimals decimals >>= fun decimals =>
        Struct.toCreateOrder setting generation .fungible supply decimals fees token >>= fun order =>
          pure (.create order generation)) = .ok operation ↔
      (∀ key ∈ Struct.keysOf generation token, Struct.KeyFits key) ∧
        ∃ order, Struct.TokenTells setting generation token order ∧ order.type = .fungible ∧
          order.initialSupply.toInt = generation.supplyAtom.number supply ∧
          order.decimals.toInt = generation.decimalsAtom.number decimals ∧ order.customFees = fees ∧
          operation = .create order generation := by
  simp only [except_bind_ok, Generation.supply_ok_iff, Generation.decimals_ok_iff, Struct.create_order_ok_iff, pure,
    Except.pure, Except.ok.injEq]
  constructor
  · rintro ⟨_, supplied, _, divided, order, ⟨fits, told, kind, rfl, rfl, charged⟩, rfl⟩
    exact ⟨fits, order, told, kind, supplied, divided, charged, rfl⟩
  · rintro ⟨fits, order, told, kind, supplied, divided, charged, rfl⟩
    exact ⟨_, supplied, _, divided, order, ⟨fits, told, kind, rfl, rfl, charged⟩, rfl⟩

theorem non_fungible_created (generation : Generation) (fees : List CustomFee) (token : (Struct.token generation).Val) :
    (Struct.toCreateOrder setting generation .nonFungible 0 0 fees token >>= fun order =>
        pure (.create order generation)) = .ok operation ↔
      (∀ key ∈ Struct.keysOf generation token, Struct.KeyFits key) ∧
        ∃ order, Struct.TokenTells setting generation token order ∧ order.type = .nonFungible ∧
          order.initialSupply = 0 ∧ order.decimals = 0 ∧ order.customFees = fees ∧
          operation = .create order generation := by
  simp only [except_bind_ok, Struct.create_order_ok_iff, pure, Except.pure, Except.ok.injEq]
  constructor
  · rintro ⟨order, ⟨fits, told, kind, supplied, divided, charged⟩, rfl⟩
    exact ⟨fits, order, told, kind, supplied, divided, charged, rfl⟩
  · rintro ⟨fits, order, told, kind, supplied, divided, charged, rfl⟩
    exact ⟨order, ⟨fits, told, kind, supplied, divided, charged⟩, rfl⟩

end Created

end Families

theorem operation_ok_iff (zero : ∀ address, setting.resolve address = 0 ↔ address = 0) (function : ServiceFunction)
    (values : Ty.Vals function.params) (operation : Operation) :
    function.operation setting values = .ok operation ↔
      (∀ key ∈ function.keys values, Struct.KeyFits key) ∧ function.Tells setting values operation := by
  cases function with
  | associateToken => exact keyless (two_named setting operation _ _ .associate)
  | dissociateToken => exact keyless (two_named setting operation _ _ .dissociate)
  | associateTokens => exact keyless (one_and_all_named setting operation _ _ .associateAll)
  | dissociateTokens => exact keyless (one_and_all_named setting operation _ _ .dissociateAll)
  | mintToken signedness =>
      cases signedness with
      | unsigned => exact keyless (one_numbered setting operation _ _ _ fun t units => .mint ⟨t, units, _⟩ .first)
      | signed => exact keyless (one_named setting operation _ fun t => .mint ⟨t, _, _⟩ .second)
  | burnToken signedness =>
      cases signedness with
      | unsigned => exact keyless (one_numbered setting operation _ _ _ fun t units => .burn ⟨t, units, _⟩ .first)
      | signed => exact keyless (one_named setting operation _ fun t => .burn ⟨t, _, _⟩ .second)
  | wipeTokenAccount signedness =>
      cases signedness with
      | unsigned => exact keyless (units_wiped_iff setting operation _ _ _)
      | signed => exact keyless (two_named setting operation _ _ fun t a => .wipe ⟨t, a, _, []⟩ .second)
  | wipeTokenAccountNft => exact keyless (two_named setting operation _ _ fun t a => .wipe ⟨t, a, 0, _⟩ .first)
  | pauseToken => exact keyless (one_named setting operation _ .pause)
  | unpauseToken => exact keyless (one_named setting operation _ .unpause)
  | createFungible generation => exact fungible_created setting operation generation _ _ [] _
  | createFungibleWithFees generation =>
      obtain ⟨token, supply, decimals, fixed, fractional, ⟨⟩⟩ := values
      have fees := Struct.fees_tell_iff _ _ _ _ (Struct.fixed_fee_tells_iff setting)
        (Struct.fractional_fee_tells_iff setting) fixed fractional
      refine (fungible_created setting operation generation supply decimals _ token).trans ?_
      simp only [← fees]
      rfl
  | createNonFungible generation => exact non_fungible_created setting operation generation [] _
  | createNonFungibleWithFees generation =>
      obtain ⟨token, fixed, royalty, ⟨⟩⟩ := values
      have fees := Struct.fees_tell_iff _ _ _ _ (Struct.fixed_fee_tells_iff setting)
        (Struct.royalty_fee_tells_iff setting) fixed royalty
      refine (non_fungible_created setting operation generation _ token).trans ?_
      simp only [← fees]
      rfl
  | updateTokenInfo generation => exact info_updated setting operation generation zero _ _
  | updateTokenKeys => exact keys_updated setting operation _ _
  | updateTokenExpiryInfo signedness =>
      cases signedness with
      | unsigned => exact keyless (expiry_updated setting operation .first _ _ _)
      | signed => exact keyless (expiry_updated setting operation .third _ _ _)
  | cryptoTransfer => exact keyless (tokens_moved_iff setting operation _)
  | atomicTransfer => exact keyless (hbar_and_tokens_moved_iff setting operation _ _)
  | transferTokens => exact keyless (units_moved_iff setting operation _ _ _)
  | transferToken => exact keyless (units_sent_iff setting operation _ _ _ _)
  | transferNfts => exact keyless (nfts_moved_iff setting operation _ _ _ _)
  | transferNft =>
      exact keyless (three_named setting operation _ _ _ fun t s r =>
        .transfer .transferNft [] [⟨t, [], [⟨s, r, _, false⟩]⟩])
  | transferFrom =>
      exact keyless (three_numbered setting operation _ _ _ _ _ fun t s r units =>
        .transferAsset t (some s) r (.amount units))
  | transferFromNft =>
      exact keyless (three_numbered setting operation _ _ _ _ _ fun t s r serial =>
        .transferAsset t (some s) r (.serial serial))
  | approve => exact keyless (two_numbered setting operation _ _ _ _ fun t s units => .approve t s (.amount units))
  | approveNft => exact keyless (two_numbered setting operation _ _ _ _ fun t s serial => .approve t s (.serial serial))
  | setApprovalForAll => exact keyless (two_named setting operation _ _ fun t o => .setApprovalForAll t o _)
  | getApproved =>
      exact keyless (one_numbered setting operation _ _ _ fun t serial => .query (.getApproved ⟨t, serial⟩))
  | isApprovedForAll =>
      exact keyless (three_named setting operation _ _ _ fun t o p => .query (.isApprovedForAll t o p))
  | allowance => exact keyless (three_named setting operation _ _ _ fun t o s => .query (.allowance t o s))
  | getTokenInfo => exact keyless (one_named setting operation _ fun t => .query (.info t))
  | getFungibleTokenInfo => exact keyless (one_named setting operation _ fun t => .query (.fungibleInfo t))
  | getNonFungibleTokenInfo => exact keyless (one_named setting operation _ fun t => .query (.nftInfo ⟨t, _⟩))
  | getTokenKey => exact keyless (key_asked_iff setting operation _ _)
  | getTokenCustomFees => exact keyless (one_named setting operation _ fun t => .query (.customFees t))
  | getTokenExpiryInfo => exact keyless (one_named setting operation _ fun t => .query (.expiry t))
  | isToken => exact keyless (one_named setting operation _ fun t => .query (.isToken t))
  | getTokenType => exact keyless (one_named setting operation _ fun t => .query (.type t))

theorem numbered_given_iff (argument : WideArgument) (atom : Atom) (value : atom.Val) (number : Nat)
    (same : atom.number value = number) (build : Int64 → Operation) :
    (∃ operation, (native64 argument number >>= fun value => pure (build value)) = .ok operation) ↔
      (Narrowing.int64 atom value).Fits := by
  simp only [bind_given, pure_given, and_true, native64_given_iff, ← same]
  rfl

theorem in_step_given_iff (left right : Nat) : (∃ value, inStep left right = .ok value) ↔ left = right := by
  simp only [in_step_ok_iff, exists_const]

theorem fungible_given_iff (generation : Generation) (supply : generation.supplyAtom.Val)
    (decimals : generation.decimalsAtom.Val) (fees : List CustomFee) (token : (Struct.token generation).Val) :
    (∃ operation, (generation.supply supply >>= fun supply => generation.decimals decimals >>= fun decimals =>
        Struct.toCreateOrder setting generation .fungible supply decimals fees token >>= fun order =>
          pure (Operation.create order generation)) = .ok operation) ↔
      ((Narrowing.int64 generation.supplyAtom supply).Fits ∧ (Narrowing.int32 generation.decimalsAtom decimals).Fits) ∧
        ∀ key ∈ Struct.keysOf generation token, Struct.KeyFits key := by
  simp only [bind_given, pure_given, and_true, Struct.create_order_given_iff, exists_and_right,
    Generation.supply_given_iff, Generation.decimals_given_iff, and_assoc]
  rfl

theorem non_fungible_given_iff (generation : Generation) (fees : List CustomFee)
    (token : (Struct.token generation).Val) :
    (∃ operation, (Struct.toCreateOrder setting generation .nonFungible 0 0 fees token >>= fun order =>
        pure (Operation.create order generation)) = .ok operation) ↔
      ∀ key ∈ Struct.keysOf generation token, Struct.KeyFits key := by
  simp only [bind_given, pure_given, and_true, Struct.create_order_given_iff]

theorem info_given_iff (generation : Generation) (target : Address) (token : (Struct.token generation).Val) :
    (∃ operation, (Struct.toInfoOrder setting generation target token >>= fun order =>
        pure (Operation.updateInfo order generation)) = .ok operation) ↔
      ∀ key ∈ Struct.keysOf generation token, Struct.KeyFits key := by
  simp only [bind_given, pure_given, and_true, Struct.info_order_given_iff]

theorem keys_updated_given_iff (token : Address) (values : List Struct.tokenKey.Val) :
    (∃ operation, (List.mapM (Struct.toKeyArgument setting) values >>= fun keys =>
        pure (Operation.updateKeys (setting.entity token) keys)) = .ok operation) ↔
      ∀ value ∈ values, Struct.KeyFits value := by
  simp only [bind_given, pure_given, and_true, Struct.keys_given_iff]

section Fits

variable {function : ServiceFunction} {values : Ty.Vals function.params}

theorem number_fits_iff {narrowing : Narrowing} (narrows : function.narrowings values = [narrowing])
    (keyless : function.keys values = []) (even : function.Even values) (negatable : function.Negatable values) :
    function.Fits values ↔ narrowing.Fits := by
  constructor
  · intro fits
    exact fits.numbers narrowing (narrows ▸ List.mem_singleton_self narrowing)
  · intro fits
    exact ⟨narrows ▸ List.forall_mem_singleton.mpr fits, keyless ▸ List.forall_mem_nil _, even, negatable⟩

theorem keys_fit_iff (narrows : function.narrowings values = []) (even : function.Even values)
    (negatable : function.Negatable values) :
    function.Fits values ↔ ∀ key ∈ function.keys values, Struct.KeyFits key := by
  constructor
  · intro fits
    exact fits.keys
  · intro fits
    exact ⟨narrows ▸ List.forall_mem_nil _, fits, even, negatable⟩

theorem supply_fits_iff {supply decimals : Narrowing} (narrows : function.narrowings values = [supply, decimals])
    (even : function.Even values) (negatable : function.Negatable values) :
    function.Fits values ↔
      (supply.Fits ∧ decimals.Fits) ∧ ∀ key ∈ function.keys values, Struct.KeyFits key := by
  constructor
  · intro fits
    have numbers := fits.numbers
    rw [narrows] at numbers
    exact ⟨⟨numbers _ List.mem_cons_self, numbers _ (List.mem_cons_of_mem _ List.mem_cons_self)⟩, fits.keys⟩
  · rintro ⟨⟨first, second⟩, keys⟩
    exact ⟨narrows ▸ List.forall_mem_cons.mpr ⟨first, List.forall_mem_singleton.mpr second⟩, keys, even, negatable⟩

end Fits

theorem negated_given_iff (amount : Int64) : (int64? (-amount.toInt)).isSome ↔ amount ≠ Int64.minValue := by
  have least : amount = Int64.minValue ↔ amount.toInt = Int64.minValue.toInt := Int64.toInt_inj.symm
  have bounds : Int64.maxValue.toInt = -Int64.minValue.toInt - 1 := by decide
  have floor := Int64.minValue_le_toInt amount
  have roof := Int64.toInt_le amount
  rw [Option.isSome_iff_exists, ne_eq, least]
  simp only [int64_some_iff, int64_fits_iff]
  omega

theorem units_sent_given_iff (token sender receiver : Address) (amount : Int64) :
    (∃ operation, ServiceFunction.operation setting .transferToken (token, sender, receiver, amount, ()) =
        .ok operation) ↔ Fits .transferToken (token, sender, receiver, amount, ()) := by
  have fits : Fits .transferToken (token, sender, receiver, amount, ()) ↔ amount ≠ Int64.minValue :=
    ⟨Fits.negatable, fun negatable => ⟨List.forall_mem_nil _, List.forall_mem_nil _, trivial, negatable⟩⟩
  rw [fits, ← negated_given_iff]
  simp only [ServiceFunction.operation]
  cases int64? (-amount.toInt) <;> simp [bind, Except.bind, pure, Except.pure]

theorem key_asked_given_iff (token : Address) (number : Word) :
    (∃ operation, ServiceFunction.operation setting .getTokenKey (token, number, ()) = .ok operation) ↔
      Fits .getTokenKey (token, number, ()) := by
  have fits : Fits .getTokenKey (token, number, ()) ↔ (Narrowing.uint64 .uint256 number).Fits :=
    number_fits_iff rfl rfl trivial trivial
  have small : (Narrowing.uint64 .uint256 number).Fits ↔ number.toNat < UInt64.size :=
    Int.le_sub_one_iff.trans Int.ofNat_lt
  rw [fits, small, ← uint64_fits_iff]
  simp only [ServiceFunction.operation, ← uint64_some_iff]
  cases uint64? number.toNat <;> simp

theorem units_moved_given_iff (token : Address) (accounts : List Address) (amounts : List Int64) :
    (∃ operation, ServiceFunction.operation setting .transferTokens (token, accounts, amounts, ()) = .ok operation) ↔
      Fits .transferTokens (token, accounts, amounts, ()) := by
  have fits : Fits .transferTokens (token, accounts, amounts, ()) ↔ accounts.length = amounts.length :=
    ⟨Fits.even, fun even => ⟨List.forall_mem_nil _, List.forall_mem_nil _, even, trivial⟩⟩
  rw [fits]
  simp only [ServiceFunction.operation, bind_given, pure_given, and_true, in_step_given_iff]
  exact Iff.rfl

theorem nfts_moved_given_iff (token : Address) (senders receivers : List Address) (serials : List Int64) :
    (∃ operation, ServiceFunction.operation setting .transferNfts (token, senders, receivers, serials, ()) =
        .ok operation) ↔ Fits .transferNfts (token, senders, receivers, serials, ()) := by
  have fits : Fits .transferNfts (token, senders, receivers, serials, ()) ↔
      senders.length = receivers.length ∧ senders.length = serials.length :=
    ⟨Fits.even, fun even => ⟨List.forall_mem_nil _, List.forall_mem_nil _, even, trivial⟩⟩
  rw [fits]
  simp only [ServiceFunction.operation, bind_given, pure_given, and_true, in_step_given_iff, exists_and_right]
  exact Iff.rfl

theorem operation_given_iff (function : ServiceFunction) (values : Ty.Vals function.params) :
    (∃ operation, function.operation setting values = .ok operation) ↔ function.Fits values := by
  cases function with
  | associateToken | associateTokens | dissociateToken | dissociateTokens | wipeTokenAccountNft | pauseToken
  | unpauseToken | cryptoTransfer | atomicTransfer | transferNft | setApprovalForAll | isApprovedForAll | allowance
  | getTokenInfo | getFungibleTokenInfo | getNonFungibleTokenInfo | getTokenCustomFees | getTokenExpiryInfo | isToken
  | getTokenType =>
      exact ⟨fun _ => ⟨List.forall_mem_nil _, List.forall_mem_nil _, trivial, trivial⟩, fun _ => ⟨_, rfl⟩⟩
  | wipeTokenAccount signedness | updateTokenExpiryInfo signedness =>
      cases signedness <;>
        exact ⟨fun _ => ⟨List.forall_mem_nil _, List.forall_mem_nil _, trivial, trivial⟩, fun _ => ⟨_, rfl⟩⟩
  | mintToken signedness | burnToken signedness =>
      cases signedness with
      | unsigned =>
          refine (numbered_given_iff _ .uint64 _ _ rfl _).trans (Iff.symm ?_)
          exact number_fits_iff rfl rfl trivial trivial
      | signed =>
          exact ⟨fun _ => ⟨List.forall_mem_nil _, List.forall_mem_nil _, trivial, trivial⟩, fun _ => ⟨_, rfl⟩⟩
  | transferFrom | transferFromNft | approve | approveNft | getApproved =>
      refine (numbered_given_iff _ .uint256 _ _ rfl _).trans (Iff.symm ?_)
      exact number_fits_iff rfl rfl trivial trivial
  | createFungible generation | createFungibleWithFees generation =>
      refine (fungible_given_iff setting generation _ _ _ _).trans (Iff.symm ?_)
      exact supply_fits_iff rfl trivial trivial
  | createNonFungible generation | createNonFungibleWithFees generation =>
      refine (non_fungible_given_iff setting generation _ _).trans (Iff.symm ?_)
      exact keys_fit_iff rfl trivial trivial
  | updateTokenInfo generation =>
      refine (info_given_iff setting generation _ _).trans (Iff.symm ?_)
      exact keys_fit_iff rfl trivial trivial
  | updateTokenKeys =>
      refine (keys_updated_given_iff setting _ _).trans (Iff.symm ?_)
      exact keys_fit_iff rfl trivial trivial
  | getTokenKey => exact key_asked_given_iff setting _ _
  | transferTokens => exact units_moved_given_iff setting _ _ _
  | transferToken => exact units_sent_given_iff setting _ _ _ _
  | transferNfts => exact nfts_moved_given_iff setting _ _ _ _

end Tells

theorem params_solid (function : ServiceFunction) : Ty.allSolid function.params = true := by
  cases function with
  | mintToken signedness | burnToken signedness | wipeTokenAccount signedness | updateTokenExpiryInfo signedness =>
      cases signedness <;> rfl
  | createFungible generation | createFungibleWithFees generation | createNonFungible generation
  | createNonFungibleWithFees generation | updateTokenInfo generation => cases generation <;> rfl
  | _ => rfl

end ServiceFunction

/-- Every function is read as it was written: if its arguments have native counterparts, as the one operation that they
tell, and else not at all. Bytes that fit into memory are fewer than 2^64. -/
theorem calls_read_as_written (setting : CallSetting) (enabled : ∀ family, setting.config.enables family = true)
    (zero : ∀ address, setting.resolve address = 0 ↔ address = 0) (request : ServiceRequest)
    (room : request.bytes.length < UInt64.size) :
    (request.function.Fits request.values →
      ∃ operation, request.function.Tells setting request.values operation ∧
        (∀ other, request.function.Tells setting request.values other → other = operation) ∧
        dispatch setting request.bytes = .ok (some ⟨request.function.selector, operation, .direct⟩)) ∧
      ((∃ fault, dispatch setting request.bytes = .error (.decode fault)) ↔
        ¬ request.function.Fits request.values) := by
  have given := request.function.operation_given_iff setting request.values
  have told := request.function.operation_ok_iff setting zero request.values
  have short : (encode request.function.params request.values).length < UInt64.size := by
    rw [ServiceRequest.bytes, List.length_append] at room
    omega
  rw [dispatch_read_service setting enabled request (decode_written _ request.function.params_solid _ short)]
  constructor
  · intro fits
    obtain ⟨operation, meant⟩ := given.mpr fits
    refine ⟨operation, ((told operation).mp meant).2, fun other tells => ?_, by rw [meant]; rfl⟩
    have also := (told other).mpr ⟨fits.keys, tells⟩
    rw [meant] at also
    exact (Except.ok.inj also).symm
  · rw [← given]
    cases meant : request.function.operation setting request.values with
    | ok operation =>
        refine ⟨?_, fun none => (none ⟨operation, rfl⟩).elim⟩
        rintro ⟨fault, same⟩
        cases same
    | error fault =>
        refine ⟨fun _ => ?_, fun _ => ⟨fault, rfl⟩⟩
        rintro ⟨operation, same⟩
        cases same

namespace Sample

def plain : CallSetting := { sender := holder, resolve := id, tokenType? := fun _ => none, config := {} }

def coinRequest (decimals : UInt32) : ServiceRequest :=
  ⟨.createFungible .second,
    (("Coin", "C", holder.toAddress, "", false, (0 : Int64), false, [], ((0 : UInt32), (0 : Address), (0 : UInt32), ()),
      ()), (100 : UInt64), decimals, ())⟩

def artRequest : ServiceRequest :=
  ⟨.createNonFungibleWithFees .third,
    (("Art", "A", holder.toAddress, "", false, (0 : Int64), false, [], ((0 : Int64), (0 : Address), (0 : Int64), ()),
      ()), [], [((1 : Int64), (10 : Int64), (0 : Int64), coin.toAddress, false, holder.toAddress, ())], ())⟩

def artOrder : CreateOrder :=
  { type := .nonFungible, name := "Art", symbol := "A", treasury := holder, memo := "", supplyType := .infinite
    maxSupply := 0, initialSupply := 0, decimals := 0, freezeDefault := false, keys := [], expiry := {}
    customFees := [.royalty { numerator := 1, denominator := 10, fallback := none, collector := holder }] }

theorem plain_enabled (family : Family) : plain.config.enables family = true := by cases family <;> rfl

theorem hundred_fit : (Narrowing.int64 .uint64 (100 : UInt64)).Fits := by
  unfold Narrowing.Fits
  decide

end Sample

theorem coin_request_read :
    (Sample.coinRequest 8).function.Fits (Sample.coinRequest 8).values ∧
      ∃ operation, (Sample.coinRequest 8).function.Tells Sample.plain (Sample.coinRequest 8).values operation ∧
        dispatch Sample.plain (Sample.coinRequest 8).bytes =
          .ok (some ⟨(Sample.coinRequest 8).function.selector, operation, .direct⟩) := by
  have decimals : (Narrowing.int32 .uint32 (8 : UInt32)).Fits := by
    unfold Narrowing.Fits
    decide
  have fits : (Sample.coinRequest 8).function.Fits (Sample.coinRequest 8).values :=
    ⟨List.forall_mem_cons.mpr ⟨Sample.hundred_fit, List.forall_mem_singleton.mpr decimals⟩, List.forall_mem_nil _,
      trivial, trivial⟩
  obtain ⟨operation, tells, _, read⟩ :=
    (calls_read_as_written Sample.plain Sample.plain_enabled (fun _ => Iff.rfl) (Sample.coinRequest 8)
      (by decide +kernel)).1 fits
  exact ⟨fits, operation, tells, read⟩

theorem decimals_refused_and_fallback_forgotten :
    (¬ ∀ (setting : CallSetting) (request : ServiceRequest), (∀ family, setting.config.enables family = true) →
      (∀ address, setting.resolve address = 0 ↔ address = 0) → request.bytes.length < UInt64.size →
      ((∃ fault, dispatch setting request.bytes = .error (.decode fault)) ↔
        ¬ ((∀ narrowing ∈ request.function.narrowings request.values,
              narrowing.atom ∈ [Atom.uint64, Atom.uint256] → narrowing.Fits) ∧
            (∀ key ∈ request.function.keys request.values, Struct.KeyFits key) ∧
            request.function.Even request.values ∧ request.function.Negatable request.values))) ∧
      dispatch Sample.plain Sample.artRequest.bytes =
        .ok (some ⟨Sample.artRequest.function.selector, .create Sample.artOrder .third, .direct⟩) := by
  constructor
  · intro always
    have unread : dispatch Sample.plain (Sample.coinRequest 2147483648).bytes =
        .error (.decode (.overflow .decimals)) := by
      rw [dispatch_read_service Sample.plain Sample.plain_enabled (Sample.coinRequest 2147483648)
        (decode_written _ rfl _ (by decide +kernel))]
      rfl
    refine (always Sample.plain (Sample.coinRequest 2147483648) Sample.plain_enabled (fun _ => Iff.rfl)
      (by decide +kernel)).mp ⟨_, unread⟩ ⟨?_, List.forall_mem_nil _, trivial, trivial⟩
    exact List.forall_mem_cons.mpr ⟨fun _ => Sample.hundred_fit,
      List.forall_mem_singleton.mpr fun wide => absurd wide (by decide)⟩
  · rw [dispatch_read_service Sample.plain Sample.plain_enabled Sample.artRequest
      (decode_written _ rfl _ (by decide +kernel))]
    rfl

end TokenService
