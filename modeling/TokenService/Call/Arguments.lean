import TokenService.Bounded
import TokenService.Call.Fault

set_option autoImplicit false

namespace TokenService

open Abi

structure CallSetting where
  sender : AccountId
  resolve : Address → Address
  tokenType? : TokenId → Option TokenType
  config : Config

namespace CallSetting

def entity (setting : CallSetting) (address : Address) : EntityId := .ofAddress (setting.resolve address)

def entity? (setting : CallSetting) (address : Address) : Option EntityId :=
  if address = 0 then none else some (setting.entity address)

end CallSetting

def native64 (argument : WideArgument) (number : Nat) : Except DecodeFault Int64 :=
  match int64? number with
  | some value => .ok value
  | none => .error (.overflow argument)

def native32 (argument : WideArgument) (number : Nat) : Except DecodeFault Int32 :=
  match int32? number with
  | some value => .ok value
  | none => .error (.overflow argument)

namespace Generation

def cap : (generation : Generation) → generation.capAtom.Val → Int64
  | .first, value => value.toUInt64.toInt64
  | .second, value => value
  | .third, value => value

def time : (generation : Generation) → generation.timeAtom.Val → Int64
  | .first, value => value.toUInt64.toInt64
  | .second, value => value.toUInt64.toInt64
  | .third, value => value

def supply : (generation : Generation) → generation.supplyAtom.Val → Except DecodeFault Int64
  | .first, value => native64 .initialTotalSupply value.toNat
  | .second, value => native64 .initialTotalSupply value.toNat
  | .third, value => .ok value

def decimals : (generation : Generation) → generation.decimalsAtom.Val → Except DecodeFault Int32
  | .first, value => native32 .decimals value.toNat
  | .second, value => native32 .decimals value.toNat
  | .third, value => .ok value

end Generation

namespace Struct

-- At most one kind of key may be set, and key bytes have the length of their kind.
def toKeyChoice (setting : CallSetting) : keyValue.Val → Except KeyFault KeyChoice
  | (inherit, contract, ed25519, secp256k1, delegatable, ()) => do
      if List.length ed25519 ≠ 0 ∧ List.length ed25519 ≠ 32 then throw (.ed25519Length (List.length ed25519))
      if List.length secp256k1 ≠ 0 ∧ List.length secp256k1 ≠ 33 then throw (.secp256k1Length (List.length secp256k1))
      let kinds : List (Option KeyChoice) := [
        bif inherit then some .inherit else none,
        (setting.entity? contract).map .contract,
        if List.length ed25519 = 0 then none else some (.ed25519 ed25519),
        if List.length secp256k1 = 0 then none else some (.secp256k1 secp256k1),
        (setting.entity? delegatable).map .delegatable]
      match kinds.filterMap id with
      | [] => pure .unset
      | [kind] => pure kind
      | several => throw (.severalKinds several.length)

def toKeyArgument (setting : CallSetting) : tokenKey.Val → Except DecodeFault KeyArgument
  | (mask, key, ()) =>
      match uint64? (BitVec.toNat mask) with
      | none => .error (.invalidKey .wideMask)
      | some mask =>
          match toKeyChoice setting key with
          | .ok choice => .ok ⟨mask, choice⟩
          | .error fault => .error (.invalidKey fault)

def toExpiry (setting : CallSetting) (generation : Generation) : (expiry generation).Val → Expiry
  | (second, account, period, ()) =>
      { second := generation.time second
        autoRenewAccount := setting.entity? account
        autoRenewPeriod := generation.time period }

def toFixedFee (setting : CallSetting) : fixedFee.Val → CustomFee
  | (amount, token, _, inMovedToken, collector, ()) =>
      .fixed
        { amount := amount
          denomination := setting.entity? token
          inMovedToken := inMovedToken
          collector := setting.entity collector }

def toFractionalFee (setting : CallSetting) : fractionalFee.Val → CustomFee
  | (numerator, denominator, minimum, maximum, netOfTransfers, collector, ()) =>
      .fractional
        { numerator := numerator
          denominator := denominator
          minimum := minimum
          maximum := maximum
          netOfTransfers := netOfTransfers
          collector := setting.entity collector }

-- A fallback of nothing is none.
def toRoyaltyFee (setting : CallSetting) : royaltyFee.Val → CustomFee
  | (numerator, denominator, amount, token, _, collector, ()) =>
      let fallback : FixedFee :=
        { amount := amount, denomination := setting.entity? token, collector := setting.entity collector }
      .royalty
        { numerator := numerator
          denominator := denominator
          fallback := if fallback.amount = 0 then none else some fallback
          collector := setting.entity collector }

def toCreateOrder (setting : CallSetting) (generation : Generation) (type : TokenType) (initialSupply : Int64)
    (decimals : Int32) (customFees : List CustomFee) : (token generation).Val → Except DecodeFault CreateOrder
  | (name, symbol, treasury, memo, finite, maxSupply, freezeDefault, keys, expiry, ()) => do
      let keys ← List.mapM (toKeyArgument setting) keys
      pure
        { type := type
          name := name
          symbol := symbol
          treasury := setting.entity treasury
          memo := memo
          supplyType := bif finite then .finite else .infinite
          maxSupply := generation.cap maxSupply
          initialSupply := initialSupply
          decimals := decimals
          freezeDefault := freezeDefault
          keys := keys
          expiry := toExpiry setting generation expiry
          customFees := customFees }

-- The treasury is left as it is when its resolved address is zero.
def toInfoOrder (setting : CallSetting) (generation : Generation) (target : Address) :
    (token generation).Val → Except DecodeFault InfoOrder
  | (name, symbol, treasury, memo, _, _, _, keys, expiry, ()) => do
      let keys ← List.mapM (toKeyArgument setting) keys
      pure
        { token := setting.entity target
          name := name
          symbol := symbol
          treasury := if setting.resolve treasury = 0 then none else some (setting.entity treasury)
          memo := memo
          keys := keys
          expiry := toExpiry setting generation expiry }

def toPlainMoves (setting : CallSetting) : plainMoves.Val → TokenMoves
  | (token, adjustments, nftMoves, ()) =>
      let adjust : plainAdjustment.Val → Adjustment := fun (account, amount, ()) =>
        { account := setting.entity account, amount := amount }
      let move : plainNftMove.Val → NftMove := fun (sender, receiver, serial, ()) =>
        { sender := setting.entity sender, receiver := setting.entity receiver, serial := serial }
      { token := setting.entity token, adjustments := List.map adjust adjustments, nftMoves := List.map move nftMoves }

def toAdjustment (setting : CallSetting) : adjustment.Val → Adjustment
  | (account, amount, approval, ()) =>
      { account := setting.entity account, amount := amount, approval := approval }

def toMoves (setting : CallSetting) : moves.Val → TokenMoves
  | (token, adjustments, nftMoves, ()) =>
      let move : nftMove.Val → NftMove := fun (sender, receiver, serial, approval, ()) =>
        { sender := setting.entity sender, receiver := setting.entity receiver, serial := serial, approval := approval }
      { token := setting.entity token
        adjustments := List.map (toAdjustment setting) adjustments
        nftMoves := List.map move nftMoves }

end Struct

def inStep (left right : Nat) : Except DecodeFault Unit :=
  if left = right then .ok () else .error (.lengthMismatch left right)

namespace ServiceFunction

def operation (setting : CallSetting) :
    (function : ServiceFunction) → Ty.Vals function.params → Except DecodeFault Operation
  | .associateToken, (account, token, ()) => .ok (.associate (setting.entity account) (setting.entity token))
  | .associateTokens, (account, tokens, ()) =>
      .ok (.associateAll (setting.entity account) (List.map setting.entity tokens))
  | .dissociateToken, (account, token, ()) => .ok (.dissociate (setting.entity account) (setting.entity token))
  | .dissociateTokens, (account, tokens, ()) =>
      .ok (.dissociateAll (setting.entity account) (List.map setting.entity tokens))
  | .mintToken .unsigned, (token, amount, metadata, ()) => do
      let amount ← native64 .amount (UInt64.toNat amount)
      pure (.mint ⟨setting.entity token, amount, metadata⟩ .first)
  | .mintToken .signed, (token, amount, metadata, ()) =>
      .ok (.mint ⟨setting.entity token, amount, metadata⟩ .second)
  | .burnToken .unsigned, (token, amount, serials, ()) => do
      let amount ← native64 .amount (UInt64.toNat amount)
      pure (.burn ⟨setting.entity token, amount, serials⟩ .first)
  | .burnToken .signed, (token, amount, serials, ()) =>
      .ok (.burn ⟨setting.entity token, amount, serials⟩ .second)
  | .wipeTokenAccount .unsigned, (token, account, amount, ()) =>
      .ok (.wipe ⟨setting.entity token, setting.entity account, (UInt32.toUInt64 amount).toInt64, []⟩ .first)
  | .wipeTokenAccount .signed, (token, account, amount, ()) =>
      .ok (.wipe ⟨setting.entity token, setting.entity account, amount, []⟩ .second)
  | .wipeTokenAccountNft, (token, account, serials, ()) =>
      .ok (.wipe ⟨setting.entity token, setting.entity account, 0, serials⟩ .first)
  | .pauseToken, (token, ()) => .ok (.pause (setting.entity token))
  | .unpauseToken, (token, ()) => .ok (.unpause (setting.entity token))
  | .createFungible generation, (token, supply, decimals, ()) => do
      let supply ← generation.supply supply
      let decimals ← generation.decimals decimals
      let order ← Struct.toCreateOrder setting generation .fungible supply decimals [] token
      pure (.create order generation)
  | .createFungibleWithFees generation, (token, supply, decimals, fixed, fractional, ()) => do
      let supply ← generation.supply supply
      let decimals ← generation.decimals decimals
      let fees := List.map (Struct.toFixedFee setting) fixed ++ List.map (Struct.toFractionalFee setting) fractional
      let order ← Struct.toCreateOrder setting generation .fungible supply decimals fees token
      pure (.create order generation)
  | .createNonFungible generation, (token, ()) => do
      let order ← Struct.toCreateOrder setting generation .nonFungible 0 0 [] token
      pure (.create order generation)
  | .createNonFungibleWithFees generation, (token, fixed, royalty, ()) => do
      let fees := List.map (Struct.toFixedFee setting) fixed ++ List.map (Struct.toRoyaltyFee setting) royalty
      let order ← Struct.toCreateOrder setting generation .nonFungible 0 0 fees token
      pure (.create order generation)
  | .updateTokenInfo generation, (target, token, ()) => do
      let order ← Struct.toInfoOrder setting generation target token
      pure (.updateInfo order generation)
  | .updateTokenKeys, (token, keys, ()) => do
      let keys ← List.mapM (Struct.toKeyArgument setting) keys
      pure (.updateKeys (setting.entity token) keys)
  | .updateTokenExpiryInfo .unsigned, (token, expiry, ()) =>
      .ok (.updateExpiry (setting.entity token) (Struct.toExpiry setting .first expiry) .first)
  | .updateTokenExpiryInfo .signed, (token, expiry, ()) =>
      .ok (.updateExpiry (setting.entity token) (Struct.toExpiry setting .third expiry) .second)
  | .cryptoTransfer, (moves, ()) =>
      .ok (.transfer .cryptoTransfer [] (List.map (Struct.toPlainMoves setting) moves))
  | .atomicTransfer, ((hbar, ()), moves, ()) =>
      .ok (.transfer .atomicTransfer (List.map (Struct.toAdjustment setting) hbar)
        (List.map (Struct.toMoves setting) moves))
  | .transferTokens, (token, accounts, amounts, ()) => do
      inStep (List.length accounts) (List.length amounts)
      let adjust := fun (account : Address) (amount : Int64) =>
        ({ account := setting.entity account, amount := amount } : Adjustment)
      pure (.transfer .transferTokens []
        [{ token := setting.entity token, adjustments := List.zipWith adjust accounts amounts }])
  | .transferToken, (token, sender, receiver, amount, ()) => do
      let debit ← match int64? (-(Int64.toInt amount)) with
        | some debit => Except.ok debit
        | none => Except.error (.overflow .amount)
      pure (.transfer .transferToken []
        [{ token := setting.entity token
           adjustments := [
             { account := setting.entity sender, amount := debit },
             { account := setting.entity receiver, amount := amount }] }])
  | .transferNfts, (token, senders, receivers, serials, ()) => do
      inStep (List.length senders) (List.length receivers)
      inStep (List.length senders) (List.length serials)
      let move := fun (ends : Address × Address) (serial : Int64) =>
        ({ sender := setting.entity ends.1, receiver := setting.entity ends.2, serial := serial } : NftMove)
      pure (.transfer .transferNfts []
        [{ token := setting.entity token, nftMoves := List.zipWith move (List.zip senders receivers) serials }])
  | .transferNft, (token, sender, receiver, serial, ()) =>
      .ok (.transfer .transferNft []
        [{ token := setting.entity token
           nftMoves := [
             { sender := setting.entity sender, receiver := setting.entity receiver, serial := serial }] }])
  | .transferFrom, (token, source, receiver, amount, ()) => do
      let amount ← native64 .amount (BitVec.toNat amount)
      pure (.transferAsset (setting.entity token) (some (setting.entity source)) (setting.entity receiver)
        (.amount amount))
  | .transferFromNft, (token, source, receiver, serial, ()) => do
      let serial ← native64 .serialNumber (BitVec.toNat serial)
      pure (.transferAsset (setting.entity token) (some (setting.entity source)) (setting.entity receiver)
        (.serial serial))
  | .approve, (token, spender, amount, ()) => do
      let amount ← native64 .amount (BitVec.toNat amount)
      pure (.approve (setting.entity token) (setting.entity spender) (.amount amount))
  | .approveNft, (token, spender, serial, ()) => do
      let serial ← native64 .serialNumber (BitVec.toNat serial)
      pure (.approve (setting.entity token) (setting.entity spender) (.serial serial))
  | .setApprovalForAll, (token, operator, approved, ()) =>
      .ok (.setApprovalForAll (setting.entity token) (setting.entity operator) approved)
  | .getApproved, (token, serial, ()) => do
      let serial ← native64 .serialNumber (BitVec.toNat serial)
      pure (.query (.getApproved ⟨setting.entity token, serial⟩))
  | .isApprovedForAll, (token, owner, operator, ()) =>
      .ok (.query (.isApprovedForAll (setting.entity token) (setting.entity owner) (setting.entity operator)))
  | .allowance, (token, owner, spender, ()) =>
      .ok (.query (.allowance (setting.entity token) (setting.entity owner) (setting.entity spender)))
  | .getTokenInfo, (token, ()) => .ok (.query (.info (setting.entity token)))
  | .getFungibleTokenInfo, (token, ()) => .ok (.query (.fungibleInfo (setting.entity token)))
  | .getNonFungibleTokenInfo, (token, serial, ()) => .ok (.query (.nftInfo ⟨setting.entity token, serial⟩))
  | .getTokenKey, (token, mask, ()) =>
      match uint64? (BitVec.toNat mask) with
      | some mask => .ok (.query (.key (setting.entity token) mask))
      | none => .error (.overflow .keyType)
  | .getTokenCustomFees, (token, ()) => .ok (.query (.customFees (setting.entity token)))
  | .getTokenExpiryInfo, (token, ()) => .ok (.query (.expiry (setting.entity token)))
  | .isToken, (token, ()) => .ok (.query (.isToken (setting.entity token)))
  | .getTokenType, (token, ()) => .ok (.query (.type (setting.entity token)))

end ServiceFunction

namespace FacadeFunction

-- A number that the type of the token makes an amount or a serial.
def asset (type : Option TokenType) (number : Word) : Except DispatchFault Asset :=
  match type with
  | some .fungible => ((native64 .amount number.toNat).map Asset.amount).mapError .decode
  | some .nonFungible => ((native64 .serialNumber number.toNat).map Asset.serial).mapError .decode
  | none => .error (.unsupported .erc20)

def serial (token : TokenId) (number : Word) : Except DispatchFault NftId :=
  ((native64 .tokenId number.toNat).map fun serial => ⟨token, serial⟩).mapError .decode

def operation (setting : CallSetting) (token : TokenId) (type : Option TokenType) :
    (function : FacadeFunction) → Ty.Vals function.params → Except DispatchFault Operation
  | .name, () => .ok (.query (.name token))
  | .symbol, () => .ok (.query (.symbol token))
  | .decimals, () => .ok (.query (.decimals token))
  | .totalSupply, () => .ok (.query (.totalSupply token))
  | .balanceOf, (account, ()) => .ok (.query (.balanceOf token (setting.entity account)))
  | .transfer, (receiver, amount, ()) => do
      let amount ← (native64 .amount (BitVec.toNat amount)).mapError .decode
      pure (.transferAsset token none (setting.entity receiver) (.amount amount))
  | .transferFrom, (source, receiver, number, ()) => do
      let asset ← asset type number
      pure (.transferAsset token (some (setting.entity source)) (setting.entity receiver) asset)
  | .allowance, (owner, spender, ()) =>
      .ok (.query (.allowance token (setting.entity owner) (setting.entity spender)))
  | .approve, (spender, number, ()) => do
      let asset ← asset type number
      pure (.approve token (setting.entity spender) asset)
  | .ownerOf, (number, ()) => do
      let id ← serial token number
      pure (.query (.ownerOf id))
  | .tokenUri, (number, ()) => do
      let id ← serial token number
      pure (.query (.tokenUri id))
  | .setApprovalForAll, (operator, approved, ()) =>
      .ok (.setApprovalForAll token (setting.entity operator) approved)
  | .getApproved, (number, ()) => do
      let id ← serial token number
      pure (.query (.getApproved id))
  | .isApprovedForAll, (owner, operator, ()) =>
      .ok (.query (.isApprovedForAll token (setting.entity owner) (setting.entity operator)))
  | .associate, () => .ok (.associate setting.sender token)
  | .dissociate, () => .ok (.dissociate setting.sender token)

end FacadeFunction

end TokenService
