import TokenService.Document.Entity
import TokenService.Transaction

set_option autoImplicit false

namespace TokenService

namespace Adjustment

def format : Format Adjustment :=
  (Adjustment.mk <$> EntityId.format.field "account" account <*> Format.int64.field "amount" amount
    <*> Format.flag.field "is_approval" approval).format

end Adjustment

namespace NftMove

def format : Format NftMove :=
  (NftMove.mk <$> EntityId.format.field "sender" sender <*> EntityId.format.field "receiver" receiver
    <*> Format.int64.field "serial" serial <*> Format.flag.field "is_approval" approval).format

end NftMove

namespace TokenMoves

def format : Format TokenMoves :=
  (TokenMoves.mk <$> EntityId.format.field "token" token <*> Adjustment.format.list.field "transfers" adjustments
    <*> NftMove.format.list.field "nft_transfers" nftMoves).format

end TokenMoves

namespace Association

def format : Format Association :=
  (Association.mk <$> EntityId.format.field "account" account <*> EntityId.format.list.field "tokens" tokens).format

end Association

namespace Mint

def format : Format Mint :=
  (Mint.mk <$> EntityId.format.field "token" token <*> Format.int64.field "amount" amount
    <*> Bytes.format.list.field "metadata" metadata).format

end Mint

namespace Burn

def format : Format Burn :=
  (Burn.mk <$> EntityId.format.field "token" token <*> Format.int64.field "amount" amount
    <*> Format.int64.list.field "serial_numbers" serials).format

end Burn

namespace Wipe

def format : Format Wipe :=
  (Wipe.mk <$> EntityId.format.field "token" token <*> EntityId.format.field "account" account
    <*> Format.int64.field "amount" amount <*> Format.int64.list.field "serial_numbers" serials).format

end Wipe

namespace Creation

def format : Format Creation :=
  (Creation.mk <$> Format.text.field "name" name <*> Format.text.field "symbol" symbol
    <*> EntityId.format.field "treasury" treasury <*> Format.text.field "memo" memo
    <*> TokenType.format.field "token_type" type <*> SupplyType.format.field "supply_type" supplyType
    <*> Format.int64.field "max_supply" maxSupply <*> Format.int64.field "initial_supply" initialSupply
    <*> Format.int32.field "decimals" decimals <*> Format.flag.field "freeze_default" freezeDefault
    <*> TokenKeys.format.field "keys" keys <*> Expiry.format.field "expiry" expiry
    <*> CustomFee.format.list.field "custom_fees" customFees).format

end Creation

namespace Update

def format : Format Update :=
  let word := Format.field Format.text.optional
  let number := Format.field Format.int64.optional
  let account := Format.field EntityId.format.optional
  (Update.mk <$> EntityId.format.field "token" token <*> word "name" name <*> word "symbol" symbol
    <*> account "treasury" treasury <*> word "memo" memo <*> TokenKeys.format.field "keys" keys
    <*> number "expiry" expirySecond <*> account "auto_renew_account" autoRenewAccount
    <*> number "auto_renew_period" autoRenewPeriod).format

end Update

namespace HbarGrant

def format : Format HbarGrant :=
  (HbarGrant.mk <$> EntityId.format.field "owner" owner <*> EntityId.format.field "spender" spender
    <*> Format.int64.field "amount" amount).format

end HbarGrant

namespace UnitGrant

def format : Format UnitGrant :=
  (UnitGrant.mk <$> EntityId.format.field "token" token <*> EntityId.format.field "owner" owner
    <*> EntityId.format.field "spender" spender <*> Format.int64.field "amount" amount).format

end UnitGrant

namespace NftGrant

def format : Format NftGrant :=
  (NftGrant.mk <$> EntityId.format.field "token" token <*> EntityId.format.field "owner" owner
    <*> EntityId.format.field "spender" spender <*> Format.int64.list.field "serial_numbers" serials
    <*> Format.flag.optional.field "approved_for_all" forAll
    <*> EntityId.format.optional.field "delegating_spender" delegatingSpender).format

end NftGrant

namespace NftRevocation

def format : Format NftRevocation :=
  (NftRevocation.mk <$> EntityId.format.field "token" token <*> EntityId.format.field "owner" owner
    <*> Format.int64.list.field "serial_numbers" serials).format

end NftRevocation

namespace Body

def transfers : Format (List Adjustment × List TokenMoves) :=
  (Prod.mk <$> Adjustment.format.list.field "hbar_transfers" Prod.fst
    <*> TokenMoves.format.list.field "token_transfers" Prod.snd).format

def grants : Format (List HbarGrant × List UnitGrant × List NftGrant) :=
  ((fun hbar units nfts => (hbar, units, nfts)) <$> HbarGrant.format.list.field "crypto" (fun grants => grants.1)
    <*> UnitGrant.format.list.field "fungible" (fun grants => grants.2.1)
    <*> NftGrant.format.list.field "nft" (fun grants => grants.2.2)).format

def question : Format Body := .oneOf [
  EntityId.format.case "Token" .queryToken fun | .queryToken token => some token | _ => none,
  NftId.format.case "Nft" .queryNft fun | .queryNft id => some id | _ => none]

def format : Format Body := .oneOf [
  Association.format.case "TokenAssociate" .associate fun | .associate order => some order | _ => none,
  Association.format.case "TokenDissociate" .dissociate fun | .dissociate order => some order | _ => none,
  Mint.format.case "TokenMint" .mint fun | .mint order => some order | _ => none,
  Burn.format.case "TokenBurn" .burn fun | .burn order => some order | _ => none,
  Wipe.format.case "TokenWipe" .wipe fun | .wipe order => some order | _ => none,
  EntityId.format.case "TokenPause" .pause fun | .pause token => some token | _ => none,
  EntityId.format.case "TokenUnpause" .unpause fun | .unpause token => some token | _ => none,
  Creation.format.case "TokenCreate" .create fun | .create order => some order | _ => none,
  Update.format.case "TokenUpdate" .update fun | .update order => some order | _ => none,
  transfers.case "CryptoTransfer" (fun (hbar, tokens) => .transfer hbar tokens)
    fun | .transfer hbar tokens => some (hbar, tokens) | _ => none,
  grants.case "CryptoApproveAllowance" (fun (hbar, units, nfts) => .approve hbar units nfts)
    fun | .approve hbar units nfts => some (hbar, units, nfts) | _ => none,
  NftRevocation.format.list.case "CryptoDeleteAllowance" .revoke fun | .revoke orders => some orders | _ => none,
  question.case "TokenQuery" id fun
    | .queryToken token => some (.queryToken token)
    | .queryNft id => some (.queryNft id)
    | _ => none]

end Body

end TokenService
