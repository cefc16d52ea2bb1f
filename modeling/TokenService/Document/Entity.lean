import TokenService.Document.Format
import TokenService.Entity.Row

set_option autoImplicit false

namespace TokenService

def Bytes.format : Format Bytes :=
  .written (fun bytes => "0x" ++ bytes.hex) (fun text =>
    match text.toList with
    | '0' :: 'x' :: digits => Bytes.ofHex? digits
    | _ => none) []

def Address.format : Format Address := .written Address.text Address.ofText? 0

namespace EntityId

def ofText? (text : String) : Option EntityId :=
  match (text.splitOn ".").map String.toNat? with
  | [some shard, some realm, some num] =>
      if shard < UInt32.size ∧ realm < UInt64.size ∧ num < UInt64.size then
        some ⟨UInt32.ofNat shard, UInt64.ofNat realm, UInt64.ofNat num⟩
      else none
  | _ => none

def format : Format EntityId := .written text ofText? zero

end EntityId

def NftId.format : Format NftId :=
  (NftId.mk <$> EntityId.format.field "token" token <*> Format.int64.field "serial" serial).format

def Timestamp.format : Format Timestamp :=
  (Timestamp.mk <$> Format.int64.field "seconds" seconds <*> Format.int32.field "nanos" nanos).format

namespace Key

mutual

def write : Key → Json
  | .ed25519 bytes => .object [("Ed25519", Bytes.format.write bytes)]
  | .secp256k1 bytes => .object [("EcdsaSecp256k1", Bytes.format.write bytes)]
  | .contract id => .object [("ContractId", EntityId.format.write id)]
  | .delegatable id => .object [("DelegatableContractId", EntityId.format.write id)]
  | .list keys => .object [("KeyList", .array (writeAll keys))]
  | .threshold needed keys =>
      .object [("Threshold", .object [("threshold", .whole needed), ("keys", .array (writeAll keys))])]

def writeAll : List Key → List Json
  | [] => []
  | key :: keys => write key :: writeAll keys

end

mutual

def read : Json → Option Key
  | .object [("Ed25519", value)] => (Bytes.format.read value).map .ed25519
  | .object [("EcdsaSecp256k1", value)] => (Bytes.format.read value).map .secp256k1
  | .object [("ContractId", value)] => (EntityId.format.read value).map .contract
  | .object [("DelegatableContractId", value)] => (EntityId.format.read value).map .delegatable
  | .object [("KeyList", .array items)] => (readAll items).map .list
  | .object [("Threshold", .object fields)] => do
      let needed ← Format.uint32.read (Json.field "threshold" (.object fields))
      let keys ← readMembers fields
      some (.threshold needed.toNat keys)
  | _ => none

def readAll : List Json → Option (List Key)
  | [] => some []
  | item :: items => do
      let key ← read item
      let keys ← readAll items
      some (key :: keys)

def readMembers : List (String × Json) → Option (List Key)
  | [] => some []
  | ("keys", .array items) :: _ => readAll items
  | _ :: fields => readMembers fields

end

def format : Format Key := ⟨write, read⟩

end Key

namespace TokenKeys

def format : Format TokenKeys :=
  let slot := Format.field Key.format.optional
  (TokenKeys.mk <$> slot "admin" admin <*> slot "kyc" kyc <*> slot "freeze" freeze <*> slot "wipe" wipe <*>
    slot "supply" supply <*> slot "fee_schedule" feeSchedule <*> slot "pause" pause).format

end TokenKeys

def TokenType.format : Format TokenType := .named [("FungibleCommon", .fungible), ("NonFungibleUnique", .nonFungible)]

def SupplyType.format : Format SupplyType := .named [("Infinite", .infinite), ("Finite", .finite)]

namespace Expiry

def format : Format Expiry :=
  (Expiry.mk <$> Format.int64.field "second" second
    <*> EntityId.format.optional.field "auto_renew_account" autoRenewAccount
    <*> Format.int64.field "auto_renew_period" autoRenewPeriod).format

end Expiry

namespace FixedFee

def format : Format FixedFee :=
  (FixedFee.mk <$> Format.int64.field "amount" amount
    <*> EntityId.format.optional.field "denominating_token" denomination
    <*> Format.flag.field "use_current_token" inMovedToken
    <*> EntityId.format.field "fee_collector" collector).format

end FixedFee

namespace FractionalFee

def format : Format FractionalFee :=
  let number := Format.field Format.int64
  (FractionalFee.mk <$> number "numerator" numerator <*> number "denominator" denominator
    <*> number "minimum_amount" minimum <*> number "maximum_amount" maximum
    <*> Format.flag.field "net_of_transfers" netOfTransfers
    <*> EntityId.format.field "fee_collector" collector).format

end FractionalFee

namespace RoyaltyFee

def format : Format RoyaltyFee :=
  let number := Format.field Format.int64
  (RoyaltyFee.mk <$> number "numerator" numerator <*> number "denominator" denominator
    <*> FixedFee.format.optional.field "fallback" fallback
    <*> EntityId.format.field "fee_collector" collector).format

end RoyaltyFee

namespace CustomFee

def format : Format CustomFee := .oneOf [
  FixedFee.format.case "Fixed" .fixed fun | .fixed fee => some fee | _ => none,
  FractionalFee.format.case "Fractional" .fractional fun | .fractional fee => some fee | _ => none,
  RoyaltyFee.format.case "Royalty" .royalty fun | .royalty fee => some fee | _ => none]

end CustomFee

namespace Token

def format : Format Token :=
  let number := Format.field Format.int64
  let switch := Format.field Format.flag
  let word := Format.field Format.text
  (Token.mk <$> EntityId.format.field "id" id <*> TokenType.format.field "token_type" type
    <*> SupplyType.format.field "supply_type" supplyType <*> word "name" name <*> word "symbol" symbol
    <*> word "memo" memo <*> EntityId.format.field "treasury" treasury <*> Format.uint32.field "decimals" decimals
    <*> number "total_supply" totalSupply <*> number "max_supply" maxSupply <*> switch "freeze_default" freezeDefault
    <*> switch "kyc_granted_by_default" kycGrantedByDefault <*> TokenKeys.format.field "keys" keys
    <*> Expiry.format.field "expiry" expiry <*> CustomFee.format.list.field "custom_fees" customFees
    <*> switch "paused" paused <*> switch "deleted" deleted
    <*> number "last_used_serial" lastUsedSerial).format

end Token

def Table.format {κ ρ : Type} [Ord κ] [Std.TransOrd κ] [Std.LawfulEqOrd κ] (entry : Format (κ × ρ)) :
    Format (Table κ ρ) :=
  entry.list.refine (fun entries => some (Table.ofList entries)) Table.rows

namespace Account

def hbarAllowance : Format (AccountId × Int64) :=
  (Prod.mk <$> EntityId.format.field "spender" Prod.fst <*> Format.int64.field "amount" Prod.snd).format

def delegate (role : String) : Fields Delegate Delegate :=
  Delegate.mk <$> EntityId.format.field "token" Delegate.token <*> EntityId.format.field role Delegate.account

def tokenAllowance : Format (Delegate × Int64) :=
  (Prod.mk <$> (delegate "spender").within Prod.fst <*> Format.int64.field "amount" Prod.snd).format

def operator : Format (Delegate × Unit) :=
  ((fun delegate => (delegate, ())) <$> (delegate "operator").within Prod.fst).format

def format : Format Account :=
  (Account.mk <$> EntityId.format.field "id" id <*> Key.format.optional.field "key" key
    <*> Format.int64.field "balance" balance <*> Format.flag.field "deleted" deleted
    <*> Format.flag.field "smart_contract" smartContract <*> Address.format.optional.field "alias" aliasAddress
    <*> (Table.format hbarAllowance).field "crypto_allowances" hbarAllowances
    <*> (Table.format tokenAllowance).field "fungible_allowances" tokenAllowances
    <*> (Table.format operator).field "approve_for_all" operators).format

end Account

namespace Relationship

def fields : Fields Relationship Relationship :=
  Relationship.mk <$> Format.int64.field "balance" balance <*> Format.flag.field "frozen" frozen
    <*> Format.flag.field "kyc_granted" kycGranted <*> Format.flag.field "automatic_association" automatic

def format : Format Relationship := fields.format

end Relationship

def Holding.fields : Fields Holding Holding :=
  Holding.mk <$> EntityId.format.field "account" account <*> EntityId.format.field "token" token

namespace Nft

def format : Format Nft :=
  (Nft.mk <$> NftId.format.field "id" id <*> EntityId.format.field "owner" owner
    <*> EntityId.format.optional.field "spender" spender <*> Bytes.format.field "metadata" metadata
    <*> Timestamp.format.field "creation_time" creationTime).format

end Nft

end TokenService
