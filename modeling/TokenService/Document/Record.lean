import TokenService.Document.Transaction
import TokenService.Ledger.Work
import TokenService.Record

set_option autoImplicit false

namespace TokenService

def Status.format : Format Status := .named (Status.all.map fun status => (status.name, status))

namespace Execution

def minting : Format (Int64 × List Int64) :=
  (Prod.mk <$> Format.int64.field "new_total_supply" Prod.fst <*> Format.int64.list.field "serials" Prod.snd).format

def format : Format Execution := .oneOf [
  Format.unit.case "Completed" (fun _ => .completed) fun | .completed => some () | _ => none,
  minting.case "Minted" (fun (supply, serials) => .minted supply serials)
    fun | .minted supply serials => some (supply, serials) | _ => none,
  Format.int64.case "SupplyChanged" .supplyChanged fun | .supplyChanged supply => some supply | _ => none,
  EntityId.format.case "Created" .created fun | .created token => some token | _ => none]

end Execution

namespace NewAssociation

def format : Format NewAssociation :=
  (NewAssociation.mk <$> EntityId.format.field "token" token <*> EntityId.format.field "account" account).format

end NewAssociation

namespace Effects

def format : Format Effects :=
  (Effects.mk <$> EntityId.format.optional.field "new_token" newToken
    <*> Format.int64.optional.field "new_total_supply" newTotalSupply
    <*> Format.int64.list.field "minted_serials" mintedSerials
    <*> TokenMoves.format.list.field "token_transfers" tokenTransfers
    <*> NewAssociation.format.list.field "associations" associations
    <*> Adjustment.format.list.field "hbar_transfers" hbarTransfers).format

end Effects

namespace Receipt

def format : Format Receipt :=
  (Receipt.mk <$> Status.format.field "status" status <*> EntityId.format.optional.field "token_id" token
    <*> Format.int64.optional.field "new_total_supply" newTotalSupply
    <*> Format.int64.list.field "serial_numbers" serials).format

end Receipt

namespace CallDetails

def format : Format CallDetails :=
  (CallDetails.mk <$> EntityId.format.field "contract_id" contract <*> Bytes.format.field "result" result
    <*> Format.text.optional.field "error_message" errorMessage <*> Format.uint64.field "gas_used" gasUsed
    <*> EntityId.format.field "sender" sender).format

end CallDetails

namespace Record

def format : Format Record :=
  (Record.mk <$> Receipt.format.field "receipt" receipt <*> Format.text.field "memo" memo
    <*> Timestamp.format.field "consensus_time" consensusTime
    <*> Adjustment.format.list.field "hbar_transfers" hbarTransfers
    <*> TokenMoves.format.list.field "token_transfer_lists" tokenTransfers
    <*> NewAssociation.format.list.field "automatic_token_associations" associations
    <*> CallDetails.format.optional.field "contract_call_result" details).format

end Record

end TokenService
