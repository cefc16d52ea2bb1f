import TokenService.Document.Entity
import TokenService.Ledger.View

set_option autoImplicit false

namespace TokenService

namespace Ledger

def keyed {κ ρ : Type} (row : Format ρ) (key : ρ → κ) : Format (κ × ρ) :=
  row.refine (fun row => some (key row, row)) Prod.snd

def relationship : Format (Holding × Relationship) :=
  (Prod.mk <$> Holding.fields.within Prod.fst <*> Relationship.fields.within Prod.snd).format

def format : Format Ledger :=
  (Ledger.mk <$> (Table.format (keyed Account.format Account.id)).field "accounts" accounts
    <*> (Table.format (keyed Token.format Token.id)).field "tokens" tokens
    <*> (Table.format relationship).field "rels" relationships
    <*> (Table.format (keyed Nft.format Nft.id)).field "nfts" nfts
    <*> Format.uint64.field "next_entity" nextEntity).format

end Ledger

namespace Changes

def staged {κ ρ : Type} (key : Fields κ κ) (row : Format ρ) : Format (κ × Option ρ) :=
  (Prod.mk <$> key.within Prod.fst <*> row.optional.field "row" Prod.snd).format

def format : Format Changes :=
  (Changes.mk <$> (Table.format (staged (EntityId.format.field "id" id) Account.format)).field "accounts" accounts
    <*> (Table.format (staged (EntityId.format.field "id" id) Token.format)).field "tokens" tokens
    <*> (Table.format (staged Holding.fields Relationship.format)).field "token_rels" relationships
    <*> (Table.format (staged (NftId.format.field "id" id) Nft.format)).field "nfts" nfts
    <*> Format.uint64.field "entities_created" entitiesCreated).format

end Changes

end TokenService
