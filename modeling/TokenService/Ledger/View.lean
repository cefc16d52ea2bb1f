import TokenService.Bounded
import TokenService.Entity.Row
import TokenService.Status

set_option autoImplicit false

namespace TokenService

namespace Table

variable {κ ρ : Type} [Ord κ]

-- The row after the staged changes; a staged nothing hides the row below.
def overlaid (base : Table κ ρ) (staged : Table κ (Option ρ)) (key : κ) : Option ρ :=
  (staged.get? key).getD (base.get? key)

end Table

structure Ledger where
  accounts : Table AccountId Account := ∅
  tokens : Table TokenId Token := ∅
  relationships : Table Holding Relationship := ∅
  nfts : Table NftId Nft := ∅
  nextEntity : UInt64 := 0
  deriving DecidableEq, Inhabited

structure Changes where
  accounts : Table AccountId (Option Account) := ∅
  tokens : Table TokenId (Option Token) := ∅
  relationships : Table Holding (Option Relationship) := ∅
  nfts : Table NftId (Option Nft) := ∅
  entitiesCreated : UInt64 := 0
  deriving DecidableEq, Inhabited

namespace Ledger

def apply (ledger : Ledger) (changes : Changes) : Ledger :=
  { accounts := ledger.accounts.merge changes.accounts
    tokens := ledger.tokens.merge changes.tokens
    relationships := ledger.relationships.merge changes.relationships
    nfts := ledger.nfts.merge changes.nfts
    nextEntity := ledger.nextEntity + changes.entitiesCreated }

end Ledger

structure View where
  ledger : Ledger
  changes : Changes := {}
  deriving DecidableEq, Inhabited

namespace View

def account (view : View) (id : AccountId) : Option Account := view.ledger.accounts.overlaid view.changes.accounts id

def token (view : View) (id : TokenId) : Option Token := view.ledger.tokens.overlaid view.changes.tokens id

def relationship (view : View) (account : AccountId) (token : TokenId) : Option Relationship :=
  view.ledger.relationships.overlaid view.changes.relationships ⟨account, token⟩

def nft (view : View) (id : NftId) : Option Nft := view.ledger.nfts.overlaid view.changes.nfts id

def tokenType (view : View) (id : TokenId) : Option TokenType := (view.token id).map Token.type

def putAccount (view : View) (account : Account) : View :=
  { view with changes.accounts := view.changes.accounts.insert account.id (some account) }

def putToken (view : View) (token : Token) : View :=
  { view with changes.tokens := view.changes.tokens.insert token.id (some token) }

def putRelationship (view : View) (account : AccountId) (token : TokenId) (relationship : Relationship) : View :=
  { view with changes.relationships := view.changes.relationships.insert ⟨account, token⟩ (some relationship) }

def removeRelationship (view : View) (account : AccountId) (token : TokenId) : View :=
  { view with changes.relationships := view.changes.relationships.insert ⟨account, token⟩ none }

def putNft (view : View) (nft : Nft) : View :=
  { view with changes.nfts := view.changes.nfts.insert nft.id (some nft) }

def removeNft (view : View) (id : NftId) : View :=
  { view with changes.nfts := view.changes.nfts.insert id none }

def reserving (view : View) (created : UInt64) : View := { view with changes.entitiesCreated := created }

def allocate (view : View) : Except Overflow (UInt64 × View) := do
  let number ← addExact64 view.ledger.nextEntity view.changes.entitiesCreated
  let created ← addExact64 view.changes.entitiesCreated 1
  pure (number, view.reserving created)

def demand {α : Type} (row : Option α) (missing : Status) : Except Status α :=
  match row with
  | some row => .ok row
  | none => .error missing

def liveAccount (view : View) (id : AccountId) : Except Status Account := do
  let account ← demand (view.account id) .invalidAccountId
  if account.deleted then .error .accountDeleted else .ok account

def existingToken (view : View) (id : TokenId) : Except Status Token := do
  let token ← demand (view.token id) .invalidTokenId
  if token.deleted then .error .tokenWasDeleted else .ok token

def usableToken (view : View) (id : TokenId) : Except Status Token := do
  let token ← view.existingToken id
  if token.paused then .error .tokenIsPaused else .ok token

def presentRelationship (view : View) (account : AccountId) (token : TokenId) : Except Status Relationship :=
  demand (view.relationship account token) .tokenNotAssociatedToAccount

def usableRelationship (view : View) (account : AccountId) (token : TokenId) : Except Status Relationship := do
  let relationship ← view.presentRelationship account token
  if relationship.frozen then .error .accountFrozenForToken
  else if !relationship.kycGranted then .error .accountKycNotGrantedForToken
  else .ok relationship

end View

end TokenService
