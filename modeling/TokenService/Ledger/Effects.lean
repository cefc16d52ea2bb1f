import TokenService.Ledger.View
import TokenService.Transaction

set_option autoImplicit false

namespace TokenService

structure NewAssociation where
  token : TokenId
  account : AccountId
  deriving DecidableEq, Repr

structure Effects where
  newToken : Option TokenId := none
  newTotalSupply : Option Int64 := none
  mintedSerials : List Int64 := []
  tokenTransfers : List TokenMoves := []
  associations : List NewAssociation := []
  hbarTransfers : List Adjustment := []
  deriving DecidableEq, Repr, Inhabited

namespace Effects

-- The last new token in the order of the changes.
def newToken? (ledger : Ledger) (changes : Changes) : Option TokenId :=
  changes.tokens.rows.foldl (fun found (id, staged) =>
    if staged.isSome && (ledger.tokens.get? id).isNone then some id else found) none

-- The last supply that differs; a new token had none.
def newTotalSupply? (ledger : Ledger) (changes : Changes) : Option Int64 :=
  changes.tokens.rows.foldl (fun found (id, staged) =>
    match staged with
    | none => found
    | some token =>
        let before := ((ledger.tokens.get? id).map Token.totalSupply).getD 0
        if token.totalSupply = before then found else some token.totalSupply) none

def newAssociations (ledger : Ledger) (changes : Changes) : List NewAssociation :=
  changes.relationships.rows.filterMap fun (holding, staged) =>
    if (ledger.relationships.get? holding).isNone && staged.isSome then some ⟨holding.token, holding.account⟩ else none

-- The type of a token, after the changes unless they remove it.
def typeAfter (ledger : Ledger) (changes : Changes) (id : TokenId) : Option TokenType :=
  match changes.tokens.get? id with
  | some (some token) => some token.type
  | _ => (ledger.tokens.get? id).map Token.type

def difference (account : AccountId) (before after : Int64) : Except Overflow (Option Adjustment) :=
  if after = before then .ok none
  else do
    let amount ← subExact after before
    pure (some { account := account, amount := amount })

def unitDifferences (ledger : Ledger) (changes : Changes) : Except Overflow (List (TokenId × Adjustment)) := do
  let differences ← changes.relationships.rows.mapM fun (holding, staged) =>
    if typeAfter ledger changes holding.token = some .nonFungible then pure none
    else do
      let before := ((ledger.relationships.get? holding).map Relationship.balance).getD 0
      let after := (staged.map Relationship.balance).getD 0
      let difference ← difference holding.account before after
      pure (difference.map fun adjustment => (holding.token, adjustment))
  pure (differences.filterMap id)

-- What each owner handed over; nobody stands for the owner of a serial that is not there.
def nftMoves (ledger : Ledger) (changes : Changes) : List (TokenId × NftMove) :=
  changes.nfts.rows.filterMap fun (id, staged) =>
    let before := (ledger.nfts.get? id).map Nft.owner
    let after := staged.map Nft.owner
    if before = after then none
    else some (id.token, { sender := before.getD .zero, receiver := after.getD .zero, serial := id.serial })

def newSerials (ledger : Ledger) (changes : Changes) : List Int64 :=
  changes.nfts.rows.filterMap fun (id, staged) =>
    if (ledger.nfts.get? id).isNone && staged.isSome then some id.serial else none

def hbarDifferences (ledger : Ledger) (changes : Changes) : Except Overflow (List Adjustment) := do
  let differences ← changes.accounts.rows.mapM fun (id, staged) =>
    difference id (((ledger.accounts.get? id).map Account.balance).getD 0) ((staged.map Account.balance).getD 0)
  pure (differences.filterMap id)

def groupByToken (adjustments : List (TokenId × Adjustment)) (moves : List (TokenId × NftMove)) : List TokenMoves :=
  let tokens : Table TokenId Unit :=
    Table.ofList ((adjustments.map Prod.fst ++ moves.map Prod.fst).map fun token => (token, ()))
  tokens.keys.map fun token =>
    { token := token
      adjustments := (adjustments.filter fun entry => entry.1 == token).map Prod.snd
      nftMoves := (moves.filter fun entry => entry.1 == token).map Prod.snd }

end Effects

namespace Changes

def effects (changes : Changes) (ledger : Ledger) : Except Overflow Effects := do
  let units ← Effects.unitDifferences ledger changes
  let hbar ← Effects.hbarDifferences ledger changes
  pure
    { newToken := Effects.newToken? ledger changes
      newTotalSupply := Effects.newTotalSupply? ledger changes
      mintedSerials := Effects.newSerials ledger changes
      tokenTransfers := Effects.groupByToken units (Effects.nftMoves ledger changes)
      associations := Effects.newAssociations ledger changes
      hbarTransfers := hbar }

end Changes

end TokenService
