import Mathlib.Logic.Function.Conjugate
import TokenService.Proofs.Ledger.Rows

set_option autoImplicit false

namespace TokenService

namespace Table

variable {κ ρ : Type} [Ord κ] [Std.TransOrd κ] [Std.LawfulEqOrd κ] [DecidableEq κ]
  (base : Table κ ρ) (staged : Table κ (Option ρ)) (key : κ) (amend : ρ → ρ)

omit [DecidableEq κ] in
def amended (base : Table κ ρ) (staged : Table κ (Option ρ)) (key : κ) (amend : ρ → ρ) : Table κ (Option ρ) :=
  match base.overlaid staged key with
  | some row => staged.insert key (some (amend row))
  | none => staged

omit [DecidableEq κ] in
theorem amended_found (row : ρ) (found : base.overlaid staged key = some row) :
    base.amended staged key amend = staged.insert key (some (amend row)) := by
  rw [amended, found]

theorem overlaid_amended (other : κ) : base.overlaid (base.amended staged key amend) other =
    if other = key then (base.overlaid staged other).map amend else base.overlaid staged other := by
  unfold amended
  cases found : base.overlaid staged key with
  | some row =>
      rw [overlaid_insert]
      by_cases same : other = key
      · rw [if_pos same, if_pos same, same, found, Option.map_some]
      · rw [if_neg same, if_neg same]
  | none =>
      by_cases same : other = key
      · rw [if_pos same, same, found, Option.map_none]
      · rw [if_neg same]

theorem get_amended (other : κ) : (base.amended staged key amend).get? other =
    if other = key ∧ (base.overlaid staged key).isSome then some ((base.overlaid staged key).map amend)
    else staged.get? other := by
  unfold amended
  cases found : base.overlaid staged key with
  | some row => simp
  | none => simp

theorem amended_comm (other : κ) (change : ρ → ρ)
    (free : key = other → ∀ row, amend (change row) = change (amend row)) :
    base.amended (base.amended staged other change) key amend =
      base.amended (base.amended staged key amend) other change := by
  apply table_ext
  intro query
  simp only [get_amended, overlaid_amended]
  by_cases same : key = other
  · subst same
    by_cases here : query = key ∧ (base.overlaid staged key).isSome = true
    · simp [here, Function.comp_def, free rfl]
    · simp [here]
  · simp only [if_neg same, if_neg (Ne.symm same)]
    by_cases here : query = key
    · simp [here, same]
    · simp [here]

end Table

namespace View

def amendAccount (id : AccountId) (amend : Account → Account) (view : View) : View :=
  { view with changes.accounts := view.ledger.accounts.amended view.changes.accounts id amend }

def amendRelationship (holding : Holding) (amend : Relationship → Relationship) (view : View) : View :=
  { view with changes.relationships := view.ledger.relationships.amended view.changes.relationships holding amend }

def amendNft (id : NftId) (amend : Nft → Nft) (view : View) : View :=
  { view with changes.nfts := view.ledger.nfts.amended view.changes.nfts id amend }

section Reads

variable (view : View)

theorem account_amend_account (id other : AccountId) (amend : Account → Account) :
    (view.amendAccount id amend).account other =
      if other = id then (view.account other).map amend else view.account other :=
  Table.overlaid_amended _ _ _ _ _

theorem relationship_amend_relationship (holding : Holding) (amend : Relationship → Relationship)
    (account : AccountId) (token : TokenId) : (view.amendRelationship holding amend).relationship account token =
      if (⟨account, token⟩ : Holding) = holding then (view.relationship account token).map amend
      else view.relationship account token :=
  Table.overlaid_amended _ _ _ _ _

theorem nft_amend_nft (id other : NftId) (amend : Nft → Nft) :
    (view.amendNft id amend).nft other = if other = id then (view.nft other).map amend else view.nft other :=
  Table.overlaid_amended _ _ _ _ _

end Reads

section Writes

variable (view : View)

theorem amend_account_put (id : AccountId) (amend : Account → Account) (row : Account)
    (found : view.account id = some row) (own : (amend row).id = id) :
    view.amendAccount id amend = view.putAccount (amend row) := by
  rw [amendAccount, putAccount, own, Table.amended_found _ _ _ _ row found]

theorem amend_relationship_put (account : AccountId) (token : TokenId) (amend : Relationship → Relationship)
    (row : Relationship) (found : view.relationship account token = some row) :
    view.amendRelationship ⟨account, token⟩ amend = view.putRelationship account token (amend row) := by
  rw [amendRelationship, putRelationship, Table.amended_found _ _ _ _ row found]

theorem amend_nft_put (id : NftId) (amend : Nft → Nft) (row : Nft) (found : view.nft id = some row)
    (own : (amend row).id = id) : view.amendNft id amend = view.putNft (amend row) := by
  rw [amendNft, putNft, own, Table.amended_found _ _ _ _ row found]

end Writes

section Orders

theorem amend_accounts_commute (id other : AccountId) (amend change : Account → Account)
    (free : id = other → ∀ row, amend (change row) = change (amend row)) :
    Function.Commute (amendAccount id amend) (amendAccount other change) := by
  intro view
  simp only [amendAccount]
  rw [Table.amended_comm _ _ _ _ _ _ free]

theorem amend_relationships_commute (holding other : Holding) (amend change : Relationship → Relationship)
    (free : holding = other → ∀ row, amend (change row) = change (amend row)) :
    Function.Commute (amendRelationship holding amend) (amendRelationship other change) := by
  intro view
  simp only [amendRelationship]
  rw [Table.amended_comm _ _ _ _ _ _ free]

theorem amend_nfts_commute (id other : NftId) (amend change : Nft → Nft)
    (free : id = other → ∀ row, amend (change row) = change (amend row)) :
    Function.Commute (amendNft id amend) (amendNft other change) := by
  intro view
  simp only [amendNft]
  rw [Table.amended_comm _ _ _ _ _ _ free]

theorem amend_account_relationship (id : AccountId) (amend : Account → Account) (holding : Holding)
    (change : Relationship → Relationship) :
    Function.Commute (amendAccount id amend) (amendRelationship holding change) := fun _ => rfl

theorem amend_account_nft (id : AccountId) (amend : Account → Account) (nft : NftId) (change : Nft → Nft) :
    Function.Commute (amendAccount id amend) (amendNft nft change) := fun _ => rfl

theorem amend_relationship_nft (holding : Holding) (amend : Relationship → Relationship) (nft : NftId)
    (change : Nft → Nft) : Function.Commute (amendRelationship holding amend) (amendNft nft change) := fun _ => rfl

end Orders

end View

end TokenService
