import TokenService.Proofs.Ledger.Holdings

set_option autoImplicit false

namespace TokenService

namespace Ledger

def hbarTotal (ledger : Ledger) : Int := ledger.accounts.total fun _ row => row.balance.toInt

def unitsHeld (ledger : Ledger) (id : TokenId) : Int :=
  ledger.relationships.total fun holding row => if holding.token = id then row.balance.toInt else 0

def serials (ledger : Ledger) (id : TokenId) : Int := ledger.nfts.total fun nft _ => if nft.token = id then 1 else 0

def serialsOwned (ledger : Ledger) (account : AccountId) (id : TokenId) : Int :=
  ledger.nfts.total fun nft row => if nft.token = id ∧ row.owner = account then 1 else 0

end Ledger

theorem map_ite {α : Type} (row : Option α) (weight : α → Int) (apply : Prop) [Decidable apply] :
    (row.map fun found => if apply then weight found else 0).getD 0 =
      if apply then (row.map weight).getD 0 else 0 := by
  by_cases holds : apply
  · simp only [if_pos holds]
  · simp only [if_neg holds]
    cases row <;> rfl

namespace View

section Money

variable (view : View) (row : Account)

theorem hbar_total_put_account : (view.putAccount row).merged.hbarTotal =
    view.merged.hbarTotal + row.balance.toInt - view.merged.hbar row.id := by
  rw [merged_put_account]
  exact Table.total_insert _ _ _ _

end Money

section Units

variable (view : View) (account : AccountId) (token : TokenId) (row : Relationship)

theorem units_alike (before after : View) (account : AccountId) (id : TokenId)
    (alike : after.relationship account id = before.relationship account id) :
    after.merged.units account id = before.merged.units account id := by
  unfold Ledger.units
  rw [View.merged_relationship, View.merged_relationship, alike]

theorem units_found (found : view.relationship account token = some row) :
    view.merged.units account token = row.balance.toInt := by
  unfold Ledger.units
  rw [merged_relationship, found]
  rfl

theorem units_absent (absent : view.relationship account token = none) : view.merged.units account token = 0 := by
  unfold Ledger.units
  rw [merged_relationship, absent]
  rfl

theorem units_put_relationship (other : AccountId) (id : TokenId) :
    (view.putRelationship account token row).merged.units other id =
      if other = account ∧ id = token then row.balance.toInt else view.merged.units other id := by
  unfold Ledger.units
  rw [merged_relationship, merged_relationship, relationship_put_relationship]
  by_cases same : other = account ∧ id = token
  · rw [if_pos same, if_pos same]
    rfl
  · rw [if_neg same, if_neg same]

theorem units_remove_relationship (other : AccountId) (id : TokenId) :
    (view.removeRelationship account token).merged.units other id =
      if other = account ∧ id = token then 0 else view.merged.units other id := by
  unfold Ledger.units
  rw [merged_relationship, merged_relationship, relationship_remove_relationship]
  by_cases same : other = account ∧ id = token
  · rw [if_pos same, if_pos same]
    rfl
  · rw [if_neg same, if_neg same]

theorem units_resupplied (before middle : View) (alike : before.AlikeButNfts middle) (definition : Token)
    (holder : AccountId) (held : Relationship) (supply last balance : Int64) (other : AccountId) (id : TokenId) :
    (middle.resupplied definition holder held supply last balance).merged.units other id =
      if other = holder ∧ id = definition.id then balance.toInt else before.merged.units other id := by
  unfold Ledger.units
  rw [merged_relationship, merged_relationship, relationship_resupplied, alike.relationship]
  by_cases same : other = holder ∧ id = definition.id
  · rw [if_pos same, if_pos same]
    rfl
  · rw [if_neg same, if_neg same]

theorem units_held_put_relationship (id : TokenId) :
    (view.putRelationship account token row).merged.unitsHeld id =
      view.merged.unitsHeld id + if token = id then row.balance.toInt - view.merged.units account token else 0 := by
  rw [merged_put_relationship]
  apply (Table.total_insert _ _ _ _).trans
  rw [map_ite]
  unfold Ledger.units Ledger.unitsHeld
  by_cases same : token = id
  · simp only [if_pos same]
    omega
  · simp only [if_neg same]
    omega

theorem units_held_remove_relationship (id : TokenId) :
    (view.removeRelationship account token).merged.unitsHeld id =
      view.merged.unitsHeld id - if token = id then view.merged.units account token else 0 := by
  rw [merged_remove_relationship]
  apply (Table.total_erase _ _ _).trans
  rw [map_ite]
  rfl

theorem units_held_put_nft (nft : Nft) (id : TokenId) :
    (view.putNft nft).merged.unitsHeld id = view.merged.unitsHeld id := rfl

end Units

end View

end TokenService
