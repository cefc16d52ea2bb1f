import TokenService.Proofs.Ledger.Freezes

set_option autoImplicit false

namespace TokenService

namespace Ledger

structure Stands (before after : Ledger) (id : TokenId) : Prop where
  row : after.tokens.get? id = before.tokens.get? id
  serials : ∀ serial, after.nfts.get? ⟨id, serial⟩ = before.nfts.get? ⟨id, serial⟩
  allowances : ∀ owner spender,
    (after.accounts.get? owner).bind (·.tokenAllowances.get? ⟨id, spender⟩) =
      (before.accounts.get? owner).bind (·.tokenAllowances.get? ⟨id, spender⟩)
  operators : ∀ owner operator,
    (after.accounts.get? owner).bind (·.operators.get? ⟨id, operator⟩) =
      (before.accounts.get? owner).bind (·.operators.get? ⟨id, operator⟩)

namespace Stands

variable {id : TokenId}

theorem refl (ledger : Ledger) : ledger.Stands ledger id := ⟨rfl, fun _ => rfl, fun _ _ => rfl, fun _ _ => rfl⟩

theorem trans {first second third : Ledger} (left : first.Stands second id) (right : second.Stands third id) :
    first.Stands third id :=
  ⟨right.row.trans left.row, fun serial => (right.serials serial).trans (left.serials serial),
    fun owner spender => (right.allowances owner spender).trans (left.allowances owner spender),
    fun owner operator => (right.operators owner operator).trans (left.operators owner operator)⟩

end Stands

-- A token that stands, with what everybody holds of it. Those who left it, which nobody can while it is not deleted and
-- they have some of it, hold nothing.
structure StandsStill (before after : Ledger) (id : TokenId) (deleted : Bool) (left : AccountId → Prop) : Prop where
  stands : before.Stands after id
  balances : deleted = false → ∀ account, after.units account id = before.units account id
  ties : deleted = true → ∀ account,
    after.relationships.get? ⟨account, id⟩ = before.relationships.get? ⟨account, id⟩ ∨
      left account ∧ after.relationships.get? ⟨account, id⟩ = none

namespace StandsStill

variable {id : TokenId} {deleted : Bool} {left : AccountId → Prop}

theorem refl (ledger : Ledger) : ledger.StandsStill ledger id deleted left :=
  ⟨.refl ledger, fun _ _ => rfl, fun _ _ => .inl rfl⟩

theorem trans {first second third : Ledger} (before : first.StandsStill second id deleted left)
    (after : second.StandsStill third id deleted left) : first.StandsStill third id deleted left := by
  refine ⟨before.stands.trans after.stands,
    fun live account => (after.balances live account).trans (before.balances live account), fun gone account => ?_⟩
  rcases after.ties gone account with same | leaves
  · rw [same]
    exact before.ties gone account
  · exact .inr leaves

theorem mono {before after : Ledger} {others : AccountId → Prop} (weaker : ∀ account, left account → others account)
    (still : before.StandsStill after id deleted left) : before.StandsStill after id deleted others :=
  ⟨still.stands, still.balances, fun gone account =>
    (still.ties gone account).imp_right fun leaves => ⟨weaker account leaves.1, leaves.2⟩⟩

end StandsStill

end Ledger

namespace View

structure Still (before after : View) (id : TokenId) (spared : AccountId → Prop) : Prop where
  stands : before.merged.Stands after.merged id
  ties : ∀ account, spared account → after.relationship account id = before.relationship account id

section Still

variable {id : TokenId} {spared : AccountId → Prop}

theorem still_refl (view : View) : view.Still view id spared := ⟨.refl _, fun _ _ => rfl⟩

theorem still_trans {first second third : View} (left : first.Still second id spared)
    (right : second.Still third id spared) : first.Still third id spared :=
  ⟨left.stands.trans right.stands, fun account kept => (right.ties account kept).trans (left.ties account kept)⟩

variable (view : View)

theorem still_put_token (row : Token) (same : id = row.id → view.token id = some row) :
    view.Still (view.putToken row) id spared := by
  refine ⟨⟨?_, fun _ => rfl, fun _ _ => rfl, fun _ _ => rfl⟩, fun _ _ => rfl⟩
  rw [merged_token, token_put_token, merged_token]
  by_cases here : id = row.id
  · rw [if_pos here, same here]
  · rw [if_neg here]

theorem still_put_relationship (account : AccountId) (token : TokenId) (row : Relationship)
    (apart : spared account → id ≠ token) : view.Still (view.putRelationship account token row) id spared := by
  refine ⟨⟨rfl, fun _ => rfl, fun _ _ => rfl, fun _ _ => rfl⟩, fun other kept => ?_⟩
  rw [relationship_put_relationship]
  by_cases here : other = account ∧ id = token
  · exact absurd here.2 (apart (here.1 ▸ kept))
  · rw [if_neg here]

theorem still_remove_relationship (account : AccountId) (token : TokenId) (apart : spared account → id ≠ token) :
    view.Still (view.removeRelationship account token) id spared := by
  refine ⟨⟨rfl, fun _ => rfl, fun _ _ => rfl, fun _ _ => rfl⟩, fun other kept => ?_⟩
  rw [relationship_remove_relationship]
  by_cases here : other = account ∧ id = token
  · exact absurd here.2 (apart (here.1 ▸ kept))
  · rw [if_neg here]

theorem still_put_nft (row : Nft) (apart : id ≠ row.id.token) : view.Still (view.putNft row) id spared := by
  refine ⟨⟨rfl, fun serial => ?_, fun _ _ => rfl, fun _ _ => rfl⟩, fun _ _ => rfl⟩
  rw [merged_nft, nft_put_nft, merged_nft, if_neg fun same => apart (congrArg NftId.token same)]

theorem still_remove_nft (gone : NftId) (apart : id ≠ gone.token) : view.Still (view.removeNft gone) id spared := by
  refine ⟨⟨rfl, fun serial => ?_, fun _ _ => rfl, fun _ _ => rfl⟩, fun _ _ => rfl⟩
  rw [merged_nft, nft_remove_nft, merged_nft, if_neg fun same => apart (congrArg NftId.token same)]

theorem still_put_account (owner : AccountId) (account row : Account) (lives : view.Lives owner account)
    (own : row.id = account.id)
    (allowances : ∀ spender, row.tokenAllowances.get? ⟨id, spender⟩ = account.tokenAllowances.get? ⟨id, spender⟩)
    (operators : ∀ operator, row.operators.get? ⟨id, operator⟩ = account.operators.get? ⟨id, operator⟩) :
    view.Still (view.putAccount row) id spared := by
  refine ⟨⟨rfl, fun _ => rfl, fun other spender => ?_, fun other operator => ?_⟩, fun _ _ => rfl⟩
  · rw [merged_account, merged_account]
    by_cases same : other = owner
    · rw [same, put_account_same view owner account row lives own, lives.found]
      exact allowances spender
    · rw [put_account_other view owner account row lives own other same]
  · rw [merged_account, merged_account]
    by_cases same : other = owner
    · rw [same, put_account_same view owner account row lives own, lives.found]
      exact operators operator
    · rw [put_account_other view owner account row lives own other same]

theorem still_reserving (created : UInt64) : view.Still (view.reserving created) id spared :=
  ⟨⟨rfl, fun _ => rfl, fun _ _ => rfl, fun _ _ => rfl⟩, fun _ _ => rfl⟩

end Still

end View

section Items

variable {id : TokenId} {spared : AccountId → Prop}

theorem issued_still (token : Token) (now : Timestamp) (last final : Int64) (metadata : List Bytes)
    (before after : View) (issued : Issued token now last metadata before final after) (apart : id ≠ token.id) :
    before.Still after id spared := by
  induction issued with
  | nil last view => exact view.still_refl
  | cons next others ih => exact View.still_trans (View.still_put_nft _ _ apart) ih

theorem removed_still (token : TokenId) (holder : AccountId) (serials : List Int64) (before after : View)
    (removed : Removed token holder serials before after) (apart : id ≠ token) : before.Still after id spared := by
  induction removed with
  | nil view => exact view.still_refl
  | cons nft found owned others ih => exact View.still_trans (View.still_remove_nft _ _ apart) ih

theorem minted_still (token : Token) (order : Mint) (now : Timestamp) (minted last : Int64) (before after : View)
    (items : Minted token order now minted last before after) (apart : id ≠ token.id) :
    before.Still after id spared := by
  cases items with
  | units => exact before.still_refl
  | items nonFungible issued => exact issued_still _ _ _ _ _ _ _ issued apart

theorem taken_still (token : Token) (holder : AccountId) (amount removed : Int64) (serials : List Int64)
    (before after : View) (items : Taken token holder amount serials removed before after) (apart : id ≠ token.id) :
    before.Still after id spared := by
  cases items with
  | units => exact before.still_refl
  | items nonFungible gone => exact removed_still _ _ _ _ _ gone apart

theorem resupplied_still (view : View) (token : Token) (holder : AccountId) (held : Relationship)
    (supply last balance : Int64) (apart : id ≠ token.id) :
    view.Still (view.resupplied token holder held supply last balance) id spared :=
  View.still_trans (View.still_put_relationship _ _ _ _ fun _ => apart)
    (View.still_put_token _ _ fun same => absurd same apart)

theorem handover_still (token : Token) (successor : AccountId) (before after : View)
    (handover : Handover token successor before after) (apart : id ≠ token.id) : before.Still after id spared := by
  cases handover with
  | stay | items => exact before.still_refl
  | units =>
      exact View.still_trans (View.still_put_relationship _ _ _ _ fun _ => apart)
        (View.still_put_relationship _ _ _ _ fun _ => apart)

end Items

section Entries

variable {κ : Type} [Ord κ] [Std.TransOrd κ] [Std.LawfulEqOrd κ] [DecidableEq κ]

theorem granted_other (allowances : Table κ Int64) (key other : κ) (amount : Int64) (apart : other ≠ key) :
    (Work.granted allowances key amount).get? other = allowances.get? other := by
  unfold Work.granted
  split
  · rw [Table.get_erase, if_neg apart]
  · rw [Table.get_insert, if_neg apart]

theorem operators_other (operators : Table Delegate Unit) (delegate other : Delegate) (approved : Option Bool)
    (apart : other ≠ delegate) :
    (Work.operatorsAfter operators delegate approved).get? other = operators.get? other := by
  cases approved with
  | none => rfl
  | some approved =>
      cases approved with
      | true => exact (Table.get_insert _ _ _ _).trans (if_neg apart)
      | false => exact (Table.get_erase _ _ _).trans (if_neg apart)

end Entries

-- The token that a deed may reach although it stands still.
def Deed.stirs : Deed → Option TokenId
  | .setPaused false token => some token
  | .lendNft token _ _ _ => some token
  | _ => none

def Token.Idle (token : Token) : Prop := token.paused = true ∨ token.deleted = true

section Deeds

variable (sender : AccountId) (now : Timestamp) (id : TokenId) (token : Token) (before after : View)
  (found : before.token id = some token) (idle : token.Idle)
include found idle

theorem idle_apart (other : TokenId) (row : Token) (usable : before.Usable other row) : id ≠ other := by
  rintro rfl
  cases found.symm.trans usable.found
  rcases idle with paused | deleted
  · cases paused.symm.trans usable.running
  · cases deleted.symm.trans usable.live

theorem idle_elsewhere (other : TokenId) (row : Token) (usable : before.Usable other row) : id ≠ row.id := by
  rw [usable.own]
  exact idle_apart id token before found idle other row usable

theorem deed_still (deed : Deed) (does : deed.Does sender now before after) (below : id.num.toNat < before.limit)
    (asleep : deed.stirs ≠ some id) : before.Still after id fun account => deed.binds ≠ some ⟨account, id⟩ := by
  have apart := idle_apart id token before found idle
  have elsewhere := idle_elsewhere id token before found idle
  cases does with
  | @associate account other =>
      refine before.still_put_relationship _ _ _ fun spared => ?_
      rintro rfl
      exact spared rfl
  | @dissociate account other =>
      refine before.still_remove_relationship _ _ fun spared => ?_
      rintro rfl
      exact spared rfl
  | mint row held minted last supply balance usable present items =>
      exact View.still_trans (minted_still _ _ _ _ _ _ _ items (elsewhere _ _ usable))
        (resupplied_still _ _ _ _ _ _ _ (elsewhere _ _ usable))
  | burn row held removed supply balance usable present items =>
      exact View.still_trans (taken_still _ _ _ _ _ _ _ items (elsewhere _ _ usable))
        (resupplied_still _ _ _ _ _ _ _ (elsewhere _ _ usable))
  | wipe row account held removed supply balance usable lives other present items =>
      exact View.still_trans (taken_still _ _ _ _ _ _ _ items (elsewhere _ _ usable))
        (resupplied_still _ _ _ _ _ _ _ (elsewhere _ _ usable))
  -- Of a token that is not deleted the flag is on already.
  | @setPaused paused other _ row existing =>
      refine before.still_put_token _ fun same => ?_
      have about : id = other := same.trans existing.own
      subst about
      cases found.symm.trans existing.found
      have running : token.paused = true := idle.resolve_right fun deleted => by
        cases deleted.symm.trans existing.live
      cases paused with
      | false => exact absurd rfl asleep
      | true =>
          rw [found, ← running]
  | @create order _ treasury number reserved lives fresh =>
      have new : id ≠ ⟨order.treasury.shard, order.treasury.realm, number⟩ := by
        rintro rfl
        exact absurd fresh (Nat.ne_of_lt below)
      exact View.still_trans (View.still_trans (before.still_reserving reserved)
        (View.still_put_token _ _ fun same => absurd same new)) (View.still_put_relationship _ _ _ _ fun _ => new)
  | update row usable handover =>
      exact View.still_trans (handover_still _ _ _ _ handover (elsewhere _ _ usable))
        (View.still_put_token _ _ fun same => absurd (show id = row.id from same) (elsewhere _ _ usable))
  | adjustHbar account allowances balance lives =>
      exact before.still_put_account _ account _ lives rfl (fun _ => rfl) fun _ => rfl
  | adjustUnits row owner held balance usable => exact before.still_put_relationship _ _ _ fun _ => apart _ _ usable
  | drawUnits row owner held allowances balance usable fungible lives trades draws drawn =>
      refine View.still_trans (before.still_put_account _ owner { owner with tokenAllowances := allowances } lives rfl
        (fun spender => ?_) fun _ => rfl) (View.still_put_relationship _ _ _ _ fun _ => apart _ _ usable)
      exact drawn.others _ fun same => apart _ _ usable (congrArg Delegate.token same)
  | moveNft row nft receiver source target left gained usable nonFungible present own =>
      have other := apart _ _ usable
      refine View.still_trans (View.still_trans (before.still_put_relationship _ _ _ fun _ => other)
        (View.still_put_relationship _ _ _ _ fun _ => other)) (View.still_put_nft _ _ ?_)
      rw [own]
      exact other
  | grantHbar owner spender lives =>
      exact before.still_put_account _ owner _ lives rfl (fun _ => rfl) fun _ => rfl
  | grantUnits owner row held lives usable =>
      refine before.still_put_account _ owner _ lives rfl (fun spender => ?_) fun _ => rfl
      exact granted_other _ _ _ _ fun same => apart _ _ usable (congrArg Delegate.token same)
  | @lendNft other _ _ serial _ nft present own =>
      refine before.still_put_nft _ ?_
      rw [own]
      rintro rfl
      exact asleep rfl
  | setOperator owner row held lives usable =>
      refine before.still_put_account _ owner _ lives rfl (fun _ => rfl) fun operator => ?_
      exact operators_other _ _ _ _ fun same => apart _ _ usable (congrArg Delegate.token same)
  | clearSpender row nft usable entitled present own =>
      refine before.still_put_nft _ ?_
      rw [own]
      exact apart _ _ usable

theorem deed_stands_still (rooted : before.merged.Rooted) (deed : Deed) (does : deed.Does sender now before after)
    (below : id.num.toNat < before.limit) (asleep : deed.stirs ≠ some id) :
    before.merged.StandsStill after.merged id token.deleted fun account => deed = .dissociate account id := by
  have still := deed_still sender now id token before after found idle deed does below asleep
  refine ⟨still.stands, fun live account => ?_, fun gone account => ?_⟩
  · rw [Ledger.units, Ledger.units, View.merged_relationship, View.merged_relationship]
    by_cases bound : deed.binds = some ⟨account, id⟩
    · cases does with
      | associate holder row lives existing absent =>
          cases bound
          rw [View.relationship_put_relationship, if_pos ⟨rfl, rfl⟩, absent]
          rfl
      | dissociate held present released =>
          cases bound
          have nothing := (released token ⟨found, View.rooted_token _ _ rooted token found, live⟩).2
          rw [View.relationship_remove_relationship, if_pos ⟨rfl, rfl⟩, present, Option.map_some, nothing]
          rfl
      | _ => cases bound
    · rw [still.ties account bound]
  · rw [View.merged_relationship, View.merged_relationship]
    by_cases bound : deed.binds = some ⟨account, id⟩
    · cases does with
      | associate holder row lives existing =>
          cases bound
          cases found.symm.trans existing.found
          cases gone.symm.trans existing.live
      | dissociate held present released =>
          cases bound
          exact .inr ⟨rfl, by rw [View.relationship_remove_relationship, if_pos ⟨rfl, rfl⟩]⟩
      | _ => cases bound
    · exact .inl (still.ties account bound)

theorem deeds_stand_still (rooted : before.merged.Rooted) (numbered : before.merged.Numbered before.limit)
    (deeds : List Deed) (done : Deeds sender now deeds before after) (asleep : ∀ deed ∈ deeds, deed.stirs ≠ some id) :
    before.merged.StandsStill after.merged id token.deleted fun account => .dissociate account id ∈ deeds := by
  refine (Deeds.keeps (fun view => view.merged.Rooted ∧ view.merged.Numbered view.limit ∧
    before.merged.StandsStill view.merged id token.deleted fun account => .dissociate account id ∈ deeds) deeds
    before after (fun deed member first next does kept => ?_) done ⟨rooted, numbered, .refl _⟩).2.2
  obtain ⟨rooted, numbered, still⟩ := kept
  have here : first.token id = some token := by
    rw [← View.merged_token, still.stands.row, View.merged_token]
    exact found
  have below := View.numbered_token _ _ numbered id token here
  have step := deed_stands_still sender now id token first next here idle rooted deed does below (asleep deed member)
  refine ⟨deed_rooted _ _ _ _ _ does rooted, deed_numbered _ _ _ _ _ does numbered, still.trans (step.mono ?_)⟩
  rintro account rfl
  exact member

theorem approval_asleep (hbar : List HbarGrant) (units : List UnitGrant) (nfts : List NftGrant)
    (done : Deeds sender now (Body.approve hbar units nfts).deeds before after) (grant : NftGrant)
    (listed : grant ∈ nfts) : id ≠ grant.token := by
  have last : Deed.setOperator grant ∈ (Body.approve hbar units nfts).deeds :=
    List.mem_append_right _ (List.mem_append_right _ (List.mem_flatMap.mpr
      ⟨grant, listed, List.mem_append_right _ List.mem_cons_self⟩))
  obtain ⟨first, next, does, same⟩ := Deeds.reaches (fun view => view.token id = before.token id) _ before after
    (fun deed member first next does kept =>
      (deed_token sender now deed first next (quiet_deeds _ rfl deed member) does id).trans kept) done rfl _ last
  cases does with
  | setOperator owner row held lives usable =>
      exact idle_apart id token first (same.trans found) idle grant.token row usable

theorem body_asleep (body : Body) (done : Deeds sender now body.deeds before after) (other : body ≠ .unpause id)
    (deed : Deed) (member : deed ∈ body.deeds) : deed.stirs ≠ some id := by
  cases body with
  | associate | dissociate =>
      obtain ⟨_, _, rfl⟩ := List.mem_map.mp member
      exact (Option.some_ne_none _).symm
  | mint | burn | wipe | pause | create | update =>
      cases List.mem_singleton.mp member
      exact (Option.some_ne_none _).symm
  | unpause another =>
      cases List.mem_singleton.mp member
      rintro ⟨⟩
      exact other rfl
  | transfer hbar tokens =>
      rcases transfer_deed _ _ _ member with ⟨_, _, rfl⟩ | ⟨_, _, _, _, rfl⟩ | ⟨_, _, _, _, rfl⟩ <;>
        exact (Option.some_ne_none _).symm
  | approve hbar units nfts =>
      have apart := approval_asleep sender now id token before after found idle hbar units nfts done
      simp only [Body.deeds, NftGrant.deeds, List.mem_append, List.mem_map, List.mem_flatMap,
        List.mem_singleton] at member
      rcases member with ⟨_, _, rfl⟩ | ⟨_, _, rfl⟩ | ⟨grant, listed, ⟨_, _, rfl⟩ | rfl⟩
      · exact (Option.some_ne_none _).symm
      · exact (Option.some_ne_none _).symm
      · exact fun same => apart grant listed (Option.some.inj same).symm
      · exact (Option.some_ne_none _).symm
  | revoke revocations =>
      obtain ⟨_, _, listed⟩ := List.mem_flatMap.mp member
      obtain ⟨_, _, rfl⟩ := List.mem_map.mp listed
      exact (Option.some_ne_none _).symm
  | queryToken | queryNft => cases member

end Deeds

theorem body_dissociates (body : Body) (account : AccountId) (id : TokenId)
    (member : Deed.dissociate account id ∈ body.deeds) :
    ∃ tokens, body = .dissociate ⟨account, tokens⟩ ∧ id ∈ tokens := by
  cases body with
  | dissociate association =>
      obtain ⟨token, listed, same⟩ := List.mem_map.mp member
      cases same
      exact ⟨association.tokens, rfl, listed⟩
  | associate =>
      obtain ⟨_, _, same⟩ := List.mem_map.mp member
      cases same
  | transfer hbar tokens =>
      rcases transfer_deed _ _ _ member with ⟨_, _, same⟩ | ⟨_, _, _, _, same⟩ | ⟨_, _, _, _, same⟩ <;> cases same
  | approve hbar units nfts =>
      simp only [Body.deeds, NftGrant.deeds, List.mem_append, List.mem_map, List.mem_flatMap,
        List.mem_singleton] at member
      rcases member with ⟨_, _, same⟩ | ⟨_, _, same⟩ | ⟨_, _, ⟨_, _, same⟩ | same⟩ <;> cases same
  | revoke revocations =>
      obtain ⟨_, _, listed⟩ := List.mem_flatMap.mp member
      obtain ⟨_, _, same⟩ := List.mem_map.mp listed
      cases same
  | mint | burn | wipe | pause | unpause | create | update => cases List.mem_singleton.mp member
  | queryToken | queryNft => cases member

/-- Whatever a body does, short of unpausing it, a token that is paused or deleted stands still, and only those who
dissociate from a deleted one leave it. -/
theorem body_stands_still (sender : AccountId) (now : Timestamp) (id : TokenId) (token : Token) (before after : View)
    (found : before.token id = some token) (idle : token.Idle) (rooted : before.merged.Rooted)
    (numbered : before.merged.Numbered before.limit) (body : Body) (other : body ≠ .unpause id)
    (done : Deeds sender now body.deeds before after) :
    before.merged.StandsStill after.merged id token.deleted fun account =>
      ∃ tokens, body = .dissociate ⟨account, tokens⟩ ∧ id ∈ tokens := by
  have asleep := body_asleep sender now id token before after found idle body done other
  have still := deeds_stand_still sender now id token before after found idle rooted numbered _ done asleep
  exact still.mono fun account => body_dissociates body account id

end TokenService
