import TokenService.Proofs.Ledger.Definitions
import TokenService.Proofs.Ledger.Holdings
import TokenService.Proofs.Ledger.Succession

set_option autoImplicit false

namespace TokenService

namespace Ledger

def freeze (ledger : Ledger) (account : AccountId) (id : TokenId) : Option Bool :=
  (ledger.relationships.get? ⟨account, id⟩).map (·.frozen)

def freezesNewcomers (ledger : Ledger) (id : TokenId) : Bool :=
  ((ledger.tokens.get? id).map fun token => token.freezeDefault && token.keys.freeze.isSome).getD false

-- What an account has of a token, units and serials, is the same in two ledgers.
structure Undisturbed (before after : Ledger) (account : AccountId) (id : TokenId) : Prop where
  units : after.relationships.get? ⟨account, id⟩ = before.relationships.get? ⟨account, id⟩
  serials : ∀ serial row, row.owner = account →
    (after.nfts.get? ⟨id, serial⟩ = some row ↔ before.nfts.get? ⟨id, serial⟩ = some row)

end Ledger

def Deed.binds : Deed → Option Holding
  | .associate account token | .dissociate account token => some ⟨account, token⟩
  | _ => none

section Flags

variable (account : AccountId) (id : TokenId)

theorem merged_freeze (view : View) :
    view.merged.freeze account id = (view.relationship account id).map (·.frozen) := by
  rw [Ledger.freeze, View.merged_relationship]

theorem freeze_alike (before after : View) (alike : before.AlikeButNfts after) :
    after.merged.freeze account id = before.merged.freeze account id := by
  rw [Ledger.freeze, Ledger.freeze, alike.relationships]

theorem freeze_put_again (view : View) (holder : AccountId) (token : TokenId) (held row : Relationship)
    (found : view.relationship holder token = some held) (alike : row.frozen = held.frozen) :
    (view.putRelationship holder token row).merged.freeze account id = view.merged.freeze account id := by
  rw [merged_freeze, merged_freeze, View.relationship_put_relationship]
  by_cases same : account = holder ∧ id = token
  · rw [if_pos same, same.1, same.2, found]
    exact congrArg some alike
  · rw [if_neg same]

theorem freeze_resupplied (before middle : View) (token : Token) (holder : AccountId) (held : Relationship)
    (supply last balance : Int64) (alike : before.AlikeButNfts middle)
    (found : before.relationship holder token.id = some held) :
    (middle.resupplied token holder held supply last balance).merged.freeze account id =
      before.merged.freeze account id := by
  rw [View.resupplied, merged_freeze, View.relationship_put_token, ← merged_freeze,
    freeze_put_again account id middle holder token.id held { held with balance := balance }
      (by rw [alike.relationship]; exact found) rfl]
  exact freeze_alike account id before middle alike

theorem handover_freeze (token : Token) (successor : AccountId) (before after : View)
    (handover : Handover token successor before after) :
    after.merged.freeze account id = before.merged.freeze account id := by
  cases handover with
  | stay | items => rfl
  | units row incoming outgoing balance apart fungible lives trades found =>
      have given := freeze_put_again account id before token.treasury token.id outgoing { outgoing with balance := 0 }
        found rfl
      have there : (before.putRelationship token.treasury token.id { outgoing with balance := 0 }).relationship
          successor token.id = some incoming := by
        rw [View.relationship_put_relationship, if_neg fun same => apart same.1]
        exact trades.found
      rw [freeze_put_again account id _ successor token.id incoming { incoming with balance := balance } there rfl,
        given]

end Flags

section Deeds

variable (sender : AccountId) (now : Timestamp) (before after : View) (account : AccountId) (id : TokenId)

theorem create_freeze (order : Creation) (does : (Deed.create order).Does sender now before after)
    (below : id.num.toNat < before.limit) : after.merged.freeze account id = before.merged.freeze account id := by
  cases does with
  | create treasury number reserved lives fresh =>
      have apart : id ≠ ⟨order.treasury.shard, order.treasury.realm, number⟩ := by
        rintro rfl
        exact absurd fresh (Nat.ne_of_lt below)
      rw [merged_freeze, View.relationship_put_relationship, if_neg fun same => apart same.2, merged_freeze]
      rfl

theorem move_freeze (token : TokenId) (move : NftMove) (does : (Deed.moveNft token move).Does sender now before after) :
    after.merged.freeze account id = before.merged.freeze account id := by
  cases does with
  | moveNft row nft receiver source target left gained usable nonFungible found own owned approved lives sends
      receives =>
      rw [merged_freeze, merged_freeze, View.relationship_put_nft, View.relationship_put_relationship,
        View.relationship_put_relationship]
      by_cases gains : account = move.receiver ∧ id = token
      · rw [if_pos gains, gains.1, gains.2, receives.found]
        rfl
      · rw [if_neg gains]
        by_cases gives : account = move.sender ∧ id = token
        · rw [if_pos gives, gives.1, gives.2, sends.found]
          rfl
        · rw [if_neg gives]

theorem deed_freeze (deed : Deed) (does : deed.Does sender now before after) (below : id.num.toNat < before.limit)
    (apart : deed.binds ≠ some ⟨account, id⟩) :
    after.merged.freeze account id = before.merged.freeze account id := by
  cases does with
  | @associate other token =>
      have elsewhere : ¬ (account = other ∧ id = token) := fun same => apart (by rw [same.1, same.2]; rfl)
      rw [merged_freeze, View.relationship_put_relationship, if_neg elsewhere, merged_freeze]
  | @dissociate other token =>
      have elsewhere : ¬ (account = other ∧ id = token) := fun same => apart (by rw [same.1, same.2]; rfl)
      rw [merged_freeze, View.relationship_remove_relationship, if_neg elsewhere, merged_freeze]
  | mint token held minted last supply balance usable found items =>
      exact freeze_resupplied account id before _ token _ held _ _ _ (minted_alike _ _ _ _ _ _ _ items) found
  | burn token held removed supply balance usable found items =>
      exact freeze_resupplied account id before _ token _ held _ _ _ (taken_alike _ _ _ _ _ _ _ items) found
  | wipe token row held removed supply balance usable lives other found items =>
      exact freeze_resupplied account id before _ token _ held _ _ _ (taken_alike _ _ _ _ _ _ _ items) found
  | create treasury number reserved lives fresh next =>
      exact create_freeze sender now before _ account id _ (.create treasury number reserved lives fresh next) below
  | update token usable handover =>
      rw [merged_freeze, View.relationship_put_token, ← merged_freeze]
      exact handover_freeze account id _ _ _ _ handover
  | adjustUnits token owner held balance usable fungible lives trades =>
      exact freeze_put_again account id before _ _ held { held with balance := balance } trades.found rfl
  | drawUnits token owner held allowances balance usable fungible lives trades =>
      have there : (before.putAccount { owner with tokenAllowances := allowances }).relationship _ _ = some held :=
        trades.found
      rw [freeze_put_again account id _ _ _ held { held with balance := balance } there rfl, merged_freeze,
        View.relationship_put_account, ← merged_freeze]
  | moveNft token nft receiver source target left gained usable nonFungible found own owned approved lives sends
      receives loss gain =>
      exact move_freeze sender now before _ account id _ _ (.moveNft token nft receiver source target left gained usable
        nonFungible found own owned approved lives sends receives loss gain)
  | setPaused | adjustHbar | grantHbar | grantUnits | lendNft | setOperator | clearSpender =>
      rw [merged_freeze, merged_freeze]
      rfl

theorem deeds_freeze (deeds : List Deed)
    (apart : ∀ deed ∈ deeds, deed.binds ≠ some ⟨account, id⟩)
    (done : Deeds sender now deeds before after) (numbered : before.merged.Numbered before.limit)
    (below : id.num.toNat < before.limit) :
    after.merged.freeze account id = before.merged.freeze account id ∧ id.num.toNat < after.limit := by
  refine (Deeds.keeps (fun view => view.merged.Numbered view.limit ∧
    view.merged.freeze account id = before.merged.freeze account id ∧ id.num.toNat < view.limit) deeds before after
    (fun deed member first next does kept => ?_) done ⟨numbered, rfl, below⟩).2
  obtain ⟨numbered, same, below⟩ := kept
  have rises := (deed_precedes sender now deed first next numbered does).rises
  exact ⟨deed_numbered sender now deed first next does numbered,
    (deed_freeze sender now first next account id deed does below (apart deed member)).trans same,
    Nat.lt_of_lt_of_le below rises⟩

end Deeds

section Bodies

variable (sender : AccountId) (now : Timestamp) (before after : View) (account : AccountId) (id : TokenId)

theorem associate_freeze (other : AccountId) (token : TokenId)
    (does : (Deed.associate other token).Does sender now before after) :
    before.merged.freeze other token = none ∧
      after.merged.freeze other token = some (before.merged.freezesNewcomers token) := by
  cases does with
  | associate holder row lives existing absent =>
      rw [merged_freeze, absent, merged_freeze, View.relationship_put_relationship, if_pos ⟨rfl, rfl⟩,
        Ledger.freezesNewcomers, View.merged_token, existing.found]
      exact ⟨rfl, rfl⟩

theorem dissociate_freeze (other : AccountId) (token : TokenId) (row : Token) (existing : before.Exists token row)
    (does : (Deed.dissociate other token).Does sender now before after) :
    before.merged.units other token = 0 ∧ after.merged.freeze other token = none := by
  cases does with
  | dissociate held found released =>
      constructor
      · rw [Ledger.units, View.merged_relationship, found, Option.map_some, Option.getD_some, (released row existing).2]
        rfl
      · rw [merged_freeze, View.relationship_remove_relationship, if_pos ⟨rfl, rfl⟩]
        rfl

-- The first of the tokens that is this one makes the relationship, so no later one can be it.
theorem association_freeze (tokens : List TokenId) (member : id ∈ tokens)
    (done : Deeds sender now (tokens.map (.associate account)) before after)
    (numbered : before.merged.Numbered before.limit) (below : id.num.toNat < before.limit) :
    before.merged.freeze account id = none ∧
      after.merged.freeze account id = some (before.merged.freezesNewcomers id) := by
  obtain ⟨earlier, later, rfl, unseen⟩ := List.eq_append_cons_of_mem member
  rw [List.map_append] at done
  obtain ⟨middle, ahead, rest⟩ := Deeds.split _ _ _ _ done
  have others : ∀ deed ∈ earlier.map (Deed.associate account), deed.binds ≠ some ⟨account, id⟩ := by
    intro deed inside same
    obtain ⟨token, listed, rfl⟩ := List.mem_map.mp inside
    cases same
    exact unseen listed
  have same := (deeds_freeze sender now before middle account id _ others ahead numbered below).1
  have tokens : middle.token id = before.token id := by
    refine quiet_token_rows sender now before middle _ (fun deed inside => ?_) ahead id
    obtain ⟨token, _, rfl⟩ := List.mem_map.mp inside
    rfl
  cases rest with
  | @cons _ _ _ next _ does follow =>
      obtain ⟨absent, made⟩ := associate_freeze sender now middle next account id does
      have start : middle.merged.freezesNewcomers id = before.merged.freezesNewcomers id := by
        rw [Ledger.freezesNewcomers, Ledger.freezesNewcomers, View.merged_token, View.merged_token, tokens]
      rw [start] at made
      refine ⟨same.symm.trans absent, ?_⟩
      refine Deeds.keeps (fun view => view.merged.freeze account id = some (before.merged.freezesNewcomers id)) _ _ _
        (fun deed inside first last again there => ?_) follow made
      obtain ⟨token, _, rfl⟩ := List.mem_map.mp inside
      by_cases twice : id = token
      · subst twice
        have none := (associate_freeze sender now first last account id again).1
        rw [none] at there
        cases there
      · cases again with
        | associate =>
            rw [merged_freeze] at there ⊢
            rw [View.relationship_put_relationship, if_neg fun both => twice both.2]
            exact there

theorem dissociation_freeze (tokens : List TokenId) (member : id ∈ tokens) (row : Token)
    (existing : before.Exists id row) (done : Deeds sender now (tokens.map (.dissociate account)) before after) :
    before.merged.units account id = 0 ∧ after.merged.freeze account id = none := by
  obtain ⟨earlier, later, rfl, unseen⟩ := List.eq_append_cons_of_mem member
  rw [List.map_append] at done
  obtain ⟨middle, ahead, rest⟩ := Deeds.split _ _ _ _ done
  have same := Deeds.keeps (fun view => view.Exists id row ∧ view.merged.units account id = before.merged.units account id)
    _ _ _ (fun deed inside first last leaves kept => ?_) ahead ⟨existing, rfl⟩
  · cases rest with
    | @cons _ _ _ next _ does follow =>
        obtain ⟨spent, gone⟩ := dissociate_freeze sender now middle next account id row same.1 does
        refine ⟨same.2.symm.trans spent, ?_⟩
        refine Deeds.keeps (fun view => view.merged.freeze account id = none) _ _ _
          (fun deed inside first last again gone => ?_) follow gone
        obtain ⟨token, _, rfl⟩ := List.mem_map.mp inside
        cases again with
        | dissociate =>
            rw [merged_freeze] at gone ⊢
            rw [View.relationship_remove_relationship]
            split
            · rfl
            · exact gone
  · obtain ⟨token, listed, rfl⟩ := List.mem_map.mp inside
    have apart : id ≠ token := by
      rintro rfl
      exact unseen listed
    cases leaves with
    | dissociate held found released =>
        refine ⟨⟨kept.1.found, kept.1.own, kept.1.live⟩, ?_⟩
        rw [← kept.2, Ledger.units, Ledger.units, View.merged_relationship, View.merged_relationship,
          View.relationship_remove_relationship, if_neg fun both => apart both.2]

theorem body_freeze (body : Body) (done : Deeds sender now body.deeds before after)
    (numbered : before.merged.Numbered before.limit) (row : Token) (existing : before.Exists id row) :
    after.merged.freeze account id = before.merged.freeze account id ∨
      (∃ tokens, body = .dissociate ⟨account, tokens⟩ ∧ id ∈ tokens ∧ before.merged.units account id = 0 ∧
        after.merged.freeze account id = none) ∨
      ∃ tokens, body = .associate ⟨account, tokens⟩ ∧ id ∈ tokens ∧ before.merged.freeze account id = none ∧
        after.merged.freeze account id = some (before.merged.freezesNewcomers id) := by
  have below := View.numbered_token _ _ numbered id row existing.found
  have still (apart : ∀ deed ∈ body.deeds, deed.binds ≠ some ⟨account, id⟩) :
      after.merged.freeze account id = before.merged.freeze account id :=
    (deeds_freeze sender now before after account id body.deeds apart done numbered below).1
  cases body with
  | associate association =>
      obtain ⟨other, tokens⟩ := association
      by_cases named : other = account ∧ id ∈ tokens
      · obtain ⟨rfl, member⟩ := named
        obtain ⟨absent, made⟩ := association_freeze sender now before after other id tokens member done numbered below
        exact .inr (.inr ⟨tokens, rfl, member, absent, made⟩)
      · refine .inl (still fun deed inside same => ?_)
        obtain ⟨token, listed, rfl⟩ := List.mem_map.mp inside
        cases same
        exact named ⟨rfl, listed⟩
  | dissociate association =>
      obtain ⟨other, tokens⟩ := association
      by_cases named : other = account ∧ id ∈ tokens
      · obtain ⟨rfl, member⟩ := named
        obtain ⟨spent, gone⟩ := dissociation_freeze sender now before after other id tokens member row existing done
        exact .inr (.inl ⟨tokens, rfl, member, spent, gone⟩)
      · refine .inl (still fun deed inside same => ?_)
        obtain ⟨token, listed, rfl⟩ := List.mem_map.mp inside
        cases same
        exact named ⟨rfl, listed⟩
  | mint | burn | wipe | pause | unpause | create | update =>
      refine .inl (still fun deed inside => ?_)
      cases List.mem_singleton.mp inside
      exact (Option.some_ne_none _).symm
  | transfer hbar tokens =>
      refine .inl (still fun deed inside => ?_)
      rcases transfer_deed _ _ _ inside with ⟨_, _, rfl⟩ | ⟨_, _, _, _, rfl⟩ | ⟨_, _, _, _, rfl⟩ <;>
        exact (Option.some_ne_none _).symm
  | approve hbar units nfts =>
      refine .inl (still fun deed inside => ?_)
      simp only [Body.deeds, NftGrant.deeds, List.mem_append, List.mem_map, List.mem_flatMap,
        List.mem_singleton] at inside
      rcases inside with ⟨_, _, rfl⟩ | ⟨_, _, rfl⟩ | ⟨_, _, ⟨_, _, rfl⟩ | rfl⟩ <;>
        exact (Option.some_ne_none _).symm
  | revoke revocations =>
      refine .inl (still fun deed inside => ?_)
      obtain ⟨_, _, listed⟩ := List.mem_flatMap.mp inside
      obtain ⟨_, _, rfl⟩ := List.mem_map.mp listed
      exact (Option.some_ne_none _).symm
  | queryToken | queryNft => exact .inl (still fun _ inside => (List.not_mem_nil inside).elim)

-- A token that freezes newcomers goes on to do so: an update can replace its freeze key but not
-- take it away.
theorem body_freezes_newcomers (body : Body) (done : Deeds sender now body.deeds before after)
    (numbered : before.merged.Numbered before.limit) (freezes : before.merged.freezesNewcomers id = true) :
    after.merged.freezesNewcomers id = true := by
  unfold Ledger.freezesNewcomers at freezes ⊢
  rw [View.merged_token] at freezes ⊢
  cases found : before.token id with
  | none =>
      rw [found] at freezes
      cases freezes
  | some token =>
      rw [found] at freezes
      rcases body_token_rows sender now before after body done with kept | ⟨row, defines, rows⟩
      · rw [kept, found]
        exact freezes
      rw [rows]
      by_cases same : id = row.id
      · subst same
        rw [if_pos rfl]
        have own (other : TokenId) (former : Token) (existing : before.Exists other former)
            (about : row.id = former.id) : former = token := by
          rw [about, existing.own, existing.found] at found
          exact Option.some.inj found
        cases defines with
        | mint order former supply last existing =>
            cases own _ _ existing rfl
            exact freezes
        | burn order former supply existing =>
            cases own _ _ existing rfl
            exact freezes
        | wipe order former supply existing =>
            cases own _ _ existing rfl
            exact freezes
        | pause other former existing =>
            cases own _ _ existing rfl
            exact freezes
        | unpause other former existing =>
            cases own _ _ existing rfl
            exact freezes
        | update order former existing =>
            cases own _ _ existing rfl
            simp only [Option.map_some, Option.getD_some, Bool.and_eq_true] at freezes ⊢
            refine ⟨freezes.1, ?_⟩
            rw [show (Work.revised order token).keys.freeze = order.keys.freeze.or token.keys.freeze from rfl,
              Option.isSome_or, freezes.2, Bool.or_true]
        | create order number time fresh =>
            have below := View.numbered_token _ _ numbered _ token found
            exact absurd fresh (Nat.ne_of_lt below)
      · rw [if_neg same, found]
        exact freezes

-- An entry of a transfer finds a relationship that is not frozen, so where there is none the
-- account has no part in the transfer.
theorem transfer_undisturbed (hbar : List Adjustment) (moves : List TokenMoves)
    (done : Deeds sender now (Body.transfer hbar moves).deeds before after)
    (barred : before.merged.freeze account id ≠ some false) :
    before.merged.Undisturbed after.merged account id := by
  have shut (view : View) (same : view.relationship account id = before.relationship account id)
      (held : Relationship) (trades : view.Trades account id held) : False := by
    apply barred
    rw [merged_freeze, ← same, trades.found, Option.map_some, trades.thawed]
  have kept := Deeds.keeps (fun view => view.relationship account id = before.relationship account id ∧
    ∀ serial row, row.owner = account → (view.nft ⟨id, serial⟩ = some row ↔ before.nft ⟨id, serial⟩ = some row))
    _ before after (fun deed inside first next does there => ?_) done ⟨rfl, fun _ _ _ => Iff.rfl⟩
  · refine ⟨?_, fun serial row owned => ?_⟩
    · rw [View.merged_relationship, View.merged_relationship]
      exact kept.1
    · rw [View.merged_nft, View.merged_nft]
      exact kept.2 serial row owned
  · obtain ⟨same, serials⟩ := there
    rcases transfer_deed _ _ _ inside with ⟨_, _, rfl⟩ | ⟨move, _, entry, _, rfl⟩ | ⟨listed, _, move, _, rfl⟩
    · cases does with
      | adjustHbar => exact ⟨same, serials⟩
    · have elsewhere (held : Relationship) (trades : first.Trades entry.account move.token held) :
          ¬ (account = entry.account ∧ id = move.token) := by
        rintro ⟨rfl, rfl⟩
        exact shut first same held trades
      cases does with
      | adjustUnits token owner held balance usable fungible lives trades =>
          rw [View.relationship_put_relationship, if_neg (elsewhere held trades)]
          exact ⟨same, serials⟩
      | drawUnits token owner held allowances balance usable fungible lives trades =>
          rw [View.relationship_put_relationship, if_neg (elsewhere held trades)]
          exact ⟨same, serials⟩
    · cases does with
      | moveNft token nft receiver source target left gained usable nonFungible found own owned approved lives sends
          receives =>
          have gives : ¬ (account = move.sender ∧ id = listed.token) := by
            rintro ⟨rfl, rfl⟩
            exact shut first same source sends
          have gains : ¬ (account = move.receiver ∧ id = listed.token) := by
            rintro ⟨rfl, rfl⟩
            exact shut first same target receives
          rw [View.relationship_put_nft, View.relationship_put_relationship, if_neg gains,
            View.relationship_put_relationship, if_neg gives]
          refine ⟨same, fun serial row mine => ?_⟩
          rw [← serials serial row mine, View.nft_put_nft]
          by_cases moved : (⟨id, serial⟩ : NftId) = nft.id
          -- The serial that moves is neither before nor after the move one of this account.
          · rw [if_pos moved, moved, own, found]
            rw [own] at moved
            have about : id = listed.token := congrArg NftId.token moved
            constructor
            · intro written
              cases written
              exact absurd ⟨mine.symm, about⟩ gains
            · intro there
              cases there
              exact absurd ⟨mine.symm.trans owned, about⟩ gives
          · rw [if_neg moved]
            rfl

end Bodies

end TokenService
