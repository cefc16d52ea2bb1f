import TokenService.Proofs.Ledger.Alike
import TokenService.Proofs.Ledger.Differences
import TokenService.Proofs.Ledger.Execution

set_option autoImplicit false

namespace TokenService

def NftMove.parties (move : NftMove) : List AccountId := [move.sender, move.receiver]

def TokenMoves.parties (moves : TokenMoves) : List AccountId :=
  moves.adjustments.map Adjustment.account ++ moves.nftMoves.flatMap NftMove.parties

def parties (hbar : List Adjustment) (tokens : List TokenMoves) : List AccountId :=
  hbar.map Adjustment.account ++ tokens.flatMap TokenMoves.parties

-- For those named a serial is alike in two places when its row is the same, or somebody else's in both.
def Nft.Near (names : AccountId → Prop) (left right : Option Nft) : Prop :=
  left = right ∨ ∃ here there, left = some here ∧ right = some there ∧ ¬ names here.owner ∧ ¬ names there.owner

theorem Nft.near_owned (names : AccountId → Prop) (row : Nft) (right : Option Nft) (near : Near names (some row) right)
    (owned : names row.owner) : right = some row := by
  rcases near with same | ⟨here, _, found, _, away, _⟩
  · exact same.symm
  · cases found
    exact absurd owned away

structure Ledger.Near (names : AccountId → Prop) (left right : Ledger) : Prop where
  number : left.nextEntity = right.nextEntity
  tokens : left.tokens = right.tokens
  accounts : ∀ id, names id → left.accounts.get? id = right.accounts.get? id
  relationships : ∀ holding, names holding.account → left.relationships.get? holding = right.relationships.get? holding
  nfts : ∀ id, Nft.Near names (left.nfts.get? id) (right.nfts.get? id)

theorem Ledger.Near.refl (names : AccountId → Prop) (ledger : Ledger) : ledger.Near names ledger :=
  ⟨rfl, rfl, fun _ _ => rfl, fun _ _ => rfl, fun _ => .inl rfl⟩

structure Changes.Within (names : AccountId → Prop) (ledger : Ledger) (changes : Changes) : Prop where
  accounts : ∀ id row, changes.accounts.get? id = some row → names id
  tokens : changes.tokens = ∅
  relationships : ∀ holding row, changes.relationships.get? holding = some row → names holding.account
  nfts : ∀ id row, changes.nfts.get? id = some row →
    ∃ before after, ledger.nfts.get? id = some before ∧ names before.owner ∧ row = some after ∧ names after.owner
  created : changes.entitiesCreated = 0

structure Changes.SameRows (changes : Changes) (left right : Ledger) : Prop where
  number : left.nextEntity = right.nextEntity
  tokens : left.tokens = right.tokens
  accounts : ∀ id row, changes.accounts.get? id = some row → left.accounts.get? id = right.accounts.get? id
  relationships : ∀ holding row, changes.relationships.get? holding = some row →
    left.relationships.get? holding = right.relationships.get? holding
  nfts : ∀ id row, changes.nfts.get? id = some row → left.nfts.get? id = right.nfts.get? id

namespace Table

variable {κ ρ : Type} [Ord κ] [Std.TransOrd κ] [Std.LawfulEqOrd κ] [DecidableEq κ]

theorem merge_comm (base : Table κ ρ) (left right : Table κ (Option ρ))
    (apart : ∀ key row other, left.get? key = some row → right.get? key ≠ some other) :
    (base.merge left).merge right = (base.merge right).merge left := by
  apply table_ext
  intro key
  rw [get_merge, get_merge, get_merge, get_merge]
  cases first : left.get? key with
  | none => rfl
  | some row =>
      cases second : right.get? key with
      | none => rfl
      | some other => exact absurd second (apart key row other first)

end Table

namespace Changes

variable {names others : AccountId → Prop} {ledger other : Ledger} {changes : Changes}

theorem Within.same_rows (within : changes.Within names ledger) (near : ledger.Near names other) :
    changes.SameRows ledger other where
  number := near.number
  tokens := near.tokens
  accounts id row staged := near.accounts id (within.accounts id row staged)
  relationships holding row staged := near.relationships holding (within.relationships holding row staged)
  nfts id row staged := by
    obtain ⟨before, _, found, owned, _⟩ := within.nfts id row staged
    have seen := near.nfts id
    rw [found] at seen ⊢
    exact (Nft.near_owned names before _ seen owned).symm

theorem Within.near (within : changes.Within names ledger) (apart : ∀ id, names id → ¬ others id) :
    ledger.Near others (ledger.apply changes) where
  number := by
    rw [Ledger.apply, within.created]
    exact (UInt64.add_zero _).symm
  tokens := by
    rw [Ledger.apply, within.tokens]
    rfl
  accounts id named := by
    rw [Ledger.apply, Table.get_merge]
    cases staged : changes.accounts.get? id with
    | none => rfl
    | some row => exact absurd named (apart id (within.accounts id row staged))
  relationships holding named := by
    rw [Ledger.apply, Table.get_merge]
    cases staged : changes.relationships.get? holding with
    | none => rfl
    | some row => exact absurd named (apart _ (within.relationships holding row staged))
  nfts id := by
    rw [Ledger.apply, Table.get_merge]
    cases staged : changes.nfts.get? id with
    | none => exact .inl rfl
    | some row =>
        obtain ⟨before, after, found, owned, rfl, kept⟩ := within.nfts id row staged
        exact .inr ⟨before, after, found, rfl, apart _ owned, apart _ kept⟩

theorem apply_comm (left right : Changes) (first : left.Within names ledger) (second : right.Within others ledger)
    (apart : ∀ id, names id → ¬ others id) : (ledger.apply left).apply right = (ledger.apply right).apply left := by
  have accounts := Table.merge_comm ledger.accounts left.accounts right.accounts fun id _ _ here there =>
    apart id (first.accounts _ _ here) (second.accounts _ _ there)
  have relationships := Table.merge_comm ledger.relationships left.relationships right.relationships
    fun holding _ _ here there =>
      apart holding.account (first.relationships _ _ here) (second.relationships _ _ there)
  -- A serial that both write would belong to somebody whom both name.
  have nfts := Table.merge_comm ledger.nfts left.nfts right.nfts fun id _ _ here there => by
    obtain ⟨before, _, found, owned, _⟩ := first.nfts _ _ here
    obtain ⟨same, _, again, also, _⟩ := second.nfts _ _ there
    cases found.symm.trans again
    exact apart _ owned also
  simp only [Ledger.apply, accounts, relationships, nfts, first.tokens, second.tokens, first.created, second.created]

theorem map_m_same {α β ε : Type} (first second : α → Except ε β) (items : List α)
    (same : ∀ item ∈ items, first item = second item) : items.mapM first = items.mapM second := by
  induction items with
  | nil => rfl
  | cons item rest ih =>
      rw [List.mapM_cons, List.mapM_cons, same item List.mem_cons_self,
        ih fun other member => same other (List.mem_cons_of_mem _ member)]

theorem gathered_same {κ ρ β : Type} [Ord κ] [Std.TransOrd κ] [Std.LawfulEqOrd κ] (staged : Table κ (Option ρ))
    (first second : Table κ ρ) (same : ∀ key row, staged.get? key = some row → first.get? key = second.get? key)
    (gather : Option ρ → κ → Option ρ → Option β) :
    (staged.rows.filterMap fun entry => gather (first.get? entry.1) entry.1 entry.2) =
      staged.rows.filterMap fun entry => gather (second.get? entry.1) entry.1 entry.2 := by
  refine List.filterMap_congr fun entry member => ?_
  rw [same entry.1 entry.2 ((Table.get_some_iff _ _ _).mpr member)]

section Effects

variable {left right : Ledger} (same : changes.SameRows left right)
include same

theorem unit_differences_same : Effects.unitDifferences left changes = Effects.unitDifferences right changes := by
  rw [unit_differences_each, unit_differences_each,
    map_m_same (unitDifference left changes) (unitDifference right changes) _ fun entry member => ?_]
  have row := same.relationships entry.1 entry.2 ((Table.get_some_iff _ _ _).mpr member)
  rw [unitDifference, unitDifference, Effects.typeAfter, Effects.typeAfter, same.tokens, row]

theorem hbar_differences_same : Effects.hbarDifferences left changes = Effects.hbarDifferences right changes := by
  unfold Effects.hbarDifferences
  rw [map_m_same _ _ changes.accounts.rows fun entry member => ?_]
  have row := same.accounts entry.1 entry.2 ((Table.get_some_iff _ _ _).mpr member)
  dsimp only
  rw [row]

theorem nft_moves_same : Effects.nftMoves left changes = Effects.nftMoves right changes :=
  gathered_same changes.nfts left.nfts right.nfts same.nfts fun below id staged =>
    if below.map Nft.owner = staged.map Nft.owner then none
    else
      some (id.token, NftMove.mk ((below.map Nft.owner).getD .zero) ((staged.map Nft.owner).getD .zero) id.serial false)

theorem new_serials_same : Effects.newSerials left changes = Effects.newSerials right changes :=
  gathered_same changes.nfts left.nfts right.nfts same.nfts fun below id staged =>
    if below.isNone && staged.isSome then some id.serial else none

theorem new_associations_same : Effects.newAssociations left changes = Effects.newAssociations right changes :=
  gathered_same changes.relationships left.relationships right.relationships same.relationships
    fun below holding staged =>
      if below.isNone && staged.isSome then some (NewAssociation.mk holding.token holding.account) else none

-- The effects of changes tell of the rows that they are about, and of nothing else.
theorem effects_same : changes.effects left = changes.effects right := by
  have created : Effects.newToken? left changes = Effects.newToken? right changes := by
    rw [Effects.newToken?, Effects.newToken?, same.tokens]
  have supply : Effects.newTotalSupply? left changes = Effects.newTotalSupply? right changes := by
    rw [Effects.newTotalSupply?, Effects.newTotalSupply?, same.tokens]
  rw [effects, effects, unit_differences_same same, hbar_differences_same same, created, supply,
    nft_moves_same same, new_serials_same same, new_associations_same same]

end Effects

end Changes

namespace View

structure Paired (names : AccountId → Prop) (first second : Ledger) (left right : View) : Prop where
  here : left.ledger = first
  there : right.ledger = second
  changes : left.changes = right.changes
  within : left.changes.Within names first
  rooted : left.merged.Rooted

section Pairs

variable {names : AccountId → Prop} {first second : Ledger} {left right : View}

theorem paired_fresh (rooted : first.Rooted) :
    Paired names first second { ledger := first } { ledger := second } where
  here := rfl
  there := rfl
  changes := rfl
  within :=
    { accounts := by rintro _ _ ⟨⟩
      tokens := rfl
      relationships := by rintro _ _ ⟨⟩
      nfts := by rintro _ _ ⟨⟩
      created := rfl }
  rooted := by
    rw [fresh_merged]
    exact rooted

variable (paired : Paired names first second left right)
include paired

section Reads

variable (near : first.Near names second)
include near

theorem paired_account (id : AccountId) (named : names id) : left.account id = right.account id := by
  rw [account, account, Table.overlaid, Table.overlaid, paired.here, paired.there, paired.changes,
    near.accounts id named]

theorem paired_token : left.token = right.token := by
  funext id
  rw [token, token, paired.here, paired.there, paired.changes, near.tokens]

theorem paired_relationship (account : AccountId) (token : TokenId) (named : names account) :
    left.relationship account token = right.relationship account token := by
  rw [relationship, relationship, Table.overlaid, Table.overlaid, paired.here, paired.there, paired.changes,
    near.relationships ⟨account, token⟩ named]

theorem paired_nft (id : NftId) : Nft.Near names (left.nft id) (right.nft id) := by
  rw [nft, nft, Table.overlaid, Table.overlaid, paired.here, paired.there, paired.changes]
  cases right.changes.nfts.get? id with
  | none => exact near.nfts id
  | some row => exact .inl rfl

theorem paired_live (id : AccountId) (named : names id) : left.liveAccount id = right.liveAccount id := by
  rw [liveAccount, liveAccount, paired_account paired near id named]

theorem paired_usable (id : TokenId) : left.usableToken id = right.usableToken id := by
  rw [usableToken, usableToken, existingToken, existingToken, paired_token paired near]

theorem paired_trades (account : AccountId) (token : TokenId) (named : names account) :
    left.usableRelationship account token = right.usableRelationship account token := by
  rw [usableRelationship, usableRelationship, presentRelationship, presentRelationship,
    paired_relationship paired near account token named]

end Reads

theorem paired_base (id : NftId) (row : Nft) (found : left.nft id = some row) (owned : names row.owner) :
    ∃ before, first.nfts.get? id = some before ∧ names before.owner := by
  cases staged : left.changes.nfts.get? id with
  | none =>
      rw [nft, Table.overlaid, staged, paired.here] at found
      exact ⟨row, found, owned⟩
  | some other =>
      obtain ⟨before, _, known, among, _⟩ := paired.within.nfts id other staged
      exact ⟨before, known, among⟩

theorem paired_put_account (row : Account) (named : names row.id) :
    Paired names first second (left.putAccount row) (right.putAccount row) where
  here := paired.here
  there := paired.there
  changes := by rw [putAccount, putAccount, paired.changes]
  within :=
    { paired.within with
      accounts := by
        intro id other staged
        rw [putAccount, Table.get_insert] at staged
        by_cases same : id = row.id
        · exact same ▸ named
        · rw [if_neg same] at staged
          exact paired.within.accounts id other staged }
  rooted := rooted_put_account left paired.rooted row

theorem paired_put_relationship (account : AccountId) (token : TokenId) (row : Relationship) (named : names account) :
    Paired names first second (left.putRelationship account token row) (right.putRelationship account token row) where
  here := paired.here
  there := paired.there
  changes := by rw [putRelationship, putRelationship, paired.changes]
  within :=
    { paired.within with
      relationships := by
        intro holding other staged
        rw [putRelationship, Table.get_insert] at staged
        by_cases same : holding = ⟨account, token⟩
        · exact same ▸ named
        · rw [if_neg same] at staged
          exact paired.within.relationships holding other staged }
  rooted := rooted_put_relationship left paired.rooted account token row

theorem paired_put_nft (row before : Nft) (found : first.nfts.get? row.id = some before) (owned : names before.owner)
    (named : names row.owner) : Paired names first second (left.putNft row) (right.putNft row) where
  here := paired.here
  there := paired.there
  changes := by rw [putNft, putNft, paired.changes]
  within :=
    { paired.within with
      nfts := by
        intro id other staged
        rw [putNft, Table.get_insert] at staged
        by_cases same : id = row.id
        · rw [if_pos same] at staged
          cases staged
          exact ⟨before, row, same ▸ found, owned, rfl, named⟩
        · rw [if_neg same] at staged
          exact paired.within.nfts id other staged }
  rooted := rooted_put_nft left paired.rooted row

end Pairs

end View

namespace Work

section Transfers

variable {names : AccountId → Prop} {first second : Ledger}

theorem put_account_alike (row : Account) (named : names row.id) :
    (change (·.putAccount row)).Alike (View.Paired names first second) :=
  alike_change _ _ fun _ _ paired => View.paired_put_account paired row named

theorem put_relationship_alike (account : AccountId) (token : TokenId) (row : Relationship) (named : names account) :
    (change (·.putRelationship account token row)).Alike (View.Paired names first second) :=
  alike_change _ _ fun _ _ paired => View.paired_put_relationship paired account token row named

theorem require_failed {β : Type} (rule : Bool) (status : Status) (next : Unit → Work β) (view : View)
    (failed : rule = false) : (require rule status >>= next) view = (.error (.status status), view) := by
  rw [failed]
  rfl

variable (near : first.Near names second)
include near

theorem owned_alike {β : Type} (id : NftId) (sender : AccountId) (named : names sender) (next : Nft → Work β)
    (rest : ∀ nft before, nft.id = id → first.nfts.get? id = some before → names before.owner →
      (next nft).Alike (View.Paired names first second)) :
    (do let nft ← read fun view => View.demand (view.nft id) .invalidNftId
        require (nft.owner == sender) .insufficientTokenBalance
        next nft : Work β).Alike (View.Paired names first second) := by
  intro left right paired
  have refused (nft : Nft) (other : nft.owner ≠ sender) (view : View) :=
    require_failed (nft.owner == sender) .insufficientTokenBalance (fun _ => next nft) view (beq_false_of_ne other)
  rw [run_bind, run_bind, read_run, read_run]
  rcases View.paired_nft paired near id with same | ⟨here, there, foundHere, foundThere, away, far⟩
  · rw [← same]
    cases found : left.nft id with
    | none => exact ⟨rfl, paired⟩
    | some nft =>
        simp only [View.demand]
        by_cases owned : nft.owner = sender
        · obtain ⟨before, known, among⟩ := View.paired_base paired id nft found (owned ▸ named)
          have own := View.rooted_nft left paired.rooted id nft found
          exact alike_bind _ _ _ ((alike_composes _).require _ _) (fun _ => rest nft before own known among) _ _ paired
        · rw [refused nft owned, refused nft owned]
          exact ⟨rfl, paired⟩
  · rw [foundHere, foundThere]
    simp only [View.demand]
    rw [refused here fun same => away (same ▸ named), refused there fun same => far (same ▸ named)]
    exact ⟨rfl, paired⟩

theorem live_alike (id : AccountId) (named : names id) :
    (read (·.liveAccount id)).Alike (View.Paired names first second) :=
  alike_read _ _ fun _ _ paired => View.paired_live paired near id named

theorem trades_alike (account : AccountId) (token : TokenId) (named : names account) :
    (read (·.usableRelationship account token)).Alike (View.Paired names first second) :=
  alike_read _ _ fun _ _ paired => View.paired_trades paired near account token named

theorem live_bind_alike {β : Type} (id : AccountId) (named : names id) (next : Account → Work β)
    (rest : ∀ row, row.id = id → (next row).Alike (View.Paired names first second)) :
    (read (·.liveAccount id) >>= next).Alike (View.Paired names first second) :=
  alike_read_bind _ _ _ (fun row => row.id = id) (fun _ _ paired => View.paired_live paired near id named)
    (fun left _ row paired found => (View.lives_of_ok left id paired.rooted row found).own) rest

theorem adjust_hbar_alike (spender : AccountId) (adjustment : Adjustment) (named : names adjustment.account) :
    (adjustHbar spender adjustment).Alike (View.Paired names first second) := by
  have parts := alike_composes (View.Paired names first second)
  refine live_bind_alike near _ named _ fun row own => ?_
  refine parts.bind _ _ (parts.drawn _ _ _) fun allowances => ?_
  refine parts.bind _ _ (parts.adjusted _ _ _) fun balance => ?_
  exact put_account_alike _ (own ▸ named)

theorem adjust_units_alike (spender : AccountId) (token : TokenId) (adjustment : Adjustment)
    (named : names adjustment.account) :
    (adjustUnits spender token adjustment).Alike (View.Paired names first second) := by
  have parts := alike_composes (View.Paired names first second)
  refine live_bind_alike near _ named _ fun row own => ?_
  refine parts.bind _ _ (trades_alike near _ _ named) fun held => ?_
  have drawing : (drawUnits spender token adjustment row).Alike (View.Paired names first second) := by
    unfold drawUnits
    split
    · exact parts.bind _ _ (parts.draw _ _ _) fun _ => put_account_alike _ (own ▸ named)
    · exact parts.pure _
  refine parts.bind _ _ drawing fun _ => ?_
  exact parts.bind _ _ (parts.adjusted _ _ _) fun _ => put_relationship_alike _ _ _ named

theorem move_nft_alike (spender : AccountId) (token : TokenId) (move : NftMove) (source : names move.sender)
    (target : names move.receiver) : (moveNft spender token move).Alike (View.Paired names first second) := by
  have parts := alike_composes (View.Paired names first second)
  refine owned_alike near ⟨token, move.serial⟩ move.sender source _ fun nft before own found owned => ?_
  have approved : (checkApproval spender token move nft).Alike (View.Paired names first second) := by
    unfold checkApproval
    split
    · exact parts.bind _ _ (live_alike near _ source) fun _ => parts.require _ _
    · exact parts.pure _
  refine parts.bind _ _ approved fun _ => ?_
  refine parts.bind _ _ (parts.discarded _ (live_alike near _ target)) fun _ => ?_
  refine parts.bind _ _ (trades_alike near _ _ source) fun giving => ?_
  refine parts.bind _ _ (trades_alike near _ _ target) fun taking => ?_
  refine parts.bind _ _ (parts.adjusted _ _ _) fun left => ?_
  refine parts.bind _ _ (parts.adjusted _ _ _) fun gained => ?_
  refine parts.bind _ _ (put_relationship_alike _ _ _ source) fun _ => ?_
  refine parts.bind _ _ (put_relationship_alike _ _ _ target) fun _ => ?_
  exact alike_change _ _ fun _ _ paired => View.paired_put_nft paired _ before (own ▸ found) owned target

theorem transfer_token_alike (spender : AccountId) (moves : TokenMoves) (named : ∀ id ∈ moves.parties, names id) :
    (transferToken spender moves).Alike (View.Paired names first second) := by
  have parts := alike_composes (View.Paired names first second)
  refine parts.bind _ _ (alike_read _ _ fun _ _ paired => View.paired_usable paired near _) fun token => ?_
  refine parts.bind _ _ (parts.check_kind _ _) fun _ => ?_
  refine parts.bind _ _ (parts.each _ _ fun adjustment member => ?_) fun _ => parts.each _ _ fun move member => ?_
  · exact adjust_units_alike near _ _ _ (named _ (List.mem_append_left _ (List.mem_map_of_mem member)))
  · have among (id : AccountId) (party : id ∈ move.parties) : names id :=
      named id (List.mem_append_right _ (List.mem_flatMap.mpr ⟨move, member, party⟩))
    exact move_nft_alike near _ _ _ (among _ List.mem_cons_self) (among _ (List.mem_cons_of_mem _ List.mem_cons_self))

/-- A transfer has one result on two ledgers that agree on those it names, and changes both in the same way, among those
it names. -/
theorem transfer_near_alike (hbar : List Adjustment) (tokens : List TokenMoves) (spender : AccountId)
    (named : ∀ id ∈ parties hbar tokens, names id) :
    (transfer hbar tokens spender).Alike (View.Paired names first second) := by
  have parts := alike_composes (View.Paired names first second)
  refine parts.bind _ _ (parts.each _ _ fun adjustment member => ?_) fun _ => parts.each _ _ fun moves member => ?_
  · exact adjust_hbar_alike near _ _ (named _ (List.mem_append_left _ (List.mem_map_of_mem member)))
  · exact transfer_token_alike near _ _ fun id party =>
      named id (List.mem_append_right _ (List.mem_flatMap.mpr ⟨moves, member, party⟩))

end Transfers

end Work

end TokenService
