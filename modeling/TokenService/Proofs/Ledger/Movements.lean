import TokenService.Proofs.Ledger.Definitions
import TokenService.Proofs.Ledger.Differences

set_option autoImplicit false

namespace TokenService

-- Records do not say what was approved.
def Adjustment.plain (entry : Adjustment) : Adjustment := { entry with approval := false }

def NftMove.plain (move : NftMove) : NftMove := { move with approval := false }

structure AdjustmentsMake (entries : List Adjustment) (before after : AccountId → Int) : Prop where
  distinct : (entries.map Adjustment.account).Nodup
  listed : ∀ entry ∈ entries, after entry.account = before entry.account + entry.amount.toInt
  others : ∀ account, account ∉ entries.map Adjustment.account → after account = before account

structure MovesMake (moves : List NftMove) (before after : Int64 → Option AccountId) : Prop where
  distinct : (moves.map NftMove.serial).Nodup
  listed : ∀ move ∈ moves, move.sender ≠ move.receiver ∧ before move.serial = some move.sender ∧
    after move.serial = some move.receiver
  others : ∀ serial, serial ∉ moves.map NftMove.serial → after serial = before serial

-- Adjustments that are told as they were asked for, in the order of accounts. Those of nothing are
-- not told.
structure AdjustmentsMatch (told asked : List Adjustment) : Prop where
  ascending : told.Pairwise fun earlier later => compare earlier.account later.account = .lt
  entries : told.Perm ((asked.filter fun entry => entry.amount ≠ 0).map Adjustment.plain)

structure MovesMatch (told asked : List NftMove) : Prop where
  ascending : told.Pairwise fun earlier later => compare earlier.serial later.serial = .lt
  entries : told.Perm (asked.map NftMove.plain)

structure TransfersMatch (toldHbar : List Adjustment) (toldTokens : List TokenMoves) (hbar : List Adjustment)
    (tokens : List TokenMoves) : Prop where
  hbar : AdjustmentsMatch toldHbar hbar
  units : ∀ id, AdjustmentsMatch (TokenMoves.adjusted toldTokens id) (TokenMoves.adjusted tokens id)
  serials : ∀ id, MovesMatch (TokenMoves.moved toldTokens id) (TokenMoves.moved tokens id)

section Lists

theorem ascending_distinct {α κ : Type} [Ord κ] [Std.ReflOrd κ] (key : α → κ) (items : List α)
    (ascending : items.Pairwise fun earlier later => compare (key earlier) (key later) = .lt) :
    (items.map key).Nodup := by
  refine List.pairwise_map.mpr (ascending.imp fun below same => ?_)
  rw [same, Std.ReflOrd.compare_self] at below
  cases below

theorem amount_zero_iff (amount : Int64) : amount = 0 ↔ amount.toInt = 0 := by
  rw [← Int64.toInt_inj]
  exact Iff.rfl

theorem perm_of_keys {α κ : Type} (key : α → κ) (left right : List α) (first : (left.map key).Nodup)
    (second : (right.map key).Nodup) (keys : ∀ name, name ∈ left.map key ↔ name ∈ right.map key)
    (agree : ∀ item ∈ left, ∀ other ∈ right, key item = key other → item = other) : left.Perm right := by
  refine (List.perm_ext_iff_of_nodup (List.Nodup.of_map _ first) (List.Nodup.of_map _ second)).mpr fun item => ?_
  constructor
  · intro member
    obtain ⟨other, inside, same⟩ := List.mem_map.mp ((keys (key item)).mp (List.mem_map_of_mem member))
    rwa [agree item member other inside same.symm]
  · intro member
    obtain ⟨other, inside, same⟩ := List.mem_map.mp ((keys (key item)).mpr (List.mem_map_of_mem member))
    rwa [← agree other inside item member same]

theorem adjustments_match (made told : List Adjustment) (before after : AccountId → Int)
    (makes : AdjustmentsMake made before after) (tells : AdjustmentsTell told before after) :
    AdjustmentsMatch told made := by
  have accounts : ((made.filter fun entry => entry.amount ≠ 0).map Adjustment.plain).map Adjustment.account =
      (made.filter fun entry => entry.amount ≠ 0).map Adjustment.account := List.map_map
  have moves (entry : Adjustment) (member : entry ∈ made) :
      after entry.account ≠ before entry.account ↔ entry.amount ≠ 0 := by
    rw [makes.listed entry member, ne_eq, ne_eq, amount_zero_iff]
    omega
  refine ⟨tells.ascending, perm_of_keys Adjustment.account _ _ (ascending_distinct _ _ tells.ascending) ?_
    (fun account => ?_) fun entry member other inside same => ?_⟩
  · rw [accounts]
    exact makes.distinct.sublist (List.filter_sublist.map Adjustment.account)
  · rw [tells.accounts, accounts]
    constructor
    · intro differs
      have listed : account ∈ made.map Adjustment.account :=
        Decidable.byContradiction fun absent => differs (makes.others account absent)
      obtain ⟨entry, member, rfl⟩ := List.mem_map.mp listed
      exact List.mem_map_of_mem (List.mem_filter.mpr ⟨member, decide_eq_true ((moves entry member).mp differs)⟩)
    · intro listed
      obtain ⟨entry, member, rfl⟩ := List.mem_map.mp listed
      obtain ⟨member, amount⟩ := List.mem_filter.mp member
      exact (moves entry member).mpr (of_decide_eq_true amount)
  · obtain ⟨asked, listed, rfl⟩ := List.mem_map.mp inside
    have made := makes.listed asked (List.mem_filter.mp listed).1
    obtain ⟨plain, amount⟩ := tells.amounts entry member
    rw [show entry.account = asked.account from same] at amount
    have equal : entry.amount = asked.amount := Int64.toInt_inj.mp (by omega)
    cases entry
    cases plain
    cases same
    cases equal
    rfl

theorem moves_match (made told : List NftMove) (before after : Int64 → Option AccountId)
    (makes : MovesMake made before after) (tells : MovesTell told before after) : MovesMatch told made := by
  have serials : (made.map NftMove.plain).map NftMove.serial = made.map NftMove.serial := List.map_map
  refine ⟨tells.ascending, perm_of_keys NftMove.serial _ _ (ascending_distinct _ _ tells.ascending) ?_
    (fun serial => ?_) fun move member other inside same => ?_⟩
  · rw [serials]
    exact makes.distinct
  · rw [tells.serials, serials]
    constructor
    · intro differs
      exact Decidable.byContradiction fun absent => differs (makes.others serial absent)
    · intro listed
      obtain ⟨move, member, rfl⟩ := List.mem_map.mp listed
      obtain ⟨apart, left, gained⟩ := makes.listed move member
      rw [left, gained]
      exact fun same => apart (Option.some.inj same).symm
  · obtain ⟨asked, listed, rfl⟩ := List.mem_map.mp inside
    obtain ⟨_, left, gained⟩ := makes.listed asked listed
    obtain ⟨plain, sender, receiver⟩ := tells.owners move member
    rw [show move.serial = asked.serial from same] at sender receiver
    rw [left] at sender
    rw [gained] at receiver
    cases move
    cases plain
    cases same
    cases sender
    cases receiver
    rfl

end Lists

section Transfers

variable {sender : AccountId} {now : Timestamp} {hbar : List Adjustment} {tokens : List TokenMoves}

theorem mem_adjusted (lists : List TokenMoves) (id : TokenId) (entry : Adjustment) :
    entry ∈ TokenMoves.adjusted lists id ↔ ∃ moves ∈ lists, moves.token = id ∧ entry ∈ moves.adjustments := by
  simp only [TokenMoves.adjusted, List.mem_flatMap, List.mem_filter, beq_iff_eq, and_assoc]

theorem mem_moved (lists : List TokenMoves) (id : TokenId) (move : NftMove) :
    move ∈ TokenMoves.moved lists id ↔ ∃ moves ∈ lists, moves.token = id ∧ move ∈ moves.nftMoves := by
  simp only [TokenMoves.moved, List.mem_flatMap, List.mem_filter, beq_iff_eq, and_assoc]

theorem adjusted_deed (id : TokenId) (entry : Adjustment) (member : entry ∈ TokenMoves.adjusted tokens id) :
    Deed.adjustUnits id entry ∈ (Body.transfer hbar tokens).deeds := by
  obtain ⟨moves, inside, rfl, listed⟩ := (mem_adjusted _ _ _).mp member
  have deed : Deed.adjustUnits moves.token entry ∈ moves.deeds := List.mem_append_left _ (List.mem_map_of_mem listed)
  exact List.mem_append_right _ (List.mem_flatMap.mpr ⟨moves, inside, deed⟩)

theorem moved_deed (id : TokenId) (move : NftMove) (member : move ∈ TokenMoves.moved tokens id) :
    Deed.moveNft id move ∈ (Body.transfer hbar tokens).deeds := by
  obtain ⟨moves, inside, rfl, listed⟩ := (mem_moved _ _ _).mp member
  have deed : Deed.moveNft moves.token move ∈ moves.deeds := List.mem_append_right _ (List.mem_map_of_mem listed)
  exact List.mem_append_right _ (List.mem_flatMap.mpr ⟨moves, inside, deed⟩)

theorem list_about (lists : List TokenMoves) (distinct : (lists.map TokenMoves.token).Nodup) (id : TokenId) :
    lists.filter (fun moves => moves.token == id) = [] ∨
      ∃ moves ∈ lists, lists.filter (fun moves => moves.token == id) = [moves] := by
  induction lists with
  | nil => exact .inl rfl
  | cons moves rest ih =>
      obtain ⟨apart, distinct⟩ := List.nodup_cons.mp distinct
      by_cases about : moves.token = id
      · have none : rest.filter (fun moves => moves.token == id) = [] :=
          List.filter_eq_nil_iff.mpr fun other member same =>
            apart (List.mem_map.mpr ⟨other, member, (beq_iff_eq.mp same).trans about.symm⟩)
        rw [List.filter_cons, if_pos (beq_iff_eq.mpr about), none]
        exact .inr ⟨moves, List.mem_cons_self, rfl⟩
      · rw [List.filter_cons, if_neg (fun same => about (beq_iff_eq.mp same))]
        exact (ih distinct).imp_right fun ⟨other, member, same⟩ => ⟨other, List.mem_cons_of_mem _ member, same⟩

theorem nft_moved (id : TokenId) (move : NftMove) (first next : View)
    (does : (Deed.moveNft id move).Does sender now first next) :
    first.merged.owner id move.serial = some move.sender ∧ next.merged.owner id move.serial = some move.receiver := by
  rw [Ledger.owner, Ledger.owner, View.merged_nft, View.merged_nft]
  cases does with
  | moveNft token nft receiver source target left gained usable nonFungible found own owned =>
      rw [found, View.nft_put_nft, if_pos own.symm, Option.map_some, Option.map_some, owned]
      exact ⟨rfl, rfl⟩

variable (proper : ProperTransfer hbar tokens) (before after : View)
  (done : Deeds sender now (Body.transfer hbar tokens).deeds before after)

include proper

omit done in
theorem adjusted_distinct (id : TokenId) : ((TokenMoves.adjusted tokens id).map Adjustment.account).Nodup := by
  rw [TokenMoves.adjusted]
  rcases list_about tokens proper.distinct id with none | ⟨moves, member, one⟩
  · rw [none]
    exact List.nodup_nil
  · rw [one, List.flatMap_singleton]
    exact (proper.proper moves member).balanced.distinct

theorem moved_distinct (id : TokenId) : ((TokenMoves.moved tokens id).map NftMove.serial).Nodup := by
  rw [TokenMoves.moved]
  rcases list_about tokens proper.distinct id with none | ⟨moves, member, one⟩
  · rw [none]
    exact List.nodup_nil
  · rw [one, List.flatMap_singleton]
    exact (proper.proper moves member).serials

include done

theorem transfer_makes_hbar : AdjustmentsMake hbar before.merged.hbar after.merged.hbar := by
  have spared (account : AccountId) (deed : Deed) (member : deed ∈ (Body.transfer hbar tokens).deeds)
      (apart : deed.purse ≠ some account) (first next : View) (does : deed.Does sender now first next) :
      next.merged.hbar account = first.merged.hbar account :=
    congrArg Prod.fst (hbar_spared account deed member apart first next does)
  refine ⟨proper.balanced.distinct, fun entry member => ?_, fun account absent => ?_⟩
  · have listed : Deed.adjustHbar entry ∈ (Body.transfer hbar tokens).deeds :=
      List.mem_append_left _ (List.mem_map_of_mem member)
    obtain ⟨first, next, does, _, start, last⟩ := Deeds.pinpoint Deed.purse entry.account
      (fun view => view.merged.hbar entry.account) (fun _ => True) _ _ _ (fun _ _ _ _ _ _ => trivial)
      (fun deed member apart first next does _ => spared _ deed member apart first next does) done trivial
      (transfer_purses _ _ proper) _ listed rfl
    have added := (hbar_adjusted entry first next does).1
    exact last.trans (added.trans (by rw [show first.merged.hbar entry.account = _ from start]))
  · refine Deeds.spares Deed.purse account (fun view => view.merged.hbar account) (fun _ => True) _ _ _
      (fun _ _ _ _ _ _ => trivial)
      (fun deed member apart first next does _ => spared _ deed member apart first next does) done trivial ?_
    intro touched
    obtain ⟨deed, member, same⟩ := List.mem_filterMap.mp touched
    rcases transfer_deed _ _ _ member with ⟨entry, inside, rfl⟩ | ⟨_, _, _, _, rfl⟩ | ⟨_, _, _, _, rfl⟩
    · cases same
      exact absent (List.mem_map_of_mem inside)
    · cases same
    · cases same

omit proper in
theorem adjusted_fungible (id : TokenId) (entry : Adjustment) (member : entry ∈ TokenMoves.adjusted tokens id) :
    ∃ token, before.token id = some token ∧ token.type = .fungible := by
  obtain ⟨first, next, does, same⟩ := Deeds.reaches (fun view => view.token id = before.token id) _ _ _
    (fun deed member first next does kept => (transfer_keeps_token _ deed member first next does).trans kept) done rfl
    _ (adjusted_deed id entry member)
  cases does with
  | adjustUnits token owner held balance usable fungible => exact ⟨token, same.symm.trans usable.found, fungible⟩
  | drawUnits token owner held allowances balance usable fungible =>
      exact ⟨token, same.symm.trans usable.found, fungible⟩

theorem transfer_makes_units (id : TokenId) (kind : ∀ token, before.token id = some token → token.type ≠ .nonFungible) :
    AdjustmentsMake (TokenMoves.adjusted tokens id) (fun account => before.merged.units account id)
      fun account => after.merged.units account id := by
  have kept : ∀ deed ∈ (Body.transfer hbar tokens).deeds, ∀ first next, deed.Does sender now first next →
      (∀ token, first.token id = some token → token.type ≠ .nonFungible) →
      ∀ token, next.token id = some token → token.type ≠ .nonFungible := by
    intro deed member first next does kept
    rwa [transfer_keeps_token id deed member first next does]
  have spared (account : AccountId) (deed : Deed) (member : deed ∈ (Body.transfer hbar tokens).deeds)
      (apart : deed.stake ≠ some ⟨account, id⟩) (first next : View) (does : deed.Does sender now first next)
      (kind : ∀ token, first.token id = some token → token.type ≠ .nonFungible) :
      next.merged.units account id = first.merged.units account id :=
    congrArg Prod.fst (units_spared account id deed member apart first next does kind)
  refine ⟨adjusted_distinct proper id, fun entry member => ?_, fun account absent => ?_⟩
  · obtain ⟨first, next, does, _, start, last⟩ := Deeds.pinpoint Deed.stake ⟨entry.account, id⟩
      (fun view => view.merged.units entry.account id) _ _ _ _ kept (spared entry.account) done kind
      (transfer_stakes _ _ proper) _ (adjusted_deed id entry member) rfl
    have added := (units_adjusted id entry first next does).1
    exact last.trans (added.trans (by rw [show first.merged.units entry.account id = _ from start]))
  · refine Deeds.spares Deed.stake ⟨account, id⟩ (fun view => view.merged.units account id) _ _ _ _ kept
      (spared account) done kind ?_
    intro touched
    obtain ⟨deed, member, same⟩ := List.mem_filterMap.mp touched
    rcases transfer_deed _ _ _ member with ⟨_, _, rfl⟩ | ⟨moves, listed, entry, inside, rfl⟩ | ⟨_, _, _, _, rfl⟩
    · cases same
    · cases same
      exact absent (List.mem_map_of_mem ((mem_adjusted _ _ _).mpr ⟨moves, listed, rfl, inside⟩))
    · cases same

theorem transfer_makes_moves (id : TokenId) :
    MovesMake (TokenMoves.moved tokens id) (before.merged.owner id) (after.merged.owner id) := by
  have spared (serial : Int64) (deed : Deed) (member : deed ∈ (Body.transfer hbar tokens).deeds)
      (apart : deed.serial ≠ some ⟨id, serial⟩) (first next : View) (does : deed.Does sender now first next) :
      next.merged.owner id serial = first.merged.owner id serial := by
    rw [Ledger.owner, Ledger.owner, View.merged_nft, View.merged_nft,
      nft_spared _ deed member apart first next does]
  refine ⟨moved_distinct proper id, fun move member => ?_, fun serial absent => ?_⟩
  · obtain ⟨first, next, does, _, start, last⟩ := Deeds.pinpoint Deed.serial ⟨id, move.serial⟩
      (fun view => view.merged.owner id move.serial) (fun _ => True) _ _ _ (fun _ _ _ _ _ _ => trivial)
      (fun deed member apart first next does _ => spared _ deed member apart first next does) done trivial
      (transfer_serials _ _ proper) _ (moved_deed id move member) rfl
    obtain ⟨moves, inside, _, listed⟩ := (mem_moved _ _ _).mp member
    refine ⟨((proper.proper moves inside).proper move listed).apart, ?_, ?_⟩
    · rw [← show first.merged.owner id move.serial = _ from start, (nft_moved id move first next does).1]
    · rw [show after.merged.owner id move.serial = _ from last, (nft_moved id move first next does).2]
  · refine Deeds.spares Deed.serial ⟨id, serial⟩ (fun view => view.merged.owner id serial) (fun _ => True) _ _ _
      (fun _ _ _ _ _ _ => trivial)
      (fun deed member apart first next does _ => spared _ deed member apart first next does) done trivial ?_
    intro touched
    obtain ⟨deed, member, same⟩ := List.mem_filterMap.mp touched
    rcases transfer_deed _ _ _ member with ⟨_, _, rfl⟩ | ⟨_, _, _, _, rfl⟩ | ⟨moves, listed, move, inside, rfl⟩
    · cases same
    · cases same
    · cases same
      exact absent (List.mem_map_of_mem ((mem_moved _ _ _).mpr ⟨moves, listed, rfl, inside⟩))

theorem transfer_matches (toldHbar : List Adjustment) (toldTokens : List TokenMoves)
    (tells : TransfersTell toldHbar toldTokens before.merged after.merged) :
    TransfersMatch toldHbar toldTokens hbar tokens := by
  refine ⟨adjustments_match _ _ _ _ (transfer_makes_hbar proper before after done) tells.hbar, fun id => ?_,
    fun id => moves_match _ _ _ _ (transfer_makes_moves proper before after done id) (tells.serials id)⟩
  have same : after.token id = before.token id :=
    quiet_token_rows sender now before after _ (quiet_deeds _ rfl) done id
  have typed (token : Token) (found : before.token id = some token) :
      Ledger.lastType before.merged after.merged id = some token.type := by
    rw [Ledger.lastType, View.merged_token, View.merged_token, same, found]
    rfl
  by_cases serial : Ledger.lastType before.merged after.merged id = some .nonFungible
  · -- No units of such a token are told, and none can have been asked for.
    have none : TokenMoves.adjusted tokens id = [] := by
      refine List.eq_nil_iff_forall_not_mem.mpr fun entry member => ?_
      obtain ⟨token, found, fungible⟩ := adjusted_fungible before after done id entry member
      rw [typed token found, fungible] at serial
      cases serial
    rw [tells.unitless id serial, none]
    exact ⟨.nil, .refl _⟩
  · refine adjustments_match _ _ _ _ (transfer_makes_units proper before after done id fun token found type => ?_)
      (tells.units id serial)
    rw [typed token found, type] at serial
    exact serial rfl

end Transfers

end TokenService
