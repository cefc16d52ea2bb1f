import TokenService.Proofs.Ledger.Committing
import TokenService.Proofs.Settlement.Overflow

set_option autoImplicit false

namespace TokenService

structure Appear {κ ρ : Type} [Ord κ] (keys : List κ) (before after : Table κ ρ) : Prop where
  ascending : keys.Pairwise fun earlier later => compare earlier later = .lt
  newcomers : ∀ key, key ∈ keys ↔ before.get? key = none ∧ after.get? key ≠ none

def NewAssociation.holding (entry : NewAssociation) : Holding := ⟨entry.account, entry.token⟩

def Adjustment.settle (entries : List Adjustment) (account : AccountId) (amount : Int) : Int :=
  match entries.find? fun entry => entry.account == account with
  | some entry => amount + entry.amount.toInt
  | none => amount

def NftMove.settle (moves : List NftMove) (serial : Int64) (owner : AccountId) : AccountId :=
  match moves.find? fun move => move.serial == serial with
  | some move => move.receiver
  | none => owner

namespace Effects

-- Balances and owners after the effects, from those before. Nobody owns a serial that is not there.
def hbarAfter (effects : Effects) (before : Ledger) (account : AccountId) : Int :=
  Adjustment.settle effects.hbarTransfers account (before.hbar account)

def unitsAfter (effects : Effects) (before : Ledger) (account : AccountId) (id : TokenId) : Int :=
  Adjustment.settle (TokenMoves.adjusted effects.tokenTransfers id) account (before.units account id)

def ownerAfter (effects : Effects) (before : Ledger) (id : TokenId) (serial : Int64) : AccountId :=
  NftMove.settle (TokenMoves.moved effects.tokenTransfers id) serial ((before.owner id serial).getD .zero)

structure Recount (effects : Effects) (before after : Ledger) : Prop where
  transfers : TransfersTell effects.hbarTransfers effects.tokenTransfers before after
  lists : ∀ moves ∈ effects.tokenTransfers,
    TokenMoves.adjusted effects.tokenTransfers moves.token = moves.adjustments ∧
      TokenMoves.moved effects.tokenTransfers moves.token = moves.nftMoves
  minted : ∃ ids, Appear ids before.nfts after.nfts ∧ effects.mintedSerials = ids.map NftId.serial
  associations : Appear (effects.associations.map NewAssociation.holding) before.relationships after.relationships

structure Rebuild (effects : Effects) (before after : Ledger) : Prop where
  hbar : ∀ account, after.hbar account = effects.hbarAfter before account
  units : ∀ account id, Ledger.lastType before after id ≠ some .nonFungible →
    after.units account id = effects.unitsAfter before account id
  owners : ∀ id serial, (after.owner id serial).getD .zero = effects.ownerAfter before id serial

end Effects

structure Changes.Afloat (changes : Changes) : Prop where
  hbar : ∀ id row, changes.accounts.get? id = some (some row) → 0 ≤ row.balance.toInt
  units : ∀ holding row, changes.relationships.get? holding = some (some row) → 0 ≤ row.balance.toInt

section Rows

variable {κ ρ : Type} [Ord κ] [Std.TransOrd κ] [Std.LawfulEqOrd κ] [DecidableEq κ]
  (base : Table κ ρ) (changes : Table κ (Option ρ))

theorem merged_row (key : κ) (row : ρ) (found : (base.merge changes).get? key = some row) :
    changes.get? key = some (some row) ∨ base.get? key = some row := by
  rw [Table.get_merge] at found
  cases staged : changes.get? key with
  | none =>
      rw [staged] at found
      exact .inr found
  | some change =>
      rw [staged] at found
      exact .inl (congrArg some found)

def newcomer (entry : κ × Option ρ) : Option κ :=
  if (base.get? entry.1).isNone && entry.2.isSome then some entry.1 else none

omit [Std.TransOrd κ] [Std.LawfulEqOrd κ] [DecidableEq κ] in
theorem newcomer_iff (entry : κ × Option ρ) (key : κ) :
    newcomer base entry = some key ↔ entry.1 = key ∧ base.get? entry.1 = none ∧ entry.2 ≠ none := by
  unfold newcomer
  by_cases appears : base.get? entry.1 = none ∧ entry.2 ≠ none
  · simp [appears.1, Option.isSome_iff_ne_none.mpr appears.2, appears.2]
  · have stays : ((base.get? entry.1).isNone && entry.2.isSome) = false := by
      simpa [Option.isSome_iff_ne_none] using appears
    simp [stays, appears]

theorem newcomers_appear : Appear (changes.rows.filterMap (newcomer base)) base (base.merge changes) := by
  refine ⟨List.pairwise_filterMap.mpr (changes.ascending.imp fun below one first other second => ?_), fun key => ?_⟩
  · rw [← ((newcomer_iff base _ _).mp first).1, ← ((newcomer_iff base _ _).mp second).1]
    exact below
  · rw [List.mem_filterMap]
    constructor
    · rintro ⟨⟨key, row⟩, member, found⟩
      obtain ⟨rfl, absent, present⟩ := (newcomer_iff base _ _).mp found
      exact ⟨absent, by rwa [merge_staged base changes key row member]⟩
    · intro ⟨absent, present⟩
      obtain ⟨row, member⟩ := differing_staged base changes key (by rwa [absent])
      rw [merge_staged base changes key row member] at present
      exact ⟨(key, row), member, (newcomer_iff base _ _).mpr ⟨rfl, absent, present⟩⟩

end Rows

section Telling

variable (entries : List Adjustment) (before after : AccountId → Int)

theorem settled_amount (tells : AdjustmentsTell entries before after) (account : AccountId) :
    after account = Adjustment.settle entries account (before account) := by
  unfold Adjustment.settle
  cases found : entries.find? fun entry => entry.account == account with
  | none =>
      have untold : account ∉ entries.map Adjustment.account := by
        simpa using found
      simpa [tells.accounts] using untold
  | some entry =>
      have amount := (tells.amounts entry (List.mem_of_find?_eq_some found)).2
      have own : entry.account = account := by
        simpa using List.find?_some found
      rw [own] at amount
      simp only
      omega

theorem settled_owner (moves : List NftMove) (before after : Int64 → Option AccountId)
    (tells : MovesTell moves before after) (serial : Int64) :
    (after serial).getD .zero = NftMove.settle moves serial ((before serial).getD .zero) := by
  unfold NftMove.settle
  cases found : moves.find? fun move => move.serial == serial with
  | none =>
      have untold : serial ∉ moves.map NftMove.serial := by
        simpa using found
      have same : after serial = before serial := by
        simpa [tells.serials] using untold
      rw [same]
  | some move =>
      have receiver := (tells.owners move (List.mem_of_find?_eq_some found)).2.2
      have own : move.serial = serial := by
        simpa using List.find?_some found
      rw [own] at receiver
      exact receiver.symm

variable (effects : Effects) (first last : Ledger)

theorem rebuild_of_transfers (tells : TransfersTell effects.hbarTransfers effects.tokenTransfers first last) :
    effects.Rebuild first last where
  hbar := settled_amount _ _ _ tells.hbar
  units account id counted := settled_amount _ _ _ (tells.units id counted) account
  owners id serial := settled_owner _ _ _ (tells.serials id) serial

end Telling

section Effects

variable (ledger : Ledger) (changes : Changes)

theorem new_serials_each :
    Effects.newSerials ledger changes =
      (changes.nfts.rows.filterMap (newcomer ledger.nfts)).map NftId.serial := by
  rw [List.map_filterMap]
  refine List.filterMap_congr fun entry _ => ?_
  rw [newcomer, apply_ite (Option.map NftId.serial)]
  rfl

theorem new_associations_each :
    (Effects.newAssociations ledger changes).map NewAssociation.holding =
      changes.relationships.rows.filterMap (newcomer ledger.relationships) := by
  rw [Effects.newAssociations, List.map_filterMap]
  refine List.filterMap_congr fun entry _ => ?_
  rw [newcomer, apply_ite (Option.map NewAssociation.holding)]
  rfl

theorem grouped_lists (adjustments : List (TokenId × Adjustment)) (moves : List (TokenId × NftMove)) (list : TokenMoves)
    (member : list ∈ Effects.groupByToken adjustments moves) :
    TokenMoves.adjusted (Effects.groupByToken adjustments moves) list.token = list.adjustments ∧
      TokenMoves.moved (Effects.groupByToken adjustments moves) list.token = list.nftMoves := by
  obtain ⟨id, _, rfl⟩ := List.mem_map.mp member
  exact grouped_told adjustments moves id

theorem effects_recount (effects : Effects) (told : changes.effects ledger = .ok effects) :
    effects.Recount ledger (ledger.apply changes) := by
  have transfers := effects_tell { ledger := ledger, changes := changes } effects told
  obtain ⟨units, _, told⟩ := (except_bind_ok _ _ _).mp told
  obtain ⟨hbar, _, told⟩ := (except_bind_ok _ _ _).mp told
  cases told
  refine ⟨transfers, grouped_lists _ _, ⟨_, newcomers_appear _ _, new_serials_each ledger changes⟩, ?_⟩
  rw [new_associations_each]
  exact newcomers_appear _ _

theorem afloat_changed (afloat : ledger.Afloat) (staged : changes.Afloat) :
    (View.mk ledger changes).Afloat where
  base := afloat
  top :=
    { hbar := fun id row found => (merged_row _ _ id row found).elim (staged.hbar id row) (afloat.hbar id row)
      units := fun holding row found =>
        (merged_row _ _ holding row found).elim (staged.units holding row) (afloat.units holding row) }

end Effects

/-- Between balances that are not below zero the effects of changes are always told, and they are the exact difference:
each account with another balance once, one list for each token that moved, each serial with another owner once, the
serials and the associations that are new, all in ascending order. With them every balance of hbar and of units and
every owner after the changes follows from what was there before. -/
theorem effects_are_the_difference (ledger : Ledger) (changes : Changes) (afloat : ledger.Afloat)
    (staged : changes.Afloat) :
    ∃ effects, changes.effects ledger = .ok effects ∧ effects.Recount ledger (ledger.apply changes) ∧
      effects.Rebuild ledger (ledger.apply changes) := by
  obtain ⟨effects, told⟩ := effects_ok _ (afloat_changed ledger changes afloat staged)
  have recount := effects_recount ledger changes effects told
  exact ⟨effects, told, recount, rebuild_of_transfers effects _ _ recount.transfers⟩

namespace Sample

-- An account closed and one written again as it was, coins handed over, a serial retired, one handed over, one issued,
-- and one removed that was never there.
def reshuffle : Changes :=
  { accounts := .ofList [(holder, none), (friend, some { id := friend, balance := 5 })]
    relationships := .ofList
      [(⟨holder, coin⟩, some { balance := 60 }), (⟨friend, coin⟩, some { balance := 40 }), (⟨friend, art⟩, none)]
    nfts := .ofList
      [(⟨art, 1⟩, none), (⟨art, 2⟩, none), (⟨art, 3⟩, some { id := ⟨art, 3⟩, owner := holder }),
        (⟨art, 4⟩, some { id := ⟨art, 4⟩, owner := friend })] }

theorem reshuffle_afloat : reshuffle.Afloat where
  hbar id row found := every_row reshuffle.accounts (fun _ staged => ∀ row ∈ staged, 0 ≤ row.balance.toInt) (by decide)
    id _ found row rfl
  units holding row found := every_row reshuffle.relationships (fun _ staged => ∀ row ∈ staged, 0 ≤ row.balance.toInt)
    (by decide) holding _ found row rfl

end Sample

theorem reshuffle_rebuilt :
    Sample.ledger.Afloat ∧ Sample.reshuffle.Afloat ∧
      ∃ effects, Sample.reshuffle.effects Sample.ledger = .ok effects ∧
        effects.hbarAfter Sample.ledger Sample.holder = 0 ∧ effects.hbarAfter Sample.ledger Sample.friend = 5 ∧
        effects.unitsAfter Sample.ledger Sample.friend Sample.coin = 40 ∧
        effects.ownerAfter Sample.ledger Sample.art 1 = .zero ∧
        effects.ownerAfter Sample.ledger Sample.art 4 = Sample.friend := by
  obtain ⟨effects, told, _, rebuild⟩ := effects_are_the_difference Sample.ledger Sample.reshuffle
    Sample.ledger_roomy.toAfloat Sample.reshuffle_afloat
  refine ⟨Sample.ledger_roomy.toAfloat, Sample.reshuffle_afloat, effects, told, ?_, ?_, ?_, ?_, ?_⟩
  · rw [← rebuild.hbar]
    decide
  · rw [← rebuild.hbar]
    decide
  · rw [← rebuild.units _ _ (by decide)]
    decide
  · rw [← rebuild.owners]
    decide
  · rw [← rebuild.owners]
    decide

end TokenService
