import Mathlib.Data.List.Nodup
import TokenService.Ledger.Effects
import TokenService.Proofs.Form
import TokenService.Proofs.Ledger.Sums

set_option autoImplicit false

namespace TokenService

namespace TokenMoves

def adjusted (lists : List TokenMoves) (id : TokenId) : List Adjustment :=
  (lists.filter fun moves => moves.token == id).flatMap TokenMoves.adjustments

def moved (lists : List TokenMoves) (id : TokenId) : List NftMove :=
  (lists.filter fun moves => moves.token == id).flatMap TokenMoves.nftMoves

end TokenMoves

-- Adjustments that tell how amounts differ: each account with another amount has one, which says by
-- how much, and no other account has any.
structure AdjustmentsTell (entries : List Adjustment) (before after : AccountId → Int) : Prop where
  ascending : entries.Pairwise fun earlier later => compare earlier.account later.account = .lt
  accounts : ∀ account, account ∈ entries.map Adjustment.account ↔ after account ≠ before account
  amounts : ∀ entry ∈ entries, entry.approval = false ∧
    entry.amount.toInt = after entry.account - before entry.account

-- Moves that tell how the owners of serials differ; nobody stands for the owner of a serial that is
-- not there.
structure MovesTell (moves : List NftMove) (before after : Int64 → Option AccountId) : Prop where
  ascending : moves.Pairwise fun earlier later => compare earlier.serial later.serial = .lt
  serials : ∀ serial, serial ∈ moves.map NftMove.serial ↔ after serial ≠ before serial
  owners : ∀ move ∈ moves, move.approval = false ∧ move.sender = (before move.serial).getD .zero ∧
    move.receiver = (after move.serial).getD .zero

-- The type that a token has after, or had before if it is not there any more.
def Ledger.lastType (before after : Ledger) (id : TokenId) : Option TokenType :=
  ((after.tokens.get? id).or (before.tokens.get? id)).map Token.type

def Ledger.owner (ledger : Ledger) (id : TokenId) (serial : Int64) : Option AccountId :=
  (ledger.nfts.get? ⟨id, serial⟩).map Nft.owner

-- Transfers that tell how one ledger differs from another, with one list for each token that moved.
-- Of a token that counts serials they tell the moves and no units.
structure TransfersTell (hbar : List Adjustment) (tokens : List TokenMoves) (before after : Ledger) : Prop where
  hbar : AdjustmentsTell hbar before.hbar after.hbar
  ascending : tokens.Pairwise fun earlier later => compare earlier.token later.token = .lt
  moving : ∀ moves ∈ tokens, moves.adjustments ≠ [] ∨ moves.nftMoves ≠ []
  units : ∀ id, Ledger.lastType before after id ≠ some .nonFungible →
    AdjustmentsTell (TokenMoves.adjusted tokens id) (fun account => before.units account id)
      fun account => after.units account id
  net : ∀ id, Ledger.lastType before after id ≠ some .nonFungible →
    netAmount (TokenMoves.adjusted tokens id) = after.unitsHeld id - before.unitsHeld id
  unitless : ∀ id, Ledger.lastType before after id = some .nonFungible → TokenMoves.adjusted tokens id = []
  serials : ∀ id, MovesTell (TokenMoves.moved tokens id) (before.owner id) (after.owner id)

section Gathering

variable {ε α β : Type} (step : α → Except ε (Option β))

theorem gathered_filter (items : List α) (found : List β)
    (gathered : (do let results ← items.mapM step; pure (results.filterMap id) : Except ε (List β)) = .ok found) :
    found = items.filterMap (fun item => (step item).toOption.join) ∧
      ∀ item ∈ items, ∃ result, step item = .ok result := by
  obtain ⟨results, mapped, same⟩ := (except_bind_ok _ _ _).mp gathered
  cases same
  have done := (map_m_ok step items results).mp mapped
  clear gathered mapped
  induction done with
  | nil => exact ⟨rfl, fun _ member => (List.not_mem_nil member).elim⟩
  | @cons item result rest others head tail ih =>
      obtain ⟨later, each⟩ := ih
      refine ⟨?_, List.forall_mem_cons.mpr ⟨⟨result, head⟩, each⟩⟩
      rw [List.filterMap_cons, List.filterMap_cons, head, ← later]
      cases result <;> rfl

theorem join_some_iff (result : Except ε (Option β)) (found : β) :
    result.toOption.join = some found ↔ result = .ok (some found) :=
  Option.join_eq_some_iff.trans (to_option_some _ _)

end Gathering

section Rows

variable {κ ρ : Type} [Ord κ] [Std.TransOrd κ] [Std.LawfulEqOrd κ] [DecidableEq κ]
  (base : Table κ ρ) (changes : Table κ (Option ρ)) (key : κ)

theorem merge_staged (row : Option ρ) (staged : (key, row) ∈ changes.rows) : (base.merge changes).get? key = row := by
  rw [Table.get_merge, (Table.get_some_iff _ _ _).mpr staged]
  rfl

theorem differing_staged (differs : (base.merge changes).get? key ≠ base.get? key) :
    ∃ row, (key, row) ∈ changes.rows := by
  cases staged : changes.get? key with
  | none =>
      rw [Table.get_merge, staged] at differs
      exact absurd rfl differs
  | some row => exact ⟨row, (Table.get_some_iff _ _ _).mp staged⟩

end Rows

section Amounts

theorem difference_none (account : AccountId) (before after : Int64)
    (told : Effects.difference account before after = .ok none) : after = before := by
  unfold Effects.difference at told
  split at told
  · assumption
  · obtain ⟨_, _, told⟩ := (except_bind_ok _ _ _).mp told
    cases told

theorem difference_some (account : AccountId) (before after : Int64) (entry : Adjustment)
    (told : Effects.difference account before after = .ok (some entry)) :
    entry.account = account ∧ after.toInt ≠ before.toInt ∧ entry.approval = false ∧
      entry.amount.toInt = after.toInt - before.toInt := by
  unfold Effects.difference at told
  split at told
  · cases told
  · rename_i differs
    obtain ⟨amount, exact, told⟩ := (except_bind_ok _ _ _).mp told
    cases told
    exact ⟨rfl, fun same => differs (Int64.toInt_inj.mp same), rfl, (sub_exact_ok _ _ _).mp exact⟩

theorem tell_of_rows {α : Type} (rows : List α) (find : α → Option Adjustment) (before after : AccountId → Int)
    (ordered : rows.Pairwise fun first second => ∀ earlier, find first = some earlier → ∀ later,
      find second = some later → compare earlier.account later.account = .lt)
    (each : ∀ row ∈ rows, ∀ entry, find row = some entry → after entry.account ≠ before entry.account ∧
      entry.approval = false ∧ entry.amount.toInt = after entry.account - before entry.account)
    (covered : ∀ account, after account ≠ before account →
      ∃ row ∈ rows, ∃ entry, find row = some entry ∧ entry.account = account) :
    AdjustmentsTell (rows.filterMap find) before after := by
  refine ⟨List.pairwise_filterMap.mpr ordered, fun account => ⟨fun listed => ?_, fun differs => ?_⟩,
    fun entry member => ?_⟩
  · obtain ⟨entry, member, rfl⟩ := List.mem_map.mp listed
    obtain ⟨row, inside, found⟩ := List.mem_filterMap.mp member
    exact (each row inside entry found).1
  · obtain ⟨row, inside, entry, found, rfl⟩ := covered account differs
    exact List.mem_map.mpr ⟨entry, List.mem_filterMap.mpr ⟨row, inside, found⟩, rfl⟩
  · obtain ⟨row, inside, found⟩ := List.mem_filterMap.mp member
    exact (each row inside entry found).2

theorem hbar_balance (ledger : Ledger) (id : AccountId) :
    (((ledger.accounts.get? id).map Account.balance).getD 0).toInt = ledger.hbar id := by
  unfold Ledger.hbar
  cases ledger.accounts.get? id <;> rfl

theorem units_balance (ledger : Ledger) (account : AccountId) (token : TokenId) :
    (((ledger.relationships.get? ⟨account, token⟩).map Relationship.balance).getD 0).toInt =
      ledger.units account token := by
  unfold Ledger.units
  cases ledger.relationships.get? ⟨account, token⟩ <;> rfl

theorem accounts_ascend (first second : AccountId) (token : TokenId)
    (below : compare (⟨first, token⟩ : Holding) ⟨second, token⟩ = .lt) : compare first second = .lt := by
  rcases Ordering.then_eq_lt.mp below with lower | ⟨_, again⟩
  · exact lower
  · have same : compare token token = .eq := Std.ReflOrd.compare_self
    cases same.symm.trans again

variable (ledger : Ledger) (changes : Changes)

theorem staged_hbar (id : AccountId) (staged : Option Account) (member : (id, staged) ∈ changes.accounts.rows) :
    ((staged.map Account.balance).getD 0).toInt = (ledger.apply changes).hbar id := by
  rw [← hbar_balance, Ledger.apply, merge_staged ledger.accounts changes.accounts id staged member]

theorem staged_units (account : AccountId) (id : TokenId) (staged : Option Relationship)
    (member : (⟨account, id⟩, staged) ∈ changes.relationships.rows) :
    ((staged.map Relationship.balance).getD 0).toInt = (ledger.apply changes).units account id := by
  rw [← units_balance, Ledger.apply, merge_staged ledger.relationships changes.relationships _ staged member]

theorem hbar_differing (account : AccountId) (differs : (ledger.apply changes).hbar account ≠ ledger.hbar account) :
    ∃ staged, (account, staged) ∈ changes.accounts.rows := by
  refine differing_staged ledger.accounts changes.accounts account fun same => differs ?_
  unfold Ledger.hbar
  rw [Ledger.apply, same]

theorem units_differing (account : AccountId) (id : TokenId)
    (differs : (ledger.apply changes).units account id ≠ ledger.units account id) :
    ∃ staged, (⟨account, id⟩, staged) ∈ changes.relationships.rows := by
  refine differing_staged ledger.relationships changes.relationships _ fun same => differs ?_
  unfold Ledger.units
  rw [Ledger.apply, same]

theorem hbar_told (found : List Adjustment) (told : Effects.hbarDifferences ledger changes = .ok found) :
    AdjustmentsTell found ledger.hbar (ledger.apply changes).hbar := by
  obtain ⟨rfl, done⟩ := gathered_filter _ _ _ told
  refine tell_of_rows _ _ _ _ ?_ (fun row member entry found => ?_) fun account differs => ?_
  · refine changes.accounts.ascending.imp fun below first one second other => ?_
    rwa [(difference_some _ _ _ _ ((join_some_iff _ _).mp one)).1,
      (difference_some _ _ _ _ ((join_some_iff _ _).mp other)).1]
  · obtain ⟨id, staged⟩ := row
    obtain ⟨rfl, apart, plain, amount⟩ := difference_some _ _ _ _ ((join_some_iff _ _).mp found)
    rw [staged_hbar _ _ _ _ member, hbar_balance] at apart amount
    exact ⟨apart, plain, amount⟩
  · obtain ⟨staged, member⟩ := hbar_differing ledger changes account differs
    obtain ⟨result, found⟩ := done _ member
    cases result with
    | none =>
        have same := difference_none _ _ _ found
        rw [← staged_hbar _ _ _ _ member, same, hbar_balance] at differs
        exact absurd rfl differs
    | some entry => exact ⟨_, member, entry, (join_some_iff _ _).mpr found, (difference_some _ _ _ _ found).1⟩

def unitDifference (row : Holding × Option Relationship) : Except Overflow (Option (TokenId × Adjustment)) :=
  if Effects.typeAfter ledger changes row.1.token = some .nonFungible then pure none
  else do
    let difference ← Effects.difference row.1.account
      (((ledger.relationships.get? row.1).map Relationship.balance).getD 0)
      ((row.2.map Relationship.balance).getD 0)
    pure (difference.map fun adjustment => (row.1.token, adjustment))

theorem unit_differences_each : Effects.unitDifferences ledger changes =
    (do let differences ← changes.relationships.rows.mapM (unitDifference ledger changes)
        pure (differences.filterMap id)) := rfl

theorem unit_difference_some (row : Holding × Option Relationship) (token : TokenId) (entry : Adjustment)
    (told : unitDifference ledger changes row = .ok (some (token, entry))) :
    row.1 = ⟨entry.account, token⟩ ∧ Effects.difference row.1.account
      (((ledger.relationships.get? row.1).map Relationship.balance).getD 0)
      ((row.2.map Relationship.balance).getD 0) = .ok (some entry) := by
  unfold unitDifference at told
  split at told
  · cases told
  · obtain ⟨found, difference, told⟩ := (except_bind_ok _ _ _).mp told
    cases found with
    | none => cases told
    | some adjustment =>
        cases told
        rw [(difference_some _ _ _ _ difference).1]
        exact ⟨rfl, difference⟩

theorem unit_difference_none (row : Holding × Option Relationship)
    (counted : Effects.typeAfter ledger changes row.1.token ≠ some .nonFungible)
    (told : unitDifference ledger changes row = .ok none) :
    (row.2.map Relationship.balance).getD 0 =
      ((ledger.relationships.get? row.1).map Relationship.balance).getD 0 := by
  rw [unitDifference, if_neg counted] at told
  obtain ⟨found, difference, told⟩ := (except_bind_ok _ _ _).mp told
  cases found with
  | none => exact difference_none _ _ _ difference
  | some adjustment => cases told

theorem of_token_iff {α : Type} (found : Option (TokenId × α)) (id : TokenId) (entry : α) :
    (found.filter fun entry => entry.1 == id).map Prod.snd = some entry ↔ found = some (id, entry) := by
  rcases found with _ | ⟨token, other⟩
  · exact ⟨nofun, nofun⟩
  · by_cases same : token = id
    · simp [Option.filter, same]
    · simp [Option.filter, same]

theorem about_nil_iff {α : Type} (entries : List (TokenId × α)) (id : TokenId) :
    (entries.filter fun entry => entry.1 == id).map Prod.snd = [] ↔ id ∉ entries.map Prod.fst := by
  rw [List.map_eq_nil_iff, List.filter_eq_nil_iff, List.mem_map]
  constructor
  · rintro none ⟨entry, member, rfl⟩
    exact none entry member (beq_self_eq_true _)
  · exact fun absent entry member same => absent ⟨entry, member, beq_iff_eq.mp same⟩

theorem units_told (id : TokenId) (counted : Effects.typeAfter ledger changes id ≠ some .nonFungible)
    (found : List (TokenId × Adjustment)) (told : Effects.unitDifferences ledger changes = .ok found) :
    AdjustmentsTell ((found.filter fun entry => entry.1 == id).map Prod.snd) (fun account => ledger.units account id)
      fun account => (ledger.apply changes).units account id := by
  rw [unit_differences_each] at told
  obtain ⟨rfl, done⟩ := gathered_filter _ _ _ told
  have step (row : Holding × Option Relationship) (entry : Adjustment)
      (found : ((unitDifference ledger changes row).toOption.join.filter fun entry => entry.1 == id).map Prod.snd =
        some entry) := unit_difference_some ledger changes row id entry
      ((join_some_iff _ _).mp ((of_token_iff _ _ _).mp found))
  rw [List.filter_filterMap, List.map_filterMap]
  refine tell_of_rows _ _ _ _ ?_ (fun row member entry found => ?_) fun account differs => ?_
  · refine changes.relationships.ascending.imp fun below first one second other => ?_
    rw [(step _ _ one).1, (step _ _ other).1] at below
    exact accounts_ascend _ _ id below
  · obtain ⟨holding, staged⟩ := row
    obtain ⟨rfl, told⟩ := step _ _ found
    obtain ⟨_, apart, plain, amount⟩ := difference_some _ _ _ _ told
    rw [staged_units _ _ _ _ _ member, units_balance] at apart amount
    exact ⟨apart, plain, amount⟩
  · obtain ⟨staged, member⟩ := units_differing ledger changes account id differs
    obtain ⟨result, found⟩ := done _ member
    rcases result with _ | ⟨token, entry⟩
    · have same := unit_difference_none ledger changes _ counted found
      rw [← staged_units _ _ _ _ _ member, same, units_balance] at differs
      exact absurd rfl differs
    · obtain ⟨about, _⟩ := unit_difference_some ledger changes _ _ _ found
      cases about
      exact ⟨_, member, entry, (of_token_iff _ _ _).mpr ((join_some_iff _ _).mpr found), rfl⟩

theorem units_untold (id : TokenId) (serial : Effects.typeAfter ledger changes id = some .nonFungible)
    (found : List (TokenId × Adjustment)) (told : Effects.unitDifferences ledger changes = .ok found) :
    (found.filter fun entry => entry.1 == id).map Prod.snd = [] := by
  rw [unit_differences_each] at told
  obtain ⟨rfl, _⟩ := gathered_filter _ _ _ told
  refine (about_nil_iff _ _).mpr fun listed => ?_
  obtain ⟨⟨_, entry⟩, member, rfl⟩ := List.mem_map.mp listed
  obtain ⟨row, _, given⟩ := List.mem_filterMap.mp member
  have step := (join_some_iff _ _).mp given
  obtain ⟨key, _⟩ := unit_difference_some ledger changes row _ entry step
  rw [unitDifference, key, if_pos serial] at step
  cases step

end Amounts

section Serials

variable (ledger : Ledger) (changes : Changes)

theorem serials_ascend (token : TokenId) (first second : Int64)
    (below : compare (⟨token, first⟩ : NftId) ⟨token, second⟩ = .lt) : compare first second = .lt := by
  rcases Ordering.then_eq_lt.mp below with lower | ⟨_, lower⟩
  · have same : compare token token = .eq := Std.ReflOrd.compare_self
    cases same.symm.trans lower
  · exact lower

def nftMove (row : NftId × Option Nft) : Option (TokenId × NftMove) :=
  let before := (ledger.nfts.get? row.1).map Nft.owner
  let after := row.2.map Nft.owner
  if before = after then none
  else some (row.1.token,
    { sender := before.getD .zero, receiver := after.getD .zero, serial := row.1.serial })

theorem nft_moves_each : Effects.nftMoves ledger changes = changes.nfts.rows.filterMap (nftMove ledger) := rfl

theorem nft_move_some (row : NftId × Option Nft) (id : TokenId) (move : NftMove)
    (told : nftMove ledger row = some (id, move)) :
    row.1 = ⟨id, move.serial⟩ ∧ row.2.map Nft.owner ≠ ledger.owner id move.serial ∧ move.approval = false ∧
      move.sender = (ledger.owner id move.serial).getD .zero ∧
      move.receiver = (row.2.map Nft.owner).getD .zero := by
  unfold nftMove at told
  simp only at told
  split at told
  · cases told
  · rename_i differs
    cases told
    exact ⟨rfl, fun same => differs same.symm, rfl, rfl, rfl⟩

theorem nft_move_none (row : NftId × Option Nft) (told : nftMove ledger row = none) :
    row.2.map Nft.owner = (ledger.nfts.get? row.1).map Nft.owner := by
  unfold nftMove at told
  simp only at told
  split at told
  · rename_i same
    exact same.symm
  · cases told

theorem moves_told (id : TokenId) :
    MovesTell (((Effects.nftMoves ledger changes).filter fun entry => entry.1 == id).map Prod.snd) (ledger.owner id)
      ((ledger.apply changes).owner id) := by
  have written (serial : Int64) (staged : Option Nft) (member : (⟨id, serial⟩, staged) ∈ changes.nfts.rows) :
      staged.map Nft.owner = (ledger.apply changes).owner id serial := by
    rw [Ledger.owner, Ledger.apply, merge_staged ledger.nfts changes.nfts _ staged member]
  have step (row : NftId × Option Nft) (move : NftMove)
      (found : ((nftMove ledger row).filter fun entry => entry.1 == id).map Prod.snd = some move) :=
    nft_move_some ledger row id move ((of_token_iff _ _ _).mp found)
  rw [nft_moves_each, List.filter_filterMap, List.map_filterMap]
  refine ⟨List.pairwise_filterMap.mpr ?_, fun serial => ⟨fun listed => ?_, fun differs => ?_⟩, fun move member => ?_⟩
  · refine changes.nfts.ascending.imp fun below first one second other => ?_
    rw [(step _ _ one).1, (step _ _ other).1] at below
    exact serials_ascend id _ _ below
  · obtain ⟨move, member, rfl⟩ := List.mem_map.mp listed
    obtain ⟨⟨nft, staged⟩, inside, found⟩ := List.mem_filterMap.mp member
    obtain ⟨rfl, differs, _⟩ := step _ _ found
    rwa [written _ _ inside] at differs
  · obtain ⟨staged, inside⟩ : ∃ staged, (⟨id, serial⟩, staged) ∈ changes.nfts.rows :=
      differing_staged ledger.nfts changes.nfts _ fun same =>
        differs (by rw [Ledger.owner, Ledger.owner, Ledger.apply, same])
    cases found : nftMove ledger (⟨id, serial⟩, staged) with
    | none =>
        have same := nft_move_none ledger _ found
        rw [written _ _ inside] at same
        exact absurd same differs
    | some entry =>
        obtain ⟨token, move⟩ := entry
        obtain ⟨about, _⟩ := nft_move_some ledger _ _ _ found
        cases about
        exact List.mem_map.mpr ⟨move, List.mem_filterMap.mpr ⟨_, inside, (of_token_iff _ _ _).mpr found⟩, rfl⟩
  · obtain ⟨⟨nft, staged⟩, inside, found⟩ := List.mem_filterMap.mp member
    obtain ⟨rfl, _, plain, sender, receiver⟩ := step _ _ found
    rw [written _ _ inside] at receiver
    exact ⟨plain, sender, receiver⟩

end Serials

section Sums

theorem net_of_rows {κ ρ : Type} (find : κ × ρ → Option Adjustment) (weight : κ → ρ → Int) (rows : List (κ × ρ))
    (each : ∀ row ∈ rows, ((find row).map fun entry => entry.amount.toInt).getD 0 = weight row.1 row.2) :
    netAmount (rows.filterMap find) = totalRows weight rows := by
  induction rows with
  | nil => rfl
  | cons row rest ih =>
      obtain ⟨first, others⟩ := List.forall_mem_cons.mp each
      rw [List.filterMap_cons, totalRows, ← ih others, ← first]
      cases find row with
      | none => exact (Int.zero_add _).symm
      | some entry => rfl

variable (ledger : Ledger) (changes : Changes)

theorem unit_amount (id : TokenId) (counted : Effects.typeAfter ledger changes id ≠ some .nonFungible)
    (row : Holding × Option Relationship) (result : Option (TokenId × Adjustment))
    (told : unitDifference ledger changes row = .ok result) :
    (((result.filter fun entry => entry.1 == id).map Prod.snd).map fun entry => entry.amount.toInt).getD 0 =
      if row.1.token = id then
        ((row.2.map Relationship.balance).getD 0).toInt -
          (((ledger.relationships.get? row.1).map Relationship.balance).getD 0).toInt
      else 0 := by
  rcases result with _ | ⟨token, entry⟩
  · by_cases about : row.1.token = id
    · rw [if_pos about, unit_difference_none ledger changes row (about ▸ counted) told, Int.sub_self]
      rfl
    · rw [if_neg about]
      rfl
  · obtain ⟨key, difference⟩ := unit_difference_some ledger changes row token entry told
    have own : row.1.token = token := congrArg Holding.token key
    by_cases about : row.1.token = id
    · have of : ((some (token, entry)).filter fun entry => entry.1 == id).map Prod.snd = some entry :=
        (of_token_iff _ _ _).mpr (by rw [← own, about])
      rw [if_pos about, ← (difference_some _ _ _ _ difference).2.2.2, of]
      rfl
    · have other : (some (token, entry)).filter (fun entry => entry.1 == id) = none :=
        Option.filter_eq_none_iff.mpr fun found same => by
          cases same
          exact fun alike => about (own.trans (beq_iff_eq.mp alike))
      rw [if_neg about, other]
      rfl

-- The units that are told of one token come to what its holders together have more than before.
theorem units_net (id : TokenId) (counted : Effects.typeAfter ledger changes id ≠ some .nonFungible)
    (found : List (TokenId × Adjustment)) (told : Effects.unitDifferences ledger changes = .ok found) :
    netAmount ((found.filter fun entry => entry.1 == id).map Prod.snd) =
      (ledger.apply changes).unitsHeld id - ledger.unitsHeld id := by
  rw [unit_differences_each] at told
  obtain ⟨rfl, done⟩ := gathered_filter _ _ _ told
  have total := Table.total_merge (fun holding row => if holding.token = id then row.balance.toInt else 0)
    ledger.relationships changes.relationships
  rw [Ledger.unitsHeld, Ledger.unitsHeld, Ledger.apply, total, Int.add_comm, Int.add_sub_cancel, List.filter_filterMap,
    List.map_filterMap]
  refine net_of_rows _ _ _ fun row member => ?_
  have balance (found : Option Relationship) :
      (found.map fun row => row.balance.toInt).getD 0 = ((found.map Relationship.balance).getD 0).toInt := by
    cases found <;> rfl
  obtain ⟨result, step⟩ := done row member
  rw [map_ite, map_ite, balance, balance, step]
  refine (unit_amount ledger changes id counted row result step).trans ?_
  by_cases about : row.1.token = id
  · simp only [if_pos about]
  · simp only [if_neg about, Int.sub_self]

end Sums

section Groups

theorem mem_keys_inserted {κ ρ : Type} [Ord κ] [Std.TransOrd κ] [Std.LawfulEqOrd κ] [DecidableEq κ]
    (rows : List (κ × ρ)) (table : Table κ ρ) (key : κ) :
    ((rows.foldl (fun table entry => table.insert entry.1 entry.2) table).get? key).isSome = true ↔
      key ∈ rows.map Prod.fst ∨ (table.get? key).isSome = true := by
  induction rows generalizing table with
  | nil => simp
  | cons row rest ih =>
      rw [List.foldl_cons, ih, Table.get_insert, List.map_cons, List.mem_cons]
      by_cases same : key = row.1
      · simp [same]
      · simp [same]

theorem mem_keys_of_list {κ ρ : Type} [Ord κ] [Std.TransOrd κ] [Std.LawfulEqOrd κ] [DecidableEq κ]
    (rows : List (κ × ρ)) (key : κ) : key ∈ (Table.ofList rows).keys ↔ key ∈ rows.map Prod.fst := by
  have inserted := mem_keys_inserted rows .empty key
  rw [Table.get_empty, Option.isSome_none, or_iff_left Bool.false_ne_true] at inserted
  rw [← inserted, Option.isSome_iff_exists]
  constructor
  · intro member
    obtain ⟨⟨_, row⟩, inside, rfl⟩ := List.mem_map.mp member
    exact ⟨row, (Table.get_some_iff _ _ _).mpr inside⟩
  · rintro ⟨row, found⟩
    exact List.mem_map.mpr ⟨(key, row), (Table.get_some_iff _ _ _).mp found, rfl⟩

theorem lists_about (tokens : List TokenId) (distinct : tokens.Nodup) (list : TokenId → TokenMoves)
    (own : ∀ token, (list token).token = token) (id : TokenId) :
    (tokens.map list).filter (fun moves => moves.token == id) = if id ∈ tokens then [list id] else [] := by
  have about : (fun moves : TokenMoves => moves.token == id) ∘ list = (· == id) := funext fun token => by
    rw [Function.comp_apply, own]
  rw [List.filter_map, about, List.filter_beq]
  by_cases member : id ∈ tokens
  · rw [if_pos member, List.count_eq_one_of_mem distinct member]
    rfl
  · rw [if_neg member, List.count_eq_zero_of_not_mem member]
    rfl

variable (adjustments : List (TokenId × Adjustment)) (moves : List (TokenId × NftMove))

def groupedTokens : List TokenId :=
  (Table.ofList ((adjustments.map Prod.fst ++ moves.map Prod.fst).map fun token => (token, ()))).keys

theorem mem_grouped_tokens (id : TokenId) :
    id ∈ groupedTokens adjustments moves ↔ id ∈ adjustments.map Prod.fst ∨ id ∈ moves.map Prod.fst := by
  have keys : Prod.fst ∘ (fun token : TokenId => (token, ())) = fun token => token := rfl
  rw [groupedTokens, mem_keys_of_list, List.map_map, keys, List.map_id', List.mem_append]

theorem grouped_tokens_ascend :
    (groupedTokens adjustments moves).Pairwise fun earlier later => compare earlier later = .lt :=
  List.pairwise_map.mpr (Table.ascending _)

theorem grouped_distinct : (groupedTokens adjustments moves).Nodup := by
  refine (grouped_tokens_ascend adjustments moves).imp fun below same => ?_
  rw [same, Std.ReflOrd.compare_self] at below
  cases below

theorem grouped_ascending : (Effects.groupByToken adjustments moves).Pairwise fun earlier later =>
    compare earlier.token later.token = .lt :=
  List.pairwise_map.mpr (grouped_tokens_ascend adjustments moves)

theorem grouped_about (id : TokenId) :
    (Effects.groupByToken adjustments moves).filter (fun moves => moves.token == id) =
      if id ∈ groupedTokens adjustments moves then
        [{ token := id
           adjustments := (adjustments.filter fun entry => entry.1 == id).map Prod.snd
           nftMoves := (moves.filter fun entry => entry.1 == id).map Prod.snd }]
      else [] :=
  lists_about _ (grouped_distinct adjustments moves) _ (fun _ => rfl) id

theorem grouped_told (id : TokenId) :
    TokenMoves.adjusted (Effects.groupByToken adjustments moves) id =
        (adjustments.filter fun entry => entry.1 == id).map Prod.snd ∧
      TokenMoves.moved (Effects.groupByToken adjustments moves) id =
        (moves.filter fun entry => entry.1 == id).map Prod.snd := by
  rw [TokenMoves.adjusted, TokenMoves.moved, grouped_about]
  by_cases member : id ∈ groupedTokens adjustments moves
  · rw [if_pos member]
    exact ⟨List.append_nil _, List.append_nil _⟩
  · rw [if_neg member]
    obtain ⟨units, serials⟩ := not_or.mp (member ∘ (mem_grouped_tokens adjustments moves id).mpr)
    exact ⟨((about_nil_iff _ _).mpr units).symm, ((about_nil_iff _ _).mpr serials).symm⟩

theorem grouped_moving (list : TokenMoves) (member : list ∈ Effects.groupByToken adjustments moves) :
    list.adjustments ≠ [] ∨ list.nftMoves ≠ [] := by
  obtain ⟨id, inside, rfl⟩ := List.mem_map.mp member
  refine ((mem_grouped_tokens adjustments moves id).mp inside).imp (fun listed none => ?_) fun listed none => ?_
  · exact (about_nil_iff _ _).mp none listed
  · exact (about_nil_iff _ _).mp none listed

end Groups

section Effects

variable (view : View)

theorem type_after (id : TokenId) : Effects.typeAfter view.ledger view.changes id =
    Ledger.lastType view.ledger view.merged id := by
  unfold Ledger.lastType
  rw [View.merged_token]
  unfold Effects.typeAfter View.token Table.overlaid
  cases view.changes.tokens.get? id with
  | none => cases view.ledger.tokens.get? id <;> rfl
  | some staged => cases staged <;> rfl

theorem effects_tell (effects : Effects) (told : view.changes.effects view.ledger = .ok effects) :
    TransfersTell effects.hbarTransfers effects.tokenTransfers view.ledger view.merged := by
  obtain ⟨units, counted, told⟩ := (except_bind_ok _ _ _).mp told
  obtain ⟨hbar, balances, told⟩ := (except_bind_ok _ _ _).mp told
  cases told
  refine ⟨hbar_told _ _ hbar balances, grouped_ascending _ _, grouped_moving _ _, fun id type => ?_, fun id type => ?_,
    fun id type => ?_, fun id => ?_⟩
  · rw [(grouped_told _ _ id).1]
    exact units_told _ _ id (by rwa [type_after]) units counted
  · rw [(grouped_told _ _ id).1]
    exact units_net _ _ id (by rwa [type_after]) units counted
  · rw [(grouped_told _ _ id).1]
    exact units_untold _ _ id (by rwa [type_after]) units counted
  · rw [(grouped_told _ _ id).2]
    exact moves_told _ _ id

end Effects

end TokenService
