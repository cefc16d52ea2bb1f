import TokenService.Proofs.Ledger.Sequences
import TokenService.Proofs.Settlement.Serials

set_option autoImplicit false

namespace TokenService

theorem movable_of_proper (hbar : List Adjustment) (tokens : List TokenMoves) (proper : ProperTransfer hbar tokens)
    (moves : TokenMoves) (member : moves ∈ tokens) : moves.Movable :=
  ⟨(proper.proper moves member).stocked, fun move inside => ((proper.proper moves member).proper move inside).apart⟩

theorem transfer_apart (hbar : List Adjustment) (tokens : List TokenMoves) (proper : ProperTransfer hbar tokens) :
    (Body.transfer hbar tokens).deeds.Pairwise Deed.Apart := by
  have purses := List.pairwise_filterMap.mp (transfer_purses hbar tokens proper)
  have stakes := List.pairwise_filterMap.mp (transfer_stakes hbar tokens proper)
  have serials := List.pairwise_filterMap.mp (transfer_serials hbar tokens proper)
  refine ((purses.and stakes).and serials).imp ?_
  rintro deed other ⟨⟨purse, stake⟩, serial⟩
  exact ⟨fun id mine theirs => purse id mine id theirs rfl,
    fun holding mine theirs => stake holding mine holding theirs rfl,
    fun nft mine theirs => serial nft mine nft theirs rfl⟩

structure TokenMoves.Reordered (moves other : TokenMoves) : Prop where
  token : other.token = moves.token
  adjustments : moves.adjustments.Perm other.adjustments
  nftMoves : moves.nftMoves.Perm other.nftMoves

def Reordered (tokens others : List TokenMoves) : Prop :=
  ∃ between, tokens.Perm between ∧ List.Forall₂ TokenMoves.Reordered between others

theorem reordered_movable (moves other : TokenMoves) (reordered : moves.Reordered other) (movable : moves.Movable) :
    other.Movable where
  stocked := by
    refine movable.stocked.imp (mt fun bare => ?_) (mt fun bare => ?_)
    · exact (bare ▸ reordered.adjustments).eq_nil
    · exact (bare ▸ reordered.nftMoves).eq_nil
  apart := fun move member => movable.apart move (reordered.nftMoves.mem_iff.mpr member)

theorem reordered_deeds (moves other : TokenMoves) (reordered : moves.Reordered other) :
    moves.deeds.Perm other.deeds := by
  rw [TokenMoves.deeds, TokenMoves.deeds, reordered.token]
  exact (reordered.adjustments.map _).append (reordered.nftMoves.map _)

section Lists

variable (tokens others : List TokenMoves) (reordered : Reordered tokens others)
include reordered

theorem lists_movable (movable : ∀ moves ∈ tokens, moves.Movable) : ∀ moves ∈ others, moves.Movable := by
  obtain ⟨between, perm, each⟩ := reordered
  have between : ∀ moves ∈ between, moves.Movable := fun moves member => movable moves (perm.mem_iff.mpr member)
  clear perm
  induction each with
  | nil => exact fun _ member => absurd member List.not_mem_nil
  | cons head _ ih =>
      obtain ⟨first, later⟩ := List.forall_mem_cons.mp between
      exact List.forall_mem_cons.mpr ⟨reordered_movable _ _ head first, ih later⟩

theorem lists_deeds : (tokens.flatMap TokenMoves.deeds).Perm (others.flatMap TokenMoves.deeds) := by
  obtain ⟨between, perm, each⟩ := reordered
  refine (perm.flatMap_right _).trans ?_
  clear perm
  induction each with
  | nil => exact .refl _
  | cons head _ ih => exact (reordered_deeds _ _ head).append ih

end Lists

/-- A transfer goes through with its entries in any order or in none, and leaves the same view. This holds wherever the
balances of non-fungible tokens count the NFTs that their accounts own, and no token has more NFTs than a balance can
count, as is so where its supply is their number. -/
theorem transfer_in_any_order (config : Config) (spender : AccountId) (hbar adjustments : List Adjustment)
    (tokens others : List TokenMoves) (before after : View) (accounted : before.Accounted)
    (checked : (Body.transfer hbar tokens).check config = .ok ()) (money : hbar.Perm adjustments)
    (lists : Reordered tokens others) :
    (Work.transfer hbar tokens spender).Yields before () after ↔
      (Work.transfer adjustments others spender).Yields before () after := by
  have proper := transfer_of_check hbar tokens checked
  have movable := movable_of_proper hbar tokens proper
  have apart := transfer_apart hbar tokens proper
  have perm : (Body.transfer hbar tokens).deeds.Perm (Body.transfer adjustments others).deeds :=
    (money.map _).append (lists_deeds tokens others lists)
  have back := (perm.pairwise_iff fun distinct => Deed.apart_symm _ _ distinct).mp apart
  rw [transfer_make spender before after accounted hbar tokens movable,
    transfer_make spender before after accounted adjustments others (lists_movable tokens others lists movable)]
  exact ⟨Deed.make_all_perm spender _ _ perm apart before after,
    Deed.make_all_perm spender _ _ perm.symm back before after⟩

namespace Sample

def tip : List Adjustment := [⟨holder, -3, false⟩, ⟨friend, 3, false⟩]

def trade : List TokenMoves :=
  [{ token := art, nftMoves := [⟨holder, friend, 1, false⟩, ⟨friend, holder, 3, false⟩] },
    { token := coin, adjustments := [⟨friend, -4, false⟩, ⟨holder, 4, false⟩] }]

def tradeBackwards : List TokenMoves :=
  [{ token := coin, adjustments := [⟨holder, 4, false⟩, ⟨friend, -4, false⟩] },
    { token := art, nftMoves := [⟨friend, holder, 3, false⟩, ⟨holder, friend, 1, false⟩] }]

theorem ledger_accounted : (View.mk ledger {}).Accounted := by
  have rooted : (View.mk ledger {}).merged.Rooted := (View.fresh_merged ledger).symm ▸ ledger_rooted
  refine accounted_of_tallied _ rooted ((tallied_iff _ rooted).mpr ?_)
  rw [View.fresh_merged]
  exact ⟨ledger_well_kept.agrees, ledger_counts_up⟩

end Sample

theorem trade_in_both_orders : ∃ after,
    (Work.transfer Sample.tip Sample.trade Sample.holder).Yields { ledger := Sample.ledger } () after ∧
      (Work.transfer Sample.tip.reverse Sample.tradeBackwards Sample.holder).Yields
        { ledger := Sample.ledger } () after := by
  obtain ⟨⟨⟩, after, done⟩ :=
    Work.yields_of_ok (Work.transfer Sample.tip Sample.trade Sample.holder) { ledger := Sample.ledger } (by decide)
  refine ⟨after, done, ?_⟩
  refine (transfer_in_any_order {} Sample.holder _ _ _ _ _ after Sample.ledger_accounted (by decide) ?_ ?_).mp done
  · exact (List.reverse_perm _).symm
  · refine ⟨Sample.trade.reverse, (List.reverse_perm _).symm, ?_⟩
    exact .cons ⟨rfl, .swap _ _ _, .refl _⟩ (.cons ⟨rfl, .refl _, .swap _ _ _⟩ .nil)

namespace Sample

def hoard : Nat → Table NftId Nft
  | 0 => ∅
  | count + 1 =>
      (hoard count).insert ⟨art, .ofInt (-(count + 1))⟩ { id := ⟨art, .ofInt (-(count + 1))⟩, owner := holder }

theorem hoard_rooted (count : Nat) (id : NftId) (row : Nft) (found : (hoard count).get? id = some row) :
    row.id = id := by
  induction count with
  | zero => cases found
  | succ count ih =>
      rw [hoard, Table.get_insert] at found
      split at found
      · rename_i same
        cases found
        exact same.symm
      · exact ih found

theorem hoard_fresh (count : Nat) (serial : Int64) (below : serial.toInt < -count ∨ 0 < serial.toInt)
    (small : count ≤ 9223372036854775808) : (hoard count).get? ⟨art, serial⟩ = none := by
  induction count with
  | zero => rfl
  | succ count ih =>
      have number : (Int64.ofInt (-(count + 1))).toInt = -(count + 1) :=
        Int64.toInt_ofInt_of_le (by omega) (by omega)
      have apart : (⟨art, serial⟩ : NftId) ≠ ⟨art, .ofInt (-(count + 1))⟩ := by
        intro same
        have serials : serial = .ofInt (-(count + 1)) := congrArg NftId.serial same
        rw [serials] at below
        omega
      rw [hoard, Table.get_insert, if_neg apart]
      exact ih (by omega) (by omega)

theorem hoard_owned (account : AccountId) (count : Nat) (small : count ≤ 9223372036854775808) :
    ((hoard count).total fun nft row => if nft.token = art ∧ row.owner = account then 1 else 0) =
      if account = holder then (count : Int) else 0 := by
  induction count with
  | zero => split <;> rfl
  | succ count ih =>
      have number : (Int64.ofInt (-(count + 1))).toInt = -(count + 1) :=
        Int64.toInt_ofInt_of_le (by omega) (by omega)
      have fresh := hoard_fresh count (.ofInt (-(count + 1))) (by omega) (by omega)
      rw [hoard, Table.total_insert, fresh, ih (by omega)]
      simp only [true_and, Option.map_none, Option.getD_none, eq_comm (a := holder)]
      split <;> omega

-- The holder's balance is the greatest there is, and the friend has one piece. Their first two pieces are put on top of
-- those in stock.
def brimming (stock : Table NftId Nft) : View :=
  let ledger : Ledger :=
    { accounts := .ofList [(holder, { id := holder }), (friend, { id := friend })]
      tokens := .ofList [(art, { id := art, type := .nonFungible, treasury := holder })]
      relationships := .ofList
        [(⟨holder, art⟩, { balance := Int64.maxValue, kycGranted := true }),
          (⟨friend, art⟩, { balance := 1, kycGranted := true })]
      nfts := stock }
  ((View.mk ledger {}).putNft { id := ⟨art, 1⟩, owner := holder }).putNft { id := ⟨art, 2⟩, owner := friend }

def givingFirst : TokenMoves :=
  { token := art, nftMoves := [⟨holder, friend, 1, false⟩, ⟨friend, holder, 2, false⟩] }

def takingFirst : TokenMoves :=
  { token := art, nftMoves := [⟨friend, holder, 2, false⟩, ⟨holder, friend, 1, false⟩] }

theorem brimming_rooted : (brimming (hoard 9223372036854775806)).merged.Rooted := by
  refine View.rooted_put_nft _ (View.rooted_put_nft _ ?_ _) _
  rw [View.fresh_merged]
  exact ⟨every_row _ (fun id (row : Account) => row.id = id) (by decide),
    every_row _ (fun id (row : Token) => row.id = id) (by decide), hoard_rooted _⟩

theorem brimming_owned (account : AccountId) :
    (brimming (hoard 9223372036854775806)).merged.serialsOwned account art =
      if account = holder then Int64.maxValue.toInt else if account = friend then 1 else 0 := by
  have first := hoard_fresh 9223372036854775806 1 (by decide) (by decide)
  have second := hoard_fresh 9223372036854775806 2 (by decide) (by decide)
  have owned := hoard_owned account 9223372036854775806 (by decide)
  have top : Int64.maxValue.toInt = 9223372036854775807 := by decide
  have apart : (⟨art, 2⟩ : NftId) ≠ ⟨art, 1⟩ := by decide
  have strangers : holder ≠ friend := by decide
  rw [Ledger.serialsOwned, brimming, View.merged_put_nft, View.merged_put_nft, View.fresh_merged, Table.total_insert,
    Table.total_insert, Table.get_insert, if_neg apart, first, second, owned, top]
  simp only [true_and, Option.map_none, Option.getD_none, eq_comm (b := account)]
  by_cases own : account = holder
  · rw [if_pos own, if_pos own, if_neg (own.trans_ne strangers), if_pos own]
    rfl
  · rw [if_neg own, if_neg own, if_neg own]
    split <;> rfl

theorem brimming_counts (id : TokenId) (token : Token)
    (existing : (brimming (hoard 9223372036854775806)).Exists id token) :
    (brimming (hoard 9223372036854775806)).Counts id := by
  have about : id = art :=
    every_row _ (fun id (_ : Token) => id = art) (by decide) id token existing.found
  intro account held found
  rw [about] at found ⊢
  rw [brimming_owned]
  exact every_row _
    (fun (holding : Holding) (row : Relationship) => row.balance.toInt =
      if holding.account = holder then Int64.maxValue.toInt else if holding.account = friend then 1 else 0)
    (by decide) ⟨account, art⟩ held found

end Sample

-- An account with as many NFTs as a balance can count has to give one before it gets another.
theorem brimming_balance_takes_no_more :
    ¬ ∀ (config : Config) (spender : AccountId) (hbar adjustments : List Adjustment) (tokens others : List TokenMoves)
      (before after : View), before.merged.Rooted →
      (∀ id token, before.Exists id token → token.type = .nonFungible → before.Counts id) →
      (Body.transfer hbar tokens).check config = .ok () → hbar.Perm adjustments → Reordered tokens others →
      ((Work.transfer hbar tokens spender).Yields before () after ↔
        (Work.transfer adjustments others spender).Yields before () after) := by
  intro always
  have given (stock : Table NftId Nft) :
      (Work.transfer [] [Sample.givingFirst] Sample.holder (Sample.brimming stock)).1.isOk = true := rfl
  have taken (stock : Table NftId Nft) :
      (Work.transfer [] [Sample.takingFirst] Sample.holder (Sample.brimming stock)).1.isOk = false := rfl
  obtain ⟨⟨⟩, after, done⟩ := Work.yields_of_ok _ _ (given (Sample.hoard 9223372036854775806))
  have reordered : Reordered [Sample.givingFirst] [Sample.takingFirst] :=
    ⟨_, .refl _, .cons ⟨rfl, .refl _, .swap _ _ _⟩ .nil⟩
  have again := (always {} Sample.holder [] [] _ _ _ after Sample.brimming_rooted
    (fun id token existing _ => Sample.brimming_counts id token existing) (by decide) (.refl _) reordered).mp done
  have refused := taken (Sample.hoard 9223372036854775806)
  rw [again] at refused
  cases refused

end TokenService
