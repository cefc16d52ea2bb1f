import TokenService.Proofs.Ledger.Frames
import TokenService.Proofs.Ledger.Isolation

set_option autoImplicit false

namespace TokenService

namespace Ledger

def hbar (ledger : Ledger) (account : AccountId) : Int :=
  ((ledger.accounts.get? account).map fun row => row.balance.toInt).getD 0

def units (ledger : Ledger) (account : AccountId) (token : TokenId) : Int :=
  ((ledger.relationships.get? ⟨account, token⟩).map fun row => row.balance.toInt).getD 0

def hbarAllowance (ledger : Ledger) (owner spender : AccountId) : Int :=
  ((ledger.accounts.get? owner).map fun row => ((row.hbarAllowances.get? spender).getD 0).toInt).getD 0

def unitAllowance (ledger : Ledger) (owner : AccountId) (token : TokenId) (spender : AccountId) : Int :=
  ((ledger.accounts.get? owner).map fun row => ((row.tokenAllowances.get? ⟨token, spender⟩).getD 0).toInt).getD 0

def operates (ledger : Ledger) (owner : AccountId) (token : TokenId) (operator : AccountId) : Bool :=
  ((ledger.accounts.get? owner).map fun row => row.operators.contains ⟨token, operator⟩).getD false

end Ledger

section Transfers

variable {sender : AccountId} {now : Timestamp} {hbar : List Adjustment} {tokens : List TokenMoves}

theorem transfer_keeps_token (id : TokenId) (deed : Deed) (member : deed ∈ (Body.transfer hbar tokens).deeds)
    (first next : View) (does : deed.Does sender now first next) : next.token id = first.token id := by
  refine deed_token sender now deed first next ?_ does id
  rcases transfer_deed _ _ _ member with ⟨_, _, rfl⟩ | ⟨_, _, _, _, rfl⟩ | ⟨_, _, _, _, rfl⟩ <;> rfl

theorem transfer_keeps_operators (owner : AccountId) (id : TokenId) (operator : AccountId) (deed : Deed)
    (member : deed ∈ (Body.transfer hbar tokens).deeds) (first next : View)
    (does : deed.Does sender now first next) :
    next.merged.operates owner id operator = first.merged.operates owner id operator := by
  unfold Ledger.operates
  rw [View.merged_account, View.merged_account]
  rcases transfer_deed _ _ _ member with ⟨_, _, rfl⟩ | ⟨_, _, _, _, rfl⟩ | ⟨_, _, _, _, rfl⟩
  · cases does with
    | adjustHbar account allowances balance lives =>
        refine View.put_account_alike _ _ _ _ account _ lives ?_ ?_ _ <;> rfl
  · cases does with
    | adjustUnits => rfl
    | drawUnits token account held allowances balance usable fungible lives =>
        refine View.put_account_alike _ _ _ _ account _ lives ?_ ?_ _ <;> rfl
  · cases does with
    | moveNft => rfl

theorem approved_draws (entry : Adjustment) (approved : entry.approval = true) (negative : entry.amount.toInt < 0) :
    Work.draws entry = true := by
  rw [Work.draws, approved, Bool.true_and, decide_eq_true_eq]
  exact Int64.lt_iff_toInt_lt.mpr negative

theorem hbar_spared (account : AccountId) (deed : Deed) (member : deed ∈ (Body.transfer hbar tokens).deeds)
    (apart : deed.purse ≠ some account) (first next : View) (does : deed.Does sender now first next) :
    (next.merged.hbar account, next.merged.hbarAllowance account sender) =
      (first.merged.hbar account, first.merged.hbarAllowance account sender) := by
  unfold Ledger.hbar Ledger.hbarAllowance
  rw [View.merged_account, View.merged_account]
  rcases transfer_deed _ _ _ member with ⟨adjustment, _, rfl⟩ | ⟨_, _, _, _, rfl⟩ | ⟨_, _, _, _, rfl⟩
  · have other : account ≠ adjustment.account := fun same => apart (congrArg some same.symm)
    cases does with
    | adjustHbar row allowances balance lives =>
        have kept := View.put_account_other _ _ row { row with hbarAllowances := allowances, balance := balance }
          lives rfl account other
        rw [kept]
  · cases does with
    | adjustUnits => rfl
    | drawUnits token row held allowances balance usable fungible lives =>
        refine Prod.ext ?_ ?_
        · refine View.put_account_alike _ _ _ _ row _ lives ?_ ?_ _ <;> rfl
        · refine View.put_account_alike _ _ _ _ row _ lives ?_ ?_ _ <;> rfl
  · cases does with
    | moveNft => rfl

theorem hbar_adjusted (adjustment : Adjustment) (first next : View)
    (does : (Deed.adjustHbar adjustment).Does sender now first next) :
    next.merged.hbar adjustment.account = first.merged.hbar adjustment.account + adjustment.amount.toInt ∧
      (Work.draws adjustment = true →
        -adjustment.amount.toInt ≤ first.merged.hbarAllowance adjustment.account sender ∧
        next.merged.hbarAllowance adjustment.account sender =
          first.merged.hbarAllowance adjustment.account sender + adjustment.amount.toInt) := by
  unfold Ledger.hbar Ledger.hbarAllowance
  rw [View.merged_account, View.merged_account]
  cases does with
  | adjustHbar row allowances balance lives drawn sum =>
      have written := View.put_account_same _ _ row { row with hbarAllowances := allowances, balance := balance }
        lives rfl
      rw [written, lives.found]
      refine ⟨sum.sum, fun draws => ?_⟩
      obtain ⟨granted, found, covered, rest⟩ := drawn.covered draws
      simp only [Option.map_some, Option.getD_some, found]
      exact ⟨covered, rest⟩

-- An account's hbar falls in a transfer only by its own entry, by the amount of it; an approved
-- entry takes its debit off what the account had lent to the sender.
theorem transfer_hbar (proper : ProperTransfer hbar tokens) (before after : View)
    (done : Deeds sender now (Body.transfer hbar tokens).deeds before after) (account : AccountId)
    (fell : after.merged.hbar account < before.merged.hbar account) :
    ∃ entry ∈ hbar, entry.account = account ∧
      after.merged.hbar account = before.merged.hbar account + entry.amount.toInt ∧
      (entry.approval = true →
        before.merged.hbar account - after.merged.hbar account ≤ before.merged.hbarAllowance account sender ∧
        after.merged.hbarAllowance account sender = before.merged.hbarAllowance account sender -
          (before.merged.hbar account - after.merged.hbar account)) := by
  -- Accounts are distinct in the list, so one entry at most is about this account.
  rcases Deeds.isolate Deed.purse account
      (fun view => (view.merged.hbar account, view.merged.hbarAllowance account sender)) (fun _ => True) _ _ _
      (fun _ _ _ _ _ _ => trivial)
      (fun deed member apart first next does _ => hbar_spared account deed member apart first next does)
      done trivial (transfer_purses _ _ proper) with same | ⟨deed, member, touched, first, next, does, _, start, finish⟩
  · have same := congrArg Prod.fst same
    simp only at same
    omega
  · rcases transfer_deed _ _ _ member with ⟨entry, inside, rfl⟩ | ⟨_, _, _, _, rfl⟩ | ⟨_, _, _, _, rfl⟩
    · cases touched
      obtain ⟨added, drawn⟩ := hbar_adjusted entry first next does
      simp only [Prod.mk.injEq] at start finish
      refine ⟨entry, inside, rfl, by omega, fun approved => ?_⟩
      obtain ⟨covered, rest⟩ := drawn (approved_draws entry approved (by omega))
      omega
    · cases touched
    · cases touched

-- The units of a holding, and what its account lends of them to the sender, are changed by its own
-- entry alone. A move of a serial is of another token, since this one does not count serials.
theorem units_spared (account : AccountId) (id : TokenId) (deed : Deed)
    (member : deed ∈ (Body.transfer hbar tokens).deeds) (apart : deed.stake ≠ some ⟨account, id⟩) (first next : View)
    (does : deed.Does sender now first next)
    (kind : ∀ token, first.token id = some token → token.type ≠ .nonFungible) :
    (next.merged.units account id, next.merged.unitAllowance account id sender) =
      (first.merged.units account id, first.merged.unitAllowance account id sender) := by
  unfold Ledger.units Ledger.unitAllowance
  rw [View.merged_account, View.merged_account, View.merged_relationship, View.merged_relationship]
  rcases transfer_deed _ _ _ member with ⟨_, _, rfl⟩ | ⟨moves, _, adjustment, _, rfl⟩ | ⟨moves, _, move, _, rfl⟩
  · cases does with
    | adjustHbar row allowances balance lives =>
        refine Prod.ext rfl ?_
        refine View.put_account_alike _ _ _ _ row _ lives ?_ ?_ _ <;> rfl
  · have elsewhere : ¬ (account = adjustment.account ∧ id = moves.token) := by
      rintro ⟨rfl, rfl⟩
      exact apart rfl
    cases does with
    | adjustUnits => rw [View.account_put_relationship, View.relationship_put_relationship, if_neg elsewhere]
    | drawUnits token row held allowances balance usable fungible lives trades draws drawn =>
        rw [View.account_put_relationship, View.relationship_put_relationship, if_neg elsewhere,
          View.relationship_put_account]
        refine Prod.ext rfl ?_
        by_cases same : account = adjustment.account
        -- The same account draws for another token, so for another key of its allowances.
        · have other : (⟨id, sender⟩ : Delegate) ≠ ⟨moves.token, sender⟩ := by
            intro equal
            cases equal
            exact elsewhere ⟨same, rfl⟩
          have written := View.put_account_same _ _ row { row with tokenAllowances := allowances } lives rfl
          rw [same, written, lives.found]
          simp only [Option.map_some, Option.getD_some, drawn.others _ other]
        · have kept := View.put_account_other _ _ row { row with tokenAllowances := allowances } lives rfl account same
          rw [kept]
  · have elsewhere : id ≠ moves.token := by
      rintro rfl
      cases does with
      | moveNft token nft receiver source target left gained usable nonFungible =>
          exact kind token usable.found nonFungible
    cases does with
    | moveNft =>
        rw [View.account_put_nft, View.relationship_put_nft, View.relationship_put_relationship,
          if_neg fun same => elsewhere same.2, View.relationship_put_relationship, if_neg fun same => elsewhere same.2]
        rfl

theorem units_adjusted (id : TokenId) (adjustment : Adjustment) (first next : View)
    (does : (Deed.adjustUnits id adjustment).Does sender now first next) :
    next.merged.units adjustment.account id = first.merged.units adjustment.account id + adjustment.amount.toInt ∧
      (Work.draws adjustment = true →
        -adjustment.amount.toInt ≤ first.merged.unitAllowance adjustment.account id sender ∧
        next.merged.unitAllowance adjustment.account id sender =
          first.merged.unitAllowance adjustment.account id sender + adjustment.amount.toInt) := by
  unfold Ledger.units Ledger.unitAllowance
  rw [View.merged_account, View.merged_account, View.merged_relationship, View.merged_relationship]
  cases does with
  | adjustUnits token row held balance usable fungible lives trades kept sum =>
      rw [View.relationship_put_relationship, if_pos ⟨rfl, rfl⟩, trades.found]
      refine ⟨sum.sum, fun draws => ?_⟩
      rw [kept] at draws
      cases draws
  | drawUnits token row held allowances balance usable fungible lives trades draws drawn sum =>
      have written := View.put_account_same _ _ row { row with tokenAllowances := allowances } lives rfl
      rw [View.relationship_put_relationship, if_pos ⟨rfl, rfl⟩, View.account_put_relationship, written, lives.found,
        trades.found]
      refine ⟨sum.sum, fun draws => ?_⟩
      obtain ⟨granted, found, covered, rest⟩ := drawn.covered draws
      simp only [Option.map_some, Option.getD_some, found]
      exact ⟨covered, rest⟩

theorem transfer_units (proper : ProperTransfer hbar tokens) (before after : View)
    (done : Deeds sender now (Body.transfer hbar tokens).deeds before after) (account : AccountId) (id : TokenId)
    (kind : ∀ token, before.token id = some token → token.type ≠ .nonFungible)
    (fell : after.merged.units account id < before.merged.units account id) :
    ∃ moves ∈ tokens, moves.token = id ∧ ∃ entry ∈ moves.adjustments, entry.account = account ∧
      after.merged.units account id = before.merged.units account id + entry.amount.toInt ∧
      (entry.approval = true →
        before.merged.units account id - after.merged.units account id ≤
          before.merged.unitAllowance account id sender ∧
        after.merged.unitAllowance account id sender = before.merged.unitAllowance account id sender -
          (before.merged.units account id - after.merged.units account id)) := by
  rcases Deeds.isolate Deed.stake ⟨account, id⟩
      (fun view => (view.merged.units account id, view.merged.unitAllowance account id sender))
      (fun view => ∀ token, view.token id = some token → token.type ≠ .nonFungible) _ _ _
      (fun deed member first next does kept => by rwa [transfer_keeps_token id deed member first next does])
      (fun deed member apart first next does kept => units_spared account id deed member apart first next does kept)
      done kind (transfer_stakes _ _ proper) with same | ⟨deed, member, touched, first, next, does, _, start, finish⟩
  · have same := congrArg Prod.fst same
    simp only at same
    omega
  · rcases transfer_deed _ _ _ member with ⟨_, _, rfl⟩ | ⟨moves, inside, entry, listed, rfl⟩ | ⟨_, _, _, _, rfl⟩
    · cases touched
    · cases touched
      obtain ⟨added, drawn⟩ := units_adjusted moves.token entry first next does
      simp only [Prod.mk.injEq] at start finish
      refine ⟨moves, inside, rfl, entry, listed, rfl, by omega, fun approved => ?_⟩
      obtain ⟨covered, rest⟩ := drawn (approved_draws entry approved (by omega))
      omega
    · cases touched

theorem nft_spared (id : NftId) (deed : Deed) (member : deed ∈ (Body.transfer hbar tokens).deeds)
    (apart : deed.serial ≠ some id) (first next : View) (does : deed.Does sender now first next) :
    next.nft id = first.nft id := by
  rcases transfer_deed _ _ _ member with ⟨_, _, rfl⟩ | ⟨_, _, _, _, rfl⟩ | ⟨moves, _, move, _, rfl⟩
  · cases does with
    | adjustHbar => rfl
  · cases does with
    | adjustUnits => rfl
    | drawUnits => rfl
  · have other : id ≠ ⟨moves.token, move.serial⟩ := fun same => apart (congrArg some same.symm)
    cases does with
    | moveNft token nft receiver source target left gained usable nonFungible found own =>
        simp only [View.nft_put_nft, own, if_neg other, View.nft_put_relationship]

-- A serial leaves its owner in a transfer only by its own move, from that owner; an approved move
-- is the sender's as spender of the serial or as operator.
theorem transfer_nft (proper : ProperTransfer hbar tokens) (before after : View)
    (done : Deeds sender now (Body.transfer hbar tokens).deeds before after) (id : NftId) (row : Nft)
    (owned : before.nft id = some row) (left : (after.nft id).map Nft.owner ≠ some row.owner) :
    ∃ moves ∈ tokens, moves.token = id.token ∧ ∃ move ∈ moves.nftMoves, move.serial = id.serial ∧
      move.sender = row.owner ∧
      (move.approval = true →
        row.spender = some sender ∨ before.merged.operates row.owner id.token sender = true) := by
  -- Serials are distinct, and no move changes who operates for the owner.
  rcases Deeds.isolate Deed.serial id (fun view => view.nft id)
      (fun view => view.merged.operates row.owner id.token sender =
        before.merged.operates row.owner id.token sender) _ _ _
      (fun deed member first next does kept =>
        (transfer_keeps_operators row.owner id.token sender deed member first next does).trans kept)
      (fun deed member apart first next does _ => nft_spared id deed member apart first next does)
      done rfl (transfer_serials _ _ proper) with same | ⟨deed, member, touched, first, next, does, kept, start, _⟩
  · rw [same, owned] at left
    exact absurd rfl left
  · rcases transfer_deed _ _ _ member with ⟨_, _, rfl⟩ | ⟨_, _, _, _, rfl⟩ | ⟨moves, inside, move, listed, rfl⟩
    · cases touched
    · cases touched
    · cases touched
      cases does with
      | moveNft token nft receiver source target left gained usable nonFungible found own owner approved =>
          have same := found.symm.trans (start.trans owned)
          cases same
          refine ⟨moves, inside, rfl, move, listed, rfl, owner.symm, fun approval => ?_⟩
          obtain ⟨account, lives, entitled⟩ := approved approval
          apply entitled.imp_right
          intro contained
          rw [← kept, Ledger.operates, View.merged_account, owner, lives.found]
          exact contained

end Transfers

end TokenService
