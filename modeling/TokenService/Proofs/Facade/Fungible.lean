import TokenService.Proofs.Facade.Erc20
import TokenService.Proofs.Facade.Standard
import TokenService.Proofs.Ledger.Losses

set_option autoImplicit false

namespace TokenService

def Ledger.erc20 (ledger : Ledger) (id : TokenId) : Erc20.State :=
  { balance := fun account => ledger.units account id
    allowance := fun owner spender => ledger.unitAllowance owner id spender
    supply := ((ledger.tokens.get? id).map fun row => row.totalSupply.toInt).getD 0 }

section Writes

variable (view : View)

theorem units_shifted (account : AccountId) (token : TokenId) (held : Relationship) (change : Int) (balance : Int64)
    (found : view.relationship account token = some held) (sum : Shifted held.balance change balance)
    (other : AccountId) :
    (view.putRelationship account token { held with balance := balance }).merged.units other token =
      if other = account then view.merged.units other token + change else view.merged.units other token := by
  rw [View.units_put_relationship]
  by_cases same : other = account
  · rw [if_pos ⟨same, rfl⟩, if_pos same, same, sum.sum, View.units_found _ _ _ _ found]
  · rw [if_neg fun both => same both.1, if_neg same]

theorem allowance_put_account (owner : AccountId) (row : Account) (lives : view.Lives owner row)
    (allowances : Table Delegate Int64) (id : TokenId) (spender : AccountId) (amount : Int)
    (written : ∀ other, ((allowances.get? ⟨id, other⟩).getD 0).toInt =
      if other = spender then amount else ((row.tokenAllowances.get? ⟨id, other⟩).getD 0).toInt) :
    ((view.putAccount { row with tokenAllowances := allowances }).merged.erc20 id).allowance =
      ((view.merged.erc20 id).allowing owner spender amount).allowance := by
  funext account other
  simp only [Ledger.erc20, Erc20.State.allowing, Ledger.unitAllowance, View.merged_account]
  by_cases same : account = owner
  · rw [same, View.put_account_same _ _ row { row with tokenAllowances := allowances } lives rfl, lives.found]
    simp only [Option.map_some, Option.getD_some, written, true_and]
  · rw [View.put_account_other _ _ row { row with tokenAllowances := allowances } lives rfl account same,
      if_neg fun both => same both.1]

theorem granted_get {κ : Type} [Ord κ] [Std.TransOrd κ] [Std.LawfulEqOrd κ] [DecidableEq κ]
    (allowances : Table κ Int64) (key : κ) (amount : Int64) (other : κ) :
    ((Work.granted allowances key amount).get? other).getD 0 =
      if other = key then amount else (allowances.get? other).getD 0 := by
  unfold Work.granted
  by_cases none : amount = 0
  · rw [if_pos none, Table.get_erase]
    by_cases same : other = key
    · rw [if_pos same, if_pos same, none]
      rfl
    · rw [if_neg same, if_neg same]
  · rw [if_neg none, Table.get_insert]
    by_cases same : other = key
    · rw [if_pos same, if_pos same]
      rfl
    · rw [if_neg same, if_neg same]

end Writes

theorem clamp_negative (units : Int64) (positive : 0 ≤ units.toInt) : (clamp (-units.toInt)).toInt = -units.toInt := by
  have low : Int64.minValue.toInt = -9223372036854775808 := by decide
  have high : Int64.maxValue.toInt = 9223372036854775807 := by decide
  have bound := Int64.toInt_le units
  unfold clamp
  rw [if_neg (by omega), if_neg (by omega)]
  exact Int64.toInt_ofInt_of_le (by omega) (by omega)

section Deeds

variable {sender : AccountId} {now : Timestamp} {id : TokenId} {before after : View}

theorem supply_kept (id : TokenId) (deed : Deed) (quiet : deed.definesToken = false)
    (does : deed.Does sender now before after) : (after.merged.erc20 id).supply = (before.merged.erc20 id).supply := by
  simp only [Ledger.erc20, View.merged_token, deed_token sender now deed before after quiet does id]

theorem adjusted_erc20 (adjustment : Adjustment)
    (does : (Deed.adjustUnits id adjustment).Does sender now before after) :
    0 ≤ (before.merged.erc20 id).balance adjustment.account + adjustment.amount.toInt ∧
      (Work.draws adjustment = false →
        after.merged.erc20 id = (before.merged.erc20 id).credited adjustment.account adjustment.amount.toInt) ∧
      (Work.draws adjustment = true →
        -adjustment.amount.toInt ≤ (before.merged.erc20 id).allowance adjustment.account sender ∧
        after.merged.erc20 id =
          ((before.merged.erc20 id).credited adjustment.account adjustment.amount.toInt).allowing adjustment.account
            sender ((before.merged.erc20 id).allowance adjustment.account sender + adjustment.amount.toInt)) := by
  have supply := supply_kept id _ rfl does
  have covered (held : Relationship) (balance : Int64) (found : before.relationship adjustment.account id = some held)
      (sum : Shifted held.balance adjustment.amount.toInt balance) :
      0 ≤ (before.merged.erc20 id).balance adjustment.account + adjustment.amount.toInt := by
    simp only [Ledger.erc20, Ledger.units, View.merged_relationship, found, Option.map_some, Option.getD_some]
    rw [← sum.sum]
    exact sum.floor
  cases does with
  | adjustUnits token owner held balance usable fungible lives trades kept sum =>
      refine ⟨covered held balance trades.found sum, fun _ => ?_, fun draws => ?_⟩
      · exact Erc20.State.ext (funext (units_shifted before _ id held _ balance trades.found sum)) rfl supply
      · rw [kept] at draws
        cases draws
  | drawUnits token owner held allowances balance usable fungible lives trades draws drawn sum =>
      obtain ⟨granted, found, covers, rest⟩ := drawn.covered draws
      have allowed : (before.merged.erc20 id).allowance adjustment.account sender = granted.toInt := by
        simp only [Ledger.erc20, Ledger.unitAllowance, View.merged_account, lives.found, Option.map_some,
          Option.getD_some, found]
      refine ⟨covered held balance trades.found sum, fun kept => ?_, fun _ => ?_⟩
      · rw [draws] at kept
        cases kept
      rw [allowed]
      have spent := allowance_put_account before adjustment.account owner lives allowances id sender
        (granted.toInt + adjustment.amount.toInt) fun other => ?_
      · refine ⟨covers, Erc20.State.ext ?_ spent supply⟩
        exact funext (units_shifted (before.putAccount { owner with tokenAllowances := allowances }) _ id held _ balance
          trades.found sum)
      -- Of the allowances of the account the draw touches the sender's for this token alone.
      · by_cases drawing : other = sender
        · rw [if_pos drawing, drawing, rest]
        · rw [if_neg drawing, drawn.others _ fun equal => drawing (Delegate.mk.inj equal).2]

theorem granted_erc20 (grant : UnitGrant) (about : grant.token = id)
    (does : (Deed.grantUnits grant).Does sender now before after) :
    after.merged.erc20 id = (before.merged.erc20 id).allowing grant.owner grant.spender grant.amount.toInt := by
  have supply := supply_kept id _ rfl does
  subst about
  cases does with
  | grantUnits owner token held lives usable fungible found =>
      refine Erc20.State.ext rfl (allowance_put_account before _ owner lives _ _ _ _ fun other => ?_) supply
      rw [granted_get]
      by_cases lent : other = grant.spender
      · rw [if_pos (congrArg (Delegate.mk grant.token) lent), if_pos lent]
      · rw [if_neg fun equal => lent (Delegate.mk.inj equal).2, if_neg lent]

-- A new relationship holds nothing, and one of a token that lives is given up only when it holds
-- nothing.
theorem associated_erc20 (account : AccountId) (does : (Deed.associate account id).Does sender now before after) :
    after.merged.erc20 id = before.merged.erc20 id := by
  refine Erc20.State.ext (funext fun other => quiet_units _ other id rfl _ _ does) ?_ (supply_kept id _ rfl does)
  cases does with
  | associate => rfl

theorem dissociated_erc20 (account : AccountId) (token : Token) (existing : before.Exists id token)
    (does : (Deed.dissociate account id).Does sender now before after) :
    after.merged.erc20 id = before.merged.erc20 id := by
  have supply := supply_kept id _ rfl does
  cases does with
  | dissociate held found released =>
      obtain ⟨_, empty⟩ := released token existing
      refine Erc20.State.ext (funext fun other => ?_) rfl supply
      refine (View.units_remove_relationship before account id other id).trans ?_
      by_cases same : other = account
      · have held := View.units_found before account id _ found
        rw [empty] at held
        rw [if_pos ⟨same, rfl⟩, same]
        exact held.symm
      · exact if_neg fun both => same both.1

theorem transferred_erc20 (owner receiver : AccountId) (units : Int64) (positive : 0 ≤ units.toInt)
    (sound : (before.merged.erc20 id).Sound)
    (done : Deeds sender now
      [.adjustUnits id { account := owner, amount := clamp (-units.toInt), approval := owner != sender },
        .adjustUnits id { account := receiver, amount := units }] before after) :
    units.toInt ≤ (before.merged.erc20 id).balance owner ∧
      (owner = sender → after.merged.erc20 id = (before.merged.erc20 id).moved owner receiver units.toInt) ∧
      (owner ≠ sender →
        units.toInt ≤ (before.merged.erc20 id).allowance owner sender ∧
        after.merged.erc20 id = ((before.merged.erc20 id).moved owner receiver units.toInt).allowing owner sender
          ((before.merged.erc20 id).allowance owner sender - units.toInt)) := by
  generalize named : ({ account := owner, amount := clamp (-units.toInt), approval := owner != sender } : Adjustment) =
    debit at done
  have account : debit.account = owner := named ▸ rfl
  have amount : debit.amount.toInt = -units.toInt := named ▸ clamp_negative units positive
  have approval : debit.approval = (owner != sender) := named ▸ rfl
  cases done with
  | @cons _ _ _ middle _ first others =>
      obtain ⟨covered, kept, drawn⟩ := adjusted_erc20 debit first
      obtain ⟨_, gained, _⟩ := adjusted_erc20 _ (Deeds.of_single _ _ _ others)
      have gained := gained rfl
      rw [account, amount] at covered kept drawn
      refine ⟨by omega, fun own => ?_, fun other => ?_⟩
      · have still : Work.draws debit = false := by
          rw [Work.draws, approval, own, bne_self_eq_false, Bool.false_and]
        rw [gained, kept still]
        rfl
      · have approved : debit.approval = true := approval.trans (bne_iff_ne.mpr other)
        by_cases nothing : units.toInt = 0
        -- A move of nothing draws on no allowance, and leaves it as it is.
        · have still : Work.draws debit = false := by
            rw [Work.draws, Bool.and_eq_false_iff]
            refine .inr (decide_eq_false fun negative => ?_)
            have low := Int64.lt_iff_toInt_lt.mp negative
            rw [amount, nothing] at low
            exact absurd low (by decide)
          have floor := sound.allowance owner sender
          refine ⟨by omega, ?_⟩
          rw [gained, kept still, nothing, Int.sub_zero]
          exact (Erc20.State.allowing_same _ _ _).symm
        · obtain ⟨covers, paid⟩ := drawn (approved_draws debit approved (by omega))
          refine ⟨by omega, ?_⟩
          rw [gained, paid]
          rfl

end Deeds

def FacadeRequest.erc20 (call : Call) : FacadeRequest → Erc20.Event
  | ⟨.transfer, (receiver, amount, ())⟩ => .transfer call.sender (call.entity receiver) (BitVec.toNat amount)
  | ⟨.transferFrom, (source, receiver, amount, ())⟩ =>
      .transferFrom call.sender (call.entity source) (call.entity receiver) (BitVec.toNat amount)
  | ⟨.approve, (spender, amount, ())⟩ => .approve call.sender (call.entity spender) (BitVec.toNat amount)
  | ⟨.balanceOf, (account, ())⟩ => .balanceOf (call.entity account)
  | ⟨.allowance, (owner, spender, ())⟩ => .allowance (call.entity owner) (call.entity spender)
  | ⟨.totalSupply, ()⟩ => .totalSupply
  | _ => .idle

-- A fungible token that lives, with nothing negative in it but perhaps its supply.
structure Ledger.Fungible (ledger : Ledger) (id : TokenId) : Prop where
  rooted : ledger.Rooted
  token : ∃ row, ledger.tokens.get? id = some row ∧ row.type = .fungible ∧ row.deleted = false
  sound : (ledger.erc20 id).Sound

theorem fungible_of_rows (ledger : Ledger) (id : TokenId) (rooted : ledger.Rooted)
    (token : ∃ row, ledger.tokens.get? id = some row ∧ row.type = .fungible ∧ row.deleted = false)
    (held : ∀ entry ∈ ledger.relationships.rows, 0 ≤ entry.2.balance.toInt)
    (lent : ∀ entry ∈ ledger.accounts.rows, ∀ grant ∈ entry.2.tokenAllowances.rows, 0 ≤ grant.2.toInt) :
    ledger.Fungible id := by
  refine ⟨rooted, token, fun account => ?_, fun owner spender => ?_⟩
  · simp only [Ledger.erc20, Ledger.units]
    cases found : ledger.relationships.get? ⟨account, id⟩ with
    | none => exact Int.le_refl 0
    | some row => exact every_row _ (fun _ row => 0 ≤ row.balance.toInt) held _ row found
  · simp only [Ledger.erc20, Ledger.unitAllowance]
    cases found : ledger.accounts.get? owner with
    | none => exact Int.le_refl 0
    | some row =>
        simp only [Option.map_some, Option.getD_some]
        cases granted : row.tokenAllowances.get? ⟨id, spender⟩ with
        | none => exact Int.le_refl 0
        | some amount =>
            exact every_row _ (fun _ amount => 0 ≤ amount.toInt)
              (every_row _ (fun _ row => ∀ grant ∈ row.tokenAllowances.rows, 0 ≤ grant.2.toInt) lent _ row found) _
              amount granted

def uint256 (amount : Int) : Bytes := Abi.encode [.uint256] (BitVec.ofNat 256 amount.toNat, ())

theorem amount_word (amount : Int64) : amountWord amount = BitVec.ofNat 256 amount.toInt.toNat := by
  have bound := Int64.toInt_le amount
  have high : Int64.maxValue.toInt = 9223372036854775807 := by decide
  apply BitVec.eq_of_toNat_eq
  simp only [amountWord, unsigned, BitVec.toNat_setWidth, UInt64.toNat_toBitVec, UInt64.toNat_ofNat',
    BitVec.toNat_ofNat]
  omega

theorem amount_encoded (amount : Int64) : Abi.encode [.uint256] (amountWord amount, ()) = uint256 amount.toInt := by
  rw [amount_word, uint256]

section Answers

variable (ledger : Ledger) (id : TokenId) (row : Token) (found : ledger.tokens.get? id = some row) (explicit : Bool)
  (ledgerId : String)
include found

theorem balance_answered (account : AccountId) (answer : Answer)
    (answered : (View.mk ledger {}).answer (.balanceOf id account) = .ok answer) :
    answer.encode (.redirect id explicit) ledgerId = uint256 ((ledger.erc20 id).balance account) := by
  have known : (View.mk ledger {}).knownToken id = .ok row := (View.demand_ok _ _ _).mpr found
  simp only [View.answer, known] at answered
  cases answered
  refine (amount_encoded _).trans (congrArg uint256 ?_)
  simp only [Ledger.erc20, Ledger.units, View.fresh_relationship]
  cases ledger.relationships.get? ⟨account, id⟩ <;> rfl

theorem allowance_answered (owner spender : AccountId) (answer : Answer)
    (answered : (View.mk ledger {}).answer (.allowance id owner spender) = .ok answer) :
    answer.encode (.redirect id explicit) ledgerId = uint256 ((ledger.erc20 id).allowance owner spender) := by
  have known : (View.mk ledger {}).knownToken id = .ok row := (View.demand_ok _ _ _).mpr found
  simp only [View.answer, known] at answered
  obtain ⟨_, _, answered⟩ := (except_bind_ok _ _ _).mp answered
  obtain ⟨account, present, answered⟩ := (except_bind_ok _ _ _).mp answered
  have present : ledger.accounts.get? owner = some account := (View.demand_ok _ _ _).mp present
  cases answered
  refine (amount_encoded _).trans (congrArg uint256 ?_)
  simp only [Ledger.erc20, Ledger.unitAllowance, present, Option.map_some, Option.getD_some]

theorem supply_answered (answer : Answer) (answered : (View.mk ledger {}).answer (.totalSupply id) = .ok answer) :
    answer.encode (.redirect id explicit) ledgerId = uint256 (ledger.erc20 id).supply := by
  have known : (View.mk ledger {}).knownToken id = .ok row := (View.demand_ok _ _ _).mpr found
  simp only [View.answer, known] at answered
  cases answered
  refine (amount_encoded _).trans (congrArg uint256 ?_)
  simp only [Ledger.erc20, found, Option.map_some, Option.getD_some]

end Answers

def erc20 : Standard Erc20.State Erc20.Event where
  look := Ledger.erc20
  meaning call request := request.erc20 call
  Does := Erc20.Event.Does
  answer state event := (event.answer state).map uint256
  idle := .idle
  stays _ := .idle
  silent _ := rfl

section Steps

variable (call : Call) (ledger : Ledger) (id : TokenId) (operation : Operation) (output : Bytes) (view : View)

section Questions

variable (row : Token) (found : ledger.tokens.get? id = some row)
include found

theorem balance_served (account : Address)
    (serves : call.Serves ledger id ⟨.balanceOf, (account, ())⟩ operation output view) :
    erc20.Served call ledger id ⟨.balanceOf, (account, ())⟩ output view.merged := by
  cases serves.given
  refine erc20.question_served call ledger id _ output view _ serves .balanceOf
    fun answer explicit told answered asked => ?_
  rw [balance_answered ledger id row found explicit _ _ _ answered, ← Option.some.inj asked]
  rfl

theorem allowance_served (owner spender : Address)
    (serves : call.Serves ledger id ⟨.allowance, (owner, spender, ())⟩ operation output view) :
    erc20.Served call ledger id ⟨.allowance, (owner, spender, ())⟩ output view.merged := by
  cases serves.given
  refine erc20.question_served call ledger id _ output view _ serves .allowance
    fun answer explicit told answered asked => ?_
  rw [allowance_answered ledger id row found explicit _ _ _ _ answered, ← Option.some.inj asked]
  rfl

theorem supply_served (serves : call.Serves ledger id ⟨.totalSupply, ()⟩ operation output view) :
    erc20.Served call ledger id ⟨.totalSupply, ()⟩ output view.merged := by
  cases serves.given
  refine erc20.question_served call ledger id _ output view _ serves .totalSupply
    fun answer explicit told answered asked => ?_
  rw [supply_answered ledger id row found explicit _ _ answered, ← Option.some.inj asked]
  rfl

end Questions

variable (fungible : ledger.Fungible id)
include fungible

theorem fungible_type : (ledger.tokens.get? id).map Token.type = some .fungible := by
  obtain ⟨row, found, type, _⟩ := fungible.token
  rw [found, Option.map_some, type]

theorem payment_served (receiver : Address) (amount : BitVec 256)
    (serves : call.Serves ledger id ⟨.transfer, (receiver, amount, ())⟩ operation output view) :
    erc20.Served call ledger id ⟨.transfer, (receiver, amount, ())⟩ output view.merged := by
  have sound := fungible.sound
  rw [← View.fresh_merged ledger] at sound
  have done := serves.done
  obtain ⟨units, read, given⟩ := (except_bind_ok _ _ _).mp serves.given
  cases given
  have same := native64_ok _ _ _ ((map_error_ok_iff _ _ _).mp read)
  obtain ⟨covered, moved, _⟩ := transferred_erc20 _ _ units (by omega) sound done
  have moved := moved rfl
  rw [View.fresh_merged, same] at covered moved
  refine ⟨?_, fun _ none => nomatch none⟩
  change Erc20.Event.Does _ (ledger.erc20 id) (view.merged.erc20 id)
  rw [moved]
  exact .transfer covered

theorem withdrawal_served (source receiver : Address) (amount : BitVec 256)
    (serves : call.Serves ledger id ⟨.transferFrom, (source, receiver, amount, ())⟩ operation output view) :
    erc20.Served call ledger id ⟨.transferFrom, (source, receiver, amount, ())⟩ output view.merged := by
  have sound := fungible.sound
  rw [← View.fresh_merged ledger] at sound
  have done := serves.done
  have given := serves.given
  rw [fungible_type ledger id fungible] at given
  obtain ⟨asset, read, given⟩ := (except_bind_ok _ _ _).mp given
  cases given
  obtain ⟨units, rfl, same⟩ := native64_mapped _ _ _ _ read
  obtain ⟨covered, moved, drawn⟩ := transferred_erc20 (call.entity source) _ units (by omega) sound done
  rw [View.fresh_merged, same] at covered moved drawn
  refine ⟨?_, fun _ none => nomatch none⟩
  change Erc20.Event.Does _ (ledger.erc20 id) (view.merged.erc20 id)
  by_cases own : call.entity source = call.sender
  · rw [moved own]
    change Erc20.Event.Does (.transferFrom call.sender (call.entity source) _ _) _ _
    rw [own] at covered ⊢
    exact .transferOwn covered
  · obtain ⟨allowed, drawn⟩ := drawn own
    rw [drawn]
    exact .transferFrom own covered allowed

theorem grant_served (spender : Address) (amount : BitVec 256)
    (serves : call.Serves ledger id ⟨.approve, (spender, amount, ())⟩ operation output view) :
    erc20.Served call ledger id ⟨.approve, (spender, amount, ())⟩ output view.merged := by
  have given := serves.given
  rw [fungible_type ledger id fungible] at given
  obtain ⟨asset, read, given⟩ := (except_bind_ok _ _ _).mp given
  cases given
  obtain ⟨units, rfl, same⟩ := native64_mapped _ _ _ _ read
  have allowed := granted_erc20 _ rfl (Deeds.of_single _ _ _ serves.done)
  rw [View.fresh_merged, same] at allowed
  refine ⟨?_, fun _ none => nomatch none⟩
  change Erc20.Event.Does _ (ledger.erc20 id) (view.merged.erc20 id)
  rw [allowed]
  exact .approve

theorem operators_refused (operator : Address) (approved : Bool)
    (serves : call.Serves ledger id ⟨.setApprovalForAll, (operator, approved, ())⟩ operation output view) : False := by
  obtain ⟨row, found, type, _⟩ := fungible.token
  have done := serves.done
  cases serves.given
  cases Deeds.of_single _ _ _ done with
  | setOperator owner token held lives usable nonFungible =>
      cases found.symm.trans usable.found
      rw [type] at nonFungible
      cases nonFungible

theorem served_erc20 (request : FacadeRequest) (serves : call.Serves ledger id request operation output view) :
    erc20.Served call ledger id request output view.merged := by
  obtain ⟨row, found, type, live⟩ := fungible.token
  have existing : (View.mk ledger {}).Exists id row := ⟨found, fungible.rooted.tokens id row found, live⟩
  have given := serves.given
  have done := serves.done
  have still (same : view.merged.erc20 id = (View.mk ledger {}).merged.erc20 id) :
      view.merged.erc20 id = ledger.erc20 id := by
    rw [same, View.fresh_merged]
  obtain ⟨function, values⟩ := request
  cases function with
  | transfer => exact payment_served call ledger id operation output view fungible _ _ serves
  | transferFrom => exact withdrawal_served call ledger id operation output view fungible _ _ _ serves
  | approve => exact grant_served call ledger id operation output view fungible _ _ serves
  | balanceOf => exact balance_served call ledger id operation output view row found _ serves
  | allowance => exact allowance_served call ledger id operation output view row found _ _ serves
  | totalSupply => exact supply_served call ledger id operation output view row found serves
  | setApprovalForAll => exact (operators_refused call ledger id operation output view fungible _ _ serves).elim
  | associate =>
      cases given
      exact erc20.idle_served call ledger id _ output _ rfl (still (associated_erc20 _ (Deeds.of_single _ _ _ done)))
  | dissociate =>
      cases given
      exact erc20.idle_served call ledger id _ output _ rfl
        (still (dissociated_erc20 _ row existing (Deeds.of_single _ _ _ done)))
  | name | symbol | decimals | isApprovedForAll =>
      cases given
      cases served_question call ledger id _ _ output view serves _ rfl
      exact erc20.idle_served call ledger id _ output _ rfl (still rfl)
  | ownerOf | tokenUri | getApproved =>
      obtain ⟨_, _, given⟩ := (except_bind_ok _ _ _).mp given
      cases given
      cases served_question call ledger id _ _ output view serves _ rfl
      exact erc20.idle_served call ledger id _ output _ rfl (still rfl)

end Steps

theorem fungible_served (id : TokenId) (call : Call) (ledger : Ledger) (request : FacadeRequest)
    (operation : Operation) (output : Bytes) (view : View)
    (serves : call.Serves ledger id request operation output view) (fungible : ledger.Fungible id) :
    erc20.Served call ledger id request output (call.after ledger) ∧ (call.after ledger).Fungible id := by
  have served := served_erc20 call ledger id operation output view fungible request serves
  rw [← serves.after] at served
  obtain ⟨row, found, type, live⟩ := fungible.token
  exact ⟨served, served_rooted call ledger id _ _ _ _ serves fungible.rooted,
    ⟨row, (served_token call ledger id _ _ _ _ serves id).trans found, type, live⟩,
    Erc20.Event.does_sound _ _ _ served.does fungible.sound⟩

/-- Calls to a fungible token through its facade are events of the standard, by whomever they are made. At each of
them the token is again one that lives, with balances and allowances that are not negative. What a spender other than
the owner takes out of the owner's balance while the owner does not approve it again is within the allowance. -/
theorem fungible_facade_refines_erc20 (id : TokenId) (calls : List Call)
    (redirected : ∀ call ∈ calls, call.Redirects id) (ledger : Ledger) (fungible : ledger.Fungible id) :
    (∀ entry ∈ calls.zip (history calls ledger), entry.2.Fungible id ∧ erc20.Met entry.1 entry.2 id) ∧
      ∀ owner spender, spender ≠ owner →
        (∀ amount, Erc20.Event.approve owner spender amount ∉ events erc20.event calls ledger) →
        Erc20.withdrawn owner spender (events erc20.event calls ledger) ≤
          (ledger.erc20 id).allowance owner spender := by
  obtain ⟨met, kept, run⟩ := erc20.calls_meet id (fun later => later.Fungible id) (fun _ held => held.rooted)
    (fungible_served id) calls redirected ledger fungible
  refine ⟨met, fun owner spender apart quiet => ?_⟩
  have spent : ((afterAll calls ledger).erc20 id).allowance owner spender +
      Erc20.withdrawn owner spender (events erc20.event calls ledger) = (ledger.erc20 id).allowance owner spender :=
    Erc20.run_withdraws owner spender apart _ _ _ run fun event member amount same => quiet amount (same ▸ member)
  have floor := kept.sound.allowance owner spender
  omega

namespace Sample

def lending : Ledger :=
  { ledger with
    accounts := .ofList
      [(holder, { id := holder, key := some key, tokenAllowances := .ofList [(⟨coin, friend⟩, 30)] }),
        (friend, { id := friend })] }

def taking : Call := byFriend (facade coin .transferFrom (holder.toAddress, friend.toAddress, 20#256, ()))

theorem lending_fungible : lending.Fungible coin :=
  fungible_of_rows lending coin (rooted_of_rows lending (by decide) (by decide) (by decide))
    ⟨_, rfl, by decide, by decide⟩ (by decide) (by decide)

theorem taking_redirects : taking.Redirects coin :=
  Call.redirects_of_unwrapped taking coin
    ⟨coin.toAddress, FacadeFunction.transferFrom.selector.toBytes ++
      Abi.encode FacadeFunction.transferFrom.params (holder.toAddress, friend.toAddress, 20#256, ()), true⟩
    (by decide +kernel) (by decide +kernel) (by decide +kernel)

end Sample

theorem taking_within_allowance :
    ((Sample.taking.after Sample.lending).erc20 Sample.coin).allowance Sample.holder Sample.friend = 10 ∧
      Erc20.withdrawn Sample.holder Sample.friend (events erc20.event [Sample.taking] Sample.lending) ≤
        (Sample.lending.erc20 Sample.coin).allowance Sample.holder Sample.friend := by
  have event : erc20.event Sample.taking Sample.lending =
      .transferFrom Sample.friend Sample.holder Sample.friend 20 := by
    decide +kernel
  obtain ⟨steps, bound⟩ := fungible_facade_refines_erc20 Sample.coin [Sample.taking]
    (List.forall_mem_singleton.mpr Sample.taking_redirects) Sample.lending Sample.lending_fungible
  obtain ⟨_, refines⟩ := steps (Sample.taking, Sample.lending) List.mem_cons_self
  refine ⟨?_, bound _ _ (by decide) fun amount approved => ?_⟩
  · have lent : (Sample.lending.erc20 Sample.coin).allowance Sample.holder Sample.friend = 30 := by decide
    have does : (erc20.event Sample.taking Sample.lending).Does (Sample.lending.erc20 Sample.coin)
        ((Sample.taking.after Sample.lending).erc20 Sample.coin) :=
      refines.does
    rw [event] at does
    generalize (Sample.taking.after Sample.lending).erc20 Sample.coin = last at does
    cases does with
    | transferFrom apart covered allowed =>
        simp only [Erc20.State.allowing, lent]
        rfl
  · rw [events, event] at approved
    cases List.mem_singleton.mp approved

namespace Sample

def indebted : Ledger :=
  { ledger with tokens := .ofList [(coin, { id := coin, treasury := holder, totalSupply := -5 })] }

def counting : Call := facade coin .totalSupply ()

theorem indebted_fungible : indebted.Fungible coin :=
  fungible_of_rows indebted coin (rooted_of_rows indebted (by decide) (by decide) (by decide))
    ⟨_, rfl, by decide, by decide⟩ (by decide) (by decide)

theorem counting_redirects : counting.Redirects coin :=
  Call.redirects_of_unwrapped counting coin ⟨coin.toAddress, FacadeFunction.totalSupply.selector.toBytes, true⟩
    (by decide +kernel) (by decide +kernel) (by decide +kernel)

end Sample

theorem negative_supply_answered_with_zero :
    ¬ ∀ (id : TokenId) (call : Call) (ledger : Ledger) (settlement : Settlement), call.Redirects id →
      ledger.Fungible id → erc20.event call ledger = .totalSupply → (call.settled ledger).result = .ok settlement →
      settlement.output = some (Abi.encode [.uint256] (BitVec.ofInt 256 (ledger.erc20 id).supply, ())) := by
  intro answers
  have asked : erc20.event Sample.counting Sample.indebted = .totalSupply := by decide +kernel
  have told : (match (Sample.counting.settled Sample.indebted).result with
      | .ok settlement => settlement.output == some (uint256 0)
      | .error _ => false) = true := by
    decide +kernel
  cases result : (Sample.counting.settled Sample.indebted).result with
  | error fault =>
      rw [result] at told
      cases told
  | ok settlement =>
      rw [result] at told
      have expected := answers Sample.coin Sample.counting Sample.indebted settlement Sample.counting_redirects
        Sample.indebted_fungible asked result
      rw [beq_iff_eq.mp told] at expected
      exact absurd expected (by decide +kernel)

end TokenService
