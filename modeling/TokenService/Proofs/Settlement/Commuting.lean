import TokenService.Proofs.Consent
import TokenService.Proofs.Ledger.Footprint
import TokenService.Proofs.Settlement.Runs

set_option autoImplicit false

namespace TokenService

-- The store's answer depends on the rows that changes are about, and on what transfers leave alone.
def Store.JudgesRows (store : Store) : Prop :=
  ∀ left right changes, Changes.SameRows changes left right → store.refuses left changes = store.refuses right changes

def Body.Among (names : AccountId → Prop) (body : Body) : Prop :=
  ∃ hbar tokens, body = .transfer hbar tokens ∧ ∀ account ∈ parties hbar tokens, names account

abbrev Call.service (call : Call) : Service := .native call.config call.market call.prices

def Call.body? (call : Call) (ledger : Ledger) : Option Body :=
  (call.service.prepare (call.host ledger) call.frame call.input).toOption.map fun prepared => prepared.transaction.body

section Consents

variable (hbar : List Adjustment) (tokens : List TokenMoves)

theorem distinct_mem (account : AccountId) (accounts : List AccountId)
    (member : account ∈ TokenService.distinct accounts) : account ∈ accounts := by
  induction accounts with
  | nil => cases member
  | cons first rest ih =>
      rcases List.mem_cons.mp member with rfl | later
      · exact List.mem_cons_self
      · exact List.mem_cons_of_mem _ (ih (List.mem_filter.mp later).1)

theorem debited_parties (account : AccountId) (lost : account ∈ debited hbar tokens) :
    account ∈ parties hbar tokens := by
  rcases List.mem_append.mp (distinct_mem _ _ lost) with debit | moved
  · obtain ⟨entry, kept, rfl⟩ := List.mem_map.mp debit
    rcases List.mem_append.mp (List.mem_filter.mp kept).1 with own | unit
    · exact List.mem_append_left _ (List.mem_map_of_mem own)
    · obtain ⟨moves, listed, member⟩ := List.mem_flatMap.mp unit
      exact List.mem_append_right _ (List.mem_flatMap.mpr
        ⟨moves, listed, List.mem_append_left _ (List.mem_map_of_mem member)⟩)
  · obtain ⟨move, kept, rfl⟩ := List.mem_map.mp moved
    obtain ⟨moves, listed, member⟩ := List.mem_flatMap.mp (List.mem_filter.mp kept).1
    exact List.mem_append_right _ (List.mem_flatMap.mpr
      ⟨moves, listed, List.mem_append_right _ (List.mem_flatMap.mpr ⟨move, member, List.mem_cons_self⟩)⟩)

end Consents

section Bodies

variable {names : AccountId → Prop} {body : Body} (among : body.Among names)
include among

theorem check_near (authority : Authority) (sender : AccountId) (ledger other : Ledger)
    (near : ledger.Near names other) :
    authority.check (some { ledger := other }) body sender =
      authority.check (some { ledger := ledger }) body sender := by
  obtain ⟨hbar, tokens, rfl, named⟩ := among
  have asked (account : AccountId) (member : account ∈ debited hbar tokens) :
      authority.checkOne (some { ledger := other }) (.ofAccount account) =
        authority.checkOne (some { ledger := ledger }) (.ofAccount account) := by
    rw [Requirement.ofAccount, Authority.checkOne, Authority.checkOne, Authority.authorize, Authority.authorize]
    simp only [View.fresh_account, near.accounts account (named account (debited_parties hbar tokens account member))]
  rw [Authority.check, Authority.check, Body.requirements]
  generalize debited hbar tokens = accounts at asked
  induction accounts with
  | nil => rfl
  | cons account rest ih =>
      have others := ih fun later member => asked later (List.mem_cons_of_mem _ member)
      rw [List.forM_eq_forM] at others ⊢
      rw [List.map_cons, List.forM_cons, List.forM_cons, asked account List.mem_cons_self, others]

theorem execute_near_alike (sender : AccountId) (now : Timestamp) (ledger other : Ledger)
    (near : ledger.Near names other) : (Work.execute body sender now).Alike (View.Paired names ledger other) := by
  obtain ⟨hbar, tokens, rfl, named⟩ := among
  exact Work.alike_bind _ _ _ (Work.transfer_near_alike near hbar tokens sender named) fun _ => Work.alike_pure _ _

end Bodies

section Operations

variable {names : AccountId → Prop} (operation : Operation) (caller : Caller)
  (among : (operation.body caller).Among names)
include among

theorem transfer_body_caller (other : Caller) (same : other.sender = caller.sender) :
    operation.body other = operation.body caller := by
  obtain ⟨hbar, tokens, stands, _⟩ := among
  cases operation with
  | transfer entry own moves => rfl
  | transferAsset token source receiver asset => simp only [Operation.body, assetMoves, same]
  | approve token spender asset =>
      cases asset with
      | amount units => cases stands
      | serial serial =>
          simp only [Operation.body, nftApproval] at stands
          split at stands <;> cases stands
  | query question => rfl
  | _ => cases stands

theorem transfer_not_query (question : Query) : operation ≠ .query question := by
  rintro rfl
  obtain ⟨hbar, tokens, stands, _⟩ := among
  simp only [Operation.body] at stands
  split at stands <;> cases stands

end Operations

namespace Call

variable (call : Call) (names : AccountId → Prop) (ledger other : Ledger)

theorem body_some (body : Body) (stands : call.body? ledger = some body) : ∃ resolved,
    call.service.guard (call.host ledger) call.frame call.input = .ok ledger ∧
    dispatch (call.service.setting (call.host ledger) call.frame { ledger := ledger }) call.input =
      .ok (some resolved) ∧
    (call.service.ready (call.host ledger) call.frame ledger resolved).transaction.body = body := by
  unfold Call.body? at stands
  cases ready : call.service.prepare (call.host ledger) call.frame call.input with
  | error stop =>
      rw [ready] at stands
      cases stands
  | ok prepared =>
      rw [ready] at stands
      cases stands
      obtain ⟨lent, resolved, unguarded, dispatched, rfl⟩ := (Service.prepare_ok _ _ _ _ _).mp ready
      cases call.lends_own ledger lent (guard_lent _ _ _ _ _ unguarded)
      exact ⟨resolved, unguarded, dispatched, rfl⟩

variable (near : ledger.Near names other)
include near

theorem guard_near
    (unguarded : call.service.guard (call.host ledger) call.frame call.input = .ok ledger) :
    call.service.guard (call.host other) call.frame call.input = .ok other := by
  have permits : call.service.permitsDelegate (call.host other) call.frame =
      call.service.permitsDelegate (call.host ledger) call.frame := by
    unfold Service.permitsDelegate Call.host
    cases call.lends with
    | false => rfl
    | true => simp only [if_true, Option.any_some, near.tokens]
  have lent : call.lends = true := by
    have lent := guard_lent _ _ _ _ _ unguarded
    cases lends : call.lends with
    | true => rfl
    | false =>
        rw [Call.host, lends] at lent
        cases lent
  unfold Service.guard at unguarded ⊢
  rw [permits]
  split at unguarded
  · cases unguarded
  · split at unguarded
    · cases unguarded
    · split at unguarded
      · cases unguarded
      · split at unguarded
        · rename_i unpaid viewing direct _ _ _ found kept
          rw [if_neg unpaid, if_neg viewing, if_neg direct]
          simp only [Call.host] at kept ⊢
          rw [kept, lent]
          rfl
        · cases unguarded

theorem setting_near (service : Service) :
    service.setting (call.host other) call.frame { ledger := other } =
      service.setting (call.host ledger) call.frame { ledger := ledger } := by
  have types : (View.mk other {}).tokenType = (View.mk ledger {}).tokenType := by
    funext id
    rw [View.tokenType, View.tokenType, View.fresh_token, View.fresh_token, near.tokens]
  rw [Service.setting, Service.setting, types]
  rfl

end Call

def Prepared.on (prepared : Prepared) (ledger : Ledger) : Prepared := { prepared with view := { ledger := ledger } }

namespace Service

-- Two performances that end alike: with one fault, one refusal, or one output and views with the same changes.
inductive SameEnd (names : AccountId → Prop) (ledger other : Ledger) :
    Except SettlementFault (Except Refusal (Bytes × View)) →
      Except SettlementFault (Except Refusal (Bytes × View)) → Prop
  | fault (fault : SettlementFault) : SameEnd names ledger other (.error fault) (.error fault)
  | refused (refusal : Refusal) : SameEnd names ledger other (.ok (.error refusal)) (.ok (.error refusal))
  | done (output : Bytes) (left right : View) (paired : View.Paired names ledger other left right) :
      SameEnd names ledger other (.ok (.ok (output, left))) (.ok (.ok (output, right)))

section Near

variable {service : Service} (native : service.rules = Work.execute) (frame : Frame) {prepared : Prepared}
  {names : AccountId → Prop} {ledger other : Ledger} (near : ledger.Near names other) (rooted : ledger.Rooted)
  (among : prepared.transaction.body.Among names) (change : ∀ question, prepared.call.operation ≠ .query question)
include native near rooted among change

theorem evaluate_near :
    (∃ failure, service.evaluate frame (prepared.on ledger) = .error failure ∧
      service.evaluate frame (prepared.on other) = .error failure) ∨
    ∃ output left right, service.evaluate frame (prepared.on ledger) = .ok (output, left) ∧
      service.evaluate frame (prepared.on other) = .ok (output, right) ∧ View.Paired names ledger other left right := by
  obtain ⟨same, paired⟩ := execute_near_alike among prepared.sender frame.consensusTime ledger other near _ _
    (View.paired_fresh rooted)
  have here := service.evaluate_change frame (prepared.on ledger) change
  have there := service.evaluate_change frame (prepared.on other) change
  rw [native] at here there
  simp only [Prepared.on] at here there
  revert same paired here there
  rcases Work.execute prepared.transaction.body prepared.sender frame.consensusTime { ledger := ledger } with
    ⟨result, left⟩
  rcases Work.execute prepared.transaction.body prepared.sender frame.consensusTime { ledger := other } with
    ⟨again, right⟩
  rintro rfl paired here there
  cases result with
  | error failure => exact .inl ⟨failure, here, there⟩
  | ok execution => exact .inr ⟨_, left, right, here, there, paired⟩

variable {host far : Host} (alike : authority far frame = authority host frame)
include alike

theorem perform_near : SameEnd names ledger other (service.perform host frame (prepared.on ledger))
    (service.perform far frame (prepared.on other)) := by
  have consent : (authority far frame).check (some (prepared.on other).view) (prepared.on other).transaction.body
      (prepared.on other).sender = (authority host frame).check (some (prepared.on ledger).view)
        (prepared.on ledger).transaction.body (prepared.on ledger).sender := by
    rw [alike]
    exact check_near among _ _ ledger other near
  have form : (prepared.on other).transaction.body.check service.config =
      (prepared.on ledger).transaction.body.check service.config := rfl
  unfold perform
  rw [consent, form]
  cases (authority host frame).check (some (prepared.on ledger).view) (prepared.on ledger).transaction.body
      (prepared.on ledger).sender with
  | error status => exact .refused _
  | ok _ =>
      cases (prepared.on ledger).transaction.body.check service.config with
      | error status => exact .refused _
      | ok _ =>
          rcases evaluate_near native frame near rooted among change with
            ⟨failure, here, there⟩ | ⟨output, left, right, here, there, paired⟩
          · rw [here, there]
            cases failure with
            | status status => exact .refused _
            | other reason => exact .refused _
            | resourceLimit reason => exact .fault _
            | overflow overflow => exact .fault _
          · rw [here, there]
            exact .done output left right paired

variable (judges : ∀ changes, Changes.SameRows changes ledger other → host.refuses changes = far.refuses changes)
include judges

theorem settle_near :
    service.settle far frame (prepared.on other) = service.settle host frame (prepared.on ledger) ∧
      ∀ changes, (service.settle host frame (prepared.on ledger)).applied = some changes →
        changes.Within names ledger := by
  have untouched (changes : Changes) (applied : none = some changes) : changes.Within names ledger := by cases applied
  unfold settle
  have price : service.quote frame (prepared.on other) = service.quote frame (prepared.on ledger) := rfl
  rw [price]
  by_cases short : frame.remainingGas < (service.quote frame (prepared.on ledger)).gas
  · simp only [if_pos short]
    exact ⟨rfl, untouched⟩
  · simp only [if_neg short]
    have ends := perform_near native frame near rooted among change alike
    revert ends
    generalize service.perform host frame (prepared.on ledger) = outcome
    generalize service.perform far frame (prepared.on other) = again
    intro ends
    cases ends with
    | fault fault => exact ⟨rfl, untouched⟩
    | refused refusal => exact ⟨rfl, untouched⟩
    | done output left right paired =>
        have same := paired.within.same_rows near
        have committed : right.commit far.refuses = left.commit host.refuses := by
          rw [View.commit, View.commit, ← paired.changes, paired.here, paired.there, judges _ same,
            Changes.effects_same same]
        simp only [committed, ← paired.changes]
        cases left.commit host.refuses with
        | error fault => cases fault <;> exact ⟨rfl, untouched⟩
        | ok effects =>
            refine ⟨rfl, fun changes applied => ?_⟩
            cases applied
            exact paired.within

end Near

end Service

namespace Call

def Transfers (call : Call) (names : AccountId → Prop) (ledger : Ledger) : Prop :=
  ∃ body, call.body? ledger = some body ∧ body.Among names

theorem ready_near (call : Call) (names : AccountId → Prop) (ledger other : Ledger) (resolved : ResolvedCall)
    (among : (call.service.ready (call.host ledger) call.frame ledger resolved).transaction.body.Among names) :
    call.service.ready (call.host other) call.frame other resolved =
      (call.service.ready (call.host ledger) call.frame ledger resolved).on other := by
  simp only [Service.ready, Prepared.on, Operation.transaction] at among ⊢
  rw [transfer_body_caller resolved.operation _ among _ ?_]
  · rfl
  · rfl

section Transfers

variable (call : Call) {names others : AccountId → Prop} {ledger other : Ledger} (rooted : ledger.Rooted)
  (judges : call.store.JudgesRows) (transfers : call.Transfers names ledger)
include rooted judges transfers

theorem settled_near (near : ledger.Near names other) :
    call.settled other = call.settled ledger ∧
      ∀ changes, (call.settled ledger).applied = some changes → changes.Within names ledger := by
  obtain ⟨body, stands, among⟩ := transfers
  obtain ⟨resolved, unguarded, dispatched, rfl⟩ := call.body_some ledger body stands
  have again := call.guard_near names ledger other near unguarded
  have setting := call.setting_near names ledger other near call.service
  have here := (Service.prepare_ok _ _ _ _ _).mpr ⟨ledger, resolved, unguarded, dispatched, rfl⟩
  have there := (Service.prepare_ok _ _ _ _ _).mpr ⟨other, resolved, again, setting ▸ dispatched, rfl⟩
  rw [ready_near call names ledger other resolved among] at there
  rw [settled, settled, Service.compute, Service.compute, here, there]
  exact Service.settle_near rfl call.frame near rooted among (transfer_not_query _ _ among) rfl (judges ledger other)

theorem after_near (apart : ∀ id, names id → ¬ others id) : ledger.Near others (call.after ledger) := by
  obtain ⟨_, within⟩ := call.settled_near rooted judges transfers (.refl names ledger)
  rw [after, Settled.ledgerAfter]
  cases applied : (call.settled ledger).applied with
  | none => exact .refl others ledger
  | some changes => exact (within changes applied).near apart

end Transfers

end Call

/-- Let two calls stand for transfers that name no account in common, on a ledger with every row under its own number
and stores that judge changes by the rows they are about. Then each call has the same result and record whether it comes
first or second, however it ends, and both orders leave the same ledger. -/
theorem disjoint_transfers_commute (first second : Call) (ledger : Ledger) (rooted : ledger.Rooted)
    (judges : first.store.JudgesRows) (judgesAlso : second.store.JudgesRows) (hbar otherHbar : List Adjustment)
    (tokens otherTokens : List TokenMoves) (stands : first.body? ledger = some (.transfer hbar tokens))
    (standsAlso : second.body? ledger = some (.transfer otherHbar otherTokens))
    (apart : ∀ account ∈ parties hbar tokens, account ∉ parties otherHbar otherTokens) :
    second.after (first.after ledger) = first.after (second.after ledger) ∧
      first.settled (second.after ledger) = first.settled ledger ∧
      second.settled (first.after ledger) = second.settled ledger := by
  have transfers : first.Transfers (· ∈ parties hbar tokens) ledger :=
    ⟨_, stands, hbar, tokens, rfl, fun _ member => member⟩
  have transfersAlso : second.Transfers (· ∈ parties otherHbar otherTokens) ledger :=
    ⟨_, standsAlso, otherHbar, otherTokens, rfl, fun _ member => member⟩
  -- Each leaves as it is what the other reads, so it comes out as it would have alone.
  have unseen := second.after_near rooted judgesAlso transfersAlso fun id named also => apart id also named
  have unseenAlso := first.after_near rooted judges transfers apart
  obtain ⟨same, within⟩ := first.settled_near rooted judges transfers unseen
  obtain ⟨sameAlso, withinAlso⟩ := second.settled_near rooted judgesAlso transfersAlso unseenAlso
  refine ⟨?_, same, sameAlso⟩
  have one : second.after (first.after ledger) = (second.settled ledger).ledgerAfter (first.after ledger) :=
    congrArg (Settled.ledgerAfter · (first.after ledger)) sameAlso
  have two : first.after (second.after ledger) = (first.settled ledger).ledgerAfter (second.after ledger) :=
    congrArg (Settled.ledgerAfter · (second.after ledger)) same
  rw [one, two, Call.after, Call.after]
  simp only [Settled.ledgerAfter]
  cases here : (first.settled ledger).applied with
  | none => rfl
  | some changes =>
      cases there : (second.settled ledger).applied with
      | none => rfl
      | some changesAlso =>
          exact Changes.apply_comm changes changesAlso (within changes here) (withinAlso changesAlso there) apart

namespace Sample

def neighbour : AccountId := .ofNum 1004

def guest : AccountId := .ofNum 1005

def crowded : Ledger :=
  { ledger with
    accounts := (ledger.accounts.insert neighbour { id := neighbour }).insert guest { id := guest }
    relationships := .ofList
      [(⟨holder, coin⟩, { balance := 70, kycGranted := true }), (⟨friend, coin⟩, { balance := 20, kycGranted := true }),
        (⟨neighbour, coin⟩, { balance := 10, kycGranted := true }), (⟨guest, coin⟩, { kycGranted := true }),
        (⟨holder, art⟩, { balance := 1, kycGranted := true }), (⟨friend, art⟩, { balance := 1, kycGranted := true }),
        (⟨neighbour, art⟩, { kycGranted := true }), (⟨guest, art⟩, { kycGranted := true })] }

def gift (source target : AccountId) (serial : Int64) : TokenMoves :=
  { token := art, nftMoves := [⟨source, target, serial, false⟩] }

def giving (source target : AccountId) (serial : Int64) : Call :=
  { call (ServiceFunction.transferNft.selector.toBytes ++
      Abi.encode ServiceFunction.transferNft.params
        (art.toAddress, source.toAddress, target.toAddress, serial, ())) with
    frame := { frame with sender := source.toAddress } }

def tipping (source target : AccountId) (amount : Int64) : Call :=
  { call (ServiceFunction.transferToken.selector.toBytes ++
      Abi.encode ServiceFunction.transferToken.params
        (coin.toAddress, source.toAddress, target.toAddress, amount, ())) with
    frame := { frame with sender := source.toAddress } }

theorem crowded_rooted : crowded.Rooted := rooted_of_rows crowded (by decide) (by decide) (by decide)

theorem store_judges_rows : store.JudgesRows := by
  intro left right changes same
  simp only [store, same.number]

end Sample

theorem neighbours_do_not_meet :
    (Sample.tipping Sample.neighbour Sample.guest 4).after
        ((Sample.giving Sample.holder Sample.friend 1).after Sample.crowded) =
      (Sample.giving Sample.holder Sample.friend 1).after
        ((Sample.tipping Sample.neighbour Sample.guest 4).after Sample.crowded) ∧
      ((Sample.tipping Sample.neighbour Sample.guest 4).settled
        ((Sample.giving Sample.holder Sample.friend 1).after Sample.crowded)).succeeds ∧
      ((Sample.giving Sample.holder Sample.friend 1).settled
        ((Sample.giving Sample.neighbour Sample.guest 1).after Sample.crowded)).succeeds ∧
      ¬ ((Sample.giving Sample.neighbour Sample.guest 1).settled
        ((Sample.giving Sample.holder Sample.friend 1).after Sample.crowded)).succeeds := by
  have gift : (Sample.giving Sample.holder Sample.friend 1).body? Sample.crowded =
      some (.transfer [] [Sample.gift Sample.holder Sample.friend 1]) := by decide +kernel
  have claim : (Sample.giving Sample.neighbour Sample.guest 1).body? Sample.crowded =
      some (.transfer [] [Sample.gift Sample.neighbour Sample.guest 1]) := by decide +kernel
  have payment : (Sample.tipping Sample.neighbour Sample.guest 4).body? Sample.crowded = some (.transfer []
      [{ token := Sample.coin, adjustments := [⟨Sample.neighbour, -4, false⟩, ⟨Sample.guest, 4, false⟩] }]) := by
    decide +kernel
  have paid : ((Sample.tipping Sample.neighbour Sample.guest 4).settled Sample.crowded).succeeds := by decide +kernel
  have given : ((Sample.giving Sample.holder Sample.friend 1).settled Sample.crowded).succeeds := by decide +kernel
  have lost : ¬ ((Sample.giving Sample.neighbour Sample.guest 1).settled Sample.crowded).succeeds := by decide +kernel
  obtain ⟨same, _, later⟩ := disjoint_transfers_commute _ _ Sample.crowded Sample.crowded_rooted
    Sample.store_judges_rows Sample.store_judges_rows _ _ _ _ gift payment (by decide)
  obtain ⟨_, winner, loser⟩ := disjoint_transfers_commute _ _ Sample.crowded Sample.crowded_rooted
    Sample.store_judges_rows Sample.store_judges_rows _ _ _ _ gift claim (by decide)
  rw [later, winner, loser]
  exact ⟨same, paid, given, lost⟩

end TokenService
