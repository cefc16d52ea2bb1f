import TokenService.Proofs.Ledger.Freezes
import TokenService.Proofs.Settlement.Runs

set_option autoImplicit false

namespace TokenService

namespace Call

variable (call : Call) (ledger : Ledger) (account : AccountId) (id : TokenId)

def Associates : Prop := ∃ tokens, call.Performs ledger (.associate ⟨account, tokens⟩) ∧ id ∈ tokens

def Dissociates : Prop := ∃ tokens, call.Performs ledger (.dissociate ⟨account, tokens⟩) ∧ id ∈ tokens

end Call

structure Ledger.Knows (ledger : Ledger) (id : TokenId) : Prop where
  rooted : ledger.Rooted
  numbered : ledger.Numbered ledger.nextEntity.toNat
  live : ∃ token, ledger.tokens.get? id = some token ∧ token.deleted = false

section Calls

variable (account : AccountId) (id : TokenId) (call : Call) (ledger : Ledger)

theorem carried_knows (body : Body) (view : View) (carries : call.Carries ledger body view) (knows : ledger.Knows id) :
    view.merged.Knows id := by
  have start : (View.mk ledger {}).merged.Rooted ∧ (View.mk ledger {}).merged.Numbered (View.mk ledger {}).limit ∧
      ∃ token, (View.mk ledger {}).merged.tokens.get? id = some token ∧ token.deleted = false := by
    rw [View.fresh_merged]
    exact ⟨knows.rooted, knows.numbered, knows.live⟩
  have kept := Deeds.keeps
    (fun view => view.merged.Rooted ∧ view.merged.Numbered view.limit ∧
      ∃ token, view.merged.tokens.get? id = some token ∧ token.deleted = false) body.deeds _ _
    (fun deed _ first next does kept => ?_) carries.done start
  · refine ⟨kept.1, ?_, kept.2.2⟩
    rw [carries.counted]
    exact kept.2.1
  · obtain ⟨rooted, numbered, token, found, live⟩ := kept
    obtain ⟨heir, present, _, deleted, _⟩ := (deed_precedes _ _ deed first next numbered does).kept id token found
    exact ⟨deed_rooted _ _ deed first next does rooted, deed_numbered _ _ deed first next does numbered, heir, present,
      deleted.trans live⟩

theorem after_knows (knows : ledger.Knows id) : (call.after ledger).Knows id := by
  rcases call.after_cases ledger knows.rooted with same | ⟨body, view, carries, after⟩
  · rw [same]
    exact knows
  · rw [after]
    exact carried_knows id call ledger body view carries knows

theorem after_freeze (knows : ledger.Knows id) :
    (call.after ledger).freeze account id = ledger.freeze account id ∨
      (call.Dissociates ledger account id ∧ ledger.units account id = 0 ∧
        (call.after ledger).freeze account id = none) ∨
      (call.Associates ledger account id ∧ ledger.freeze account id = none ∧
        (call.after ledger).freeze account id = some (ledger.freezesNewcomers id)) := by
  rcases call.after_performed ledger knows.rooted with same | ⟨body, view, performs, carries, after⟩
  · exact .inl (by rw [same])
  obtain ⟨token, found, live⟩ := knows.live
  have existing : (View.mk ledger {}).Exists id token := ⟨found, knows.rooted.tokens id token found, live⟩
  have cases := body_freeze _ _ _ view account id body carries.done
    (by rw [View.fresh_merged]; exact knows.numbered) token existing
  rw [View.fresh_merged, ← after] at cases
  rcases cases with same | ⟨tokens, rfl, member, spent, gone⟩ | ⟨tokens, rfl, member, absent, made⟩
  · exact .inl same
  · exact .inr (.inl ⟨⟨tokens, performs, member⟩, spent, gone⟩)
  · exact .inr (.inr ⟨⟨tokens, performs, member⟩, absent, made⟩)

theorem after_freezes_newcomers (knows : ledger.Knows id) (freezes : ledger.freezesNewcomers id = true) :
    (call.after ledger).freezesNewcomers id = true := by
  rcases call.after_cases ledger knows.rooted with same | ⟨body, view, carries, after⟩
  · rw [same]
    exact freezes
  · rw [after]
    exact body_freezes_newcomers _ _ _ view id body carries.done (by rw [View.fresh_merged]; exact knows.numbered)
      (by rw [View.fresh_merged]; exact freezes)

theorem transfer_spares_barred (rooted : ledger.Rooted) (hbar : List Adjustment) (moves : List TokenMoves)
    (recorded : call.recorded ledger = some (.transfer hbar moves))
    (barred : ledger.freeze account id ≠ some false) : ledger.Undisturbed (call.after ledger) account id := by
  rcases call.after_performed ledger rooted with same | ⟨body, view, performs, carries, after⟩
  · rw [same]
    exact ⟨rfl, fun _ _ _ => Iff.rfl⟩
  · have about := performs.recorded.symm.trans recorded
    cases about
    rw [after]
    have spared := transfer_undisturbed _ _ _ view account id hbar moves carries.done
      (by rw [View.fresh_merged]; exact barred)
    rw [View.fresh_merged] at spared
    exact spared

end Calls

section Runs

variable (account : AccountId) (id : TokenId) (calls : List Call)

-- From a frozen relationship the only way to one that is not is to leave it and to make another;
-- from none it is to make one. Both follow from the first call and the rest of the run.
theorem thawed_by_leaving (ledger : Ledger) (knows : ledger.Knows id) :
    (ledger.freeze account id = none → (afterAll calls ledger).freeze account id = some false →
      ∃ join ∈ calls.zip (history calls ledger), join.1.Associates join.2 account id ∧
        join.2.freezesNewcomers id = false) ∧
      (ledger.freeze account id = some true → (afterAll calls ledger).freeze account id = some false →
        ∃ leave join, [leave, join].Sublist (calls.zip (history calls ledger)) ∧
          (leave.1.Dissociates leave.2 account id ∧ leave.2.units account id = 0) ∧
          join.1.Associates join.2 account id ∧ join.2.freezesNewcomers id = false) := by
  induction calls generalizing ledger with
  | nil =>
      refine ⟨fun absent thawed => ?_, fun frozen thawed => ?_⟩
      · cases absent.symm.trans thawed
      · cases frozen.symm.trans thawed
  | cons call rest ih =>
      obtain ⟨fromNone, fromFrozen⟩ := ih (call.after ledger) (after_knows id call ledger knows)
      have step := after_freeze account id call ledger knows
      -- What the rest of the run finds lies in the whole run too.
      have onward (leave join : Call × Ledger)
          (along : [leave, join].Sublist (rest.zip (history rest (call.after ledger)))) :
          [leave, join].Sublist ((call :: rest).zip (history (call :: rest) ledger)) :=
        List.Sublist.cons _ along
      refine ⟨fun absent thawed => ?_, fun frozen thawed => ?_⟩
      · rcases step with same | ⟨_, _, gone⟩ | ⟨joins, _, made⟩
        · obtain ⟨join, member, joined⟩ := fromNone (same.trans absent) thawed
          exact ⟨join, List.mem_cons_of_mem _ member, joined⟩
        · obtain ⟨join, member, joined⟩ := fromNone gone thawed
          exact ⟨join, List.mem_cons_of_mem _ member, joined⟩
        · cases freezes : ledger.freezesNewcomers id with
          | false => exact ⟨(call, ledger), List.mem_cons_self, joins, freezes⟩
          | true =>
              rw [freezes] at made
              obtain ⟨leave, join, along, _, joined⟩ := fromFrozen made thawed
              exact ⟨join, (onward leave join along).subset (List.mem_cons_of_mem _ List.mem_cons_self), joined⟩
      · rcases step with same | ⟨leaves, spent, gone⟩ | ⟨_, absent, _⟩
        · obtain ⟨leave, join, along, left⟩ := fromFrozen (same.trans frozen) thawed
          exact ⟨leave, join, onward leave join along, left⟩
        · obtain ⟨join, member, joined⟩ := fromNone gone thawed
          exact ⟨(call, ledger), join, List.Sublist.cons_cons _ (List.singleton_sublist.mpr member), ⟨leaves, spent⟩,
            joined⟩
        · cases frozen.symm.trans absent

end Runs

/-- No run of calls thaws a frozen relationship, unless in the run the account leaves the token when it has none of it
and later joins it again while the token does not freeze newcomers; a token that freezes newcomers at the start does so
throughout. And whenever the account has no relationship but a frozen one, a transfer leaves what it has of the
token. -/
theorem freeze_holds_until_left (ledger : Ledger) (rooted : ledger.Rooted)
    (numbered : ledger.Numbered ledger.nextEntity.toNat) (account : AccountId) (id : TokenId) (token : Token)
    (found : ledger.tokens.get? id = some token) (live : token.deleted = false)
    (frozen : ledger.freeze account id = some true) (calls : List Call) :
    ((afterAll calls ledger).freeze account id = some false →
      ∃ leave join, [leave, join].Sublist (calls.zip (history calls ledger)) ∧
        (leave.1.Dissociates leave.2 account id ∧ leave.2.units account id = 0) ∧
        join.1.Associates join.2 account id ∧ join.2.freezesNewcomers id = false) ∧
      (ledger.freezesNewcomers id = true → (afterAll calls ledger).freeze account id ≠ some false) ∧
      ∀ moment ∈ calls.zip (history calls ledger), moment.2.freeze account id ≠ some false →
        ∀ hbar moves, moment.1.recorded moment.2 = some (.transfer hbar moves) →
          moment.2.Undisturbed (moment.1.after moment.2) account id := by
  have knows : ledger.Knows id := ⟨rooted, numbered, token, found, live⟩
  have thawed := (thawed_by_leaving account id calls ledger knows).2 frozen
  refine ⟨thawed, fun freezes later => ?_, fun moment member barred hbar moves recorded => ?_⟩
  · obtain ⟨leave, join, along, _, _, open_⟩ := thawed later
    have always := each_call (fun ledger => ledger.Knows id ∧ ledger.freezesNewcomers id = true) calls
      (fun _ _ => True) (fun call _ ledger kept => ⟨trivial, after_knows id call ledger kept.1,
        after_freezes_newcomers id call ledger kept.1 kept.2⟩) ledger ⟨knows, freezes⟩ join
      (along.subset (List.mem_cons_of_mem _ List.mem_cons_self))
    rw [always.1.2] at open_
    cases open_
  · have here := (each_call (fun ledger => ledger.Knows id) calls (fun _ _ => True)
      (fun call _ ledger kept => ⟨trivial, after_knows id call ledger kept⟩) ledger knows moment member).1
    exact transfer_spares_barred account id moment.1 moment.2 here.rooted hbar moves recorded barred

namespace Sample

def frosted : Ledger :=
  { ledger with
    tokens := .ofList [(coin, { id := coin, treasury := holder, totalSupply := 70, keys := { freeze := some key } })]
    relationships := .ofList
      [(⟨holder, coin⟩, { balance := 70, kycGranted := true }), (⟨friend, coin⟩, { frozen := true, kycGranted := true })]
    nfts := .ofList [] }

def leaving : Call :=
  byFriend (call (ServiceFunction.dissociateToken.selector.toBytes ++
    Abi.encode ServiceFunction.dissociateToken.params (friend.toAddress, coin.toAddress, ())))

def joining : Call :=
  byFriend (call (ServiceFunction.associateToken.selector.toBytes ++
    Abi.encode ServiceFunction.associateToken.params (friend.toAddress, coin.toAddress, ())))

theorem frosted_rooted : frosted.Rooted := rooted_of_rows frosted (by decide) (by decide) (by decide)

theorem frosted_numbered : frosted.Numbered frosted.nextEntity.toNat :=
  numbered_of_rows frosted _ (by decide) (by decide) (by decide)

theorem frosted_peopled : frosted.Peopled frosted.nextEntity.toNat :=
  peopled_of_rows frosted _ (by decide) (by decide)

end Sample

theorem frozen_friend_left_first :
    Sample.frosted.Undisturbed ((Sample.call (Sample.payment 25)).after Sample.frosted) Sample.friend Sample.coin ∧
      ∃ leave join, [leave, join].Sublist ([Sample.leaving, Sample.joining].zip
          (history [Sample.leaving, Sample.joining] Sample.frosted)) ∧
        (leave.1.Dissociates leave.2 Sample.friend Sample.coin ∧ leave.2.units Sample.friend Sample.coin = 0) ∧
        join.1.Associates join.2 Sample.friend Sample.coin ∧ join.2.freezesNewcomers Sample.coin = false := by
  have frozen : Sample.frosted.freeze Sample.friend Sample.coin = some true := by decide
  have paid : (Sample.call (Sample.payment 25)).recorded Sample.frosted = some (.transfer []
      [⟨Sample.coin, [⟨Sample.holder, -25, false⟩, ⟨Sample.friend, 25, false⟩], []⟩]) := by
    decide +kernel
  have thawed : (afterAll [Sample.leaving, Sample.joining] Sample.frosted).freeze Sample.friend Sample.coin =
      some false := by
    decide +kernel
  have coin : (Sample.frosted.tokens.get? Sample.coin).map (·.deleted) = some false := by decide
  obtain ⟨token, found, live⟩ := Option.map_eq_some_iff.mp coin
  obtain ⟨_, _, still⟩ := freeze_holds_until_left Sample.frosted Sample.frosted_rooted Sample.frosted_numbered
    Sample.friend Sample.coin token found live frozen [Sample.call (Sample.payment 25)]
  obtain ⟨left, _, _⟩ := freeze_holds_until_left Sample.frosted Sample.frosted_rooted Sample.frosted_numbered
    Sample.friend Sample.coin token found live frozen [Sample.leaving, Sample.joining]
  refine ⟨still _ List.mem_cons_self ?_ _ _ paid, left thawed⟩
  rw [frozen]
  exact fun same => nomatch same

theorem frozen_friend_comes_back :
    ¬ ∀ (ledger : Ledger) (account : AccountId) (id : TokenId) (token : Token) (calls : List Call), ledger.Rooted →
      ledger.Numbered ledger.nextEntity.toNat → ledger.Peopled ledger.nextEntity.toNat →
      ledger.tokens.get? id = some token → token.deleted = false → ledger.freeze account id = some true →
      (afterAll calls ledger).freeze account id ≠ some false := by
  intro always
  have coin : (Sample.frosted.tokens.get? Sample.coin).map (·.deleted) = some false := by decide
  obtain ⟨token, found, live⟩ := Option.map_eq_some_iff.mp coin
  exact always Sample.frosted Sample.friend Sample.coin token [Sample.leaving, Sample.joining] Sample.frosted_rooted
    Sample.frosted_numbered Sample.frosted_peopled found live (by decide) (by decide +kernel)

end TokenService
