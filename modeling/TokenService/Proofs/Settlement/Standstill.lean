import TokenService.Proofs.Ledger.Standstill
import TokenService.Proofs.Settlement.Freezes

set_option autoImplicit false

namespace TokenService

namespace Call

variable (call : Call) (ledger : Ledger) (rooted : ledger.Rooted) (numbered : ledger.Numbered ledger.nextEntity.toNat)
include rooted numbered

theorem after_numbered :
    (call.after ledger).Rooted ∧ (call.after ledger).Numbered (call.after ledger).nextEntity.toNat := by
  rcases call.after_cases ledger rooted with same | ⟨body, view, carries, after⟩
  · rw [same]
    exact ⟨rooted, numbered⟩
  · have start : (View.mk ledger {}).merged.Rooted ∧ (View.mk ledger {}).merged.Numbered (View.mk ledger {}).limit := by
      rw [View.fresh_merged]
      exact ⟨rooted, numbered⟩
    have kept := Deeds.keeps (fun view => view.merged.Rooted ∧ view.merged.Numbered view.limit) _ _ _
      (fun deed _ first next does kept => ⟨deed_rooted _ _ deed first next does kept.1,
        deed_numbered _ _ deed first next does kept.2⟩) carries.done start
    rw [after, carries.counted]
    exact kept

theorem after_stands_still (id : TokenId) (token : Token) (found : ledger.tokens.get? id = some token)
    (idle : token.Idle) (asleep : ¬ call.Performs ledger (.unpause id)) :
    ledger.StandsStill (call.after ledger) id token.deleted (call.Dissociates ledger · id) := by
  rcases call.after_performed ledger rooted with same | ⟨body, view, performs, carries, after⟩
  · rw [same]
    exact .refl ledger
  · have other : body ≠ .unpause id := by
      rintro rfl
      exact asleep performs
    have still := body_stands_still _ _ id token { ledger := ledger } view found idle
      (by rw [View.fresh_merged]; exact rooted) (by rw [View.fresh_merged]; exact numbered) body other carries.done
    rw [View.fresh_merged, ← after] at still
    refine still.mono fun account => ?_
    rintro ⟨tokens, rfl, member⟩
    exact ⟨tokens, performs, member⟩

end Call

section Runs

variable (id : TokenId) (token : Token) (idle : token.Idle) (calls : List Call)

include idle in
theorem run_stands_still (ledger : Ledger) (rooted : ledger.Rooted)
    (numbered : ledger.Numbered ledger.nextEntity.toNat) (found : ledger.tokens.get? id = some token)
    (asleep : ∀ entry ∈ calls.zip (history calls ledger), ¬ entry.1.Performs entry.2 (.unpause id)) :
    ledger.StandsStill (afterAll calls ledger) id token.deleted fun account =>
      ∃ entry ∈ calls.zip (history calls ledger), entry.1.Dissociates entry.2 account id := by
  -- Along the calls: the rest of the run starts where the first call has left the token standing.
  induction calls generalizing ledger with
  | nil => exact .refl ledger
  | cons call rest ih =>
      have step := call.after_stands_still ledger rooted numbered id token found idle (asleep _ List.mem_cons_self)
      obtain ⟨rooted, numbered⟩ := call.after_numbered ledger rooted numbered
      have later := ih (call.after ledger) rooted numbered (step.stands.row.trans found) fun entry member =>
        asleep entry (List.mem_cons_of_mem _ member)
      refine (step.mono fun account leaves => ?_).trans (later.mono fun account => ?_)
      · exact ⟨(call, ledger), List.mem_cons_self, leaves⟩
      · rintro ⟨entry, member, leaves⟩
        exact ⟨entry, List.mem_cons_of_mem _ member, leaves⟩

theorem history_starts (earlier later : List Call) (ledger : Ledger) :
    earlier.zip (history earlier ledger) <+: (earlier ++ later).zip (history (earlier ++ later) ledger) := by
  induction earlier generalizing ledger with
  | nil => exact List.nil_prefix
  | cons call rest ih => exact List.cons_prefix_cons.mpr ⟨rfl, ih (call.after ledger)⟩

end Runs

/-- Throughout a run of calls in which no unpausing of it succeeds, a token that is paused or deleted keeps its row, its
serials and every allowance and operator for it, and everybody keeps what they have of it; except that who dissociates
from a deleted token has nothing of it any more. -/
theorem idle_token_stands_still (ledger : Ledger) (rooted : ledger.Rooted)
    (numbered : ledger.Numbered ledger.nextEntity.toNat) (id : TokenId) (token : Token)
    (found : ledger.tokens.get? id = some token) (idle : token.paused = true ∨ token.deleted = true)
    (calls : List Call)
    (asleep : ∀ entry ∈ calls.zip (history calls ledger), ¬ entry.1.Performs entry.2 (.unpause id)) :
    ∀ earlier, earlier <+: calls →
      ledger.Stands (afterAll earlier ledger) id ∧
      ∀ account, (afterAll earlier ledger).units account id = ledger.units account id ∨
        token.deleted = true ∧ (afterAll earlier ledger).relationships.get? ⟨account, id⟩ = none ∧
          ∃ entry ∈ earlier.zip (history earlier ledger), entry.1.Dissociates entry.2 account id := by
  rintro earlier ⟨later, rfl⟩
  have still := run_stands_still id token idle earlier ledger rooted numbered found fun entry member =>
    asleep entry ((history_starts earlier later ledger).subset member)
  refine ⟨still.stands, fun account => ?_⟩
  cases deleted : token.deleted with
  | false => exact .inl (still.balances deleted account)
  | true =>
      rcases still.ties deleted account with same | ⟨leaves, gone⟩
      · exact .inl (by rw [Ledger.units, Ledger.units, same])
      · exact .inr ⟨rfl, gone, leaves⟩

namespace Sample

def halted : Ledger :=
  { ledger with
    tokens := .ofList
      [(coin, { id := coin, treasury := holder, totalSupply := 100, paused := true }),
        (art, { id := art, type := .nonFungible, treasury := holder, totalSupply := 2, lastUsedSerial := 3,
                deleted := true })] }

def leavingArt : Call :=
  byFriend (call (ServiceFunction.dissociateToken.selector.toBytes ++
    Abi.encode ServiceFunction.dissociateToken.params (friend.toAddress, art.toAddress, ())))

theorem halted_rooted : halted.Rooted := rooted_of_rows halted (by decide) (by decide) (by decide)

theorem halted_numbered : halted.Numbered halted.nextEntity.toNat :=
  numbered_of_rows halted _ (by decide) (by decide) (by decide)

end Sample

theorem halted_tokens_stand :
    (afterAll [Sample.call (Sample.payment 25)] Sample.halted).units Sample.holder Sample.coin = 70 ∧
      Sample.halted.Stands (afterAll [Sample.leavingArt] Sample.halted) Sample.art ∧
      (afterAll [Sample.leavingArt] Sample.halted).units Sample.friend Sample.art ≠
        Sample.halted.units Sample.friend Sample.art ∧
      (afterAll [Sample.leavingArt] Sample.halted).relationships.get? ⟨Sample.friend, Sample.art⟩ = none := by
  have coin : (Sample.halted.tokens.get? Sample.coin).map (fun token => (token.paused, token.deleted)) =
      some (true, false) := by decide
  have art : (Sample.halted.tokens.get? Sample.art).map (·.deleted) = some true := by decide
  obtain ⟨paused, foundCoin, flags⟩ := Option.map_eq_some_iff.mp coin
  obtain ⟨gone, foundArt, deleted⟩ := Option.map_eq_some_iff.mp art
  obtain ⟨halts, live⟩ := Prod.mk.inj flags
  have unpaid : ¬ ((Sample.call (Sample.payment 25)).settled Sample.halted).succeeds := by decide +kernel
  have left : Sample.leavingArt.recorded Sample.halted = some (.dissociate ⟨Sample.friend, [Sample.art]⟩) := by
    decide +kernel
  have lost : (afterAll [Sample.leavingArt] Sample.halted).units Sample.friend Sample.art ≠
      Sample.halted.units Sample.friend Sample.art := by decide +kernel
  have payment := idle_token_stands_still Sample.halted Sample.halted_rooted Sample.halted_numbered Sample.coin paused
    foundCoin (.inl halts) [Sample.call (Sample.payment 25)] (fun entry member performs => by
      cases List.mem_singleton.mp member
      exact unpaid performs.succeeds) _ List.prefix_rfl
  have leaving := idle_token_stands_still Sample.halted Sample.halted_rooted Sample.halted_numbered Sample.art gone
    foundArt (.inr deleted) [Sample.leavingArt] (fun entry member performs => by
      cases List.mem_singleton.mp member
      cases left.symm.trans performs.recorded) _ List.prefix_rfl
  refine ⟨?_, leaving.1, lost, ?_⟩
  · rcases payment.2 Sample.holder with same | ⟨deleted, _⟩
    · rw [same]
      decide
    · cases live.symm.trans deleted
  · rcases leaving.2 Sample.friend with same | ⟨_, none, _⟩
    · exact absurd same lost
    · exact none

end TokenService
