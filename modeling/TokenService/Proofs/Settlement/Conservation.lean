import TokenService.Proofs.Ledger.Solvency
import TokenService.Proofs.Settlement.Runs

set_option autoImplicit false

namespace TokenService

-- Rows in their places and under their numbers, nothing below zero, and the supply of every live
-- fungible token held by somebody, within its cap, with a relationship for the treasury.
structure Ledger.WellFormed (ledger : Ledger) : Prop where
  rooted : ledger.Rooted
  numbered : ledger.Numbered ledger.nextEntity.toNat
  solvent : ledger.Solvent
  backed : ∀ id row, ledger.tokens.get? id = some row → row.deleted = false → row.type = .fungible →
    row.totalSupply.toInt = ledger.unitsHeld id
  capped : ledger.Capped .fungible

-- What each deed of a well-formed body keeps. The backing of supplies is not among it: between the
-- entries of a transfer the holders have more or less than the supply.
structure View.Sound (view : View) : Prop where
  rooted : view.merged.Rooted
  numbered : view.merged.Numbered view.limit
  solvent : view.merged.Solvent
  capped : view.merged.Capped .fungible

section Deeds

variable (sender : AccountId) (now : Timestamp)

theorem deed_sound (deed : Deed) (proper : deed.Proper) (before after : View)
    (does : deed.Does sender now before after) (sound : before.Sound) : after.Sound :=
  ⟨deed_rooted sender now deed before after does sound.rooted,
    deed_numbered sender now deed before after does sound.numbered,
    deed_solvent sender now deed proper before after sound.rooted sound.solvent does,
    deed_capped sender now .fungible deed proper before after sound.capped does⟩

theorem backed_iff (ledger : Ledger) :
    (∀ id row, ledger.tokens.get? id = some row → row.deleted = false → row.type = .fungible →
      row.totalSupply.toInt = ledger.unitsHeld id) ↔ ∀ id, ledger.surplus id = 0 := by
  -- A surplus of zero says the same of every token, so it can be followed through a transfer.
  unfold Ledger.surplus Ledger.outstanding
  constructor
  · intro backed id
    cases found : ledger.tokens.get? id with
    | none => rfl
    | some row =>
        simp only [Option.map_some, Option.getD_some, Token.outstanding]
        by_cases live : row.deleted = false ∧ row.type = .fungible
        · have supply := backed id row found live.1 live.2
          simp only [if_pos live]
          omega
        · simp only [if_neg live]
  · intro even id row found live fungible
    have level := even id
    simp only [found, Option.map_some, Option.getD_some, Token.outstanding, if_pos (And.intro live fungible)] at level
    omega

end Deeds

theorem carried_well_formed (call : Call) (ledger : Ledger) (body : Body) (view : View)
    (carries : call.Carries ledger body view) (wellFormed : ledger.WellFormed) :
    view.merged.WellFormed ∧ view.merged.hbarTotal = ledger.hbarTotal := by
  have start : (View.mk ledger {}).Sound := by
    refine ⟨?_, ?_, ?_, ?_⟩
    · exact (View.fresh_merged ledger).symm ▸ wellFormed.rooted
    · exact (View.fresh_merged ledger).symm ▸ wellFormed.numbered
    · exact (View.fresh_merged ledger).symm ▸ wellFormed.solvent
    · exact (View.fresh_merged ledger).symm ▸ wellFormed.capped
  have kept : ∀ deed ∈ body.deeds, ∀ first next : View,
      deed.Does ((call.host ledger).sender call.frame) call.frame.consensusTime first next → first.Sound →
      next.Sound := fun deed member first next does sound =>
    deed_sound _ _ deed (body_proper _ body carries.wellFormed deed member) first next does sound
  have sound := Deeds.keeps View.Sound body.deeds _ _ kept carries.done start
  have hbar := Deeds.sums (fun view => view.merged.hbarTotal) Deed.hbarGain View.Sound body.deeds _ _ kept
    (fun deed _ first next does _ => deed_hbar_total _ _ deed first next does) carries.done start
  have level (id : TokenId) : view.merged.surplus id = ledger.surplus id := by
    have same := body_surplus _ _ _ body carries.wellFormed _ _ start.rooted start.numbered carries.done id
    rwa [View.fresh_merged] at same
  have even := (backed_iff ledger).mp wellFormed.backed
  refine ⟨⟨sound.rooted, ?_, sound.solvent, ?_, sound.capped⟩, ?_⟩
  · rw [carries.counted]
    exact sound.numbered
  · exact (backed_iff view.merged).mpr fun id => (level id).trans (even id)
  · simp only [View.fresh_merged, (body_gains _ body carries.wellFormed default).1, Int.add_zero] at hbar
    exact hbar

/-- Along every run of calls from a well-formed ledger, each ledger is well formed and holds the hbar that the first
one held. -/
theorem supply_and_hbar_conserved (ledger : Ledger) (wellFormed : ledger.WellFormed) (calls : List Call)
    (later : Ledger) (reached : later ∈ history calls ledger) :
    later.WellFormed ∧ later.hbarTotal = ledger.hbarTotal :=
  (history_keeps Ledger.WellFormed (fun first second => second.hbarTotal = first.hbarTotal)
    (fun _ kept => kept.rooted) (fun _ => rfl) (fun _ _ _ left right => right.trans left)
    (fun call ledger body view carries kept => carried_well_formed call ledger body view carries kept)
    calls ledger wellFormed).1 later reached

namespace Sample

theorem ledger_well_formed : ledger.WellFormed where
  rooted := ledger_rooted
  numbered := ledger_numbered
  solvent :=
    { hbar := every_row ledger.accounts (fun _ row => 0 ≤ row.balance.toInt) (by decide)
      balances := fun account id row found =>
        every_row ledger.relationships (fun _ held => 0 ≤ held.balance.toInt) (by decide) ⟨account, id⟩ row found
      supplies := every_row ledger.tokens (fun _ row => 0 ≤ row.totalSupply.toInt) (by decide)
      treasuries := every_row ledger.tokens
        (fun id row => row.deleted = false → row.type = .fungible →
          ledger.relationships.get? ⟨row.treasury, id⟩ ≠ none) (by decide) }
  backed := every_row ledger.tokens
    (fun id row => row.deleted = false → row.type = .fungible → row.totalSupply.toInt = ledger.unitsHeld id)
    (by decide)
  capped := capped_of_rows ledger .fungible (by decide)

end Sample

theorem payments_conserve : ∃ later ∈ history [Sample.call (Sample.payment 25), Sample.call (Sample.payment 10)]
    Sample.ledger, later.units Sample.holder Sample.coin = 35 ∧ later.WellFormed ∧ later.hbarTotal = 55 := by
  have paid : (((history [Sample.call (Sample.payment 25), Sample.call (Sample.payment 10)] Sample.ledger)[2]?).map
      fun later => later.units Sample.holder Sample.coin) = some 35 := by
    decide +kernel
  obtain ⟨later, last, left⟩ := Option.map_eq_some_iff.mp paid
  have reached := List.mem_of_getElem? last
  have conserved := supply_and_hbar_conserved Sample.ledger Sample.ledger_well_formed _ later reached
  have start : Sample.ledger.hbarTotal = 55 := by decide
  exact ⟨later, reached, left, conserved.1, conserved.2.trans start⟩

end TokenService
