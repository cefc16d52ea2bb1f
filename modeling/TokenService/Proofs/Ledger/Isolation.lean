import TokenService.Proofs.Form
import TokenService.Proofs.Ledger.Deeds

set_option autoImplicit false

namespace TokenService

namespace Deeds

variable {sender : AccountId} {now : Timestamp} {κ β : Type}

theorem spares (touch : Deed → Option κ) (key : κ) (look : View → β) (Keep : View → Prop) (deeds : List Deed)
    (before after : View)
    (kept : ∀ deed ∈ deeds, ∀ first next, deed.Does sender now first next → Keep first → Keep next)
    (spared : ∀ deed ∈ deeds, touch deed ≠ some key → ∀ first next, deed.Does sender now first next → Keep first →
      look next = look first)
    (done : Deeds sender now deeds before after) (start : Keep before) (untouched : key ∉ deeds.filterMap touch) :
    look after = look before := by
  -- Along the deeds: the first one spares the thing, and so do the rest from where it leaves them.
  induction done with
  | nil view => rfl
  | @cons deed rest first middle last does others ih =>
      have apart : touch deed ≠ some key := by
        intro same
        exact untouched (List.mem_filterMap.mpr ⟨deed, List.mem_cons_self, same⟩)
      have later : key ∉ rest.filterMap touch := by
        intro member
        obtain ⟨other, inside, same⟩ := List.mem_filterMap.mp member
        exact untouched (List.mem_filterMap.mpr ⟨other, List.mem_cons_of_mem _ inside, same⟩)
      rw [ih (fun other member => kept other (List.mem_cons_of_mem _ member))
        (fun other member => spared other (List.mem_cons_of_mem _ member))
        (kept deed List.mem_cons_self _ _ does start) later]
      exact spared deed List.mem_cons_self apart _ _ does start

theorem reaches (Keep : View → Prop) (deeds : List Deed) (before after : View)
    (kept : ∀ deed ∈ deeds, ∀ first next, deed.Does sender now first next → Keep first → Keep next)
    (done : Deeds sender now deeds before after) (start : Keep before) (deed : Deed) (member : deed ∈ deeds) :
    ∃ first next, deed.Does sender now first next ∧ Keep first := by
  induction done with
  | nil view => cases member
  | @cons other rest first middle last does others ih =>
      rcases List.mem_cons.mp member with rfl | later
      · exact ⟨_, _, does, start⟩
      · exact ih (fun other member => kept other (List.mem_cons_of_mem _ member))
          (kept other List.mem_cons_self _ _ does start) later

-- Of deeds that touch different things, the one that touches a thing finds it as it was at first
-- and leaves it as it is at last.
theorem pinpoint (touch : Deed → Option κ) (key : κ) (look : View → β) (Keep : View → Prop) (deeds : List Deed)
    (before after : View)
    (kept : ∀ deed ∈ deeds, ∀ first next, deed.Does sender now first next → Keep first → Keep next)
    (spared : ∀ deed ∈ deeds, touch deed ≠ some key → ∀ first next, deed.Does sender now first next → Keep first →
      look next = look first)
    (done : Deeds sender now deeds before after) (start : Keep before) (distinct : (deeds.filterMap touch).Nodup)
    (deed : Deed) (member : deed ∈ deeds) (touched : touch deed = some key) :
    ∃ first next, deed.Does sender now first next ∧ Keep first ∧ look first = look before ∧
      look after = look next := by
  induction done with
  | nil view => cases member
  | @cons other rest first middle last does others ih =>
      have keptRest : ∀ other ∈ rest, ∀ first next, other.Does sender now first next → Keep first → Keep next :=
        fun other member => kept other (List.mem_cons_of_mem _ member)
      have sparedRest : ∀ other ∈ rest, touch other ≠ some key → ∀ first next, other.Does sender now first next →
          Keep first → look next = look first :=
        fun other member => spared other (List.mem_cons_of_mem _ member)
      have between := kept other List.mem_cons_self _ _ does start
      -- The rest spare what this deed leaves if it is the one; it spares the thing if the one is
      -- among the rest.
      by_cases same : touch other = some key
      · rw [List.filterMap_cons, same] at distinct
        have untouched := (List.nodup_cons.mp distinct).1
        rcases List.mem_cons.mp member with rfl | later
        · have spared := spares touch key look Keep rest _ _ keptRest sparedRest others between untouched
          exact ⟨_, _, does, start, rfl, spared⟩
        · exact absurd (List.mem_filterMap.mpr ⟨deed, later, touched⟩) untouched
      · have tail : (rest.filterMap touch).Nodup := by
          rw [List.filterMap_cons] at distinct
          split at distinct
          · exact distinct
          · exact (List.nodup_cons.mp distinct).2
        have later := (List.mem_cons.mp member).resolve_left (by rintro rfl; exact same touched)
        obtain ⟨start', next, run, held, view, last⟩ := ih keptRest sparedRest between tail later
        exact ⟨start', next, run, held, view.trans (spared other List.mem_cons_self same _ _ does start), last⟩

theorem isolate (touch : Deed → Option κ) (key : κ) (look : View → β) (Keep : View → Prop) (deeds : List Deed)
    (before after : View)
    (kept : ∀ deed ∈ deeds, ∀ first next, deed.Does sender now first next → Keep first → Keep next)
    (spared : ∀ deed ∈ deeds, touch deed ≠ some key → ∀ first next, deed.Does sender now first next → Keep first →
      look next = look first)
    (done : Deeds sender now deeds before after) (start : Keep before) (distinct : (deeds.filterMap touch).Nodup) :
    look after = look before ∨ ∃ deed ∈ deeds, touch deed = some key ∧ ∃ first next,
      deed.Does sender now first next ∧ Keep first ∧ look first = look before ∧ look after = look next := by
  by_cases listed : ∃ deed ∈ deeds, touch deed = some key
  · obtain ⟨deed, member, touched⟩ := listed
    exact .inr ⟨deed, member, touched,
      pinpoint touch key look Keep deeds before after kept spared done start distinct deed member touched⟩
  · refine .inl (spares touch key look Keep deeds before after kept spared done start fun member => listed ?_)
    exact List.mem_filterMap.mp member

end Deeds

namespace Deed

def transfers : Deed → Bool
  | .adjustHbar _ | .adjustUnits _ _ | .moveNft _ _ => true
  | _ => false

def purse : Deed → Option AccountId
  | .adjustHbar adjustment => some adjustment.account
  | _ => none

def stake : Deed → Option Holding
  | .adjustUnits token adjustment => some ⟨adjustment.account, token⟩
  | .dissociate account token => some ⟨account, token⟩
  | _ => none

def serial : Deed → Option NftId
  | .moveNft token move => some ⟨token, move.serial⟩
  | _ => none

end Deed

section Transfers

variable (hbar : List Adjustment) (tokens : List TokenMoves)

theorem transfer_deed (deed : Deed) (member : deed ∈ (Body.transfer hbar tokens).deeds) :
    (∃ adjustment ∈ hbar, deed = .adjustHbar adjustment) ∨
      (∃ moves ∈ tokens, ∃ adjustment ∈ moves.adjustments, deed = .adjustUnits moves.token adjustment) ∨
      ∃ moves ∈ tokens, ∃ move ∈ moves.nftMoves, deed = .moveNft moves.token move := by
  rcases List.mem_append.mp member with money | units
  · obtain ⟨adjustment, inside, rfl⟩ := List.mem_map.mp money
    exact .inl ⟨adjustment, inside, rfl⟩
  · obtain ⟨moves, inside, rest⟩ := List.mem_flatMap.mp units
    rcases List.mem_append.mp rest with amount | serial
    · obtain ⟨adjustment, entry, rfl⟩ := List.mem_map.mp amount
      exact .inr (.inl ⟨moves, inside, adjustment, entry, rfl⟩)
    · obtain ⟨move, entry, rfl⟩ := List.mem_map.mp serial
      exact .inr (.inr ⟨moves, inside, move, entry, rfl⟩)

variable (proper : ProperTransfer hbar tokens)
include proper

theorem transfer_purses : ((Body.transfer hbar tokens).deeds.filterMap Deed.purse).Nodup := by
  have units : ∀ moves : TokenMoves, moves.deeds.filterMap Deed.purse = [] := by
    intro moves
    simp [TokenMoves.deeds, Deed.purse, Function.comp_def]
  have money : (hbar.map Deed.adjustHbar).filterMap Deed.purse = hbar.map Adjustment.account := by
    rw [List.filterMap_map]
    exact congrFun List.filterMap_eq_map hbar
  have none : tokens.flatMap (fun _ => ([] : List AccountId)) = [] := List.flatMap_eq_nil_iff.mpr fun _ _ => rfl
  simp only [Body.deeds, List.filterMap_append, List.filterMap_flatMap, units, money, none, List.append_nil]
  exact proper.balanced.distinct

theorem transfer_stakes : ((Body.transfer hbar tokens).deeds.filterMap Deed.stake).Nodup := by
  have money : (hbar.map Deed.adjustHbar).filterMap Deed.stake = [] := by
    simp [Deed.stake, Function.comp_def]
  have units : ∀ moves : TokenMoves, moves.deeds.filterMap Deed.stake =
      moves.adjustments.map fun adjustment => ⟨adjustment.account, moves.token⟩ := by
    intro moves
    simp [TokenMoves.deeds, Deed.stake, Function.comp_def]
  simp only [Body.deeds, List.filterMap_append, List.filterMap_flatMap, units, money, List.nil_append]
  refine List.pairwise_flatMap.mpr ⟨fun moves member => ?_, ?_⟩
  · have distinct := List.pairwise_map.mp (proper.proper moves member).balanced.distinct
    exact List.pairwise_map.mpr (distinct.imp fun apart same => apart (congrArg Holding.account same))
  · refine (List.pairwise_map.mp proper.distinct).imp fun apart first inside second other same => ?_
    obtain ⟨_, _, rfl⟩ := List.mem_map.mp inside
    obtain ⟨_, _, rfl⟩ := List.mem_map.mp other
    exact apart (congrArg Holding.token same)

theorem transfer_serials : ((Body.transfer hbar tokens).deeds.filterMap Deed.serial).Nodup := by
  have money : (hbar.map Deed.adjustHbar).filterMap Deed.serial = [] := by
    simp [Deed.serial, Function.comp_def]
  have serials : ∀ moves : TokenMoves, moves.deeds.filterMap Deed.serial =
      moves.nftMoves.map fun move => ⟨moves.token, move.serial⟩ := by
    intro moves
    simp [TokenMoves.deeds, Deed.serial, Function.comp_def]
  simp only [Body.deeds, List.filterMap_append, List.filterMap_flatMap, serials, money, List.nil_append]
  refine List.pairwise_flatMap.mpr ⟨fun moves member => ?_, ?_⟩
  · have distinct := List.pairwise_map.mp (proper.proper moves member).serials
    exact List.pairwise_map.mpr (distinct.imp fun apart same => apart (congrArg NftId.serial same))
  · refine (List.pairwise_map.mp proper.distinct).imp fun apart first inside second other same => ?_
    obtain ⟨_, _, rfl⟩ := List.mem_map.mp inside
    obtain ⟨_, _, rfl⟩ := List.mem_map.mp other
    exact apart (congrArg NftId.token same)

end Transfers

end TokenService
