import TokenService.Proofs.Ledger.Exchanges
import TokenService.Proofs.Ledger.Overflow

set_option autoImplicit false

namespace TokenService

namespace Deed

section Runs

variable (spender : AccountId)

def MakeAll (spender : AccountId) : List Deed → View → View → Prop
  | [], before, after => after = before
  | deed :: rest, before, after => ∃ middle, deed.Makes spender before middle ∧ MakeAll spender rest middle after

theorem make_all_single (deed : Deed) (before after : View) :
    MakeAll spender [deed] before after ↔ deed.Makes spender before after := by
  constructor
  · rintro ⟨_, makes, rfl⟩
    exact makes
  · exact fun makes => ⟨after, makes, rfl⟩

theorem make_all_append (first second : List Deed) (before after : View) :
    MakeAll spender (first ++ second) before after ↔
      ∃ middle, MakeAll spender first before middle ∧ MakeAll spender second middle after := by
  induction first generalizing before with
  | nil =>
      constructor
      · exact fun done => ⟨before, rfl, done⟩
      · rintro ⟨_, rfl, done⟩
        exact done
  | cons deed rest ih =>
      simp only [List.cons_append, MakeAll, ih]
      constructor
      · rintro ⟨between, makes, middle, left, right⟩
        exact ⟨middle, ⟨between, makes, left⟩, right⟩
      · rintro ⟨middle, ⟨between, makes, left⟩, right⟩
        exact ⟨between, makes, middle, left, right⟩

theorem make_all_perm (first second : List Deed) (perm : first.Perm second) (apart : first.Pairwise Apart)
    (before after : View) (done : MakeAll spender first before after) : MakeAll spender second before after := by
  induction perm generalizing before with
  | nil => exact done
  | cons deed _ ih =>
      obtain ⟨middle, makes, rest⟩ := done
      exact ⟨middle, makes, ih (List.pairwise_cons.mp apart).2 middle rest⟩
  | swap deed other rest =>
      obtain ⟨between, first, middle, second, others⟩ := done
      have distinct := (List.pairwise_cons.mp apart).1 deed List.mem_cons_self
      obtain ⟨start, sooner, later⟩ := makes_swap spender other deed distinct before between middle first second
      exact ⟨start, sooner, middle, later, others⟩
  | trans left _ ih next =>
      exact next ((left.pairwise_iff fun distinct => apart_symm _ _ distinct).mp apart) before (ih apart before done)

def Served (view : View) : Deed → Prop
  | .adjustUnits id _ => ∃ token ∈ view.token id, token.Serves .fungible
  | .moveNft id _ => ∃ token ∈ view.token id, token.Serves .nonFungible
  | _ => True

theorem ready_served (deed : Deed) (view : View) (ready : deed.Ready spender view) : deed.Served view := by
  cases deed with
  | adjustUnits id adjustment => exact UnitsReady.token ready
  | moveNft id move => exact MoveReady.token ready
  | _ => trivial

theorem served_before (deed other : Deed) (view : View) (served : deed.Served (other.effect spender view)) :
    deed.Served view := by
  cases deed with
  | adjustUnits id adjustment =>
      rw [Served, effect_token] at served
      exact served
  | moveNft id move =>
      rw [Served, effect_token] at served
      exact served
  | _ => trivial

theorem make_all_served (deeds : List Deed) (before after : View) (done : MakeAll spender deeds before after)
    (deed : Deed) (member : deed ∈ deeds) : deed.Served before := by
  induction deeds generalizing before with
  | nil => cases member
  | cons head rest ih =>
      obtain ⟨_, ⟨ready, rfl⟩, others⟩ := done
      rcases List.mem_cons.mp member with rfl | later
      · exact ready_served spender deed before ready
      · exact served_before spender deed head before (ih _ others later)

theorem make_all_keeps (Keep : View → Prop) (deeds : List Deed) (before after : View)
    (kept : ∀ (deed : Deed) (first next : View), Keep first → deed.Makes spender first next → Keep next)
    (done : MakeAll spender deeds before after) (start : Keep before) : Keep after := by
  induction deeds generalizing before with
  | nil =>
      cases done
      exact start
  | cons deed rest ih =>
      obtain ⟨middle, makes, others⟩ := done
      exact ih middle others (kept deed before middle start makes)

theorem makes_usable (id : TokenId) (token : Token) (deed : Deed) (before after : View)
    (usable : before.Usable id token) (makes : deed.Makes spender before after) : after.Usable id token := by
  obtain ⟨_, rfl⟩ := makes
  exact ⟨⟨(effect_token spender deed before id).trans usable.found, usable.own, usable.live⟩, usable.running⟩

end Runs

end Deed

structure TokenMoves.Movable (moves : TokenMoves) : Prop where
  stocked : moves.adjustments ≠ [] ∨ moves.nftMoves ≠ []
  apart : ∀ move ∈ moves.nftMoves, move.sender ≠ move.receiver

structure TokenMoves.Fits (moves : TokenMoves) (type : TokenType) : Prop where
  bare : type = .fungible → moves.nftMoves = []
  whole : type = .nonFungible → moves.adjustments = []

section Loops

variable (spender : AccountId)

theorem for_make {α : Type} (Keep : View → Prop) (items : List α) (step : α → Work PUnit) (label : α → List Deed)
    (each : ∀ item ∈ items, ∀ first next, Keep first →
      ((step item).Yields first () next ↔ Deed.MakeAll spender (label item) first next))
    (kept : ∀ (deed : Deed) (first next : View), Keep first → deed.Makes spender first next → Keep next)
    (before after : View) (start : Keep before) :
    (items.forM step).Yields before () after ↔ Deed.MakeAll spender (items.flatMap label) before after := by
  induction items generalizing before with
  | nil => exact Work.yields_for_nil _ _ _ _
  | cons item rest ih =>
      rw [Work.yields_for_cons, List.flatMap_cons, Deed.make_all_append]
      refine exists_congr fun middle => ?_
      rw [each item List.mem_cons_self before middle start]
      refine and_congr_right fun done => ih (fun other member => each other (List.mem_cons_of_mem _ member)) middle ?_
      exact Deed.make_all_keeps spender Keep _ before middle kept done start

theorem each_make {α : Type} (Keep : View → Prop) (items : List α) (step : α → Work PUnit) (label : α → Deed)
    (each : ∀ item ∈ items, ∀ first next, Keep first →
      ((step item).Yields first () next ↔ (label item).Makes spender first next))
    (kept : ∀ (deed : Deed) (first next : View), Keep first → deed.Makes spender first next → Keep next)
    (before after : View) (start : Keep before) :
    (items.forM step).Yields before () after ↔ Deed.MakeAll spender (items.map label) before after := by
  rw [List.map_eq_flatMap]
  refine for_make spender Keep items step _ (fun item member first next good => ?_) kept before after start
  rw [each item member first next good, Deed.make_all_single]

theorem accounted_usable (id : TokenId) (token : Token) (deed : Deed) (first next : View)
    (good : first.Accounted ∧ first.Usable id token) (makes : deed.Makes spender first next) :
    next.Accounted ∧ next.Usable id token :=
  ⟨makes_accounted spender deed first next good.1 makes,
    Deed.makes_usable spender id token deed first next good.2 makes⟩

variable (before after : View) (accounted : before.Accounted)

include accounted in
theorem hbar_make (adjustments : List Adjustment) :
    (adjustments.forM (Work.adjustHbar spender)).Yields before () after ↔
      Deed.MakeAll spender (adjustments.map .adjustHbar) before after := by
  refine each_make spender View.Accounted _ _ _ (fun adjustment _ first next good => ?_)
    (fun deed first next good makes => makes_accounted spender deed first next good makes) before after accounted
  exact Work.hbar_makes_iff spender first next good.rooted adjustment

variable (moves : TokenMoves) (token : Token)

include accounted in
theorem units_make (usable : before.Usable moves.token token) (fungible : token.type = .fungible) :
    (moves.adjustments.forM (Work.adjustUnits spender moves.token)).Yields before () after ↔
      Deed.MakeAll spender (moves.adjustments.map (.adjustUnits moves.token)) before after := by
  refine each_make spender (fun view => view.Accounted ∧ view.Usable moves.token token) _ _ _
    (fun adjustment _ first next good => ?_) (accounted_usable spender moves.token token) before after
    ⟨accounted, usable⟩
  exact Work.units_makes_iff spender first next good.1.rooted moves.token token good.2 fungible adjustment

include accounted in
theorem moves_make (usable : before.Usable moves.token token) (nonFungible : token.type = .nonFungible)
    (apart : ∀ move ∈ moves.nftMoves, move.sender ≠ move.receiver) :
    (moves.nftMoves.forM (Work.moveNft spender moves.token)).Yields before () after ↔
      Deed.MakeAll spender (moves.nftMoves.map (.moveNft moves.token)) before after := by
  refine each_make spender (fun view => view.Accounted ∧ view.Usable moves.token token) _ _ _
    (fun move member first next good => ?_) (accounted_usable spender moves.token token) before after
    ⟨accounted, usable⟩
  exact Work.move_makes_iff spender first next good.1 moves.token token good.2 nonFungible move (apart move member)

-- A list with entries of the other kind does not get past the check, so one of the two loops is empty.
include accounted in
theorem loops_make (usable : before.Usable moves.token token) (fits : moves.Fits token.type)
    (apart : ∀ move ∈ moves.nftMoves, move.sender ≠ move.receiver) :
    (∃ middle, (moves.adjustments.forM (Work.adjustUnits spender moves.token)).Yields before () middle ∧
      (moves.nftMoves.forM (Work.moveNft spender moves.token)).Yields middle () after) ↔
        Deed.MakeAll spender moves.deeds before after := by
  rw [TokenMoves.deeds, Deed.make_all_append]
  refine exists_congr fun middle => ?_
  cases kind : token.type with
  | fungible =>
      rw [units_make spender before middle accounted moves token usable kind, fits.bare kind]
      exact and_congr_right' (Work.yields_for_nil _ _ _ _)
  | nonFungible =>
      rw [fits.whole kind, Work.yields_for_nil, List.map_nil, Deed.MakeAll]
      refine and_congr_right ?_
      rintro rfl
      exact moves_make spender middle after accounted moves token usable kind apart

theorem made_fits (rooted : before.merged.Rooted) (stocked : moves.adjustments ≠ [] ∨ moves.nftMoves ≠ [])
    (done : Deed.MakeAll spender moves.deeds before after) :
    ∃ token, before.Usable moves.token token ∧ moves.Fits token.type := by
  have served := Deed.make_all_served spender moves.deeds before after done
  have units (adjustment : Adjustment) (member : adjustment ∈ moves.adjustments) :
      ∃ token ∈ before.token moves.token, token.Serves .fungible :=
    served (.adjustUnits moves.token adjustment) (List.mem_append_left _ (List.mem_map_of_mem member))
  have nfts (move : NftMove) (member : move ∈ moves.nftMoves) :
      ∃ token ∈ before.token moves.token, token.Serves .nonFungible :=
    served (.moveNft moves.token move) (List.mem_append_right _ (List.mem_map_of_mem member))
  by_cases bare : moves.adjustments = []
  · obtain ⟨move, member⟩ := List.exists_mem_of_ne_nil _ (stocked.resolve_left fun some => some bare)
    obtain ⟨token, found, serves⟩ := nfts move member
    refine ⟨token, serves_usable before rooted _ _ token found serves, fun other => ?_, fun _ => bare⟩
    exact nomatch serves.kind.symm.trans other
  · obtain ⟨adjustment, member⟩ := List.exists_mem_of_ne_nil _ bare
    obtain ⟨token, found, serves⟩ := units adjustment member
    refine ⟨token, serves_usable before rooted _ _ token found serves, fun _ => ?_, fun other => ?_⟩
    · refine List.eq_nil_iff_forall_not_mem.mpr fun move moved => ?_
      exact Deed.kinds_apart before moves.token ⟨token, found, serves⟩ (nfts move moved)
    · exact nomatch serves.kind.symm.trans other

include accounted in
theorem token_make (movable : moves.Movable) :
    (Work.transferToken spender moves).Yields before () after ↔ Deed.MakeAll spender moves.deeds before after := by
  simp only [Work.transferToken, Work.yields_bind, Work.yields_read, Work.check_kind_yields]
  constructor
  · rintro ⟨token, _, ⟨found, rfl⟩, _, _, ⟨bare, whole, rfl⟩, _, middle, units, serials⟩
    have usable := View.usable_of_ok _ _ accounted.rooted _ found
    rw [usable.own] at units serials
    exact (loops_make spender _ after accounted moves token usable ⟨bare, whole⟩ movable.apart).mp
      ⟨middle, units, serials⟩
  · intro done
    obtain ⟨token, usable, fits⟩ := made_fits spender before after moves accounted.rooted movable.stocked done
    have loops := loops_make spender before after accounted moves token usable fits movable.apart
    obtain ⟨middle, units, serials⟩ := loops.mpr done
    have found := (View.usable_token_ok before moves.token token).mpr ⟨usable.found, usable.live, usable.running⟩
    refine ⟨token, before, ⟨found, rfl⟩, (), before, ⟨fits.bare, fits.whole, rfl⟩, (), middle, ?_⟩
    rw [usable.own]
    exact ⟨units, serials⟩

include accounted in
-- A transfer goes through exactly when its deeds can be done one after the other.
theorem transfer_make (hbar : List Adjustment) (tokens : List TokenMoves) (movable : ∀ moves ∈ tokens, moves.Movable) :
    (Work.transfer hbar tokens spender).Yields before () after ↔
      Deed.MakeAll spender (Body.transfer hbar tokens).deeds before after := by
  simp only [Work.transfer, Work.yields_bind, Body.deeds, Deed.make_all_append]
  have kept (deed : Deed) (first next : View) (good : first.Accounted) (makes : deed.Makes spender first next) :
      next.Accounted := makes_accounted spender deed first next good makes
  have lists (middle : View) (good : middle.Accounted) :
      (tokens.forM (Work.transferToken spender)).Yields middle () after ↔
        Deed.MakeAll spender (tokens.flatMap TokenMoves.deeds) middle after :=
    for_make spender View.Accounted tokens _ _
      (fun moves member first next good => token_make spender first next good moves (movable moves member)) kept
      middle after good
  have made (middle : View) (done : Deed.MakeAll spender (hbar.map .adjustHbar) before middle) : middle.Accounted :=
    Deed.make_all_keeps spender View.Accounted _ before middle kept done accounted
  constructor
  · rintro ⟨_, middle, money, units⟩
    have first := (hbar_make spender before middle accounted hbar).mp money
    exact ⟨middle, first, (lists middle (made middle first)).mp units⟩
  · rintro ⟨middle, first, units⟩
    exact ⟨(), middle, (hbar_make spender before middle accounted hbar).mpr first,
      (lists middle (made middle first)).mpr units⟩

end Loops

end TokenService
