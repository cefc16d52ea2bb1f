import TokenService.Proofs.Settlement.Success

set_option autoImplicit false

namespace TokenService

-- A store takes changes as a whole or gives a reason not to. It takes none by which its next
-- entity number would not advance.
structure Store where
  refuses : Ledger → Changes → Option String
  advances : ∀ ledger changes, refuses ledger changes = none →
    ledger.nextEntity.toNat + changes.entitiesCreated.toNat < UInt64.size

-- One call: everything that meets the ledger in it. The host may come without the ledger.
structure Call where
  config : Config
  market : Market
  prices : PriceTable
  store : Store
  lends : Bool
  keepsRecords : Bool
  resolve : Address → Address
  signed : Key → Bool
  frame : Frame
  input : Bytes

namespace Call

def host (call : Call) (ledger : Ledger) : Host :=
  { ledger := if call.lends then some ledger else none
    refuses := call.store.refuses ledger
    resolve := call.resolve
    keepsRecords := call.keepsRecords
    signed := call.signed }

def settled (call : Call) (ledger : Ledger) : Settled :=
  (Service.native call.config call.market call.prices).compute (call.host ledger) call.frame call.input

def after (call : Call) (ledger : Ledger) : Ledger := (call.settled ledger).ledgerAfter ledger

structure Carries (call : Call) (ledger : Ledger) (body : Body) (view : View) : Prop where
  wellFormed : body.check call.config = .ok ()
  done : Deeds ((call.host ledger).sender call.frame) call.frame.consensusTime body.deeds { ledger := ledger } view
  counted : view.merged.nextEntity.toNat = view.limit

theorem lends_own (call : Call) (ledger other : Ledger) (lent : (call.host ledger).ledger = some other) :
    other = ledger := by
  unfold host at lent
  split at lent
  · exact (Option.some.inj lent).symm
  · cases lent

theorem failure_after (call : Call) (ledger : Ledger) (failure : ¬ (call.settled ledger).succeeds) :
    call.after ledger = ledger := by
  have ends : (Service.native call.config call.market call.prices).Ends (call.host ledger) call.frame call.input
      (call.settled ledger) := Service.compute_ends _ _ _ _ rfl
  rw [after, Settled.ledgerAfter, Service.ends_unapplied _ _ _ _ _ ends failure]

def recorded (call : Call) (ledger : Ledger) : Option Body :=
  (call.settled ledger).record.map fun entry => entry.2.body

structure Performs (call : Call) (ledger : Ledger) (body : Body) : Prop where
  succeeds : (call.settled ledger).succeeds
  recorded : call.recorded ledger = some body

theorem after_performed (call : Call) (ledger : Ledger) (rooted : ledger.Rooted) :
    call.after ledger = ledger ∨ ∃ body view, call.Performs ledger body ∧ call.Carries ledger body view ∧
      call.after ledger = view.merged := by
  by_cases success : (call.settled ledger).succeeds
  · right
    obtain ⟨other, lent⟩ := success_lent _ _ _ _ (call.settled ledger) (Service.compute_ends _ _ _ _ rfl) success
    cases call.lends_own ledger other lent
    obtain ⟨body, view, carries⟩ := success_carries _ _ _ _ _ _ ledger (call.settled ledger) lent rooted rfl success
    obtain ⟨record, transaction, recorded, about⟩ := carries.recorded
    refine ⟨body, view, ⟨success, ?_⟩, ⟨carries.wellFormed, carries.done, ?_⟩, carries.after⟩
    · rw [Call.recorded, recorded, Option.map_some, about]
    have base := deeds_ledger _ _ _ _ _ carries.done
    -- The store has numbers for all that were given out, so the addition does not wrap around.
    have room := call.store.advances ledger view.changes carries.accepted
    rw [View.merged, View.limit, base, Ledger.apply, UInt64.toNat_add]
    exact Nat.mod_eq_of_lt room
  · exact .inl (call.failure_after ledger success)

theorem after_cases (call : Call) (ledger : Ledger) (rooted : ledger.Rooted) :
    call.after ledger = ledger ∨ ∃ body view, call.Carries ledger body view ∧ call.after ledger = view.merged := by
  rcases call.after_performed ledger rooted with same | ⟨body, view, _, carries, after⟩
  · exact .inl same
  · exact .inr ⟨body, view, carries, after⟩

end Call

def history : List Call → Ledger → List Ledger
  | [], ledger => [ledger]
  | call :: rest, ledger => ledger :: history rest (call.after ledger)

def afterAll : List Call → Ledger → Ledger
  | [], ledger => ledger
  | call :: rest, ledger => afterAll rest (call.after ledger)

section Histories

variable (Keep : Ledger → Prop) (Leads : Ledger → Ledger → Prop)
  (rooted : ∀ ledger, Keep ledger → ledger.Rooted)
  (stays : ∀ ledger, Leads ledger ledger)
  (joins : ∀ first second third, Leads first second → Leads second third → Leads first third)
  (carried : ∀ (call : Call) ledger body view, call.Carries ledger body view → Keep ledger →
    Keep view.merged ∧ Leads ledger view.merged)
include rooted stays carried

theorem after_keeps (call : Call) (ledger : Ledger) (kept : Keep ledger) :
    Keep (call.after ledger) ∧ Leads ledger (call.after ledger) := by
  rcases call.after_cases ledger (rooted ledger kept) with same | ⟨body, view, carries, after⟩
  · rw [same]
    exact ⟨kept, stays ledger⟩
  · rw [after]
    exact carried call ledger body view carries kept

include joins

/-- What the deeds of every body keep holds all along a run, and how they lead from one ledger to the next is how any
ledger of the run leads to any later one. -/
theorem history_keeps (calls : List Call) (ledger : Ledger) (start : Keep ledger) :
    (∀ later ∈ history calls ledger, Keep later ∧ Leads ledger later) ∧ (history calls ledger).Pairwise Leads := by
  -- Along the calls, for all first ledgers: the rest of the run starts where the first call ends.
  induction calls generalizing ledger with
  | nil =>
      refine ⟨fun later member => ?_, List.pairwise_singleton _ _⟩
      cases List.mem_singleton.mp member
      exact ⟨start, stays ledger⟩
  | cons call rest ih =>
      obtain ⟨kept, leads⟩ := after_keeps Keep Leads rooted stays carried call ledger start
      obtain ⟨all, ordered⟩ := ih (call.after ledger) kept
      have onward (later : Ledger) (member : later ∈ history rest (call.after ledger)) : Leads ledger later :=
        joins _ _ _ leads (all later member).2
      refine ⟨fun later member => ?_, List.pairwise_cons.mpr ⟨onward, ordered⟩⟩
      rcases List.mem_cons.mp member with rfl | inside
      · exact ⟨start, stays _⟩
      · exact ⟨(all later inside).1, onward later inside⟩

end Histories

theorem each_call (Keep : Ledger → Prop) (calls : List Call) (Holds : Call → Ledger → Prop)
    (step : ∀ call ∈ calls, ∀ ledger, Keep ledger → Holds call ledger ∧ Keep (call.after ledger)) (ledger : Ledger)
    (start : Keep ledger) : ∀ entry ∈ calls.zip (history calls ledger), Keep entry.2 ∧ Holds entry.1 entry.2 := by
  induction calls generalizing ledger with
  | nil => exact fun _ member => (List.not_mem_nil member).elim
  | cons call rest ih =>
      obtain ⟨holds, kept⟩ := step call List.mem_cons_self ledger start
      intro entry member
      rcases List.mem_cons.mp member with rfl | later
      · exact ⟨start, holds⟩
      · exact ih (fun other inside => step other (List.mem_cons_of_mem _ inside)) _ kept entry later

namespace Sample

def store : Store :=
  { refuses := fun ledger changes =>
      if ledger.nextEntity.toNat + changes.entitiesCreated.toNat < UInt64.size then none else some "no numbers left"
    advances := by
      intro ledger changes taken
      by_cases room : ledger.nextEntity.toNat + changes.entitiesCreated.toNat < UInt64.size
      · exact room
      · rw [if_neg room] at taken
        cases taken }

def call (input : Bytes) : Call :=
  { config := {}
    market := market
    prices := .empty
    store := store
    lends := true
    keepsRecords := true
    resolve := id
    signed := fun other => other == key
    frame := frame
    input := input }

def byFriend (made : Call) : Call := { made with frame := { frame with sender := friend.toAddress } }

end Sample

end TokenService
