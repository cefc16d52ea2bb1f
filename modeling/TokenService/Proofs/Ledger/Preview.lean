import Mathlib.Data.List.Range
import Mathlib.Data.List.Nodup
import TokenService.Proofs.Form
import TokenService.Proofs.Ledger.Committing
import TokenService.Proofs.Ledger.Rows

set_option autoImplicit false

namespace TokenService

section Writes

variable {κ ρ : Type}

def lastWrite [DecidableEq κ] (writes : List (κ × ρ)) (key : κ) : Option ρ :=
  (writes.filter fun write => write.1 == key).getLast?.map Prod.snd

theorem last_write_cons [DecidableEq κ] (write : κ × ρ) (rest : List (κ × ρ)) (key : κ) :
    lastWrite (write :: rest) key = (lastWrite rest key).or (if write.1 = key then some write.2 else none) := by
  unfold lastWrite
  by_cases same : write.1 = key
  · cases last : (rest.filter fun write => write.1 == key).getLast? <;> simp [same, List.getLast?_cons, last]
  · simp [same]

theorem last_write_none [DecidableEq κ] (writes : List (κ × ρ)) (key : κ) (untouched : key ∉ writes.map Prod.fst) :
    lastWrite writes key = none := by
  induction writes with
  | nil => rfl
  | cons write rest ih =>
      rw [List.map_cons, List.mem_cons, not_or] at untouched
      rw [last_write_cons, ih untouched.2, if_neg (Ne.symm untouched.1), Option.none_or]

variable [Ord κ] [Std.TransOrd κ] [Std.LawfulEqOrd κ]

def Table.write (staged : Table κ (Option ρ)) (writes : List (κ × Option ρ)) : Table κ (Option ρ) :=
  writes.foldl (fun staged write => staged.insert write.1 write.2) staged

theorem Table.write_append (staged : Table κ (Option ρ)) (earlier later : List (κ × Option ρ)) :
    staged.write (earlier ++ later) = (staged.write earlier).write later := List.foldl_append

theorem overlaid_write [DecidableEq κ] (base : Table κ ρ) (staged : Table κ (Option ρ)) (writes : List (κ × Option ρ))
    (key : κ) : base.overlaid (staged.write writes) key = (lastWrite writes key).getD (base.overlaid staged key) := by
  induction writes generalizing staged with
  | nil => rfl
  | cons write rest ih =>
      rw [Table.write, List.foldl_cons, ← Table.write, ih, last_write_cons, Table.overlaid_insert]
      cases lastWrite rest key with
      | some row => rfl
      | none =>
          by_cases same : key = write.1
          · rw [if_pos same, if_pos same.symm]
            rfl
          · rw [if_neg same, if_neg (Ne.symm same)]
            rfl

def Shows [DecidableEq κ] (base : Table κ ρ) (look : κ → Option ρ) (writes : List (κ × Option ρ)) : Prop :=
  ∀ key, look key = (lastWrite writes key).getD (base.get? key)

structure Keeps [DecidableEq κ] (base after : Table κ ρ) (look : κ → Option ρ) (writes : List (κ × Option ρ)) :
    Prop where
  kept : ∀ key, after.get? key = look key
  untouched : ∀ key, key ∉ writes.map Prod.fst → after.get? key = base.get? key

theorem written_shows [DecidableEq κ] (base : Table κ ρ) (writes : List (κ × Option ρ)) :
    Shows base (base.overlaid (Table.write ∅ writes)) writes := overlaid_write base ∅ writes

theorem merged_keeps [DecidableEq κ] (base : Table κ ρ) (staged : Table κ (Option ρ)) (writes : List (κ × Option ρ))
    (shows : Shows base (base.overlaid staged) writes) :
    Keeps base (base.merge staged) (base.overlaid staged) writes := by
  have kept := Table.get_merge_overlaid base staged
  refine ⟨kept, fun key untouched => ?_⟩
  rw [kept, shows, last_write_none writes key untouched]
  rfl

end Writes

inductive Staging where
  | account (row : Account)
  | token (row : Token)
  | relationship (holder : AccountId) (token : TokenId) (row : Relationship)
  | noRelationship (holder : AccountId) (token : TokenId)
  | nft (row : Nft)
  | noNft (id : NftId)
  | allocate

namespace Staging

def apply : Staging → View → Except Overflow (Option UInt64 × View)
  | .account row, view => .ok (none, view.putAccount row)
  | .token row, view => .ok (none, view.putToken row)
  | .relationship holder id row, view => .ok (none, view.putRelationship holder id row)
  | .noRelationship holder id, view => .ok (none, view.removeRelationship holder id)
  | .nft row, view => .ok (none, view.putNft row)
  | .noNft id, view => .ok (none, view.removeNft id)
  | .allocate, view => do
      let (number, after) ← view.allocate
      pure (some number, after)

def run : List Staging → View → Except Overflow (List UInt64 × View)
  | [], view => .ok ([], view)
  | step :: rest, view => do
      let (number, next) ← step.apply view
      let (numbers, after) ← run rest next
      pure (number.toList ++ numbers, after)

-- What a step writes to each table, a removed row as none.
def accountWrite : Staging → Option (AccountId × Option Account)
  | .account row => some (row.id, some row)
  | _ => none

def tokenWrite : Staging → Option (TokenId × Option Token)
  | .token row => some (row.id, some row)
  | _ => none

def relationshipWrite : Staging → Option (Holding × Option Relationship)
  | .relationship holder id row => some (⟨holder, id⟩, some row)
  | .noRelationship holder id => some (⟨holder, id⟩, none)
  | _ => none

def nftWrite : Staging → Option (NftId × Option Nft)
  | .nft row => some (row.id, some row)
  | .noNft id => some (id, none)
  | _ => none

def allocates : Staging → Bool
  | .allocate => true
  | _ => false

def allocations (steps : List Staging) : Nat := steps.countP allocates

theorem allocations_append (earlier later : List Staging) :
    allocations (earlier ++ later) = allocations earlier + allocations later := List.countP_append

-- What steps leave of a view: the ledger as it is, their writes after those before, their numbers taken.
structure Leaves (steps : List Staging) (before after : View) (numbers : List UInt64) : Prop where
  ledger : after.ledger = before.ledger
  accounts : after.changes.accounts = before.changes.accounts.write (steps.filterMap accountWrite)
  tokens : after.changes.tokens = before.changes.tokens.write (steps.filterMap tokenWrite)
  relationships : after.changes.relationships = before.changes.relationships.write (steps.filterMap relationshipWrite)
  nfts : after.changes.nfts = before.changes.nfts.write (steps.filterMap nftWrite)
  reserved : after.changes.entitiesCreated.toNat = before.changes.entitiesCreated.toNat + allocations steps
  numbers : numbers.map UInt64.toNat = List.range' before.limit (allocations steps)

theorem leaves_nil (view : View) : Leaves [] view view [] := ⟨rfl, rfl, rfl, rfl, rfl, rfl, rfl⟩

theorem leaves_limit (steps : List Staging) (before after : View) (numbers : List UInt64)
    (leaves : Leaves steps before after numbers) : after.limit = before.limit + allocations steps := by
  rw [View.limit, leaves.ledger, leaves.reserved, View.limit, Nat.add_assoc]

theorem leaves_append (earlier later : List Staging) (before middle after : View) (first second : List UInt64)
    (start : Leaves earlier before middle first) (rest : Leaves later middle after second) :
    Leaves (earlier ++ later) before after (first ++ second) where
  ledger := rest.ledger.trans start.ledger
  accounts := by rw [List.filterMap_append, Table.write_append, rest.accounts, start.accounts]
  tokens := by rw [List.filterMap_append, Table.write_append, rest.tokens, start.tokens]
  relationships := by rw [List.filterMap_append, Table.write_append, rest.relationships, start.relationships]
  nfts := by rw [List.filterMap_append, Table.write_append, rest.nfts, start.nfts]
  reserved := by rw [rest.reserved, start.reserved, Nat.add_assoc, allocations_append]
  numbers := by
    rw [List.map_append, start.numbers, rest.numbers, leaves_limit _ _ _ _ start, List.range'_append_1,
      allocations_append]

theorem apply_leaves (step : Staging) (before after : View) (number : Option UInt64)
    (done : step.apply before = .ok (number, after)) : Leaves [step] before after number.toList := by
  cases step with
  | allocate =>
      unfold apply at done
      obtain ⟨⟨given, next⟩, allocated, done⟩ := (except_bind_ok _ _ _).mp done
      cases done
      obtain ⟨created, limit, reserved, rfl⟩ := (View.allocate_ok _ _ _).mp allocated
      exact ⟨rfl, rfl, rfl, rfl, rfl, reserved, congrArg (fun number => [number]) limit⟩
  | _ =>
      cases done
      exact ⟨rfl, rfl, rfl, rfl, rfl, rfl, rfl⟩

theorem run_leaves (steps : List Staging) (before after : View) (numbers : List UInt64)
    (done : run steps before = .ok (numbers, after)) : Leaves steps before after numbers := by
  induction steps generalizing before numbers with
  | nil =>
      cases done
      exact leaves_nil _
  | cons step rest ih =>
      obtain ⟨⟨number, next⟩, first, done⟩ := (except_bind_ok _ _ _).mp done
      obtain ⟨⟨later, last⟩, others, done⟩ := (except_bind_ok _ _ _).mp done
      cases done
      exact leaves_append [step] rest _ _ _ _ _ (apply_leaves step before next number first) (ih next later others)

-- A view after the steps on a ledger that nothing is staged on. The ledger below stays as it is.
structure Previews (ledger : Ledger) (steps : List Staging) (view : View) : Prop where
  below : view.ledger = ledger
  accounts : Shows ledger.accounts view.account (steps.filterMap accountWrite)
  tokens : Shows ledger.tokens view.token (steps.filterMap tokenWrite)
  relationships : Shows ledger.relationships (fun holding => view.relationship holding.account holding.token)
    (steps.filterMap relationshipWrite)
  nfts : Shows ledger.nfts view.nft (steps.filterMap nftWrite)

-- The ledger with the rows that a view of the steps showed.
structure Stores (ledger : Ledger) (steps : List Staging) (view : View) (after : Ledger) : Prop where
  accounts : Keeps ledger.accounts after.accounts view.account (steps.filterMap accountWrite)
  tokens : Keeps ledger.tokens after.tokens view.token (steps.filterMap tokenWrite)
  relationships : Keeps ledger.relationships after.relationships
    (fun holding => view.relationship holding.account holding.token) (steps.filterMap relationshipWrite)
  nfts : Keeps ledger.nfts after.nfts view.nft (steps.filterMap nftWrite)

theorem leaves_previews (ledger : Ledger) (steps : List Staging) (view : View) (numbers : List UInt64)
    (leaves : Leaves steps { ledger := ledger } view numbers) : Previews ledger steps view := by
  obtain ⟨base, changes⟩ := view
  cases show base = ledger from leaves.ledger
  refine ⟨rfl, ?_, ?_, ?_, ?_⟩
  · have rows : changes.accounts = Table.write ∅ (steps.filterMap accountWrite) := leaves.accounts
    have shows := written_shows ledger.accounts (steps.filterMap accountWrite)
    rwa [← rows] at shows
  · have rows : changes.tokens = Table.write ∅ (steps.filterMap tokenWrite) := leaves.tokens
    have shows := written_shows ledger.tokens (steps.filterMap tokenWrite)
    rwa [← rows] at shows
  · have rows : changes.relationships = Table.write ∅ (steps.filterMap relationshipWrite) := leaves.relationships
    have shows := written_shows ledger.relationships (steps.filterMap relationshipWrite)
    rwa [← rows] at shows
  · have rows : changes.nfts = Table.write ∅ (steps.filterMap nftWrite) := leaves.nfts
    have shows := written_shows ledger.nfts (steps.filterMap nftWrite)
    rwa [← rows] at shows

theorem previews_stores (ledger : Ledger) (steps : List Staging) (view : View) (previews : Previews ledger steps view) :
    Stores ledger steps view (view.ledger.apply view.changes) := by
  obtain ⟨rfl, accounts, tokens, relationships, nfts⟩ := previews
  exact ⟨merged_keeps _ _ _ accounts, merged_keeps _ _ _ tokens, merged_keeps _ _ _ relationships,
    merged_keeps _ _ _ nfts⟩

section Numbers

theorem allocate_done_iff (view : View) : (∃ number after, view.allocate = .ok (number, after)) ↔
    view.limit < UInt64.size ∧ view.changes.entitiesCreated.toNat + 1 < UInt64.size := by
  constructor
  · rintro ⟨number, after, given⟩
    obtain ⟨created, limit, reserved, _⟩ := (View.allocate_ok _ _ _).mp given
    have small := number.toNat_lt_size
    have few := created.toNat_lt_size
    omega
  · rintro ⟨small, few⟩
    exact ⟨.ofNat view.limit, view.reserving (.ofNat (view.changes.entitiesCreated.toNat + 1)),
      (View.allocate_ok _ _ _).mpr ⟨_, UInt64.toNat_ofNat_of_lt' small, UInt64.toNat_ofNat_of_lt' few, rfl⟩⟩

theorem apply_done_iff (step : Staging) (view : View) : (∃ number after, step.apply view = .ok (number, after)) ↔
    (step.allocates = true →
      view.limit < UInt64.size ∧ view.changes.entitiesCreated.toNat + 1 < UInt64.size) := by
  cases step with
  | allocate =>
      refine Iff.trans ?_ (forall_prop_of_true rfl).symm
      rw [← allocate_done_iff]
      unfold apply
      constructor
      · rintro ⟨number, after, done⟩
        obtain ⟨⟨given, next⟩, allocated, _⟩ := (except_bind_ok _ _ _).mp done
        exact ⟨given, next, allocated⟩
      · rintro ⟨number, after, allocated⟩
        exact ⟨some number, after, (except_bind_ok _ _ _).mpr ⟨_, allocated, rfl⟩⟩
  | _ => exact ⟨fun _ other => (Bool.false_ne_true other).elim, fun _ => ⟨_, _, rfl⟩⟩

theorem run_done_iff (steps : List Staging) (view : View) : (∃ numbers after, run steps view = .ok (numbers, after)) ↔
    allocations steps = 0 ∨ view.changes.entitiesCreated.toNat + allocations steps < UInt64.size ∧
      view.limit + allocations steps ≤ UInt64.size := by
  induction steps generalizing view with
  | nil => exact ⟨fun _ => .inl rfl, fun _ => ⟨[], view, rfl⟩⟩
  | cons step rest ih =>
      have count : allocations (step :: rest) = allocations [step] + allocations rest :=
        allocations_append [step] rest
      have one : allocations [step] = if step.allocates then 1 else 0 := List.countP_singleton
      constructor
      · rintro ⟨numbers, after, done⟩
        obtain ⟨⟨number, next⟩, first, done⟩ := (except_bind_ok _ _ _).mp done
        obtain ⟨⟨later, last⟩, others, _⟩ := (except_bind_ok _ _ _).mp done
        have leaves := apply_leaves step view next number first
        have taken := leaves.reserved
        have limit := leaves_limit _ _ _ _ leaves
        have room := (apply_done_iff step view).mp ⟨number, next, first⟩
        have left := (ih next).mp ⟨later, last, others⟩
        rw [count]
        by_cases allocates : step.allocates = true
        · have fits := room allocates
          rw [if_pos allocates] at one
          omega
        · rw [if_neg allocates] at one
          omega
      · intro room
        rw [count] at room
        have fits : step.allocates = true →
            view.limit < UInt64.size ∧ view.changes.entitiesCreated.toNat + 1 < UInt64.size := by
          intro allocates
          rw [if_pos allocates] at one
          omega
        obtain ⟨number, next, first⟩ := (apply_done_iff step view).mpr fits
        have leaves := apply_leaves step view next number first
        have taken := leaves.reserved
        have limit := leaves_limit _ _ _ _ leaves
        obtain ⟨later, last, others⟩ := (ih next).mpr (by omega)
        exact ⟨_, last, (except_bind_ok _ _ _).mpr ⟨_, first, (except_bind_ok _ _ _).mpr ⟨_, others, rfl⟩⟩⟩

end Numbers

theorem leaves_beyond (ledger : Ledger) (steps : List Staging) (view : View) (numbers : List UInt64)
    (leaves : Leaves steps { ledger := ledger } view numbers)
    (room : ledger.nextEntity.toNat + allocations steps < UInt64.size) :
    ∃ number next, View.allocate { ledger := view.ledger.apply view.changes } = .ok (number, next) ∧
      ∀ earlier ∈ numbers, earlier < number := by
  have reserved : view.changes.entitiesCreated.toNat = allocations steps := leaves.reserved.trans (Nat.zero_add _)
  have next : (view.ledger.apply view.changes).nextEntity.toNat = ledger.nextEntity.toNat + allocations steps := by
    rw [Ledger.apply, UInt64.toNat_add, reserved, leaves.ledger, Nat.mod_eq_of_lt room]
  have left : (View.mk (view.ledger.apply view.changes) {}).limit < UInt64.size := by
    rw [View.fresh_limit, next]
    exact room
  have one : (0 : UInt64).toNat + 1 < UInt64.size := by decide
  obtain ⟨number, after, allocated⟩ := (allocate_done_iff _).mpr ⟨left, one⟩
  refine ⟨number, after, allocated, fun earlier member => ?_⟩
  obtain ⟨_, first, _⟩ := (View.allocate_ok _ _ _).mp allocated
  rw [View.fresh_limit, next] at first
  have inside : earlier.toNat ∈ numbers.map UInt64.toNat := List.mem_map_of_mem member
  rw [leaves.numbers, View.fresh_limit, List.mem_range'_1] at inside
  exact UInt64.lt_iff_toNat_lt.mpr (by omega)

end Staging

/-- A view is a faithful preview of its commit. Steps on a fresh view end well exactly as long as there are numbers left
for them. Then, and so at each point on the way, the view answers every key with the last write to it or else with the
ledger's row, the ledger below is as it was, and the numbers taken are consecutive and distinct. A commit goes through
exactly if all balances differ by amounts of the range and the store takes the changes, else the ledger stays as it is.
After one that goes through the ledger answers as the view did, keys without a write as before, and the next view starts
beyond all numbers taken. -/
theorem view_previews_commit (ledger : Ledger) (steps : List Staging) :
    ((∃ numbers view, Staging.run steps { ledger := ledger } = .ok (numbers, view)) ↔
      Staging.allocations steps < UInt64.size ∧
        ledger.nextEntity.toNat + Staging.allocations steps ≤ UInt64.size) ∧
    ∀ numbers view, Staging.run steps { ledger := ledger } = .ok (numbers, view) →
      Staging.Previews ledger steps view ∧
      numbers.map UInt64.toNat = List.range' ledger.nextEntity.toNat (Staging.allocations steps) ∧
      numbers.Nodup ∧
      ∀ refuses, view.Commits refuses (view.commit refuses) ∧
        (∀ fault, view.commit refuses = .error fault → view.stored refuses = ledger) ∧
        ∀ effects, view.commit refuses = .ok effects →
          Staging.Stores ledger steps view (view.stored refuses) ∧
          (ledger.nextEntity.toNat + Staging.allocations steps < UInt64.size →
            ∃ number next, View.allocate { ledger := view.stored refuses } = .ok (number, next) ∧
              ∀ earlier ∈ numbers, earlier < number) := by
  have start : ledger.nextEntity.toNat < UInt64.size := ledger.nextEntity.toNat_lt_size
  have limit : (View.mk ledger {}).limit = ledger.nextEntity.toNat := View.fresh_limit ledger
  have unreserved : (View.mk ledger {}).changes.entitiesCreated.toNat = 0 := rfl
  constructor
  · rw [Staging.run_done_iff, limit, unreserved]
    omega
  · intro numbers view done
    have leaves := Staging.run_leaves steps _ view numbers done
    have previews := Staging.leaves_previews ledger steps view numbers leaves
    have taken := leaves.numbers
    rw [limit] at taken
    refine ⟨previews, taken, List.Nodup.of_map UInt64.toNat (taken ▸ List.nodup_range'), fun refuses => ?_⟩
    refine ⟨view.commit_ends refuses, fun fault broken => ?_, fun effects committed => ?_⟩
    · rw [view.stored_broken refuses fault broken, previews.below]
    · rw [view.stored_committed refuses effects committed]
      exact ⟨Staging.previews_stores ledger steps view previews,
        Staging.leaves_beyond ledger steps view numbers leaves⟩

namespace Sample

def print (serial : Int64) : NftId := ⟨.ofNum 6, serial⟩

def gallery : Ledger :=
  { nfts := .ofList
      [(print 1, { id := print 1 }), (print 2, { id := print 2 }), (print 3, { id := print 3, owner := .ofNum 5 })]
    nextEntity := 7 }

def rehanging : List Staging :=
  [.noNft (print 1), .allocate, .nft { id := print 1, owner := .ofNum 4 }, .noNft (print 2), .allocate]

def willing : Changes → Option String := fun _ => none

def cashier : AccountId := .ofNum 5

-- One coin in the till, and a balance put over it that is the least of the range.
def till : Ledger := { accounts := .ofList [(cashier, { id := cashier, balance := 1 })] }

def overdrawn : Account := { id := cashier, balance := Int64.minValue }

end Sample

theorem rehanging_previewed :
    ∃ numbers view, Staging.run Sample.rehanging { ledger := Sample.gallery } = .ok (numbers, view) ∧
      numbers.map UInt64.toNat = [7, 8] ∧
      view.nft (Sample.print 1) = some { id := Sample.print 1, owner := .ofNum 4 } ∧
      (∃ effects, view.commit Sample.willing = .ok effects) ∧
      (view.stored Sample.willing).nfts.get? (Sample.print 2) = none ∧
      (view.stored Sample.willing).nfts.get? (Sample.print 3) = some { id := Sample.print 3, owner := .ofNum 5 } ∧
      ∃ number next, View.allocate { ledger := view.stored Sample.willing } = .ok (number, next) ∧
        ∀ earlier ∈ numbers, earlier < number := by
  obtain ⟨possible, each⟩ := view_previews_commit Sample.gallery Sample.rehanging
  obtain ⟨numbers, view, done⟩ := possible.mpr (by decide)
  obtain ⟨previews, taken, _, commits⟩ := each numbers view done
  obtain ⟨_, _, keeps⟩ := commits Sample.willing
  have committed : ∃ effects, view.commit Sample.willing = .ok effects := by
    cases done
    exact ⟨_, rfl⟩
  obtain ⟨effects, through⟩ := committed
  obtain ⟨stores, beyond⟩ := keeps effects through
  refine ⟨numbers, view, done, taken, ?_, ⟨effects, through⟩, ?_, ?_, beyond (by decide)⟩
  · rw [previews.nfts]
    decide
  · rw [stores.nfts.kept, previews.nfts]
    decide
  · rw [stores.nfts.untouched _ (by decide)]
    decide

theorem overdrawn_till_not_committed :
    ∃ view, Staging.run [.account Sample.overdrawn] { ledger := Sample.till } = .ok ([], view) ∧
      view.account Sample.cashier = some Sample.overdrawn ∧
      view.commit Sample.willing = .error (.overflow .subtract) ∧
      (view.stored Sample.willing).accounts.get? Sample.cashier ≠ view.account Sample.cashier := by
  refine ⟨({ ledger := Sample.till } : View).putAccount Sample.overdrawn, rfl, by decide, ?_, by decide⟩
  rfl

end TokenService
