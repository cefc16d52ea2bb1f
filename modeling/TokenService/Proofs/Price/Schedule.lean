import Mathlib.Data.List.Nodup
import TokenService.Price.Table

set_option autoImplicit false

namespace TokenService

/-- A price for each pair that is listed. -/
abbrev PriceMap := NativeFunction × PriceClass → Option UInt64

def PriceMap.table (map : PriceMap) : PriceTable := ⟨fun function priceClass => map (function, priceClass)⟩

def PriceTable.map (table : PriceTable) : PriceMap := fun pair => table.listed pair.1 pair.2

section Names

variable {α : Type} (all : List α) (name : α → String)

theorem names_apart (every : ∀ item, item ∈ all) (apart : (all.map name).Nodup) : Function.Injective name :=
  fun first second same => List.inj_on_of_nodup_map apart (every first) (every second) same

theorem named_of_found (text : String) (item : α) (found : (all.find? fun one => name one == text) = some item) :
    name item = text := by
  simpa using List.find?_some found

theorem found_of_named (text : String) (known : text ∈ all.map name) :
    ∃ item, (all.find? fun one => name one == text) = some item := by
  obtain ⟨item, member, same⟩ := List.mem_map.mp known
  exact Option.isSome_iff_exists.mp (List.find?_isSome.mpr ⟨item, member, beq_iff_eq.mpr same⟩)

theorem not_found_of_unknown (text : String) (unknown : text ∉ all.map name) :
    (all.find? fun one => name one == text) = none := by
  rw [List.find?_eq_none]
  intro item member same
  exact unknown (List.mem_map.mpr ⟨item, member, beq_iff_eq.mp same⟩)

end Names

namespace NativeFunction

def names : List String := all.map name

theorem name_injective : Function.Injective name :=
  names_apart all name (fun function => by cases function <;> decide) (by decide)

end NativeFunction

namespace PriceClass

def names : List String := all.map name

theorem name_injective : Function.Injective name :=
  names_apart all name (fun priceClass => by cases priceClass <;> decide) (by decide)

end PriceClass

section Entries

variable {α : Type}

def Distinct (entries : List (String × α)) : Prop := (entries.map Prod.fst).Nodup

theorem distinct_cons (name : String) (value : α) (rest : List (String × α))
    (distinct : Distinct ((name, value) :: rest)) : rest.lookup name = none ∧ Distinct rest := by
  obtain ⟨absent, distinct⟩ := List.nodup_cons.mp distinct
  refine ⟨List.lookup_eq_none_iff.mpr fun entry member => ?_, distinct⟩
  exact bne_iff_ne.mpr fun same => absent (List.mem_map.mpr ⟨entry, member, same.symm⟩)

theorem lookup_iff (entries : List (String × α)) (distinct : Distinct entries) (name : String) (value : α) :
    entries.lookup name = some value ↔ (name, value) ∈ entries := by
  induction entries with
  | nil => simp
  | cons entry rest ih =>
      obtain ⟨absent, distinct⟩ := distinct_cons entry.1 entry.2 rest distinct
      specialize ih distinct
      by_cases same : name = entry.1
      · rw [same] at ih ⊢
        rw [absent] at ih
        have other : (entry.1, value) ∉ rest := fun member => nomatch ih.mpr member
        rw [List.lookup_cons_self, List.mem_cons, or_iff_left other]
        exact ⟨fun same => by rw [← Option.some.inj same], fun same => by rw [← same]⟩
      · have other : (name, value) ≠ entry := fun whole => same (congrArg Prod.fst whole)
        rw [List.lookup_cons, beq_false_of_ne same, List.mem_cons, or_iff_right other]
        exact ih

theorem distinct_perm (entries others : List (String × α)) (order : others.Perm entries) :
    Distinct others ↔ Distinct entries :=
  (order.map Prod.fst).nodup_iff

theorem lookup_perm (entries others : List (String × α)) (order : others.Perm entries) (distinct : Distinct entries)
    (name : String) : others.lookup name = entries.lookup name := by
  ext value
  rw [lookup_iff others ((distinct_perm entries others order).mpr distinct), lookup_iff entries distinct]
  exact order.mem_iff

theorem lookup_map_values {β : Type} (change : String → α → β) (entries : List (String × α)) (name : String) :
    (entries.map fun entry => (entry.1, change entry.1 entry.2)).lookup name =
      (entries.lookup name).map (change name) := by
  induction entries with
  | nil => rfl
  | cons entry rest ih =>
      by_cases same : name = entry.1
      · rw [same, List.map_cons, List.lookup_cons_self, List.lookup_cons_self, Option.map_some]
      · rw [List.map_cons, List.lookup_cons, List.lookup_cons, beq_false_of_ne same]
        exact ih

theorem kept_mem (entries : List (String × α)) (entry : String × α)
    (kept : entry ∈ PriceSchedule.readFields.keepLast entries) : entry ∈ entries := by
  fun_induction PriceSchedule.readFields.keepLast entries with
  | case1 => exact kept
  | case2 name value rest later ih => exact List.mem_cons_of_mem _ (ih kept)
  | case3 name value rest last ih =>
      cases List.mem_cons.mp kept with
      | inl here => exact here ▸ List.mem_cons_self
      | inr there => exact List.mem_cons_of_mem _ (ih there)

theorem kept_distinct (entries : List (String × α)) : Distinct (PriceSchedule.readFields.keepLast entries) := by
  fun_induction PriceSchedule.readFields.keepLast entries with
  | case1 => exact List.nodup_nil
  | case2 name value rest later ih => exact ih
  | case3 name value rest last ih =>
      refine List.nodup_cons.mpr ⟨fun member => last ?_, ih⟩
      obtain ⟨entry, kept, same⟩ := List.mem_map.mp member
      exact List.any_eq_true.mpr ⟨entry, kept_mem rest entry kept, beq_iff_eq.mpr same⟩

theorem read_fields (value? : Json → Option α) (good : α → Prop)
    (each : ∀ json value, value? json = some value → good value) (document : Json) (entries : List (String × α))
    (read : PriceSchedule.readFields value? document = some entries) :
    Distinct entries ∧ ∀ entry ∈ entries, good entry.2 := by
  cases document with
  | object fields =>
      obtain ⟨written, values, same⟩ := Option.bind_eq_some_iff.mp read
      cases same
      refine ⟨kept_distinct written, fun entry kept => ?_⟩
      have member := kept_mem written entry kept
      clear read kept
      induction fields generalizing written with
      | nil =>
          cases values
          cases member
      | cons field rest ih =>
          rw [List.mapM_cons] at values
          obtain ⟨first, head, values⟩ := Option.bind_eq_some_iff.mp values
          obtain ⟨others, tail, same⟩ := Option.bind_eq_some_iff.mp values
          cases same
          obtain ⟨value, readable, same⟩ := Option.bind_eq_some_iff.mp head
          cases same
          cases List.mem_cons.mp member with
          | inl here => exact here ▸ each field.2 value readable
          | inr there => exact ih others tail there
  | _ => cases read

end Entries

theorem fold_stops {ε σ α : Type} (step : σ → α → Except ε σ) (items : List α) (bad : α) (member : bad ∈ items)
    (stops : ∀ state, ∃ fault, step state bad = .error fault) (state : σ) :
    ∃ fault, items.foldlM step state = .error fault := by
  induction items generalizing state with
  | nil => cases member
  | cons item rest ih =>
      rw [List.foldlM_cons]
      cases here : step state item with
      | error fault => exact ⟨fault, rfl⟩
      | ok next =>
          refine ih ((List.mem_cons.mp member).resolve_left fun same => ?_) next
          obtain ⟨fault, stopped⟩ := stops state
          rw [same, here] at stopped
          cases stopped

namespace PriceSchedule

def Known (schedule : PriceSchedule) : Prop :=
  ∀ entry ∈ schedule, entry.1 ∈ NativeFunction.names ∧ ∀ price ∈ entry.2, price.1 ∈ PriceClass.names

instance (schedule : PriceSchedule) : Decidable schedule.Known :=
  inferInstanceAs (Decidable (∀ entry ∈ schedule, _))

def SingleNames (schedule : PriceSchedule) : Prop := Distinct schedule ∧ ∀ entry ∈ schedule, Distinct entry.2

def map (schedule : PriceSchedule) : PriceMap := fun pair =>
  (schedule.lookup pair.1.name).bind fun prices => prices.lookup pair.2.name

theorem text_single_names (text : String) (schedule : PriceSchedule) (read : ofText? text = some schedule) :
    schedule.SingleNames := by
  obtain ⟨document, _, read⟩ := Option.bind_eq_some_iff.mp read
  refine read_fields _ Distinct (fun json prices read => ?_) document schedule read
  exact (read_fields Json.uint64 (fun _ => True) (fun _ _ _ => trivial) json prices read).1

end PriceSchedule

namespace VisitOrder

variable (order : VisitOrder) (schedule : PriceSchedule)

theorem visit_mem (entry : String × List (String × UInt64)) :
    entry ∈ order.visit schedule ↔ ∃ prices, (entry.1, prices) ∈ schedule ∧ order.classes entry.1 prices = entry.2 := by
  simp only [visit, List.mem_map, (order.everyFunction schedule).mem_iff]
  constructor
  · rintro ⟨⟨name, prices⟩, member, rfl⟩
    exact ⟨prices, member, rfl⟩
  · rintro ⟨prices, member, same⟩
    exact ⟨(entry.1, prices), member, Prod.ext rfl same⟩

theorem visit_known : (order.visit schedule).Known ↔ schedule.Known := by
  constructor
  · intro known entry member
    have visited : (entry.1, order.classes entry.1 entry.2) ∈ order.visit schedule :=
      (visit_mem order schedule _).mpr ⟨entry.2, member, rfl⟩
    obtain ⟨function, classes⟩ := known _ visited
    exact ⟨function, fun price there => classes price ((order.everyClass entry.1 entry.2).mem_iff.mpr there)⟩
  · intro known entry member
    obtain ⟨prices, written, same⟩ := (visit_mem order schedule entry).mp member
    obtain ⟨function, classes⟩ := known _ written
    exact ⟨function, fun price there => classes price ((order.everyClass entry.1 prices).mem_iff.mp (same ▸ there))⟩

variable (single : schedule.SingleNames)

include single

theorem visit_single_names : (order.visit schedule).SingleNames := by
  constructor
  · rw [Distinct, visit, List.map_map]
    exact (distinct_perm _ _ (order.everyFunction schedule)).mpr single.1
  · intro entry member
    obtain ⟨prices, written, same⟩ := (visit_mem order schedule entry).mp member
    rw [← same]
    exact (distinct_perm _ _ (order.everyClass entry.1 prices)).mpr (single.2 _ written)

theorem visit_map : (order.visit schedule).map = schedule.map := by
  funext pair
  have functions := lookup_perm schedule _ (order.everyFunction schedule) single.1 pair.1.name
  rw [PriceSchedule.map, PriceSchedule.map, visit, lookup_map_values, functions]
  cases found : schedule.lookup pair.1.name with
  | none => rfl
  | some prices =>
      have written := (lookup_iff schedule single.1 _ _).mp found
      exact lookup_perm prices _ (order.everyClass _ prices) (single.2 _ written) pair.2.name

end VisitOrder

namespace PriceTable

theorem set_entries_known (function : NativeFunction) (entries : List (String × UInt64)) (distinct : Distinct entries)
    (known : ∀ price ∈ entries, price.1 ∈ PriceClass.names) (table : PriceTable) :
    entries.foldlM (setEntry function) table =
      .ok ⟨fun other priceClass =>
        if other = function then (entries.lookup priceClass.name).or (table.listed other priceClass)
        else table.listed other priceClass⟩ := by
  induction entries generalizing table with
  | nil =>
      simp only [List.foldlM_nil, List.lookup_nil, Option.none_or, ite_self]
      rfl
  | cons entry rest ih =>
      obtain ⟨absent, distinct⟩ := distinct_cons entry.1 entry.2 rest distinct
      obtain ⟨here, known⟩ := List.forall_mem_cons.mp known
      obtain ⟨listed, found⟩ := found_of_named PriceClass.all PriceClass.name entry.1 here
      have named := named_of_found PriceClass.all PriceClass.name entry.1 listed found
      have first : setEntry function table entry = .ok (table.set function listed entry.2) := by
        rw [setEntry, PriceClass.ofName?, found]
      rw [List.foldlM_cons, first]
      refine (ih distinct known _).trans (congrArg Except.ok (congrArg PriceTable.mk ?_))
      funext other priceClass
      by_cases same : other = function
      · rw [if_pos same, if_pos same, set]
        by_cases equal : priceClass = listed
        · rw [equal, named, absent, Option.none_or, List.lookup_cons_self, Option.some_or]
          exact if_pos ⟨same, rfl⟩
        · have apart : priceClass.name ≠ entry.1 := fun name =>
            equal (PriceClass.name_injective (name.trans named.symm))
          rw [List.lookup_cons, beq_false_of_ne apart]
          exact congrArg _ (if_neg fun both => equal both.2)
      · rw [if_neg same, if_neg same]
        exact if_neg fun both => same both.1

theorem set_schedule_known (schedule : PriceSchedule) (single : schedule.SingleNames) (known : schedule.Known)
    (table : PriceTable) :
    schedule.foldlM setEntries table =
      .ok ⟨fun function priceClass =>
        (schedule.map (function, priceClass)).or (table.listed function priceClass)⟩ := by
  induction schedule generalizing table with
  | nil => rfl
  | cons entry rest ih =>
      obtain ⟨distinct, singles⟩ := single
      obtain ⟨absent, distinct⟩ := distinct_cons entry.1 entry.2 rest distinct
      obtain ⟨each, singles⟩ := List.forall_mem_cons.mp singles
      obtain ⟨⟨here, classes⟩, known⟩ := List.forall_mem_cons.mp known
      obtain ⟨listed, found⟩ := found_of_named NativeFunction.all NativeFunction.name entry.1 here
      have named := named_of_found NativeFunction.all NativeFunction.name entry.1 listed found
      have first : setEntries table entry = entry.2.foldlM (setEntry listed) table := by
        rw [setEntries, NativeFunction.ofName?, found]
      rw [List.foldlM_cons, first, set_entries_known listed entry.2 each classes]
      refine (ih ⟨distinct, singles⟩ known _).trans (congrArg Except.ok (congrArg PriceTable.mk ?_))
      funext function priceClass
      dsimp only
      by_cases same : function = listed
      · rw [if_pos same, same, PriceSchedule.map, PriceSchedule.map, named, absent, List.lookup_cons_self]
        rfl
      · have apart : function.name ≠ entry.1 := fun name =>
          same (NativeFunction.name_injective (name.trans named.symm))
        rw [if_neg same, PriceSchedule.map, PriceSchedule.map, List.lookup_cons, beq_false_of_ne apart]

theorem set_schedule_unknown (schedule : PriceSchedule) (unknown : ¬ schedule.Known) (table : PriceTable) :
    ∃ fault, schedule.foldlM setEntries table = .error fault := by
  simp only [PriceSchedule.Known, not_forall] at unknown
  obtain ⟨entry, member, unknown⟩ := unknown
  refine fold_stops setEntries schedule entry member (fun table => ?_) table
  by_cases function : entry.1 ∈ NativeFunction.names
  · obtain ⟨listed, found⟩ := found_of_named NativeFunction.all NativeFunction.name entry.1 function
    have classes : ¬ ∀ price ∈ entry.2, price.1 ∈ PriceClass.names := fun classes => unknown ⟨function, classes⟩
    simp only [not_forall] at classes
    obtain ⟨price, there, unknown⟩ := classes
    rw [setEntries, NativeFunction.ofName?, found]
    refine fold_stops (setEntry listed) entry.2 price there (fun table => ?_) table
    rw [setEntry, PriceClass.ofName?, not_found_of_unknown _ _ _ unknown]
    exact ⟨_, rfl⟩
  · rw [setEntries, NativeFunction.ofName?, not_found_of_unknown _ _ _ function]
    exact ⟨_, rfl⟩

end PriceTable

/-- What a text says, without regard to any order. -/
def PriceMap.written? (text : String) : Option PriceMap :=
  match PriceSchedule.ofText? text with
  | some schedule => if schedule.Known then some schedule.map else none
  | none => none

theorem PriceTable.of_written (order : VisitOrder) (text : String) :
    match PriceMap.written? text with
    | some map => ofWritten order (PriceSchedule.ofText? text) = .ok map.table
    | none => ∃ fault, ofWritten order (PriceSchedule.ofText? text) = .error fault := by
  rw [PriceMap.written?]
  cases read : PriceSchedule.ofText? text with
  | none => exact ⟨_, rfl⟩
  | some schedule =>
      have single := PriceSchedule.text_single_names text schedule read
      by_cases known : schedule.Known
      · simp only [if_pos known, ofWritten, ofSchedule]
        rw [set_schedule_known _ (order.visit_single_names schedule single) ((order.visit_known schedule).mpr known),
          order.visit_map schedule single]
        simp only [empty, Option.or_none, PriceMap.table]
      · simp only [if_neg known]
        exact set_schedule_unknown _ (mt (order.visit_known schedule).mp known) _

end TokenService
