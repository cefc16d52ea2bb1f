import TokenService.Json.Document
import TokenService.NativeFunction

set_option autoImplicit false

namespace TokenService

structure PriceTable where
  listed : NativeFunction → PriceClass → Option UInt64

abbrev PriceSchedule := List (String × List (String × UInt64))

inductive PriceTableFault where
  | invalid
  | unknownName (name : String)
  deriving DecidableEq, Repr

namespace PriceTableFault

def message : PriceTableFault → String
  | .invalid => "invalid canonical price table"
  | .unknownName name => s!"unknown price table entry {name}"

end PriceTableFault

namespace PriceSchedule

def readFields {α : Type} (value? : Json → Option α) : Json → Option (List (String × α))
  | .object fields => do
      let entries ← fields.mapM fun (name, value) => do
        let value ← value? value
        pure (name, value)
      pure (keepLast entries)
  | _ => none
where
  keepLast : List (String × α) → List (String × α)
    | [] => []
    | (name, value) :: rest =>
        if rest.any fun entry => entry.1 == name then keepLast rest else (name, value) :: keepLast rest

def ofDocument? (document : Json) : Option PriceSchedule := readFields (readFields Json.uint64) document

def ofText? (text : String) : Option PriceSchedule := (Json.ofText? text).bind ofDocument?

end PriceSchedule

/-- An order in which what is written is visited: the functions first, and then the classes of each. -/
structure VisitOrder where
  functions : PriceSchedule → PriceSchedule
  classes : String → List (String × UInt64) → List (String × UInt64)
  everyFunction : ∀ schedule, (functions schedule).Perm schedule
  everyClass : ∀ name prices, (classes name prices).Perm prices

namespace VisitOrder

def written : VisitOrder := ⟨fun schedule => schedule, fun _ prices => prices, fun _ => .rfl, fun _ _ => .rfl⟩

def visit (order : VisitOrder) (schedule : PriceSchedule) : PriceSchedule :=
  (order.functions schedule).map fun entry => (entry.1, order.classes entry.1 entry.2)

end VisitOrder

namespace PriceTable

def empty : PriceTable := ⟨fun _ _ => none⟩

instance : Inhabited PriceTable := ⟨empty⟩

def price (table : PriceTable) (function : NativeFunction) (priceClass : PriceClass) : UInt64 :=
  (table.listed function priceClass).getD 0

def set (table : PriceTable) (function : NativeFunction) (priceClass : PriceClass) (price : UInt64) : PriceTable :=
  ⟨fun other otherClass =>
    if other = function ∧ otherClass = priceClass then some price else table.listed other otherClass⟩

def setEntry (function : NativeFunction) (table : PriceTable) (entry : String × UInt64) :
    Except PriceTableFault PriceTable :=
  match PriceClass.ofName? entry.1 with
  | some priceClass => .ok (table.set function priceClass entry.2)
  | none => .error (.unknownName entry.1)

def setEntries (table : PriceTable) (entries : String × List (String × UInt64)) : Except PriceTableFault PriceTable :=
  match NativeFunction.ofName? entries.1 with
  | some function => entries.2.foldlM (setEntry function) table
  | none => .error (.unknownName entries.1)

-- One entry after the other into a new table, until a name is unknown.
def ofSchedule (schedule : PriceSchedule) : Except PriceTableFault PriceTable := schedule.foldlM setEntries empty

def ofWritten (order : VisitOrder) : Option PriceSchedule → Except PriceTableFault PriceTable
  | some schedule => ofSchedule (order.visit schedule)
  | none => .error .invalid

def ofDocument (document : Json) : Except PriceTableFault PriceTable :=
  ofWritten .written (PriceSchedule.ofDocument? document)

def ofText (text : String) : Except PriceTableFault PriceTable := ofWritten .written (PriceSchedule.ofText? text)

end PriceTable

end TokenService
