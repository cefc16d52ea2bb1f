import TokenService.Price.Table

set_option autoImplicit false

namespace TokenService

/-- The tables there are, and for each handle the place of the table that it stands for. -/
structure PriceBoard where
  tables : List PriceTable
  handles : List Nat
  placed : ∀ place ∈ handles, place < tables.length

namespace PriceBoard

def empty : PriceBoard := ⟨[], [], fun _ member => nomatch member⟩

variable (board : PriceBoard)

def add (table : PriceTable) : PriceBoard where
  tables := board.tables ++ [table]
  handles := board.handles ++ [board.tables.length]
  placed place member := by
    rw [List.length_append, List.length_singleton]
    cases List.mem_append.mp member with
    | inl old => exact Nat.lt_succ_of_lt (board.placed place old)
    | inr new => exact List.mem_singleton.mp new ▸ Nat.lt_succ_self _

def clone (handle : Nat) : PriceBoard where
  tables := board.tables
  handles := board.handles ++ board.handles[handle]?.toList
  placed place member := by
    cases List.mem_append.mp member with
    | inl old => exact board.placed place old
    | inr new => exact board.placed place (List.mem_of_getElem? (Option.mem_toList.mp new))

def change (handle : Nat) (update : PriceTable → PriceTable) : PriceBoard :=
  match board.handles[handle]? with
  | none => board
  | some changed =>
      ⟨board.tables.modify changed update, board.handles, fun place member => by
        rw [List.length_modify]
        exact board.placed place member⟩

def set (handle : Nat) (function : NativeFunction) (priceClass : PriceClass) (price : UInt64) : PriceBoard :=
  board.change handle fun table => table.set function priceClass price

-- The new table is made before the old one is touched.
def reload (handle : Nat) (order : VisitOrder) (text : String) : Except PriceTableFault Unit × PriceBoard :=
  match PriceTable.ofWritten order (PriceSchedule.ofText? text) with
  | .ok table => (.ok (), board.change handle fun _ => table)
  | .error fault => (.error fault, board)

def price? (handle : Nat) (function : NativeFunction) (priceClass : PriceClass) : Option UInt64 := do
  let place ← board.handles[handle]?
  let table ← board.tables[place]?
  pure (table.price function priceClass)

end PriceBoard

/-- What is done with a table, each time through some handle to it. -/
inductive PriceCommand where
  | clone (handle : Nat)
  | set (handle : Nat) (function : NativeFunction) (priceClass : PriceClass) (price : UInt64)
  | reload (handle : Nat) (order : VisitOrder) (text : String)

namespace PriceBoard

def perform (board : PriceBoard) : PriceCommand → Except PriceTableFault Unit × PriceBoard
  | .clone handle => (.ok (), board.clone handle)
  | .set handle function priceClass price => (.ok (), board.set handle function priceClass price)
  | .reload handle order text => board.reload handle order text

-- One command after the other; one that fails stops nothing.
def run (board : PriceBoard) : List PriceCommand → List (Except PriceTableFault Unit) × PriceBoard
  | [] => ([], board)
  | command :: rest =>
      let (outcome, changed) := board.perform command
      let (outcomes, final) := changed.run rest
      (outcome :: outcomes, final)

end PriceBoard

end TokenService
