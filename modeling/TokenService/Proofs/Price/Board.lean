import Mathlib.Algebra.Ring.Nat
import TokenService.Price.Board
import TokenService.Proofs.Price.Schedule

set_option autoImplicit false

namespace TokenService

namespace PriceCommand

def handle : PriceCommand → Nat
  | .clone handle => handle
  | .set handle _ _ _ => handle
  | .reload handle _ _ => handle

def clones : PriceCommand → Nat
  | .clone _ => 1
  | _ => 0

def sound : PriceCommand → Bool
  | .reload _ _ text => (PriceMap.written? text).isSome
  | _ => true

end PriceCommand

-- A price set changes one entry, a text that can be read replaces them all, and any other text changes none.
def PriceMap.revise (map : PriceMap) : PriceCommand → PriceMap
  | .clone _ => map
  | .set _ function priceClass price => Function.update map (function, priceClass) (some price)
  | .reload _ _ text => (written? text).getD map

/-- Each command goes through a handle from `first` on, of which there are those below `next` and those it clones. -/
def Held (first next : Nat) : List PriceCommand → Prop
  | [] => True
  | command :: rest => (first ≤ command.handle ∧ command.handle < next) ∧ Held first (next + command.clones) rest

theorem PriceTable.set_map (map : PriceMap) (function : NativeFunction) (priceClass : PriceClass) (price : UInt64) :
    map.table.set function priceClass price = (map.revise (.set 0 function priceClass price)).table := by
  rw [PriceTable.set, PriceMap.table, PriceMap.table, PriceMap.revise]
  congr
  funext other otherClass
  rw [Function.update_apply]
  simp only [Prod.mk.injEq]

namespace PriceBoard

/-- One more table beside the others, and as many handles to it as it was cloned, besides the first. -/
structure Shares (others : PriceBoard) (map : PriceMap) (clones : Nat) (board : PriceBoard) : Prop where
  tables : board.tables = others.tables ++ [map.table]
  handles : board.handles = others.handles ++ List.replicate (clones + 1) others.tables.length

theorem add_shares (others : PriceBoard) (table : PriceTable) : Shares others table.map 0 (others.add table) :=
  ⟨rfl, rfl⟩

namespace Shares

variable {others board : PriceBoard} {map : PriceMap} {clones : Nat} (shares : Shares others map clones board)

include shares

theorem handle_count : board.handles.length = others.handles.length + 1 + clones := by
  rw [shares.handles, List.length_append, List.length_replicate]
  omega

theorem place (handle : Nat) (first : others.handles.length ≤ handle)
    (last : handle < others.handles.length + 1 + clones) : board.handles[handle]? = some others.tables.length := by
  rw [shares.handles, List.getElem?_append_right first, List.getElem?_replicate_of_lt (by omega)]

theorem price (handle : Nat) (first : others.handles.length ≤ handle)
    (last : handle < others.handles.length + 1 + clones) (function : NativeFunction) (priceClass : PriceClass) :
    board.price? handle function priceClass = some ((map (function, priceClass)).getD 0) := by
  rw [price?, shares.place handle first last, shares.tables]
  simp only [Option.bind_eq_bind, Option.bind_some, List.getElem?_concat_length]
  rfl

theorem foreign_price (handle : Nat) (foreign : handle < others.handles.length) (function : NativeFunction)
    (priceClass : PriceClass) : board.price? handle function priceClass = others.price? handle function priceClass := by
  have placed := others.placed others.handles[handle] (List.getElem_mem foreign)
  rw [price?, price?, shares.handles, shares.tables, List.getElem?_append_left foreign,
    List.getElem?_eq_getElem foreign]
  simp only [Option.bind_eq_bind, Option.bind_some, List.getElem?_append_left placed]

variable (handle : Nat) (first : others.handles.length ≤ handle) (last : handle < others.handles.length + 1 + clones)

include first last

theorem clone : Shares others map (clones + 1) (board.clone handle) := by
  refine ⟨shares.tables, ?_⟩
  show board.handles ++ board.handles[handle]?.toList = _
  rw [shares.place handle first last, shares.handles, Option.toList_some, List.append_assoc,
    ← List.replicate_succ']

theorem change (update : PriceTable → PriceTable) (revised : PriceMap) (updated : update map.table = revised.table) :
    Shares others revised clones (board.change handle update) := by
  have place := shares.place handle first last
  simp only [PriceBoard.change, place]
  refine ⟨?_, shares.handles⟩
  show board.tables.modify others.tables.length update = _
  have bound : others.tables.length < (others.tables ++ [map.table]).length := by simp
  rw [shares.tables, List.modify_eq_take_cons_drop bound]
  simp [updated]

end Shares

theorem perform_shares (others board : PriceBoard) (map : PriceMap) (clones : Nat)
    (shares : Shares others map clones board) (command : PriceCommand) (first : others.handles.length ≤ command.handle)
    (last : command.handle < others.handles.length + 1 + clones) :
    (board.perform command).1.isOk = command.sound ∧
      Shares others (map.revise command) (clones + command.clones) (board.perform command).2 := by
  cases command with
  | clone handle => exact ⟨rfl, shares.clone handle first last⟩
  | set handle function priceClass price =>
      exact ⟨rfl, shares.change handle first last _ _ (PriceTable.set_map map function priceClass price)⟩
  | reload handle order text =>
      have reading := PriceTable.of_written order text
      rw [perform, reload, PriceCommand.sound, PriceMap.revise]
      cases read : PriceMap.written? text with
      | some written =>
          rw [read] at reading
          rw [reading]
          exact ⟨rfl, shares.change handle first last _ _ rfl⟩
      | none =>
          rw [read] at reading
          obtain ⟨fault, failed⟩ := reading
          rw [failed]
          exact ⟨rfl, shares⟩

theorem run_shares (others board : PriceBoard) (map : PriceMap) (clones : Nat)
    (shares : Shares others map clones board) (commands : List PriceCommand)
    (held : Held others.handles.length (others.handles.length + 1 + clones) commands) :
    (board.run commands).1.map Except.isOk = commands.map PriceCommand.sound ∧
      Shares others (commands.foldl PriceMap.revise map) (clones + (commands.map PriceCommand.clones).sum)
        (board.run commands).2 := by
  induction commands generalizing board map clones with
  | nil => exact ⟨rfl, shares⟩
  | cons command rest ih =>
      obtain ⟨⟨first, last⟩, held⟩ := held
      obtain ⟨sound, next⟩ := perform_shares others board map clones shares command first last
      obtain ⟨outcomes, final⟩ := ih (board.perform command).2 (map.revise command) (clones + command.clones) next
        (by rwa [← Nat.add_assoc])
      have total : clones + ((command :: rest).map PriceCommand.clones).sum =
          clones + command.clones + (rest.map PriceCommand.clones).sum := by
        rw [List.map_cons, List.sum_cons, Nat.add_assoc]
      rw [total]
      exact ⟨congrArg₂ List.cons sound outcomes, final⟩

end PriceBoard

/-- Through any clone of a table every price is that of one map, and zero where the map lists none. -/
theorem clones_share_one_map (others : PriceBoard) (table : PriceTable) (commands : List PriceCommand)
    (held : Held others.handles.length (others.handles.length + 1) commands) :
    ∃ outcomes board, (others.add table).run commands = (outcomes, board) ∧
      outcomes.map Except.isOk = commands.map PriceCommand.sound ∧
      board.handles.length = others.handles.length + 1 + (commands.map PriceCommand.clones).sum ∧
      (∀ handle function priceClass, others.handles.length ≤ handle → handle < board.handles.length →
        board.price? handle function priceClass =
          some ((commands.foldl PriceMap.revise table.map (function, priceClass)).getD 0)) ∧
      ∀ handle function priceClass, handle < others.handles.length →
        board.price? handle function priceClass = others.price? handle function priceClass := by
  obtain ⟨sound, shares⟩ := PriceBoard.run_shares others _ _ 0 (others.add_shares table) commands held
  rw [Nat.zero_add] at shares
  refine ⟨_, _, rfl, sound, shares.handle_count, ?_, ?_⟩
  · intro handle function priceClass first last
    exact shares.price handle first (shares.handle_count ▸ last) function priceClass
  · intro handle function priceClass foreign
    exact shares.foreign_price handle foreign function priceClass

namespace Sample

def backwards : VisitOrder :=
  ⟨List.reverse, fun _ => List.reverse, fun _ => List.reverse_perm _, fun _ _ => List.reverse_perm _⟩

def newPrices : String := "\x7b\"TokenMint\": \x7b\"Default\": 4, \"TokenFungibleCommon\": 9\x7d\x7d"

def misspeltPrices : String := "\x7b\"TokenMint\": \x7b\"TokenFungibleCommon\": 8, \"Rare\": 1\x7d\x7d"

def repricing : List PriceCommand := [
  .clone 1, .set 2 .tokenMint .fungible 7, .set 1 .tokenBurn .fungible 3, .clone 2,
  .reload 3 .written misspeltPrices, .reload 3 backwards misspeltPrices]

end Sample

theorem failed_and_whole_reload :
    ∃ outcomes board, ((PriceBoard.empty.add .empty).add .empty).run
        (Sample.repricing ++ [.reload 1 Sample.backwards Sample.newPrices]) = (outcomes, board) ∧
      outcomes.map Except.isOk = [true, true, true, true, false, false, true] ∧
      board.price? 3 .tokenMint .fungible = some 9 ∧ board.price? 2 .tokenBurn .fungible = some 0 := by
  obtain ⟨outcomes, board, ran, sound, count, shared, _⟩ :=
    clones_share_one_map (PriceBoard.empty.add .empty) .empty
      (Sample.repricing ++ [.reload 1 Sample.backwards Sample.newPrices]) (by simp [Held, Sample.repricing,
        PriceCommand.handle, PriceCommand.clones, PriceBoard.add, PriceBoard.empty])
  have handles : board.handles.length = 4 := count.trans (by decide +kernel)
  refine ⟨outcomes, board, ran, sound.trans (by decide +kernel), ?_, ?_⟩
  · exact (shared 3 _ _ (by decide) (by rw [handles]; decide)).trans (by decide +kernel)
  · exact (shared 2 _ _ (by decide) (by rw [handles]; decide)).trans (by decide +kernel)

end TokenService
