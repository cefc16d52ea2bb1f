import TokenService.Ledger.View

set_option autoImplicit false

namespace TokenService

inductive Failure where
  | status (status : Status)
  | other (reason : String)
  | resourceLimit (reason : String)
  | overflow (operation : Overflow)
  deriving DecidableEq, Repr

abbrev Work (α : Type) := ExceptT Failure (StateM View) α

inductive Execution where
  | completed
  | minted (newTotalSupply : Int64) (serials : List Int64)
  | supplyChanged (newTotalSupply : Int64)
  | created (token : TokenId)
  deriving DecidableEq, Repr

namespace Work

def refuse {α : Type} (status : Status) : Work α := throw (.status status)

def require (rule : Bool) (status : Status) : Work Unit := if rule then pure () else refuse status

def read {α : Type} (look : View → Except Status α) : Work α := do
  let view ← get
  match look view with
  | .ok value => pure value
  | .error status => refuse status

def change (step : View → View) : Work Unit := modify step

def exact {α : Type} (result : Except Overflow α) : Work α :=
  match result with
  | .ok value => pure value
  | .error operation => throw (.overflow operation)

def allocate : Work UInt64 := do
  let view ← get
  let (number, view) ← exact view.allocate
  set view
  pure number

def adjusted (balance delta : Int64) (insufficient : Status) : Work Int64 :=
  match int64? (balance.toInt + delta.toInt) with
  | some updated => if 0 ≤ updated then pure updated else refuse insufficient
  | none => refuse insufficient

end Work

end TokenService
