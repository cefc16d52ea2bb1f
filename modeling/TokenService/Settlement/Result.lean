import TokenService.Bounded
import TokenService.Settlement.Frame
import TokenService.Status

set_option autoImplicit false

namespace TokenService

inductive Stage where
  | idle
  | fieldsPrepared
  | computationPrepared
  | executed
  | finalized
  | halted
  deriving DecidableEq, Repr

namespace Stage

def all : List Stage := [.idle, .fieldsPrepared, .computationPrepared, .executed, .finalized, .halted]

def name : Stage → String
  | .idle => "Idle"
  | .fieldsPrepared => "FieldsPrepared"
  | .computationPrepared => "ComputationPrepared"
  | .executed => "Executed"
  | .finalized => "Finalized"
  | .halted => "Halted"

def next : Stage → Stage
  | .idle => .fieldsPrepared
  | .fieldsPrepared => .computationPrepared
  | .computationPrepared => .executed
  | .executed => .finalized
  | .finalized => .finalized
  | .halted => .halted

end Stage

structure Settlement where
  status : Status
  output : Option Bytes
  gas : UInt64
  revertReason : Option String := none
  haltReason : Option HaltReason := none
  stage : Stage := .finalized
  deriving DecidableEq, Repr

inductive SettlementFault where
  | resourceLimit (reason : String)
  | store (reason : String)
  | overflow (operation : Overflow)
  deriving DecidableEq, Repr

namespace SettlementFault

def message : SettlementFault → String
  | .resourceLimit reason => s!"resource limit exceeded: {reason}"
  | .store reason => s!"ledger store rejected changes: {reason}"
  | .overflow operation => operation.message

end SettlementFault

inductive Stop where
  | revert (reason : String)
  | halt (reason : HaltReason)
  | noOperation
  deriving DecidableEq, Repr

namespace Stop

def frame (frame : Frame) : Stop → Frame
  | .revert reason => frame.revert reason
  | .halt reason => frame.halt reason
  | .noOperation => frame

def settlement (gas : UInt64) : Stop → Settlement
  | .revert reason =>
      { status := .contractRevertExecuted, output := none, gas := gas, revertReason := some reason }
  | .halt reason =>
      { status := if reason = .notSupported then .notSupported else .failInvalid
        output := none
        gas := gas
        haltReason := some reason
        stage := .halted }
  | .noOperation => { status := .ok, output := some [], gas := gas }

end Stop

-- Why a prepared operation fails. Only a failure of the rules reverts the frame.
inductive Refusal where
  | denied (status : Status)
  | malformed (status : Status)
  | failed (status : Status)
  deriving DecidableEq, Repr

namespace Refusal

def status : Refusal → Status
  | .denied status => status
  | .malformed status => status
  | .failed status => status

def revertReason : Refusal → Option String
  | .failed status => some status.name
  | _ => none

end Refusal

end TokenService
