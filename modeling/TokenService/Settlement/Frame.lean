import TokenService.Entity.Id

set_option autoImplicit false

namespace TokenService

structure ParentFrame where
  contract : Address
  recipient : Address
  deriving DecidableEq, Repr

namespace ParentFrame

def isDelegating (parent : ParentFrame) : Bool := parent.contract != parent.recipient

end ParentFrame

inductive FrameState where
  | running
  | reverted
  | halted
  deriving DecidableEq, Repr

inductive HaltReason where
  | undecodableInput
  | notSupported
  | invalidDelegate
  | missingFrameField
  deriving DecidableEq, Repr

namespace HaltReason

def name : HaltReason → String
  | .undecodableInput => "ERROR_DECODING_PRECOMPILE_INPUT"
  | .notSupported => "NOT_SUPPORTED"
  | .invalidDelegate => "INVALID_DELEGATE"
  | .missingFrameField => "MISSING_FRAME_FIELD"

end HaltReason

structure Frame where
  sender : Address
  contract : Address
  recipient : Address
  remainingGas : UInt64
  value : BitVec 256
  isStatic : Bool
  consensusTime : Timestamp
  parent : Option ParentFrame
  state : FrameState := .running
  revertReason : Option String := none
  haltReason : Option HaltReason := none
  deriving DecidableEq, Repr

namespace Frame

def isDelegate (frame : Frame) : Bool := frame.parent.any ParentFrame.isDelegating

-- Whose authority counts: in a delegate call the owner of the storage, otherwise the caller.
def activeContract (frame : Frame) : Address :=
  match frame.parent with
  | some parent => if parent.isDelegating then parent.recipient else frame.sender
  | none => frame.sender

def revert (frame : Frame) (reason : String) : Frame := { frame with state := .reverted, revertReason := some reason }

def halt (frame : Frame) (reason : HaltReason) : Frame := { frame with state := .halted, haltReason := some reason }

end Frame

end TokenService
