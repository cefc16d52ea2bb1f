import TokenService.Authority
import TokenService.Call.Native
import TokenService.Call.Output
import TokenService.Ledger.Rules
import TokenService.Price.Quote
import TokenService.Record
import TokenService.Settlement.Result
import TokenService.WellFormed

set_option autoImplicit false

namespace TokenService

structure Service where
  config : Config
  rules : Rules
  market : Market
  prices : PriceTable

-- What the host lends to one call. The store may refuse changes and give its reason.
structure Host where
  ledger : Option Ledger
  refuses : Changes → Option String
  resolve : Address → Address
  keepsRecords : Bool
  signed : Key → Bool

/-- All that a call leaves behind. Offered are the changes that the store was asked to take, each time it was asked;
applied are those that it took. -/
structure Settled where
  result : Except SettlementFault Settlement
  frame : Frame
  record : Option (Record × Transaction) := none
  offered : List Changes := []
  applied : Option Changes := none

namespace Settled

def ledgerAfter (settled : Settled) (ledger : Ledger) : Ledger :=
  match settled.applied with
  | some changes => ledger.apply changes
  | none => ledger

end Settled

structure Prepared where
  call : ResolvedCall
  transaction : Transaction
  sender : AccountId
  view : View
  stage : Stage

namespace Operation

def approvedNftOwner (view : View) : Operation → Option AccountId
  | .approve token _ (.serial serial) => do
      let nft ← view.nft ⟨token, serial⟩
      if nft.owner.isZero then (view.token token).map Token.treasury else some nft.owner
  | _ => none

end Operation

namespace View

-- Hand all changes to a store that may refuse them; the effects are those of the changes on the
-- ledger before.
def commit (view : View) (refuses : Changes → Option String) : Except SettlementFault Effects :=
  match view.changes.effects view.ledger with
  | .error overflow => .error (.overflow overflow)
  | .ok effects =>
      match refuses view.changes with
      | some reason => .error (.store reason)
      | none => .ok effects

end View

namespace Service

def nonPayable : String := "Transfer of value to a non-payable precompile"

def notStatic : String := "HTS precompiles are not static"

def permitsDelegate (service : Service) (host : Host) (frame : Frame) : Bool :=
  host.ledger.any (fun ledger => (ledger.tokens.get? (.ofAddress frame.activeContract)).isSome) ||
    service.config.permitsDelegate frame.activeContract

def guard (service : Service) (host : Host) (frame : Frame) (input : Bytes) : Except Stop Ledger :=
  if frame.value ≠ 0 ∧ !(Selector.ofInput? input).any Selector.isPayable then .error (.revert nonPayable)
  else if frame.isStatic ∧ !isViewInput input then .error (.revert notStatic)
  else if frame.isDelegate ∧ !service.permitsDelegate host frame then .error (.halt .invalidDelegate)
  else match host.ledger, host.keepsRecords with
    | some ledger, true => .ok ledger
    | _, _ => .error (.halt .missingFrameField)

def setting (service : Service) (host : Host) (frame : Frame) (view : View) : CallSetting :=
  { sender := .ofAddress (host.resolve frame.sender)
    resolve := host.resolve
    tokenType? := view.tokenType
    config := service.config }

end Service

namespace DispatchFault

def stop : DispatchFault → Stop
  | .decode _ => .halt .undecodableInput
  | .disabled _ => .halt .notSupported
  | .unsupported facade => .revert facade.refusal

end DispatchFault

namespace Service

def ready (service : Service) (host : Host) (frame : Frame) (ledger : Ledger) (call : ResolvedCall) : Prepared :=
  let view : View := { ledger := ledger }
  let sender := (service.setting host frame view).sender
  let caller : Caller :=
    { sender := sender
      key := (view.account sender).bind Account.key
      nftOwner := call.operation.approvedNftOwner view }
  { call := call
    transaction := call.operation.transaction caller
    sender := sender
    view := view
    stage := Stage.idle.next.next }

def prepare (service : Service) (host : Host) (frame : Frame) (input : Bytes) : Except Stop Prepared := do
  let ledger ← service.guard host frame input
  match ← (dispatch (service.setting host frame { ledger := ledger }) input).mapError DispatchFault.stop with
  | none => throw .noOperation
  | some call => pure (service.ready host frame ledger call)

def quote (service : Service) (frame : Frame) (prepared : Prepared) : Quote :=
  if prepared.call.operation.isQuery then
    service.market.queryQuote prepared.call.operation.function frame.consensusTime
  else service.market.quote service.prices prepared.transaction prepared.sender frame.consensusTime

def authority (host : Host) (frame : Frame) : Authority :=
  { signed := host.signed
    activeContract := .ofAddress (host.resolve frame.activeContract)
    delegated := frame.isDelegate }

def evaluate (service : Service) (frame : Frame) (prepared : Prepared) : Except Failure (Bytes × View) :=
  match prepared.call.operation with
  | .query question =>
      match prepared.view.answer question with
      | .ok answer => .ok (answer.encode prepared.call.convention service.config.ledgerId, prepared.view)
      | .error status => .error (.status status)
  | operation =>
      match service.rules prepared.transaction.body prepared.sender frame.consensusTime prepared.view with
      | (.ok execution, view) => .ok (operation.encodeExecution prepared.call.convention execution, view)
      | (.error failure, _) => .error failure

def perform (service : Service) (host : Host) (frame : Frame) (prepared : Prepared) :
    Except SettlementFault (Except Refusal (Bytes × View)) :=
  match (authority host frame).check (some prepared.view) prepared.transaction.body prepared.sender with
  | .error status => .ok (.error (.denied status))
  | .ok () =>
      match prepared.transaction.body.check service.config with
      | .error status => .ok (.error (.malformed status))
      | .ok () =>
          match service.evaluate frame prepared with
          | .ok done => .ok (.ok done)
          | .error (.status status) => .ok (.error (.failed status))
          | .error (.other _) => .ok (.error (.failed .failInvalid))
          | .error (.resourceLimit reason) => .error (.resourceLimit reason)
          | .error (.overflow overflow) => .error (.overflow overflow)

-- The record of a prepared call; a call that failed has the name of its status for a reason.
def record (service : Service) (frame : Frame) (prepared : Prepared) (status : Status) (effects : Option Effects)
    (output : Bytes) (gas : UInt64) : Record × Transaction :=
  let details : CallDetails :=
    { contract := serviceContract
      result := output
      errorMessage := if effects.isSome then none else some status.name
      gasUsed := gas
      sender := prepared.sender }
  (.conclude status (effects.getD {}) prepared.transaction.memo frame.consensusTime
    (if service.config.exportResults then some details else none), prepared.transaction)

def settle (service : Service) (host : Host) (frame : Frame) (prepared : Prepared) : Settled :=
  let gas := (service.quote frame prepared).gas
  if frame.remainingGas < gas then
    { result := .ok { status := .insufficientGas, output := none, gas := gas }
      frame := frame
      record := some (service.record frame prepared .insufficientGas none [] gas) }
  else
    let stage := prepared.stage.next
    match service.perform host frame prepared with
    | .error fault => { result := .error fault, frame := frame }
    | .ok (.ok (output, view)) =>
        match view.commit host.refuses with
        | .error (.store reason) => { result := .error (.store reason), frame := frame, offered := [view.changes] }
        | .error fault => { result := .error fault, frame := frame }
        | .ok effects =>
            { result := .ok { status := .success, output := some output, gas := gas, stage := stage.next }
              frame := frame
              record := some (service.record frame prepared .success (some effects) output gas)
              offered := [view.changes]
              applied := some view.changes }
    | .ok (.error refusal) =>
        let output := prepared.call.operation.encodeFailure refusal.status
        { result := .ok
            { status := refusal.status
              output := some output
              gas := gas
              revertReason := refusal.revertReason
              stage := stage.next }
          frame := match refusal.revertReason with
            | some reason => frame.revert reason
            | none => frame
          record := some (service.record frame prepared refusal.status none output gas) }

/-- One call from start to end. -/
def compute (service : Service) (host : Host) (frame : Frame) (input : Bytes) : Settled :=
  match service.prepare host frame input with
  | .error stop =>
      { result := .ok (stop.settlement service.config.defaultGasCost), frame := stop.frame frame }
  | .ok prepared => service.settle host frame prepared

end Service

end TokenService
