import TokenService.Entity.Id
import TokenService.Table

set_option autoImplicit false

namespace TokenService

-- With no delegate caller listed every caller is permitted.
structure Config where
  defaultGasCost : UInt64 := 10000
  allowancesEnabled : Bool := true
  createEnabled : Bool := true
  atomicTransferEnabled : Bool := true
  hrcAssociateEnabled : Bool := true
  exportResults : Bool := false
  delegateCallers : Table Address Unit := ∅
  ledgerId : String := "0x03"
  maxNameBytes : UInt64 := 100
  maxSymbolBytes : UInt64 := 100
  deriving DecidableEq, Inhabited

inductive Family where
  | tokenCreate
  | atomicTransfer
  | allowances
  | hrcAssociate
  deriving DecidableEq, Repr

namespace Family

def name : Family → String
  | .tokenCreate => "token create"
  | .atomicTransfer => "atomic crypto transfer"
  | .allowances => "allowances"
  | .hrcAssociate => "hrc associate"

end Family

namespace Config

def enables (config : Config) : Family → Bool
  | .tokenCreate => config.createEnabled
  | .atomicTransfer => config.atomicTransferEnabled
  | .allowances => config.allowancesEnabled
  | .hrcAssociate => config.hrcAssociateEnabled

def callers (addresses : List Address) : Table Address Unit :=
  Table.ofList (addresses.map fun address => (address, ()))

def permitsDelegate (config : Config) (caller : Address) : Bool :=
  config.delegateCallers.rows.isEmpty || config.delegateCallers.contains caller

end Config

end TokenService
