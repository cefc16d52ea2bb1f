import TokenService.Config
import TokenService.Json.Value

set_option autoImplicit false

namespace TokenService

inductive ConfigFault where
  | missing
  | invalid
  | emptyVariable (name : String)
  | invalidVariable (name value : String)
  | invalidAddress
  deriving DecidableEq, Repr

namespace Config

def readFlag : Json → Option Bool
  | .bool value => some value
  | _ => none

def readText : Json → Option String
  | .string text => some text
  | _ => none

def readByte : Json → Option UInt8
  | .whole number => if 0 ≤ number ∧ number < 256 then some (UInt8.ofNat number.toNat) else none
  | _ => none

-- The twenty bytes one by one. A single item behind them does no harm, unless it could be one more
-- byte.
def readAddressBytes (items : List Json) : Option Address :=
  let end? := match items.drop 20 with
    | [] => items.length == 20
    | [item] => (readByte item).isNone
    | _ => false
  if end? then ((items.take 20).mapM readByte).map Address.ofBytes else none

def readAddress : Json → Option Address
  | .string text => Address.ofText? text
  | .array items => readAddressBytes items
  | _ => none

def readCallers : Json → Option (Table Address Unit)
  | .array items => (items.mapM readAddress).map callers
  | _ => none

def readOr {α : Type} (read : Json → Option α) (default : α) : Option Json → Option α
  | some value => read value
  | none => some default

def fieldNames : List String := [
  "defaultGasCost", "allowancesEnabled", "createEnabled", "atomicCryptoTransferEnabled", "hrcAssociateEnabled",
  "exportPrecompileResults", "permittedDelegateCallers", "ledgerId", "maxTokenNameUtf8Bytes",
  "maxTokenSymbolUtf8Bytes"]

def readValues (value? : String → Option Json) : Option Config := do
  let standard : Config := {}
  let defaultGasCost ← readOr Json.uint64 standard.defaultGasCost (value? "defaultGasCost")
  let allowancesEnabled ← readOr readFlag standard.allowancesEnabled (value? "allowancesEnabled")
  let createEnabled ← readOr readFlag standard.createEnabled (value? "createEnabled")
  let atomicTransferEnabled ← readOr readFlag standard.atomicTransferEnabled (value? "atomicCryptoTransferEnabled")
  let hrcAssociateEnabled ← readOr readFlag standard.hrcAssociateEnabled (value? "hrcAssociateEnabled")
  let exportResults ← readOr readFlag standard.exportResults (value? "exportPrecompileResults")
  let delegateCallers ← readOr readCallers standard.delegateCallers (value? "permittedDelegateCallers")
  let ledgerId ← readOr readText standard.ledgerId (value? "ledgerId")
  let maxNameBytes ← readOr Json.uint64 standard.maxNameBytes (value? "maxTokenNameUtf8Bytes")
  let maxSymbolBytes ← readOr Json.uint64 standard.maxSymbolBytes (value? "maxTokenSymbolUtf8Bytes")
  pure
    { defaultGasCost := defaultGasCost
      allowancesEnabled := allowancesEnabled
      createEnabled := createEnabled
      atomicTransferEnabled := atomicTransferEnabled
      hrcAssociateEnabled := hrcAssociateEnabled
      exportResults := exportResults
      delegateCallers := delegateCallers
      ledgerId := ledgerId
      maxNameBytes := maxNameBytes
      maxSymbolBytes := maxSymbolBytes }

def ofSection? : Json → Option Config
  | .object fields => readValues fun name => Json.lookup name fields
  | .array items =>
      if items.length ≤ fieldNames.length then readValues fun name => Json.lookup name (fieldNames.zip items) else none
  | _ => none

def toSection (config : Config) : Json :=
  .object (fieldNames.zip [
    .whole config.defaultGasCost.toNat, .bool config.allowancesEnabled, .bool config.createEnabled,
    .bool config.atomicTransferEnabled, .bool config.hrcAssociateEnabled, .bool config.exportResults,
    .array (config.delegateCallers.keys.map fun caller => .string caller.text), .string config.ledgerId,
    .whole config.maxNameBytes.toNat, .whole config.maxSymbolBytes.toNat])

def ofDocument (document : Json) : Except ConfigFault Config :=
  match document.field? "hts" with
  | none => .error .missing
  | some value =>
      match ofSection? value with
      | some config => .ok config
      | none => .error .invalid

end Config

end TokenService
