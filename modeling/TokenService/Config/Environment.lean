import TokenService.Config.Document
import TokenService.Text.Blank
import TokenService.Text.Quoted

set_option autoImplicit false

namespace TokenService

namespace ConfigFault

def message : ConfigFault → String
  | .missing => "missing hts config in chainspec extras"
  | .invalid => "invalid hts config"
  | .emptyVariable name => s!"environment variable {name} is empty"
  | .invalidVariable name value => s!"environment variable {name} has invalid value {Text.quote value}"
  | .invalidAddress => "invalid address"

end ConfigFault

abbrev Environment := String → Option String

namespace Environment

def text (environment : Environment) (name : String) : Except ConfigFault (Option String) :=
  match environment name with
  | none => .ok none
  | some raw => if (Text.trim raw).isEmpty then .error (.emptyVariable name) else .ok (some (Text.trim raw))

def value {α : Type} (environment : Environment) (parse : String → Option α) (default : α) (name : String) :
    Except ConfigFault α := do
  match ← environment.text name with
  | none => pure default
  | some text =>
      match parse text with
      | some value => pure value
      | none => throw (.invalidVariable name text)

end Environment

namespace Config

-- Decimal digits after an optional plus sign.
def parseNumber (text : String) : Option UInt64 :=
  let digits := match text.toList with
    | '+' :: rest => rest
    | all => all
  if digits.isEmpty || !digits.all Char.isDigit then none
  else uint64? (digits.foldl (fun number digit => number * 10 + (digit.toNat - 48)) 0)

def parseFlag (text : String) : Option Bool :=
  if text = "true" then some true else if text = "false" then some false else none

def parts : List Char → List (List Char)
  | [] => [[]]
  | ',' :: rest => [] :: parts rest
  | char :: rest =>
      match parts rest with
      | [] => [[char]]
      | first :: others => (char :: first) :: others

def parseCallers (text : String) : Option (Table Address Unit) :=
  ((parts text.toList).mapM fun part => Address.ofText? (Text.trim (String.ofList part))).map callers

def ofEnvironment (environment : Environment) : Except ConfigFault Config := do
  let standard : Config := {}
  let defaultGasCost ← environment.value parseNumber standard.defaultGasCost "HTS_DEFAULT_GAS_COST"
  let allowancesEnabled ← environment.value parseFlag standard.allowancesEnabled "HTS_ALLOWANCES_ENABLED"
  let createEnabled ← environment.value parseFlag standard.createEnabled "HTS_CREATE_ENABLED"
  let atomicTransferEnabled ←
    environment.value parseFlag standard.atomicTransferEnabled "HTS_ATOMIC_CRYPTO_TRANSFER_ENABLED"
  let hrcAssociateEnabled ← environment.value parseFlag standard.hrcAssociateEnabled "HTS_HRC_ASSOCIATE_ENABLED"
  let exportResults ← environment.value parseFlag standard.exportResults "HTS_EXPORT_PRECOMPILE_RESULTS"
  let ledgerId ← environment.text "HTS_LEDGER_ID"
  let delegateCallers ← match ← environment.text "HTS_PERMITTED_DELEGATE_CALLERS" with
    | none => pure standard.delegateCallers
    | some text =>
        match parseCallers text with
        | some callers => pure callers
        | none => throw .invalidAddress
  pure
    { standard with
      defaultGasCost := defaultGasCost
      allowancesEnabled := allowancesEnabled
      createEnabled := createEnabled
      atomicTransferEnabled := atomicTransferEnabled
      hrcAssociateEnabled := hrcAssociateEnabled
      exportResults := exportResults
      ledgerId := ledgerId.getD standard.ledgerId
      delegateCallers := delegateCallers }

end Config

end TokenService
