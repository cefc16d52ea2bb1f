import TokenService.Abi.Decode
import TokenService.Call.Function

set_option autoImplicit false

namespace TokenService

inductive WideArgument where
  | amount
  | initialTotalSupply
  | decimals
  | serialNumber
  | keyType
  | tokenId
  deriving DecidableEq, Repr

namespace WideArgument

def name : WideArgument → String
  | .amount => "amount"
  | .initialTotalSupply => "initialTotalSupply"
  | .decimals => "decimals"
  | .serialNumber => "serialNumber"
  | .keyType => "keyType"
  | .tokenId => "tokenId"

end WideArgument

inductive KeyFault where
  | wideMask
  | ed25519Length (length : Nat)
  | secp256k1Length (length : Nat)
  | severalKinds (kinds : Nat)
  deriving DecidableEq, Repr

namespace KeyFault

def message : KeyFault → String
  | .wideMask => "key type overflows"
  | .ed25519Length length => s!"ed25519 key of {length} bytes"
  | .secp256k1Length length => s!"secp256k1 key of {length} bytes"
  | .severalKinds kinds => s!"{kinds} key kinds set in one key value"

end KeyFault

inductive DecodeFault where
  | abi (fault : Abi.Fault)
  | shortRedirect (length : Nat)
  | overflow (argument : WideArgument)
  | lengthMismatch (left right : Nat)
  | invalidKey (fault : KeyFault)
  deriving DecidableEq, Repr

namespace DecodeFault

def message : DecodeFault → String
  | .abi fault => s!"invalid abi payload: {fault.message}"
  | .shortRedirect length => s!"redirect payload of {length} bytes is shorter than its header"
  | .overflow argument => s!"{argument.name} value overflows a signed 64-bit integer"
  | .lengthMismatch left right => s!"parallel arrays differ in length: {left} vs {right}"
  | .invalidKey fault => s!"invalid key: {fault.message}"

end DecodeFault

inductive DispatchFault where
  | decode (fault : DecodeFault)
  | disabled (family : Family)
  | unsupported (facade : Facade)
  deriving DecidableEq, Repr

namespace DispatchFault

def message : DispatchFault → String
  | .decode fault => fault.message
  | .disabled family => s!"{family.name} is not enabled"
  | .unsupported facade => facade.refusal

end DispatchFault

end TokenService
