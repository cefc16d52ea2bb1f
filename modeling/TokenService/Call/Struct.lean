import TokenService.Abi.Type
import TokenService.Call.Operation

set_option autoImplicit false

namespace TokenService

open Abi

namespace Generation

def capAtom : Generation → Atom
  | .first => .uint32
  | .second => .int64
  | .third => .int64

def timeAtom : Generation → Atom
  | .first => .uint32
  | .second => .uint32
  | .third => .int64

def supplyAtom : Generation → Atom
  | .first => .uint256
  | .second => .uint64
  | .third => .int64

def decimalsAtom : Generation → Atom
  | .first => .uint256
  | .second => .uint32
  | .third => .int32

end Generation

namespace Struct

-- Inherit, contract, ed25519 bytes, secp256k1 bytes, delegatable contract.
abbrev keyValue : Ty := .tuple [.bool, .address, .bytes, .bytes, .address]

abbrev tokenKey : Ty := .tuple [.uint256, keyValue]

-- Second, auto-renew account, auto-renew period.
abbrev expiry (generation : Generation) : Ty :=
  .tuple [.atom generation.timeAtom, .address, .atom generation.timeAtom]

-- Name, symbol, treasury, memo, finite supply, cap, freeze default, keys, expiry.
abbrev token (generation : Generation) : Ty :=
  .tuple [.string, .string, .address, .string, .bool, .atom generation.capAtom, .bool, .array tokenKey,
    expiry generation]

-- Amount, token, in hbar, in the moved token, collector.
abbrev fixedFee : Ty := .tuple [.int64, .address, .bool, .bool, .address]

-- Numerator, denominator, minimum, maximum, net of transfers, collector.
abbrev fractionalFee : Ty := .tuple [.int64, .int64, .int64, .int64, .bool, .address]

-- Numerator, denominator, fallback amount, fallback token, fallback in hbar, collector.
abbrev royaltyFee : Ty := .tuple [.int64, .int64, .int64, .address, .bool, .address]

abbrev plainAdjustment : Ty := .tuple [.address, .int64]

-- Sender, receiver and serial.
abbrev plainNftMove : Ty := .tuple [.address, .address, .int64]

abbrev plainMoves : Ty := .tuple [.address, .array plainAdjustment, .array plainNftMove]

-- Account, amount and approval.
abbrev adjustment : Ty := .tuple [.address, .int64, .bool]

-- Sender, receiver, serial and approval.
abbrev nftMove : Ty := .tuple [.address, .address, .int64, .bool]

abbrev moves : Ty := .tuple [.address, .array adjustment, .array nftMove]

-- Token, supply, deleted, default KYC, paused, the fees by kind, ledger name.
abbrev tokenInfo : Ty :=
  .tuple [token .third, .int64, .bool, .bool, .bool, .array fixedFee, .array fractionalFee, .array royaltyFee,
    .string]

abbrev fungibleInfo : Ty := .tuple [tokenInfo, .int32]

-- Info, serial, owner, creation time, metadata, spender.
abbrev nftInfo : Ty := .tuple [tokenInfo, .int64, .address, .int64, .bytes, .address]

end Struct

end TokenService
