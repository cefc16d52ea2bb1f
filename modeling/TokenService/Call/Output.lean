import TokenService.Abi.Encode
import TokenService.Call.Dispatch
import TokenService.Ledger.Answer
import TokenService.Ledger.Work

set_option autoImplicit false

namespace TokenService

open Abi

namespace Struct

def optionalAddress (id : Option EntityId) : Address := (id.map EntityId.toAddress).getD 0

-- A key made of other keys has no form of its own.
def ofKey : Option Key → keyValue.Val
  | some (.ed25519 bytes) => (false, (0 : Address), bytes, ([] : Bytes), (0 : Address), ())
  | some (.secp256k1 bytes) => (false, (0 : Address), ([] : Bytes), bytes, (0 : Address), ())
  | some (.contract id) => (false, id.toAddress, ([] : Bytes), ([] : Bytes), (0 : Address), ())
  | some (.delegatable id) => (false, (0 : Address), ([] : Bytes), ([] : Bytes), id.toAddress, ())
  | _ => (false, (0 : Address), ([] : Bytes), ([] : Bytes), (0 : Address), ())

def ofKeys (keys : TokenKeys) : List tokenKey.Val :=
  keys.filled.map fun (slot, key) => (slot.bit.toBitVec.setWidth 256, ofKey (some key), ())

def ofExpiry (value : Expiry) : (expiry .third).Val :=
  (value.second, optionalAddress value.autoRenewAccount, value.autoRenewPeriod, ())

def inHbar (fee : FixedFee) : Bool := fee.denomination.isNone && !fee.inMovedToken

def ofFixedFee (fee : FixedFee) : fixedFee.Val :=
  (fee.amount, optionalAddress fee.denomination, inHbar fee, fee.inMovedToken, fee.collector.toAddress, ())

def ofFractionalFee (fee : FractionalFee) : fractionalFee.Val :=
  (fee.numerator, fee.denominator, fee.minimum, fee.maximum, fee.netOfTransfers, fee.collector.toAddress, ())

def ofRoyaltyFee (fee : RoyaltyFee) : royaltyFee.Val :=
  (fee.numerator, fee.denominator, (fee.fallback.map FixedFee.amount).getD 0,
    optionalAddress (fee.fallback.bind FixedFee.denomination), fee.fallback.any inHbar, fee.collector.toAddress, ())

def fixedFees (fees : List CustomFee) : List fixedFee.Val :=
  fees.filterMap fun fee => match fee with
    | .fixed fee => some (ofFixedFee fee)
    | _ => none

def fractionalFees (fees : List CustomFee) : List fractionalFee.Val :=
  fees.filterMap fun fee => match fee with
    | .fractional fee => some (ofFractionalFee fee)
    | _ => none

def royaltyFees (fees : List CustomFee) : List royaltyFee.Val :=
  fees.filterMap fun fee => match fee with
    | .royalty fee => some (ofRoyaltyFee fee)
    | _ => none

def ofToken (row : Token) : (token .third).Val :=
  (row.name, row.symbol, row.treasury.toAddress, row.memo, row.supplyType == .finite, row.maxSupply,
    row.freezeDefault, ofKeys row.keys, ofExpiry row.expiry, ())

def ofTokenInfo (ledgerId : String) (row : Token) : tokenInfo.Val :=
  (ofToken row, row.totalSupply, row.deleted, row.kycGrantedByDefault, row.paused, fixedFees row.customFees,
    fractionalFees row.customFees, royaltyFees row.customFees, ledgerId, ())

-- Decimals beyond the range are reported as its end.
def ofFungibleInfo (ledgerId : String) (row : Token) : fungibleInfo.Val :=
  (ofTokenInfo ledgerId row, (int32? row.decimals.toNat).getD Int32.maxValue, ())

def ofNftInfo (ledgerId : String) (row : Token) (nft : Nft) : nftInfo.Val :=
  (ofTokenInfo ledgerId row, nft.id.serial, (nft.holder row).toAddress, nft.creationTime.seconds, nft.metadata,
    optionalAddress nft.spender, ())

end Struct

def amountWord (amount : Int64) : Word := (unsigned amount).toBitVec.setWidth 256

def statusBytes (status : Status) : Bytes := encode [.int32] (status.number, ())

namespace Operation

def encodeExecution (convention : Convention) (operation : Operation) (execution : Execution) : Bytes :=
  let success := Status.success.number
  match operation, execution with
  | .mint _ _, .minted supply serials =>
      encode [.int32, .uint64, .array .int64] (success, unsigned supply, serials, ())
  | .burn _ _, .supplyChanged supply => encode [.int32, .uint64] (success, unsigned supply, ())
  | .create _ _, .created token => encode [.int32, .address] (success, token.toAddress, ())
  | .transferAsset _ _ _ asset, _ =>
      match convention, asset with
      | .redirect _ _, .amount _ => encode [.bool] (true, ())
      | .redirect _ _, .serial _ => []
      | .direct, _ => statusBytes .success
  | .approve _ _ asset, _ =>
      match convention, asset with
      | .redirect _ _, .amount _ => encode [.bool] (true, ())
      | .direct, .amount _ => encode [.int32, .bool] (success, true, ())
      | .redirect _ _, .serial _ => []
      | .direct, .serial _ => statusBytes .success
  | .setApprovalForAll _ _ _, _ => if convention.isRedirect then [] else statusBytes .success
  | _, _ => statusBytes .success

def encodeFailure (operation : Operation) (status : Status) : Bytes :=
  match operation with
  | .mint _ _ => encode [.int32, .uint64, .array .int64] (status.number, (0 : UInt64), ([] : List Int64), ())
  | .burn _ _ => encode [.int32, .uint64] (status.number, (0 : UInt64), ())
  | .create _ _ => encode [.int32, .address] (status.number, (0 : Address), ())
  | _ => statusBytes status

end Operation

namespace Answer

def encode (convention : Convention) (ledgerId : String) (answer : Answer) : Bytes :=
  let success := Status.success.number
  match answer with
  | .info token => Abi.encode [.int32, Struct.tokenInfo] (success, Struct.ofTokenInfo ledgerId token, ())
  | .fungibleInfo token => Abi.encode [.int32, Struct.fungibleInfo] (success, Struct.ofFungibleInfo ledgerId token, ())
  | .nftInfo token nft => Abi.encode [.int32, Struct.nftInfo] (success, Struct.ofNftInfo ledgerId token nft, ())
  | .key value => Abi.encode [.int32, Struct.keyValue] (success, Struct.ofKey value, ())
  | .customFees fees =>
      Abi.encode [.int32, .array Struct.fixedFee, .array Struct.fractionalFee, .array Struct.royaltyFee]
        (success, Struct.fixedFees fees, Struct.fractionalFees fees, Struct.royaltyFees fees, ())
  | .expiry value => Abi.encode [.int32, Struct.expiry .third] (success, Struct.ofExpiry value, ())
  | .isToken known => Abi.encode [.int32, .bool] (success, known, ())
  | .type value => Abi.encode [.int32, .int32] (success, value.code, ())
  | .text value => Abi.encode [.string] (value, ())
  | .decimals value => Abi.encode [.uint256] (BitVec.ofNat 256 (min value.toNat 255), ())
  | .amount value => Abi.encode [.uint256] (amountWord value, ())
  | .owner value => Abi.encode [.address] (value.toAddress, ())
  | .allowance value =>
      match convention with
      | .redirect _ _ => Abi.encode [.uint256] (amountWord value, ())
      | .direct => Abi.encode [.int32, .uint256] (success, amountWord value, ())
  | .approved spender =>
      match convention with
      | .redirect _ _ => Abi.encode [.address] (spender.toAddress, ())
      | .direct => Abi.encode [.int32, .address] (success, spender.toAddress, ())
  | .approvedForAll value =>
      match convention with
      | .redirect _ _ => Abi.encode [.bool] (value, ())
      | .direct => Abi.encode [.int32, .bool] (success, value, ())

end Answer

end TokenService
