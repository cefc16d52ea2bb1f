import TokenService.Price.Table
import TokenService.Transaction

set_option autoImplicit false

namespace TokenService

structure Fee where
  node : UInt64
  network : UInt64
  service : UInt64
  deriving DecidableEq, Repr

namespace Fee

def total (fee : Fee) : UInt64 := addSaturating (addSaturating fee.node fee.network) fee.service

end Fee

structure Rate where
  hbar : UInt32
  cent : UInt32
  deriving DecidableEq, Repr

namespace Rate

-- In 128 bits, which no product of an amount and a rate fills.
def product (rate : Rate) (tinycents : UInt64) : BitVec 128 :=
  tinycents.toBitVec.setWidth 128 * rate.hbar.toBitVec.setWidth 128

def cents (rate : Rate) : UInt32 := max rate.cent 1

def tinybars (rate : Rate) (tinycents : UInt64) : UInt64 :=
  saturate (rate.product tinycents / rate.cents.toBitVec.setWidth 128).toNat

end Rate

def gasFor (tinybars gasPrice : UInt64) : UInt64 := mulSaturating (tinybars / max gasPrice 1) 6 / 5

namespace Creation

def priceClass (creation : Creation) : PriceClass :=
  match creation.type, creation.customFees with
  | .fungible, [] => .fungible
  | .fungible, _ => .fungibleWithFees
  | .nonFungible, [] => .nonFungible
  | .nonFungible, _ => .nonFungibleWithFees

end Creation

namespace Body

def priceClass : Body → PriceClass
  | .mint order => if order.metadata.isEmpty then .fungible else .nonFungible
  | .burn order => if order.serials.isEmpty then .fungible else .nonFungible
  | .wipe order => if order.serials.isEmpty then .fungible else .nonFungible
  | .create creation => creation.priceClass
  | _ => .default

-- A transfer is priced by its entries, an adjustment at half of its price.
def minimumTinycents (body : Body) (table : PriceTable) : UInt64 :=
  let price := table.price body.function
  match body with
  | .transfer hbar tokens =>
      let units := mulSaturating (price .fungible / 2) (tokens.flatMap fun moves => moves.adjustments).length
      let nfts := mulSaturating (price .nonFungible) (tokens.flatMap fun moves => moves.nftMoves).length
      addSaturating (addSaturating units nfts) (mulSaturating (price .default / 2) hbar.length)
  | _ => table.price body.function body.priceClass

end Body

structure Market where
  fee : Transaction → AccountId → Timestamp → Fee
  queryFee : NativeFunction → Timestamp → Fee
  gasPrice : NativeFunction → Timestamp → UInt64
  rate : Timestamp → Rate

structure Quote where
  fee : Fee
  minimumTinybars : UInt64
  gasPrice : UInt64
  gas : UInt64
  deriving DecidableEq, Repr

namespace Quote

def of (fee : Fee) (minimumTinybars gasPrice : UInt64) : Quote :=
  { fee := fee
    minimumTinybars := minimumTinybars
    gasPrice := gasPrice
    gas := gasFor (max minimumTinybars fee.total) gasPrice }

end Quote

namespace Market

def quote (market : Market) (table : PriceTable) (transaction : Transaction) (payer : AccountId) (now : Timestamp) :
    Quote :=
  .of (market.fee transaction payer now) ((market.rate now).tinybars (transaction.body.minimumTinycents table))
    (market.gasPrice .contractCall now)

-- A query has no canonical minimum.
def queryQuote (market : Market) (function : NativeFunction) (now : Timestamp) : Quote :=
  .of (market.queryFee function now) 0 (market.gasPrice .contractCall now)

end Market

end TokenService
