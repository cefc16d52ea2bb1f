import TokenService.Ledger.Work
import TokenService.Transaction

set_option autoImplicit false

namespace TokenService.Work

def initialExpiry (expiry : Expiry) (now : Timestamp) : Expiry :=
  if expiry.second = 0 then { expiry with second := clamp (now.seconds.toInt + expiry.autoRenewPeriod.toInt) }
  else expiry

def checkRenewer (renewer : Option AccountId) : Work Unit :=
  match renewer with
  | some account => discard <| read (·.liveAccount account)
  | none => pure ()

def created (order : Creation) (id : TokenId) (now : Timestamp) : Token :=
  { id := id
    type := order.type
    supplyType := order.supplyType
    name := order.name
    symbol := order.symbol
    memo := order.memo
    treasury := order.treasury
    decimals := order.decimals.toUInt32
    totalSupply := order.initialSupply
    maxSupply := order.maxSupply
    freezeDefault := order.freezeDefault
    kycGrantedByDefault := order.keys.kyc.isNone
    keys := order.keys
    expiry := initialExpiry order.expiry now
    customFees := order.customFees }

-- The new token takes the shard and realm of its treasury, which holds the initial supply.
def create (order : Creation) (now : Timestamp) : Work Execution := do
  let treasury ← read fun view => (view.liveAccount order.treasury).mapError fun _ => .invalidTreasuryAccountForToken
  checkRenewer order.expiry.autoRenewAccount
  require (0 ≤ order.decimals) .invalidTokenDecimals
  let number ← allocate
  let id : TokenId := ⟨treasury.id.shard, treasury.id.realm, number⟩
  change (·.putToken (created order id now))
  change (·.putRelationship order.treasury id { balance := order.initialSupply, kycGranted := true })
  pure (.created id)

-- A fungible supply moves with the treasury.
def moveSupply (token : Token) (successor : AccountId) (incoming : Relationship) : Work Unit :=
  match token.type with
  | .fungible => do
      let outgoing ← read (·.presentRelationship token.treasury token.id)
      let balance ← adjusted incoming.balance outgoing.balance .invalidAccountAmounts
      change (·.putRelationship token.treasury token.id { outgoing with balance := 0 })
      change (·.putRelationship successor token.id { incoming with balance := balance })
  | .nonFungible => pure ()

def moveTreasury (token : Token) (successor : AccountId) : Work Unit :=
  if successor = token.treasury then pure ()
  else do
    discard <| read (·.liveAccount successor)
    let incoming ← read (·.usableRelationship successor token.id)
    moveSupply token successor incoming

def revised (order : Update) (token : Token) : Token :=
  { token with
    name := order.name.getD token.name
    symbol := order.symbol.getD token.symbol
    memo := order.memo.getD token.memo
    treasury := order.treasury.getD token.treasury
    keys := token.keys.override order.keys
    expiry :=
      { second := order.expirySecond.getD token.expiry.second
        autoRenewAccount := order.autoRenewAccount.or token.expiry.autoRenewAccount
        autoRenewPeriod := order.autoRenewPeriod.getD token.expiry.autoRenewPeriod } }

def update (order : Update) : Work Unit := do
  let token ← read (·.usableToken order.token)
  moveTreasury token (order.treasury.getD token.treasury)
  checkRenewer order.autoRenewAccount
  change (·.putToken (revised order token))

end TokenService.Work
