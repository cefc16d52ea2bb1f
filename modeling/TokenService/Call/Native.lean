import TokenService.Bounded
import TokenService.Call.Operation

set_option autoImplicit false

namespace TokenService

structure Caller where
  sender : AccountId
  key : Option Key := none
  nftOwner : Option AccountId := none

namespace KeyChoice

def resolve (caller : Caller) : KeyChoice → Option Key
  | .inherit => caller.key
  | .contract id => some (.contract id)
  | .ed25519 bytes => some (.ed25519 bytes)
  | .secp256k1 bytes => some (.secp256k1 bytes)
  | .delegatable id => some (.delegatable id)
  | .unset => none

end KeyChoice

-- A later key takes the slots of an earlier one.
def tokenKeys (caller : Caller) (arguments : List KeyArgument) : TokenKeys :=
  arguments.foldl (fun keys argument =>
    match argument.choice.resolve caller with
    | some key => keys.assign argument.mask key
    | none => keys) {}

namespace CreateOrder

def creation (caller : Caller) (order : CreateOrder) : Creation :=
  { name := order.name
    symbol := order.symbol
    treasury := order.treasury
    memo := order.memo
    type := order.type
    supplyType := order.supplyType
    maxSupply := order.maxSupply
    initialSupply := order.initialSupply
    decimals := order.decimals
    freezeDefault := order.freezeDefault
    keys := tokenKeys caller order.keys
    expiry := order.expiry
    customFees := order.customFees }

end CreateOrder

def nonEmpty (text : String) : Option String := if text.isEmpty then none else some text

def nonZero (number : Int64) : Option Int64 := if number = 0 then none else some number

namespace Update

def withExpiry (update : Update) (expiry : Expiry) : Update :=
  { update with
    expirySecond := nonZero expiry.second
    autoRenewAccount := expiry.autoRenewAccount
    autoRenewPeriod := nonZero expiry.autoRenewPeriod }

end Update

namespace InfoOrder

def update (caller : Caller) (order : InfoOrder) : Update :=
  Update.withExpiry
    { token := order.token
      name := nonEmpty order.name
      symbol := nonEmpty order.symbol
      treasury := order.treasury
      memo := nonEmpty order.memo
      keys := tokenKeys caller order.keys }
    order.expiry

end InfoOrder

def assetMoves (caller : Caller) (token : TokenId) (source : Option AccountId) (receiver : AccountId)
    (asset : Asset) : TokenMoves :=
  let owner := source.getD caller.sender
  let approval := owner != caller.sender
  match asset with
  | .amount units =>
      { token := token
        adjustments := [
          { account := owner, amount := clamp (-units.toInt), approval := approval },
          { account := receiver, amount := units }] }
  | .serial serial =>
      { token := token
        nftMoves := [{ sender := owner, receiver := receiver, serial := serial, approval := approval }] }

-- Approving nobody takes the allowance away; an operator approves on behalf of the owner.
def nftApproval (caller : Caller) (token : TokenId) (spender : AccountId) (serial : Int64) : Body :=
  let owner := caller.nftOwner.getD caller.sender
  if spender.isZero then .revoke [⟨token, owner, [serial]⟩]
  else .approve [] [] [{
    token := token
    owner := owner
    spender := spender
    serials := [serial]
    forAll := none
    delegatingSpender := if owner = caller.sender then none else some caller.sender }]

namespace Operation

def body (caller : Caller) : Operation → Body
  | .associate account token => .associate ⟨account, [token]⟩
  | .associateAll account tokens => .associate ⟨account, tokens⟩
  | .dissociate account token => .dissociate ⟨account, [token]⟩
  | .dissociateAll account tokens => .dissociate ⟨account, tokens⟩
  | .mint order _ => .mint order
  | .burn order _ => .burn order
  | .wipe order _ => .wipe order
  | .pause token => .pause token
  | .unpause token => .unpause token
  | .create order _ => .create (order.creation caller)
  | .updateInfo order _ => .update (order.update caller)
  | .updateKeys token keys => .update { token := token, keys := tokenKeys caller keys }
  | .updateExpiry token expiry _ => .update (Update.withExpiry { token := token } expiry)
  | .transfer _ hbar tokens => .transfer hbar tokens
  | .transferAsset token source receiver asset => .transfer [] [assetMoves caller token source receiver asset]
  | .approve token spender (.amount units) => .approve [] [⟨token, caller.sender, spender, units⟩] []
  | .approve token spender (.serial serial) => nftApproval caller token spender serial
  | .setApprovalForAll token operator approved =>
      .approve [] [] [{
        token := token
        owner := caller.sender
        spender := operator
        serials := []
        forAll := some approved
        delegatingSpender := none }]
  | .query question =>
      match question.nft? with
      | some id => .queryNft id
      | none => .queryToken question.token

def transaction (caller : Caller) (operation : Operation) : Transaction := { body := operation.body caller }

end Operation

end TokenService
