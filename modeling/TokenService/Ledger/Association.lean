import TokenService.Ledger.Work
import TokenService.Transaction

set_option autoImplicit false

namespace TokenService.Work

def associateOne (account : AccountId) (id : TokenId) : Work Unit := do
  let token ← read (·.existingToken id)
  let view ← get
  require (view.relationship account id).isNone .tokenAlreadyAssociatedToAccount
  change (·.putRelationship account id
    { frozen := token.freezeDefault && token.keys.freeze.isSome, kycGranted := token.keys.kyc.isNone })

def associate (association : Association) : Work Unit := do
  discard <| read (·.liveAccount association.account)
  association.tokens.forM (associateOne association.account)

-- A token that is gone holds nobody back.
def checkRelease (account : AccountId) (relationship : Relationship) (token : Except Status Token) : Work Unit :=
  match token with
  | .ok token => do
      require (token.treasury != account) .accountIsTreasury
      require (relationship.balance == 0) .transactionRequiresZeroTokenBalances
  | .error _ => pure ()

def dissociateOne (account : AccountId) (id : TokenId) : Work Unit := do
  let relationship ← read (·.presentRelationship account id)
  let view ← get
  checkRelease account relationship (view.existingToken id)
  change (·.removeRelationship account id)

def dissociate (association : Association) : Work Unit := do
  discard <| read (·.liveAccount association.account)
  association.tokens.forM (dissociateOne association.account)

def setPaused (paused : Bool) (id : TokenId) : Work Unit := do
  let token ← read (·.existingToken id)
  change (·.putToken { token with paused := paused })

end TokenService.Work
