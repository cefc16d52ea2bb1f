import TokenService.Ledger.Work
import TokenService.Transaction

set_option autoImplicit false

namespace TokenService.Work

-- An allowance of nothing is none.
def granted {κ : Type} [Ord κ] [Std.TransOrd κ] [Std.LawfulEqOrd κ] (allowances : Table κ Int64) (key : κ)
    (amount : Int64) : Table κ Int64 :=
  if amount = 0 then allowances.erase key else allowances.insert key amount

def grantHbar (grant : HbarGrant) : Work Unit := do
  let owner ← read (·.liveAccount grant.owner)
  discard <| read (·.liveAccount grant.spender)
  change (·.putAccount { owner with hbarAllowances := granted owner.hbarAllowances grant.spender grant.amount })

def grantUnits (grant : UnitGrant) : Work Unit := do
  let owner ← read (·.liveAccount grant.owner)
  let token ← read (·.usableToken grant.token)
  require (token.type == .fungible) .invalidTransactionBody
  discard <| read (·.presentRelationship grant.owner token.id)
  change (·.putAccount
    { owner with tokenAllowances := granted owner.tokenAllowances ⟨token.id, grant.spender⟩ grant.amount })

def lendNft (token : TokenId) (owner spender : AccountId) (serial : Int64) : Work Unit := do
  let nft ← read fun view => View.demand (view.nft ⟨token, serial⟩) .invalidNftId
  require (nft.owner == owner) .invalidNftId
  change (·.putNft { nft with spender := some spender })

def checkDelegate (owner : Account) (token : TokenId) (delegating : Option AccountId) : Work Unit :=
  match delegating with
  | some delegating => require (owner.operators.contains ⟨token, delegating⟩) .spenderDoesNotHaveAllowance
  | none => pure ()

def operatorsAfter (operators : Table Delegate Unit) (delegate : Delegate) : Option Bool → Table Delegate Unit
  | some true => operators.insert delegate ()
  | some false => operators.erase delegate
  | none => operators

def grantNfts (grant : NftGrant) : Work Unit := do
  let owner ← read (·.liveAccount grant.owner)
  let token ← read (·.usableToken grant.token)
  require (token.type == .nonFungible) .invalidTransactionBody
  discard <| read (·.presentRelationship grant.owner token.id)
  checkDelegate owner token.id grant.delegatingSpender
  grant.serials.forM (lendNft token.id grant.owner grant.spender)
  change (·.putAccount
    { owner with operators := operatorsAfter owner.operators ⟨token.id, grant.spender⟩ grant.forAll })

def approve (hbar : List HbarGrant) (units : List UnitGrant) (nfts : List NftGrant) : Work Unit := do
  hbar.forM grantHbar
  units.forM grantUnits
  nfts.forM grantNfts

def clearSpender (token : Token) (owner : AccountId) (serial : Int64) : Work Unit := do
  let nft ← read fun view => View.demand (view.nft ⟨token.id, serial⟩) .invalidNftId
  require (nft.holder token == owner) .senderDoesNotOwnNftSerialNo
  change (·.putNft { nft with spender := none })

def checkPayer (payer : AccountId) (token : TokenId) (owner : AccountId) : Work Unit :=
  if payer = owner then pure ()
  else do
    let owner ← read (·.liveAccount owner)
    require (owner.operators.contains ⟨token, payer⟩) .senderDoesNotOwnNftSerialNo

def revokeOne (payer : AccountId) (revocation : NftRevocation) : Work Unit := do
  let token ← read (·.usableToken revocation.token)
  checkPayer payer token.id revocation.owner
  revocation.serials.forM (clearSpender token revocation.owner)

def revoke (payer : AccountId) (revocations : List NftRevocation) : Work Unit := revocations.forM (revokeOne payer)

end TokenService.Work
