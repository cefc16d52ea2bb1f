import TokenService.Ledger.Work
import TokenService.Transaction

set_option autoImplicit false

namespace TokenService.Work

def count (length : Nat) : Int64 := clamp length

def mintNfts (token : Token) (now : Timestamp) : Int64 → List Bytes → Work (List Int64 × Int64)
  | last, [] => pure ([], last)
  | last, metadata :: rest => do
      let serial ← exact (addExact last 1)
      change (·.putNft
        { id := ⟨token.id, serial⟩, owner := token.treasury, metadata := metadata, creationTime := now })
      let (serials, final) ← mintNfts token now serial rest
      pure (serial :: serials, final)

def mintItems (token : Token) (order : Mint) (now : Timestamp) : Work (Int64 × List Int64 × Int64) :=
  match token.type with
  | .fungible => do
      require (order.metadata.isEmpty && 0 < order.amount) .invalidTokenMintAmount
      pure (order.amount, [], token.lastUsedSerial)
  | .nonFungible => do
      require (order.amount == 0 && !order.metadata.isEmpty) .invalidTokenMintAmount
      let (serials, last) ← mintNfts token now token.lastUsedSerial order.metadata
      pure (count order.metadata.length, serials, last)

def mint (order : Mint) (now : Timestamp) : Work Execution := do
  let token ← read (·.usableToken order.token)
  let treasury ← read (·.presentRelationship token.treasury token.id)
  let (minted, serials, last) ← mintItems token order now
  let supply ← adjusted token.totalSupply minted .invalidTokenMintAmount
  require (token.supplyType == .infinite || supply ≤ token.maxSupply) .invalidTokenMintAmount
  let balance ← adjusted treasury.balance minted .invalidTokenMintAmount
  change (·.putRelationship token.treasury token.id { treasury with balance := balance })
  change (·.putToken { token with totalSupply := supply, lastUsedSerial := last })
  pure (.minted supply serials)

def removeOwned (token : TokenId) (holder : AccountId) (serial : Int64) : Work Unit := do
  let view ← get
  require ((view.nft ⟨token, serial⟩).any fun nft => nft.owner == holder) .invalidNftId
  change (·.removeNft ⟨token, serial⟩)

def retireItems (token : Token) (holder : AccountId) (amount : Int64) (serials : List Int64) (invalid : Status) :
    Work Int64 :=
  match token.type with
  | .fungible => do
      require (serials.isEmpty && 0 < amount) invalid
      pure amount
  | .nonFungible => do
      require (amount == 0 && !serials.isEmpty) invalid
      serials.forM (removeOwned token.id holder)
      pure (count serials.length)

def retire (token : Token) (holder : AccountId) (held : Relationship) (amount : Int64) (serials : List Int64)
    (invalid insufficient : Status) : Work Execution := do
  let removed ← retireItems token holder amount serials invalid
  let loss ← exact (negExact removed)
  let balance ← adjusted held.balance loss insufficient
  let supply ← adjusted token.totalSupply loss invalid
  change (·.putRelationship holder token.id { held with balance := balance })
  change (·.putToken { token with totalSupply := supply })
  pure (.supplyChanged supply)

def burn (order : Burn) : Work Execution := do
  let token ← read (·.usableToken order.token)
  let treasury ← read (·.presentRelationship token.treasury token.id)
  retire token token.treasury treasury order.amount order.serials .invalidTokenBurnAmount .insufficientTokenBalance

def wipe (order : Wipe) : Work Execution := do
  let token ← read (·.usableToken order.token)
  discard <| read (·.liveAccount order.account)
  require (order.account != token.treasury) .cannotWipeTokenTreasuryAccount
  let held ← read (·.presentRelationship order.account token.id)
  retire token order.account held order.amount order.serials .invalidWipingAmount .invalidWipingAmount

end TokenService.Work
