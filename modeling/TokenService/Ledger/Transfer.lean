import TokenService.Ledger.Work
import TokenService.Transaction

set_option autoImplicit false

namespace TokenService.Work

-- Draw a debit from an allowance, which ends when it is used up.
def draw {κ : Type} [Ord κ] [Std.TransOrd κ] [Std.LawfulEqOrd κ] (allowances : Table κ Int64) (key : κ)
    (debit : Int64) : Work (Table κ Int64) := do
  let amount ← exact (negExact debit)
  match allowances.get? key with
  | none => refuse .spenderDoesNotHaveAllowance
  | some granted =>
      require (amount ≤ granted) .amountExceedsAllowance
      if granted = amount then pure (allowances.erase key)
      else do
        let rest ← exact (subExact granted amount)
        pure (allowances.insert key rest)

def draws (adjustment : Adjustment) : Bool := adjustment.approval && adjustment.amount < 0

def drawn {κ : Type} [Ord κ] [Std.TransOrd κ] [Std.LawfulEqOrd κ] (allowances : Table κ Int64) (key : κ)
    (adjustment : Adjustment) : Work (Table κ Int64) :=
  if draws adjustment then draw allowances key adjustment.amount else pure allowances

def adjustHbar (spender : AccountId) (adjustment : Adjustment) : Work Unit := do
  let account ← read (·.liveAccount adjustment.account)
  let allowances ← drawn account.hbarAllowances spender adjustment
  let balance ← adjusted account.balance adjustment.amount .insufficientAccountBalance
  change (·.putAccount { account with hbarAllowances := allowances, balance := balance })

-- An owner's row is written again only when its allowance is drawn on.
def drawUnits (spender : AccountId) (token : TokenId) (adjustment : Adjustment) (owner : Account) : Work Unit :=
  if draws adjustment then do
    let allowances ← draw owner.tokenAllowances ⟨token, spender⟩ adjustment.amount
    change (·.putAccount { owner with tokenAllowances := allowances })
  else pure ()

def adjustUnits (spender : AccountId) (token : TokenId) (adjustment : Adjustment) : Work Unit := do
  let owner ← read (·.liveAccount adjustment.account)
  let held ← read (·.usableRelationship adjustment.account token)
  drawUnits spender token adjustment owner
  let balance ← adjusted held.balance adjustment.amount .insufficientTokenBalance
  change (·.putRelationship adjustment.account token { held with balance := balance })

def checkApproval (spender : AccountId) (token : TokenId) (move : NftMove) (nft : Nft) : Work Unit :=
  if move.approval then do
    let owner ← read (·.liveAccount move.sender)
    require (nft.spender == some spender || owner.operators.contains ⟨token, spender⟩) .spenderDoesNotHaveAllowance
  else pure ()

-- A moved NFT has no spender.
def moveNft (spender : AccountId) (token : TokenId) (move : NftMove) : Work Unit := do
  let nft ← read fun view => View.demand (view.nft ⟨token, move.serial⟩) .invalidNftId
  require (nft.owner == move.sender) .insufficientTokenBalance
  checkApproval spender token move nft
  discard <| read (·.liveAccount move.receiver)
  let source ← read (·.usableRelationship move.sender token)
  let target ← read (·.usableRelationship move.receiver token)
  let left ← adjusted source.balance (-1) .insufficientTokenBalance
  let gained ← adjusted target.balance 1 .invalidAccountAmounts
  change (·.putRelationship move.sender token { source with balance := left })
  change (·.putRelationship move.receiver token { target with balance := gained })
  change (·.putNft { nft with owner := move.receiver, spender := none })

def checkKind (type : TokenType) (moves : TokenMoves) : Work Unit :=
  match type with
  | .fungible => require moves.nftMoves.isEmpty .invalidTransactionBody
  | .nonFungible => require moves.adjustments.isEmpty .invalidTransactionBody

def transferToken (spender : AccountId) (moves : TokenMoves) : Work Unit := do
  let token ← read (·.usableToken moves.token)
  checkKind token.type moves
  moves.adjustments.forM (adjustUnits spender token.id)
  moves.nftMoves.forM (moveNft spender token.id)

def transfer (hbar : List Adjustment) (tokens : List TokenMoves) (spender : AccountId) : Work Unit := do
  hbar.forM (adjustHbar spender)
  tokens.forM (transferToken spender)

end TokenService.Work
