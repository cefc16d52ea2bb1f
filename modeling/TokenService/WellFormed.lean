import TokenService.Config
import TokenService.Status
import TokenService.Transaction

set_option autoImplicit false

namespace TokenService

def require (rule : Bool) (status : Status) : Except Status Unit := if rule then .ok () else .error status

namespace Config

def checkNames (config : Config) (name symbol : String) : Except Status Unit := do
  require (name.utf8ByteSize ≤ config.maxNameBytes.toNat) .tokenNameTooLong
  require (symbol.utf8ByteSize ≤ config.maxSymbolBytes.toNat) .tokenSymbolTooLong

end Config

namespace Association

def check (association : Association) : Except Status Unit := do
  require (!association.account.isZero) .invalidAccountId
  require (decide association.tokens.Nodup) .tokenIdRepeatedInTokenList

end Association

def checkSupplyChange (amount : Int64) (singles : Nat) (negative : Status) : Except Status Unit := do
  require (0 ≤ amount) negative
  require (amount ≤ 0 || singles == 0) .invalidTransactionBody

def checkSerials (serials : List Int64) : Except Status Unit :=
  require (serials.all fun serial => 0 < serial) .invalidNftId

namespace Mint

def maxMetadataBytes : Nat := 100

def check (mint : Mint) : Except Status Unit := do
  checkSupplyChange mint.amount mint.metadata.length .invalidTokenMintAmount
  require (mint.metadata.all fun entry => entry.length ≤ maxMetadataBytes) .metadataTooLong

end Mint

namespace Burn

def check (burn : Burn) : Except Status Unit := do
  checkSupplyChange burn.amount burn.serials.length .invalidTokenBurnAmount
  checkSerials burn.serials

end Burn

namespace Wipe

def check (wipe : Wipe) : Except Status Unit := do
  require (!wipe.account.isZero) .invalidAccountId
  checkSupplyChange wipe.amount wipe.serials.length .invalidWipingAmount
  checkSerials wipe.serials

end Wipe

namespace Creation

def check (config : Config) (creation : Creation) : Except Status Unit := do
  require (!creation.name.isEmpty) .missingTokenName
  require (!creation.symbol.isEmpty) .missingTokenSymbol
  config.checkNames creation.name creation.symbol
  require (!creation.treasury.isZero) .invalidTreasuryAccountForToken
  require (0 ≤ creation.decimals) .invalidTokenDecimals
  require (0 ≤ creation.initialSupply) .invalidTokenInitialSupply
  require (creation.type == .fungible || creation.decimals == 0) .invalidTokenDecimals
  require (creation.type == .fungible || creation.initialSupply == 0) .invalidTokenInitialSupply
  require (creation.supplyType == .infinite || creation.initialSupply ≤ creation.maxSupply) .invalidTokenInitialSupply

end Creation

namespace Update

def check (config : Config) (update : Update) : Except Status Unit := do
  require (!update.token.isZero) .invalidTokenId
  config.checkNames (update.name.getD "") (update.symbol.getD "")

end Update

def netAmount : List Adjustment → Int
  | [] => 0
  | adjustment :: rest => adjustment.amount.toInt + netAmount rest

-- The running sum, as long as each account is new.
def sumAdjustments (earlier : List AccountId) (net : Int) : List Adjustment → Except Status Int
  | [] => .ok net
  | adjustment :: rest => do
      require (!earlier.contains adjustment.account) .accountRepeatedInAccountAmounts
      sumAdjustments (adjustment.account :: earlier) (net + adjustment.amount.toInt) rest

def checkAdjustments (adjustments : List Adjustment) (unbalanced : Status) : Except Status Unit := do
  let net ← sumAdjustments [] 0 adjustments
  require (net == 0) unbalanced

def checkNftMoves (earlier : List Int64) : List NftMove → Except Status Unit
  | [] => .ok ()
  | move :: rest => do
      require (0 < move.serial) .invalidTokenNftSerialNumber
      require (move.sender != move.receiver && !move.receiver.isZero) .invalidAccountAmounts
      require (!earlier.contains move.serial) .invalidTransactionBody
      checkNftMoves (move.serial :: earlier) rest

def checkTokenMoves (earlier : List TokenId) : List TokenMoves → Except Status Unit
  | [] => .ok ()
  | moves :: rest => do
      require (!earlier.contains moves.token) .tokenIdRepeatedInTokenList
      require (!(moves.adjustments.isEmpty && moves.nftMoves.isEmpty)) .emptyTokenTransferAccountAmounts
      checkAdjustments moves.adjustments .transfersNotZeroSumForToken
      checkNftMoves [] moves.nftMoves
      checkTokenMoves (moves.token :: earlier) rest

def checkTransfer (hbar : List Adjustment) (tokens : List TokenMoves) : Except Status Unit := do
  require (!(hbar.isEmpty && tokens.isEmpty)) .emptyTokenTransferBody
  checkAdjustments hbar .invalidAccountAmounts
  checkTokenMoves [] tokens

namespace Body

def check (config : Config) : Body → Except Status Unit
  | .associate association => association.check
  | .dissociate association => association.check
  | .mint change => change.check
  | .burn change => change.check
  | .wipe change => change.check
  | .pause token => require (!token.isZero) .invalidTokenId
  | .unpause token => require (!token.isZero) .invalidTokenId
  | .create creation => creation.check config
  | .update change => change.check config
  | .transfer hbar tokens => checkTransfer hbar tokens
  | .approve _ _ _ => .ok ()
  | .revoke _ => .ok ()
  | .queryToken _ => .ok ()
  | .queryNft _ => .ok ()

end Body

end TokenService
