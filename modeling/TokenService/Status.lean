set_option autoImplicit false

namespace TokenService

inductive Status where
  | ok
  | invalidTransaction
  | invalidSignature
  | notSupported
  | invalidAccountId
  | success
  | failInvalid
  | insufficientAccountBalance
  | insufficientGas
  | contractRevertExecuted
  | invalidAccountAmounts
  | invalidTransactionBody
  | accountDeleted
  | accountRepeatedInAccountAmounts
  | accountFrozenForToken
  | invalidTokenId
  | invalidTokenDecimals
  | invalidTokenInitialSupply
  | invalidTreasuryAccountForToken
  | transfersNotZeroSumForToken
  | missingTokenSymbol
  | tokenSymbolTooLong
  | accountKycNotGrantedForToken
  | insufficientTokenBalance
  | tokenWasDeleted
  | tokenHasNoSupplyKey
  | tokenHasNoWipeKey
  | invalidTokenMintAmount
  | invalidTokenBurnAmount
  | tokenNotAssociatedToAccount
  | cannotWipeTokenTreasuryAccount
  | missingTokenName
  | tokenNameTooLong
  | invalidWipingAmount
  | tokenIsImmutable
  | tokenAlreadyAssociatedToAccount
  | transactionRequiresZeroTokenBalances
  | accountIsTreasury
  | tokenIdRepeatedInTokenList
  | emptyTokenTransferBody
  | emptyTokenTransferAccountAmounts
  | invalidTokenNftSerialNumber
  | invalidNftId
  | metadataTooLong
  | senderDoesNotOwnNftSerialNo
  | tokenHasNoPauseKey
  | tokenIsPaused
  | invalidFullPrefixSignatureForPrecompile
  | spenderDoesNotHaveAllowance
  | amountExceedsAllowance
  deriving DecidableEq, Repr, Inhabited

namespace Status

def all : List Status := [
  .ok, .invalidTransaction, .invalidSignature, .notSupported, .invalidAccountId, .success, .failInvalid,
  .insufficientAccountBalance, .insufficientGas, .contractRevertExecuted, .invalidAccountAmounts,
  .invalidTransactionBody, .accountDeleted, .accountRepeatedInAccountAmounts, .accountFrozenForToken,
  .invalidTokenId, .invalidTokenDecimals, .invalidTokenInitialSupply, .invalidTreasuryAccountForToken,
  .transfersNotZeroSumForToken, .missingTokenSymbol, .tokenSymbolTooLong, .accountKycNotGrantedForToken,
  .insufficientTokenBalance, .tokenWasDeleted, .tokenHasNoSupplyKey, .tokenHasNoWipeKey,
  .invalidTokenMintAmount, .invalidTokenBurnAmount, .tokenNotAssociatedToAccount,
  .cannotWipeTokenTreasuryAccount, .missingTokenName, .tokenNameTooLong, .invalidWipingAmount,
  .tokenIsImmutable, .tokenAlreadyAssociatedToAccount, .transactionRequiresZeroTokenBalances,
  .accountIsTreasury, .tokenIdRepeatedInTokenList, .emptyTokenTransferBody,
  .emptyTokenTransferAccountAmounts, .invalidTokenNftSerialNumber, .invalidNftId, .metadataTooLong,
  .senderDoesNotOwnNftSerialNo, .tokenHasNoPauseKey, .tokenIsPaused,
  .invalidFullPrefixSignatureForPrecompile, .spenderDoesNotHaveAllowance, .amountExceedsAllowance]

def number : Status → Int32
  | .ok => 0
  | .invalidTransaction => 1
  | .invalidSignature => 7
  | .notSupported => 13
  | .invalidAccountId => 15
  | .success => 22
  | .failInvalid => 23
  | .insufficientAccountBalance => 28
  | .insufficientGas => 30
  | .contractRevertExecuted => 33
  | .invalidAccountAmounts => 48
  | .invalidTransactionBody => 50
  | .accountDeleted => 72
  | .accountRepeatedInAccountAmounts => 74
  | .accountFrozenForToken => 165
  | .invalidTokenId => 167
  | .invalidTokenDecimals => 168
  | .invalidTokenInitialSupply => 169
  | .invalidTreasuryAccountForToken => 170
  | .transfersNotZeroSumForToken => 173
  | .missingTokenSymbol => 174
  | .tokenSymbolTooLong => 175
  | .accountKycNotGrantedForToken => 176
  | .insufficientTokenBalance => 178
  | .tokenWasDeleted => 179
  | .tokenHasNoSupplyKey => 180
  | .tokenHasNoWipeKey => 181
  | .invalidTokenMintAmount => 182
  | .invalidTokenBurnAmount => 183
  | .tokenNotAssociatedToAccount => 184
  | .cannotWipeTokenTreasuryAccount => 185
  | .missingTokenName => 190
  | .tokenNameTooLong => 191
  | .invalidWipingAmount => 192
  | .tokenIsImmutable => 193
  | .tokenAlreadyAssociatedToAccount => 194
  | .transactionRequiresZeroTokenBalances => 195
  | .accountIsTreasury => 196
  | .tokenIdRepeatedInTokenList => 197
  | .emptyTokenTransferBody => 199
  | .emptyTokenTransferAccountAmounts => 200
  | .invalidTokenNftSerialNumber => 226
  | .invalidNftId => 227
  | .metadataTooLong => 228
  | .senderDoesNotOwnNftSerialNo => 238
  | .tokenHasNoPauseKey => 263
  | .tokenIsPaused => 265
  | .invalidFullPrefixSignatureForPrecompile => 290
  | .spenderDoesNotHaveAllowance => 292
  | .amountExceedsAllowance => 293

def name : Status → String
  | .ok => "OK"
  | .invalidTransaction => "INVALID_TRANSACTION"
  | .invalidSignature => "INVALID_SIGNATURE"
  | .notSupported => "NOT_SUPPORTED"
  | .invalidAccountId => "INVALID_ACCOUNT_ID"
  | .success => "SUCCESS"
  | .failInvalid => "FAIL_INVALID"
  | .insufficientAccountBalance => "INSUFFICIENT_ACCOUNT_BALANCE"
  | .insufficientGas => "INSUFFICIENT_GAS"
  | .contractRevertExecuted => "CONTRACT_REVERT_EXECUTED"
  | .invalidAccountAmounts => "INVALID_ACCOUNT_AMOUNTS"
  | .invalidTransactionBody => "INVALID_TRANSACTION_BODY"
  | .accountDeleted => "ACCOUNT_DELETED"
  | .accountRepeatedInAccountAmounts => "ACCOUNT_REPEATED_IN_ACCOUNT_AMOUNTS"
  | .accountFrozenForToken => "ACCOUNT_FROZEN_FOR_TOKEN"
  | .invalidTokenId => "INVALID_TOKEN_ID"
  | .invalidTokenDecimals => "INVALID_TOKEN_DECIMALS"
  | .invalidTokenInitialSupply => "INVALID_TOKEN_INITIAL_SUPPLY"
  | .invalidTreasuryAccountForToken => "INVALID_TREASURY_ACCOUNT_FOR_TOKEN"
  | .transfersNotZeroSumForToken => "TRANSFERS_NOT_ZERO_SUM_FOR_TOKEN"
  | .missingTokenSymbol => "MISSING_TOKEN_SYMBOL"
  | .tokenSymbolTooLong => "TOKEN_SYMBOL_TOO_LONG"
  | .accountKycNotGrantedForToken => "ACCOUNT_KYC_NOT_GRANTED_FOR_TOKEN"
  | .insufficientTokenBalance => "INSUFFICIENT_TOKEN_BALANCE"
  | .tokenWasDeleted => "TOKEN_WAS_DELETED"
  | .tokenHasNoSupplyKey => "TOKEN_HAS_NO_SUPPLY_KEY"
  | .tokenHasNoWipeKey => "TOKEN_HAS_NO_WIPE_KEY"
  | .invalidTokenMintAmount => "INVALID_TOKEN_MINT_AMOUNT"
  | .invalidTokenBurnAmount => "INVALID_TOKEN_BURN_AMOUNT"
  | .tokenNotAssociatedToAccount => "TOKEN_NOT_ASSOCIATED_TO_ACCOUNT"
  | .cannotWipeTokenTreasuryAccount => "CANNOT_WIPE_TOKEN_TREASURY_ACCOUNT"
  | .missingTokenName => "MISSING_TOKEN_NAME"
  | .tokenNameTooLong => "TOKEN_NAME_TOO_LONG"
  | .invalidWipingAmount => "INVALID_WIPING_AMOUNT"
  | .tokenIsImmutable => "TOKEN_IS_IMMUTABLE"
  | .tokenAlreadyAssociatedToAccount => "TOKEN_ALREADY_ASSOCIATED_TO_ACCOUNT"
  | .transactionRequiresZeroTokenBalances => "TRANSACTION_REQUIRES_ZERO_TOKEN_BALANCES"
  | .accountIsTreasury => "ACCOUNT_IS_TREASURY"
  | .tokenIdRepeatedInTokenList => "TOKEN_ID_REPEATED_IN_TOKEN_LIST"
  | .emptyTokenTransferBody => "EMPTY_TOKEN_TRANSFER_BODY"
  | .emptyTokenTransferAccountAmounts => "EMPTY_TOKEN_TRANSFER_ACCOUNT_AMOUNTS"
  | .invalidTokenNftSerialNumber => "INVALID_TOKEN_NFT_SERIAL_NUMBER"
  | .invalidNftId => "INVALID_NFT_ID"
  | .metadataTooLong => "METADATA_TOO_LONG"
  | .senderDoesNotOwnNftSerialNo => "SENDER_DOES_NOT_OWN_NFT_SERIAL_NO"
  | .tokenHasNoPauseKey => "TOKEN_HAS_NO_PAUSE_KEY"
  | .tokenIsPaused => "TOKEN_IS_PAUSED"
  | .invalidFullPrefixSignatureForPrecompile => "INVALID_FULL_PREFIX_SIGNATURE_FOR_PRECOMPILE"
  | .spenderDoesNotHaveAllowance => "SPENDER_DOES_NOT_HAVE_ALLOWANCE"
  | .amountExceedsAllowance => "AMOUNT_EXCEEDS_ALLOWANCE"

def ofNumber? (number : Int32) : Option Status := all.find? fun status => status.number == number

def isSuccess : Status → Bool
  | .ok => true
  | .success => true
  | _ => false

end Status

end TokenService
