import TokenService.Ledger.Effects

set_option autoImplicit false

namespace TokenService

structure Receipt where
  status : Status
  token : Option TokenId := none
  newTotalSupply : Option Int64 := none
  serials : List Int64 := []
  deriving DecidableEq, Repr

structure CallDetails where
  contract : ContractId
  result : Bytes
  errorMessage : Option String
  gasUsed : UInt64
  sender : AccountId
  deriving DecidableEq, Repr

structure Record where
  receipt : Receipt
  memo : String
  consensusTime : Timestamp
  hbarTransfers : List Adjustment := []
  tokenTransfers : List TokenMoves := []
  associations : List NewAssociation := []
  details : Option CallDetails
  deriving DecidableEq, Repr

namespace Record

def conclude (status : Status) (effects : Effects) (memo : String) (consensusTime : Timestamp)
    (details : Option CallDetails) : Record :=
  if status.isSuccess then
    { receipt :=
        { status := status
          token := effects.newToken
          newTotalSupply := effects.newTotalSupply
          serials := effects.mintedSerials }
      memo := memo
      consensusTime := consensusTime
      hbarTransfers := effects.hbarTransfers
      tokenTransfers := effects.tokenTransfers
      associations := effects.associations
      details := details }
  else { receipt := { status := status }, memo := memo, consensusTime := consensusTime, details := details }

end Record

def serviceContract : ContractId := .ofNum 359

end TokenService
