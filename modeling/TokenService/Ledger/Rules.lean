import TokenService.Ledger.Allowance
import TokenService.Ledger.Association
import TokenService.Ledger.Definition
import TokenService.Ledger.Supply
import TokenService.Ledger.Transfer

set_option autoImplicit false

namespace TokenService

abbrev Rules := Body → AccountId → Timestamp → Work Execution

namespace Work

def completed (work : Work Unit) : Work Execution := do
  work
  pure .completed

def execute : Rules
  | .associate association, _, _ => completed (associate association)
  | .dissociate association, _, _ => completed (dissociate association)
  | .mint order, _, now => mint order now
  | .burn order, _, _ => burn order
  | .wipe order, _, _ => wipe order
  | .pause token, _, _ => completed (setPaused true token)
  | .unpause token, _, _ => completed (setPaused false token)
  | .create order, _, now => create order now
  | .update order, _, _ => completed (update order)
  | .transfer hbar tokens, sender, _ => completed (transfer hbar tokens sender)
  | .approve hbar units nfts, _, _ => completed (approve hbar units nfts)
  | .revoke revocations, sender, _ => completed (revoke sender revocations)
  | .queryToken _, _, _ => throw (.other "queries are answered by views")
  | .queryNft _, _, _ => throw (.other "queries are answered by views")

end Work

end TokenService
