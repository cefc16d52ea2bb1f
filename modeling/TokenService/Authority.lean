import TokenService.Ledger.View
import TokenService.Transaction

set_option autoImplicit false

namespace TokenService

inductive KeyKind where
  | ordinary
  | supply
  | admin
  | wipe
  | pause
  deriving DecidableEq, Repr

inductive Subject where
  | account (id : AccountId)
  | token (id : TokenId)
  deriving DecidableEq, Repr

inductive Requirement where
  | ledger (kind : KeyKind) (subject : Subject)
  | explicit (key : Key)
  deriving DecidableEq, Repr

namespace KeyKind

def denial : KeyKind → Status
  | .ordinary => .invalidFullPrefixSignatureForPrecompile
  | _ => .invalidSignature

def missing : KeyKind → Status
  | .ordinary => .invalidAccountId
  | .supply => .tokenHasNoSupplyKey
  | .admin => .tokenIsImmutable
  | .wipe => .tokenHasNoWipeKey
  | .pause => .tokenHasNoPauseKey

def slot? : KeyKind → Option KeySlot
  | .ordinary => none
  | .supply => some .supply
  | .admin => some .admin
  | .wipe => some .wipe
  | .pause => some .pause

end KeyKind

inductive AuthorityFault where
  | unavailable
  | missingAccount
  | missingToken
  | missingKey (status : Status)
  deriving DecidableEq, Repr

namespace AuthorityFault

def status : AuthorityFault → Status
  | .unavailable => .failInvalid
  | .missingAccount => .invalidAccountId
  | .missingToken => .invalidTokenId
  | .missingKey status => status

def message : AuthorityFault → String
  | .unavailable => "ledger view unavailable"
  | .missingAccount => "account not found"
  | .missingToken => "token not found"
  | .missingKey status => s!"token has no key for {status.name}"

end AuthorityFault

structure Authority where
  signed : Key → Bool
  activeContract : ContractId
  delegated : Bool

namespace Authority

mutual

-- A threshold of zero still asks for one member.
def isActive (authority : Authority) : Key → Bool
  | .ed25519 bytes => authority.signed (.ed25519 bytes)
  | .secp256k1 bytes => authority.signed (.secp256k1 bytes)
  | .contract id => !authority.delegated && id == authority.activeContract
  | .delegatable id => id == authority.activeContract
  | .list keys => !keys.isEmpty && countActive authority keys == keys.length
  | .threshold needed keys => max needed 1 ≤ countActive authority keys

def countActive (authority : Authority) : List Key → Nat
  | [] => 0
  | key :: rest => (if isActive authority key then 1 else 0) + countActive authority rest

end

-- Outside delegate calls the calling contract acts for itself.
def actsForItself (authority : Authority) (account : AccountId) : Bool :=
  !authority.delegated && account == authority.activeContract

def authorize (authority : Authority) (view : Option View) (kind : KeyKind) (subject : Subject) :
    Except AuthorityFault Bool :=
  match view with
  | none => .error .unavailable
  | some view =>
      match subject with
      | .account id =>
          if authority.actsForItself id then .ok true
          else match view.account id with
            | none => .error .missingAccount
            | some account => .ok (account.key.any authority.isActive)
      | .token id =>
          match view.token id with
          | none => .error .missingToken
          | some token =>
              match kind.slot?.bind token.keys.get with
              | none => .error (.missingKey kind.missing)
              | some key => .ok (authority.isActive key)

def checkOne (authority : Authority) (view : Option View) : Requirement → Except Status Unit
  | .ledger kind subject =>
      match authority.authorize view kind subject with
      | .ok true => .ok ()
      | .ok false => .error kind.denial
      | .error fault => .error fault.status
  | .explicit key => if authority.isActive key then .ok () else .error .invalidSignature

end Authority

namespace Requirement

def ofAccount (id : AccountId) : Requirement := .ledger .ordinary (.account id)

def ofToken (kind : KeyKind) (id : TokenId) : Requirement := .ledger kind (.token id)

end Requirement

def distinct : List AccountId → List AccountId
  | [] => []
  | account :: rest => account :: (distinct rest).filter fun other => other != account

def debited (hbar : List Adjustment) (tokens : List TokenMoves) : List AccountId :=
  let debits := (hbar ++ tokens.flatMap TokenMoves.adjustments).filter fun adjustment =>
    adjustment.amount < 0 && !adjustment.approval
  let moves := (tokens.flatMap TokenMoves.nftMoves).filter fun move => !move.approval
  distinct (debits.map Adjustment.account ++ moves.map NftMove.sender)

namespace Body

def requirements (sender : AccountId) : Body → List Requirement
  | .associate association => [.ofAccount association.account]
  | .dissociate association => [.ofAccount association.account]
  | .mint order => [.ofToken .supply order.token]
  | .burn order => [.ofToken .supply order.token]
  | .wipe order => [.ofToken .wipe order.token]
  | .pause token => [.ofToken .pause token]
  | .unpause token => [.ofToken .pause token]
  | .create order => .ofAccount order.treasury :: (order.keys.admin.map Requirement.explicit).toList
  | .update order => [.ofToken .admin order.token]
  | .transfer hbar tokens => (debited hbar tokens).map .ofAccount
  | .approve _ _ _ => [.ofAccount sender]
  | .revoke _ => [.ofAccount sender]
  | .queryToken _ => []
  | .queryNft _ => []

end Body

namespace Authority

def check (authority : Authority) (view : Option View) (body : Body) (sender : AccountId) : Except Status Unit :=
  (body.requirements sender).forM (authority.checkOne view)

end Authority

end TokenService
