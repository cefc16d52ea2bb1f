import TokenService.Ledger.Rules
import TokenService.Proofs.Ledger.Rooted

set_option autoImplicit false

namespace TokenService

inductive Deed where
  | associate (account : AccountId) (token : TokenId)
  | dissociate (account : AccountId) (token : TokenId)
  | mint (order : Mint)
  | burn (order : Burn)
  | wipe (order : Wipe)
  | setPaused (paused : Bool) (token : TokenId)
  | create (order : Creation)
  | update (order : Update)
  | adjustHbar (adjustment : Adjustment)
  | adjustUnits (token : TokenId) (adjustment : Adjustment)
  | moveNft (token : TokenId) (move : NftMove)
  | grantHbar (grant : HbarGrant)
  | grantUnits (grant : UnitGrant)
  | lendNft (token : TokenId) (owner spender : AccountId) (serial : Int64)
  | setOperator (grant : NftGrant)
  | clearSpender (token : TokenId) (owner : AccountId) (serial : Int64)

def TokenMoves.deeds (moves : TokenMoves) : List Deed :=
  moves.adjustments.map (.adjustUnits moves.token) ++ moves.nftMoves.map (.moveNft moves.token)

def NftGrant.deeds (grant : NftGrant) : List Deed :=
  grant.serials.map (.lendNft grant.token grant.owner grant.spender) ++ [.setOperator grant]

def NftRevocation.deeds (revocation : NftRevocation) : List Deed :=
  revocation.serials.map (.clearSpender revocation.token revocation.owner)

def Body.deeds : Body → List Deed
  | .associate association => association.tokens.map (.associate association.account)
  | .dissociate association => association.tokens.map (.dissociate association.account)
  | .mint order => [.mint order]
  | .burn order => [.burn order]
  | .wipe order => [.wipe order]
  | .pause token => [.setPaused true token]
  | .unpause token => [.setPaused false token]
  | .create order => [.create order]
  | .update order => [.update order]
  | .transfer hbar tokens => hbar.map .adjustHbar ++ tokens.flatMap TokenMoves.deeds
  | .approve hbar units nfts => hbar.map .grantHbar ++ (units.map .grantUnits ++ nfts.flatMap NftGrant.deeds)
  | .revoke revocations => revocations.flatMap NftRevocation.deeds
  | .queryToken _ => []
  | .queryNft _ => []

structure Shifted (before : Int64) (change : Int) (after : Int64) : Prop where
  sum : after.toInt = before.toInt + change
  floor : 0 ≤ after.toInt

structure Drawn {κ : Type} [Ord κ] (before : Table κ Int64) (key : κ) (adjustment : Adjustment)
    (after : Table κ Int64) : Prop where
  kept : Work.draws adjustment = false → after = before
  covered : Work.draws adjustment = true → ∃ granted, before.get? key = some granted ∧
    -adjustment.amount.toInt ≤ granted.toInt ∧
    ((after.get? key).getD 0).toInt = granted.toInt + adjustment.amount.toInt
  others : ∀ other, other ≠ key → after.get? other = before.get? other

inductive Issued (token : Token) (now : Timestamp) : Int64 → List Bytes → View → Int64 → View → Prop
  | nil (last : Int64) (view : View) : Issued token now last [] view last view
  | cons {last serial final : Int64} {metadata : Bytes} {rest : List Bytes} {before after : View}
      (next : serial.toInt = last.toInt + 1)
      (others : Issued token now serial rest
        (before.putNft { id := ⟨token.id, serial⟩, owner := token.treasury, metadata := metadata, creationTime := now })
        final after) :
      Issued token now last (metadata :: rest) before final after

inductive Removed (token : TokenId) (holder : AccountId) : List Int64 → View → View → Prop
  | nil (view : View) : Removed token holder [] view view
  | cons {serial : Int64} {rest : List Int64} {before after : View} (nft : Nft)
      (found : before.nft ⟨token, serial⟩ = some nft)
      (owned : nft.owner = holder)
      (others : Removed token holder rest (before.removeNft ⟨token, serial⟩) after) :
      Removed token holder (serial :: rest) before after

inductive Minted (token : Token) (order : Mint) (now : Timestamp) : Int64 → Int64 → View → View → Prop
  | units (view : View)
      (fungible : token.type = .fungible)
      (bare : order.metadata = [])
      (positive : 0 < order.amount.toInt) :
      Minted token order now order.amount token.lastUsedSerial view view
  | items {last : Int64} {before after : View}
      (nonFungible : token.type = .nonFungible)
      (issued : Issued token now token.lastUsedSerial order.metadata before last after) :
      Minted token order now (Work.count order.metadata.length) last before after

inductive Taken (token : Token) (holder : AccountId) (amount : Int64) (serials : List Int64) :
    Int64 → View → View → Prop
  | units (view : View)
      (fungible : token.type = .fungible)
      (bare : serials = [])
      (positive : 0 < amount.toInt) :
      Taken token holder amount serials amount view view
  | items {before after : View}
      (nonFungible : token.type = .nonFungible)
      (removed : Removed token.id holder serials before after) :
      Taken token holder amount serials (Work.count serials.length) before after

def View.resupplied (view : View) (token : Token) (holder : AccountId) (held : Relationship)
    (supply last balance : Int64) : View :=
  (view.putRelationship holder token.id { held with balance := balance }).putToken
    { token with totalSupply := supply, lastUsedSerial := last }

-- A fungible supply follows the treasury; serials stay where they are.
inductive Handover (token : Token) (successor : AccountId) (before : View) : View → Prop
  | stay (same : successor = token.treasury) : Handover token successor before before
  | units (account : Account) (incoming outgoing : Relationship) (balance : Int64)
      (apart : successor ≠ token.treasury)
      (fungible : token.type = .fungible)
      (lives : before.Lives successor account)
      (trades : before.Trades successor token.id incoming)
      (found : before.relationship token.treasury token.id = some outgoing)
      (sum : Shifted incoming.balance outgoing.balance.toInt balance) :
      Handover token successor before
        ((before.putRelationship token.treasury token.id { outgoing with balance := 0 }).putRelationship
          successor token.id { incoming with balance := balance })
  | items (account : Account) (incoming : Relationship)
      (apart : successor ≠ token.treasury)
      (nonFungible : token.type = .nonFungible)
      (lives : before.Lives successor account)
      (trades : before.Trades successor token.id incoming) :
      Handover token successor before before

/-- What each deed does for a sender at a time. -/
inductive Deed.Does (sender : AccountId) (now : Timestamp) : Deed → View → View → Prop
  | associate {account : AccountId} {id : TokenId} {before : View} (holder : Account) (token : Token)
      (lives : before.Lives account holder)
      (existing : before.Exists id token)
      (absent : before.relationship account id = none) :
      Does sender now (.associate account id) before
        (before.putRelationship account id
          { frozen := token.freezeDefault && token.keys.freeze.isSome, kycGranted := token.keys.kyc.isNone })
  | dissociate {account : AccountId} {id : TokenId} {before : View} (held : Relationship)
      (found : before.relationship account id = some held)
      (released : ∀ token, before.Exists id token → token.treasury ≠ account ∧ held.balance = 0) :
      Does sender now (.dissociate account id) before (before.removeRelationship account id)
  | mint {order : Mint} {before middle : View} (token : Token) (held : Relationship)
      (minted last supply balance : Int64) (usable : before.Usable order.token token)
      (found : before.relationship token.treasury token.id = some held)
      (items : Minted token order now minted last before middle)
      (supplied : Shifted token.totalSupply minted.toInt supply)
      (capped : token.supplyType = .infinite ∨ supply.toInt ≤ token.maxSupply.toInt)
      (gained : Shifted held.balance minted.toInt balance) :
      Does sender now (.mint order) before (middle.resupplied token token.treasury held supply last balance)
  | burn {order : Burn} {before middle : View} (token : Token) (held : Relationship) (removed supply balance : Int64)
      (usable : before.Usable order.token token)
      (found : before.relationship token.treasury token.id = some held)
      (items : Taken token token.treasury order.amount order.serials removed before middle)
      (supplied : Shifted token.totalSupply (-removed.toInt) supply)
      (lost : Shifted held.balance (-removed.toInt) balance) :
      Does sender now (.burn order) before
        (middle.resupplied token token.treasury held supply token.lastUsedSerial balance)
  | wipe {order : Wipe} {before middle : View} (token : Token) (account : Account) (held : Relationship)
      (removed supply balance : Int64)
      (usable : before.Usable order.token token)
      (lives : before.Lives order.account account)
      (apart : order.account ≠ token.treasury)
      (found : before.relationship order.account token.id = some held)
      (items : Taken token order.account order.amount order.serials removed before middle)
      (supplied : Shifted token.totalSupply (-removed.toInt) supply)
      (lost : Shifted held.balance (-removed.toInt) balance) :
      Does sender now (.wipe order) before
        (middle.resupplied token order.account held supply token.lastUsedSerial balance)
  | setPaused {paused : Bool} {id : TokenId} {before : View} (token : Token)
      (existing : before.Exists id token) :
      Does sender now (.setPaused paused id) before (before.putToken { token with paused := paused })
  | create {order : Creation} {before : View} (treasury : Account) (number reserved : UInt64)
      (lives : before.Lives order.treasury treasury)
      (fresh : number.toNat = before.limit)
      (next : reserved.toNat = before.changes.entitiesCreated.toNat + 1) :
      Does sender now (.create order) before
        (((before.reserving reserved).putToken
            (Work.created order ⟨order.treasury.shard, order.treasury.realm, number⟩ now)).putRelationship
          order.treasury ⟨order.treasury.shard, order.treasury.realm, number⟩
          { balance := order.initialSupply, kycGranted := true })
  | update {order : Update} {before middle : View} (token : Token)
      (usable : before.Usable order.token token)
      (handover : Handover token (order.treasury.getD token.treasury) before middle) :
      Does sender now (.update order) before (middle.putToken (Work.revised order token))
  | adjustHbar {adjustment : Adjustment} {before : View} (account : Account) (allowances : Table AccountId Int64)
      (balance : Int64)
      (lives : before.Lives adjustment.account account)
      (drawn : Drawn account.hbarAllowances sender adjustment allowances)
      (sum : Shifted account.balance adjustment.amount.toInt balance) :
      Does sender now (.adjustHbar adjustment) before
        (before.putAccount { account with hbarAllowances := allowances, balance := balance })
  | adjustUnits {id : TokenId} {adjustment : Adjustment} {before : View} (token : Token) (owner : Account)
      (held : Relationship) (balance : Int64)
      (usable : before.Usable id token)
      (fungible : token.type = .fungible)
      (lives : before.Lives adjustment.account owner)
      (trades : before.Trades adjustment.account id held)
      (kept : Work.draws adjustment = false)
      (sum : Shifted held.balance adjustment.amount.toInt balance) :
      Does sender now (.adjustUnits id adjustment) before
        (before.putRelationship adjustment.account id { held with balance := balance })
  | drawUnits {id : TokenId} {adjustment : Adjustment} {before : View} (token : Token) (owner : Account)
      (held : Relationship) (allowances : Table Delegate Int64) (balance : Int64)
      (usable : before.Usable id token)
      (fungible : token.type = .fungible)
      (lives : before.Lives adjustment.account owner)
      (trades : before.Trades adjustment.account id held)
      (draws : Work.draws adjustment = true)
      (drawn : Drawn owner.tokenAllowances ⟨id, sender⟩ adjustment allowances)
      (sum : Shifted held.balance adjustment.amount.toInt balance) :
      Does sender now (.adjustUnits id adjustment) before
        ((before.putAccount { owner with tokenAllowances := allowances }).putRelationship adjustment.account id
          { held with balance := balance })
  | moveNft {id : TokenId} {move : NftMove} {before : View} (token : Token) (nft : Nft) (receiver : Account)
      (source target : Relationship) (left gained : Int64)
      (usable : before.Usable id token)
      (nonFungible : token.type = .nonFungible)
      (found : before.nft ⟨id, move.serial⟩ = some nft)
      (own : nft.id = ⟨id, move.serial⟩)
      (owned : nft.owner = move.sender)
      (approved : move.approval = true → ∃ owner, before.Lives move.sender owner ∧
        (nft.spender = some sender ∨ owner.operators.contains ⟨id, sender⟩ = true))
      (lives : before.Lives move.receiver receiver)
      (sends : before.Trades move.sender id source)
      (receives : before.Trades move.receiver id target)
      (loss : Shifted source.balance (-1) left)
      (gain : Shifted target.balance 1 gained) :
      Does sender now (.moveNft id move) before
        (((before.putRelationship move.sender id { source with balance := left }).putRelationship
            move.receiver id { target with balance := gained }).putNft
          { nft with owner := move.receiver, spender := none })
  | grantHbar {grant : HbarGrant} {before : View} (owner spender : Account)
      (lives : before.Lives grant.owner owner)
      (known : before.Lives grant.spender spender) :
      Does sender now (.grantHbar grant) before
        (before.putAccount
          { owner with hbarAllowances := Work.granted owner.hbarAllowances grant.spender grant.amount })
  | grantUnits {grant : UnitGrant} {before : View} (owner : Account) (token : Token) (held : Relationship)
      (lives : before.Lives grant.owner owner)
      (usable : before.Usable grant.token token)
      (fungible : token.type = .fungible)
      (found : before.relationship grant.owner grant.token = some held) :
      Does sender now (.grantUnits grant) before
        (before.putAccount
          { owner with
            tokenAllowances := Work.granted owner.tokenAllowances ⟨grant.token, grant.spender⟩ grant.amount })
  | lendNft {id : TokenId} {owner spender : AccountId} {serial : Int64} {before : View} (nft : Nft)
      (found : before.nft ⟨id, serial⟩ = some nft)
      (own : nft.id = ⟨id, serial⟩)
      (owned : nft.owner = owner) :
      Does sender now (.lendNft id owner spender serial) before (before.putNft { nft with spender := some spender })
  | setOperator {grant : NftGrant} {before : View} (owner : Account) (token : Token) (held : Relationship)
      (lives : before.Lives grant.owner owner)
      (usable : before.Usable grant.token token)
      (nonFungible : token.type = .nonFungible)
      (found : before.relationship grant.owner grant.token = some held)
      (delegated : ∀ delegating, grant.delegatingSpender = some delegating →
        owner.operators.contains ⟨grant.token, delegating⟩ = true) :
      Does sender now (.setOperator grant) before
        (before.putAccount
          { owner with operators := Work.operatorsAfter owner.operators ⟨grant.token, grant.spender⟩ grant.forAll })
  | clearSpender {id : TokenId} {owner : AccountId} {serial : Int64} {before : View} (token : Token) (nft : Nft)
      (usable : before.Usable id token)
      (entitled : sender = owner ∨ ∃ account, before.Lives owner account ∧
        account.operators.contains ⟨id, sender⟩ = true)
      (found : before.nft ⟨id, serial⟩ = some nft)
      (own : nft.id = ⟨id, serial⟩)
      (owned : nft.holder token = owner) :
      Does sender now (.clearSpender id owner serial) before (before.putNft { nft with spender := none })

inductive Deeds (sender : AccountId) (now : Timestamp) : List Deed → View → View → Prop
  | nil (view : View) : Deeds sender now [] view view
  | cons {deed : Deed} {rest : List Deed} {before middle after : View}
      (first : deed.Does sender now before middle)
      (others : Deeds sender now rest middle after) :
      Deeds sender now (deed :: rest) before after

namespace Deeds

variable {sender : AccountId} {now : Timestamp}

theorem single (deed : Deed) (before after : View) (does : deed.Does sender now before after) :
    Deeds sender now [deed] before after := .cons does (.nil after)

theorem of_single (deed : Deed) (before after : View) (done : Deeds sender now [deed] before after) :
    deed.Does sender now before after := by
  cases done with
  | cons does others =>
      cases others with
      | nil => exact does

theorem append (first second : List Deed) (before middle after : View) (left : Deeds sender now first before middle)
    (right : Deeds sender now second middle after) : Deeds sender now (first ++ second) before after := by
  induction left with
  | nil view => exact right
  | cons does others ih => exact .cons does (ih right)

theorem split (first second : List Deed) (before after : View)
    (done : Deeds sender now (first ++ second) before after) :
    ∃ middle, Deeds sender now first before middle ∧ Deeds sender now second middle after := by
  induction first generalizing before with
  | nil => exact ⟨before, .nil before, done⟩
  | cons deed rest ih =>
      cases done with
      | cons does others =>
          obtain ⟨middle, left, right⟩ := ih _ others
          exact ⟨middle, .cons does left, right⟩

theorem keeps (Keep : View → Prop) (deeds : List Deed) (before after : View)
    (kept : ∀ deed ∈ deeds, ∀ first next, deed.Does sender now first next → Keep first → Keep next)
    (done : Deeds sender now deeds before after) (start : Keep before) : Keep after := by
  induction done with
  | nil view => exact start
  | cons does others ih =>
      exact ih (fun deed member => kept deed (List.mem_cons_of_mem _ member))
        (kept _ List.mem_cons_self _ _ does start)

end Deeds

end TokenService
