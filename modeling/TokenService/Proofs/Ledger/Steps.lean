import TokenService.Ledger.Rules

set_option autoImplicit false

namespace TokenService.Work

-- Work put together from parts of which it holds.
structure Composes (Holds : (α : Type) → Work α → Prop) : Prop where
  bind : ∀ {α β : Type} (work : Work α) (next : α → Work β), Holds α work → (∀ value, Holds β (next value)) →
    Holds β (work >>= next)
  pure : ∀ {α : Type} (value : α), Holds α (pure value)
  refuse : ∀ {α : Type} (status : Status), Holds α (refuse status)
  overflow : ∀ {α : Type} (operation : Overflow), Holds α (throw (.overflow operation))

-- Something may be known of the row that a rule finds when it asks for a token.
structure Carries (Known : TokenId → Token → Prop) (Holds : (α : Type) → Work α → Prop) : Prop
    extends Composes Holds where
  token : ∀ {β : Type} (key : TokenId) (next : Token → Work β), (∀ row, Known key row → Holds β (next row)) →
    Holds β (read (·.usableToken key) >>= next)
  live : ∀ account, Holds _ (read (·.liveAccount account))
  present : ∀ account token, Holds _ (read (·.presentRelationship account token))
  trades : ∀ account token, Holds _ (read (·.usableRelationship account token))
  putAccount : ∀ row, Holds _ (change (·.putAccount row))
  putRelationship : ∀ account token row, Holds _ (change (·.putRelationship account token row))
  putNft : ∀ row, Holds _ (change (·.putNft row))

namespace Composes

variable {Holds : (α : Type) → Work α → Prop} (parts : Composes Holds)
include parts

theorem require (rule : Bool) (status : Status) : Holds _ (require rule status) := by
  cases rule with
  | true => exact parts.pure ()
  | false => exact parts.refuse status

theorem exact {α : Type} (result : Except Overflow α) : Holds _ (exact result) := by
  cases result with
  | ok value => exact parts.pure value
  | error operation => exact parts.overflow operation

theorem adjusted (balance delta : Int64) (insufficient : Status) : Holds _ (adjusted balance delta insufficient) := by
  unfold Work.adjusted
  split
  · split
    · exact parts.pure _
    · exact parts.refuse _
  · exact parts.refuse _

theorem discarded {α : Type} (work : Work α) (holds : Holds _ work) : Holds _ (discard work : Work PUnit) :=
  parts.bind work _ holds fun _ => parts.pure PUnit.unit

theorem each {α : Type} (step : α → Work PUnit) (items : List α) (holds : ∀ item ∈ items, Holds _ (step item)) :
    Holds _ (items.forM step) := by
  induction items with
  | nil => exact parts.pure PUnit.unit
  | cons item rest ih =>
      exact parts.bind _ _ (holds item List.mem_cons_self) fun _ =>
        ih fun other member => holds other (List.mem_cons_of_mem _ member)

theorem check_kind (type : TokenType) (moves : TokenMoves) : Holds _ (checkKind type moves) := by
  cases type <;> exact parts.require _ _

theorem check_delegate (owner : Account) (token : TokenId) (delegating : Option AccountId) :
    Holds _ (checkDelegate owner token delegating) := by
  cases delegating with
  | none => exact parts.pure _
  | some delegating => exact parts.require _ _

theorem retire_items (token : Token) (holder : AccountId) (amount : Int64) (serials : List Int64) (invalid : Status)
    (removes : ∀ serial ∈ serials, Holds _ (removeOwned token.id holder serial)) :
    Holds _ (retireItems token holder amount serials invalid) := by
  unfold retireItems
  cases token.type with
  | fungible => exact parts.bind _ _ (parts.require _ _) fun _ => parts.pure _
  | nonFungible =>
      refine parts.bind _ _ (parts.require _ _) fun _ => ?_
      exact parts.bind _ _ (parts.each _ _ removes) fun _ => parts.pure _

section Draws

variable {κ : Type} [Ord κ] [Std.TransOrd κ] [Std.LawfulEqOrd κ]

theorem draw (allowances : Table κ Int64) (key : κ) (debit : Int64) : Holds _ (draw allowances key debit) := by
  refine parts.bind _ _ (parts.exact _) fun amount => ?_
  cases allowances.get? key with
  | none => exact parts.refuse _
  | some granted =>
      refine parts.bind _ _ (parts.require _ _) fun _ => ?_
      split
      · exact parts.pure _
      · exact parts.bind _ _ (parts.exact _) fun _ => parts.pure _

theorem drawn (allowances : Table κ Int64) (key : κ) (adjustment : Adjustment) :
    Holds _ (drawn allowances key adjustment) := by
  unfold Work.drawn
  split
  · exact parts.draw _ _ _
  · exact parts.pure _

end Draws

end Composes

namespace Carries

variable {Known : TokenId → Token → Prop} {Holds : (α : Type) → Work α → Prop} (steps : Carries Known Holds)
include steps

theorem adjust_hbar (spender : AccountId) (adjustment : Adjustment) : Holds _ (adjustHbar spender adjustment) := by
  refine steps.bind _ _ (steps.live _) fun account => ?_
  refine steps.bind _ _ (steps.drawn _ _ _) fun allowances => ?_
  exact steps.bind _ _ (steps.adjusted _ _ _) fun balance => steps.putAccount _

theorem adjust_units (spender : AccountId) (token : TokenId) (adjustment : Adjustment) :
    Holds _ (adjustUnits spender token adjustment) := by
  refine steps.bind _ _ (steps.live _) fun owner => ?_
  refine steps.bind _ _ (steps.trades _ _) fun held => ?_
  have drawing : Holds _ (drawUnits spender token adjustment owner) := by
    unfold drawUnits
    split
    · exact steps.bind _ _ (steps.draw _ _ _) fun _ => steps.putAccount _
    · exact steps.pure _
  refine steps.bind _ _ drawing fun _ => ?_
  exact steps.bind _ _ (steps.adjusted _ _ _) fun _ => steps.putRelationship _ _ _

theorem check_approval (spender : AccountId) (token : TokenId) (move : NftMove) (nft : Nft) :
    Holds _ (checkApproval spender token move nft) := by
  unfold checkApproval
  split
  · exact steps.bind _ _ (steps.live _) fun _ => steps.require _ _
  · exact steps.pure _

theorem move_nft (spender : AccountId) (token : TokenId) (move : NftMove)
    (seen : Holds _ (read fun view => View.demand (view.nft ⟨token, move.serial⟩) .invalidNftId)) :
    Holds _ (moveNft spender token move) := by
  refine steps.bind _ _ seen fun nft => ?_
  refine steps.bind _ _ (steps.require _ _) fun _ => ?_
  refine steps.bind _ _ (steps.check_approval _ _ _ _) fun _ => ?_
  refine steps.bind _ _ (steps.discarded _ (steps.live _)) fun _ => ?_
  refine steps.bind _ _ (steps.trades _ _) fun source => ?_
  refine steps.bind _ _ (steps.trades _ _) fun target => ?_
  refine steps.bind _ _ (steps.adjusted _ _ _) fun left => ?_
  refine steps.bind _ _ (steps.adjusted _ _ _) fun gained => ?_
  refine steps.bind _ _ (steps.putRelationship _ _ _) fun _ => ?_
  exact steps.bind _ _ (steps.putRelationship _ _ _) fun _ => steps.putNft _

theorem transfer (hbar : List Adjustment) (tokens : List TokenMoves) (spender : AccountId)
    (seen : ∀ moves ∈ tokens, ∀ row, Known moves.token row → ∀ move ∈ moves.nftMoves,
      Holds _ (read fun view => View.demand (view.nft ⟨row.id, move.serial⟩) .invalidNftId)) :
    Holds _ (transfer hbar tokens spender) := by
  refine steps.bind _ _ (steps.each _ _ fun adjustment _ => steps.adjust_hbar _ _) fun _ => ?_
  refine steps.each _ _ fun moves listed => steps.token _ _ fun row known => ?_
  refine steps.bind _ _ (steps.check_kind _ _) fun _ => ?_
  refine steps.bind _ _ (steps.each _ _ fun adjustment _ => steps.adjust_units _ _ _) fun _ => ?_
  exact steps.each _ _ fun move member => steps.move_nft _ _ _ (seen moves listed row known move member)

theorem grant_hbar (grant : HbarGrant) : Holds _ (grantHbar grant) := by
  refine steps.bind _ _ (steps.live _) fun owner => ?_
  exact steps.bind _ _ (steps.discarded _ (steps.live _)) fun _ => steps.putAccount _

theorem grant_units (grant : UnitGrant) : Holds _ (grantUnits grant) := by
  refine steps.bind _ _ (steps.live _) fun owner => steps.token _ _ fun row _ => ?_
  refine steps.bind _ _ (steps.require _ _) fun _ => ?_
  exact steps.bind _ _ (steps.discarded _ (steps.present _ _)) fun _ => steps.putAccount _

theorem grant_nfts (grant : NftGrant)
    (seen : ∀ row, Known grant.token row → ∀ serial ∈ grant.serials,
      Holds _ (read fun view => View.demand (view.nft ⟨row.id, serial⟩) .invalidNftId)) :
    Holds _ (grantNfts grant) := by
  refine steps.bind _ _ (steps.live _) fun owner => steps.token _ _ fun row known => ?_
  refine steps.bind _ _ (steps.require _ _) fun _ => ?_
  refine steps.bind _ _ (steps.discarded _ (steps.present _ _)) fun _ => ?_
  refine steps.bind _ _ (steps.check_delegate _ _ _) fun _ => ?_
  refine steps.bind _ _ (steps.each _ _ fun serial member => ?_) fun _ => steps.putAccount _
  refine steps.bind _ _ (seen row known serial member) fun nft => ?_
  exact steps.bind _ _ (steps.require _ _) fun _ => steps.putNft _

theorem approve (hbar : List HbarGrant) (units : List UnitGrant) (nfts : List NftGrant)
    (seen : ∀ grant ∈ nfts, ∀ row, Known grant.token row → ∀ serial ∈ grant.serials,
      Holds _ (read fun view => View.demand (view.nft ⟨row.id, serial⟩) .invalidNftId)) :
    Holds _ (approve hbar units nfts) := by
  refine steps.bind _ _ (steps.each _ _ fun grant _ => steps.grant_hbar grant) fun _ => ?_
  refine steps.bind _ _ (steps.each _ _ fun grant _ => steps.grant_units grant) fun _ => ?_
  exact steps.each _ _ fun grant member => steps.grant_nfts grant (seen grant member)

theorem check_payer (payer : AccountId) (token : TokenId) (owner : AccountId) :
    Holds _ (checkPayer payer token owner) := by
  unfold checkPayer
  split
  · exact steps.pure _
  · exact steps.bind _ _ (steps.live _) fun _ => steps.require _ _

theorem revoke (payer : AccountId) (revocations : List NftRevocation)
    (clears : ∀ revocation ∈ revocations, ∀ row, Known revocation.token row → ∀ serial,
      Holds _ (clearSpender row revocation.owner serial)) :
    Holds _ (revoke payer revocations) := by
  refine steps.each _ _ fun revocation listed => steps.token _ _ fun row known => ?_
  refine steps.bind _ _ (steps.check_payer _ _ _) fun _ => ?_
  exact steps.each _ _ fun serial _ => clears revocation listed row known serial

end Carries

end TokenService.Work
