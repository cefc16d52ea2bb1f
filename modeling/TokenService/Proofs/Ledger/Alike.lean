import TokenService.Proofs.Ledger.Rows
import TokenService.Proofs.Ledger.Steps
import TokenService.Proofs.Ledger.Yields

set_option autoImplicit false

namespace TokenService

namespace Work

variable {α β : Type}

-- Work with the same result on any two related views, which are related after it.
def Alike (related : View → View → Prop) (work : Work α) : Prop :=
  ∀ left right, related left right → (work left).1 = (work right).1 ∧ related (work left).2 (work right).2

section Laws

variable (related : View → View → Prop)

theorem alike_bind (work : Work α) (next : α → Work β) (first : work.Alike related)
    (rest : ∀ value, (next value).Alike related) : (work >>= next).Alike related := by
  intro left right begins
  obtain ⟨same, kept⟩ := first left right begins
  rw [run_bind, run_bind]
  revert same kept
  rcases work left with ⟨result, between⟩
  rcases work right with ⟨other, middle⟩
  rintro rfl kept
  cases result with
  | ok value => exact rest value _ _ kept
  | error failure => exact ⟨rfl, kept⟩

theorem alike_fixed (work : Work α) (result : Except Failure α) (fixed : ∀ view, work view = (result, view)) :
    work.Alike related := by
  intro left right begins
  rw [fixed, fixed]
  exact ⟨rfl, begins⟩

theorem alike_pure (value : α) : (pure value : Work α).Alike related := alike_fixed related _ (.ok value) fun _ => rfl

theorem alike_refuse (status : Status) : (refuse status : Work α).Alike related :=
  alike_fixed related _ (.error (.status status)) fun _ => rfl

theorem alike_composes : Composes fun _ => Alike related where
  bind := alike_bind related
  pure := alike_pure related
  refuse := alike_refuse related
  overflow operation := alike_fixed related _ (.error (.overflow operation)) fun _ => rfl

theorem read_run (look : View → Except Status α) (view : View) :
    read look view = match look view with
      | .ok value => (.ok value, view)
      | .error status => (.error (.status status), view) := by
  change (match look view with
    | .ok value => (pure value : Work α)
    | .error status => refuse status) view = _
  cases look view <;> rfl

theorem alike_read_bind (look : View → Except Status α) (next : α → Work β) (fine : α → Prop)
    (same : ∀ left right, related left right → look left = look right)
    (known : ∀ left right value, related left right → look left = .ok value → fine value)
    (rest : ∀ value, fine value → (next value).Alike related) : (read look >>= next).Alike related := by
  intro left right begins
  rw [run_bind, run_bind, read_run, read_run, ← same left right begins]
  cases found : look left with
  | ok value => exact rest value (known left right value begins found) left right begins
  | error status => exact ⟨rfl, begins⟩

theorem alike_read (look : View → Except Status α) (same : ∀ left right, related left right → look left = look right) :
    (read look).Alike related := by
  intro left right begins
  rw [read_run, read_run, ← same left right begins]
  cases look left <;> exact ⟨rfl, begins⟩

theorem alike_change (step : View → View)
    (keeps : ∀ left right, related left right → related (step left) (step right)) : (change step).Alike related :=
  fun left right begins => ⟨rfl, keeps left right begins⟩

theorem alike_checked (rule : View → Bool) (status : Status) (step : View → View)
    (same : ∀ left right, related left right → rule left = rule right)
    (keeps : ∀ left right, related left right → related (step left) (step right)) :
    (do let view ← get; require (rule view) status; change step : Work Unit).Alike related := by
  intro left right begins
  have tested := (alike_composes related).require (rule left) status
  have next := alike_bind related _ _ tested (fun _ => alike_change related step keeps) left right begins
  change ((require (rule left) status >>= fun _ => change step : Work Unit) left).1 =
      ((require (rule right) status >>= fun _ => change step : Work Unit) right).1 ∧
    related ((require (rule left) status >>= fun _ => change step : Work Unit) left).2
      ((require (rule right) status >>= fun _ => change step : Work Unit) right).2
  rw [← same left right begins]
  exact next

end Laws

end Work

namespace View

-- They answer alike, except that serials of one token belong to nobody in the first and to the treasury
-- in the second.
structure Twins (id : TokenId) (treasury : AccountId) (left right : View) : Prop where
  accounts : left.account = right.account
  tokens : left.token = right.token
  relationships : left.relationship = right.relationship
  limit : left.limit = right.limit
  nfts : ∀ key, left.nft key = right.nft key ∨ key.token = id ∧
    ∃ row, row.owner = .zero ∧ left.nft key = some row ∧ right.nft key = some { row with owner := treasury }

structure Matched (id : TokenId) (treasury : AccountId) (agreed : Int64 → Prop) (left right : View) : Prop
    extends Twins id treasury left right where
  own : ∀ key row, left.token key = some row → row.id = key
  held : ∀ row, left.token id = some row → row.treasury = treasury
  placed : ∀ key row, left.nft key = some row → row.id = key
  settled : ∀ serial, agreed serial → left.nft ⟨id, serial⟩ = right.nft ⟨id, serial⟩

variable {id : TokenId} {treasury : AccountId} {agreed : Int64 → Prop} {left right : View}

section Reads

variable (twins : Twins id treasury left right)
include twins

theorem twins_live (account : AccountId) : left.liveAccount account = right.liveAccount account := by
  rw [liveAccount, liveAccount, twins.accounts]

theorem twins_usable (token : TokenId) : left.usableToken token = right.usableToken token := by
  rw [usableToken, usableToken, existingToken, existingToken, twins.tokens]

theorem twins_present (account : AccountId) (token : TokenId) :
    left.presentRelationship account token = right.presentRelationship account token := by
  rw [presentRelationship, presentRelationship, twins.relationships]

theorem twins_trades (account : AccountId) (token : TokenId) :
    left.usableRelationship account token = right.usableRelationship account token := by
  rw [usableRelationship, usableRelationship, twins_present twins]

end Reads

section Matches

variable (matched : Matched id treasury agreed left right)
include matched

theorem matched_nft (key : NftId) (sure : key.token = id → agreed key.serial) : left.nft key = right.nft key := by
  rcases matched.nfts key with same | ⟨about, _⟩
  · exact same
  · have settled := matched.settled key.serial (sure about)
    rw [← about] at settled
    exact settled

theorem matched_usable (key : TokenId) (row : Token) (usable : left.usableToken key = .ok row) :
    row.id = key ∧ (row.id = id → row.treasury = treasury) := by
  have found := ((usable_token_ok left key row).mp usable).1
  have own := matched.own key row found
  refine ⟨own, fun same => matched.held row ?_⟩
  rw [← same, own]
  exact found

theorem matched_put_account (row : Account) :
    Matched id treasury agreed (left.putAccount row) (right.putAccount row) where
  accounts := by
    funext other
    rw [account_put_account, account_put_account, matched.accounts]
  tokens := matched.tokens
  relationships := matched.relationships
  limit := matched.limit
  nfts := matched.nfts
  own := matched.own
  held := matched.held
  placed := matched.placed
  settled := matched.settled

theorem matched_put_relationship (account : AccountId) (token : TokenId) (row : Relationship) :
    Matched id treasury agreed (left.putRelationship account token row) (right.putRelationship account token row) where
  accounts := matched.accounts
  tokens := matched.tokens
  relationships := by
    funext other key
    rw [relationship_put_relationship, relationship_put_relationship, matched.relationships]
  limit := matched.limit
  nfts := matched.nfts
  own := matched.own
  held := matched.held
  placed := matched.placed
  settled := matched.settled

theorem matched_put_token (row : Token) (holds : row.id = id → row.treasury = treasury) :
    Matched id treasury agreed (left.putToken row) (right.putToken row) where
  accounts := matched.accounts
  tokens := by
    funext key
    rw [token_put_token, token_put_token, matched.tokens]
  relationships := matched.relationships
  limit := matched.limit
  nfts := matched.nfts
  own := by
    intro key other found
    rw [token_put_token] at found
    split at found
    · rename_i same
      cases found
      exact same.symm
    · exact matched.own key other found
  held := by
    intro other found
    rw [token_put_token] at found
    split at found
    · rename_i same
      cases found
      exact holds same.symm
    · exact matched.held other found
  placed := matched.placed
  settled := matched.settled

theorem matched_put_nfts (first second : Nft) (same : second.id = first.id)
    (twin : first = second ∨ first.id.token = id ∧ ¬ agreed first.id.serial ∧ first.owner = .zero ∧
      second = { first with owner := treasury }) :
    Matched id treasury agreed (left.putNft first) (right.putNft second) where
  accounts := matched.accounts
  tokens := matched.tokens
  relationships := matched.relationships
  limit := matched.limit
  nfts := by
    intro key
    rw [nft_put_nft, nft_put_nft, same]
    by_cases here : key = first.id
    · rw [if_pos here, if_pos here]
      rcases twin with rfl | ⟨about, _, nobody, rfl⟩
      · exact .inl rfl
      · exact .inr ⟨here ▸ about, first, nobody, rfl, rfl⟩
    · rw [if_neg here, if_neg here]
      exact matched.nfts key
  own := matched.own
  held := matched.held
  placed := by
    intro key other found
    rw [nft_put_nft] at found
    split at found
    · rename_i here
      cases found
      exact here.symm
    · exact matched.placed key other found
  settled := by
    intro serial sure
    rw [nft_put_nft, nft_put_nft, same]
    by_cases here : ⟨id, serial⟩ = first.id
    · rw [if_pos here, if_pos here]
      rcases twin with rfl | ⟨_, open_, _, _⟩
      · rfl
      · rw [← here] at open_
        exact absurd sure open_
    · rw [if_neg here, if_neg here]
      exact matched.settled serial sure

theorem matched_put_nft (row : Nft) : Matched id treasury agreed (left.putNft row) (right.putNft row) :=
  matched_put_nfts matched row row rfl (.inl rfl)

theorem matched_remove_nft (key : NftId) : Matched id treasury agreed (left.removeNft key) (right.removeNft key) where
  accounts := matched.accounts
  tokens := matched.tokens
  relationships := matched.relationships
  limit := matched.limit
  nfts := by
    intro other
    rw [nft_remove_nft, nft_remove_nft]
    split
    · exact .inl rfl
    · exact matched.nfts other
  own := matched.own
  held := matched.held
  placed := by
    intro other row found
    rw [nft_remove_nft] at found
    split at found
    · cases found
    · exact matched.placed other row found
  settled := by
    intro serial sure
    rw [nft_remove_nft, nft_remove_nft]
    split
    · rfl
    · exact matched.settled serial sure

end Matches

end View

end TokenService
