import TokenService.Proofs.Ledger.Rows

set_option autoImplicit false

namespace TokenService

structure Ledger.Rooted (ledger : Ledger) : Prop where
  accounts : ∀ id row, ledger.accounts.get? id = some row → row.id = id
  tokens : ∀ id row, ledger.tokens.get? id = some row → row.id = id
  nfts : ∀ id row, ledger.nfts.get? id = some row → row.id = id

structure Ledger.Numbered (ledger : Ledger) (limit : Nat) : Prop where
  tokens : ∀ id row, ledger.tokens.get? id = some row → id.num.toNat < limit
  relationships : ∀ account id row, ledger.relationships.get? ⟨account, id⟩ = some row → id.num.toNat < limit
  nfts : ∀ id row, ledger.nfts.get? id = some row → id.token.num.toNat < limit

structure Ledger.Peopled (ledger : Ledger) (limit : Nat) : Prop where
  accounts : ∀ id row, ledger.accounts.get? id = some row → id.num.toNat < limit
  relationships : ∀ account id row, ledger.relationships.get? ⟨account, id⟩ = some row → account.num.toNat < limit

section Rows

theorem every_row {κ ρ : Type} [Ord κ] [Std.TransOrd κ] [Std.LawfulEqOrd κ] (table : Table κ ρ) (Holds : κ → ρ → Prop)
    (rows : ∀ entry ∈ table.rows, Holds entry.1 entry.2) (key : κ) (row : ρ) (found : table.get? key = some row) :
    Holds key row :=
  rows (key, row) ((table.get_some_iff key row).mp found)

variable (ledger : Ledger)

theorem rooted_of_rows (accounts : ∀ entry ∈ ledger.accounts.rows, entry.2.id = entry.1)
    (tokens : ∀ entry ∈ ledger.tokens.rows, entry.2.id = entry.1)
    (nfts : ∀ entry ∈ ledger.nfts.rows, entry.2.id = entry.1) : ledger.Rooted where
  accounts := every_row ledger.accounts (fun id row => row.id = id) accounts
  tokens := every_row ledger.tokens (fun id row => row.id = id) tokens
  nfts := every_row ledger.nfts (fun id row => row.id = id) nfts

theorem numbered_of_rows (limit : Nat) (tokens : ∀ entry ∈ ledger.tokens.rows, entry.1.num.toNat < limit)
    (relationships : ∀ entry ∈ ledger.relationships.rows, entry.1.token.num.toNat < limit)
    (nfts : ∀ entry ∈ ledger.nfts.rows, entry.1.token.num.toNat < limit) : ledger.Numbered limit where
  tokens := every_row ledger.tokens (fun id _ => id.num.toNat < limit) tokens
  relationships account id row found :=
    every_row ledger.relationships (fun holding _ => holding.token.num.toNat < limit) relationships ⟨account, id⟩ row
      found
  nfts := every_row ledger.nfts (fun id _ => id.token.num.toNat < limit) nfts

theorem peopled_of_rows (limit : Nat) (accounts : ∀ entry ∈ ledger.accounts.rows, entry.1.num.toNat < limit)
    (relationships : ∀ entry ∈ ledger.relationships.rows, entry.1.account.num.toNat < limit) :
    ledger.Peopled limit where
  accounts := every_row ledger.accounts (fun id _ => id.num.toNat < limit) accounts
  relationships account id row found :=
    every_row ledger.relationships (fun holding _ => holding.account.num.toNat < limit) relationships ⟨account, id⟩ row
      found

end Rows

namespace View

structure Lives (view : View) (id : AccountId) (row : Account) : Prop where
  found : view.account id = some row
  own : row.id = id
  live : row.deleted = false

structure Exists (view : View) (id : TokenId) (row : Token) : Prop where
  found : view.token id = some row
  own : row.id = id
  live : row.deleted = false

structure Usable (view : View) (id : TokenId) (row : Token) : Prop extends view.Exists id row where
  running : row.paused = false

structure Trades (view : View) (account : AccountId) (token : TokenId) (row : Relationship) : Prop where
  found : view.relationship account token = some row
  thawed : row.frozen = false
  cleared : row.kycGranted = true

section Lookups

variable (view : View) (id : EntityId) (rooted : view.merged.Rooted)
include rooted

theorem rooted_account (row : Account) (found : view.account id = some row) : row.id = id :=
  rooted.accounts id row ((merged_account view id).trans found)

theorem rooted_token (row : Token) (found : view.token id = some row) : row.id = id :=
  rooted.tokens id row ((merged_token view id).trans found)

theorem rooted_nft (nft : NftId) (row : Nft) (found : view.nft nft = some row) : row.id = nft :=
  rooted.nfts nft row ((merged_nft view nft).trans found)

theorem lives_of_ok (row : Account) (found : view.liveAccount id = .ok row) : view.Lives id row := by
  obtain ⟨present, live⟩ := (live_account_ok view id row).mp found
  exact ⟨present, rooted_account view id rooted row present, live⟩

theorem exists_of_ok (row : Token) (found : view.existingToken id = .ok row) : view.Exists id row := by
  obtain ⟨present, live⟩ := (existing_token_ok view id row).mp found
  exact ⟨present, rooted_token view id rooted row present, live⟩

theorem usable_of_ok (row : Token) (found : view.usableToken id = .ok row) : view.Usable id row := by
  obtain ⟨present, live, running⟩ := (usable_token_ok view id row).mp found
  exact ⟨⟨present, rooted_token view id rooted row present, live⟩, running⟩

omit rooted in
theorem trades_of_ok (token : TokenId) (row : Relationship) (found : view.usableRelationship id token = .ok row) :
    view.Trades id token row := by
  obtain ⟨present, thawed, cleared⟩ := (usable_relationship_ok view id token row).mp found
  exact ⟨present, thawed, cleared⟩

end Lookups

section Alike

variable {β : Type} (view : View) (id : EntityId)

theorem put_account_alike (look : Account → β) (default : β) (account row : Account) (lives : view.Lives id account)
    (own : row.id = account.id) (alike : look row = look account) (other : AccountId) :
    (((view.putAccount row).account other).map look).getD default =
      ((view.account other).map look).getD default := by
  rw [account_put_account]
  by_cases same : other = row.id
  · rw [if_pos same, same, own, lives.own, lives.found, Option.map_some, Option.map_some, alike]
  · rw [if_neg same]

theorem put_account_other (account row : Account) (lives : view.Lives id account) (own : row.id = account.id)
    (other : AccountId) (apart : other ≠ id) : (view.putAccount row).account other = view.account other := by
  rw [account_put_account, own, lives.own, if_neg apart]

theorem put_account_same (account row : Account) (lives : view.Lives id account) (own : row.id = account.id) :
    (view.putAccount row).account id = some row := by
  rw [account_put_account, own, lives.own, if_pos rfl]

theorem put_token_alike (look : Token → β) (default : β) (token row : Token) (existing : view.Exists id token)
    (own : row.id = token.id) (alike : look row = look token) (other : TokenId) :
    (((view.putToken row).token other).map look).getD default = ((view.token other).map look).getD default := by
  rw [token_put_token]
  by_cases same : other = row.id
  · rw [if_pos same, same, own, existing.own, existing.found, Option.map_some, Option.map_some, alike]
  · rw [if_neg same]

end Alike

section Writes

variable (view : View) (rooted : view.merged.Rooted)
include rooted

theorem rooted_put_account (row : Account) : (view.putAccount row).merged.Rooted := by
  refine ⟨fun id found present => ?_, by simpa using rooted.tokens, by simpa using rooted.nfts⟩
  rw [merged_account, account_put_account] at present
  by_cases same : id = row.id
  · rw [if_pos same] at present
    cases present
    exact same.symm
  · rw [if_neg same] at present
    exact rooted_account view id rooted found present

theorem rooted_put_token (row : Token) : (view.putToken row).merged.Rooted := by
  refine ⟨by simpa using rooted.accounts, fun id found present => ?_, by simpa using rooted.nfts⟩
  rw [merged_token, token_put_token] at present
  by_cases same : id = row.id
  · rw [if_pos same] at present
    cases present
    exact same.symm
  · rw [if_neg same] at present
    exact rooted_token view id rooted found present

theorem rooted_put_nft (row : Nft) : (view.putNft row).merged.Rooted := by
  refine ⟨by simpa using rooted.accounts, by simpa using rooted.tokens, fun id found present => ?_⟩
  rw [merged_nft, nft_put_nft] at present
  by_cases same : id = row.id
  · rw [if_pos same] at present
    cases present
    exact same.symm
  · rw [if_neg same] at present
    exact rooted_nft view rooted id found present

theorem rooted_remove_nft (gone : NftId) : (view.removeNft gone).merged.Rooted := by
  refine ⟨by simpa using rooted.accounts, by simpa using rooted.tokens, fun id found present => ?_⟩
  rw [merged_nft, nft_remove_nft] at present
  by_cases same : id = gone
  · rw [if_pos same] at present
    cases present
  · rw [if_neg same] at present
    exact rooted_nft view rooted id found present

theorem rooted_put_relationship (account : AccountId) (token : TokenId) (row : Relationship) :
    (view.putRelationship account token row).merged.Rooted :=
  ⟨by simpa using rooted.accounts, by simpa using rooted.tokens, by simpa using rooted.nfts⟩

theorem rooted_remove_relationship (account : AccountId) (token : TokenId) :
    (view.removeRelationship account token).merged.Rooted :=
  ⟨by simpa using rooted.accounts, by simpa using rooted.tokens, by simpa using rooted.nfts⟩

theorem rooted_reserving (created : UInt64) : (view.reserving created).merged.Rooted :=
  ⟨rooted.accounts, rooted.tokens, rooted.nfts⟩

end Writes

section Numbers

variable (view : View) (limit : Nat) (numbered : view.merged.Numbered limit)
include numbered

theorem numbered_token (id : TokenId) (row : Token) (found : view.token id = some row) : id.num.toNat < limit :=
  numbered.tokens id row ((merged_token view id).trans found)

theorem numbered_relationship (account : AccountId) (id : TokenId) (row : Relationship)
    (found : view.relationship account id = some row) : id.num.toNat < limit :=
  numbered.relationships account id row ((merged_relationship view account id).trans found)

theorem numbered_nft (id : NftId) (row : Nft) (found : view.nft id = some row) : id.token.num.toNat < limit :=
  numbered.nfts id row ((merged_nft view id).trans found)

theorem unknown_token (id : TokenId) (free : limit ≤ id.num.toNat) : view.token id = none := by
  cases found : view.token id with
  | none => rfl
  | some row => exact absurd (numbered_token view limit numbered id row found) (Nat.not_lt.mpr free)

theorem unknown_relationship (account : AccountId) (id : TokenId) (free : limit ≤ id.num.toNat) :
    view.relationship account id = none := by
  cases found : view.relationship account id with
  | none => rfl
  | some row => exact absurd (numbered_relationship view limit numbered account id row found) (Nat.not_lt.mpr free)

theorem unknown_nft (id : NftId) (free : limit ≤ id.token.num.toNat) : view.nft id = none := by
  cases found : view.nft id with
  | none => rfl
  | some row => exact absurd (numbered_nft view limit numbered id row found) (Nat.not_lt.mpr free)

theorem numbered_rise (higher : Nat) (rises : limit ≤ higher) : view.merged.Numbered higher :=
  ⟨fun id row found => Nat.lt_of_lt_of_le (numbered.tokens id row found) rises,
    fun account id row found => Nat.lt_of_lt_of_le (numbered.relationships account id row found) rises,
    fun id row found => Nat.lt_of_lt_of_le (numbered.nfts id row found) rises⟩

theorem numbered_put_account (row : Account) : (view.putAccount row).merged.Numbered limit :=
  ⟨by simpa using numbered.tokens, by simpa using numbered.relationships, by simpa using numbered.nfts⟩

theorem numbered_put_token (row : Token) (below : row.id.num.toNat < limit) :
    (view.putToken row).merged.Numbered limit := by
  refine ⟨fun id found present => ?_, by simpa using numbered.relationships, by simpa using numbered.nfts⟩
  rw [merged_token, token_put_token] at present
  by_cases same : id = row.id
  · rw [same]
    exact below
  · rw [if_neg same] at present
    exact numbered_token view limit numbered id found present

theorem numbered_put_relationship (account : AccountId) (token : TokenId) (row : Relationship)
    (below : token.num.toNat < limit) : (view.putRelationship account token row).merged.Numbered limit := by
  refine ⟨by simpa using numbered.tokens, fun other id found present => ?_, by simpa using numbered.nfts⟩
  rw [merged_relationship, relationship_put_relationship] at present
  by_cases same : other = account ∧ id = token
  · rw [same.2]
    exact below
  · rw [if_neg same] at present
    exact numbered_relationship view limit numbered other id found present

theorem numbered_remove_relationship (account : AccountId) (token : TokenId) :
    (view.removeRelationship account token).merged.Numbered limit := by
  refine ⟨by simpa using numbered.tokens, fun other id found present => ?_, by simpa using numbered.nfts⟩
  rw [merged_relationship, relationship_remove_relationship] at present
  by_cases same : other = account ∧ id = token
  · rw [if_pos same] at present
    cases present
  · rw [if_neg same] at present
    exact numbered_relationship view limit numbered other id found present

theorem numbered_put_nft (row : Nft) (below : row.id.token.num.toNat < limit) :
    (view.putNft row).merged.Numbered limit := by
  refine ⟨by simpa using numbered.tokens, by simpa using numbered.relationships, fun id found present => ?_⟩
  rw [merged_nft, nft_put_nft] at present
  by_cases same : id = row.id
  · rw [same]
    exact below
  · rw [if_neg same] at present
    exact numbered_nft view limit numbered id found present

theorem numbered_remove_nft (gone : NftId) : (view.removeNft gone).merged.Numbered limit := by
  refine ⟨by simpa using numbered.tokens, by simpa using numbered.relationships, fun id found present => ?_⟩
  rw [merged_nft, nft_remove_nft] at present
  by_cases same : id = gone
  · rw [if_pos same] at present
    cases present
  · rw [if_neg same] at present
    exact numbered_nft view limit numbered id found present

theorem numbered_reserving (created : UInt64) : (view.reserving created).merged.Numbered limit :=
  ⟨numbered.tokens, numbered.relationships, numbered.nfts⟩

end Numbers

section People

variable (view : View) (limit : Nat) (peopled : view.merged.Peopled limit)
include peopled

theorem peopled_account (id : AccountId) (row : Account) (found : view.account id = some row) :
    id.num.toNat < limit :=
  peopled.accounts id row ((merged_account view id).trans found)

theorem peopled_relationship (account : AccountId) (id : TokenId) (row : Relationship)
    (found : view.relationship account id = some row) : account.num.toNat < limit :=
  peopled.relationships account id row ((merged_relationship view account id).trans found)

theorem peopled_rise (higher : Nat) (rises : limit ≤ higher) : view.merged.Peopled higher :=
  ⟨fun id row found => Nat.lt_of_lt_of_le (peopled.accounts id row found) rises,
    fun account id row found => Nat.lt_of_lt_of_le (peopled.relationships account id row found) rises⟩

theorem peopled_alike (after : View) (accounts : after.merged.accounts = view.merged.accounts)
    (relationships : after.merged.relationships = view.merged.relationships) : after.merged.Peopled limit :=
  ⟨accounts.symm ▸ peopled.accounts, relationships.symm ▸ peopled.relationships⟩

theorem peopled_put_account (id : AccountId) (account row : Account) (lives : view.Lives id account)
    (own : row.id = account.id) : (view.putAccount row).merged.Peopled limit := by
  refine ⟨fun other found present => ?_, by simpa using peopled.relationships⟩
  rw [merged_account, account_put_account] at present
  by_cases same : other = row.id
  · rw [same, own, lives.own]
    exact peopled_account view limit peopled id account lives.found
  · rw [if_neg same] at present
    exact peopled_account view limit peopled other found present

theorem peopled_put_relationship (account : AccountId) (token : TokenId) (row : Relationship)
    (below : account.num.toNat < limit) : (view.putRelationship account token row).merged.Peopled limit := by
  refine ⟨by simpa using peopled.accounts, fun other id found present => ?_⟩
  rw [merged_relationship, relationship_put_relationship] at present
  by_cases same : other = account ∧ id = token
  · rw [same.1]
    exact below
  · rw [if_neg same] at present
    exact peopled_relationship view limit peopled other id found present

theorem peopled_remove_relationship (account : AccountId) (token : TokenId) :
    (view.removeRelationship account token).merged.Peopled limit := by
  refine ⟨by simpa using peopled.accounts, fun other id found present => ?_⟩
  rw [merged_relationship, relationship_remove_relationship] at present
  by_cases same : other = account ∧ id = token
  · rw [if_pos same] at present
    cases present
  · rw [if_neg same] at present
    exact peopled_relationship view limit peopled other id found present

end People

end View

end TokenService
