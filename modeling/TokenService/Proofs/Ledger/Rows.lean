import TokenService.Ledger.Answer
import TokenService.Proofs.Total

set_option autoImplicit false

namespace TokenService

namespace Table

variable {κ ρ : Type} [Ord κ] [Std.TransOrd κ] [Std.LawfulEqOrd κ] [DecidableEq κ]

theorem overlaid_insert (base : Table κ ρ) (staged : Table κ (Option ρ)) (key other : κ) (row : Option ρ) :
    base.overlaid (staged.insert key row) other = if other = key then row else base.overlaid staged other := by
  unfold overlaid
  rw [get_insert]
  by_cases same : other = key
  · rw [if_pos same, if_pos same]
    rfl
  · rw [if_neg same, if_neg same]

theorem get_merge_overlaid (base : Table κ ρ) (staged : Table κ (Option ρ)) (key : κ) :
    (base.merge staged).get? key = base.overlaid staged key := get_merge base staged key

theorem merge_insert_some (base : Table κ ρ) (staged : Table κ (Option ρ)) (key : κ) (row : ρ) :
    base.merge (staged.insert key (some row)) = (base.merge staged).insert key row := by
  apply table_ext
  intro other
  rw [get_merge_overlaid, overlaid_insert, get_insert, get_merge_overlaid]

theorem merge_insert_none (base : Table κ ρ) (staged : Table κ (Option ρ)) (key : κ) :
    base.merge (staged.insert key none) = (base.merge staged).erase key := by
  apply table_ext
  intro other
  rw [get_merge_overlaid, overlaid_insert, get_erase, get_merge_overlaid]

omit [DecidableEq κ] in
theorem merge_empty (base : Table κ ρ) : base.merge ∅ = base := rfl

end Table

namespace View

-- The ledger that a view stands for: what it would leave behind.
def merged (view : View) : Ledger := view.ledger.apply view.changes

def limit (view : View) : Nat := view.ledger.nextEntity.toNat + view.changes.entitiesCreated.toNat

section Reads

variable (view : View) (id : AccountId) (token : TokenId) (nft : NftId)

@[simp] theorem merged_account : view.merged.accounts.get? id = view.account id :=
  Table.get_merge_overlaid view.ledger.accounts view.changes.accounts id

@[simp] theorem merged_token : view.merged.tokens.get? token = view.token token :=
  Table.get_merge_overlaid view.ledger.tokens view.changes.tokens token

@[simp] theorem merged_relationship : view.merged.relationships.get? ⟨id, token⟩ = view.relationship id token :=
  Table.get_merge_overlaid view.ledger.relationships view.changes.relationships ⟨id, token⟩

@[simp] theorem merged_nft : view.merged.nfts.get? nft = view.nft nft :=
  Table.get_merge_overlaid view.ledger.nfts view.changes.nfts nft

end Reads

section Fresh

variable (ledger : Ledger) (id : AccountId) (token : TokenId) (nft : NftId)

@[simp] theorem fresh_account : ({ ledger := ledger } : View).account id = ledger.accounts.get? id := rfl

@[simp] theorem fresh_token : ({ ledger := ledger } : View).token token = ledger.tokens.get? token := rfl

@[simp] theorem fresh_relationship :
    ({ ledger := ledger } : View).relationship id token = ledger.relationships.get? ⟨id, token⟩ := rfl

@[simp] theorem fresh_nft : ({ ledger := ledger } : View).nft nft = ledger.nfts.get? nft := rfl

@[simp] theorem fresh_merged : ({ ledger := ledger } : View).merged = ledger := by
  cases ledger
  simp [merged, Ledger.apply, Table.merge_empty]

@[simp] theorem fresh_limit : ({ ledger := ledger } : View).limit = ledger.nextEntity.toNat := rfl

end Fresh

section Accounts

variable (view : View) (row : Account)

@[simp] theorem account_put_account (id : AccountId) :
    (view.putAccount row).account id = if id = row.id then some row else view.account id :=
  Table.overlaid_insert _ _ _ _ _

@[simp] theorem token_put_account (id : TokenId) : (view.putAccount row).token id = view.token id := rfl

@[simp] theorem relationship_put_account (account : AccountId) (token : TokenId) :
    (view.putAccount row).relationship account token = view.relationship account token := rfl

@[simp] theorem nft_put_account (id : NftId) : (view.putAccount row).nft id = view.nft id := rfl

@[simp] theorem merged_put_account :
    (view.putAccount row).merged = { view.merged with accounts := view.merged.accounts.insert row.id row } := by
  simp [merged, Ledger.apply, putAccount, Table.merge_insert_some]

@[simp] theorem limit_put_account : (view.putAccount row).limit = view.limit := rfl

@[simp] theorem ledger_put_account : (view.putAccount row).ledger = view.ledger := rfl

end Accounts

section Tokens

variable (view : View) (row : Token)

@[simp] theorem account_put_token (id : AccountId) : (view.putToken row).account id = view.account id := rfl

@[simp] theorem token_put_token (id : TokenId) :
    (view.putToken row).token id = if id = row.id then some row else view.token id :=
  Table.overlaid_insert _ _ _ _ _

@[simp] theorem relationship_put_token (account : AccountId) (token : TokenId) :
    (view.putToken row).relationship account token = view.relationship account token := rfl

@[simp] theorem nft_put_token (id : NftId) : (view.putToken row).nft id = view.nft id := rfl

@[simp] theorem merged_put_token :
    (view.putToken row).merged = { view.merged with tokens := view.merged.tokens.insert row.id row } := by
  simp [merged, Ledger.apply, putToken, Table.merge_insert_some]

@[simp] theorem limit_put_token : (view.putToken row).limit = view.limit := rfl

@[simp] theorem ledger_put_token : (view.putToken row).ledger = view.ledger := rfl

end Tokens

section Relationships

variable (view : View) (account : AccountId) (token : TokenId) (row : Relationship)

@[simp] theorem account_put_relationship (id : AccountId) :
    (view.putRelationship account token row).account id = view.account id := rfl

@[simp] theorem token_put_relationship (id : TokenId) :
    (view.putRelationship account token row).token id = view.token id := rfl

@[simp] theorem relationship_put_relationship (other : AccountId) (id : TokenId) :
    (view.putRelationship account token row).relationship other id =
      if other = account ∧ id = token then some row else view.relationship other id := by
  apply (Table.overlaid_insert _ _ _ _ _).trans
  exact ite_congr (Holding.mk.injEq _ _ _ _) (fun _ => rfl) (fun _ => rfl)

@[simp] theorem nft_put_relationship (id : NftId) :
    (view.putRelationship account token row).nft id = view.nft id := rfl

@[simp] theorem merged_put_relationship :
    (view.putRelationship account token row).merged =
      { view.merged with relationships := view.merged.relationships.insert ⟨account, token⟩ row } := by
  simp [merged, Ledger.apply, putRelationship, Table.merge_insert_some]

@[simp] theorem limit_put_relationship : (view.putRelationship account token row).limit = view.limit := rfl

@[simp] theorem ledger_put_relationship : (view.putRelationship account token row).ledger = view.ledger := rfl

@[simp] theorem account_remove_relationship (id : AccountId) :
    (view.removeRelationship account token).account id = view.account id := rfl

@[simp] theorem token_remove_relationship (id : TokenId) :
    (view.removeRelationship account token).token id = view.token id := rfl

@[simp] theorem relationship_remove_relationship (other : AccountId) (id : TokenId) :
    (view.removeRelationship account token).relationship other id =
      if other = account ∧ id = token then none else view.relationship other id := by
  apply (Table.overlaid_insert _ _ _ _ _).trans
  exact ite_congr (Holding.mk.injEq _ _ _ _) (fun _ => rfl) (fun _ => rfl)

@[simp] theorem nft_remove_relationship (id : NftId) :
    (view.removeRelationship account token).nft id = view.nft id := rfl

@[simp] theorem merged_remove_relationship :
    (view.removeRelationship account token).merged =
      { view.merged with relationships := view.merged.relationships.erase ⟨account, token⟩ } := by
  simp [merged, Ledger.apply, removeRelationship, Table.merge_insert_none]

@[simp] theorem limit_remove_relationship : (view.removeRelationship account token).limit = view.limit := rfl

@[simp] theorem ledger_remove_relationship : (view.removeRelationship account token).ledger = view.ledger := rfl

end Relationships

section Nfts

variable (view : View) (row : Nft) (gone : NftId)

@[simp] theorem account_put_nft (id : AccountId) : (view.putNft row).account id = view.account id := rfl

@[simp] theorem token_put_nft (id : TokenId) : (view.putNft row).token id = view.token id := rfl

@[simp] theorem relationship_put_nft (account : AccountId) (token : TokenId) :
    (view.putNft row).relationship account token = view.relationship account token := rfl

@[simp] theorem nft_put_nft (id : NftId) :
    (view.putNft row).nft id = if id = row.id then some row else view.nft id :=
  Table.overlaid_insert _ _ _ _ _

@[simp] theorem merged_put_nft :
    (view.putNft row).merged = { view.merged with nfts := view.merged.nfts.insert row.id row } := by
  simp [merged, Ledger.apply, putNft, Table.merge_insert_some]

@[simp] theorem limit_put_nft : (view.putNft row).limit = view.limit := rfl

@[simp] theorem ledger_put_nft : (view.putNft row).ledger = view.ledger := rfl

@[simp] theorem account_remove_nft (id : AccountId) : (view.removeNft gone).account id = view.account id := rfl

@[simp] theorem token_remove_nft (id : TokenId) : (view.removeNft gone).token id = view.token id := rfl

@[simp] theorem relationship_remove_nft (account : AccountId) (token : TokenId) :
    (view.removeNft gone).relationship account token = view.relationship account token := rfl

@[simp] theorem nft_remove_nft (id : NftId) :
    (view.removeNft gone).nft id = if id = gone then none else view.nft id :=
  Table.overlaid_insert _ _ _ _ _

@[simp] theorem merged_remove_nft :
    (view.removeNft gone).merged = { view.merged with nfts := view.merged.nfts.erase gone } := by
  simp [merged, Ledger.apply, removeNft, Table.merge_insert_none]

@[simp] theorem limit_remove_nft : (view.removeNft gone).limit = view.limit := rfl

@[simp] theorem ledger_remove_nft : (view.removeNft gone).ledger = view.ledger := rfl

end Nfts

section Numbers

variable (view : View) (created : UInt64)

@[simp] theorem account_reserving (id : AccountId) : (view.reserving created).account id = view.account id := rfl

@[simp] theorem token_reserving (id : TokenId) : (view.reserving created).token id = view.token id := rfl

@[simp] theorem relationship_reserving (account : AccountId) (token : TokenId) :
    (view.reserving created).relationship account token = view.relationship account token := rfl

@[simp] theorem nft_reserving (id : NftId) : (view.reserving created).nft id = view.nft id := rfl

@[simp] theorem merged_reserving :
    (view.reserving created).merged = { view.merged with nextEntity := view.ledger.nextEntity + created } := rfl

@[simp] theorem limit_reserving :
    (view.reserving created).limit = view.ledger.nextEntity.toNat + created.toNat := rfl

@[simp] theorem ledger_reserving : (view.reserving created).ledger = view.ledger := rfl

theorem allocate_ok (number : UInt64) (after : View) :
    view.allocate = .ok (number, after) ↔
      ∃ created, number.toNat = view.limit ∧ created.toNat = view.changes.entitiesCreated.toNat + 1 ∧
        after = view.reserving created := by
  have one : (1 : UInt64).toNat = 1 := rfl
  unfold allocate addExact64 Overflow.guard limit
  rw [one]
  constructor
  · intro given
    cases first : uint64? (view.ledger.nextEntity.toNat + view.changes.entitiesCreated.toNat) with
    | none => simp [first, bind, Except.bind] at given
    | some low =>
        cases second : uint64? (view.changes.entitiesCreated.toNat + 1) with
        | none => simp [first, second, bind, Except.bind] at given
        | some high =>
            simp only [first, second, bind, Except.bind, pure, Except.pure, Except.ok.injEq, Prod.mk.injEq] at given
            obtain ⟨rfl, rfl⟩ := given
            exact ⟨high, (uint64_some_iff _ _).mp first, (uint64_some_iff _ _).mp second, rfl⟩
  · rintro ⟨created, low, high, rfl⟩
    rw [(uint64_some_iff _ _).mpr low, (uint64_some_iff _ _).mpr high]
    rfl

end Numbers

section Lookups

variable (view : View) (id : EntityId)

theorem demand_ok {α : Type} (row : Option α) (missing : Status) (found : α) :
    demand row missing = .ok found ↔ row = some found := by
  cases row <;> simp [demand]

theorem live_account_ok (row : Account) :
    view.liveAccount id = .ok row ↔ view.account id = some row ∧ row.deleted = false := by
  unfold liveAccount
  cases found : view.account id with
  | none => simp [demand, bind, Except.bind]
  | some account =>
      by_cases gone : account.deleted = true
      · simp [demand, bind, Except.bind, gone]
        rintro rfl
        exact gone
      · simp only [Bool.not_eq_true] at gone
        simp [demand, bind, Except.bind, gone]
        rintro rfl
        exact gone

theorem existing_token_ok (row : Token) :
    view.existingToken id = .ok row ↔ view.token id = some row ∧ row.deleted = false := by
  unfold existingToken
  cases found : view.token id with
  | none => simp [demand, bind, Except.bind]
  | some token =>
      by_cases gone : token.deleted = true
      · simp [demand, bind, Except.bind, gone]
        rintro rfl
        exact gone
      · simp only [Bool.not_eq_true] at gone
        simp [demand, bind, Except.bind, gone]
        rintro rfl
        exact gone

theorem usable_token_ok (row : Token) :
    view.usableToken id = .ok row ↔ view.token id = some row ∧ row.deleted = false ∧ row.paused = false := by
  unfold usableToken
  cases found : view.existingToken id with
  | error status =>
      have absent : ¬ (view.token id = some row ∧ row.deleted = false) := by
        rw [← existing_token_ok, found]
        exact fun same => nomatch same
      simp only [bind, Except.bind, reduceCtorEq, false_iff]
      exact fun ⟨present, live, _⟩ => absent ⟨present, live⟩
  | ok token =>
      obtain ⟨present, live⟩ := (existing_token_ok view id token).mp found
      by_cases paused : token.paused = true
      · simp [bind, Except.bind, paused, present]
        rintro rfl _
        exact paused
      · simp only [Bool.not_eq_true] at paused
        simp [bind, Except.bind, paused, present]
        rintro rfl
        exact ⟨live, paused⟩

theorem present_relationship_ok (token : TokenId) (row : Relationship) :
    view.presentRelationship id token = .ok row ↔ view.relationship id token = some row := demand_ok _ _ _

theorem usable_relationship_ok (token : TokenId) (row : Relationship) :
    view.usableRelationship id token = .ok row ↔
      view.relationship id token = some row ∧ row.frozen = false ∧ row.kycGranted = true := by
  unfold usableRelationship presentRelationship
  cases found : view.relationship id token with
  | none => simp [demand, bind, Except.bind]
  | some held =>
      by_cases frozen : held.frozen = true
      · simp [demand, bind, Except.bind, frozen]
        rintro rfl thawed
        rw [frozen] at thawed
        cases thawed
      · simp only [Bool.not_eq_true] at frozen
        by_cases granted : held.kycGranted = true
        · simp [demand, bind, Except.bind, frozen, granted]
          rintro rfl
          exact ⟨frozen, granted⟩
        · simp only [Bool.not_eq_true] at granted
          simp [demand, bind, Except.bind, frozen, granted]
          rintro rfl _
          exact granted

end Lookups

end View

section Holders

variable (nft : Nft) (row : Token)

theorem holder_of_nobody (nobody : nft.owner = .zero) : nft.holder row = row.treasury := if_pos (beq_iff_eq.mpr nobody)

theorem owner_answer (view : View) (id : NftId) (issued : view.nft id = some nft)
    (known : view.token id.token = some row) :
    view.answer (.ownerOf id) = .ok (.owner (nft.holder row)) := by
  simp only [View.answer, View.knownNft, View.knownToken, View.demand, issued, known, bind, Except.bind, Nft.holder]
  cases nft.owner.isZero <;> rfl

end Holders

end TokenService
