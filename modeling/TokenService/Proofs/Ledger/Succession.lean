import TokenService.Proofs.Ledger.Serials

set_option autoImplicit false

namespace TokenService

structure Ledger.Precedes (earlier : Ledger) (limit : Nat) (later : Ledger) (higher : Nat) : Prop where
  rises : limit ≤ higher
  kept : ∀ id row, earlier.tokens.get? id = some row → ∃ heir, later.tokens.get? id = some heir ∧
    heir.type = row.type ∧ heir.deleted = row.deleted ∧ row.lastUsedSerial.toInt ≤ heir.lastUsedSerial.toInt
  made : ∀ id, later.tokens.get? id ≠ none → earlier.tokens.get? id ≠ none ∨ limit ≤ id.num.toNat
  issued : ∀ nft, later.nfts.get? nft ≠ none → earlier.nfts.get? nft ≠ none ∨ limit ≤ nft.token.num.toNat ∨
    ∃ row, earlier.tokens.get? nft.token = some row ∧ row.deleted = false ∧ row.type = .nonFungible ∧
      row.lastUsedSerial.toInt < nft.serial.toInt

section Order

theorem precedes_refl (ledger : Ledger) (limit : Nat) : ledger.Precedes limit ledger limit :=
  ⟨Nat.le_refl limit, fun _ row found => ⟨row, found, rfl, rfl, Int.le_refl _⟩, fun _ there => .inl there,
    fun _ there => .inl there⟩

theorem precedes_trans (first second third : Ledger) (low middle high : Nat)
    (left : first.Precedes low second middle) (right : second.Precedes middle third high) :
    first.Precedes low third high := by
  refine ⟨Nat.le_trans left.rises right.rises, fun id row found => ?_, fun id there => ?_, fun nft there => ?_⟩
  · obtain ⟨heir, second, type, deleted, rose⟩ := left.kept id row found
    obtain ⟨last, third, type', deleted', rose'⟩ := right.kept id heir second
    exact ⟨last, third, type'.trans type, deleted'.trans deleted, Int.le_trans rose rose'⟩
  · rcases right.made id there with before | above
    · exact left.made id before
    · exact .inr (Nat.le_trans left.rises above)
  · rcases right.issued nft there with before | above | ⟨heir, found, live, type, beyond⟩
    · exact left.issued nft before
    · exact .inr (.inl (Nat.le_trans left.rises above))
    -- A serial beyond a later counter is beyond the earlier one, for a token that was there already;
    -- any other token has got its number since.
    · cases old : first.tokens.get? nft.token with
      | none =>
          rcases left.made nft.token (by rw [found]; exact Option.some_ne_none _) with before | above
          · exact absurd old before
          · exact .inr (.inl above)
      | some row =>
          obtain ⟨heir', found', type', deleted', rose⟩ := left.kept nft.token row old
          rw [found] at found'
          cases found'
          exact .inr (.inr ⟨row, rfl, deleted'.symm.trans live, type'.symm.trans type, by omega⟩)

theorem gone_for_good (first second third : Ledger) (low middle high : Nat)
    (left : first.Precedes low second middle) (right : second.Precedes middle third high)
    (numbered : first.Numbered low)
    (range : ∀ nft token, first.nfts.get? nft ≠ none → first.tokens.get? nft.token = some token →
      token.deleted = false → token.type = .nonFungible → nft.serial.toInt ≤ token.lastUsedSerial.toInt)
    (nft : NftId) (present : first.nfts.get? nft ≠ none) (gone : second.nfts.get? nft = none) :
    third.nfts.get? nft = none := by
  have below : nft.token.num.toNat < low := by
    cases found : first.nfts.get? nft with
    | none => exact absurd found present
    | some row => exact numbered.nfts nft row found
  have rises := left.rises
  cases again : third.nfts.get? nft with
  | none => rfl
  | some row =>
      -- It would have to be a new serial of a token that was there, but those lie beyond the
      -- counter.
      rcases right.issued nft (by rw [again]; exact Option.some_ne_none _) with
        there | above | ⟨heir, found, live, type, beyond⟩
      · exact absurd gone there
      · omega
      · rcases left.made nft.token (by rw [found]; exact Option.some_ne_none _) with before | above
        · cases old : first.tokens.get? nft.token with
          | none => exact absurd old before
          | some token =>
              obtain ⟨heir', found', type', deleted', rose⟩ := left.kept nft.token token old
              rw [found] at found'
              cases found'
              have within := range nft token present old (deleted'.symm.trans live) (type'.symm.trans type)
              omega
        · omega

end Order

section Deeds

variable (sender : AccountId) (now : Timestamp)

theorem precedes_quiet (before after : View) (limit : after.limit = before.limit)
    (tokens : ∀ id, after.token id = before.token id)
    (nfts : ∀ nft, after.nft nft ≠ none → before.nft nft ≠ none) :
    before.merged.Precedes before.limit after.merged after.limit := by
  refine ⟨Nat.le_of_eq limit.symm, fun id row found => ⟨row, ?_, rfl, rfl, Int.le_refl _⟩, fun id there => .inl ?_,
    fun nft there => .inl ?_⟩
  · rw [View.merged_token, tokens, ← View.merged_token]
    exact found
  · rw [View.merged_token, tokens, ← View.merged_token] at there
    exact there
  · rw [View.merged_nft] at there ⊢
    exact nfts nft there

theorem precedes_put_token (before middle : View) (id : TokenId) (token row : Token)
    (existing : before.Exists id token) (limit : middle.limit = before.limit)
    (tokens : ∀ id, middle.token id = before.token id) (own : row.id = token.id) (type : row.type = token.type)
    (deleted : row.deleted = token.deleted) (rises : token.lastUsedSerial.toInt ≤ row.lastUsedSerial.toInt)
    (nfts : ∀ nft, middle.nft nft ≠ none → before.nft nft ≠ none ∨
      nft.token = id ∧ token.type = .nonFungible ∧ token.lastUsedSerial.toInt < nft.serial.toInt) :
    before.merged.Precedes before.limit (middle.putToken row).merged (middle.putToken row).limit := by
  refine ⟨Nat.le_of_eq limit.symm, fun other old found => ?_, fun other there => ?_, fun nft there => ?_⟩
  · rw [View.merged_token] at found
    rw [View.merged_token, View.token_put_token, own, existing.own]
    by_cases same : other = id
    · subst same
      rw [existing.found] at found
      cases found
      exact ⟨row, if_pos rfl, type, deleted, rises⟩
    · rw [if_neg same, tokens]
      exact ⟨old, found, rfl, rfl, Int.le_refl _⟩
  · rw [View.merged_token, View.token_put_token, own, existing.own] at there
    rw [View.merged_token]
    by_cases same : other = id
    · subst same
      exact .inl (by rw [existing.found]; exact Option.some_ne_none _)
    · rw [if_neg same, tokens] at there
      exact .inl there
  · rw [View.merged_nft, View.nft_put_token] at there
    rw [View.merged_nft, View.merged_token]
    rcases nfts nft there with before | ⟨rfl, serials, beyond⟩
    · exact .inl before
    · exact .inr (.inr ⟨token, existing.found, existing.live, serials, beyond⟩)

theorem mint_precedes (order : Mint) (before after : View) (does : (Deed.mint order).Does sender now before after) :
    before.merged.Precedes before.limit after.merged after.limit := by
  cases does with
  | mint token held minted last supply balance usable found items =>
      have alike := minted_alike _ _ _ _ _ _ _ items
      refine precedes_put_token before _ order.token token _ usable.toExists alike.limit alike.token rfl rfl rfl ?_
        fun nft there => ?_
      · cases items with
        | units => exact Int.le_refl _
        | items nonFungible issued =>
            have rose := issued_last _ _ _ _ _ _ _ issued
            exact (by omega : token.lastUsedSerial.toInt ≤ last.toInt)
      · cases items with
        | units => exact .inl there
        | items nonFungible issued =>
            rcases issued_new _ _ _ _ _ _ _ issued nft there with before | ⟨about, beyond, _⟩
            · exact .inl before
            · exact .inr ⟨about.trans usable.own, nonFungible, beyond⟩

theorem taken_present (token : Token) (holder : AccountId) (amount removed : Int64) (serials : List Int64)
    (before after : View) (items : Taken token holder amount serials removed before after) (nft : NftId)
    (present : after.nft nft ≠ none) : before.nft nft ≠ none := by
  cases items with
  | units => exact present
  | items nonFungible removed => exact removed_present _ _ _ _ _ removed nft present

theorem create_precedes (order : Creation) (before after : View) (numbered : before.merged.Numbered before.limit)
    (does : (Deed.create order).Does sender now before after) :
    before.merged.Precedes before.limit after.merged after.limit := by
  cases does with
  | create treasury number reserved lives fresh next =>
      generalize named : (⟨order.treasury.shard, order.treasury.realm, number⟩ : TokenId) = id
      have free : before.limit ≤ id.num.toNat := by
        rw [← named]
        exact Nat.le_of_eq fresh.symm
      have own : (Work.created order id now).id = id := rfl
      have unknown := View.unknown_token _ _ numbered id free
      refine ⟨?_, fun other old found => ?_, fun other there => ?_, fun nft there => .inl there⟩
      · rw [View.limit_put_relationship, View.limit_put_token, View.limit_reserving, next, View.limit]
        omega
      · rw [View.merged_token] at found
        have apart : other ≠ id := by
          rintro rfl
          rw [unknown] at found
          cases found
        rw [View.merged_token, View.token_put_relationship, View.token_put_token, View.token_reserving, own,
          if_neg apart]
        exact ⟨old, found, rfl, rfl, Int.le_refl _⟩
      · rw [View.merged_token, View.token_put_relationship, View.token_put_token, View.token_reserving, own] at there
        rw [View.merged_token]
        by_cases same : other = id
        · rw [same]
          exact .inr free
        · rw [if_neg same] at there
          exact .inl there

theorem deed_precedes (deed : Deed) (before after : View) (numbered : before.merged.Numbered before.limit)
    (does : deed.Does sender now before after) : before.merged.Precedes before.limit after.merged after.limit := by
  cases does with
  | mint token held minted last supply balance usable found items supplied capped gained =>
      exact mint_precedes sender now _ _ _
        (.mint token held minted last supply balance usable found items supplied capped gained)
  | burn token held removed supply balance usable found items =>
      have alike := taken_alike _ _ _ _ _ _ _ items
      exact precedes_put_token before _ _ token _ usable.toExists alike.limit alike.token rfl rfl rfl (Int.le_refl _)
        fun nft there => .inl (taken_present _ _ _ _ _ _ _ items nft there)
  | wipe token account held removed supply balance usable lives apart found items =>
      have alike := taken_alike _ _ _ _ _ _ _ items
      exact precedes_put_token before _ _ token _ usable.toExists alike.limit alike.token rfl rfl rfl (Int.le_refl _)
        fun nft there => .inl (taken_present _ _ _ _ _ _ _ items nft there)
  | setPaused token existing =>
      exact precedes_put_token before before _ token _ existing rfl (fun _ => rfl) rfl rfl rfl (Int.le_refl _)
        fun _ there => .inl there
  | create treasury number reserved lives fresh next =>
      exact create_precedes sender now _ _ _ numbered (.create treasury number reserved lives fresh next)
  | @update order _ middle token usable handover =>
      have nfts (nft : NftId) : middle.nft nft = before.nft nft := by
        cases handover with
        | stay | units | items => rfl
      exact precedes_put_token before middle _ token (Work.revised order token) usable.toExists
        (handover_limit _ _ _ _ handover) (handover_tokens _ _ _ _ handover) rfl rfl rfl (Int.le_refl _)
        fun nft there => .inl (by rwa [nfts] at there)
  | @moveNft id move _ token nft receiver source target left gained usable nonFungible found own =>
      refine precedes_quiet _ _ rfl (fun _ => rfl) fun other there => ?_
      exact View.put_again_present
        ((before.putRelationship move.sender id { source with balance := left }).putRelationship move.receiver id
          { target with balance := gained }) _ nft (by rw [own]; exact found) other there
  | lendNft nft found own =>
      exact precedes_quiet _ _ rfl (fun _ => rfl)
        fun other there => View.put_again_present before _ nft (by rw [own]; exact found) other there
  | clearSpender token nft usable entitled found own =>
      exact precedes_quiet _ _ rfl (fun _ => rfl)
        fun other there => View.put_again_present before _ nft (by rw [own]; exact found) other there
  | associate | dissociate | adjustHbar | adjustUnits | drawUnits | grantHbar | grantUnits | setOperator =>
      exact precedes_quiet _ _ rfl (fun _ => rfl) fun _ there => there

end Deeds

end TokenService
