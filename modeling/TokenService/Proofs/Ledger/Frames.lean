import TokenService.Proofs.Ledger.Deeds

set_option autoImplicit false

namespace TokenService

section Rooted

theorem issued_rooted (token : Token) (now : Timestamp) (last final : Int64) (metadata : List Bytes)
    (before after : View) (issued : Issued token now last metadata before final after)
    (rooted : before.merged.Rooted) : after.merged.Rooted := by
  induction issued with
  | nil last view => exact rooted
  | cons next others ih => exact ih (View.rooted_put_nft _ rooted _)

theorem removed_rooted (token : TokenId) (holder : AccountId) (serials : List Int64) (before after : View)
    (removed : Removed token holder serials before after) (rooted : before.merged.Rooted) : after.merged.Rooted := by
  induction removed with
  | nil view => exact rooted
  | cons nft found owned others ih => exact ih (View.rooted_remove_nft _ rooted _)

theorem minted_rooted (token : Token) (order : Mint) (now : Timestamp) (minted last : Int64) (before after : View)
    (items : Minted token order now minted last before after) (rooted : before.merged.Rooted) :
    after.merged.Rooted := by
  cases items with
  | units view fungible bare positive => exact rooted
  | items nonFungible issued => exact issued_rooted _ _ _ _ _ _ _ issued rooted

theorem taken_rooted (token : Token) (holder : AccountId) (amount removed : Int64) (serials : List Int64)
    (before after : View) (items : Taken token holder amount serials removed before after)
    (rooted : before.merged.Rooted) : after.merged.Rooted := by
  cases items with
  | units view fungible bare positive => exact rooted
  | items nonFungible gone => exact removed_rooted _ _ _ _ _ gone rooted

theorem resupplied_rooted (view : View) (token : Token) (holder : AccountId) (held : Relationship)
    (supply last balance : Int64) (rooted : view.merged.Rooted) :
    (view.resupplied token holder held supply last balance).merged.Rooted :=
  View.rooted_put_token _ (View.rooted_put_relationship _ rooted _ _ _) _

theorem handover_rooted (token : Token) (successor : AccountId) (before after : View)
    (handover : Handover token successor before after) (rooted : before.merged.Rooted) : after.merged.Rooted := by
  cases handover with
  | stay same => exact rooted
  | units account incoming outgoing balance apart fungible lives trades found sum =>
      exact View.rooted_put_relationship _ (View.rooted_put_relationship _ rooted _ _ _) _ _ _
  | items account incoming apart nonFungible lives trades => exact rooted

theorem deed_rooted (sender : AccountId) (now : Timestamp) (deed : Deed) (before after : View)
    (does : deed.Does sender now before after) (rooted : before.merged.Rooted) : after.merged.Rooted := by
  cases does with
  | associate => exact View.rooted_put_relationship _ rooted _ _ _
  | dissociate => exact View.rooted_remove_relationship _ rooted _ _
  | mint token held minted last supply balance usable found items =>
      exact resupplied_rooted _ _ _ _ _ _ _ (minted_rooted _ _ _ _ _ _ _ items rooted)
  | burn token held removed supply balance usable found items =>
      exact resupplied_rooted _ _ _ _ _ _ _ (taken_rooted _ _ _ _ _ _ _ items rooted)
  | wipe token account held removed supply balance usable lives apart found items =>
      exact resupplied_rooted _ _ _ _ _ _ _ (taken_rooted _ _ _ _ _ _ _ items rooted)
  | setPaused => exact View.rooted_put_token _ rooted _
  | create =>
      exact View.rooted_put_relationship _ (View.rooted_put_token _ (View.rooted_reserving _ rooted _) _) _ _ _
  | update token usable handover => exact View.rooted_put_token _ (handover_rooted _ _ _ _ handover rooted) _
  | adjustHbar => exact View.rooted_put_account _ rooted _
  | adjustUnits => exact View.rooted_put_relationship _ rooted _ _ _
  | drawUnits => exact View.rooted_put_relationship _ (View.rooted_put_account _ rooted _) _ _ _
  | moveNft =>
      exact View.rooted_put_nft _
        (View.rooted_put_relationship _ (View.rooted_put_relationship _ rooted _ _ _) _ _ _) _
  | grantHbar => exact View.rooted_put_account _ rooted _
  | grantUnits => exact View.rooted_put_account _ rooted _
  | lendNft => exact View.rooted_put_nft _ rooted _
  | setOperator => exact View.rooted_put_account _ rooted _
  | clearSpender => exact View.rooted_put_nft _ rooted _

end Rooted

def Deed.definesToken : Deed → Bool
  | .mint _ | .burn _ | .wipe _ | .setPaused _ _ | .create _ | .update _ => true
  | _ => false

section Tokens

variable (sender : AccountId) (now : Timestamp) (deed : Deed) (before after : View)
  (quiet : deed.definesToken = false) (does : deed.Does sender now before after)
include quiet does

theorem deed_token (id : TokenId) : after.token id = before.token id := by
  cases does with
  | associate | dissociate | adjustHbar | adjustUnits | drawUnits | moveNft | grantHbar | grantUnits | lendNft
  | setOperator | clearSpender => rfl
  | mint | burn | wipe | setPaused | create | update => cases quiet

theorem deed_usable (id : TokenId) (token : Token) (usable : before.Usable id token) : after.Usable id token :=
  ⟨⟨(deed_token sender now deed before after quiet does id).trans usable.found, usable.own, usable.live⟩,
    usable.running⟩

end Tokens

structure View.AlikeButNfts (before after : View) : Prop where
  accounts : after.merged.accounts = before.merged.accounts
  tokens : after.merged.tokens = before.merged.tokens
  relationships : after.merged.relationships = before.merged.relationships
  limit : after.limit = before.limit
  ledger : after.ledger = before.ledger

namespace View.AlikeButNfts

theorem refl (view : View) : view.AlikeButNfts view := ⟨rfl, rfl, rfl, rfl, rfl⟩

theorem trans (first second third : View) (left : first.AlikeButNfts second) (right : second.AlikeButNfts third) :
    first.AlikeButNfts third :=
  ⟨right.accounts.trans left.accounts, right.tokens.trans left.tokens, right.relationships.trans left.relationships,
    right.limit.trans left.limit, right.ledger.trans left.ledger⟩

variable (before after : View) (alike : before.AlikeButNfts after)
include alike

theorem account (id : AccountId) : after.account id = before.account id := by
  rw [← View.merged_account, alike.accounts, View.merged_account]

theorem token (id : TokenId) : after.token id = before.token id := by
  rw [← View.merged_token, alike.tokens, View.merged_token]

theorem relationship (account : AccountId) (token : TokenId) :
    after.relationship account token = before.relationship account token := by
  rw [← View.merged_relationship, alike.relationships, View.merged_relationship]

end View.AlikeButNfts

theorem handover_tokens (token : Token) (successor : AccountId) (before after : View)
    (handover : Handover token successor before after) (id : TokenId) : after.token id = before.token id := by
  cases handover with
  | stay | units | items => rfl

section Items

theorem put_nft_alike (view : View) (row : Nft) : view.AlikeButNfts (view.putNft row) := by
  refine ⟨?_, ?_, ?_, rfl, rfl⟩ <;> rw [View.merged_put_nft]

theorem remove_nft_alike (view : View) (id : NftId) : view.AlikeButNfts (view.removeNft id) := by
  refine ⟨?_, ?_, ?_, rfl, rfl⟩ <;> rw [View.merged_remove_nft]

theorem issued_alike (token : Token) (now : Timestamp) (last final : Int64) (metadata : List Bytes)
    (before after : View) (issued : Issued token now last metadata before final after) :
    before.AlikeButNfts after := by
  induction issued with
  | nil last view => exact .refl view
  | cons next others ih => exact .trans _ _ _ (put_nft_alike _ _) ih

theorem removed_alike (token : TokenId) (holder : AccountId) (serials : List Int64) (before after : View)
    (removed : Removed token holder serials before after) : before.AlikeButNfts after := by
  induction removed with
  | nil view => exact .refl view
  | cons nft found owned others ih => exact .trans _ _ _ (remove_nft_alike _ _) ih

theorem minted_alike (token : Token) (order : Mint) (now : Timestamp) (minted last : Int64) (before after : View)
    (items : Minted token order now minted last before after) : before.AlikeButNfts after := by
  cases items with
  | units _ fungible bare positive => exact .refl _
  | items nonFungible issued => exact issued_alike _ _ _ _ _ _ _ issued

theorem taken_alike (token : Token) (holder : AccountId) (amount removed : Int64) (serials : List Int64)
    (before after : View) (items : Taken token holder amount serials removed before after) :
    before.AlikeButNfts after := by
  cases items with
  | units _ fungible bare positive => exact .refl _
  | items nonFungible gone => exact removed_alike _ _ _ _ _ gone

theorem issued_present (token : Token) (now : Timestamp) (last final : Int64) (metadata : List Bytes)
    (before after : View) (issued : Issued token now last metadata before final after) (id : NftId)
    (present : before.nft id ≠ none) : after.nft id ≠ none := by
  induction issued with
  | nil last view => exact present
  | cons next others ih =>
      apply ih
      rw [View.nft_put_nft]
      split
      · exact Option.some_ne_none _
      · exact present

theorem removed_gone (token : TokenId) (holder : AccountId) (serials : List Int64) (before after : View)
    (removed : Removed token holder serials before after) (id : NftId) (row : Nft) (present : before.nft id = some row)
    (gone : after.nft id = none) : id.token = token ∧ id.serial ∈ serials ∧ row.owner = holder := by
  induction removed with
  | nil view =>
      rw [present] at gone
      cases gone
  | @cons serial rest first last nft found owned others ih =>
      by_cases same : id = ⟨token, serial⟩
      · subst same
        rw [found] at present
        cases present
        exact ⟨rfl, List.mem_cons_self, owned⟩
      · rw [View.nft_remove_nft, if_neg same] at ih
        obtain ⟨about, later, owner⟩ := ih present gone
        exact ⟨about, List.mem_cons_of_mem _ later, owner⟩

theorem count_nonneg (length : Nat) : 0 ≤ (Work.count length).toInt := by
  unfold Work.count clamp
  have low : Int64.minValue.toInt = -9223372036854775808 := by decide
  have high : Int64.maxValue.toInt = 9223372036854775807 := by decide
  split
  · omega
  · split
    · omega
    · rw [Int64.toInt_ofInt_of_le (by omega) (by omega)]
      omega

theorem minted_nonneg (token : Token) (order : Mint) (now : Timestamp) (minted last : Int64) (before after : View)
    (items : Minted token order now minted last before after) : 0 ≤ minted.toInt := by
  cases items with
  | units view fungible bare positive => omega
  | items nonFungible issued => exact count_nonneg _

end Items

namespace View

section Resupplied

variable (view : View) (row : Token) (holder : AccountId) (held : Relationship) (supply last balance : Int64)

@[simp] theorem account_resupplied (id : AccountId) :
    (view.resupplied row holder held supply last balance).account id = view.account id := rfl

@[simp] theorem token_resupplied (id : TokenId) :
    (view.resupplied row holder held supply last balance).token id =
      if id = row.id then some { row with totalSupply := supply, lastUsedSerial := last } else view.token id :=
  token_put_token _ _ _

@[simp] theorem relationship_resupplied (account : AccountId) (token : TokenId) :
    (view.resupplied row holder held supply last balance).relationship account token =
      if account = holder ∧ token = row.id then some { held with balance := balance }
      else view.relationship account token :=
  relationship_put_relationship _ _ _ _ _ _

@[simp] theorem nft_resupplied (id : NftId) :
    (view.resupplied row holder held supply last balance).nft id = view.nft id := rfl

@[simp] theorem limit_resupplied : (view.resupplied row holder held supply last balance).limit = view.limit := rfl

@[simp] theorem ledger_resupplied : (view.resupplied row holder held supply last balance).ledger = view.ledger := rfl

@[simp] theorem merged_resupplied :
    (view.resupplied row holder held supply last balance).merged =
      { view.merged with
        relationships := view.merged.relationships.insert ⟨holder, row.id⟩ { held with balance := balance }
        tokens := view.merged.tokens.insert row.id { row with totalSupply := supply, lastUsedSerial := last } } := by
  rw [resupplied, merged_put_token, merged_put_relationship]

end Resupplied

end View

section Numbered

theorem issued_numbered (limit : Nat) (token : Token) (now : Timestamp) (last final : Int64) (metadata : List Bytes)
    (before after : View) (issued : Issued token now last metadata before final after)
    (below : token.id.num.toNat < limit) (numbered : before.merged.Numbered limit) : after.merged.Numbered limit := by
  induction issued with
  | nil last view => exact numbered
  | cons next others ih => exact ih (View.numbered_put_nft _ limit numbered _ below)

theorem removed_numbered (limit : Nat) (token : TokenId) (holder : AccountId) (serials : List Int64)
    (before after : View) (removed : Removed token holder serials before after)
    (numbered : before.merged.Numbered limit) : after.merged.Numbered limit := by
  induction removed with
  | nil view => exact numbered
  | cons nft found owned others ih => exact ih (View.numbered_remove_nft _ limit numbered _)

theorem resupplied_numbered (limit : Nat) (view : View) (token : Token) (holder : AccountId) (held : Relationship)
    (supply last balance : Int64) (below : token.id.num.toNat < limit) (numbered : view.merged.Numbered limit) :
    (view.resupplied token holder held supply last balance).merged.Numbered limit :=
  View.numbered_put_token _ limit (View.numbered_put_relationship _ limit numbered _ _ _ below) _ below

theorem minted_numbered (limit : Nat) (token : Token) (order : Mint) (now : Timestamp) (minted last : Int64)
    (before after : View) (items : Minted token order now minted last before after)
    (below : token.id.num.toNat < limit) (numbered : before.merged.Numbered limit) : after.merged.Numbered limit := by
  cases items with
  | units view fungible bare positive => exact numbered
  | items nonFungible issued => exact issued_numbered limit _ _ _ _ _ _ _ issued below numbered

theorem taken_numbered (limit : Nat) (token : Token) (holder : AccountId) (amount removed : Int64)
    (serials : List Int64) (before after : View) (items : Taken token holder amount serials removed before after)
    (numbered : before.merged.Numbered limit) : after.merged.Numbered limit := by
  cases items with
  | units view fungible bare positive => exact numbered
  | items nonFungible gone => exact removed_numbered limit _ _ _ _ _ gone numbered

theorem handover_numbered (limit : Nat) (token : Token) (successor : AccountId) (before after : View)
    (handover : Handover token successor before after) (below : token.id.num.toNat < limit)
    (numbered : before.merged.Numbered limit) : after.merged.Numbered limit := by
  cases handover with
  | stay same => exact numbered
  | units account incoming outgoing balance apart fungible lives trades found sum =>
      exact View.numbered_put_relationship _ limit (View.numbered_put_relationship _ limit numbered _ _ _ below) _ _ _
        below
  | items account incoming apart nonFungible lives trades => exact numbered

theorem handover_limit (token : Token) (successor : AccountId) (before after : View)
    (handover : Handover token successor before after) : after.limit = before.limit := by
  cases handover with
  | stay => rfl
  | units => rfl
  | items => rfl

theorem deed_numbered (sender : AccountId) (now : Timestamp) (deed : Deed) (before after : View)
    (does : deed.Does sender now before after) (numbered : before.merged.Numbered before.limit) :
    after.merged.Numbered after.limit := by
  have below (id : TokenId) (row : Token) (existing : before.Exists id row) : row.id.num.toNat < before.limit := by
    rw [existing.own]
    exact View.numbered_token _ _ numbered id row existing.found
  cases does with
  | @associate account id _ holder token lives existing =>
      exact View.numbered_put_relationship _ _ numbered _ _ _ (View.numbered_token _ _ numbered id token existing.found)
  | dissociate => exact View.numbered_remove_relationship _ _ numbered _ _
  | mint token held minted last supply balance usable found items =>
      rw [View.limit_resupplied, (minted_alike _ _ _ _ _ _ _ items).limit]
      exact resupplied_numbered _ _ _ _ _ _ _ _ (below _ _ usable.toExists)
        (minted_numbered _ _ _ _ _ _ _ _ items (below _ _ usable.toExists) numbered)
  | burn token held removed supply balance usable found items =>
      rw [View.limit_resupplied, (taken_alike _ _ _ _ _ _ _ items).limit]
      exact resupplied_numbered _ _ _ _ _ _ _ _ (below _ _ usable.toExists)
        (taken_numbered _ _ _ _ _ _ _ _ items numbered)
  | wipe token account held removed supply balance usable lives apart found items =>
      rw [View.limit_resupplied, (taken_alike _ _ _ _ _ _ _ items).limit]
      exact resupplied_numbered _ _ _ _ _ _ _ _ (below _ _ usable.toExists)
        (taken_numbered _ _ _ _ _ _ _ _ items numbered)
  | setPaused token existing => exact View.numbered_put_token _ _ numbered _ (below _ token existing)
  -- The limit rises before the token is written, and the new number lies below the new limit.
  | create treasury number reserved lives fresh next =>
      have limit : before.limit + 1 = (before.reserving reserved).limit := by
        rw [View.limit_reserving, next, View.limit, Nat.add_assoc]
      have risen : (before.reserving reserved).merged.Numbered (before.limit + 1) :=
        View.numbered_rise _ _ (View.numbered_reserving _ _ numbered _) _ (Nat.le_succ _)
      have given : number.toNat < before.limit + 1 := by omega
      rw [View.limit_put_relationship, View.limit_put_token, ← limit]
      exact View.numbered_put_relationship _ _ (View.numbered_put_token _ _ risen _ given) _ _ _ given
  | update token usable handover =>
      rw [View.limit_put_token, handover_limit _ _ _ _ handover]
      exact View.numbered_put_token _ _
        (handover_numbered _ _ _ _ _ handover (below _ _ usable.toExists) numbered) _ (below _ token usable.toExists)
  | adjustHbar => exact View.numbered_put_account _ _ numbered _
  | adjustUnits token owner held balance usable fungible lives trades =>
      exact View.numbered_put_relationship _ _ numbered _ _ _
        (View.numbered_relationship _ _ numbered _ _ _ trades.found)
  | drawUnits token owner held allowances balance usable fungible lives trades =>
      exact View.numbered_put_relationship _ _ (View.numbered_put_account _ _ numbered _) _ _ _
        (View.numbered_relationship _ _ numbered _ _ _ trades.found)
  | @moveNft id move _ token nft receiver source target left gained usable nonFungible found own =>
      have fresh := View.numbered_nft _ _ numbered _ _ found
      refine View.numbered_put_nft _ _
        (View.numbered_put_relationship _ _ (View.numbered_put_relationship _ _ numbered _ _ _ fresh) _ _ _ fresh) _ ?_
      rw [own]
      exact fresh
  | grantHbar => exact View.numbered_put_account _ _ numbered _
  | grantUnits => exact View.numbered_put_account _ _ numbered _
  | lendNft nft found own =>
      apply View.numbered_put_nft _ _ numbered
      rw [own]
      exact View.numbered_nft _ _ numbered _ _ found
  | setOperator => exact View.numbered_put_account _ _ numbered _
  | clearSpender token nft usable entitled found own =>
      apply View.numbered_put_nft _ _ numbered
      rw [own]
      exact View.numbered_nft _ _ numbered _ _ found

end Numbered

section Peopled

theorem resupplied_peopled (limit : Nat) (before middle : View) (token : Token) (holder : AccountId)
    (held : Relationship) (supply last balance : Int64) (alike : before.AlikeButNfts middle)
    (found : before.relationship holder token.id = some held) (peopled : before.merged.Peopled limit) :
    (middle.resupplied token holder held supply last balance).merged.Peopled limit := by
  have between := View.peopled_alike before limit peopled middle alike.accounts alike.relationships
  have paid := View.peopled_put_relationship middle limit between holder token.id { held with balance := balance }
    (View.peopled_relationship before limit peopled _ _ held found)
  exact View.peopled_alike _ limit paid _ (by rw [View.resupplied, View.merged_put_token])
    (by rw [View.resupplied, View.merged_put_token])

theorem handover_peopled (limit : Nat) (token : Token) (successor : AccountId) (before after : View)
    (handover : Handover token successor before after) (peopled : before.merged.Peopled limit) :
    after.merged.Peopled limit := by
  cases handover with
  | stay | items => exact peopled
  | units account incoming outgoing balance apart fungible lives trades found sum =>
      exact View.peopled_put_relationship _ limit
        (View.peopled_put_relationship _ limit peopled _ _ _
          (View.peopled_relationship _ limit peopled _ _ outgoing found)) _ _ _
        (View.peopled_relationship _ limit peopled _ _ incoming trades.found)

theorem deed_peopled (sender : AccountId) (now : Timestamp) (deed : Deed) (before after : View)
    (does : deed.Does sender now before after) (peopled : before.merged.Peopled before.limit) :
    after.merged.Peopled after.limit := by
  cases does with
  | associate holder token lives =>
      exact View.peopled_put_relationship _ _ peopled _ _ _ (View.peopled_account _ _ peopled _ holder lives.found)
  | dissociate => exact View.peopled_remove_relationship _ _ peopled _ _
  | mint token held minted last supply balance usable found items =>
      rw [View.limit_resupplied, (minted_alike _ _ _ _ _ _ _ items).limit]
      exact resupplied_peopled _ _ _ _ _ _ _ _ _ (minted_alike _ _ _ _ _ _ _ items) found peopled
  | burn token held removed supply balance usable found items =>
      rw [View.limit_resupplied, (taken_alike _ _ _ _ _ _ _ items).limit]
      exact resupplied_peopled _ _ _ _ _ _ _ _ _ (taken_alike _ _ _ _ _ _ _ items) found peopled
  | wipe token account held removed supply balance usable lives apart found items =>
      rw [View.limit_resupplied, (taken_alike _ _ _ _ _ _ _ items).limit]
      exact resupplied_peopled _ _ _ _ _ _ _ _ _ (taken_alike _ _ _ _ _ _ _ items) found peopled
  | setPaused => exact View.peopled_alike _ _ peopled _ (by rw [View.merged_put_token]) (by rw [View.merged_put_token])
  -- The treasury is an account that is there, and no account gets the new number.
  | @create order _ treasury number reserved lives fresh next =>
      generalize (⟨order.treasury.shard, order.treasury.realm, number⟩ : TokenId) = id
      have rises : before.limit ≤ (before.reserving reserved).limit := by
        rw [View.limit_reserving, next, View.limit]
        omega
      have risen := View.peopled_rise _ _ peopled _ rises
      have made := View.peopled_alike before _ risen ((before.reserving reserved).putToken (Work.created order id now))
        (by rw [View.merged_put_token]; rfl) (by rw [View.merged_put_token]; rfl)
      exact View.peopled_put_relationship _ _ made _ _ _ (View.peopled_account _ _ risen _ treasury lives.found)
  | update token usable handover =>
      rw [View.limit_put_token, handover_limit _ _ _ _ handover]
      exact View.peopled_alike _ _ (handover_peopled _ _ _ _ _ handover peopled) _
        (by rw [View.merged_put_token]) (by rw [View.merged_put_token])
  | adjustHbar account allowances balance lives => exact View.peopled_put_account _ _ peopled _ account _ lives rfl
  | adjustUnits token owner held balance usable fungible lives =>
      exact View.peopled_put_relationship _ _ peopled _ _ _ (View.peopled_account _ _ peopled _ owner lives.found)
  | drawUnits token owner held allowances balance usable fungible lives =>
      have lent := View.peopled_put_account _ _ peopled _ owner { owner with tokenAllowances := allowances } lives rfl
      exact View.peopled_put_relationship _ _ lent _ _ _ (View.peopled_account _ _ peopled _ owner lives.found)
  | @moveNft id move _ token nft receiver source target left gained usable nonFungible found own owned approved lives
      sends receives =>
      have sent := View.peopled_put_relationship _ _ peopled move.sender id { source with balance := left }
        (View.peopled_relationship _ _ peopled _ _ source sends.found)
      have received := View.peopled_put_relationship _ _ sent move.receiver id { target with balance := gained }
        (View.peopled_relationship _ _ peopled _ _ target receives.found)
      exact View.peopled_alike _ _ received _ (by rw [View.merged_put_nft]) (by rw [View.merged_put_nft])
  | grantHbar owner spender lives => exact View.peopled_put_account _ _ peopled _ owner _ lives rfl
  | grantUnits owner token held lives => exact View.peopled_put_account _ _ peopled _ owner _ lives rfl
  | setOperator owner token held lives => exact View.peopled_put_account _ _ peopled _ owner _ lives rfl
  | lendNft => exact View.peopled_alike _ _ peopled _ (by rw [View.merged_put_nft]) (by rw [View.merged_put_nft])
  | clearSpender => exact View.peopled_alike _ _ peopled _ (by rw [View.merged_put_nft]) (by rw [View.merged_put_nft])

end Peopled

theorem deed_ledger (sender : AccountId) (now : Timestamp) (deed : Deed) (before after : View)
    (does : deed.Does sender now before after) : after.ledger = before.ledger := by
  cases does with
  | mint token held minted last supply balance usable found items => exact (minted_alike _ _ _ _ _ _ _ items).ledger
  | burn token held removed supply balance usable found items => exact (taken_alike _ _ _ _ _ _ _ items).ledger
  | wipe token account held removed supply balance usable lives apart found items =>
      exact (taken_alike _ _ _ _ _ _ _ items).ledger
  | update token usable handover =>
      cases handover with
      | stay => rfl
      | units => rfl
      | items => rfl
  | associate | dissociate | setPaused | create | adjustHbar | adjustUnits | drawUnits | moveNft | grantHbar
  | grantUnits | lendNft | setOperator | clearSpender => rfl

end TokenService
