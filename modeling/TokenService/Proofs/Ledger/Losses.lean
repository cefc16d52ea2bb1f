import TokenService.Proofs.Ledger.Sums

set_option autoImplicit false

namespace TokenService

namespace Deed

def quiet : Deed → Bool
  | .associate _ _ | .setPaused _ _ | .grantHbar _ | .grantUnits _ | .lendNft _ _ _ _ | .setOperator _
  | .clearSpender _ _ _ => true
  | _ => false

def retires : Deed → Bool
  | .burn _ | .wipe _ => true
  | _ => false

theorem quiet_transfers (deed : Deed) (quiet : deed.quiet = true) : deed.transfers = false := by
  cases deed <;> first | rfl | cases quiet

theorem quiet_retires (deed : Deed) (quiet : deed.quiet = true) : deed.retires = false := by
  cases deed <;> first | rfl | cases quiet

end Deed

section Bodies

def Body.quiet : Body → Bool
  | .associate _ | .pause _ | .unpause _ | .approve _ _ _ | .revoke _ | .queryToken _ | .queryNft _ => true
  | _ => false

theorem quiet_body (body : Body) (quiet : body.quiet = true) (deed : Deed) (member : deed ∈ body.deeds) :
    deed.quiet = true := by
  cases body with
  | associate association =>
      obtain ⟨_, _, rfl⟩ := List.mem_map.mp member
      rfl
  | pause | unpause =>
      rw [List.mem_singleton.mp member]
      rfl
  | approve hbar units nfts =>
      rcases List.mem_append.mp member with money | rest
      · obtain ⟨_, _, rfl⟩ := List.mem_map.mp money
        rfl
      · rcases List.mem_append.mp rest with amounts | serials
        · obtain ⟨_, _, rfl⟩ := List.mem_map.mp amounts
          rfl
        · obtain ⟨grant, _, inside⟩ := List.mem_flatMap.mp serials
          rcases List.mem_append.mp inside with lent | last
          · obtain ⟨_, _, rfl⟩ := List.mem_map.mp lent
            rfl
          · rw [List.mem_singleton.mp last]
            rfl
  | revoke revocations =>
      obtain ⟨revocation, _, inside⟩ := List.mem_flatMap.mp member
      obtain ⟨_, _, rfl⟩ := List.mem_map.mp inside
      rfl
  | queryToken | queryNft => cases member
  | dissociate | mint | burn | wipe | create | update | transfer => cases quiet

theorem body_transfers (body : Body) (other : ∀ hbar tokens, body ≠ .transfer hbar tokens) (deed : Deed)
    (member : deed ∈ body.deeds) : deed.transfers = false := by
  cases quiet : body.quiet with
  | true => exact deed.quiet_transfers (quiet_body body quiet deed member)
  | false =>
      cases body with
      | transfer hbar tokens => exact absurd rfl (other hbar tokens)
      | dissociate association =>
          obtain ⟨_, _, rfl⟩ := List.mem_map.mp member
          rfl
      | mint | burn | wipe | create | update =>
          rw [List.mem_singleton.mp member]
          rfl
      | associate | pause | unpause | approve | revoke | queryToken | queryNft => cases quiet

theorem body_retires (body : Body) (unburnt : ∀ order, body ≠ .burn order) (unwiped : ∀ order, body ≠ .wipe order)
    (deed : Deed) (member : deed ∈ body.deeds) : deed.retires = false := by
  cases quiet : body.quiet with
  | true => exact deed.quiet_retires (quiet_body body quiet deed member)
  | false =>
      cases body with
      | transfer hbar tokens =>
          rcases transfer_deed _ _ _ member with ⟨_, _, rfl⟩ | ⟨_, _, _, _, rfl⟩ | ⟨_, _, _, _, rfl⟩ <;> rfl
      | dissociate association =>
          obtain ⟨_, _, rfl⟩ := List.mem_map.mp member
          rfl
      | burn order => exact absurd rfl (unburnt order)
      | wipe order => exact absurd rfl (unwiped order)
      | mint | create | update =>
          rw [List.mem_singleton.mp member]
          rfl
      | associate | pause | unpause | approve | revoke | queryToken | queryNft => cases quiet

end Bodies

section Deeds

variable {sender : AccountId} {now : Timestamp}

theorem deed_hbar (deed : Deed) (account : AccountId) (apart : deed.transfers = false) (before after : View)
    (does : deed.Does sender now before after) : after.merged.hbar account = before.merged.hbar account := by
  have alike (kept : after.account account = before.account account) :
      after.merged.hbar account = before.merged.hbar account := by
    unfold Ledger.hbar
    rw [View.merged_account, View.merged_account, kept]
  unfold Ledger.hbar at alike ⊢
  rw [View.merged_account, View.merged_account]
  cases does with
  | adjustHbar => cases apart
  | mint token held minted last supply balance usable found items =>
      rw [View.account_resupplied, (minted_alike _ _ _ _ _ _ _ items).account]
  | burn token held removed supply balance usable found items =>
      rw [View.account_resupplied, (taken_alike _ _ _ _ _ _ _ items).account]
  | wipe token row held removed supply balance usable lives apart found items =>
      rw [View.account_resupplied, (taken_alike _ _ _ _ _ _ _ items).account]
  | update token usable handover =>
      cases handover with
      | stay => rfl
      | units => rfl
      | items => rfl
  | drawUnits token owner held allowances balance usable fungible lives =>
      refine View.put_account_alike _ _ _ _ owner _ lives ?_ ?_ _ <;> rfl
  | grantHbar owner spender lives => refine View.put_account_alike _ _ _ _ owner _ lives ?_ ?_ _ <;> rfl
  | grantUnits owner token held lives => refine View.put_account_alike _ _ _ _ owner _ lives ?_ ?_ _ <;> rfl
  | setOperator owner token held lives => refine View.put_account_alike _ _ _ _ owner _ lives ?_ ?_ _ <;> rfl
  | associate | dissociate | setPaused | create | adjustUnits | moveNft | lendNft | clearSpender => rfl

theorem quiet_units (deed : Deed) (account : AccountId) (id : TokenId) (quiet : deed.quiet = true)
    (before after : View) (does : deed.Does sender now before after) :
    after.merged.units account id = before.merged.units account id := by
  cases does with
  | @associate other token view holder row lives existing absent =>
      rw [View.units_put_relationship]
      by_cases same : account = other ∧ id = token
      · rw [if_pos same, same.1, same.2, View.units_absent _ _ _ absent]
        rfl
      · rw [if_neg same]
  | setPaused | grantHbar | grantUnits | lendNft | setOperator | clearSpender => rfl
  | dissociate | mint | burn | wipe | create | update | adjustHbar | adjustUnits | drawUnits | moveNft => cases quiet

theorem quiet_body_units (body : Body) (quiet : body.quiet = true) (account : AccountId) (id : TokenId)
    (before after : View) (done : Deeds sender now body.deeds before after) :
    after.merged.units account id = before.merged.units account id :=
  Deeds.keeps (fun view => view.merged.units account id = before.merged.units account id) _ _ _
    (fun deed member first next does kept =>
      (quiet_units deed account id (quiet_body body quiet deed member) first next does).trans kept)
    done rfl

theorem body_hbar (body : Body) (other : ∀ hbar tokens, body ≠ .transfer hbar tokens) (account : AccountId)
    (before after : View) (done : Deeds sender now body.deeds before after) :
    after.merged.hbar account = before.merged.hbar account :=
  Deeds.keeps (fun view => view.merged.hbar account = before.merged.hbar account) _ _ _
    (fun deed member first next does kept =>
      (deed_hbar deed account (body_transfers body other deed member) first next does).trans kept)
    done rfl

theorem deed_nft_present (deed : Deed) (id : NftId) (keeps : deed.retires = false) (before after : View)
    (does : deed.Does sender now before after) (present : before.nft id ≠ none) : after.nft id ≠ none := by
  have put (view : View) (row : Nft) (there : view.nft id ≠ none) : (view.putNft row).nft id ≠ none := by
    rw [View.nft_put_nft]
    split
    · exact Option.some_ne_none _
    · exact there
  cases does with
  | mint token held minted last supply balance usable found items =>
      rw [View.nft_resupplied]
      cases items with
      | units => exact present
      | items nonFungible issued => exact issued_present _ _ _ _ _ _ _ issued id present
  | burn | wipe => cases keeps
  | update token usable handover =>
      cases handover with
      | stay => exact present
      | units => exact present
      | items => exact present
  | moveNft => exact put _ _ present
  | lendNft => exact put _ _ present
  | clearSpender => exact put _ _ present
  | associate | dissociate | setPaused | create | adjustHbar | adjustUnits | drawUnits | grantHbar | grantUnits
  | setOperator => exact present

theorem body_nft_present (body : Body) (unburnt : ∀ order, body ≠ .burn order)
    (unwiped : ∀ order, body ≠ .wipe order) (id : NftId) (before after : View)
    (done : Deeds sender now body.deeds before after) (present : before.nft id ≠ none) : after.nft id ≠ none :=
  Deeds.keeps (fun view => view.nft id ≠ none) _ _ _
    (fun deed member first next does there =>
      deed_nft_present deed id (body_retires body unburnt unwiped deed member) first next does there)
    done present

theorem resupplied_fell (before middle : View) (alike : before.AlikeButNfts middle) (token : Token)
    (holder : AccountId) (held : Relationship) (supply last balance : Int64) (account : AccountId) (id : TokenId)
    (fell : (middle.resupplied token holder held supply last balance).merged.units account id <
      before.merged.units account id) : account = holder ∧ id = token.id := by
  rw [View.units_resupplied before middle alike] at fell
  by_cases same : account = holder ∧ id = token.id
  · exact same
  · rw [if_neg same] at fell
    exact absurd fell (Int.lt_irrefl _)

theorem burn_units (order : Burn) (account : AccountId) (id : TokenId) (before after : View)
    (does : (Deed.burn order).Does sender now before after)
    (fell : after.merged.units account id < before.merged.units account id) :
    ∃ token, before.token order.token = some token ∧ account = token.treasury ∧ id = order.token := by
  cases does with
  | burn token held removed supply balance usable found items =>
      obtain ⟨rfl, about⟩ := resupplied_fell _ _ (taken_alike _ _ _ _ _ _ _ items) token _ held _ _ _ _ _ fell
      exact ⟨token, usable.found, rfl, about.trans usable.own⟩

theorem wipe_units (order : Wipe) (account : AccountId) (id : TokenId) (before after : View)
    (does : (Deed.wipe order).Does sender now before after)
    (fell : after.merged.units account id < before.merged.units account id) :
    ∃ token, before.token order.token = some token ∧ account = order.account ∧ id = order.token := by
  cases does with
  | wipe token row held removed supply balance usable lives apart found items =>
      obtain ⟨rfl, about⟩ := resupplied_fell _ _ (taken_alike _ _ _ _ _ _ _ items) token _ held _ _ _ _ _ fell
      exact ⟨token, usable.found, rfl, about.trans usable.own⟩

theorem taken_gone (token : Token) (holder : AccountId) (amount removed : Int64) (serials : List Int64)
    (before after : View) (items : Taken token holder amount serials removed before after) (id : NftId) (row : Nft)
    (present : before.nft id = some row) (gone : after.nft id = none) :
    id.token = token.id ∧ id.serial ∈ serials ∧ row.owner = holder := by
  cases items with
  | units =>
      rw [present] at gone
      cases gone
  | items nonFungible removed => exact removed_gone _ _ _ _ _ removed id row present gone

theorem resupplied_gone (about : TokenId) (token : Token) (holder : AccountId) (held : Relationship)
    (amount removed supply last balance : Int64) (serials : List Int64) (before middle : View)
    (usable : before.Usable about token) (items : Taken token holder amount serials removed before middle)
    (id : NftId) (row : Nft) (present : before.nft id = some row)
    (gone : (middle.resupplied token holder held supply last balance).nft id = none) :
    id = ⟨about, id.serial⟩ ∧ id.serial ∈ serials ∧ row.owner = holder := by
  rw [View.nft_resupplied] at gone
  obtain ⟨named, listed, owner⟩ := taken_gone _ _ _ _ _ _ _ items id row present gone
  have same : id.token = about := named.trans usable.own
  subst same
  exact ⟨rfl, listed, owner⟩

theorem mint_units (order : Mint) (account : AccountId) (id : TokenId) (before after : View)
    (does : (Deed.mint order).Does sender now before after) :
    before.merged.units account id ≤ after.merged.units account id := by
  cases does with
  | mint token held minted last supply balance usable found items supplied capped gained =>
      have nonneg := minted_nonneg _ _ _ _ _ _ _ items
      have sum := gained.sum
      rw [View.units_resupplied before _ (minted_alike _ _ _ _ _ _ _ items)]
      by_cases same : account = token.treasury ∧ id = token.id
      · rw [if_pos same, same.1, same.2, View.units_found _ _ _ _ found]
        omega
      · exact Int.le_of_eq (if_neg same).symm

theorem create_units (order : Creation) (proper : order.Proper) (account : AccountId) (id : TokenId)
    (before after : View) (numbered : before.merged.Numbered before.limit)
    (does : (Deed.create order).Does sender now before after) :
    before.merged.units account id ≤ after.merged.units account id := by
  cases does with
  | create treasury number reserved lives fresh next =>
      rw [View.units_put_relationship]
      by_cases same : account = order.treasury ∧ id = ⟨order.treasury.shard, order.treasury.realm, number⟩
      · have free : before.limit ≤ id.num.toNat := by
          rw [same.2]
          exact Nat.le_of_eq fresh.symm
        have absent := View.unknown_relationship _ _ numbered account id free
        rw [if_pos same, View.units_absent _ _ _ absent]
        exact proper.floor
      · exact Int.le_of_eq (if_neg same).symm

-- Only the two treasuries feel an update, and the new one loses only where the old one owes.
theorem update_units (order : Update) (account : AccountId) (id : TokenId) (before after : View)
    (does : (Deed.update order).Does sender now before after)
    (fell : after.merged.units account id < before.merged.units account id) :
    ∃ token successor, before.token order.token = some token ∧ id = order.token ∧
      order.treasury = some successor ∧ successor ≠ token.treasury ∧
      (account = token.treasury ∨
        account = successor ∧ before.merged.units token.treasury order.token < 0) := by
  cases does with
  | update token usable handover =>
      have written (middle : View) :
          (middle.putToken (Work.revised order token)).merged.units account id = middle.merged.units account id :=
        View.units_alike _ _ _ _ rfl
      rw [written] at fell
      have named (apart : order.treasury.getD token.treasury ≠ token.treasury) :
          ∃ successor, order.treasury = some successor ∧ successor ≠ token.treasury := by
        cases given : order.treasury with
        | none => exact absurd (by rw [given]; rfl) apart
        | some successor => exact ⟨successor, rfl, by rwa [given] at apart⟩
      cases handover with
      | stay => exact absurd fell (Int.lt_irrefl _)
      | items => exact absurd fell (Int.lt_irrefl _)
      | units row incoming outgoing balance apart fungible lives trades found sum =>
          obtain ⟨successor, given, other⟩ := named apart
          rw [given, Option.getD_some] at trades fell
          have own := usable.own
          rw [own] at trades found fell
          rw [View.units_put_relationship, View.units_put_relationship] at fell
          refine ⟨token, successor, usable.found, ?_, given, other, ?_⟩
          · by_cases about : id = order.token
            · exact about
            · rw [if_neg fun same => about same.2, if_neg fun same => about same.2] at fell
              exact absurd fell (Int.lt_irrefl _)
          -- Nobody's holding is written but those of the two treasuries.
          · by_cases old : account = token.treasury
            · exact .inl old
            · by_cases new : account = successor ∧ id = order.token
              · refine .inr ⟨new.1, ?_⟩
                rw [if_pos new, new.1, new.2, View.units_found _ _ _ _ trades.found] at fell
                rw [View.units_found _ _ _ _ found]
                have total := sum.sum
                simp only at fell
                omega
              · rw [if_neg new, if_neg fun same => old same.1] at fell
                exact absurd fell (Int.lt_irrefl _)

theorem dissociate_units (owner account : AccountId) (listed : List TokenId) (id : TokenId) (distinct : listed.Nodup)
    (before after : View) (done : Deeds sender now (listed.map (.dissociate owner)) before after)
    (fell : after.merged.units account id < before.merged.units account id) :
    account = owner ∧ id ∈ listed ∧ ∀ token, ¬ before.Exists id token := by
  have form : ∀ deed ∈ listed.map (Deed.dissociate owner), ∃ token ∈ listed, deed = .dissociate owner token := by
    intro deed member
    obtain ⟨token, inside, rfl⟩ := List.mem_map.mp member
    exact ⟨token, inside, rfl⟩
  have stakes : ((listed.map (Deed.dissociate owner)).filterMap Deed.stake).Nodup := by
    have alike : (listed.map (Deed.dissociate owner)).filterMap Deed.stake = listed.map (Holding.mk owner) := by
      rw [List.filterMap_map]
      exact congrFun List.filterMap_eq_map listed
    rw [alike]
    exact List.pairwise_map.mpr (distinct.imp fun apart same => apart (congrArg Holding.token same))
  have tokens : ∀ deed ∈ listed.map (Deed.dissociate owner), ∀ first next : View,
      deed.Does sender now first next → first.token id = before.token id → next.token id = before.token id := by
    intro deed member first next does kept
    obtain ⟨token, _, rfl⟩ := form deed member
    exact (deed_token sender now _ _ _ rfl does id).trans kept
  have spared : ∀ deed ∈ listed.map (Deed.dissociate owner), deed.stake ≠ some ⟨account, id⟩ → ∀ first next : View,
      deed.Does sender now first next → first.token id = before.token id →
      next.relationship account id = first.relationship account id := by
    intro deed member apart first next does _
    obtain ⟨token, _, rfl⟩ := form deed member
    cases does with
    | dissociate held found released =>
        have other : ¬ (account = owner ∧ id = token) := by
          rintro ⟨rfl, rfl⟩
          exact apart rfl
        rw [View.relationship_remove_relationship, if_neg other]
  -- The tokens are distinct, so one deed at most takes this holding away.
  rcases Deeds.isolate Deed.stake ⟨account, id⟩ (fun view => view.relationship account id)
      (fun view => view.token id = before.token id) _ _ _ tokens spared done rfl stakes with
    same | ⟨deed, member, touched, first, next, does, kept, start, finish⟩
  · rw [View.units_alike _ _ _ _ same] at fell
    exact absurd fell (Int.lt_irrefl _)
  · obtain ⟨token, inside, rfl⟩ := form deed member
    cases touched
    refine ⟨rfl, inside, fun row existing => ?_⟩
    cases does with
    | dissociate held found released =>
        have empty := (released row ⟨kept.trans existing.found, existing.own, existing.live⟩).2
        rw [View.units_alike _ _ _ _ finish, View.units_remove_relationship, if_pos ⟨rfl, rfl⟩,
          View.units_found _ _ _ _ (start.symm.trans found), empty] at fell
        exact absurd fell (Int.lt_irrefl _)

end Deeds

end TokenService
