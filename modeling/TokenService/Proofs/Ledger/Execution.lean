import TokenService.Proofs.Ledger.Drawing
import TokenService.Proofs.Ledger.Frames

set_option autoImplicit false

namespace TokenService

namespace Work

section Steps

variable (sender : AccountId) (now : Timestamp) (before after : View)

theorem associate_one_does (rooted : before.merged.Rooted) (account : AccountId) (holder : Account)
    (lives : before.Lives account holder) (id : TokenId)
    (run : (associateOne account id).Yields before () after) :
    (Deed.associate account id).Does sender now before after := by
  simp only [associateOne, yields_bind, yields_read, yields_get, yields_require, yields_change] at run
  obtain ⟨token, _, ⟨existing, rfl⟩, _, _, ⟨rfl, rfl⟩, _, _, ⟨absent, rfl⟩, rfl⟩ := run
  exact .associate holder token lives (View.exists_of_ok _ _ rooted _ existing) (Option.isNone_iff_eq_none.mp absent)

theorem check_release_ok (account : AccountId) (id : TokenId) (held : Relationship)
    (run : (checkRelease account held (before.existingToken id)).Yields before () after) :
    after = before ∧ ∀ token, before.Exists id token → token.treasury ≠ account ∧ held.balance = 0 := by
  cases look : before.existingToken id with
  | error status =>
      rw [look] at run
      refine ⟨(yields_pure _ _ _ _).mp run |>.2, fun token existing => ?_⟩
      rw [(View.existing_token_ok before id token).mpr ⟨existing.found, existing.live⟩] at look
      cases look
  | ok row =>
      rw [look] at run
      simp only [checkRelease, yields_bind, yields_require] at run
      obtain ⟨_, _, ⟨apart, rfl⟩, empty, rfl⟩ := run
      refine ⟨rfl, fun token existing => ?_⟩
      rw [(View.existing_token_ok after id token).mpr ⟨existing.found, existing.live⟩] at look
      cases look
      exact ⟨bne_iff_ne.mp apart, beq_iff_eq.mp empty⟩

theorem dissociate_one_does (account : AccountId) (id : TokenId)
    (run : (dissociateOne account id).Yields before () after) :
    (Deed.dissociate account id).Does sender now before after := by
  simp only [dissociateOne, yields_bind, yields_read, yields_get, yields_change] at run
  obtain ⟨held, _, ⟨found, rfl⟩, _, _, ⟨rfl, rfl⟩, _, _, release, rfl⟩ := run
  obtain ⟨rfl, released⟩ := check_release_ok _ _ _ _ _ release
  exact .dissociate held ((View.present_relationship_ok _ _ _ _).mp found) released

theorem set_paused_does (rooted : before.merged.Rooted) (paused : Bool) (id : TokenId)
    (run : (setPaused paused id).Yields before () after) :
    (Deed.setPaused paused id).Does sender now before after := by
  simp only [setPaused, yields_bind, yields_read, yields_change] at run
  obtain ⟨token, _, ⟨existing, rfl⟩, rfl⟩ := run
  exact .setPaused token (View.exists_of_ok _ _ rooted _ existing)

theorem mint_nfts_issued (token : Token) (last final : Int64) (metadata : List Bytes) (serials : List Int64)
    (run : (mintNfts token now last metadata).Yields before (serials, final) after) :
    Issued token now last metadata before final after := by
  induction metadata generalizing last before serials with
  | nil =>
      simp only [mintNfts, yields_pure, Prod.mk.injEq] at run
      obtain ⟨⟨_, rfl⟩, rfl⟩ := run
      exact .nil _ _
  | cons entry rest ih =>
      simp only [mintNfts, yields_bind, yields_exact, yields_change, yields_pure, add_exact_ok] at run
      obtain ⟨serial, _, ⟨next, rfl⟩, _, _, rfl, ⟨more, last⟩, _, others, same, rfl⟩ := run
      cases same
      exact .cons next (ih _ _ _ others)

theorem mint_items_minted (token : Token) (order : Mint) (minted last : Int64) (serials : List Int64)
    (run : (mintItems token order now).Yields before (minted, serials, last) after) :
    Minted token order now minted last before after := by
  unfold mintItems at run
  cases kind : token.type with
  | fungible =>
      rw [kind] at run
      simp only [yields_bind, yields_require, yields_pure, Bool.and_eq_true, decide_eq_true_eq] at run
      obtain ⟨_, _, ⟨⟨bare, positive⟩, rfl⟩, same, rfl⟩ := run
      cases same
      exact .units _ kind (List.isEmpty_iff.mp bare) (Int64.lt_iff_toInt_lt.mp positive)
  | nonFungible =>
      rw [kind] at run
      simp only [yields_bind, yields_require, yields_pure] at run
      obtain ⟨_, _, ⟨_, rfl⟩, ⟨more, final⟩, _, issued, same, rfl⟩ := run
      cases same
      exact .items kind (mint_nfts_issued _ _ _ _ _ _ _ _ issued)

theorem mint_yields (order : Mint) (outcome : Execution) (run : (mint order now).Yields before outcome after) :
    ∃ token held minted serials last supply balance middle,
      before.usableToken order.token = .ok token ∧ before.presentRelationship token.treasury token.id = .ok held ∧
        (mintItems token order now).Yields before (minted, serials, last) middle ∧
        Shifted token.totalSupply minted.toInt supply ∧
        (token.supplyType = .infinite ∨ supply.toInt ≤ token.maxSupply.toInt) ∧
        Shifted held.balance minted.toInt balance ∧ outcome = .minted supply serials ∧
        after = middle.resupplied token token.treasury held supply last balance := by
  simp only [mint, yields_bind, yields_read, yields_require, yields_adjusted, yields_change, yields_pure,
    Bool.or_eq_true, beq_iff_eq, decide_eq_true_eq] at run
  obtain ⟨token, _, ⟨found, rfl⟩, held, _, ⟨present, rfl⟩, ⟨minted, serials, last⟩, middle, items,
    supply, _, ⟨raised, floor, rfl⟩, _, _, ⟨capped, rfl⟩, balance, _, ⟨gained, bound, rfl⟩,
    _, _, rfl, _, _, rfl, rfl, rfl⟩ := run
  exact ⟨token, held, minted, serials, last, supply, balance, _, found, present, items, ⟨raised, floor⟩,
    capped.imp_right Int64.le_iff_toInt_le.mp, ⟨gained, bound⟩, rfl, rfl⟩

theorem mint_does (rooted : before.merged.Rooted) (order : Mint) (outcome : Execution)
    (run : (mint order now).Yields before outcome after) :
    (Deed.mint order).Does sender now before after := by
  obtain ⟨token, held, minted, serials, last, supply, balance, middle, found, present, items, supplied, capped, gained,
    _, rfl⟩ := mint_yields now before after order outcome run
  exact .mint token held minted last supply balance (View.usable_of_ok _ _ rooted _ found)
    ((View.present_relationship_ok _ _ _ _).mp present) (mint_items_minted _ _ _ _ _ _ _ _ items) supplied capped
    gained

theorem remove_owned_removed (token : TokenId) (holder : AccountId) (serials : List Int64)
    (run : (serials.forM (removeOwned token holder)).Yields before () after) :
    Removed token holder serials before after := by
  induction serials generalizing before with
  | nil =>
      rw [(yields_for_nil _ _ _ _).mp run]
      exact .nil _
  | cons serial rest ih =>
      obtain ⟨middle, first, others⟩ := (yields_for_cons _ _ _ _ _ _).mp run
      simp only [removeOwned, yields_bind, yields_get, yields_require, yields_change] at first
      obtain ⟨_, _, ⟨rfl, rfl⟩, _, _, ⟨owned, rfl⟩, rfl⟩ := first
      obtain ⟨nft, found, same⟩ := (Option.any_eq_true _ _).mp owned
      exact .cons nft found (beq_iff_eq.mp same) (ih _ others)

theorem retire_items_taken (token : Token) (holder : AccountId) (amount removed : Int64) (serials : List Int64)
    (invalid : Status) (run : (retireItems token holder amount serials invalid).Yields before removed after) :
    Taken token holder amount serials removed before after := by
  unfold retireItems at run
  cases kind : token.type with
  | fungible =>
      rw [kind] at run
      simp only [yields_bind, yields_require, yields_pure, Bool.and_eq_true, decide_eq_true_eq] at run
      obtain ⟨_, _, ⟨⟨bare, positive⟩, rfl⟩, rfl, rfl⟩ := run
      exact .units _ kind (List.isEmpty_iff.mp bare) (Int64.lt_iff_toInt_lt.mp positive)
  | nonFungible =>
      rw [kind] at run
      simp only [yields_bind, yields_require, yields_pure] at run
      obtain ⟨_, _, ⟨_, rfl⟩, _, _, removed, rfl, rfl⟩ := run
      exact .items kind (remove_owned_removed _ _ _ _ _ removed)

theorem retire_yields (token : Token) (holder : AccountId) (held : Relationship) (amount : Int64)
    (serials : List Int64) (invalid insufficient : Status) (outcome : Execution)
    (run : (retire token holder held amount serials invalid insufficient).Yields before outcome after) :
    ∃ removed middle supply balance, (retireItems token holder amount serials invalid).Yields before removed middle ∧
      Shifted token.totalSupply (-removed.toInt) supply ∧ Shifted held.balance (-removed.toInt) balance ∧
      outcome = .supplyChanged supply ∧
      after = middle.resupplied token holder held supply token.lastUsedSerial balance := by
  simp only [retire, yields_bind, yields_exact, yields_adjusted, yields_change, yields_pure, neg_exact_ok] at run
  obtain ⟨removed, middle, items, loss, _, ⟨negative, rfl⟩, balance, _, ⟨left, bound, rfl⟩,
    supply, _, ⟨lowered, floor, rfl⟩, _, _, rfl, _, _, rfl, rfl, rfl⟩ := run
  rw [negative] at left lowered
  exact ⟨removed, _, supply, balance, items, ⟨lowered, floor⟩, ⟨left, bound⟩, rfl, rfl⟩

theorem burn_yields (order : Burn) (outcome : Execution) (run : (burn order).Yields before outcome after) :
    ∃ token held, before.usableToken order.token = .ok token ∧
      before.presentRelationship token.treasury token.id = .ok held ∧
      (retire token token.treasury held order.amount order.serials .invalidTokenBurnAmount
        .insufficientTokenBalance).Yields before outcome after := by
  simp only [burn, yields_bind, yields_read] at run
  obtain ⟨token, _, ⟨found, rfl⟩, held, _, ⟨present, rfl⟩, rest⟩ := run
  exact ⟨token, held, found, present, rest⟩

theorem wipe_yields (order : Wipe) (outcome : Execution) (run : (wipe order).Yields before outcome after) :
    ∃ token account held, before.usableToken order.token = .ok token ∧
      before.liveAccount order.account = .ok account ∧ order.account ≠ token.treasury ∧
      before.presentRelationship order.account token.id = .ok held ∧
      (retire token order.account held order.amount order.serials .invalidWipingAmount
        .invalidWipingAmount).Yields before outcome after := by
  simp only [wipe, yields_bind, yields_read, yields_discard, yields_require, bne_iff_ne] at run
  obtain ⟨token, _, ⟨found, rfl⟩, _, _, ⟨account, live, rfl⟩, _, _, ⟨apart, rfl⟩, held, _, ⟨present, rfl⟩, rest⟩ := run
  exact ⟨token, account, held, found, live, apart, present, rest⟩

theorem burn_does (rooted : before.merged.Rooted) (order : Burn) (outcome : Execution)
    (run : (burn order).Yields before outcome after) : (Deed.burn order).Does sender now before after := by
  obtain ⟨token, held, found, present, rest⟩ := burn_yields before after order outcome run
  obtain ⟨removed, middle, supply, balance, items, supplied, lost, _, rfl⟩ := retire_yields _ _ _ _ _ _ _ _ _ _ rest
  exact .burn token held removed supply balance (View.usable_of_ok _ _ rooted _ found)
    ((View.present_relationship_ok _ _ _ _).mp present) (retire_items_taken _ _ _ _ _ _ _ _ items) supplied lost

theorem wipe_does (rooted : before.merged.Rooted) (order : Wipe) (outcome : Execution)
    (run : (wipe order).Yields before outcome after) : (Deed.wipe order).Does sender now before after := by
  obtain ⟨token, account, held, found, live, apart, present, rest⟩ := wipe_yields before after order outcome run
  obtain ⟨removed, middle, supply, balance, items, supplied, lost, _, rfl⟩ := retire_yields _ _ _ _ _ _ _ _ _ _ rest
  exact .wipe token account held removed supply balance (View.usable_of_ok _ _ rooted _ found)
    (View.lives_of_ok _ _ rooted _ live) apart ((View.present_relationship_ok _ _ _ _).mp present)
    (retire_items_taken _ _ _ _ _ _ _ _ items) supplied lost

theorem check_renewer_ok (renewer : Option AccountId) (run : (checkRenewer renewer).Yields before () after) :
    after = before := by
  cases renewer with
  | none => exact ((yields_pure _ _ _ _).mp run).2
  | some account =>
      obtain ⟨_, found⟩ := (yields_discard _ _ _ _).mp run
      exact ((yields_read _ _ _ _).mp found).2

theorem allocate_yields (number : UInt64) (run : allocate.Yields before number after) :
    ∃ reserved : UInt64, number.toNat = before.limit ∧
      reserved.toNat = before.changes.entitiesCreated.toNat + 1 ∧ after = before.reserving reserved := by
  simp only [allocate, yields_bind, yields_get, yields_exact, yields_set, yields_pure] at run
  obtain ⟨_, _, ⟨rfl, rfl⟩, ⟨first, next⟩, _, ⟨given, rfl⟩, _, _, rfl, rfl, rfl⟩ := run
  exact (View.allocate_ok _ _ _).mp given

def founded (view : View) (order : Creation) (now : Timestamp) (id : TokenId) (reserved : UInt64) : View :=
  ((view.reserving reserved).putToken (created order id now)).putRelationship order.treasury id
    { balance := order.initialSupply, kycGranted := true }

theorem create_yields (order : Creation) (outcome : Execution) (run : (create order now).Yields before outcome after) :
    ∃ treasury number reserved, before.liveAccount order.treasury = .ok treasury ∧ number.toNat = before.limit ∧
      reserved.toNat = before.changes.entitiesCreated.toNat + 1 ∧
      outcome = .created ⟨treasury.id.shard, treasury.id.realm, number⟩ ∧
      after = founded before order now ⟨treasury.id.shard, treasury.id.realm, number⟩ reserved := by
  simp only [create, yields_bind, yields_read, yields_require, yields_change, yields_pure] at run
  obtain ⟨treasury, _, ⟨found, rfl⟩, _, _, renewer, _, start, ⟨_, rfl⟩, number, _, given,
    _, _, rfl, _, _, rfl, rfl, rfl⟩ := run
  obtain rfl := check_renewer_ok _ _ _ renewer
  obtain ⟨reserved, fresh, next, rfl⟩ := allocate_yields _ _ _ given
  refine ⟨treasury, number, reserved, ?_, fresh, next, rfl, rfl⟩
  cases look : start.liveAccount order.treasury with
  | error status =>
      rw [look] at found
      cases found
  | ok row =>
      rw [look] at found
      cases found
      rfl

theorem create_does (rooted : before.merged.Rooted) (order : Creation) (outcome : Execution)
    (run : (create order now).Yields before outcome after) : (Deed.create order).Does sender now before after := by
  obtain ⟨treasury, number, reserved, found, fresh, next, _, rfl⟩ := create_yields now before after order outcome run
  have lives := View.lives_of_ok _ _ rooted _ found
  rw [lives.own]
  exact .create treasury number reserved lives fresh next

theorem move_treasury_handover (token : Token) (successor : AccountId) (rooted : before.merged.Rooted)
    (run : (moveTreasury token successor).Yields before () after) : Handover token successor before after := by
  unfold moveTreasury at run
  by_cases same : successor = token.treasury
  · rw [if_pos same] at run
    obtain ⟨_, rfl⟩ := (yields_pure _ _ _ _).mp run
    exact .stay same
  · rw [if_neg same] at run
    simp only [yields_bind, yields_read, yields_discard] at run
    obtain ⟨_, _, ⟨account, live, rfl⟩, incoming, _, ⟨trades, rfl⟩, rest⟩ := run
    have lives := View.lives_of_ok _ _ rooted _ live
    have open_ := View.trades_of_ok _ _ _ _ trades
    -- Units go to the new treasury; serials stay with the old one.
    unfold moveSupply at rest
    cases kind : token.type with
    | fungible =>
        rw [kind] at rest
        simp only [yields_bind, yields_read, yields_adjusted, yields_change, View.present_relationship_ok] at rest
        obtain ⟨outgoing, _, ⟨found, rfl⟩, balance, _, ⟨sum, floor, rfl⟩, _, _, rfl, rfl⟩ := rest
        exact .units account incoming outgoing balance same kind lives open_ found ⟨sum, floor⟩
    | nonFungible =>
        rw [kind] at rest
        obtain ⟨_, rfl⟩ := (yields_pure _ _ _ _).mp rest
        exact .items account incoming same kind lives open_

theorem update_does (rooted : before.merged.Rooted) (order : Update)
    (run : (update order).Yields before () after) : (Deed.update order).Does sender now before after := by
  simp only [update, yields_bind, yields_read, yields_change] at run
  obtain ⟨token, _, ⟨found, rfl⟩, _, middle, handover, _, _, renewer, rfl⟩ := run
  cases check_renewer_ok _ _ _ renewer
  exact .update token (View.usable_of_ok _ _ rooted _ found) (move_treasury_handover _ _ _ _ rooted handover)

theorem adjust_hbar_does (rooted : before.merged.Rooted) (adjustment : Adjustment)
    (run : (adjustHbar sender adjustment).Yields before () after) :
    (Deed.adjustHbar adjustment).Does sender now before after := by
  simp only [adjustHbar, yields_bind, yields_read, yields_adjusted, yields_change] at run
  obtain ⟨account, start, ⟨found, rfl⟩, allowances, _, draw, balance, _, ⟨sum, floor, rfl⟩, rfl⟩ := run
  obtain ⟨covered, rfl, rfl⟩ := (drawn_yields _ _ _ _ _ _).mp draw
  have drawn := spent_drawn _ _ _ covered
  exact .adjustHbar account _ balance (View.lives_of_ok _ _ rooted _ found) drawn ⟨sum, floor⟩

theorem adjust_units_does (rooted : before.merged.Rooted) (id : TokenId) (token : Token)
    (usable : before.Usable id token) (fungible : token.type = .fungible) (adjustment : Adjustment)
    (run : (adjustUnits sender id adjustment).Yields before () after) :
    (Deed.adjustUnits id adjustment).Does sender now before after := by
  simp only [adjustUnits, yields_bind, yields_read, yields_adjusted, yields_change] at run
  obtain ⟨owner, _, ⟨found, rfl⟩, held, _, ⟨open_, rfl⟩, _, middle, draw, balance, _, ⟨sum, floor, rfl⟩, rfl⟩ := run
  have lives := View.lives_of_ok _ _ rooted _ found
  have trades := View.trades_of_ok _ _ _ _ open_
  unfold drawUnits at draw
  -- The holding is read before the draw, which writes the owner's row and not the holding.
  by_cases drawing : draws adjustment = true
  · rw [if_pos drawing] at draw
    simp only [yields_bind, yields_change] at draw
    obtain ⟨allowances, _, take, rfl⟩ := draw
    obtain ⟨covered, rfl, rfl⟩ := (draw_yields _ _ _ _ _ _ drawing).mp take
    have drawn := spent_drawn _ _ _ covered
    exact .drawUnits token owner held _ balance usable fungible lives trades drawing drawn ⟨sum, floor⟩
  · rw [if_neg drawing] at draw
    obtain ⟨_, rfl⟩ := (yields_pure _ _ _ _).mp draw
    exact .adjustUnits token owner held balance usable fungible lives trades (Bool.eq_false_iff.mpr drawing)
      ⟨sum, floor⟩

theorem approval_yields (id : TokenId) (move : NftMove) (nft : Nft) (value : Unit) :
    (checkApproval sender id move nft).Yields before value after ↔
      (move.approval = true → ∃ row ∈ before.account move.sender, row.deleted = false ∧
        (nft.spender = some sender ∨ row.operators.contains ⟨id, sender⟩ = true)) ∧ after = before := by
  unfold checkApproval
  by_cases approval : move.approval = true
  · rw [if_pos approval]
    simp only [yields_bind, yields_read, yields_require, View.live_account_ok, Bool.or_eq_true, beq_iff_eq]
    constructor
    · rintro ⟨row, _, ⟨⟨found, live⟩, rfl⟩, approved, rfl⟩
      exact ⟨fun _ => ⟨row, found, live, approved⟩, rfl⟩
    · rintro ⟨approved, rfl⟩
      obtain ⟨row, found, live, approved⟩ := approved approval
      exact ⟨row, after, ⟨⟨found, live⟩, rfl⟩, approved, rfl⟩
  · rw [if_neg approval, yields_pure]
    exact ⟨fun done => ⟨fun approved => absurd approved approval, done.2⟩, fun done => ⟨rfl, done.2⟩⟩

theorem move_nft_does (rooted : before.merged.Rooted) (id : TokenId) (token : Token)
    (usable : before.Usable id token) (nonFungible : token.type = .nonFungible) (move : NftMove)
    (run : (moveNft sender id move).Yields before () after) :
    (Deed.moveNft id move).Does sender now before after := by
  simp only [moveNft, yields_bind, yields_read, yields_discard, yields_require, yields_adjusted, yields_change,
    approval_yields, View.demand_ok, beq_iff_eq, and_assoc, exists_and_left, exists_eq_left, exists_const] at run
  obtain ⟨nft, found, owned, allowed, start, ⟨receiver, live, rfl⟩, source, sends, target, receives, left, loss, floor,
    gained, gain, bound, rfl⟩ := run
  have approved (asked : move.approval = true) : ∃ owner, start.Lives move.sender owner ∧
      (nft.spender = some sender ∨ owner.operators.contains ⟨id, sender⟩ = true) := by
    obtain ⟨owner, there, awake, either⟩ := allowed asked
    exact ⟨owner, ⟨there, View.rooted_account _ _ rooted owner there, awake⟩, either⟩
  exact .moveNft token nft receiver source target left gained usable nonFungible found
    (View.rooted_nft _ rooted _ _ found) owned approved (View.lives_of_ok _ _ rooted _ live)
    (View.trades_of_ok _ _ _ _ sends) (View.trades_of_ok _ _ _ _ receives) ⟨loss, floor⟩ ⟨gain, bound⟩

theorem grant_hbar_does (rooted : before.merged.Rooted) (grant : HbarGrant)
    (run : (grantHbar grant).Yields before () after) : (Deed.grantHbar grant).Does sender now before after := by
  simp only [grantHbar, yields_bind, yields_read, yields_discard, yields_change] at run
  obtain ⟨owner, _, ⟨live, rfl⟩, _, start, ⟨spender, known, rfl⟩, rfl⟩ := run
  exact .grantHbar owner spender (View.lives_of_ok _ _ rooted _ live) (View.lives_of_ok _ _ rooted _ known)

theorem grant_units_does (rooted : before.merged.Rooted) (grant : UnitGrant)
    (run : (grantUnits grant).Yields before () after) : (Deed.grantUnits grant).Does sender now before after := by
  simp only [grantUnits, yields_bind, yields_read, yields_discard, yields_require, yields_change, beq_iff_eq,
    View.present_relationship_ok] at run
  obtain ⟨owner, _, ⟨live, rfl⟩, token, _, ⟨found, rfl⟩, _, _, ⟨fungible, rfl⟩, _, start, ⟨held, present, rfl⟩, rfl⟩ :=
    run
  have usable := View.usable_of_ok _ _ rooted _ found
  rw [usable.own] at present ⊢
  exact .grantUnits owner token held (View.lives_of_ok _ _ rooted _ live) usable fungible present

theorem lend_nft_does (rooted : before.merged.Rooted) (id : TokenId) (owner spender : AccountId) (serial : Int64)
    (run : (lendNft id owner spender serial).Yields before () after) :
    (Deed.lendNft id owner spender serial).Does sender now before after := by
  simp only [lendNft, yields_bind, yields_read, yields_require, yields_change, beq_iff_eq, View.demand_ok] at run
  obtain ⟨nft, _, ⟨found, rfl⟩, _, start, ⟨owned, rfl⟩, rfl⟩ := run
  exact .lendNft nft found (View.rooted_nft _ rooted _ _ found) owned

theorem check_delegate_ok (owner : Account) (id : TokenId) (delegating : Option AccountId)
    (run : (checkDelegate owner id delegating).Yields before () after) :
    after = before ∧ ∀ delegate, delegating = some delegate → owner.operators.contains ⟨id, delegate⟩ = true := by
  cases delegating with
  | none => exact ⟨((yields_pure _ _ _ _).mp run).2, fun delegate same => nomatch same⟩
  | some delegate =>
      obtain ⟨contained, rfl⟩ := (yields_require _ _ _ _ _).mp run
      refine ⟨rfl, fun other same => ?_⟩
      cases same
      exact contained

theorem check_payer_ok (rooted : before.merged.Rooted) (id : TokenId) (owner : AccountId)
    (run : (checkPayer sender id owner).Yields before () after) :
    after = before ∧ (sender = owner ∨ ∃ account, before.Lives owner account ∧
      account.operators.contains ⟨id, sender⟩ = true) := by
  unfold checkPayer at run
  by_cases same : sender = owner
  · rw [if_pos same] at run
    exact ⟨((yields_pure _ _ _ _).mp run).2, .inl same⟩
  · rw [if_neg same] at run
    simp only [yields_bind, yields_read, yields_require] at run
    obtain ⟨account, _, ⟨found, rfl⟩, contained, rfl⟩ := run
    exact ⟨rfl, .inr ⟨account, View.lives_of_ok _ _ rooted _ found, contained⟩⟩

end Steps

section Lists

variable (sender : AccountId) (now : Timestamp)

theorem for_deeds {α : Type} (Keep : View → Prop) (items : List α) (step : α → Work PUnit) (label : α → List Deed)
    (each : ∀ item ∈ items, ∀ first next, Keep first → (step item).Yields first () next →
      Deeds sender now (label item) first next ∧ Keep next)
    (before after : View) (start : Keep before) (run : (items.forM step).Yields before () after) :
    Deeds sender now (items.flatMap label) before after ∧ Keep after := by
  induction items generalizing before with
  | nil =>
      cases (yields_for_nil _ _ _ _).mp run
      exact ⟨.nil _, start⟩
  | cons item rest ih =>
      obtain ⟨middle, first, others⟩ := (yields_for_cons _ _ _ _ _ _).mp run
      obtain ⟨head, kept⟩ := each item List.mem_cons_self _ _ start first
      obtain ⟨tail, last⟩ := ih (fun other member => each other (List.mem_cons_of_mem _ member)) middle kept others
      exact ⟨Deeds.append _ _ _ _ _ head tail, last⟩

theorem each_deed {α : Type} (Keep : View → Prop) (items : List α) (step : α → Work PUnit) (label : α → Deed)
    (each : ∀ item ∈ items, ∀ first next, Keep first → (step item).Yields first () next →
      (label item).Does sender now first next ∧ Keep next)
    (before after : View) (start : Keep before) (run : (items.forM step).Yields before () after) :
    Deeds sender now (items.map label) before after ∧ Keep after := by
  rw [List.map_eq_flatMap]
  refine for_deeds sender now Keep items step _ (fun item member first next kept one => ?_) before after start run
  obtain ⟨does, last⟩ := each item member first next kept one
  exact ⟨Deeds.single _ _ _ does, last⟩

theorem rooted_deeds {α : Type} (items : List α) (step : α → Work PUnit) (label : α → Deed)
    (each : ∀ item, ∀ first next : View, first.merged.Rooted → (step item).Yields first () next →
      (label item).Does sender now first next)
    (before after : View) (rooted : before.merged.Rooted) (run : (items.forM step).Yields before () after) :
    Deeds sender now (items.map label) before after ∧ after.merged.Rooted := by
  refine each_deed sender now (fun view => view.merged.Rooted) items step label
    (fun item member first next kept one => ?_) before after rooted run
  have does := each item first next kept one
  exact ⟨does, deed_rooted sender now _ _ _ does kept⟩

theorem transfer_token_deeds (moves : TokenMoves) (before after : View) (rooted : before.merged.Rooted)
    (run : (transferToken sender moves).Yields before () after) :
    Deeds sender now moves.deeds before after ∧ after.merged.Rooted := by
  simp only [transferToken, yields_bind, yields_read] at run
  obtain ⟨token, start, ⟨found, rfl⟩, _, _, kind, _, middle, units, serials⟩ := run
  have usable := View.usable_of_ok _ _ rooted _ found
  rw [usable.own] at units serials
  unfold checkKind at kind
  -- A list with entries of the other kind does not get past the check, so one of the two loops is
  -- empty.
  cases type : token.type with
  | fungible =>
      rw [type] at kind
      obtain ⟨none, rfl⟩ := (yields_require _ _ _ _ _).mp kind
      have empty := List.isEmpty_iff.mp none
      rw [empty] at serials
      cases (yields_for_nil _ _ _ _).mp serials
      rw [TokenMoves.deeds, empty, List.map_nil, List.append_nil]
      have each : ∀ item ∈ moves.adjustments, ∀ first next : View,
          first.merged.Rooted ∧ first.Usable moves.token token →
          (adjustUnits sender moves.token item).Yields first () next →
          (Deed.adjustUnits moves.token item).Does sender now first next ∧
            next.merged.Rooted ∧ next.Usable moves.token token := by
        rintro item _ first next ⟨kept, same⟩ one
        have does := adjust_units_does sender now _ _ kept _ _ same type _ one
        exact ⟨does, deed_rooted _ _ _ _ _ does kept, deed_usable _ _ _ _ _ rfl does _ _ same⟩
      obtain ⟨deeds, last, _⟩ := each_deed sender now _ _ _ _ each _ _ ⟨rooted, usable⟩ units
      exact ⟨deeds, last⟩
  | nonFungible =>
      rw [type] at kind
      obtain ⟨none, rfl⟩ := (yields_require _ _ _ _ _).mp kind
      have empty := List.isEmpty_iff.mp none
      rw [empty] at units
      cases (yields_for_nil _ _ _ _).mp units
      rw [TokenMoves.deeds, empty, List.map_nil, List.nil_append]
      have each : ∀ item ∈ moves.nftMoves, ∀ first next : View,
          first.merged.Rooted ∧ first.Usable moves.token token →
          (moveNft sender moves.token item).Yields first () next →
          (Deed.moveNft moves.token item).Does sender now first next ∧
            next.merged.Rooted ∧ next.Usable moves.token token := by
        rintro item _ first next ⟨kept, same⟩ one
        have does := move_nft_does sender now _ _ kept _ _ same type _ one
        exact ⟨does, deed_rooted _ _ _ _ _ does kept, deed_usable _ _ _ _ _ rfl does _ _ same⟩
      obtain ⟨deeds, last, _⟩ := each_deed sender now _ _ _ _ each _ _ ⟨rooted, usable⟩ serials
      exact ⟨deeds, last⟩

theorem grant_nfts_deeds (grant : NftGrant) (before after : View) (rooted : before.merged.Rooted)
    (run : (grantNfts grant).Yields before () after) :
    Deeds sender now grant.deeds before after ∧ after.merged.Rooted := by
  simp only [grantNfts, yields_bind, yields_read, yields_discard, yields_require, yields_change, beq_iff_eq,
    View.present_relationship_ok] at run
  obtain ⟨owner, _, ⟨live, rfl⟩, token, _, ⟨found, rfl⟩, _, _, ⟨nonFungible, rfl⟩, _, _, ⟨held, present, rfl⟩,
    _, _, delegate, _, middle, serials, rfl⟩ := run
  obtain ⟨rfl, delegated⟩ := check_delegate_ok _ _ _ _ _ delegate
  have lives := View.lives_of_ok _ _ rooted _ live
  have usable := View.usable_of_ok _ _ rooted _ found
  rw [usable.own] at present delegated serials ⊢
  -- Lending a serial writes no row that the operators need.
  have each : ∀ serial ∈ grant.serials, ∀ first next : View,
      first.merged.Rooted ∧ first.Lives grant.owner owner ∧ first.Usable grant.token token ∧
        first.relationship grant.owner grant.token = some held →
      (lendNft grant.token grant.owner grant.spender serial).Yields first () next →
      (Deed.lendNft grant.token grant.owner grant.spender serial).Does sender now first next ∧
        next.merged.Rooted ∧ next.Lives grant.owner owner ∧ next.Usable grant.token token ∧
          next.relationship grant.owner grant.token = some held := by
    rintro serial _ first next ⟨kept, alive, same, held⟩ one
    have does := lend_nft_does sender now _ _ kept _ _ _ _ one
    refine ⟨does, deed_rooted _ _ _ _ _ does kept, ?_, deed_usable _ _ _ _ _ rfl does _ _ same, ?_⟩
    · cases does with
      | lendNft => exact ⟨alive.found, alive.own, alive.live⟩
    · cases does with
      | lendNft => exact held
  obtain ⟨deeds, last, alive, same, kept⟩ :=
    each_deed sender now _ _ _ _ each _ _ ⟨rooted, lives, usable, present⟩ serials
  have grants : (Deed.setOperator grant).Does sender now middle _ :=
    .setOperator owner token held alive same nonFungible kept delegated
  exact ⟨Deeds.append _ _ _ _ _ deeds (Deeds.single _ _ _ grants), deed_rooted _ _ _ _ _ grants last⟩

theorem revoke_one_deeds (revocation : NftRevocation) (before after : View) (rooted : before.merged.Rooted)
    (run : (revokeOne sender revocation).Yields before () after) :
    Deeds sender now revocation.deeds before after ∧ after.merged.Rooted := by
  simp only [revokeOne, yields_bind, yields_read] at run
  obtain ⟨token, _, ⟨found, rfl⟩, _, start, payer, serials⟩ := run
  obtain ⟨rfl, entitled⟩ := check_payer_ok _ _ _ rooted _ _ payer
  have usable := View.usable_of_ok _ _ rooted _ found
  rw [usable.own] at entitled
  -- Clearing a spender writes neither the token nor the account that entitles the sender.
  have each : ∀ serial ∈ revocation.serials, ∀ first next : View,
      first.merged.Rooted ∧ first.Usable revocation.token token ∧
        (sender = revocation.owner ∨ ∃ account, first.Lives revocation.owner account ∧
          account.operators.contains ⟨revocation.token, sender⟩ = true) →
      (clearSpender token revocation.owner serial).Yields first () next →
      (Deed.clearSpender revocation.token revocation.owner serial).Does sender now first next ∧
        next.merged.Rooted ∧ next.Usable revocation.token token ∧
        (sender = revocation.owner ∨ ∃ account, next.Lives revocation.owner account ∧
          account.operators.contains ⟨revocation.token, sender⟩ = true) := by
    rintro serial _ first next ⟨kept, same, allowed⟩ one
    simp only [clearSpender, yields_bind, yields_read, yields_require, yields_change, beq_iff_eq, View.demand_ok,
      same.own] at one
    obtain ⟨nft, _, ⟨present, rfl⟩, _, _, ⟨owned, rfl⟩, rfl⟩ := one
    have does : (Deed.clearSpender revocation.token revocation.owner serial).Does sender now _ _ :=
      .clearSpender token nft same allowed present (View.rooted_nft _ kept _ _ present) owned
    refine ⟨does, deed_rooted _ _ _ _ _ does kept, deed_usable _ _ _ _ _ rfl does _ _ same, allowed.imp_right ?_⟩
    rintro ⟨account, lives, contained⟩
    exact ⟨account, ⟨lives.found, lives.own, lives.live⟩, contained⟩
  obtain ⟨deeds, last, _⟩ := each_deed sender now _ _ _ _ each _ _ ⟨rooted, usable, entitled⟩ serials
  exact ⟨deeds, last⟩

end Lists

/-- A success has done the deeds of its transaction. -/
theorem execute_deeds (sender : AccountId) (now : Timestamp) (body : Body) (before after : View)
    (outcome : Execution) (rooted : before.merged.Rooted)
    (run : (execute body sender now).Yields before outcome after) : Deeds sender now body.deeds before after := by
  cases body with
  | associate association =>
      obtain ⟨done, _⟩ := yields_completed _ _ _ _ run
      simp only [associate, yields_bind, yields_read, yields_discard] at done
      obtain ⟨_, _, ⟨holder, found, rfl⟩, steps⟩ := done
      have lives := View.lives_of_ok _ _ rooted holder found
      -- The holder is read once, before the first relationship is written.
      refine (each_deed sender now
        (fun view => view.merged.Rooted ∧ view.Lives association.account holder) _ _ _
        (fun token _ first next kept one => ?_) _ _ ⟨rooted, lives⟩ steps).1
      have does := associate_one_does sender now first next kept.1 _ holder kept.2 token one
      refine ⟨does, deed_rooted sender now _ _ _ does kept.1, ?_⟩
      cases does with
      | associate => exact ⟨kept.2.found, kept.2.own, kept.2.live⟩
  | dissociate association =>
      obtain ⟨done, _⟩ := yields_completed _ _ _ _ run
      simp only [dissociate, yields_bind, yields_read, yields_discard] at done
      obtain ⟨_, _, ⟨_, _, rfl⟩, steps⟩ := done
      exact (rooted_deeds sender now _ _ _ (fun item first next _ => dissociate_one_does _ _ _ _ _ item)
        _ _ rooted steps).1
  | mint order => exact Deeds.single _ _ _ (mint_does _ _ _ _ rooted _ _ run)
  | burn order => exact Deeds.single _ _ _ (burn_does _ _ _ _ rooted _ _ run)
  | wipe order => exact Deeds.single _ _ _ (wipe_does _ _ _ _ rooted _ _ run)
  | pause token =>
      obtain ⟨done, _⟩ := yields_completed _ _ _ _ run
      exact Deeds.single _ _ _ (set_paused_does _ _ _ _ rooted _ _ done)
  | unpause token =>
      obtain ⟨done, _⟩ := yields_completed _ _ _ _ run
      exact Deeds.single _ _ _ (set_paused_does _ _ _ _ rooted _ _ done)
  | create order => exact Deeds.single _ _ _ (create_does _ _ _ _ rooted _ _ run)
  | update order =>
      obtain ⟨done, _⟩ := yields_completed _ _ _ _ run
      exact Deeds.single _ _ _ (update_does _ _ _ _ rooted _ done)
  | transfer hbar tokens =>
      obtain ⟨done, _⟩ := yields_completed _ _ _ _ run
      simp only [transfer, yields_bind] at done
      obtain ⟨_, middle, money, units⟩ := done
      obtain ⟨first, kept⟩ := rooted_deeds sender now _ _ _
        (fun item first next kept => adjust_hbar_does _ _ _ _ kept _) _ _ rooted money
      obtain ⟨second, _⟩ := for_deeds sender now _ _ _ _
        (fun item _ first next kept => transfer_token_deeds sender now item first next kept) _ _ kept units
      exact Deeds.append _ _ _ _ _ first second
  -- Three loops in a row, each from the rooted view that the one before it left.
  | approve hbar units nfts =>
      obtain ⟨done, _⟩ := yields_completed _ _ _ _ run
      simp only [approve, yields_bind] at done
      obtain ⟨_, middle, money, _, last, amounts, serials⟩ := done
      obtain ⟨first, kept⟩ := rooted_deeds sender now _ _ _
        (fun item first next kept => grant_hbar_does _ _ _ _ kept _) _ _ rooted money
      obtain ⟨second, held⟩ := rooted_deeds sender now _ _ _
        (fun item first next kept => grant_units_does _ _ _ _ kept _) _ _ kept amounts
      obtain ⟨third, _⟩ := for_deeds sender now _ _ _ _
        (fun item _ first next kept => grant_nfts_deeds sender now item first next kept) _ _ held serials
      exact Deeds.append _ _ _ _ _ first (Deeds.append _ _ _ _ _ second third)
  | revoke revocations =>
      obtain ⟨done, _⟩ := yields_completed _ _ _ _ run
      exact (for_deeds sender now _ _ _ _
        (fun item _ first next kept => revoke_one_deeds sender now item first next kept) _ _ rooted done).1
  | queryToken token => exact absurd run (yields_throw _ _ _ _)
  | queryNft id => exact absurd run (yields_throw _ _ _ _)

end Work

end TokenService
