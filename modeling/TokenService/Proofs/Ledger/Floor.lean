import TokenService.Ledger.Rules
import TokenService.Proofs.Form
import TokenService.Proofs.Ledger.Execution

set_option autoImplicit false

namespace TokenService

theorem nothing_floor : 0 ≤ (0 : Int64).toInt := by decide

structure Ledger.Afloat (ledger : Ledger) : Prop where
  hbar : ∀ id row, ledger.accounts.get? id = some row → 0 ≤ row.balance.toInt
  units : ∀ holding row, ledger.relationships.get? holding = some row → 0 ≤ row.balance.toInt

-- Afloat without what is staged and with it.
structure View.Afloat (view : View) : Prop where
  base : view.ledger.Afloat
  top : view.merged.Afloat

namespace View

section Writes

variable {view : View} (afloat : view.Afloat)

include afloat

theorem afloat_account (id : AccountId) (row : Account) (lives : view.liveAccount id = .ok row) :
    0 ≤ row.balance.toInt :=
  afloat.top.hbar id row ((merged_account view id).trans ((live_account_ok view id row).mp lives).1)

theorem afloat_alike (after : View) (base : after.ledger = view.ledger)
    (accounts : after.merged.accounts = view.merged.accounts)
    (relationships : after.merged.relationships = view.merged.relationships) : after.Afloat :=
  ⟨base.symm ▸ afloat.base, fun id row found => afloat.top.hbar id row (accounts ▸ found),
    fun holding row found => afloat.top.units holding row (relationships ▸ found)⟩

theorem afloat_put_account (row : Account) (floor : 0 ≤ row.balance.toInt) : (view.putAccount row).Afloat := by
  refine ⟨afloat.base, fun id other found => ?_, fun holding other found => ?_⟩
  · rw [merged_put_account, Table.get_insert] at found
    split at found
    · cases found
      exact floor
    · exact afloat.top.hbar id other found
  · rw [merged_put_account] at found
    exact afloat.top.units holding other found

theorem afloat_put_relationship (account : AccountId) (token : TokenId) (row : Relationship)
    (floor : 0 ≤ row.balance.toInt) : (view.putRelationship account token row).Afloat := by
  refine ⟨afloat.base, fun id other found => ?_, fun holding other found => ?_⟩
  · rw [merged_put_relationship] at found
    exact afloat.top.hbar id other found
  · rw [merged_put_relationship, Table.get_insert] at found
    split at found
    · cases found
      exact floor
    · exact afloat.top.units holding other found

theorem afloat_remove_relationship (account : AccountId) (token : TokenId) :
    (view.removeRelationship account token).Afloat := by
  refine ⟨afloat.base, fun id other found => ?_, fun holding other found => ?_⟩
  · rw [merged_remove_relationship] at found
    exact afloat.top.hbar id other found
  · rw [merged_remove_relationship, Table.get_erase] at found
    split at found
    · cases found
    · exact afloat.top.units holding other found

theorem afloat_put_token (row : Token) : (view.putToken row).Afloat :=
  afloat_alike afloat _ rfl (by rw [merged_put_token]) (by rw [merged_put_token])

theorem afloat_put_nft (row : Nft) : (view.putNft row).Afloat :=
  afloat_alike afloat _ rfl (by rw [merged_put_nft]) (by rw [merged_put_nft])

theorem afloat_remove_nft (id : NftId) : (view.removeNft id).Afloat :=
  afloat_alike afloat _ rfl (by rw [merged_remove_nft]) (by rw [merged_remove_nft])

end Writes

theorem afloat_fresh (ledger : Ledger) (afloat : ledger.Afloat) : (View.mk ledger {}).Afloat :=
  ⟨afloat, (fresh_merged ledger).symm ▸ afloat⟩

end View

namespace Work

variable {α β : Type}

def Floats (work : Work α) (fine : α → Prop) : Prop :=
  ∀ before value after, before.Afloat → work.Yields before value after → after.Afloat ∧ fine value

def Careful (work : Work α) : Prop := work.Floats fun _ => True

section Laws

theorem floats_bind {fine : α → Prop} {good : β → Prop} (work : Work α) (next : α → Work β) (first : work.Floats fine)
    (rest : ∀ value, fine value → (next value).Floats good) : (work >>= next).Floats good := by
  intro before value after afloat run
  obtain ⟨middle, between, start, finish⟩ := (yields_bind _ _ _ _ _).mp run
  obtain ⟨kept, sound⟩ := first before middle between afloat start
  exact rest middle sound between value after kept finish

theorem floats_pure {good : α → Prop} (value : α) (sound : good value) : (pure value : Work α).Floats good := by
  intro before other after afloat run
  obtain ⟨rfl, rfl⟩ := (yields_pure _ _ _ _).mp run
  exact ⟨afloat, sound⟩

theorem careful_pure (value : α) : (pure value : Work α).Careful := floats_pure value trivial

theorem careful_get : (get : Work View).Careful := by
  intro before view after afloat run
  obtain ⟨rfl, rfl⟩ := (yields_get _ _ _).mp run
  exact ⟨afloat, trivial⟩

theorem floats_read {good : α → Prop} (look : View → Except Status α)
    (sound : ∀ view value, view.Afloat → look view = .ok value → good value) : (read look).Floats good := by
  intro before value after afloat run
  obtain ⟨found, rfl⟩ := (yields_read _ _ _ _).mp run
  exact ⟨afloat, sound after value afloat found⟩

theorem careful_read (look : View → Except Status α) : (read look).Careful :=
  floats_read look fun _ _ _ _ => trivial

theorem careful_require (rule : Bool) (status : Status) : (require rule status).Careful := by
  intro before value after afloat run
  obtain ⟨_, rfl⟩ := (yields_require _ _ _ _ _).mp run
  exact ⟨afloat, trivial⟩

theorem careful_change (step : View → View) (keeps : ∀ view : View, view.Afloat → (step view).Afloat) :
    (change step).Careful := by
  intro before value after afloat run
  cases (yields_change _ _ _ _).mp run
  exact ⟨keeps before afloat, trivial⟩

theorem careful_exact (result : Except Overflow α) : (exact result).Careful := by
  intro before value after afloat run
  obtain ⟨_, rfl⟩ := (yields_exact _ _ _ _).mp run
  exact ⟨afloat, trivial⟩

theorem floats_adjusted (balance delta : Int64) (insufficient : Status) :
    (adjusted balance delta insufficient).Floats fun updated => 0 ≤ updated.toInt := by
  intro before value after afloat run
  obtain ⟨_, floor, rfl⟩ := (yields_adjusted _ _ _ _ _ _).mp run
  exact ⟨afloat, floor⟩

theorem careful_discard (work : Work α) (careful : work.Careful) : (discard work : Work PUnit).Careful := by
  intro before value after afloat run
  obtain ⟨row, run⟩ := (yields_discard _ _ _ _).mp run
  exact ⟨(careful before row after afloat run).1, trivial⟩

theorem careful_for (step : α → Work PUnit) (each : ∀ item, (step item).Careful) (items : List α) :
    (items.forM step).Careful := by
  induction items with
  | nil => exact careful_pure _
  | cons item rest ih => exact floats_bind _ _ (each item) fun _ _ => ih

end Laws

section Rules

theorem floats_live (id : AccountId) : (read (·.liveAccount id)).Floats fun row => 0 ≤ row.balance.toInt :=
  floats_read _ fun _ row afloat found => View.afloat_account afloat id row found

theorem careful_put_account (row : Account) (floor : 0 ≤ row.balance.toInt) : (change (·.putAccount row)).Careful :=
  careful_change _ fun _ afloat => View.afloat_put_account afloat row floor

theorem careful_put_relationship (account : AccountId) (token : TokenId) (row : Relationship)
    (floor : 0 ≤ row.balance.toInt) : (change (·.putRelationship account token row)).Careful :=
  careful_change _ fun _ afloat => View.afloat_put_relationship afloat account token row floor

theorem careful_put_token (row : Token) : (change (·.putToken row)).Careful :=
  careful_change _ fun _ afloat => View.afloat_put_token afloat row

theorem careful_put_nft (row : Nft) : (change (·.putNft row)).Careful :=
  careful_change _ fun _ afloat => View.afloat_put_nft afloat row

theorem associate_careful (association : Association) : (associate association).Careful := by
  refine floats_bind _ _ (careful_discard _ (careful_read _)) fun _ _ => careful_for _ (fun id => ?_) _
  refine floats_bind _ _ (careful_read _) fun token _ => ?_
  refine floats_bind _ _ careful_get fun view _ => ?_
  refine floats_bind _ _ (careful_require _ _) fun _ _ => ?_
  exact careful_put_relationship _ _ _ nothing_floor

theorem check_release_careful (account : AccountId) (held : Relationship) (token : Except Status Token) :
    (checkRelease account held token).Careful := by
  cases token with
  | error status => exact careful_pure _
  | ok token => exact floats_bind _ _ (careful_require _ _) fun _ _ => careful_require _ _

theorem dissociate_careful (association : Association) : (dissociate association).Careful := by
  refine floats_bind _ _ (careful_discard _ (careful_read _)) fun _ _ => careful_for _ (fun id => ?_) _
  refine floats_bind _ _ (careful_read _) fun held _ => ?_
  refine floats_bind _ _ careful_get fun view _ => ?_
  refine floats_bind _ _ (check_release_careful _ _ _) fun _ _ => ?_
  exact careful_change _ fun _ afloat => View.afloat_remove_relationship afloat _ _

theorem set_paused_careful (paused : Bool) (id : TokenId) : (setPaused paused id).Careful :=
  floats_bind _ _ (careful_read _) fun _ _ => careful_put_token _

theorem mint_nfts_careful (token : Token) (now : Timestamp) (last : Int64) (metadata : List Bytes) :
    (mintNfts token now last metadata).Careful := by
  induction metadata generalizing last with
  | nil => exact careful_pure _
  | cons entry rest ih =>
      refine floats_bind _ _ (careful_exact _) fun serial _ => ?_
      refine floats_bind _ _ (careful_put_nft _) fun _ _ => ?_
      exact floats_bind _ _ (ih serial) fun _ _ => careful_pure _

theorem mint_items_careful (token : Token) (order : Mint) (now : Timestamp) :
    (mintItems token order now).Careful := by
  unfold mintItems
  cases token.type with
  | fungible => exact floats_bind _ _ (careful_require _ _) fun _ _ => careful_pure _
  | nonFungible =>
      refine floats_bind _ _ (careful_require _ _) fun _ _ => ?_
      exact floats_bind _ _ (mint_nfts_careful _ _ _ _) fun _ _ => careful_pure _

theorem mint_careful (order : Mint) (now : Timestamp) : (mint order now).Careful := by
  refine floats_bind _ _ (careful_read _) fun token _ => ?_
  refine floats_bind _ _ (careful_read _) fun treasury _ => ?_
  refine floats_bind _ _ (mint_items_careful _ _ _) fun items _ => ?_
  refine floats_bind _ _ (floats_adjusted _ _ _) fun supply _ => ?_
  refine floats_bind _ _ (careful_require _ _) fun _ _ => ?_
  refine floats_bind _ _ (floats_adjusted _ _ _) fun balance floor => ?_
  refine floats_bind _ _ (careful_put_relationship _ _ _ floor) fun _ _ => ?_
  exact floats_bind _ _ (careful_put_token _) fun _ _ => careful_pure _

theorem retire_items_careful (token : Token) (holder : AccountId) (amount : Int64) (serials : List Int64)
    (invalid : Status) : (retireItems token holder amount serials invalid).Careful := by
  unfold retireItems
  cases token.type with
  | fungible => exact floats_bind _ _ (careful_require _ _) fun _ _ => careful_pure _
  | nonFungible =>
      refine floats_bind _ _ (careful_require _ _) fun _ _ => ?_
      refine floats_bind _ _ (careful_for _ (fun serial => ?_) _) fun _ _ => careful_pure _
      refine floats_bind _ _ careful_get fun view _ => ?_
      refine floats_bind _ _ (careful_require _ _) fun _ _ => ?_
      exact careful_change _ fun _ afloat => View.afloat_remove_nft afloat _

theorem retire_careful (token : Token) (holder : AccountId) (held : Relationship) (amount : Int64)
    (serials : List Int64) (invalid insufficient : Status) :
    (retire token holder held amount serials invalid insufficient).Careful := by
  refine floats_bind _ _ (retire_items_careful _ _ _ _ _) fun removed _ => ?_
  refine floats_bind _ _ (careful_exact _) fun loss _ => ?_
  refine floats_bind _ _ (floats_adjusted _ _ _) fun balance floor => ?_
  refine floats_bind _ _ (floats_adjusted _ _ _) fun supply _ => ?_
  refine floats_bind _ _ (careful_put_relationship _ _ _ floor) fun _ _ => ?_
  exact floats_bind _ _ (careful_put_token _) fun _ _ => careful_pure _

theorem burn_careful (order : Burn) : (burn order).Careful := by
  refine floats_bind _ _ (careful_read _) fun token _ => ?_
  exact floats_bind _ _ (careful_read _) fun treasury _ => retire_careful _ _ _ _ _ _ _

theorem wipe_careful (order : Wipe) : (wipe order).Careful := by
  refine floats_bind _ _ (careful_read _) fun token _ => ?_
  refine floats_bind _ _ (careful_discard _ (careful_read _)) fun _ _ => ?_
  refine floats_bind _ _ (careful_require _ _) fun _ _ => ?_
  exact floats_bind _ _ (careful_read _) fun held _ => retire_careful _ _ _ _ _ _ _

theorem check_renewer_careful (renewer : Option AccountId) : (checkRenewer renewer).Careful := by
  cases renewer with
  | none => exact careful_pure _
  | some account => exact careful_discard _ (careful_read _)

theorem allocate_careful : allocate.Careful := by
  intro before number after afloat run
  obtain ⟨reserved, _, _, rfl⟩ := allocate_yields _ _ _ run
  exact ⟨View.afloat_alike afloat _ rfl rfl rfl, trivial⟩

theorem create_careful (order : Creation) (now : Timestamp) (floor : 0 ≤ order.initialSupply.toInt) :
    (create order now).Careful := by
  refine floats_bind _ _ (careful_read _) fun treasury _ => ?_
  refine floats_bind _ _ (check_renewer_careful _) fun _ _ => ?_
  refine floats_bind _ _ (careful_require _ _) fun _ _ => ?_
  refine floats_bind _ _ allocate_careful fun number _ => ?_
  refine floats_bind _ _ (careful_put_token _) fun _ _ => ?_
  exact floats_bind _ _ (careful_put_relationship _ _ _ floor) fun _ _ => careful_pure _

theorem move_treasury_careful (token : Token) (successor : AccountId) : (moveTreasury token successor).Careful := by
  unfold moveTreasury
  split
  · exact careful_pure _
  · refine floats_bind _ _ (careful_discard _ (careful_read _)) fun _ _ => ?_
    refine floats_bind _ _ (careful_read _) fun incoming _ => ?_
    unfold moveSupply
    cases token.type with
    | nonFungible => exact careful_pure _
    | fungible =>
        refine floats_bind _ _ (careful_read _) fun outgoing _ => ?_
        refine floats_bind _ _ (floats_adjusted _ _ _) fun balance floor => ?_
        refine floats_bind _ _ (careful_put_relationship _ _ _ nothing_floor) fun _ _ => ?_
        exact careful_put_relationship _ _ _ floor

theorem update_careful (order : Update) : (update order).Careful := by
  refine floats_bind _ _ (careful_read _) fun token _ => ?_
  refine floats_bind _ _ (move_treasury_careful _ _) fun _ _ => ?_
  exact floats_bind _ _ (check_renewer_careful _) fun _ _ => careful_put_token _

section Draws

variable {κ : Type} [Ord κ] [Std.TransOrd κ] [Std.LawfulEqOrd κ]

theorem draw_careful (allowances : Table κ Int64) (key : κ) (debit : Int64) :
    (draw allowances key debit).Careful := by
  refine floats_bind _ _ (careful_exact _) fun amount _ => ?_
  cases allowances.get? key with
  | none => exact fun _ _ _ _ run => absurd run (yields_refuse _ _ _ _)
  | some granted =>
      refine floats_bind _ _ (careful_require _ _) fun _ _ => ?_
      split
      · exact careful_pure _
      · exact floats_bind _ _ (careful_exact _) fun _ _ => careful_pure _

theorem drawn_careful (allowances : Table κ Int64) (key : κ) (adjustment : Adjustment) :
    (drawn allowances key adjustment).Careful := by
  unfold drawn
  split
  · exact draw_careful _ _ _
  · exact careful_pure _

end Draws

theorem adjust_hbar_careful (spender : AccountId) (adjustment : Adjustment) :
    (adjustHbar spender adjustment).Careful := by
  refine floats_bind _ _ (careful_read _) fun account _ => ?_
  refine floats_bind _ _ (drawn_careful _ _ _) fun allowances _ => ?_
  exact floats_bind _ _ (floats_adjusted _ _ _) fun balance floor => careful_put_account _ floor

theorem draw_units_careful (spender : AccountId) (token : TokenId) (adjustment : Adjustment) (owner : Account)
    (floor : 0 ≤ owner.balance.toInt) : (drawUnits spender token adjustment owner).Careful := by
  unfold drawUnits
  split
  · exact floats_bind _ _ (draw_careful _ _ _) fun allowances _ => careful_put_account _ floor
  · exact careful_pure _

theorem adjust_units_careful (spender : AccountId) (token : TokenId) (adjustment : Adjustment) :
    (adjustUnits spender token adjustment).Careful := by
  refine floats_bind _ _ (floats_live _) fun owner floor => ?_
  refine floats_bind _ _ (careful_read _) fun held _ => ?_
  refine floats_bind _ _ (draw_units_careful _ _ _ _ floor) fun _ _ => ?_
  exact floats_bind _ _ (floats_adjusted _ _ _) fun balance above => careful_put_relationship _ _ _ above

theorem check_approval_careful (spender : AccountId) (token : TokenId) (move : NftMove) (nft : Nft) :
    (checkApproval spender token move nft).Careful := by
  unfold checkApproval
  split
  · exact floats_bind _ _ (careful_read _) fun _ _ => careful_require _ _
  · exact careful_pure _

theorem move_nft_careful (spender : AccountId) (token : TokenId) (move : NftMove) :
    (moveNft spender token move).Careful := by
  refine floats_bind _ _ (careful_read _) fun nft _ => ?_
  refine floats_bind _ _ (careful_require _ _) fun _ _ => ?_
  refine floats_bind _ _ (check_approval_careful _ _ _ _) fun _ _ => ?_
  refine floats_bind _ _ (careful_discard _ (careful_read _)) fun _ _ => ?_
  refine floats_bind _ _ (careful_read _) fun source _ => ?_
  refine floats_bind _ _ (careful_read _) fun target _ => ?_
  refine floats_bind _ _ (floats_adjusted _ _ _) fun left low => ?_
  refine floats_bind _ _ (floats_adjusted _ _ _) fun gained high => ?_
  refine floats_bind _ _ (careful_put_relationship _ _ _ low) fun _ _ => ?_
  exact floats_bind _ _ (careful_put_relationship _ _ _ high) fun _ _ => careful_put_nft _

theorem check_kind_careful (type : TokenType) (moves : TokenMoves) : (checkKind type moves).Careful := by
  cases type with
  | fungible => exact careful_require _ _
  | nonFungible => exact careful_require _ _

theorem transfer_careful (hbar : List Adjustment) (tokens : List TokenMoves) (spender : AccountId) :
    (transfer hbar tokens spender).Careful := by
  refine floats_bind _ _ (careful_for _ (adjust_hbar_careful spender) _) fun _ _ => careful_for _ (fun moves => ?_) _
  refine floats_bind _ _ (careful_read _) fun token _ => ?_
  refine floats_bind _ _ (check_kind_careful _ _) fun _ _ => ?_
  refine floats_bind _ _ (careful_for _ (adjust_units_careful spender token.id) _) fun _ _ => ?_
  exact careful_for _ (move_nft_careful spender token.id) _

theorem grant_nfts_careful (grant : NftGrant) : (grantNfts grant).Careful := by
  refine floats_bind _ _ (floats_live _) fun owner floor => ?_
  refine floats_bind _ _ (careful_read _) fun token _ => ?_
  refine floats_bind _ _ (careful_require _ _) fun _ _ => ?_
  refine floats_bind _ _ (careful_discard _ (careful_read _)) fun _ _ => ?_
  have delegate : (checkDelegate owner token.id grant.delegatingSpender).Careful := by
    cases grant.delegatingSpender with
    | none => exact careful_pure _
    | some delegating => exact careful_require _ _
  refine floats_bind _ _ delegate fun _ _ => ?_
  refine floats_bind _ _ (careful_for _ (fun serial => ?_) _) fun _ _ => careful_put_account _ floor
  refine floats_bind _ _ (careful_read _) fun nft _ => ?_
  exact floats_bind _ _ (careful_require _ _) fun _ _ => careful_put_nft _

theorem approve_careful (hbar : List HbarGrant) (units : List UnitGrant) (nfts : List NftGrant) :
    (approve hbar units nfts).Careful := by
  refine floats_bind _ _ (careful_for _ (fun grant => ?_) _) fun _ _ => ?_
  · refine floats_bind _ _ (floats_live _) fun owner floor => ?_
    exact floats_bind _ _ (careful_discard _ (careful_read _)) fun _ _ => careful_put_account _ floor
  · refine floats_bind _ _ (careful_for _ (fun grant => ?_) _) fun _ _ => careful_for _ grant_nfts_careful _
    refine floats_bind _ _ (floats_live _) fun owner floor => ?_
    refine floats_bind _ _ (careful_read _) fun token _ => ?_
    refine floats_bind _ _ (careful_require _ _) fun _ _ => ?_
    exact floats_bind _ _ (careful_discard _ (careful_read _)) fun _ _ => careful_put_account _ floor

theorem revoke_careful (payer : AccountId) (revocations : List NftRevocation) : (revoke payer revocations).Careful := by
  refine careful_for _ (fun revocation => ?_) _
  refine floats_bind _ _ (careful_read _) fun token _ => ?_
  have entitled : (checkPayer payer token.id revocation.owner).Careful := by
    unfold checkPayer
    split
    · exact careful_pure _
    · exact floats_bind _ _ (careful_read _) fun _ _ => careful_require _ _
  refine floats_bind _ _ entitled fun _ _ => careful_for _ (fun serial => ?_) _
  refine floats_bind _ _ (careful_read _) fun nft _ => ?_
  exact floats_bind _ _ (careful_require _ _) fun _ _ => careful_put_nft _

end Rules

theorem execute_careful (config : Config) (body : Body) (wellFormed : body.check config = .ok ()) (sender : AccountId)
    (now : Timestamp) : (execute body sender now).Careful := by
  have done (work : Work Unit) (careful : work.Careful) : (completed work).Careful :=
    floats_bind _ _ careful fun _ _ => careful_pure _
  cases body with
  | associate association => exact done _ (associate_careful association)
  | dissociate association => exact done _ (dissociate_careful association)
  | mint order => exact mint_careful order now
  | burn order => exact burn_careful order
  | wipe order => exact wipe_careful order
  | pause token => exact done _ (set_paused_careful true token)
  | unpause token => exact done _ (set_paused_careful false token)
  | create order => exact create_careful order now (creation_of_check config order wellFormed).floor
  | update order => exact done _ (update_careful order)
  | transfer hbar tokens => exact done _ (transfer_careful hbar tokens sender)
  | approve hbar units nfts => exact done _ (approve_careful hbar units nfts)
  | revoke revocations => exact done _ (revoke_careful sender revocations)
  | queryToken token => exact fun _ _ _ _ run => absurd run (yields_throw _ _ _ _)
  | queryNft id => exact fun _ _ _ _ run => absurd run (yields_throw _ _ _ _)

end Work

end TokenService
