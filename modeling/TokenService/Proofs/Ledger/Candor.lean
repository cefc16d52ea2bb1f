import TokenService.Authority
import TokenService.Ledger.Answer
import TokenService.Ledger.Rules
import TokenService.Proofs.Ledger.Yields
import TokenService.WellFormed

set_option autoImplicit false

namespace TokenService

def Candid {α : Type} (answer : Except Status α) : Prop := answer ≠ .error .success

section Answers

variable {α β : Type}

theorem candid_ok (value : α) : Candid (.ok value : Except Status α) := fun same => nomatch same

theorem candid_error (status : Status) (named : status ≠ .success) : Candid (.error status : Except Status α) := by
  intro same
  cases same
  exact named rfl

theorem candid_bind (answer : Except Status α) (next : α → Except Status β) (first : Candid answer)
    (rest : ∀ value, Candid (next value)) : Candid (answer >>= next) := by
  cases answer with
  | ok value => exact rest value
  | error status =>
      intro same
      cases same
      exact first rfl

theorem candid_discard (answer : Except Status α) (candid : Candid answer) :
    Candid (discard answer : Except Status PUnit) := by
  cases answer with
  | ok value => exact candid_ok _
  | error status =>
      intro same
      cases same
      exact candid rfl

theorem candid_require (rule : Bool) (status : Status) (named : status ≠ .success) :
    Candid (require rule status) := by
  unfold require
  split
  · exact candid_ok ()
  · exact candid_error status named

theorem candid_demand (row : Option α) (missing : Status) (named : missing ≠ .success) :
    Candid (View.demand row missing) := by
  cases row with
  | none => exact candid_error missing named
  | some row => exact candid_ok row

end Answers

section Form

theorem association_check_candid (association : Association) : Candid association.check :=
  candid_bind _ _ (candid_require _ _ (by decide)) fun _ => candid_require _ _ (by decide)

theorem supply_change_candid (amount : Int64) (singles : Nat) (negative : Status) (named : negative ≠ .success) :
    Candid (checkSupplyChange amount singles negative) :=
  candid_bind _ _ (candid_require _ _ named) fun _ => candid_require _ _ (by decide)

theorem mint_check_candid (order : Mint) : Candid order.check :=
  candid_bind _ _ (supply_change_candid _ _ _ (by decide)) fun _ => candid_require _ _ (by decide)

theorem burn_check_candid (order : Burn) : Candid order.check :=
  candid_bind _ _ (supply_change_candid _ _ _ (by decide)) fun _ => candid_require _ _ (by decide)

theorem wipe_check_candid (order : Wipe) : Candid order.check :=
  candid_bind _ _ (candid_require _ _ (by decide)) fun _ =>
    candid_bind _ _ (supply_change_candid _ _ _ (by decide)) fun _ => candid_require _ _ (by decide)

theorem names_candid (config : Config) (name symbol : String) : Candid (config.checkNames name symbol) :=
  candid_bind _ _ (candid_require _ _ (by decide)) fun _ => candid_require _ _ (by decide)

theorem creation_check_candid (config : Config) (order : Creation) : Candid (order.check config) := by
  unfold Creation.check
  refine candid_bind _ _ (candid_require _ _ (by decide)) fun _ => ?_
  refine candid_bind _ _ (candid_require _ _ (by decide)) fun _ => ?_
  refine candid_bind _ _ (names_candid _ _ _) fun _ => ?_
  refine candid_bind _ _ (candid_require _ _ (by decide)) fun _ => ?_
  refine candid_bind _ _ (candid_require _ _ (by decide)) fun _ => ?_
  refine candid_bind _ _ (candid_require _ _ (by decide)) fun _ => ?_
  refine candid_bind _ _ (candid_require _ _ (by decide)) fun _ => ?_
  refine candid_bind _ _ (candid_require _ _ (by decide)) fun _ => ?_
  exact candid_require _ _ (by decide)

theorem update_check_candid (config : Config) (order : Update) : Candid (order.check config) :=
  candid_bind _ _ (candid_require _ _ (by decide)) fun _ => names_candid _ _ _

theorem sum_adjustments_candid (earlier : List AccountId) (net : Int) (adjustments : List Adjustment) :
    Candid (sumAdjustments earlier net adjustments) := by
  induction adjustments generalizing earlier net with
  | nil => exact candid_ok net
  | cons adjustment rest ih => exact candid_bind _ _ (candid_require _ _ (by decide)) fun _ => ih _ _

theorem adjustments_candid (adjustments : List Adjustment) (unbalanced : Status) (named : unbalanced ≠ .success) :
    Candid (checkAdjustments adjustments unbalanced) :=
  candid_bind _ _ (sum_adjustments_candid _ _ _) fun _ => candid_require _ _ named

theorem nft_moves_candid (earlier : List Int64) (moves : List NftMove) : Candid (checkNftMoves earlier moves) := by
  induction moves generalizing earlier with
  | nil => exact candid_ok ()
  | cons move rest ih =>
      refine candid_bind _ _ (candid_require _ _ (by decide)) fun _ => ?_
      refine candid_bind _ _ (candid_require _ _ (by decide)) fun _ => ?_
      refine candid_bind _ _ (candid_require _ _ (by decide)) fun _ => ?_
      exact ih _

theorem token_moves_candid (earlier : List TokenId) (tokens : List TokenMoves) :
    Candid (checkTokenMoves earlier tokens) := by
  induction tokens generalizing earlier with
  | nil => exact candid_ok ()
  | cons moves rest ih =>
      refine candid_bind _ _ (candid_require _ _ (by decide)) fun _ => ?_
      refine candid_bind _ _ (candid_require _ _ (by decide)) fun _ => ?_
      refine candid_bind _ _ (adjustments_candid _ _ (by decide)) fun _ => ?_
      refine candid_bind _ _ (nft_moves_candid _ _) fun _ => ?_
      exact ih _

theorem body_check_candid (config : Config) (body : Body) : Candid (body.check config) := by
  cases body with
  | associate association => exact association_check_candid association
  | dissociate association => exact association_check_candid association
  | mint order => exact mint_check_candid order
  | burn order => exact burn_check_candid order
  | wipe order => exact wipe_check_candid order
  | pause token => exact candid_require _ _ (by decide)
  | unpause token => exact candid_require _ _ (by decide)
  | create order => exact creation_check_candid config order
  | update order => exact update_check_candid config order
  | transfer hbar tokens =>
      refine candid_bind _ _ (candid_require _ _ (by decide)) fun _ => ?_
      exact candid_bind _ _ (adjustments_candid _ _ (by decide)) fun _ => token_moves_candid _ _
  | approve | revoke | queryToken | queryNft => exact candid_ok ()

end Form

section Consent

theorem denial_named (kind : KeyKind) : kind.denial ≠ .success := by
  cases kind <;> decide

theorem missing_named (kind : KeyKind) : kind.missing ≠ .success := by
  cases kind <;> decide

theorem authorize_candid (authority : Authority) (view : Option View) (kind : KeyKind) (subject : Subject)
    (fault : AuthorityFault) (faulty : authority.authorize view kind subject = .error fault) :
    fault.status ≠ .success := by
  unfold Authority.authorize at faulty
  cases view with
  | none =>
      cases faulty
      decide
  | some view =>
      cases subject with
      | account id =>
          simp only at faulty
          split at faulty
          · cases faulty
          · split at faulty
            · cases faulty
              decide
            · cases faulty
      | token id =>
          simp only at faulty
          split at faulty
          · cases faulty
            decide
          · split at faulty
            · cases faulty
              exact missing_named kind
            · cases faulty

theorem check_one_candid (authority : Authority) (view : Option View) (requirement : Requirement) :
    Candid (authority.checkOne view requirement) := by
  cases requirement with
  | explicit key =>
      simp only [Authority.checkOne]
      split
      · exact candid_ok ()
      · exact candid_error _ (by decide)
  | ledger kind subject =>
      simp only [Authority.checkOne]
      cases answer : authority.authorize view kind subject with
      | ok given =>
          cases given with
          | true => exact candid_ok ()
          | false => exact candid_error _ (denial_named kind)
      | error fault => exact candid_error _ (authorize_candid _ _ _ _ _ answer)

theorem check_candid (authority : Authority) (view : Option View) (body : Body) (sender : AccountId) :
    Candid (authority.check view body sender) := by
  unfold Authority.check
  induction body.requirements sender with
  | nil => exact candid_ok ()
  | cons requirement rest ih => exact candid_bind _ _ (check_one_candid _ _ _) fun _ => ih

end Consent

namespace View

variable (view : View)

theorem known_token_candid (id : TokenId) : Candid (view.knownToken id) := candid_demand _ _ (by decide)

theorem known_nft_candid (id : NftId) : Candid (view.knownNft id) := candid_demand _ _ (by decide)

theorem answer_candid (query : Query) : Candid (view.answer query) := by
  have known : ∀ (id : TokenId) (next : Token → Except Status Answer), (∀ token, Candid (next token)) →
      Candid (view.knownToken id >>= next) := fun id next rest => candid_bind _ _ (known_token_candid view id) rest
  cases query with
  | info | fungibleInfo | key | customFees | expiry | type | name | symbol | decimals | totalSupply =>
      exact known _ _ fun _ => candid_ok _
  | isToken | tokenUri => exact candid_ok _
  | nftInfo id =>
      exact known _ _ fun token => candid_bind _ _ (known_nft_candid view id) fun nft => candid_ok _
  | balanceOf | isApprovedForAll =>
      exact candid_bind _ _ (candid_discard _ (known_token_candid view _)) fun _ => candid_ok _
  | ownerOf id =>
      refine candid_bind _ _ (known_nft_candid view id) fun nft => ?_
      split
      · exact known _ _ fun _ => candid_ok _
      · exact candid_ok _
  | allowance token owner spender =>
      refine candid_bind _ _ (candid_discard _ (known_token_candid view token)) fun _ => ?_
      exact candid_bind _ _ (candid_demand _ _ (by decide)) fun _ => candid_ok _
  | getApproved id => exact candid_bind _ _ (known_nft_candid view id) fun nft => candid_ok _

theorem live_account_candid (id : AccountId) : Candid (view.liveAccount id) := by
  refine candid_bind _ _ (candid_demand _ _ (by decide)) fun account => ?_
  split
  · exact candid_error _ (by decide)
  · exact candid_ok _

theorem existing_token_candid (id : TokenId) : Candid (view.existingToken id) := by
  refine candid_bind _ _ (candid_demand _ _ (by decide)) fun token => ?_
  split
  · exact candid_error _ (by decide)
  · exact candid_ok _

theorem usable_token_candid (id : TokenId) : Candid (view.usableToken id) := by
  refine candid_bind _ _ (existing_token_candid view id) fun token => ?_
  split
  · exact candid_error _ (by decide)
  · exact candid_ok _

theorem present_relationship_candid (account : AccountId) (token : TokenId) :
    Candid (view.presentRelationship account token) := candid_demand _ _ (by decide)

theorem usable_relationship_candid (account : AccountId) (token : TokenId) :
    Candid (view.usableRelationship account token) := by
  refine candid_bind _ _ (present_relationship_candid view account token) fun row => ?_
  split
  · exact candid_error _ (by decide)
  · split
    · exact candid_error _ (by decide)
    · exact candid_ok _

end View

namespace Work

def Candid {α : Type} (work : Work α) : Prop := ∀ before, (work before).1 ≠ .error (.status .success)

section Laws

variable {α β : Type}

theorem bind_candid (work : Work α) (next : α → Work β) (first : work.Candid) (rest : ∀ value, (next value).Candid) :
    (work >>= next).Candid := by
  intro before
  have start := first before
  rw [run_bind]
  cases run : work before with
  | mk result between =>
      cases result with
      | ok value => exact rest value between
      | error failure =>
          rw [run] at start
          intro same
          cases same
          exact start rfl

theorem pure_candid (value : α) : (pure value : Work α).Candid := fun _ same => nomatch same

theorem get_candid : (get : Work View).Candid := fun _ same => nomatch same

theorem set_candid (view : View) : (set view : Work PUnit).Candid := fun _ same => nomatch same

theorem change_candid (step : View → View) : (change step).Candid := fun _ same => nomatch same

theorem refuse_candid (status : Status) (named : status ≠ .success) : (refuse status : Work α).Candid := by
  intro _ same
  cases same
  exact named rfl

theorem require_candid (rule : Bool) (status : Status) (named : status ≠ .success) :
    (require rule status).Candid := by
  cases rule with
  | true => exact pure_candid ()
  | false => exact refuse_candid status named

theorem read_candid (look : View → Except Status α) (named : ∀ view, TokenService.Candid (look view)) :
    (read look).Candid := by
  refine bind_candid _ _ get_candid fun view => ?_
  have candid := named view
  cases answer : look view with
  | ok value => exact pure_candid value
  | error status =>
      refine refuse_candid status fun same => candid ?_
      rw [answer, same]

theorem discard_candid (work : Work α) (candid : work.Candid) : (discard work : Work PUnit).Candid :=
  bind_candid work (fun _ => pure PUnit.unit) candid fun _ => pure_candid PUnit.unit

theorem exact_candid (result : Except Overflow α) : (exact result).Candid := by
  cases result with
  | ok value => exact pure_candid value
  | error operation => exact fun _ same => nomatch same

theorem adjusted_candid (balance delta : Int64) (insufficient : Status) (named : insufficient ≠ .success) :
    (adjusted balance delta insufficient).Candid := by
  unfold adjusted
  split
  · split
    · exact pure_candid _
    · exact refuse_candid _ named
  · exact refuse_candid _ named

theorem for_candid (items : List α) (step : α → Work PUnit) (each : ∀ item, (step item).Candid) :
    (items.forM step).Candid := by
  induction items with
  | nil => exact pure_candid _
  | cons item rest ih => exact bind_candid _ _ (each item) fun _ => ih

theorem completed_candid (work : Work Unit) (candid : work.Candid) : (completed work).Candid :=
  bind_candid _ _ candid fun _ => pure_candid _

end Laws

section Rules

open View

theorem associate_candid (association : Association) : (associate association).Candid := by
  refine bind_candid _ _ (discard_candid _ (read_candid _ fun view => live_account_candid view _)) fun _ => ?_
  refine for_candid _ _ fun id => ?_
  refine bind_candid _ _ (read_candid _ fun view => existing_token_candid view id) fun token => ?_
  refine bind_candid _ _ get_candid fun view => ?_
  exact bind_candid _ _ (require_candid _ _ (by decide)) fun _ => change_candid _

theorem check_release_candid (account : AccountId) (held : Relationship) (token : Except Status Token) :
    (checkRelease account held token).Candid := by
  cases token with
  | error status => exact pure_candid ()
  | ok token => exact bind_candid _ _ (require_candid _ _ (by decide)) fun _ => require_candid _ _ (by decide)

theorem dissociate_candid (association : Association) : (dissociate association).Candid := by
  refine bind_candid _ _ (discard_candid _ (read_candid _ fun view => live_account_candid view _)) fun _ => ?_
  refine for_candid _ _ fun id => ?_
  refine bind_candid _ _ (read_candid _ fun view => present_relationship_candid view _ _) fun held => ?_
  refine bind_candid _ _ get_candid fun view => ?_
  exact bind_candid _ _ (check_release_candid _ _ _) fun _ => change_candid _

theorem set_paused_candid (paused : Bool) (id : TokenId) : (setPaused paused id).Candid :=
  bind_candid _ _ (read_candid _ fun view => existing_token_candid view id) fun _ => change_candid _

theorem mint_nfts_candid (token : Token) (now : Timestamp) (last : Int64) (metadata : List Bytes) :
    (mintNfts token now last metadata).Candid := by
  induction metadata generalizing last with
  | nil => exact pure_candid _
  | cons entry rest ih =>
      refine bind_candid _ _ (exact_candid _) fun serial => ?_
      refine bind_candid _ _ (change_candid _) fun _ => ?_
      exact bind_candid _ _ (ih serial) fun _ => pure_candid _

theorem mint_items_candid (token : Token) (order : Mint) (now : Timestamp) : (mintItems token order now).Candid := by
  unfold mintItems
  cases token.type with
  | fungible => exact bind_candid _ _ (require_candid _ _ (by decide)) fun _ => pure_candid _
  | nonFungible =>
      refine bind_candid _ _ (require_candid _ _ (by decide)) fun _ => ?_
      exact bind_candid _ _ (mint_nfts_candid _ _ _ _) fun _ => pure_candid _

theorem mint_candid (order : Mint) (now : Timestamp) : (mint order now).Candid := by
  refine bind_candid _ _ (read_candid _ fun view => usable_token_candid view _) fun token => ?_
  refine bind_candid _ _ (read_candid _ fun view => present_relationship_candid view _ _) fun held => ?_
  refine bind_candid _ _ (mint_items_candid _ _ _) fun items => ?_
  refine bind_candid _ _ (adjusted_candid _ _ _ (by decide)) fun supply => ?_
  refine bind_candid _ _ (require_candid _ _ (by decide)) fun _ => ?_
  refine bind_candid _ _ (adjusted_candid _ _ _ (by decide)) fun balance => ?_
  refine bind_candid _ _ (change_candid _) fun _ => ?_
  exact bind_candid _ _ (change_candid _) fun _ => pure_candid _

theorem retire_items_candid (token : Token) (holder : AccountId) (amount : Int64) (serials : List Int64)
    (invalid : Status) (named : invalid ≠ .success) : (retireItems token holder amount serials invalid).Candid := by
  unfold retireItems
  cases token.type with
  | fungible => exact bind_candid _ _ (require_candid _ _ named) fun _ => pure_candid _
  | nonFungible =>
      refine bind_candid _ _ (require_candid _ _ named) fun _ => ?_
      refine bind_candid _ _ (for_candid _ _ fun serial => ?_) fun _ => pure_candid _
      refine bind_candid _ _ get_candid fun view => ?_
      exact bind_candid _ _ (require_candid _ _ (by decide)) fun _ => change_candid _

theorem retire_candid (token : Token) (holder : AccountId) (held : Relationship) (amount : Int64)
    (serials : List Int64) (invalid insufficient : Status) (named : invalid ≠ .success)
    (known : insufficient ≠ .success) :
    (retire token holder held amount serials invalid insufficient).Candid := by
  refine bind_candid _ _ (retire_items_candid _ _ _ _ _ named) fun removed => ?_
  refine bind_candid _ _ (exact_candid _) fun loss => ?_
  refine bind_candid _ _ (adjusted_candid _ _ _ known) fun balance => ?_
  refine bind_candid _ _ (adjusted_candid _ _ _ named) fun supply => ?_
  refine bind_candid _ _ (change_candid _) fun _ => ?_
  exact bind_candid _ _ (change_candid _) fun _ => pure_candid _

theorem burn_candid (order : Burn) : (burn order).Candid := by
  refine bind_candid _ _ (read_candid _ fun view => usable_token_candid view _) fun token => ?_
  refine bind_candid _ _ (read_candid _ fun view => present_relationship_candid view _ _) fun held => ?_
  exact retire_candid _ _ _ _ _ _ _ (by decide) (by decide)

theorem wipe_candid (order : Wipe) : (wipe order).Candid := by
  refine bind_candid _ _ (read_candid _ fun view => usable_token_candid view _) fun token => ?_
  refine bind_candid _ _ (discard_candid _ (read_candid _ fun view => live_account_candid view _)) fun _ => ?_
  refine bind_candid _ _ (require_candid _ _ (by decide)) fun _ => ?_
  refine bind_candid _ _ (read_candid _ fun view => present_relationship_candid view _ _) fun held => ?_
  exact retire_candid _ _ _ _ _ _ _ (by decide) (by decide)

theorem check_renewer_candid (renewer : Option AccountId) : (checkRenewer renewer).Candid := by
  cases renewer with
  | none => exact pure_candid ()
  | some account => exact discard_candid _ (read_candid _ fun view => live_account_candid view account)

theorem create_candid (order : Creation) (now : Timestamp) : (create order now).Candid := by
  have found : ∀ view : View, TokenService.Candid
      ((view.liveAccount order.treasury).mapError fun _ => Status.invalidTreasuryAccountForToken) := by
    intro view
    cases view.liveAccount order.treasury with
    | ok row => exact candid_ok row
    | error status => exact candid_error .invalidTreasuryAccountForToken (by decide)
  refine bind_candid _ _ (read_candid _ found) fun treasury => ?_
  refine bind_candid _ _ (check_renewer_candid _) fun _ => ?_
  refine bind_candid _ _ (require_candid _ _ (by decide)) fun _ => ?_
  refine bind_candid _ _ ?_ fun number => ?_
  · refine bind_candid _ _ get_candid fun view => ?_
    refine bind_candid _ _ (exact_candid _) fun given => ?_
    exact bind_candid _ _ (set_candid _) fun _ => pure_candid _
  · refine bind_candid _ _ (change_candid _) fun _ => ?_
    exact bind_candid _ _ (change_candid _) fun _ => pure_candid _

theorem move_supply_candid (token : Token) (successor : AccountId) (incoming : Relationship) :
    (moveSupply token successor incoming).Candid := by
  unfold moveSupply
  cases token.type with
  | nonFungible => exact pure_candid ()
  | fungible =>
      refine bind_candid _ _ (read_candid _ fun view => present_relationship_candid view _ _) fun outgoing => ?_
      refine bind_candid _ _ (adjusted_candid _ _ _ (by decide)) fun balance => ?_
      exact bind_candid _ _ (change_candid _) fun _ => change_candid _

theorem move_treasury_candid (token : Token) (successor : AccountId) : (moveTreasury token successor).Candid := by
  unfold moveTreasury
  split
  · exact pure_candid ()
  · refine bind_candid _ _ (discard_candid _ (read_candid _ fun view => live_account_candid view _)) fun _ => ?_
    refine bind_candid _ _ (read_candid _ fun view => usable_relationship_candid view _ _) fun incoming => ?_
    exact move_supply_candid _ _ _

theorem update_candid (order : Update) : (update order).Candid := by
  refine bind_candid _ _ (read_candid _ fun view => usable_token_candid view _) fun token => ?_
  refine bind_candid _ _ (move_treasury_candid _ _) fun _ => ?_
  exact bind_candid _ _ (check_renewer_candid _) fun _ => change_candid _

theorem draw_candid {κ : Type} [Ord κ] [Std.TransOrd κ] [Std.LawfulEqOrd κ] (allowances : Table κ Int64) (key : κ)
    (debit : Int64) : (draw allowances key debit).Candid := by
  refine bind_candid _ _ (exact_candid _) fun amount => ?_
  cases allowances.get? key with
  | none => exact refuse_candid _ (by decide)
  | some granted =>
      refine bind_candid _ _ (require_candid _ _ (by decide)) fun _ => ?_
      split
      · exact pure_candid _
      · exact bind_candid _ _ (exact_candid _) fun rest => pure_candid _

theorem adjust_hbar_candid (spender : AccountId) (adjustment : Adjustment) :
    (adjustHbar spender adjustment).Candid := by
  refine bind_candid _ _ (read_candid _ fun view => live_account_candid view _) fun account => ?_
  refine bind_candid _ _ ?_ fun allowances => ?_
  · unfold drawn
    split
    · exact draw_candid _ _ _
    · exact pure_candid _
  · exact bind_candid _ _ (adjusted_candid _ _ _ (by decide)) fun balance => change_candid _

theorem adjust_units_candid (spender : AccountId) (token : TokenId) (adjustment : Adjustment) :
    (adjustUnits spender token adjustment).Candid := by
  refine bind_candid _ _ (read_candid _ fun view => live_account_candid view _) fun owner => ?_
  refine bind_candid _ _ (read_candid _ fun view => usable_relationship_candid view _ _) fun held => ?_
  refine bind_candid _ _ ?_ fun _ => ?_
  · unfold drawUnits
    split
    · exact bind_candid _ _ (draw_candid _ _ _) fun allowances => change_candid _
    · exact pure_candid _
  · exact bind_candid _ _ (adjusted_candid _ _ _ (by decide)) fun balance => change_candid _

theorem move_nft_candid (spender : AccountId) (token : TokenId) (move : NftMove) :
    (moveNft spender token move).Candid := by
  refine bind_candid _ _ (read_candid _ fun view => candid_demand _ _ (by decide)) fun nft => ?_
  refine bind_candid _ _ (require_candid _ _ (by decide)) fun _ => ?_
  refine bind_candid _ _ ?_ fun _ => ?_
  · unfold checkApproval
    split
    · refine bind_candid _ _ (read_candid _ fun view => live_account_candid view _) fun owner => ?_
      exact require_candid _ _ (by decide)
    · exact pure_candid _
  · refine bind_candid _ _ (discard_candid _ (read_candid _ fun view => live_account_candid view _)) fun _ => ?_
    refine bind_candid _ _ (read_candid _ fun view => usable_relationship_candid view _ _) fun source => ?_
    refine bind_candid _ _ (read_candid _ fun view => usable_relationship_candid view _ _) fun target => ?_
    refine bind_candid _ _ (adjusted_candid _ _ _ (by decide)) fun left => ?_
    refine bind_candid _ _ (adjusted_candid _ _ _ (by decide)) fun gained => ?_
    refine bind_candid _ _ (change_candid _) fun _ => ?_
    exact bind_candid _ _ (change_candid _) fun _ => change_candid _

theorem transfer_candid (hbar : List Adjustment) (tokens : List TokenMoves) (spender : AccountId) :
    (transfer hbar tokens spender).Candid := by
  refine bind_candid _ _ (for_candid _ _ fun adjustment => adjust_hbar_candid _ _) fun _ => ?_
  refine for_candid _ _ fun moves => ?_
  refine bind_candid _ _ (read_candid _ fun view => usable_token_candid view _) fun token => ?_
  refine bind_candid _ _ ?_ fun _ => ?_
  · unfold checkKind
    split <;> exact require_candid _ _ (by decide)
  · refine bind_candid _ _ (for_candid _ _ fun adjustment => adjust_units_candid _ _ _) fun _ => ?_
    exact for_candid _ _ fun move => move_nft_candid _ _ _

theorem grant_hbar_candid (grant : HbarGrant) : (grantHbar grant).Candid := by
  refine bind_candid _ _ (read_candid _ fun view => live_account_candid view _) fun owner => ?_
  refine bind_candid _ _ (discard_candid _ (read_candid _ fun view => live_account_candid view _)) fun _ => ?_
  exact change_candid _

theorem grant_units_candid (grant : UnitGrant) : (grantUnits grant).Candid := by
  refine bind_candid _ _ (read_candid _ fun view => live_account_candid view _) fun owner => ?_
  refine bind_candid _ _ (read_candid _ fun view => usable_token_candid view _) fun token => ?_
  refine bind_candid _ _ (require_candid _ _ (by decide)) fun _ => ?_
  refine bind_candid _ _ (discard_candid _ (read_candid _ fun view => present_relationship_candid view _ _)) fun _ => ?_
  exact change_candid _

theorem check_delegate_candid (owner : Account) (token : TokenId) (delegating : Option AccountId) :
    (checkDelegate owner token delegating).Candid := by
  cases delegating with
  | none => exact pure_candid ()
  | some delegate => exact require_candid _ _ (by decide)

theorem grant_nfts_candid (grant : NftGrant) : (grantNfts grant).Candid := by
  refine bind_candid _ _ (read_candid _ fun view => live_account_candid view _) fun owner => ?_
  refine bind_candid _ _ (read_candid _ fun view => usable_token_candid view _) fun token => ?_
  refine bind_candid _ _ (require_candid _ _ (by decide)) fun _ => ?_
  refine bind_candid _ _ (discard_candid _ (read_candid _ fun view => present_relationship_candid view _ _)) fun _ => ?_
  refine bind_candid _ _ (check_delegate_candid _ _ _) fun _ => ?_
  refine bind_candid _ _ (for_candid _ _ fun serial => ?_) fun _ => change_candid _
  refine bind_candid _ _ (read_candid _ fun view => candid_demand _ _ (by decide)) fun nft => ?_
  exact bind_candid _ _ (require_candid _ _ (by decide)) fun _ => change_candid _

theorem revoke_one_candid (payer : AccountId) (revocation : NftRevocation) : (revokeOne payer revocation).Candid := by
  refine bind_candid _ _ (read_candid _ fun view => usable_token_candid view _) fun token => ?_
  refine bind_candid _ _ ?_ fun _ => ?_
  · unfold checkPayer
    split
    · exact pure_candid _
    · refine bind_candid _ _ (read_candid _ fun view => live_account_candid view _) fun owner => ?_
      exact require_candid _ _ (by decide)
  · refine for_candid _ _ fun serial => ?_
    refine bind_candid _ _ (read_candid _ fun view => candid_demand _ _ (by decide)) fun nft => ?_
    exact bind_candid _ _ (require_candid _ _ (by decide)) fun _ => change_candid _

theorem execute_candid (body : Body) (sender : AccountId) (now : Timestamp) : (execute body sender now).Candid := by
  cases body with
  | associate association => exact completed_candid _ (associate_candid association)
  | dissociate association => exact completed_candid _ (dissociate_candid association)
  | mint order => exact mint_candid order now
  | burn order => exact burn_candid order
  | wipe order => exact wipe_candid order
  | pause token => exact completed_candid _ (set_paused_candid true token)
  | unpause token => exact completed_candid _ (set_paused_candid false token)
  | create order => exact create_candid order now
  | update order => exact completed_candid _ (update_candid order)
  | transfer hbar tokens => exact completed_candid _ (transfer_candid hbar tokens sender)
  | approve hbar units nfts =>
      refine completed_candid _ (bind_candid _ _ (for_candid _ _ grant_hbar_candid) fun _ => ?_)
      exact bind_candid _ _ (for_candid _ _ grant_units_candid) fun _ => for_candid _ _ grant_nfts_candid
  | revoke revocations => exact completed_candid _ (for_candid _ _ (revoke_one_candid sender))
  | queryToken | queryNft => exact fun _ same => nomatch same

end Rules

end Work

end TokenService
