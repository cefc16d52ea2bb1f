import TokenService.Proofs.Form
import TokenService.Proofs.Ledger.Conservation

set_option autoImplicit false

namespace TokenService

def Ledger.Capped (ledger : Ledger) (kind : TokenType) : Prop :=
  ∀ id row, ledger.tokens.get? id = some row → row.deleted = false → row.type = kind → row.supplyType = .finite →
    row.totalSupply.toInt ≤ row.maxSupply.toInt

structure Ledger.Solvent (ledger : Ledger) : Prop where
  hbar : ∀ id row, ledger.accounts.get? id = some row → 0 ≤ row.balance.toInt
  balances : ∀ account id row, ledger.relationships.get? ⟨account, id⟩ = some row → 0 ≤ row.balance.toInt
  supplies : ∀ id row, ledger.tokens.get? id = some row → 0 ≤ row.totalSupply.toInt
  treasuries : ∀ id row, ledger.tokens.get? id = some row → row.deleted = false → row.type = .fungible →
    ledger.relationships.get? ⟨row.treasury, id⟩ ≠ none

def Deed.Proper : Deed → Prop
  | .create order => order.Proper
  | .moveNft _ move => move.Proper
  | _ => True

theorem quiet_proper (deed : Deed) (quiet : deed.quiet = true) : deed.Proper := by
  cases deed <;> trivial

theorem body_proper (config : Config) (body : Body) (wellFormed : body.check config = .ok ()) (deed : Deed)
    (member : deed ∈ body.deeds) : deed.Proper := by
  cases quiet : body.quiet with
  | true => exact quiet_proper deed (quiet_body body quiet deed member)
  | false =>
      cases body with
      | create order =>
          cases List.mem_singleton.mp member
          exact creation_of_check config order wellFormed
      | transfer hbar tokens =>
          have proper := transfer_of_check hbar tokens wellFormed
          rcases transfer_deed _ _ _ member with ⟨_, _, rfl⟩ | ⟨_, _, _, _, rfl⟩ | ⟨moves, inside, move, entry, rfl⟩
          · trivial
          · trivial
          · exact (proper.proper moves inside).proper move entry
      | dissociate association =>
          obtain ⟨_, _, rfl⟩ := List.mem_map.mp member
          trivial
      | mint | burn | wipe | update =>
          cases List.mem_singleton.mp member
          trivial
      | associate | pause | unpause | approve | revoke | queryToken | queryNft => cases quiet

theorem capped_of_rows (ledger : Ledger) (kind : TokenType)
    (rows : ∀ entry ∈ ledger.tokens.rows, entry.2.deleted = false → entry.2.type = kind →
      entry.2.supplyType = .finite → entry.2.totalSupply.toInt ≤ entry.2.maxSupply.toInt) : ledger.Capped kind :=
  every_row ledger.tokens
    (fun _ row => row.deleted = false → row.type = kind → row.supplyType = .finite →
      row.totalSupply.toInt ≤ row.maxSupply.toInt) rows

section Caps

variable (sender : AccountId) (now : Timestamp) (kind : TokenType)

theorem capped_put_token (before middle : View) (row : Token) (tokens : ∀ id, middle.token id = before.token id)
    (capped : before.merged.Capped kind)
    (under : row.deleted = false → row.type = kind → row.supplyType = .finite →
      row.totalSupply.toInt ≤ row.maxSupply.toInt) : (middle.putToken row).merged.Capped kind := by
  intro id found present
  rw [View.merged_token, View.token_put_token] at present
  by_cases same : id = row.id
  · rw [if_pos same] at present
    cases present
    exact under
  · rw [if_neg same, tokens] at present
    exact capped id found ((View.merged_token _ _).trans present)

theorem taken_nonneg (token : Token) (holder : AccountId) (amount removed : Int64) (serials : List Int64)
    (before after : View) (items : Taken token holder amount serials removed before after) : 0 ≤ removed.toInt := by
  cases items with
  | units view fungible bare positive => omega
  | items nonFungible gone => exact count_nonneg _

theorem retired_capped (before middle : View) (id : TokenId) (token : Token) (holder : AccountId)
    (held : Relationship) (amount removed supply balance : Int64) (serials : List Int64)
    (capped : before.merged.Capped kind) (existing : before.Exists id token)
    (items : Taken token holder amount serials removed before middle)
    (supplied : Shifted token.totalSupply (-removed.toInt) supply) :
    (middle.resupplied token holder held supply token.lastUsedSerial balance).merged.Capped kind := by
  refine capped_put_token kind before _ _ (taken_alike _ _ _ _ _ _ _ items).token capped fun live same finite => ?_
  have under := capped id token ((View.merged_token _ _).trans existing.found) live same finite
  have less := taken_nonneg _ _ _ _ _ _ _ items
  have sum := supplied.sum
  exact (by omega : supply.toInt ≤ token.maxSupply.toInt)

theorem deed_capped (deed : Deed) (proper : deed.Proper) (before after : View) (capped : before.merged.Capped kind)
    (does : deed.Does sender now before after) : after.merged.Capped kind := by
  have had (id : TokenId) (token : Token) (existing : before.Exists id token) (kept : token.type = kind)
      (finite : token.supplyType = .finite) : token.totalSupply.toInt ≤ token.maxSupply.toInt :=
    capped id token ((View.merged_token _ _).trans existing.found) existing.live kept finite
  cases defines : deed.definesToken with
  | false =>
      intro id row found
      rw [View.merged_token, deed_token sender now deed before after defines does, ← View.merged_token] at found
      exact capped id row found
  | true =>
      cases does with
      -- The cap is checked on the supply that is written.
      | mint token held minted last supply balance usable found items supplied within gained =>
          apply capped_put_token kind before _ _ (minted_alike _ _ _ _ _ _ _ items).token capped
          intro _ _ finite
          rcases within with infinite | under
          · exact nomatch infinite.symm.trans finite
          · exact under
      | burn token held removed supply balance usable found items supplied lost =>
          exact retired_capped kind before _ _ token _ held _ removed supply balance _ capped usable.toExists items
            supplied
      | wipe token account held removed supply balance usable lives apart found items supplied lost =>
          exact retired_capped kind before _ _ token _ held _ removed supply balance _ capped usable.toExists items
            supplied
      | setPaused token existing =>
          exact capped_put_token kind before _ _ (fun _ => rfl) capped
            fun _ same finite => had _ token existing same finite
      | create treasury number reserved lives fresh next =>
          exact capped_put_token kind before (before.reserving reserved) _ (fun _ => rfl) capped
            fun _ _ finite => proper.capped finite
      | update token usable handover =>
          exact capped_put_token kind before _ _ (handover_tokens _ _ _ _ handover) capped
            fun _ same finite => had _ token usable.toExists same finite
      | _ => cases defines

end Caps

section Writes

variable (view : View) (solvent : view.merged.Solvent)
include solvent

theorem solvent_balance (account : AccountId) (id : TokenId) (row : Relationship)
    (found : view.relationship account id = some row) : 0 ≤ row.balance.toInt :=
  solvent.balances account id row ((View.merged_relationship _ _ _).trans found)

theorem solvent_treasury (id : TokenId) (row : Token) (found : view.token id = some row) (live : row.deleted = false)
    (fungible : row.type = .fungible) : view.relationship row.treasury id ≠ none := by
  rw [← View.merged_relationship]
  exact solvent.treasuries id row ((View.merged_token _ _).trans found) live fungible

theorem solvent_put_account (row : Account) (floor : 0 ≤ row.balance.toInt) :
    (view.putAccount row).merged.Solvent := by
  refine ⟨fun id found present => ?_, by simpa using solvent.balances, by simpa using solvent.supplies,
    by simpa using solvent.treasuries⟩
  rw [View.merged_account, View.account_put_account] at present
  by_cases same : id = row.id
  · rw [if_pos same] at present
    cases present
    exact floor
  · rw [if_neg same] at present
    exact solvent.hbar id found ((View.merged_account _ _).trans present)

theorem solvent_put_relationship (account : AccountId) (token : TokenId) (row : Relationship)
    (floor : 0 ≤ row.balance.toInt) : (view.putRelationship account token row).merged.Solvent := by
  refine ⟨by simpa using solvent.hbar, fun other id found present => ?_, by simpa using solvent.supplies,
    fun id found present live fungible => ?_⟩
  · rw [View.merged_relationship, View.relationship_put_relationship] at present
    by_cases same : other = account ∧ id = token
    · rw [if_pos same] at present
      cases present
      exact floor
    · rw [if_neg same] at present
      exact solvent_balance view solvent other id found present
  · rw [View.merged_token, View.token_put_relationship] at present
    rw [View.merged_relationship, View.relationship_put_relationship]
    by_cases same : found.treasury = account ∧ id = token
    · rw [if_pos same]
      exact Option.some_ne_none _
    · rw [if_neg same]
      exact solvent_treasury view solvent id found present live fungible

theorem solvent_remove_relationship (account : AccountId) (token : TokenId)
    (apart : ∀ row, view.token token = some row → row.deleted = false → row.treasury ≠ account) :
    (view.removeRelationship account token).merged.Solvent := by
  refine ⟨by simpa using solvent.hbar, fun other id found present => ?_, by simpa using solvent.supplies,
    fun id found present live fungible => ?_⟩
  · rw [View.merged_relationship, View.relationship_remove_relationship] at present
    by_cases same : other = account ∧ id = token
    · rw [if_pos same] at present
      cases present
    · rw [if_neg same] at present
      exact solvent_balance view solvent other id found present
  · rw [View.merged_token, View.token_remove_relationship] at present
    rw [View.merged_relationship, View.relationship_remove_relationship]
    by_cases same : found.treasury = account ∧ id = token
    · obtain ⟨treasury, rfl⟩ := same
      exact absurd treasury (apart found present live)
    · rw [if_neg same]
      exact solvent_treasury view solvent id found present live fungible

theorem solvent_put_token (row : Token) (floor : 0 ≤ row.totalSupply.toInt)
    (treasury : row.deleted = false → row.type = .fungible → view.relationship row.treasury row.id ≠ none) :
    (view.putToken row).merged.Solvent := by
  refine ⟨by simpa using solvent.hbar, by simpa using solvent.balances, fun id found present => ?_,
    fun id found present live fungible => ?_⟩
  · rw [View.merged_token, View.token_put_token] at present
    by_cases same : id = row.id
    · rw [if_pos same] at present
      cases present
      exact floor
    · rw [if_neg same] at present
      exact solvent.supplies id found ((View.merged_token _ _).trans present)
  · rw [View.merged_token, View.token_put_token] at present
    rw [View.merged_relationship, View.relationship_put_token]
    by_cases same : id = row.id
    · rw [if_pos same] at present
      cases present
      rw [same]
      exact treasury live fungible
    · rw [if_neg same] at present
      exact solvent_treasury view solvent id found present live fungible

theorem solvent_put_nft (row : Nft) : (view.putNft row).merged.Solvent :=
  ⟨by simpa using solvent.hbar, by simpa using solvent.balances, by simpa using solvent.supplies,
    by simpa using solvent.treasuries⟩

theorem solvent_alike (after : View) (alike : view.AlikeButNfts after) : after.merged.Solvent := by
  refine ⟨?_, ?_, ?_, ?_⟩
  · rw [alike.accounts]
    exact solvent.hbar
  · rw [alike.relationships]
    exact solvent.balances
  · rw [alike.tokens]
    exact solvent.supplies
  · rw [alike.tokens, alike.relationships]
    exact solvent.treasuries

end Writes

section Deeds

variable (sender : AccountId) (now : Timestamp)

theorem resupplied_solvent (before middle : View) (id : TokenId) (token : Token) (holder : AccountId)
    (held : Relationship) (supply last balance : Int64) (solvent : before.merged.Solvent)
    (alike : before.AlikeButNfts middle) (existing : before.Exists id token) (supplied : 0 ≤ supply.toInt)
    (balanced : 0 ≤ balance.toInt) :
    (middle.resupplied token holder held supply last balance).merged.Solvent := by
  have between := solvent_put_relationship middle (solvent_alike before solvent middle alike) holder token.id
    { held with balance := balance } balanced
  apply solvent_put_token _ between _ supplied
  intro live fungible
  refine solvent_treasury _ between token.id token ?_ live fungible
  rw [View.token_put_relationship, alike.token, existing.own]
  exact existing.found

theorem create_solvent (order : Creation) (proper : order.Proper) (before after : View)
    (solvent : before.merged.Solvent) (does : (Deed.create order).Does sender now before after) :
    after.merged.Solvent := by
  cases does with
  | create treasury number reserved lives fresh next =>
      generalize (⟨order.treasury.shard, order.treasury.realm, number⟩ : TokenId) = id
      have counted : (before.reserving reserved).merged.Solvent :=
        ⟨solvent.hbar, solvent.balances, solvent.supplies, solvent.treasuries⟩
      have held := solvent_put_relationship (before.reserving reserved) counted order.treasury id
        { balance := order.initialSupply, kycGranted := true } proper.floor
      -- The treasury is there as soon as the token is: the two rows may be written either way round.
      apply solvent_put_token _ held (Work.created order id now) proper.floor
      intro _ _
      rw [View.relationship_put_relationship, if_pos ⟨rfl, rfl⟩]
      exact Option.some_ne_none _

theorem update_solvent (order : Update) (before after : View) (solvent : before.merged.Solvent)
    (does : (Deed.update order).Does sender now before after) : after.merged.Solvent := by
  cases does with
  | @update _ _ middle token usable handover =>
      have supplied := solvent.supplies _ token ((View.merged_token _ _).trans usable.found)
      have own := usable.own
      have old (live : token.deleted = false) (fungible : token.type = .fungible) :
          before.relationship token.treasury token.id ≠ none := by
        rw [own]
        exact solvent_treasury before solvent _ token usable.found live fungible
      -- The new treasury is the one to look for afterwards, whichever way the units went.
      generalize given : order.treasury.getD token.treasury = successor at handover
      have treasury : (Work.revised order token).treasury = successor := given
      cases handover with
      | stay same =>
          refine solvent_put_token _ solvent _ supplied fun live fungible => ?_
          rw [treasury, same]
          exact old live fungible
      | units account incoming outgoing balance apart fungible lives trades found sum =>
          have emptied := solvent_put_relationship before solvent token.treasury token.id
            { outgoing with balance := 0 } (Int.le_refl 0)
          have filled := solvent_put_relationship _ emptied successor token.id { incoming with balance := balance }
            sum.floor
          refine solvent_put_token _ filled _ supplied fun live fungible => ?_
          rw [treasury, View.relationship_put_relationship, if_pos ⟨rfl, rfl⟩]
          exact Option.some_ne_none _
      | items account incoming apart nonFungible lives trades =>
          refine solvent_put_token _ solvent _ supplied fun live fungible => ?_
          exact nomatch nonFungible.symm.trans fungible

theorem deed_solvent (deed : Deed) (proper : deed.Proper) (before after : View) (rooted : before.merged.Rooted)
    (solvent : before.merged.Solvent) (does : deed.Does sender now before after) : after.merged.Solvent := by
  have purse (id : AccountId) (row : Account) (lives : before.Lives id row) : 0 ≤ row.balance.toInt :=
    solvent.hbar id row ((View.merged_account _ _).trans lives.found)
  cases does with
  | associate => exact solvent_put_relationship _ solvent _ _ _ (Int.le_refl 0)
  -- The treasury of a live token cannot give its relationship up.
  | dissociate held found released =>
      exact solvent_remove_relationship _ solvent _ _ fun row present live =>
        (released row ⟨present, View.rooted_token _ _ rooted row present, live⟩).1
  | mint token held minted last supply balance usable found items supplied capped gained =>
      exact resupplied_solvent _ _ _ token _ _ _ _ _ solvent (minted_alike _ _ _ _ _ _ _ items) usable.toExists
        supplied.floor gained.floor
  | burn token held removed supply balance usable found items supplied lost =>
      exact resupplied_solvent _ _ _ token _ _ _ _ _ solvent (taken_alike _ _ _ _ _ _ _ items) usable.toExists
        supplied.floor lost.floor
  | wipe token account held removed supply balance usable lives apart found items supplied lost =>
      exact resupplied_solvent _ _ _ token _ _ _ _ _ solvent (taken_alike _ _ _ _ _ _ _ items) usable.toExists
        supplied.floor lost.floor
  | @setPaused paused id _ token existing =>
      refine solvent_put_token _ solvent _ ?_ fun live fungible => ?_
      · exact solvent.supplies id token ((View.merged_token _ _).trans existing.found)
      · have there := solvent_treasury _ solvent id token existing.found live fungible
        rwa [← existing.own] at there
  | create treasury number reserved lives fresh next =>
      exact create_solvent sender now _ proper _ _ solvent (.create treasury number reserved lives fresh next)
  | update token usable handover =>
      exact update_solvent sender now _ _ _ solvent (.update token usable handover)
  | adjustHbar account allowances balance lives drawn sum => exact solvent_put_account _ solvent _ sum.floor
  | adjustUnits token owner held balance usable fungible lives trades kept sum =>
      exact solvent_put_relationship _ solvent _ _ _ sum.floor
  | drawUnits token owner held allowances balance usable fungible lives trades draws drawn sum =>
      have lent := solvent_put_account before solvent { owner with tokenAllowances := allowances } (purse _ owner lives)
      exact solvent_put_relationship _ lent _ _ _ sum.floor
  | moveNft token nft receiver source target left gained usable nonFungible found own owned approved lives sends
      receives loss gain =>
      exact solvent_put_nft _ (solvent_put_relationship _ (solvent_put_relationship _ solvent _ _ _ loss.floor) _ _ _
        gain.floor) _
  | grantHbar owner spender lives => exact solvent_put_account _ solvent _ (purse _ owner lives)
  | grantUnits owner token held lives => exact solvent_put_account _ solvent _ (purse _ owner lives)
  | setOperator owner token held lives => exact solvent_put_account _ solvent _ (purse _ owner lives)
  | lendNft => exact solvent_put_nft _ solvent _
  | clearSpender => exact solvent_put_nft _ solvent _

end Deeds

end TokenService
