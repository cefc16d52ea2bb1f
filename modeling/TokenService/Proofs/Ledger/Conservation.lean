import TokenService.Proofs.Ledger.Losses
import TokenService.Proofs.Ledger.Sums

set_option autoImplicit false

namespace TokenService

def Token.outstanding (token : Token) : Option Int :=
  if token.deleted = false ∧ token.type = .fungible then some token.totalSupply.toInt else none

def Ledger.outstanding (ledger : Ledger) (id : TokenId) : Option Int :=
  ((ledger.tokens.get? id).map Token.outstanding).getD none

def Ledger.surplus (ledger : Ledger) (id : TokenId) : Int :=
  match ledger.outstanding id with
  | some supply => ledger.unitsHeld id - supply
  | none => 0

def Deed.hbarGain : Deed → Int
  | .adjustHbar adjustment => adjustment.amount.toInt
  | _ => 0

-- By how much a deed moves the units of a token that all accounts hold together, beyond its
-- supply.
def Deed.unitGain (id : TokenId) : Deed → Int
  | .adjustUnits token adjustment => if token = id then adjustment.amount.toInt else 0
  | _ => 0

def netGain (gain : Deed → Int) : List Deed → Int
  | [] => 0
  | deed :: rest => gain deed + netGain gain rest

namespace Deeds

variable {sender : AccountId} {now : Timestamp}

-- What every deed moves by its gain, all of them move by the sum of the gains.
theorem sums (look : View → Int) (gain : Deed → Int) (Keep : View → Prop) (deeds : List Deed) (before after : View)
    (kept : ∀ deed ∈ deeds, ∀ first next, deed.Does sender now first next → Keep first → Keep next)
    (moved : ∀ deed ∈ deeds, ∀ first next, deed.Does sender now first next → Keep first →
      look next = look first + gain deed)
    (done : Deeds sender now deeds before after) (start : Keep before) :
    look after = look before + netGain gain deeds := by
  induction done with
  | nil view => exact (Int.add_zero _).symm
  | @cons deed rest first middle last does others ih =>
      have between := kept deed List.mem_cons_self _ _ does start
      have later := ih (fun other member => kept other (List.mem_cons_of_mem _ member))
        (fun other member => moved other (List.mem_cons_of_mem _ member)) between
      have here := moved deed List.mem_cons_self _ _ does start
      rw [netGain]
      omega

end Deeds

section Hbar

variable (sender : AccountId) (now : Timestamp)

theorem hbar_total_alike (before after : View) (same : after.merged.accounts = before.merged.accounts) :
    after.merged.hbarTotal = before.merged.hbarTotal := by
  unfold Ledger.hbarTotal
  rw [same]

theorem hbar_total_put (view : View) (id : AccountId) (account row : Account) (lives : view.Lives id account)
    (own : row.id = account.id) : (view.putAccount row).merged.hbarTotal =
      view.merged.hbarTotal + row.balance.toInt - account.balance.toInt := by
  have held : view.merged.hbar row.id = account.balance.toInt := by
    unfold Ledger.hbar
    rw [View.merged_account, own, lives.own, lives.found]
    rfl
  rw [View.hbar_total_put_account, held]

theorem deed_hbar_total (deed : Deed) (before after : View) (does : deed.Does sender now before after) :
    after.merged.hbarTotal = before.merged.hbarTotal + deed.hbarGain := by
  -- Writing an account again with the balance that it had moves nothing.
  have again (id : AccountId) (account row : Account) (lives : before.Lives id account) (own : row.id = account.id)
      (balance : row.balance = account.balance) :
      (before.putAccount row).merged.hbarTotal = before.merged.hbarTotal + 0 := by
    rw [hbar_total_put before id account row lives own, balance]
    omega
  have still (same : after.merged.accounts = before.merged.accounts) :
      after.merged.hbarTotal = before.merged.hbarTotal + 0 := by
    rw [hbar_total_alike before after same, Int.add_zero]
  cases does with
  | adjustHbar account allowances balance lives drawn sum =>
      have total := hbar_total_put before _ account { account with hbarAllowances := allowances, balance := balance }
        lives rfl
      have moved := sum.sum
      rw [total]
      simp only [Deed.hbarGain]
      omega
  | drawUnits token owner held allowances balance usable fungible lives =>
      have kept := again _ owner { owner with tokenAllowances := allowances } lives rfl rfl
      refine (hbar_total_alike _ _ ?_).trans kept
      rw [View.merged_put_relationship]
  | grantHbar owner spender lives => exact again _ owner _ lives rfl rfl
  | grantUnits owner token held lives => exact again _ owner _ lives rfl rfl
  | setOperator owner token held lives => exact again _ owner _ lives rfl rfl
  | mint token held minted last supply balance usable found items =>
      apply still
      rw [View.merged_resupplied, (minted_alike _ _ _ _ _ _ _ items).accounts]
  | burn token held removed supply balance usable found items =>
      apply still
      rw [View.merged_resupplied, (taken_alike _ _ _ _ _ _ _ items).accounts]
  | wipe token account held removed supply balance usable lives apart found items =>
      apply still
      rw [View.merged_resupplied, (taken_alike _ _ _ _ _ _ _ items).accounts]
  | update token usable handover =>
      apply still
      cases handover with
      | stay | units | items => simp only [View.merged_put_token, View.merged_put_relationship]
  | associate | dissociate | setPaused | create | adjustUnits | moveNft | lendNft | clearSpender =>
      apply still
      simp only [View.merged_put_relationship, View.merged_remove_relationship, View.merged_put_token,
        View.merged_put_nft, View.merged_reserving]

end Hbar

section Surplus

variable (sender : AccountId) (now : Timestamp)

theorem outstanding_view (view : View) (id : TokenId) :
    view.merged.outstanding id = ((view.token id).map Token.outstanding).getD none := by
  unfold Ledger.outstanding
  rw [View.merged_token]

theorem surplus_moved (before after : View) (id : TokenId) (gain : Int)
    (token : after.merged.outstanding id = before.merged.outstanding id)
    (held : before.merged.outstanding id ≠ none → after.merged.unitsHeld id = before.merged.unitsHeld id + gain)
    (dormant : before.merged.outstanding id = none → gain = 0) :
    after.merged.surplus id = before.merged.surplus id + gain := by
  unfold Ledger.surplus
  rw [token]
  cases supply : before.merged.outstanding id with
  | none =>
      have nothing := dormant supply
      simp only [nothing, Int.add_zero]
  | some amount =>
      have moved := held (by rw [supply]; exact Option.some_ne_none _)
      simp only
      omega

theorem surplus_alike (before after : View) (id : TokenId)
    (token : after.merged.outstanding id = before.merged.outstanding id)
    (held : after.merged.unitsHeld id = before.merged.unitsHeld id) :
    after.merged.surplus id = before.merged.surplus id + 0 :=
  surplus_moved before after id 0 token (fun _ => by rw [held, Int.add_zero]) fun _ => rfl

theorem resupplied_surplus (before middle : View) (id : TokenId) (token : Token) (holder : AccountId)
    (held : Relationship) (change : Int) (supply last balance : Int64) (alike : before.AlikeButNfts middle)
    (existing : before.Exists id token) (found : before.relationship holder token.id = some held)
    (supplied : Shifted token.totalSupply change supply) (moved : Shifted held.balance change balance)
    (other : TokenId) :
    (middle.resupplied token holder held supply last balance).merged.surplus other =
      before.merged.surplus other + 0 := by
  have units : (middle.resupplied token holder held supply last balance).merged.unitsHeld other =
      before.merged.unitsHeld other + if token.id = other then change else 0 := by
    have start : middle.merged.unitsHeld other = before.merged.unitsHeld other := by
      unfold Ledger.unitsHeld
      rw [alike.relationships]
    have owned : middle.merged.units holder token.id = held.balance.toInt :=
      View.units_found _ _ _ _ ((alike.relationship _ _ _ _).trans found)
    have total := View.units_held_put_relationship middle holder token.id { held with balance := balance } other
    rw [start, owned] at total
    apply total.trans
    have sum := moved.sum
    by_cases same : token.id = other
    · simp only [if_pos same]
      omega
    · simp only [if_neg same]
  -- Supply and holding go up or down together, so their difference stays.
  unfold Ledger.surplus
  rw [units, outstanding_view, outstanding_view, View.token_resupplied, alike.token]
  by_cases same : other = token.id
  · have sum := supplied.sum
    rw [if_pos same, if_pos same.symm, same, existing.own, existing.found]
    simp only [Option.map_some, Option.getD_some, Token.outstanding]
    by_cases live : token.deleted = false ∧ token.type = .fungible
    · simp only [if_pos live]
      omega
    · simp only [if_neg live, Int.add_zero]
  · rw [if_neg same, if_neg fun about => same about.symm]
    simp only [Int.add_zero]

theorem fresh_units_held (view : View) (limit : Nat) (numbered : view.merged.Numbered limit) (id : TokenId)
    (free : limit ≤ id.num.toNat) : view.merged.unitsHeld id = 0 := by
  apply Table.total_zero
  intro holding row found
  have below := numbered.relationships holding.account holding.token row found
  rw [if_neg]
  rintro rfl
  omega

theorem create_surplus (order : Creation) (before after : View) (numbered : before.merged.Numbered before.limit)
    (does : (Deed.create order).Does sender now before after) (other : TokenId) :
    after.merged.surplus other = before.merged.surplus other + 0 := by
  cases does with
  | create treasury number reserved lives fresh next =>
      generalize made : (⟨order.treasury.shard, order.treasury.realm, number⟩ : TokenId) = id
      have free : before.limit ≤ id.num.toNat := by
        rw [← made]
        exact Nat.le_of_eq fresh.symm
      have unknown := View.unknown_token _ _ numbered id free
      have unheld := View.units_absent _ _ _ (View.unknown_relationship _ _ numbered order.treasury id free)
      -- Nobody held the new token, so its holders have the initial supply and no more.
      have total := View.units_held_put_relationship
        ((before.reserving reserved).putToken (Work.created order id now)) order.treasury id
        { balance := order.initialSupply, kycGranted := true } other
      have start : ((before.reserving reserved).putToken (Work.created order id now)).merged.unitsHeld other =
          before.merged.unitsHeld other := rfl
      have nobody : ((before.reserving reserved).putToken (Work.created order id now)).merged.units order.treasury id =
          0 := unheld
      rw [start, nobody] at total
      unfold Ledger.surplus
      rw [total, outstanding_view, outstanding_view, View.token_put_relationship, View.token_put_token,
        View.token_reserving]
      have own : (Work.created order id now).id = id := rfl
      rw [own]
      by_cases same : other = id
      · rw [if_pos same, if_pos same.symm, same, unknown, fresh_units_held before _ numbered id free]
        simp only [Option.map_some, Option.map_none, Option.getD_some, Option.getD_none, Token.outstanding,
          Work.created]
        by_cases fungible : order.type = .fungible
        · simp only [fungible, and_self, if_true]
          omega
        · simp only [fungible, and_false, if_false, Int.add_zero]
      · rw [if_neg same, if_neg fun about => same about.symm]
        simp only [Int.add_zero]

theorem handover_units_held (token : Token) (successor : AccountId) (before after : View)
    (handover : Handover token successor before after) (other : TokenId) :
    after.merged.unitsHeld other = before.merged.unitsHeld other := by
  cases handover with
  | stay | items => rfl
  | units account incoming outgoing balance apart fungible lives trades found sum =>
      -- The row of the new treasury is read before the old one is written; they are two rows.
      have paid := View.units_found _ _ _ _ found
      have given : (before.putRelationship token.treasury token.id { outgoing with balance := 0 }).merged.units
          successor token.id = incoming.balance.toInt := by
        rw [View.units_put_relationship, if_neg fun same => apart same.1]
        exact View.units_found _ _ _ _ trades.found
      rw [View.units_held_put_relationship, View.units_held_put_relationship, given, paid]
      have total := sum.sum
      have zero : (0 : Int64).toInt = 0 := rfl
      by_cases same : token.id = other
      · simp only [if_pos same]
        omega
      · simp only [if_neg same, Int.add_zero]

theorem outstanding_exists (view : View) (id : TokenId) (token : Token) (existing : view.Exists id token)
    (fungible : token.type = .fungible) : view.merged.outstanding id ≠ none := by
  rw [outstanding_view, existing.found, Option.map_some, Option.getD_some, Token.outstanding,
    if_pos ⟨existing.live, fungible⟩]
  exact Option.some_ne_none _

theorem exists_outstanding (view : View) (id : TokenId) (rooted : view.merged.Rooted)
    (there : view.merged.outstanding id ≠ none) : ∃ token, view.Exists id token ∧ token.type = .fungible := by
  rw [outstanding_view] at there
  cases found : view.token id with
  | none => exact absurd (by rw [found]; rfl) there
  | some token =>
      rw [found, Option.map_some, Option.getD_some, Token.outstanding] at there
      by_cases live : token.deleted = false ∧ token.type = .fungible
      · exact ⟨token, ⟨found, View.rooted_token view id rooted token found, live.1⟩, live.2⟩
      · rw [if_neg live] at there
        exact absurd rfl there

theorem outstanding_put_token (view : View) (id : TokenId) (token row : Token) (existing : view.Exists id token)
    (own : row.id = token.id) (alike : row.outstanding = token.outstanding) (other : TokenId) :
    (view.putToken row).merged.outstanding other = view.merged.outstanding other := by
  rw [outstanding_view, outstanding_view]
  exact View.put_token_alike view id Token.outstanding none token row existing own alike other

theorem adjusted_surplus (before first : View) (id : TokenId) (token : Token) (account : AccountId)
    (held : Relationship) (balance amount : Int64) (existing : before.Exists id token)
    (fungible : token.type = .fungible) (found : first.relationship account id = some held)
    (tokens : first.merged.tokens = before.merged.tokens)
    (relationships : first.merged.relationships = before.merged.relationships)
    (sum : Shifted held.balance amount.toInt balance) (other : TokenId) :
    (first.putRelationship account id { held with balance := balance }).merged.surplus other =
      before.merged.surplus other + if id = other then amount.toInt else 0 := by
  refine surplus_moved _ _ _ _ ?_ (fun _ => ?_) fun dormant => ?_
  · unfold Ledger.outstanding
    rw [View.merged_put_relationship, tokens]
  · have start : first.merged.unitsHeld other = before.merged.unitsHeld other := by
      unfold Ledger.unitsHeld
      rw [relationships]
    rw [View.units_held_put_relationship, start, View.units_found _ _ _ _ found]
    have moved := sum.sum
    by_cases same : id = other
    · simp only [if_pos same]
      omega
    · simp only [if_neg same]
  · rw [if_neg]
    rintro rfl
    exact outstanding_exists before id token existing fungible dormant

theorem update_surplus (order : Update) (before middle : View) (token : Token)
    (existing : before.Exists order.token token)
    (handover : Handover token (order.treasury.getD token.treasury) before middle) (id : TokenId) :
    (middle.putToken (Work.revised order token)).merged.surplus id = before.merged.surplus id + 0 := by
  have tokens : middle.merged.tokens = before.merged.tokens := by
    cases handover with
    | stay | items => rfl
    | units => simp only [View.merged_put_relationship]
  have still : middle.Exists order.token token :=
    ⟨by rw [← View.merged_token, tokens, View.merged_token]; exact existing.found, existing.own, existing.live⟩
  refine surplus_alike _ _ _ ?_ (handover_units_held _ _ _ _ handover id)
  apply (outstanding_put_token _ _ token (Work.revised order token) still rfl rfl _).trans
  unfold Ledger.outstanding
  rw [tokens]

-- A token that counts serials is not the one whose surplus is looked at.
theorem serials_surplus (before : View) (rooted : before.merged.Rooted) (about : TokenId) (token : Token)
    (usable : before.Usable about token) (nonFungible : token.type = .nonFungible) (giver taker : AccountId)
    (source target : Relationship) (row : Nft) (id : TokenId) :
    (((before.putRelationship giver about source).putRelationship taker about target).putNft row).merged.surplus id =
      before.merged.surplus id + 0 := by
  refine surplus_moved _ _ _ _ rfl (fun there => ?_) fun _ => rfl
  have other : about ≠ id := by
    rintro rfl
    obtain ⟨row, existing, fungible⟩ := exists_outstanding before about rooted there
    have same := usable.found.symm.trans existing.found
    cases same
    rw [nonFungible] at fungible
    cases fungible
  rw [View.units_held_put_nft, View.units_held_put_relationship, View.units_held_put_relationship, if_neg other,
    if_neg other]
  exact Int.add_zero _

/-- Holders of a fungible token have a surplus by what the entries of transfers bring them, and by nothing else. -/
theorem deed_surplus (deed : Deed) (before after : View) (rooted : before.merged.Rooted)
    (numbered : before.merged.Numbered before.limit) (does : deed.Does sender now before after) (id : TokenId) :
    after.merged.surplus id = before.merged.surplus id + deed.unitGain id := by
  cases does with
  | @associate account about _ holder token lives existing absent =>
      refine surplus_alike _ _ _ rfl ?_
      rw [View.units_held_put_relationship, View.units_absent _ _ _ absent]
      exact (congrArg _ (ite_self _)).trans (Int.add_zero _)
  -- Whatever the token still has in it when it is given up, a live one has nothing.
  | @dissociate account about _ held found released =>
      refine surplus_moved _ _ _ _ rfl (fun there => ?_) fun _ => rfl
      rw [View.units_held_remove_relationship, View.units_found _ _ _ _ found]
      by_cases same : about = id
      · subst same
        obtain ⟨token, existing, _⟩ := exists_outstanding before about rooted there
        have empty := (released token existing).2
        rw [if_pos rfl, empty]
        rfl
      · rw [if_neg same]
        rfl
  | mint token held minted last supply balance usable found items supplied capped gained =>
      exact resupplied_surplus _ _ _ token _ held _ _ _ _ (minted_alike _ _ _ _ _ _ _ items) usable.toExists found
        supplied gained id
  | burn token held removed supply balance usable found items supplied lost =>
      exact resupplied_surplus _ _ _ token _ held _ _ _ _ (taken_alike _ _ _ _ _ _ _ items) usable.toExists found
        supplied lost id
  | wipe token account held removed supply balance usable lives apart found items supplied lost =>
      exact resupplied_surplus _ _ _ token _ held _ _ _ _ (taken_alike _ _ _ _ _ _ _ items) usable.toExists found
        supplied lost id
  | @setPaused paused about _ token existing =>
      have same := outstanding_put_token before about token { token with paused := paused } existing rfl rfl id
      exact surplus_alike _ _ _ same rfl
  | create treasury number reserved lives fresh next =>
      exact create_surplus sender now _ _ _ numbered (.create treasury number reserved lives fresh next) id
  | @update order _ middle token usable handover =>
      exact update_surplus order before middle token usable.toExists handover id
  | @adjustUnits about adjustment _ token owner held balance usable fungible lives trades kept sum =>
      exact adjusted_surplus before before about token _ held balance _ usable.toExists fungible trades.found rfl rfl
        sum id
  | @drawUnits about adjustment _ token owner held allowances balance usable fungible lives trades draws drawn sum =>
      refine adjusted_surplus before (before.putAccount { owner with tokenAllowances := allowances }) about token _ held
        balance _ usable.toExists fungible trades.found ?_ ?_ sum id
      · rw [View.merged_put_account]
      · rw [View.merged_put_account]
  | moveNft token nft receiver source target left gained usable nonFungible =>
      exact serials_surplus before rooted _ token usable nonFungible _ _ _ _ _ id
  | adjustHbar | grantHbar | grantUnits | setOperator | lendNft | clearSpender => exact surplus_alike _ _ _ rfl rfl

end Surplus

section Bodies

theorem net_gain_append (gain : Deed → Int) (first second : List Deed) :
    netGain gain (first ++ second) = netGain gain first + netGain gain second := by
  induction first with
  | nil => exact (Int.zero_add _).symm
  | cons deed rest ih => rw [List.cons_append, netGain, netGain, ih, Int.add_assoc]

theorem net_gain_zero (gain : Deed → Int) (deeds : List Deed) (still : ∀ deed ∈ deeds, gain deed = 0) :
    netGain gain deeds = 0 := by
  induction deeds with
  | nil => rfl
  | cons deed rest ih =>
      rw [netGain, still deed List.mem_cons_self, ih fun other member => still other (List.mem_cons_of_mem _ member)]
      rfl

theorem net_gain_entries (gain : Deed → Int) (label : Adjustment → Deed)
    (each : ∀ adjustment, gain (label adjustment) = adjustment.amount.toInt) (adjustments : List Adjustment) :
    netGain gain (adjustments.map label) = netAmount adjustments := by
  induction adjustments with
  | nil => rfl
  | cons adjustment rest ih => rw [List.map_cons, netGain, netAmount, each, ih]

-- The entries of one token cancel out, whichever token is looked at.
theorem moves_gain (moves : TokenMoves) (proper : moves.Proper) (id : TokenId) :
    netGain (Deed.unitGain id) moves.deeds = 0 := by
  have serials : netGain (Deed.unitGain id) (moves.nftMoves.map (Deed.moveNft moves.token)) = 0 := by
    apply net_gain_zero
    intro deed member
    obtain ⟨_, _, rfl⟩ := List.mem_map.mp member
    rfl
  rw [TokenMoves.deeds, net_gain_append, serials, Int.add_zero]
  by_cases same : moves.token = id
  · rw [net_gain_entries _ _ (fun _ => if_pos same), proper.balanced.zero]
  · apply net_gain_zero
    intro deed member
    obtain ⟨_, _, rfl⟩ := List.mem_map.mp member
    exact if_neg same

theorem transfer_gains (hbar : List Adjustment) (tokens : List TokenMoves) (proper : ProperTransfer hbar tokens)
    (id : TokenId) :
    netGain Deed.hbarGain (Body.transfer hbar tokens).deeds = 0 ∧
      netGain (Deed.unitGain id) (Body.transfer hbar tokens).deeds = 0 := by
  constructor
  · have units : netGain Deed.hbarGain (tokens.flatMap TokenMoves.deeds) = 0 := by
      apply net_gain_zero
      intro deed member
      obtain ⟨moves, _, inside⟩ := List.mem_flatMap.mp member
      rcases List.mem_append.mp inside with amount | serial
      · obtain ⟨_, _, rfl⟩ := List.mem_map.mp amount
        rfl
      · obtain ⟨_, _, rfl⟩ := List.mem_map.mp serial
        rfl
    rw [Body.deeds, net_gain_append, units, net_gain_entries _ _ fun _ => rfl, proper.balanced.zero]
    rfl
  · have money : netGain (Deed.unitGain id) (hbar.map Deed.adjustHbar) = 0 := by
      apply net_gain_zero
      intro deed member
      obtain ⟨_, _, rfl⟩ := List.mem_map.mp member
      rfl
    rw [Body.deeds, net_gain_append, money, Int.zero_add]
    -- The lists are about several tokens. Each of them cancels out on its own.
    have each := proper.proper
    clear proper money
    induction tokens with
    | nil => rfl
    | cons moves rest ih =>
        rw [List.flatMap_cons, net_gain_append, moves_gain moves (each moves List.mem_cons_self) id,
          ih fun other member => each other (List.mem_cons_of_mem _ member)]
        rfl

theorem body_gains (config : Config) (body : Body) (wellFormed : body.check config = .ok ()) (id : TokenId) :
    netGain Deed.hbarGain body.deeds = 0 ∧ netGain (Deed.unitGain id) body.deeds = 0 := by
  by_cases transfer : ∃ hbar tokens, body = .transfer hbar tokens
  · obtain ⟨hbar, tokens, rfl⟩ := transfer
    exact transfer_gains hbar tokens (transfer_of_check hbar tokens wellFormed) id
  -- Only the deeds of transfers have a gain.
  · have other := body_transfers body fun hbar tokens same => transfer ⟨hbar, tokens, same⟩
    constructor
    · apply net_gain_zero
      intro deed member
      have entry := other deed member
      cases deed <;> first | rfl | cases entry
    · apply net_gain_zero
      intro deed member
      have entry := other deed member
      cases deed <;> first | rfl | cases entry

-- Single deeds do move the surplus, but all deeds of a body together do not.
theorem body_surplus (sender : AccountId) (now : Timestamp) (config : Config) (body : Body)
    (wellFormed : body.check config = .ok ()) (before after : View) (rooted : before.merged.Rooted)
    (numbered : before.merged.Numbered before.limit) (done : Deeds sender now body.deeds before after) (id : TokenId) :
    after.merged.surplus id = before.merged.surplus id := by
  have moved := Deeds.sums (fun view => view.merged.surplus id) (Deed.unitGain id)
    (fun view => view.merged.Rooted ∧ view.merged.Numbered view.limit) body.deeds before after
    (fun deed _ first next does kept => ⟨deed_rooted sender now deed first next does kept.1,
      deed_numbered sender now deed first next does kept.2⟩)
    (fun deed _ first next does kept => deed_surplus sender now deed first next kept.1 kept.2 does id) done
    ⟨rooted, numbered⟩
  rwa [(body_gains config body wellFormed id).2, Int.add_zero] at moved

end Bodies

end TokenService
