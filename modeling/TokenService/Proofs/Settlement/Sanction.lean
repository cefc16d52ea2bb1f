import TokenService.Proofs.Consent
import TokenService.Proofs.Ledger.Losses
import TokenService.Proofs.Settlement.Success

set_option autoImplicit false

namespace TokenService

namespace Authority

-- Who loses something in a transfer consents, or an approved entry takes it: off an allowance that
-- the sender had for that asset, by exactly what is lost, or as spender or operator of a serial.
structure SanctionsTransfer (authority : Authority) (sender : AccountId) (hbar : List Adjustment)
    (tokens : List TokenMoves) (before after : Ledger) : Prop where
  hbar : ∀ account, after.hbar account < before.hbar account →
    authority.Consents before account ∨
      ((∃ entry ∈ hbar, entry.account = account ∧ entry.approval = true) ∧
        before.hbar account - after.hbar account ≤ before.hbarAllowance account sender ∧
        after.hbarAllowance account sender =
          before.hbarAllowance account sender - (before.hbar account - after.hbar account))
  units : ∀ account id, (∀ token, before.tokens.get? id = some token → token.type ≠ .nonFungible) →
    after.units account id < before.units account id →
    authority.Consents before account ∨
      ((∃ moves ∈ tokens, moves.token = id ∧
          ∃ entry ∈ moves.adjustments, entry.account = account ∧ entry.approval = true) ∧
        before.units account id - after.units account id ≤ before.unitAllowance account id sender ∧
        after.unitAllowance account id sender =
          before.unitAllowance account id sender - (before.units account id - after.units account id))
  nfts : ∀ id row, before.nfts.get? id = some row → (after.nfts.get? id).map Nft.owner ≠ some row.owner →
    authority.Consents before row.owner ∨
      ((∃ moves ∈ tokens, moves.token = id.token ∧
          ∃ move ∈ moves.nftMoves, move.serial = id.serial ∧ move.sender = row.owner ∧ move.approval = true) ∧
        (row.spender = some sender ∨ before.operates row.owner id.token sender = true))

-- How a body other than a transfer may take units from an account: a burn from the treasury under
-- the supply key, a wipe under the wipe key, a change of treasury under the admin key, and a
-- dissociation that the account consents to, from a token that is gone. A change of treasury adds
-- the balance of the old treasury to that of the new one, so it takes from the old treasury, or
-- from the new one, unasked, if the old one is below zero.
inductive TakesUnits (authority : Authority) (before : Ledger) : Body → AccountId → TokenId → Prop
  | burn (order : Burn) (token : Token)
      (found : before.tokens.get? order.token = some token)
      (signed : authority.Holds token .supply) :
      TakesUnits authority before (.burn order) token.treasury order.token
  | wipe (order : Wipe) (token : Token)
      (found : before.tokens.get? order.token = some token)
      (signed : authority.Holds token .wipe) :
      TakesUnits authority before (.wipe order) order.account order.token
  | update (order : Update) (token : Token) (account successor : AccountId)
      (found : before.tokens.get? order.token = some token)
      (signed : authority.Holds token .admin)
      (given : order.treasury = some successor)
      (apart : successor ≠ token.treasury)
      (treasury : account = token.treasury ∨
        account = successor ∧ before.units token.treasury order.token < 0) :
      TakesUnits authority before (.update order) account order.token
  | dissociate (association : Association) (id : TokenId)
      (listed : id ∈ association.tokens)
      (gone : ∀ token, before.tokens.get? id = some token → token.deleted = true)
      (consented : authority.Consents before association.account) :
      TakesUnits authority before (.dissociate association) association.account id

inductive RetiresNft (authority : Authority) (before : Ledger) : Body → NftId → AccountId → Prop
  | burn (order : Burn) (token : Token) (serial : Int64)
      (found : before.tokens.get? order.token = some token)
      (signed : authority.Holds token .supply)
      (listed : serial ∈ order.serials) :
      RetiresNft authority before (.burn order) ⟨order.token, serial⟩ token.treasury
  | wipe (order : Wipe) (token : Token) (serial : Int64)
      (found : before.tokens.get? order.token = some token)
      (signed : authority.Holds token .wipe)
      (listed : serial ∈ order.serials) :
      RetiresNft authority before (.wipe order) ⟨order.token, serial⟩ order.account

structure SanctionsOther (authority : Authority) (body : Body) (before after : Ledger) : Prop where
  hbar : ∀ account, after.hbar account = before.hbar account
  units : ∀ account id, after.units account id < before.units account id →
    authority.TakesUnits before body account id
  nfts : ∀ id row, before.nfts.get? id = some row → after.nfts.get? id = none →
    authority.RetiresNft before body id row.owner

variable (authority : Authority) (sender : AccountId) (now : Timestamp) (ledger : Ledger) (after : View)

theorem transfer_sanctioned (hbar : List Adjustment) (tokens : List TokenMoves)
    (permitted : authority.check (some { ledger := ledger }) (.transfer hbar tokens) sender = .ok ())
    (proper : ProperTransfer hbar tokens)
    (done : Deeds sender now (Body.transfer hbar tokens).deeds { ledger := ledger } after) :
    authority.SanctionsTransfer sender hbar tokens ledger after.merged := by
  have consent (account : AccountId) (lost : account ∈ debited hbar tokens) : authority.Consents ledger account :=
    debited_consents hbar tokens authority ledger sender account permitted lost
  refine ⟨fun account fell => ?_, fun account id kind fell => ?_, fun id row owned left => ?_⟩
  · obtain ⟨entry, member, rfl, sum, drawn⟩ :=
      transfer_hbar proper { ledger := ledger } after done account (by rwa [View.fresh_merged])
    rw [View.fresh_merged] at sum drawn
    -- An approved entry is drawn by the rules, any other is among the debits that need a key.
    cases approval : entry.approval with
    | true => exact .inr ⟨⟨entry, member, rfl, approval⟩, drawn approval⟩
    | false => exact .inl (consent _ (debited_hbar hbar tokens entry member (by omega) approval))
  · obtain ⟨moves, listed, rfl, entry, member, rfl, sum, drawn⟩ :=
      transfer_units proper { ledger := ledger } after done account id kind (by rwa [View.fresh_merged])
    rw [View.fresh_merged] at sum drawn
    cases approval : entry.approval with
    | true => exact .inr ⟨⟨moves, listed, rfl, entry, member, rfl, approval⟩, drawn approval⟩
    | false => exact .inl (consent _ (debited_units hbar tokens moves listed entry member (by omega) approval))
  · rw [View.merged_nft] at left
    obtain ⟨moves, listed, about, move, member, serial, owner, approved⟩ :=
      transfer_nft proper { ledger := ledger } after done id row owned left
    rw [View.fresh_merged] at approved
    cases approval : move.approval with
    | true => exact .inr ⟨⟨moves, listed, about, move, member, serial, owner, approval⟩, approved approval⟩
    | false => exact .inl (owner ▸ consent _ (debited_nft hbar tokens moves listed move member approval))

theorem key_found (kind : KeyKind) (slot : KeySlot) (body : Body) (id : TokenId) (token : Token)
    (permitted : authority.check (some { ledger := ledger }) body sender = .ok ())
    (needed : Requirement.ofToken kind id ∈ body.requirements sender) (named : kind.slot? = some slot)
    (found : ledger.tokens.get? id = some token) : authority.Holds token slot := by
  obtain ⟨row, present, signed⟩ :=
    authority.token_consents ledger kind slot id named (authority.check_covers _ _ _ _ permitted needed)
  rw [found] at present
  cases present
  exact signed

theorem units_sanctioned (config : Config) (body : Body)
    (other : ∀ hbar tokens, body ≠ .transfer hbar tokens)
    (permitted : authority.check (some { ledger := ledger }) body sender = .ok ())
    (wellFormed : body.check config = .ok ()) (rooted : ledger.Rooted)
    (numbered : ledger.Numbered ledger.nextEntity.toNat)
    (done : Deeds sender now body.deeds { ledger := ledger } after) (account : AccountId) (id : TokenId)
    (fell : after.merged.units account id < (View.mk ledger {}).merged.units account id) :
    authority.TakesUnits ledger body account id := by
  cases quiet : body.quiet with
  | true =>
      have same := quiet_body_units body quiet account id _ _ done
      omega
  | false =>
      cases body with
      | dissociate association =>
          have distinct := association_of_check association wellFormed
          obtain ⟨rfl, listed, gone⟩ :=
            dissociate_units association.account account association.tokens id distinct _ _ done fell
          refine .dissociate association id listed (fun token found => ?_) ?_
          · cases deleted : token.deleted with
            | true => rfl
            | false => exact absurd ⟨found, rooted.tokens _ _ found, deleted⟩ (gone token)
          · exact authority.account_consents ledger _
              (authority.check_covers _ _ _ _ permitted List.mem_cons_self)
      | mint order =>
          have grown := mint_units order account id _ _ (Deeds.of_single _ _ _ done)
          omega
      | burn order =>
          obtain ⟨token, found, rfl, rfl⟩ := burn_units order account id _ _ (Deeds.of_single _ _ _ done) fell
          exact .burn order token found (key_found authority sender ledger .supply .supply _ _ token permitted
            List.mem_cons_self rfl found)
      | wipe order =>
          obtain ⟨token, found, rfl, rfl⟩ := wipe_units order account id _ _ (Deeds.of_single _ _ _ done) fell
          exact .wipe order token found (key_found authority sender ledger .wipe .wipe _ _ token permitted
            List.mem_cons_self rfl found)
      -- A new token has no holders, so no balance can fall.
      | create order =>
          have below : (View.mk ledger {}).merged.Numbered (View.mk ledger {}).limit := by
            rwa [View.fresh_merged, View.fresh_limit]
          have grown := create_units order (creation_of_check config order wellFormed) account id _ _ below
            (Deeds.of_single _ _ _ done)
          omega
      | update order =>
          obtain ⟨token, successor, found, rfl, given, apart, treasury⟩ :=
            update_units order account id _ _ (Deeds.of_single _ _ _ done) fell
          rw [View.fresh_merged] at treasury
          exact .update order token account successor found
            (key_found authority sender ledger .admin .admin _ _ token permitted List.mem_cons_self rfl found)
            given apart treasury
      | transfer hbar tokens => exact absurd rfl (other hbar tokens)
      | associate | pause | unpause | approve | revoke | queryToken | queryNft => cases quiet

theorem nfts_sanctioned (body : Body)
    (permitted : authority.check (some { ledger := ledger }) body sender = .ok ())
    (done : Deeds sender now body.deeds { ledger := ledger } after) (id : NftId) (row : Nft)
    (present : ledger.nfts.get? id = some row) (gone : after.nft id = none) :
    authority.RetiresNft ledger body id row.owner := by
  -- Serials disappear in burns and wipes only.
  by_cases burns : ∃ order, body = .burn order
  · obtain ⟨order, rfl⟩ := burns
    cases Deeds.of_single _ _ _ done with
    | burn token held removed supply balance usable found items =>
        obtain ⟨same, listed, owner⟩ := resupplied_gone _ _ _ _ _ _ _ _ _ _ _ _ usable items id row present gone
        rw [same, owner]
        exact .burn order token id.serial usable.found
          (key_found authority sender ledger .supply .supply _ _ token permitted List.mem_cons_self rfl usable.found)
          listed
  · by_cases wipes : ∃ order, body = .wipe order
    · obtain ⟨order, rfl⟩ := wipes
      cases Deeds.of_single _ _ _ done with
      | wipe token account held removed supply balance usable lives apart found items =>
          obtain ⟨same, listed, owner⟩ := resupplied_gone _ _ _ _ _ _ _ _ _ _ _ _ usable items id row present gone
          rw [same, owner]
          exact .wipe order token id.serial usable.found
            (key_found authority sender ledger .wipe .wipe _ _ token permitted List.mem_cons_self rfl usable.found)
            listed
    · refine absurd gone (body_nft_present body (fun order same => burns ⟨order, same⟩)
        (fun order same => wipes ⟨order, same⟩) id { ledger := ledger } after done ?_)
      rw [View.fresh_nft, present]
      exact Option.some_ne_none _

theorem other_sanctioned (config : Config) (body : Body)
    (other : ∀ hbar tokens, body ≠ .transfer hbar tokens)
    (permitted : authority.check (some { ledger := ledger }) body sender = .ok ())
    (wellFormed : body.check config = .ok ()) (rooted : ledger.Rooted)
    (numbered : ledger.Numbered ledger.nextEntity.toNat)
    (done : Deeds sender now body.deeds { ledger := ledger } after) :
    authority.SanctionsOther body ledger after.merged := by
  refine ⟨fun account => ?_, fun account id fell => ?_, fun id row present gone => ?_⟩
  · rw [body_hbar body other account _ _ done, View.fresh_merged]
  · refine units_sanctioned authority sender now ledger after config body other permitted wellFormed rooted numbered
      done account id ?_
    rwa [View.fresh_merged]
  · rw [View.merged_nft] at gone
    exact nfts_sanctioned authority sender now ledger after body permitted done id row present gone

end Authority

/-- In a successful call nobody loses hbar, units or NFTs without authority, except that a new treasury takes over what
the old one owes. -/
theorem nothing_leaves_unsanctioned (config : Config) (market : Market) (prices : PriceTable) (host : Host)
    (frame : Frame) (input : Bytes) (ledger : Ledger) (lent : host.ledger = some ledger) (rooted : ledger.Rooted)
    (numbered : ledger.Numbered ledger.nextEntity.toNat) (settled : Settled)
    (computed : settled = (Service.native config market prices).compute host frame input)
    (success : settled.succeeds) :
    ∃ record transaction, settled.record = some (record, transaction) ∧
      (∀ hbar tokens, transaction.body = .transfer hbar tokens →
        (Service.authority host frame).SanctionsTransfer (host.sender frame) hbar tokens ledger
          (settled.ledgerAfter ledger)) ∧
      ((∀ hbar tokens, transaction.body ≠ .transfer hbar tokens) →
        (Service.authority host frame).SanctionsOther transaction.body ledger (settled.ledgerAfter ledger)) := by
  obtain ⟨body, view, carries⟩ :=
    success_carries config market prices host frame input ledger settled lent rooted computed success
  obtain ⟨record, transaction, recorded, rfl⟩ := carries.recorded
  refine ⟨record, transaction, recorded, fun hbar tokens same => ?_, fun other => ?_⟩
  · have permitted := carries.permitted
    have wellFormed := carries.wellFormed
    have done := carries.done
    rw [same] at permitted wellFormed done
    rw [carries.after]
    exact Authority.transfer_sanctioned _ _ _ ledger view hbar tokens permitted
      (transfer_of_check hbar tokens wellFormed) done
  · rw [carries.after]
    exact Authority.other_sanctioned _ _ _ ledger view config _ other carries.permitted carries.wellFormed rooted
      numbered carries.done

theorem payment_sanctioned :
    ((Sample.settled (Sample.payment 25)).ledgerAfter Sample.ledger).units Sample.holder Sample.coin = 45 ∧
      (Service.authority (Sample.host Sample.ledger) Sample.frame).Consents Sample.ledger Sample.holder := by
  have paid : (Sample.settled (Sample.payment 25)).succeeds := by decide +kernel
  have left :
      ((Sample.settled (Sample.payment 25)).ledgerAfter Sample.ledger).units Sample.holder Sample.coin = 45 := by
    decide +kernel
  have body : (Sample.settled (Sample.payment 25)).record.map (fun entry => entry.2.body) =
      some (.transfer [] [⟨Sample.coin, [⟨Sample.holder, -25, false⟩, ⟨Sample.friend, 25, false⟩], []⟩]) := by
    decide +kernel
  refine ⟨left, ?_⟩
  obtain ⟨record, transaction, recorded, moved, _⟩ := nothing_leaves_unsanctioned {} Sample.market .empty
    (Sample.host Sample.ledger) Sample.frame (Sample.payment 25) Sample.ledger rfl Sample.ledger_rooted
    Sample.ledger_numbered (Sample.settled (Sample.payment 25)) rfl paid
  rw [recorded] at body
  have before : Sample.ledger.units Sample.holder Sample.coin = 70 := by decide
  have lent : Sample.ledger.unitAllowance Sample.holder Sample.coin Sample.holder = 0 := by decide
  have fungible (token : Token) (found : Sample.ledger.tokens.get? Sample.coin = some token) :
      token.type ≠ .nonFungible := by
    cases found
    decide
  have sanctions := (moved _ _ (Option.some.inj body)).units Sample.holder Sample.coin fungible (by omega)
  rcases sanctions with consent | ⟨_, within, _⟩
  · exact consent
  · have sender : (Sample.host Sample.ledger).sender Sample.frame = Sample.holder := by decide
    rw [sender, lent, before, left] at within
    omega

namespace Sample

def owing : Ledger :=
  { ledger with
    tokens := .ofList [(coin, { id := coin, treasury := holder, totalSupply := 5, keys := { admin := some key } })]
    relationships := .ofList
      [(⟨holder, coin⟩, { balance := -5, kycGranted := true }), (⟨friend, coin⟩, { balance := 10, kycGranted := true })]
    nfts := .ofList [] }

theorem owing_rooted : owing.Rooted := rooted_of_rows owing (by decide) (by decide) (by decide)

theorem owing_numbered : owing.Numbered owing.nextEntity.toNat :=
  numbered_of_rows owing _ (by decide) (by decide) (by decide)

def handingOn : Bytes :=
  (ServiceFunction.updateTokenInfo .third).selector.toBytes ++
    Abi.encode (ServiceFunction.updateTokenInfo .third).params
      (coin.toAddress,
        ("", "", friend.toAddress, "", false, (0 : Int64), false, [],
          ((0 : Int64), (0 : Address), (0 : Int64), ()), ()), ())

def handedOn : Settled := (Service.native {} market .empty).compute (host owing) frame handingOn

theorem friend_unasked : ¬ (Service.authority (host owing) frame).Consents owing friend := by
  rintro (⟨_, itself⟩ | ⟨row, key, found, signs, _⟩)
  · exact absurd itself (by decide)
  · cases found
    cases signs

end Sample

-- A change of treasury leaves the new treasury with the debts of the old one, whether it agrees or not.
theorem debt_handed_on :
    ¬ ∀ (config : Config) (market : Market) (prices : PriceTable) (host : Host) (frame : Frame) (input : Bytes)
      (ledger : Ledger), host.ledger = some ledger → ledger.Rooted → ledger.Numbered ledger.nextEntity.toNat →
      ∀ settled, settled = (Service.native config market prices).compute host frame input → settled.succeeds →
      ∀ record transaction order, settled.record = some (record, transaction) → transaction.body = .update order →
      ∀ account id token, ledger.tokens.get? id = some token →
        (settled.ledgerAfter ledger).units account id < ledger.units account id →
        account = token.treasury ∨ (Service.authority host frame).Consents ledger account := by
  intro always
  obtain ⟨success, recorded, fell⟩ :
      Sample.handedOn.succeeds ∧
        (Sample.handedOn.record.map fun entry => entry.2.body) =
          some (.update { token := Sample.coin, treasury := some Sample.friend }) ∧
        (Sample.handedOn.ledgerAfter Sample.owing).units Sample.friend Sample.coin <
          Sample.owing.units Sample.friend Sample.coin := by
    decide +kernel
  obtain ⟨⟨record, transaction⟩, entry, body⟩ := Option.map_eq_some_iff.mp recorded
  have takes := always {} Sample.market .empty (Sample.host Sample.owing) Sample.frame Sample.handingOn
    Sample.owing rfl Sample.owing_rooted Sample.owing_numbered Sample.handedOn rfl success record transaction _
    entry body Sample.friend Sample.coin _ rfl fell
  rcases takes with own | asked
  · exact absurd own (by decide)
  · exact Sample.friend_unasked asked

end TokenService
