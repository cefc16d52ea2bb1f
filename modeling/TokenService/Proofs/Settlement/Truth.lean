import TokenService.Proofs.Ledger.Issuance
import TokenService.Proofs.Ledger.Movements
import TokenService.Proofs.Settlement.Keys

set_option autoImplicit false

namespace TokenService

section Successes

variable (config : Config) (market : Market) (prices : PriceTable) (host : Host) (frame : Frame) (input : Bytes)
  (ledger : Ledger) (settled : Settled)

theorem success_tells (lent : host.ledger = some ledger) (rooted : ledger.Rooted)
    (computed : settled = (Service.native config market prices).compute host frame input)
    (success : settled.succeeds) :
    ∃ record transaction view, settled.record = some (record, transaction) ∧
      settled.Carries config host frame ledger transaction.body view ∧
      TransfersTell record.hbarTransfers record.tokenTransfers ledger view.merged := by
  obtain ⟨call, view, takes⟩ :=
    success_takes_lent config market prices host frame input ledger settled lent computed success
  have carries := takes_carries config market prices host frame input ledger settled rooted call view takes
  obtain ⟨output, evaluated⟩ := takes.passes.evaluated
  obtain ⟨settlement, result, _⟩ := success
  rw [computed] at result
  obtain ⟨_, record, effects, recorded, told, hbar, tokens⟩ :=
    success_told _ host frame input ledger call output view takes.passes evaluated settlement result
  have tells := effects_tell view effects told
  rw [deeds_ledger _ _ _ _ _ carries.done, ← hbar, ← tokens] at tells
  exact ⟨record, _, view, computed ▸ recorded, carries, tells⟩

end Successes

/-- The record of a success tells how the ledger after the call differs from the one before it: whose hbar by how much,
and of each token whose units and which serials. A transfer is told as it was asked for, and what is told of a live
fungible token comes to the change of its supply, which is what the body issues of it. -/
theorem success_records_tell_truth (config : Config) (market : Market) (prices : PriceTable) (host : Host)
    (frame : Frame) (input : Bytes) (ledger : Ledger) (lent : host.ledger = some ledger) (rooted : ledger.Rooted)
    (numbered : ledger.Numbered ledger.nextEntity.toNat) (settled : Settled)
    (computed : settled = (Service.native config market prices).compute host frame input)
    (success : settled.succeeds) :
    ∃ record transaction, settled.record = some (record, transaction) ∧
      TransfersTell record.hbarTransfers record.tokenTransfers ledger (settled.ledgerAfter ledger) ∧
      (∀ hbar tokens, transaction.body = .transfer hbar tokens →
        TransfersMatch record.hbarTransfers record.tokenTransfers hbar tokens) ∧
      ∀ id row, (settled.ledgerAfter ledger).tokens.get? id = some row → row.deleted = false → row.type = .fungible →
        netAmount (TokenMoves.adjusted record.tokenTransfers id) = row.totalSupply.toInt - ledger.supply id ∧
          row.totalSupply.toInt - ledger.supply id = transaction.body.issued ledger id := by
  obtain ⟨record, transaction, view, recorded, carries, tells⟩ :=
    success_tells config market prices host frame input ledger settled lent rooted computed success
  rw [carries.after]
  refine ⟨record, transaction, recorded, tells, fun hbar tokens asked => ?_, fun id row found live fungible => ?_⟩
  · have done := carries.done
    have wellFormed := carries.wellFormed
    rw [asked] at done wellFormed
    refine transfer_matches (transfer_of_check hbar tokens wellFormed) { ledger := ledger } view done _ _ ?_
    rwa [View.fresh_merged]
  · rw [View.merged_token] at found
    obtain ⟨held, supplied⟩ := body_supplies _ _ ledger view id row live fungible found rooted numbered config
      transaction.body carries.wellFormed carries.done
    have typed : Ledger.lastType ledger view.merged id = some .fungible := by
      rw [Ledger.lastType, View.merged_token, found]
      exact congrArg some fungible
    have counted : Ledger.lastType ledger view.merged id ≠ some .nonFungible := by
      rw [typed]
      intro same
      cases same
    exact ⟨((tells.net id counted).trans held).trans supplied.symm, supplied⟩

theorem payment_and_coining_told :
    (∃ record transaction, (Sample.settled (Sample.payment 25)).record = some (record, transaction) ∧
      (TokenMoves.adjusted record.tokenTransfers Sample.coin).Perm
        [{ account := Sample.holder, amount := -25 }, { account := Sample.friend, amount := 25 }]) ∧
      ∃ record transaction, (Sample.settled Sample.coining).record = some (record, transaction) ∧
        netAmount (TokenMoves.adjusted record.tokenTransfers Sample.coin) = 5 := by
  constructor
  · have paid : (Sample.settled (Sample.payment 25)).succeeds := by decide +kernel
    have body : (Sample.settled (Sample.payment 25)).record.map (fun entry => entry.2.body) =
        some (.transfer []
          [{ token := Sample.coin
             adjustments :=
              [{ account := Sample.holder, amount := -25 }, { account := Sample.friend, amount := 25 }] }]) := by
      decide +kernel
    obtain ⟨record, transaction, recorded, _, asked, _⟩ := success_records_tell_truth {} Sample.market .empty
      (Sample.host Sample.ledger) Sample.frame (Sample.payment 25) Sample.ledger rfl Sample.ledger_rooted
      Sample.ledger_numbered (Sample.settled (Sample.payment 25)) rfl paid
    rw [recorded] at body
    exact ⟨record, transaction, recorded, ((asked _ _ (Option.some.inj body)).units Sample.coin).entries⟩
  · have minted : (Sample.settled Sample.coining).succeeds := by decide +kernel
    have body : (Sample.settled Sample.coining).record.map (fun entry => entry.2.body) =
        some (.mint ⟨Sample.coin, 5, []⟩) := by
      decide +kernel
    have live : (((Sample.settled Sample.coining).ledgerAfter Sample.ledger).tokens.get? Sample.coin).any
        (fun row => row.deleted = false ∧ row.type = .fungible) = true := by
      decide +kernel
    obtain ⟨record, transaction, recorded, _, _, supplied⟩ := success_records_tell_truth {} Sample.market .empty
      (Sample.host Sample.ledger) Sample.frame Sample.coining Sample.ledger rfl Sample.ledger_rooted
      Sample.ledger_numbered (Sample.settled Sample.coining) rfl minted
    rw [recorded] at body
    obtain ⟨row, found, alive⟩ := (Option.any_eq_true _ _).mp live
    obtain ⟨alive, fungible⟩ := of_decide_eq_true alive
    obtain ⟨told, issued⟩ := supplied Sample.coin row found alive fungible
    rw [show transaction.body = .mint ⟨Sample.coin, 5, []⟩ from Option.some.inj body] at issued
    exact ⟨record, transaction, recorded, told.trans issued⟩

end TokenService
