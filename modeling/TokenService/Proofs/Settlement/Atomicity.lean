import TokenService.Proofs.Settlement.Gates

set_option autoImplicit false

namespace TokenService

-- What the store holds after it was asked once; it stays as it is when it refuses.
def Host.take (host : Host) (ledger : Ledger) (changes : Changes) : Ledger :=
  if host.refuses changes = none then ledger.apply changes else ledger

namespace Settled

def succeeds (settled : Settled) : Prop :=
  ∃ settlement, settled.result = .ok settlement ∧ settlement.status = .success

instance (settled : Settled) : Decidable settled.succeeds :=
  match result : settled.result with
  | .ok settlement =>
      if success : settlement.status = .success then isTrue ⟨settlement, result, success⟩
      else isFalse fun ⟨_, same, found⟩ => success (Except.ok.inj (same.symm.trans result) ▸ found)
  | .error _ => isFalse fun ⟨_, same, _⟩ => nomatch same.symm.trans result

theorem success_returns (settled : Settled) (succeeds : settled.succeeds) (operation : Overflow) :
    settled.result ≠ .error (.overflow operation) := by
  obtain ⟨settlement, result, _⟩ := succeeds
  rw [result]
  exact fun same => nomatch same

end Settled

namespace Service

-- What a success has behind it: a call that passed every gate and whose changes the store took.
structure Takes (service : Service) (host : Host) (frame : Frame) (input : Bytes) (settled : Settled)
    (ledger : Ledger) (call : ResolvedCall) (view : View) : Prop where
  passes : service.Passes host frame input ledger call view
  accepted : host.refuses view.changes = none
  applied : settled.applied = some view.changes
  price : ∀ settlement, settled.result = .ok settlement →
    settlement.gas = (service.quote frame (service.ready host frame ledger call)).gas
  recorded : ∃ record, settled.record = some (record, (service.ready host frame ledger call).transaction)

variable (service : Service) (host : Host) (frame : Frame) (input : Bytes)

theorem success_takes (settled : Settled) (ends : service.Ends host frame input settled)
    (success : settled.succeeds) : ∃ ledger call view, service.Takes host frame input settled ledger call view := by
  obtain ⟨settlement, result, succeeded⟩ := success
  cases ends with
  | taken ledger call view other passes accepted _ applied found _ price recorded =>
      refine ⟨ledger, call, view, passes, accepted, applied, fun another again => ?_, recorded⟩
      cases found.symm.trans again
      exact price
  | refused _ _ _ _ _ _ _ _ refusal => cases result.symm.trans refusal
  | stopped _ _ _ unsuccessful => exact absurd succeeded (unsuccessful settlement result)
  | overflowed _ _ _ overflow => cases result.symm.trans overflow

theorem ends_offered (settled : Settled) (ends : service.Ends host frame input settled) :
    settled.offered.length ≤ 1 := by
  cases ends with
  | taken _ _ _ _ _ _ offered => simp [offered]
  | refused _ _ _ _ _ _ offered => simp [offered]
  | stopped _ offered => simp [offered]
  | overflowed _ offered => simp [offered]

theorem ends_take (settled : Settled) (ends : service.Ends host frame input settled) (ledger : Ledger) :
    settled.ledgerAfter ledger = settled.offered.foldl host.take ledger := by
  unfold Settled.ledgerAfter
  cases ends with
  | taken _ _ view _ _ accepted offered applied => simp [offered, applied, Host.take, accepted]
  | refused _ _ view _ _ rejected offered applied => simp [offered, applied, Host.take, rejected]
  | stopped _ offered applied => simp [offered, applied]
  | overflowed _ offered applied => simp [offered, applied]

theorem ends_succeeds (settled : Settled) (ends : service.Ends host frame input settled) :
    settled.succeeds ↔ ∃ changes, settled.offered = [changes] ∧ host.refuses changes = none := by
  cases ends with
  | taken _ _ view settlement _ accepted offered _ result success =>
      exact ⟨fun _ => ⟨view.changes, offered, accepted⟩, fun _ => ⟨settlement, result, success⟩⟩
  | refused _ _ view reason _ rejected offered _ result =>
      constructor
      · rintro ⟨settlement, same, _⟩
        rw [result] at same
        cases same
      · rintro ⟨changes, same, accepted⟩
        rw [offered] at same
        cases same
        rw [rejected] at accepted
        cases accepted
  | stopped _ offered _ result =>
      constructor
      · rintro ⟨settlement, same, success⟩
        exact absurd success (result settlement same)
      · rintro ⟨changes, same, _⟩
        rw [offered] at same
        cases same
  | overflowed operation offered _ result =>
      constructor
      · rintro ⟨settlement, same, _⟩
        rw [result] at same
        cases same
      · rintro ⟨changes, same, _⟩
        rw [offered] at same
        cases same

theorem passes_view (ledger other : Ledger) (call otherCall : ResolvedCall) (view otherView : View)
    (passes : service.Passes host frame input ledger call view)
    (alike : service.Passes host frame input other otherCall otherView) : view = otherView := by
  have ledgers := passes.unguarded.symm.trans alike.unguarded
  cases ledgers
  have calls := passes.dispatched.symm.trans alike.dispatched
  cases calls
  obtain ⟨output, evaluated⟩ := passes.evaluated
  obtain ⟨otherOutput, again⟩ := alike.evaluated
  have views := evaluated.symm.trans again
  cases views
  rfl

theorem ends_gated (settled : Settled) (ends : service.Ends host frame input settled)
    (returns : ∀ operation, settled.result ≠ .error (.overflow operation)) (changes : Changes) :
    settled.offered = [changes] ↔
      ∃ ledger call view, service.Passes host frame input ledger call view ∧ view.changes = changes := by
  have asked (ledger : Ledger) (call : ResolvedCall) (view : View)
      (passes : service.Passes host frame input ledger call view) (offered : settled.offered = [view.changes]) :
      settled.offered = [changes] ↔
        ∃ ledger call view, service.Passes host frame input ledger call view ∧ view.changes = changes := by
    constructor
    · intro same
      rw [offered] at same
      cases same
      exact ⟨ledger, call, view, passes, rfl⟩
    · rintro ⟨other, otherCall, otherView, alike, rfl⟩
      rw [passes_view _ _ _ _ _ _ _ _ _ _ alike passes]
      exact offered
  cases ends with
  | taken ledger call view _ passes _ offered => exact asked ledger call view passes offered
  | refused ledger call view _ passes _ offered => exact asked ledger call view passes offered
  | stopped closed offered =>
      constructor
      · intro same
        rw [offered] at same
        cases same
      · rintro ⟨ledger, call, view, passes, _⟩
        exact absurd passes (closed ledger call view)
  | overflowed operation _ _ result => exact absurd result (returns operation)

theorem ends_unapplied (settled : Settled) (ends : service.Ends host frame input settled)
    (failed : ¬ settled.succeeds) : settled.applied = none := by
  cases ends with
  | taken _ _ _ settlement _ _ _ _ result success => exact absurd ⟨settlement, result, success⟩ failed
  | refused _ _ _ _ _ _ _ applied => exact applied
  | stopped _ _ applied => exact applied
  | overflowed _ _ applied => exact applied

theorem ends_affordable (settled : Settled) (ends : service.Ends host frame input settled) (settlement : Settlement)
    (result : settled.result = .ok settlement) (success : settlement.status = .success) :
    settlement.gas ≤ frame.remainingGas := by
  obtain ⟨ledger, call, view, takes⟩ := service.success_takes host frame input settled ends ⟨settlement, result, success⟩
  rw [takes.price settlement result]
  exact takes.passes.affordable

end Service

/-- A call that returns asks the store at most once, asks it with what was staged exactly when every gate lets the
call pass, succeeds exactly when the store takes the changes, and otherwise leaves the whole ledger as it was. -/
theorem settles_all_or_nothing (config : Config) (market : Market) (prices : PriceTable) (host : Host) (frame : Frame)
    (input : Bytes) (settled : Settled)
    (computed : settled = (Service.native config market prices).compute host frame input)
    (returns : ∀ operation, settled.result ≠ .error (.overflow operation)) :
    settled.offered.length ≤ 1 ∧
      (∀ changes, settled.offered = [changes] ↔ ∃ ledger call view,
        (Service.native config market prices).Passes host frame input ledger call view ∧ view.changes = changes) ∧
      (settled.succeeds ↔ ∃ changes, settled.offered = [changes] ∧ host.refuses changes = none) ∧
      (∀ settlement, settled.result = .ok settlement → settlement.status = .success →
        settlement.gas ≤ frame.remainingGas) ∧
      (∀ ledger, settled.ledgerAfter ledger = settled.offered.foldl host.take ledger) ∧
      (¬ settled.succeeds → ∀ ledger, settled.ledgerAfter ledger = ledger) := by
  have ends : (Service.native config market prices).Ends host frame input settled := by
    rw [computed]
    exact Service.compute_ends _ _ _ _ rfl
  refine ⟨Service.ends_offered _ _ _ _ _ ends, Service.ends_gated _ _ _ _ _ ends returns,
    Service.ends_succeeds _ _ _ _ _ ends, Service.ends_affordable _ _ _ _ _ ends,
    Service.ends_take _ _ _ _ _ ends, fun failed ledger => ?_⟩
  rw [Settled.ledgerAfter, Service.ends_unapplied _ _ _ _ _ ends failed]

namespace Sample

def holder : AccountId := .ofNum 1001

def friend : AccountId := .ofNum 1002

def coin : TokenId := .ofNum 2001

def art : TokenId := .ofNum 2002

def key : Key := .ed25519 [7]

-- Two accounts, a fungible token and a non-fungible one; the holder is the treasury of both.
def ledger : Ledger :=
  { accounts := .ofList
      [(holder, { id := holder, key := some key, balance := 50 }), (friend, { id := friend, balance := 5 })]
    tokens := .ofList
      [(coin, { id := coin, treasury := holder, totalSupply := 100, keys := { supply := some key } }),
        (art, { id := art, type := .nonFungible, treasury := holder, totalSupply := 2, lastUsedSerial := 3,
                keys := { supply := some key } })]
    relationships := .ofList
      [(⟨holder, coin⟩, { balance := 70, kycGranted := true }), (⟨friend, coin⟩, { balance := 30, kycGranted := true }),
        (⟨holder, art⟩, { balance := 1, kycGranted := true }), (⟨friend, art⟩, { balance := 1, kycGranted := true })]
    nfts := .ofList
      [(⟨art, 1⟩, { id := ⟨art, 1⟩, owner := holder }), (⟨art, 3⟩, { id := ⟨art, 3⟩, owner := friend })]
    nextEntity := 3000 }

def market : Market :=
  { fee := fun _ _ _ => ⟨0, 0, 0⟩, queryFee := fun _ _ => ⟨0, 0, 0⟩, gasPrice := fun _ _ => 1,
    rate := fun _ => ⟨1, 12⟩ }

def host (ledger : Ledger) : Host :=
  { ledger := some ledger, refuses := fun _ => none, resolve := id, keepsRecords := true,
    signed := fun other => other == key }

def frame : Frame :=
  { sender := holder.toAddress, contract := 0x167, recipient := 0x167, remainingGas := 1000000, value := 0
    isStatic := false, consensusTime := ⟨0, 0⟩, parent := none }

def payment (amount : Int64) : Bytes :=
  ServiceFunction.transferToken.selector.toBytes ++
    Abi.encode ServiceFunction.transferToken.params (coin.toAddress, holder.toAddress, friend.toAddress, amount, ())

def settled (input : Bytes) : Settled := (Service.native {} market .empty).compute (host ledger) frame input

end Sample

theorem payment_all_or_nothing :
    (∃ changes, (Sample.settled (Sample.payment 25)).offered = [changes]) ∧
      (Sample.settled (Sample.payment 71)).ledgerAfter Sample.ledger = Sample.ledger := by
  have paid : (Sample.settled (Sample.payment 25)).succeeds := by decide +kernel
  have failed : ¬ (Sample.settled (Sample.payment 71)).succeeds := by decide +kernel
  have returned : ∀ operation, (Sample.settled (Sample.payment 71)).result ≠ .error (.overflow operation) := by
    have ended : (Sample.settled (Sample.payment 71)).result.isOk = true := by decide +kernel
    intro operation same
    rw [same] at ended
    cases ended
  obtain ⟨_, _, taken, _⟩ := settles_all_or_nothing {} Sample.market .empty (Sample.host Sample.ledger) Sample.frame
    (Sample.payment 25) _ rfl (Settled.success_returns _ paid)
  obtain ⟨_, _, _, _, _, untouched⟩ := settles_all_or_nothing {} Sample.market .empty (Sample.host Sample.ledger)
    Sample.frame (Sample.payment 71) _ rfl returned
  obtain ⟨changes, offered, _⟩ := taken.mp paid
  exact ⟨⟨changes, offered⟩, untouched failed Sample.ledger⟩

end TokenService
