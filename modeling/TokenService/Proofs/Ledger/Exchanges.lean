import TokenService.Proofs.Ledger.Readiness

set_option autoImplicit false

namespace TokenService

theorem rel_exists {ρ : Type} {R : ρ → ρ → Prop} {before after : Option ρ} (rel : Option.Rel R before after)
    (P Q : ρ → Prop) (alike : ∀ row other, R row other → (P other ↔ Q row)) :
    (∃ row ∈ after, P row) ↔ ∃ row ∈ before, Q row := by
  cases rel with
  | some related => simpa using alike _ _ related
  | none => simp

theorem rel_same {ρ : Type} {R : ρ → ρ → Prop} (row : Option ρ) (same : ∀ row, R row row) : Option.Rel R row row := by
  cases row with
  | some row => exact .some (same row)
  | none => exact .none

theorem rel_map {ρ : Type} {R : ρ → ρ → Prop} (row : Option ρ) (amend : ρ → ρ) (amended : ∀ row, R row (amend row)) :
    Option.Rel R row (row.map amend) := by
  cases row with
  | some row => exact .some (amended row)
  | none => exact .none

theorem rel_mono {ρ : Type} {R S : ρ → ρ → Prop} {before after : Option ρ} (rel : Option.Rel R before after)
    (weaker : ∀ row other, R row other → S row other) : Option.Rel S before after := by
  cases rel with
  | some related => exact .some (weaker _ _ related)
  | none => exact .none

theorem rel_trans {ρ : Type} {R S T : ρ → ρ → Prop} {first second third : Option ρ} (left : Option.Rel R first second)
    (right : Option.Rel S second third) (both : ∀ row middle last, R row middle → S middle last → T row last) :
    Option.Rel T first third := by
  cases left with
  | some one =>
      cases right with
      | some other => exact .some (both _ _ _ one other)
  | none =>
      cases right
      exact .none

-- What a gain leaves of a relationship: a spared one also has its balance.
structure Relationship.Retains (row : Relationship) (spared : Prop) (after : Relationship) : Prop where
  frozen : after.frozen = row.frozen
  kycGranted : after.kycGranted = row.kycGranted
  balance : spared → after.balance = row.balance

theorem retains_open (spared : Prop) (row after : Relationship) (retains : row.Retains spared after) :
    after.Open ↔ row.Open := by
  rw [Relationship.open_iff, Relationship.open_iff, retains.frozen, retains.kycGranted]

theorem gain_retains (view : View) (holding : Holding) (amount : Int64) (account : AccountId) (token : TokenId) :
    Option.Rel (fun row => row.Retains (⟨account, token⟩ ≠ holding)) (view.relationship account token)
      ((gain holding amount view).relationship account token) := by
  rw [gain, View.relationship_amend_relationship]
  by_cases here : (⟨account, token⟩ : Holding) = holding
  · rw [if_pos here]
    exact rel_map _ _ fun row => ⟨rfl, rfl, fun spared => absurd here spared⟩
  · rw [if_neg here]
    exact rel_same _ fun row => ⟨rfl, rfl, fun _ => rfl⟩

theorem relationship_hand (view : View) (nft : NftId) (receiver account : AccountId) (token : TokenId) :
    (hand nft receiver view).relationship account token = view.relationship account token := rfl

namespace Deed

def collection : Deed → Option TokenId
  | .moveNft token _ => some token
  | _ => none

-- Two deeds that are not about the hbar of one account, one holding of units or one NFT.
structure Apart (deed other : Deed) : Prop where
  purses : ∀ id ∈ deed.purse, id ∉ other.purse
  stakes : ∀ holding ∈ deed.stake, holding ∉ other.stake
  serials : ∀ nft ∈ deed.serial, nft ∉ other.serial

theorem apart_symm (deed other : Deed) (apart : deed.Apart other) : other.Apart deed where
  purses := fun id theirs mine => apart.purses id mine theirs
  stakes := fun holding theirs mine => apart.stakes holding mine theirs
  serials := fun nft theirs mine => apart.serials nft mine theirs

structure SparesAccount (spender : AccountId) (deed : Deed) (id : AccountId) (row after : Account) : Prop where
  deleted : after.deleted = row.deleted
  operators : after.operators = row.operators
  purse : id ∉ deed.purse → after.balance = row.balance ∧ after.hbarAllowances = row.hbarAllowances
  stake : ∀ token, (⟨id, token⟩ : Holding) ∉ deed.stake →
    after.tokenAllowances.get? ⟨token, spender⟩ = row.tokenAllowances.get? ⟨token, spender⟩

section Frames

variable (spender : AccountId) (deed : Deed) (view : View)

theorem effect_token (id : TokenId) : (deed.effect spender view).token id = view.token id := by
  cases deed with
  | adjustUnits about adjustment =>
      change (takeUnits spender about adjustment view).token id = view.token id
      unfold takeUnits
      split <;> rfl
  | _ => rfl

theorem effect_account (id : AccountId) :
    Option.Rel (deed.SparesAccount spender id) (view.account id) ((deed.effect spender view).account id) := by
  have same (row : Account) : deed.SparesAccount spender id row row := ⟨rfl, rfl, fun _ => ⟨rfl, rfl⟩, fun _ _ => rfl⟩
  cases deed with
  | adjustHbar adjustment =>
      rw [effect, payHbar, View.account_amend_account]
      by_cases here : id = adjustment.account
      · rw [if_pos here]
        refine rel_map _ _ fun row => ⟨rfl, rfl, fun spared => ?_, fun _ _ => rfl⟩
        exact absurd (congrArg some here.symm) spared
      · rw [if_neg here]
        exact rel_same _ same
  | adjustUnits about adjustment =>
      change Option.Rel _ (view.account id) ((takeUnits spender about adjustment view).account id)
      unfold takeUnits
      split
      · rw [View.account_amend_account]
        by_cases here : id = adjustment.account
        · rw [if_pos here]
          refine rel_map _ _ fun row => ⟨rfl, rfl, fun _ => ⟨rfl, rfl⟩, fun token spared => ?_⟩
          rw [get_spent, if_neg]
          rintro ⟨⟩
          exact spared (congrArg (fun id => some (Holding.mk id about)) here.symm)
        · rw [if_neg here]
          exact rel_same _ same
      · exact rel_same _ same
  | _ => exact rel_same _ same

theorem effect_relationship (account : AccountId) (token : TokenId) :
    Option.Rel (fun row => row.Retains (⟨account, token⟩ ∉ deed.stake ∧ token ∉ deed.collection))
      (view.relationship account token) ((deed.effect spender view).relationship account token) := by
  cases deed with
  | adjustUnits about adjustment =>
      rw [← relationship_take_units view spender about token adjustment account]
      refine rel_mono (gain_retains _ _ _ _ _) fun row last gained => ?_
      exact ⟨gained.frozen, gained.kycGranted, fun spared =>
        gained.balance fun here => spared.1 (congrArg some here.symm)⟩
  | moveNft about move =>
      rw [effect, Function.comp_apply, Function.comp_apply, relationship_hand]
      refine rel_trans (gain_retains view _ _ _ _) (gain_retains _ _ _ _ _) fun row middle last loss gained => ?_
      refine ⟨gained.frozen.trans loss.frozen, gained.kycGranted.trans loss.kycGranted, fun spared => ?_⟩
      have apart : token ≠ about := fun here => spared.2 (congrArg some here.symm)
      have sent := loss.balance fun here => apart (congrArg Holding.token here)
      exact (gained.balance fun here => apart (congrArg Holding.token here)).trans sent
  | _ => exact rel_same _ fun row => ⟨rfl, rfl, fun _ => rfl⟩

theorem effect_nft (nft : NftId) (spared : nft ∉ deed.serial) : (deed.effect spender view).nft nft = view.nft nft := by
  cases deed with
  | adjustUnits about adjustment =>
      change (takeUnits spender about adjustment view).nft nft = view.nft nft
      unfold takeUnits
      split <;> rfl
  | moveNft about move =>
      refine (View.nft_amend_nft _ _ _ _).trans (if_neg fun here => ?_)
      exact spared (congrArg some here.symm)
  | _ => rfl

end Frames

section Readiness

variable (spender : AccountId) (view : View) (other : Deed)

theorem covered_congr {κ : Type} [Ord κ] (before after : Table κ Int64) (key : κ) (adjustment : Adjustment)
    (same : after.get? key = before.get? key) : Covered after key adjustment ↔ Covered before key adjustment := by
  rw [Covered, same]
  exact Iff.rfl

theorem hbar_ready_after (adjustment : Adjustment) (spared : adjustment.account ∉ other.purse) :
    HbarReady spender adjustment (other.effect spender view) ↔ HbarReady spender adjustment view := by
  rw [hbarReady_iff, hbarReady_iff]
  refine rel_exists (effect_account spender other view adjustment.account) _ _ fun row after spares => ?_
  obtain ⟨balance, allowances⟩ := spares.purse spared
  rw [spares.deleted, balance, allowances]

theorem units_ready_after (id : TokenId) (adjustment : Adjustment)
    (spared : (⟨adjustment.account, id⟩ : Holding) ∉ other.stake) (elsewhere : id ∉ other.collection) :
    UnitsReady spender id adjustment (other.effect spender view) ↔ UnitsReady spender id adjustment view := by
  rw [unitsReady_iff, unitsReady_iff, effect_token]
  refine and_congr_right' (and_congr ?_ ?_)
  · refine rel_exists (effect_account spender other view adjustment.account) _ _ fun row after spares => ?_
    rw [spares.deleted, covered_congr _ _ _ _ (spares.stake id spared)]
  · refine rel_exists (effect_relationship spender other view adjustment.account id) _ _ fun row after retains => ?_
    rw [retains_open _ _ _ retains, retains.balance ⟨spared, elsewhere⟩]

theorem open_after (account : AccountId) (token : TokenId) :
    (∃ row ∈ (other.effect spender view).relationship account token, row.Open) ↔
      ∃ row ∈ view.relationship account token, row.Open :=
  rel_exists (effect_relationship spender other view account token) _ _ fun _ _ retains => retains_open _ _ _ retains

theorem move_ready_after (id : TokenId) (move : NftMove) (spared : (⟨id, move.serial⟩ : NftId) ∉ other.serial) :
    MoveReady spender id move (other.effect spender view) ↔ MoveReady spender id move view := by
  have approved (nft : Nft) : (∃ row ∈ (other.effect spender view).account move.sender, row.deleted = false ∧
      (nft.spender = some spender ∨ row.operators.contains ⟨id, spender⟩ = true)) ↔
        ∃ row ∈ view.account move.sender, row.deleted = false ∧
          (nft.spender = some spender ∨ row.operators.contains ⟨id, spender⟩ = true) := by
    refine rel_exists (effect_account spender other view move.sender) _ _ fun row after spares => ?_
    rw [spares.deleted, spares.operators]
  have received : (∃ row ∈ (other.effect spender view).account move.receiver, row.deleted = false) ↔
      ∃ row ∈ view.account move.receiver, row.deleted = false := by
    refine rel_exists (effect_account spender other view move.receiver) _ _ fun row after spares => ?_
    rw [spares.deleted]
  rw [moveReady_iff, moveReady_iff, effect_token, effect_nft _ _ _ _ spared, received, open_after, open_after]
  simp only [approved]

theorem kinds_apart (id : TokenId) (units : ∃ token ∈ view.token id, token.Serves .fungible)
    (nfts : ∃ token ∈ view.token id, token.Serves .nonFungible) : False := by
  obtain ⟨token, found, serves⟩ := units
  obtain ⟨same, again, other⟩ := nfts
  cases found.symm.trans again
  exact nomatch serves.kind.symm.trans other.kind

-- Units and NFTs are not of one token, so of a deed that is ready and one that is not about its rows, each is ready
-- after the other exactly when it is before it.
theorem ready_after (deed : Deed) (apart : deed.Apart other) (ready : other.Ready spender view) :
    deed.Ready spender (other.effect spender view) ↔ deed.Ready spender view := by
  cases deed with
  | adjustHbar adjustment => exact hbar_ready_after spender view other adjustment (apart.purses _ rfl)
  | adjustUnits id adjustment =>
      by_cases elsewhere : id ∈ other.collection
      · cases other with
        | moveNft about move =>
            cases elsewhere
            have never (seen : View) (same : seen.token id = view.token id) : ¬ UnitsReady spender id adjustment seen :=
              fun units => kinds_apart view id (same ▸ units.token) ready.token
            exact iff_of_false (never _ (effect_token spender _ view id)) (never view rfl)
        | _ => cases elsewhere
      · exact units_ready_after spender view other id adjustment (apart.stakes _ rfl) elsewhere
  | moveNft id move => exact move_ready_after spender view other id move (apart.serials _ rfl)
  | _ => exact Iff.rfl

end Readiness

section Orders

variable (spender : AccountId) (other : Deed)

theorem take_commutes_of_amend (id : TokenId) (adjustment : Adjustment) (change : View → View)
    (free : Function.Commute (View.amendAccount adjustment.account fun row =>
      { row with tokenAllowances := spent row.tokenAllowances ⟨id, spender⟩ adjustment }) change) :
    Function.Commute (takeUnits spender id adjustment) change := by
  unfold takeUnits
  split
  · exact free
  · exact Function.Commute.id_left

theorem gains_commute (holding second : Holding) (amount more : Int64) :
    Function.Commute (gain holding amount) (gain second more) := by
  refine View.amend_relationships_commute _ _ _ _ fun _ row => ?_
  rw [Int64.add_assoc, Int64.add_comm more, ← Int64.add_assoc]

theorem pay_take_commute (adjustment second : Adjustment) (id : TokenId) :
    Function.Commute (payHbar spender adjustment) (takeUnits spender id second) :=
  (take_commutes_of_amend spender id second _ (View.amend_accounts_commute _ _ _ _ fun _ _ => rfl)).symm

theorem pay_gain_commute (adjustment : Adjustment) (holding : Holding) (amount : Int64) :
    Function.Commute (payHbar spender adjustment) (gain holding amount) := View.amend_account_relationship _ _ _ _

theorem pay_hand_commute (adjustment : Adjustment) (nft : NftId) (receiver : AccountId) :
    Function.Commute (payHbar spender adjustment) (hand nft receiver) := View.amend_account_nft _ _ _ _

theorem takes_commute (id about : TokenId) (adjustment second : Adjustment)
    (apart : (⟨adjustment.account, id⟩ : Holding) ≠ ⟨second.account, about⟩) :
    Function.Commute (takeUnits spender id adjustment) (takeUnits spender about second) := by
  refine take_commutes_of_amend spender id adjustment _ (take_commutes_of_amend spender about second _ ?_).symm
  refine View.amend_accounts_commute _ _ _ _ fun same row => ?_
  rw [spent_comm]
  rintro ⟨⟩
  exact apart (congrArg (fun account => Holding.mk account id) same.symm)

theorem take_gain_commute (id : TokenId) (adjustment : Adjustment) (holding : Holding) (amount : Int64) :
    Function.Commute (takeUnits spender id adjustment) (gain holding amount) :=
  take_commutes_of_amend spender id adjustment _ (View.amend_account_relationship _ _ _ _)

theorem take_hand_commute (id : TokenId) (adjustment : Adjustment) (nft : NftId) (receiver : AccountId) :
    Function.Commute (takeUnits spender id adjustment) (hand nft receiver) :=
  take_commutes_of_amend spender id adjustment _ (View.amend_account_nft _ _ _ _)

theorem gain_hand_commute (holding : Holding) (amount : Int64) (nft : NftId) (receiver : AccountId) :
    Function.Commute (gain holding amount) (hand nft receiver) := View.amend_relationship_nft _ _ _ _

theorem pay_commutes (adjustment : Adjustment) (spared : adjustment.account ∉ other.purse) :
    Function.Commute (payHbar spender adjustment) (other.effect spender) := by
  cases other with
  | adjustHbar second =>
      exact View.amend_accounts_commute _ _ _ _ fun same => absurd (congrArg some same.symm) spared
  | adjustUnits id second =>
      exact (pay_gain_commute spender adjustment _ _).comp_right (pay_take_commute spender adjustment second id)
  | moveNft id move =>
      exact (pay_hand_commute spender adjustment _ _).comp_right
        ((pay_gain_commute spender adjustment _ _).comp_right (pay_gain_commute spender adjustment _ _))
  | _ => exact Function.Commute.id_right

theorem take_commutes (id : TokenId) (adjustment : Adjustment)
    (spared : (⟨adjustment.account, id⟩ : Holding) ∉ other.stake) :
    Function.Commute (takeUnits spender id adjustment) (other.effect spender) := by
  cases other with
  | adjustHbar second => exact (pay_take_commute spender second adjustment id).symm
  | adjustUnits about second =>
      exact (take_gain_commute spender id adjustment _ _).comp_right
        (takes_commute spender id about adjustment second fun same => spared (congrArg some same.symm))
  | moveNft about move =>
      exact (take_hand_commute spender id adjustment _ _).comp_right
        ((take_gain_commute spender id adjustment _ _).comp_right (take_gain_commute spender id adjustment _ _))
  | _ => exact Function.Commute.id_right

theorem gain_commutes (holding : Holding) (amount : Int64) :
    Function.Commute (gain holding amount) (other.effect spender) := by
  cases other with
  | adjustHbar second => exact (pay_gain_commute spender second _ _).symm
  | adjustUnits about second =>
      exact (gains_commute _ _ _ _).comp_right (take_gain_commute spender about second _ _).symm
  | moveNft about move =>
      exact (gain_hand_commute _ _ _ _).comp_right ((gains_commute _ _ _ _).comp_right (gains_commute _ _ _ _))
  | _ => exact Function.Commute.id_right

theorem hand_commutes (nft : NftId) (receiver : AccountId) (spared : nft ∉ other.serial) :
    Function.Commute (hand nft receiver) (other.effect spender) := by
  cases other with
  | adjustHbar second => exact (pay_hand_commute spender second _ _).symm
  | adjustUnits about second =>
      exact (gain_hand_commute _ _ _ _).symm.comp_right (take_hand_commute spender about second _ _).symm
  | moveNft about move =>
      have hands : Function.Commute (hand nft receiver) (hand ⟨about, move.serial⟩ move.receiver) :=
        View.amend_nfts_commute _ _ _ _ fun same => absurd (congrArg some same.symm) spared
      exact hands.comp_right ((gain_hand_commute _ _ _ _).symm.comp_right (gain_hand_commute _ _ _ _).symm)
  | _ => exact Function.Commute.id_right

theorem effects_commute (deed : Deed) (apart : deed.Apart other) :
    Function.Commute (deed.effect spender) (other.effect spender) := by
  cases deed with
  | adjustHbar adjustment => exact pay_commutes spender other adjustment (apart.purses _ rfl)
  | adjustUnits id adjustment =>
      exact (gain_commutes spender other _ _).comp_left (take_commutes spender other id adjustment (apart.stakes _ rfl))
  | moveNft id move =>
      exact (hand_commutes spender other _ _ (apart.serials _ rfl)).comp_left
        ((gain_commutes spender other _ _).comp_left (gain_commutes spender other _ _))
  | _ => exact Function.Commute.id_left

end Orders

theorem makes_swap (spender : AccountId) (deed other : Deed) (apart : deed.Apart other) (before middle after : View)
    (first : deed.Makes spender before middle) (second : other.Makes spender middle after) :
    ∃ between, other.Makes spender before between ∧ deed.Makes spender between after := by
  obtain ⟨ready, rfl⟩ := first
  obtain ⟨later, rfl⟩ := second
  have sooner := (ready_after spender before deed other (apart_symm _ _ apart) ready).mp later
  have still := (ready_after spender before other deed apart sooner).mpr ready
  exact ⟨_, ⟨sooner, rfl⟩, still, (effects_commute spender other deed apart before).symm⟩

end Deed

end TokenService
