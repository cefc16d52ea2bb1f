import TokenService.Proofs.Ledger.Amending
import TokenService.Proofs.Ledger.Execution
import TokenService.Proofs.Ledger.Isolation
import TokenService.Proofs.Ledger.Tally

set_option autoImplicit false

namespace TokenService

structure Token.Serves (token : Token) (type : TokenType) : Prop where
  live : token.deleted = false
  running : token.paused = false
  kind : token.type = type

@[mk_iff] structure Relationship.Open (row : Relationship) : Prop where
  thawed : row.frozen = false
  cleared : row.kycGranted = true

@[mk_iff] structure HbarReady (spender : AccountId) (adjustment : Adjustment) (view : View) : Prop where
  owner : ∃ row ∈ view.account adjustment.account, row.deleted = false ∧
    Covered row.hbarAllowances spender adjustment ∧ Room row.balance adjustment.amount

@[mk_iff] structure UnitsReady (spender : AccountId) (id : TokenId) (adjustment : Adjustment) (view : View) : Prop where
  token : ∃ token ∈ view.token id, token.Serves .fungible
  owner : ∃ row ∈ view.account adjustment.account, row.deleted = false ∧
    Covered row.tokenAllowances ⟨id, spender⟩ adjustment
  held : ∃ row ∈ view.relationship adjustment.account id, row.Open ∧ Room row.balance adjustment.amount

@[mk_iff] structure MoveReady (spender : AccountId) (id : TokenId) (move : NftMove) (view : View) : Prop where
  apart : move.sender ≠ move.receiver
  token : ∃ token ∈ view.token id, token.Serves .nonFungible
  nft : ∃ nft ∈ view.nft ⟨id, move.serial⟩, nft.owner = move.sender ∧
    (move.approval = true → ∃ row ∈ view.account move.sender, row.deleted = false ∧
      (nft.spender = some spender ∨ row.operators.contains ⟨id, spender⟩ = true))
  receiver : ∃ row ∈ view.account move.receiver, row.deleted = false
  source : ∃ row ∈ view.relationship move.sender id, row.Open
  target : ∃ row ∈ view.relationship move.receiver id, row.Open

def payHbar (spender : AccountId) (adjustment : Adjustment) : View → View :=
  View.amendAccount adjustment.account fun row =>
    { row with
      hbarAllowances := spent row.hbarAllowances spender adjustment
      balance := row.balance + adjustment.amount }

def takeUnits (spender : AccountId) (id : TokenId) (adjustment : Adjustment) : View → View :=
  if Work.draws adjustment then
    View.amendAccount adjustment.account fun row =>
      { row with tokenAllowances := spent row.tokenAllowances ⟨id, spender⟩ adjustment }
  else fun view => view

def gain (holding : Holding) (amount : Int64) : View → View :=
  View.amendRelationship holding fun row => { row with balance := row.balance + amount }

def hand (nft : NftId) (receiver : AccountId) : View → View :=
  View.amendNft nft fun row => { row with owner := receiver, spender := none }

section Found

variable (view : View)

theorem pay_found (rooted : view.merged.Rooted) (spender : AccountId) (adjustment : Adjustment) (row : Account)
    (found : view.account adjustment.account = some row) :
    payHbar spender adjustment view = view.putAccount
      { row with
        hbarAllowances := spent row.hbarAllowances spender adjustment
        balance := row.balance + adjustment.amount } := by
  refine View.amend_account_put _ _ _ row found ?_
  exact View.rooted_account _ _ rooted row found

theorem take_found (rooted : view.merged.Rooted) (spender : AccountId) (id : TokenId) (adjustment : Adjustment)
    (row : Account) (draws : Work.draws adjustment = true) (found : view.account adjustment.account = some row) :
    takeUnits spender id adjustment view =
      view.putAccount { row with tokenAllowances := spent row.tokenAllowances ⟨id, spender⟩ adjustment } := by
  rw [takeUnits, if_pos draws]
  refine View.amend_account_put _ _ _ row found ?_
  exact View.rooted_account _ _ rooted row found

theorem gain_found (account : AccountId) (id : TokenId) (amount : Int64) (row : Relationship)
    (found : view.relationship account id = some row) :
    gain ⟨account, id⟩ amount view = view.putRelationship account id { row with balance := row.balance + amount } :=
  View.amend_relationship_put _ _ _ _ row found

theorem hand_found (rooted : view.merged.Rooted) (id : NftId) (receiver : AccountId) (row : Nft)
    (found : view.nft id = some row) :
    hand id receiver view = view.putNft { row with owner := receiver, spender := none } := by
  refine View.amend_nft_put _ _ _ row found ?_
  exact View.rooted_nft _ rooted _ row found

theorem relationship_take_units (spender : AccountId) (id other : TokenId) (adjustment : Adjustment)
    (account : AccountId) :
    (takeUnits spender id adjustment view).relationship account other = view.relationship account other := by
  unfold takeUnits
  split <;> rfl

end Found

namespace Deed

def Ready (spender : AccountId) (view : View) : Deed → Prop
  | .adjustHbar adjustment => HbarReady spender adjustment view
  | .adjustUnits id adjustment => UnitsReady spender id adjustment view
  | .moveNft id move => MoveReady spender id move view
  | _ => False

def effect (spender : AccountId) : Deed → View → View
  | .adjustHbar adjustment => payHbar spender adjustment
  | .adjustUnits id adjustment => gain ⟨adjustment.account, id⟩ adjustment.amount ∘ takeUnits spender id adjustment
  | .moveNft id move =>
      hand ⟨id, move.serial⟩ move.receiver ∘ gain ⟨move.receiver, id⟩ 1 ∘ gain ⟨move.sender, id⟩ (-1)
  | _ => fun view => view

structure Makes (spender : AccountId) (deed : Deed) (before after : View) : Prop where
  ready : deed.Ready spender before
  made : after = deed.effect spender before

end Deed

def View.Counts (view : View) (id : TokenId) : Prop :=
  ∀ account held, view.relationship account id = some held →
    held.balance.toInt = view.merged.serialsOwned account id

-- The balances of non-fungible tokens count NFTs, and a token has no more NFTs than a balance can count.
structure View.Accounted (view : View) : Prop where
  rooted : view.merged.Rooted
  counts : ∀ id token, view.Exists id token → token.type = .nonFungible → view.Counts id
  few : ∀ id token, view.Exists id token → token.type = .nonFungible →
    view.merged.serials id ≤ Int64.maxValue.toInt

-- Where the supply of a token is the number of its NFTs, that number is one that a balance can count.
theorem accounted_of_tallied (view : View) (rooted : view.merged.Rooted) (tallied : view.Tallied) : view.Accounted where
  rooted := rooted
  counts := fun id token existing kind account held found =>
    (View.units_found view account id held found).symm.trans ((tallied id token existing kind).holdings account)
  few := fun id token existing kind => (tallied id token existing kind).supply ▸ token.totalSupply.toInt_le

section Counts

theorem owned_nonneg (ledger : Ledger) (account : AccountId) (id : TokenId) : 0 ≤ ledger.serialsOwned account id :=
  Table.total_nonneg _ _ fun nft row _ => one_nonneg (nft.token = id ∧ row.owner = account)

theorem owned_apart (ledger : Ledger) (account : AccountId) (nft : NftId) (row : Nft)
    (found : ledger.nfts.get? nft = some row) (apart : row.owner ≠ account) :
    ledger.serialsOwned account nft.token + 1 ≤ ledger.serials nft.token := by
  have others := Table.weight_le_total
    (fun other held => one (other.token = nft.token) - one (other.token = nft.token ∧ held.owner = account))
    ledger.nfts nft row (fun other held _ => ?_) found
  · rw [one_true _ rfl, one_false _ fun both => apart both.2, Table.total_sub] at others
    have sum : ledger.serials nft.token = ledger.nfts.total fun other _ => one (other.token = nft.token) := rfl
    have owned : ledger.serialsOwned account nft.token =
        ledger.nfts.total fun other held => one (other.token = nft.token ∧ held.owner = account) := rfl
    omega
  · by_cases about : other.token = nft.token
    · rw [one_true _ about]
      unfold one
      split <;> omega
    · rw [one_false _ about, one_false _ fun both => about both.1]
      omega

end Counts

namespace Work

variable (spender : AccountId) (before after : View)

theorem hbar_makes_iff (rooted : before.merged.Rooted) (adjustment : Adjustment) :
    (adjustHbar spender adjustment).Yields before () after ↔
      (Deed.adjustHbar adjustment).Makes spender before after := by
  simp only [adjustHbar, yields_bind, yields_read, drawn_yields, adjusted_yields, yields_change, View.live_account_ok,
    and_assoc, exists_and_left, exists_eq_left]
  constructor
  · rintro ⟨row, found, live, covered, room, rfl⟩
    exact ⟨⟨row, found, live, covered, room⟩, (pay_found _ rooted spender adjustment row found).symm⟩
  · rintro ⟨⟨row, found, live, covered, room⟩, rfl⟩
    exact ⟨row, found, live, covered, room, pay_found _ rooted spender adjustment row found⟩

theorem draw_units_yields (rooted : before.merged.Rooted) (id : TokenId) (adjustment : Adjustment) (owner : Account)
    (found : before.account adjustment.account = some owner) :
    (drawUnits spender id adjustment owner).Yields before () after ↔
      Covered owner.tokenAllowances ⟨id, spender⟩ adjustment ∧ after = takeUnits spender id adjustment before := by
  unfold drawUnits
  by_cases draws : Work.draws adjustment = true
  · rw [if_pos draws, take_found _ rooted spender id adjustment owner draws found]
    simp only [yields_bind, yields_change, draw_yields _ _ _ _ _ _ draws]
    constructor
    · rintro ⟨_, _, ⟨covered, rfl, rfl⟩, rfl⟩
      exact ⟨covered, rfl⟩
    · rintro ⟨covered, rfl⟩
      exact ⟨_, before, ⟨covered, rfl, rfl⟩, rfl⟩
  · rw [if_neg draws, takeUnits, if_neg draws, yields_pure]
    exact and_congr_left fun _ => ⟨fun _ drawing => absurd drawing draws, fun _ => rfl⟩

theorem units_makes_iff (rooted : before.merged.Rooted) (id : TokenId) (token : Token)
    (usable : before.Usable id token) (fungible : token.type = .fungible) (adjustment : Adjustment) :
    (adjustUnits spender id adjustment).Yields before () after ↔
      (Deed.adjustUnits id adjustment).Makes spender before after := by
  have made (held : Relationship) (present : before.relationship adjustment.account id = some held) :
      (Deed.adjustUnits id adjustment).effect spender before =
        (takeUnits spender id adjustment before).putRelationship adjustment.account id
          { held with balance := held.balance + adjustment.amount } := by
    refine gain_found _ _ _ _ held ?_
    rw [relationship_take_units]
    exact present
  simp only [adjustUnits, yields_bind, yields_read, adjusted_yields, yields_change, View.live_account_ok,
    View.usable_relationship_ok, and_assoc, exists_and_left, exists_eq_left]
  constructor
  · rintro ⟨owner, found, live, held, present, thawed, cleared, _, _, drawn, room, rfl⟩
    obtain ⟨covered, rfl⟩ := (draw_units_yields spender _ _ rooted id adjustment owner found).mp drawn
    exact ⟨⟨⟨token, usable.found, usable.live, usable.running, fungible⟩, ⟨owner, found, live, covered⟩,
      ⟨held, present, ⟨thawed, cleared⟩, room⟩⟩, (made held present).symm⟩
  · rintro ⟨⟨_, ⟨owner, found, live, covered⟩, ⟨held, present, ⟨thawed, cleared⟩, room⟩⟩, rfl⟩
    have drawn := (draw_units_yields spender before _ rooted id adjustment owner found).mpr ⟨covered, rfl⟩
    exact ⟨owner, found, live, held, present, thawed, cleared, (), _, drawn, room, made held present⟩

section Moves

variable (accounted : before.Accounted) (id : TokenId) (token : Token) (usable : before.Usable id token)
  (nonFungible : token.type = .nonFungible) (move : NftMove) (apart : move.sender ≠ move.receiver) (nft : Nft)
  (found : before.nft ⟨id, move.serial⟩ = some nft) (source target : Relationship)
  (sends : before.relationship move.sender id = some source)
  (receives : before.relationship move.receiver id = some target)

-- The sender's balance counts this serial, and the receiver's does not count it yet.
include accounted usable nonFungible apart found sends receives in
theorem move_rooms (owned : nft.owner = move.sender) : Room source.balance (-1) ∧ Room target.balance 1 := by
  have counts := accounted.counts id token usable.toExists nonFungible
  have few := accounted.few id token usable.toExists nonFungible
  have sent := counts move.sender source sends
  have received := counts move.receiver target receives
  have there := (View.merged_nft before _).trans found
  have one : 1 ≤ before.merged.serialsOwned move.sender id := owned ▸ owned_positive before.merged _ nft there
  have others : before.merged.serialsOwned move.receiver id + 1 ≤ before.merged.serials id :=
    owned_apart before.merged move.receiver _ nft there (owned.trans_ne apart)
  have least := owned_nonneg before.merged move.receiver id
  have top := source.balance.toInt_le
  have down : (-1 : Int64).toInt = -1 := by decide
  have up : (1 : Int64).toInt = 1 := by decide
  exact ⟨⟨by omega, by omega⟩, ⟨by omega, by omega⟩⟩

include accounted apart found sends receives in
theorem move_effect : (Deed.moveNft id move).effect spender before =
    ((before.putRelationship move.sender id { source with balance := source.balance + -1 }).putRelationship
      move.receiver id { target with balance := target.balance + 1 }).putNft
        { nft with owner := move.receiver, spender := none } := by
  simp only [Deed.effect, Function.comp_apply]
  rw [gain_found _ _ _ _ source sends, gain_found _ _ _ _ target, hand_found _ _ _ _ nft]
  · exact found
  · exact View.rooted_put_relationship _ (View.rooted_put_relationship _ accounted.rooted _ _ _) _ _ _
  · rw [View.relationship_put_relationship, if_neg fun both => apart both.1.symm]
    exact receives

include accounted usable nonFungible apart in
theorem move_makes_iff :
    (moveNft spender id move).Yields before () after ↔ (Deed.moveNft id move).Makes spender before after := by
  simp only [moveNft, yields_bind, yields_read, yields_discard, yields_require, adjusted_yields, yields_change,
    approval_yields, View.demand_ok, View.live_account_ok, View.usable_relationship_ok, beq_iff_eq, and_assoc,
    exists_and_left, exists_eq_left, exists_const]
  constructor
  · rintro ⟨nft, found, owned, approved, _, ⟨receiver, live, active, rfl⟩, source, sends, thawed, cleared,
      target, receives, warm, known, _, _, rfl⟩
    exact ⟨⟨apart, ⟨token, usable.found, usable.live, usable.running, nonFungible⟩, ⟨nft, found, owned, approved⟩,
      ⟨receiver, live, active⟩, ⟨source, sends, thawed, cleared⟩, ⟨target, receives, warm, known⟩⟩,
      (move_effect spender _ accounted id move apart nft found source target sends receives).symm⟩
  · rintro ⟨⟨_, _, ⟨nft, found, owned, approved⟩, ⟨receiver, live, active⟩, ⟨source, sends, thawed, cleared⟩,
      ⟨target, receives, warm, known⟩⟩, rfl⟩
    obtain ⟨loss, gain⟩ := move_rooms before accounted id token usable nonFungible move apart nft found source target
      sends receives owned
    exact ⟨nft, found, owned, approved, before, ⟨receiver, live, active, rfl⟩, source, sends, thawed, cleared, target,
      receives, warm, known, loss, gain,
      move_effect spender before accounted id move apart nft found source target sends receives⟩

end Moves

end Work

section Counted

variable (view : View) (id : TokenId) (counts : view.Counts id)
include counts

theorem counts_put_relationship (account : AccountId) (about : TokenId) (row : Relationship) (apart : id ≠ about) :
    (view.putRelationship account about row).Counts id := by
  intro holder held found
  rw [View.relationship_put_relationship, if_neg fun both => apart both.2] at found
  exact counts holder held found

theorem counts_put_nft (row old : Nft) (found : view.nft row.id = some old) (apart : row.id.token ≠ id) :
    (view.putNft row).Counts id := by
  intro holder held present
  rw [(same_items_put_again view id row old found fun same => absurd same apart).owned]
  exact counts holder held present

theorem counts_moved (nft : Nft) (serial : Int64) (sender receiver : AccountId) (source target : Relationship)
    (left gained : Int64) (apart : sender ≠ receiver) (found : view.nft ⟨id, serial⟩ = some nft)
    (own : nft.id = ⟨id, serial⟩) (owned : nft.owner = sender) (sends : view.relationship sender id = some source)
    (receives : view.relationship receiver id = some target) (loss : Shifted source.balance (-1) left)
    (gain : Shifted target.balance 1 gained) :
    (((view.putRelationship sender id { source with balance := left }).putRelationship receiver id
      { target with balance := gained }).putNft { nft with owner := receiver, spender := none }).Counts id := by
  intro account held present
  -- A move opens no relationship, so the account had a balance that counted its NFTs before.
  have before : ∃ row, view.relationship account id = some row := by
    rw [View.relationship_put_nft, View.relationship_put_relationship, View.relationship_put_relationship] at present
    by_cases gets : account = receiver
    · exact ⟨target, gets ▸ receives⟩
    · by_cases gives : account = sender
      · exact ⟨source, gives ▸ sends⟩
      · rw [if_neg fun both => gets both.1, if_neg fun both => gives both.1] at present
        exact ⟨held, present⟩
  obtain ⟨row, there⟩ := before
  have start := (View.units_found view account id row there).trans (counts account row there)
  rw [← View.units_found _ account id held present]
  exact moved_holdings view id nft serial sender receiver source target left gained apart found own owned sends receives
    loss gain account start

end Counted

section Kept

variable (spender : AccountId) (now : Timestamp) (deed : Deed) (before after : View)

theorem accounted_does (transfers : deed.transfers = true)
    (apart : ∀ id move, deed = .moveNft id move → move.sender ≠ move.receiver)
    (does : deed.Does spender now before after) (accounted : before.Accounted) : after.Accounted := by
  have rooted := deed_rooted spender now deed before after does accounted.rooted
  have quiet : deed.definesToken = false := by
    cases deed with
    | adjustHbar | adjustUnits | moveNft => rfl
    | _ => cases transfers
  have there := exists_before spender now deed before after quiet does
  -- Units are of fungible tokens, so the balances that they change count no NFTs.
  have other (id about : TokenId) (row fungible : Token) (existing : after.Exists id row)
      (kind : row.type = .nonFungible) (usable : before.Usable about fungible) (type : fungible.type = .fungible) :
      id ≠ about := by
    rintro rfl
    cases (there id row existing).found.symm.trans usable.found
    exact nomatch kind.symm.trans type
  refine ⟨rooted, fun id row existing kind => ?_, fun id row existing kind => ?_⟩
  · have counts := accounted.counts id row (there id row existing) kind
    cases does with
    | adjustHbar => exact counts
    | @adjustUnits about _ _ fungible _ _ _ usable type =>
        exact counts_put_relationship before id counts _ about _ (other id about row fungible existing kind usable type)
    | @drawUnits about _ _ fungible _ _ _ _ usable type =>
        exact counts_put_relationship _ id counts _ about _ (other id about row fungible existing kind usable type)
    | @moveNft about move _ _ nft _ source target left gained _ _ present own owned _ _ sends receives loss gain =>
        by_cases same : id = about
        · subst same
          exact counts_moved before id counts nft move.serial move.sender move.receiver source target left gained
            (apart id move rfl) present own owned sends.found receives.found loss gain
        · have sent := counts_put_relationship before id counts move.sender about { source with balance := left } same
          have received := counts_put_relationship _ id sent move.receiver about { target with balance := gained } same
          refine counts_put_nft _ id received { nft with owner := move.receiver, spender := none } nft ?_ fun here => ?_
          · rw [own]
            exact present
          · exact same (here.symm.trans (congrArg NftId.token own))
    | _ => cases transfers
  · have few := accounted.few id row (there id row existing) kind
    cases does with
    | adjustHbar | adjustUnits | drawUnits => exact few
    | @moveNft about move _ row nft receiver source target left gained usable nonFungible present own =>
        rw [View.serials_put_again _ id { nft with owner := move.receiver, spender := none } nft]
        · exact few
        · rw [own]
          exact present
    | _ => cases transfers

theorem serves_usable (rooted : before.merged.Rooted) (id : TokenId) (type : TokenType) (token : Token)
    (found : token ∈ before.token id) (serves : token.Serves type) : before.Usable id token :=
  ⟨⟨found, View.rooted_token _ _ rooted token found, serves.live⟩, serves.running⟩

theorem makes_accounted (accounted : before.Accounted) (makes : deed.Makes spender before after) :
    after.Accounted := by
  have rooted := accounted.rooted
  cases deed with
  | adjustHbar adjustment =>
      have run := (Work.hbar_makes_iff spender before after rooted adjustment).mpr makes
      have does := Work.adjust_hbar_does spender ⟨0, 0⟩ before after rooted adjustment run
      exact accounted_does spender _ _ _ _ rfl (fun _ _ same => by cases same) does accounted
  | adjustUnits id adjustment =>
      obtain ⟨token, found, serves⟩ := UnitsReady.token makes.ready
      have usable := serves_usable before rooted id _ token found serves
      have run := (Work.units_makes_iff spender before after rooted id token usable serves.kind adjustment).mpr makes
      have does := Work.adjust_units_does spender ⟨0, 0⟩ before after rooted id token usable serves.kind adjustment run
      exact accounted_does spender _ _ _ _ rfl (fun _ _ same => by cases same) does accounted
  | moveNft id move =>
      have ready : MoveReady spender id move before := makes.ready
      obtain ⟨token, found, serves⟩ := ready.token
      have usable := serves_usable before rooted id _ token found serves
      have run := (Work.move_makes_iff spender before after accounted id token usable serves.kind move
        ready.apart).mpr makes
      have does := Work.move_nft_does spender ⟨0, 0⟩ before after rooted id token usable serves.kind move run
      refine accounted_does spender _ _ _ _ rfl (fun other another same => ?_) does accounted
      cases same
      exact ready.apart
  | _ => exact makes.ready.elim

end Kept

end TokenService
