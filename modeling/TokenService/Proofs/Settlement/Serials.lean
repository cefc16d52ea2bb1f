import TokenService.Proofs.Ledger.Succession
import TokenService.Proofs.Ledger.Tally
import TokenService.Proofs.Settlement.Runs

set_option autoImplicit false

namespace TokenService

structure Ledger.Agrees (ledger : Ledger) (id : TokenId) (token : Token) : Prop where
  supply : token.totalSupply.toInt = ledger.serials id
  balances : ∀ account held, ledger.relationships.get? ⟨account, id⟩ = some held →
    held.balance.toInt = ledger.serialsOwned account id
  owners : ∀ nft row, ledger.nfts.get? nft = some row → nft.token = id →
    ledger.relationships.get? ⟨row.owner, id⟩ ≠ none
  range : ∀ nft row, ledger.nfts.get? nft = some row → nft.token = id →
    1 ≤ nft.serial.toInt ∧ nft.serial.toInt ≤ token.lastUsedSerial.toInt

-- Rows in their places, no number used that is still free, and every live non-fungible token
-- within its cap and in agreement with its NFTs.
structure Ledger.WellKept (ledger : Ledger) : Prop where
  rooted : ledger.Rooted
  numbered : ledger.Numbered ledger.nextEntity.toNat
  peopled : ledger.Peopled ledger.nextEntity.toNat
  capped : ledger.Capped .nonFungible
  agrees : ∀ id token, ledger.tokens.get? id = some token → token.deleted = false → token.type = .nonFungible →
    ledger.Agrees id token

def Ledger.CountsUp (ledger : Ledger) : Prop :=
  ∀ id token, ledger.tokens.get? id = some token → token.deleted = false → token.type = .nonFungible →
    0 ≤ token.lastUsedSerial.toInt

theorem agrees_of_rows (ledger : Ledger)
    (rows : ∀ entry ∈ ledger.tokens.rows, entry.2.deleted = false → entry.2.type = .nonFungible →
      entry.2.totalSupply.toInt = ledger.serials entry.1 ∧
      (∀ held ∈ ledger.relationships.rows, held.1.token = entry.1 →
        held.2.balance.toInt = ledger.serialsOwned held.1.account entry.1) ∧
      (∀ item ∈ ledger.nfts.rows, item.1.token = entry.1 → ledger.relationships.get? ⟨item.2.owner, entry.1⟩ ≠ none ∧
        1 ≤ item.1.serial.toInt ∧ item.1.serial.toInt ≤ entry.2.lastUsedSerial.toInt))
    (id : TokenId) (token : Token) (found : ledger.tokens.get? id = some token) (live : token.deleted = false)
    (kind : token.type = .nonFungible) : ledger.Agrees id token := by
  obtain ⟨supply, balances, items⟩ := rows (id, token) ((ledger.tokens.get_some_iff id token).mp found) live kind
  have item (nft : NftId) (row : Nft) (present : ledger.nfts.get? nft = some row) :=
    items (nft, row) ((ledger.nfts.get_some_iff nft row).mp present)
  exact ⟨supply, fun account held present =>
      balances (⟨account, id⟩, held) ((ledger.relationships.get_some_iff _ held).mp present) rfl,
    fun nft row present about => (item nft row present about).1,
    fun nft row present about => (item nft row present about).2⟩

section Agreement

variable (view : View) (id : TokenId) (token : Token)

theorem tallies_of_agrees (agrees : view.merged.Agrees id token) (counter : 0 ≤ token.lastUsedSerial.toInt) :
    view.Tallies id token := by
  refine ⟨agrees.supply, fun account => ?_, fun serial there => ?_, counter⟩
  · cases found : view.relationship account id with
    | some held =>
        rw [View.units_found _ _ _ _ found]
        exact agrees.balances account held ((View.merged_relationship _ _ _).trans found)
    -- An account without a relationship holds nothing, and owns nothing since owners have one.
    | none =>
        rw [View.units_absent _ _ _ found]
        refine (owned_zero _ _ _ fun nft row present about same => ?_).symm
        apply agrees.owners nft row present about
        rw [View.merged_relationship, same]
        exact found
  · cases found : view.nft ⟨id, serial⟩ with
    | none => exact absurd found there
    | some row => exact agrees.range ⟨id, serial⟩ row ((View.merged_nft _ _).trans found) rfl

theorem agrees_of_tallies (tallies : view.Tallies id token) : view.merged.Agrees id token := by
  refine ⟨tallies.supply, fun account held found => ?_, fun nft row found about absent => ?_,
    fun nft row found about => ?_⟩
  · rw [View.merged_relationship] at found
    rw [← tallies.holdings account, View.units_found _ _ _ _ found]
  · rw [View.merged_relationship] at absent
    have counted := owned_positive view.merged nft row found
    rw [about, ← tallies.holdings, View.units_absent _ _ _ absent] at counted
    omega
  · obtain ⟨about', serial⟩ := nft
    cases about
    apply tallies.range serial
    rw [← View.merged_nft, found]
    exact Option.some_ne_none _

theorem tallied_iff (rooted : view.merged.Rooted) :
    view.Tallied ↔ (∀ id token, view.merged.tokens.get? id = some token → token.deleted = false →
      token.type = .nonFungible → view.merged.Agrees id token) ∧ view.merged.CountsUp := by
  constructor
  · intro tallied
    have tallies (id : TokenId) (token : Token) (found : view.merged.tokens.get? id = some token)
        (live : token.deleted = false) (kind : token.type = .nonFungible) : view.Tallies id token :=
      tallied id token ⟨(View.merged_token _ _).symm.trans found, rooted.tokens id token found, live⟩ kind
    exact ⟨fun id token found live kind => agrees_of_tallies view id token (tallies id token found live kind),
      fun id token found live kind => (tallies id token found live kind).counter⟩
  · rintro ⟨agrees, counts⟩ id token existing kind
    have found := (View.merged_token view id).trans existing.found
    exact tallies_of_agrees view id token (agrees id token found existing.live kind)
      (counts id token found existing.live kind)

end Agreement

structure View.Kept (view : View) : Prop where
  rooted : view.merged.Rooted
  numbered : view.merged.Numbered view.limit
  peopled : view.merged.Peopled view.limit
  capped : view.merged.Capped .nonFungible
  tallied : view.Tallied

theorem deed_kept (sender : AccountId) (now : Timestamp) (deed : Deed) (proper : deed.Proper) (before after : View)
    (does : deed.Does sender now before after) (kept : before.Kept) : after.Kept :=
  ⟨deed_rooted sender now deed before after does kept.rooted,
    deed_numbered sender now deed before after does kept.numbered,
    deed_peopled sender now deed before after does kept.peopled,
    deed_capped sender now .nonFungible deed proper before after kept.capped does,
    deed_tallied sender now deed proper before after kept.numbered kept.tallied does⟩

theorem carried_well_kept (call : Call) (ledger : Ledger) (body : Body) (view : View)
    (carries : call.Carries ledger body view) (kept : ledger.WellKept ∧ ledger.CountsUp) :
    (view.merged.WellKept ∧ view.merged.CountsUp) ∧
      ledger.Precedes ledger.nextEntity.toNat view.merged view.merged.nextEntity.toNat := by
  obtain ⟨well, counts⟩ := kept
  have start : (View.mk ledger {}).Kept := by
    have rooted : (View.mk ledger {}).merged.Rooted := (View.fresh_merged ledger).symm ▸ well.rooted
    refine ⟨rooted, ?_, ?_, ?_, (tallied_iff _ rooted).mpr ?_⟩
    · exact (View.fresh_merged ledger).symm ▸ well.numbered
    · exact (View.fresh_merged ledger).symm ▸ well.peopled
    · exact (View.fresh_merged ledger).symm ▸ well.capped
    · rw [View.fresh_merged]
      exact ⟨well.agrees, counts⟩
  -- The order from the first ledger on goes through every view on the way.
  have each : ∀ deed ∈ body.deeds, ∀ first next : View,
      deed.Does ((call.host ledger).sender call.frame) call.frame.consensusTime first next →
      (first.Kept ∧ ledger.Precedes ledger.nextEntity.toNat first.merged first.limit) →
      next.Kept ∧ ledger.Precedes ledger.nextEntity.toNat next.merged next.limit := by
    rintro deed member first next does ⟨sound, before⟩
    have further := deed_precedes _ _ deed first next sound.numbered does
    exact ⟨deed_kept _ _ deed (body_proper _ body carries.wellFormed deed member) first next does sound,
      precedes_trans _ _ _ _ _ _ before further⟩
  have first : ledger.Precedes ledger.nextEntity.toNat (View.mk ledger {}).merged (View.mk ledger {}).limit := by
    rw [View.fresh_merged]
    exact precedes_refl ledger _
  obtain ⟨sound, before⟩ := Deeds.keeps _ body.deeds _ _ each carries.done ⟨start, first⟩
  obtain ⟨agrees, counted⟩ := (tallied_iff view sound.rooted).mp sound.tallied
  rw [carries.counted]
  refine ⟨⟨⟨sound.rooted, ?_, ?_, sound.capped, agrees⟩, counted⟩, before⟩
  · rw [carries.counted]
    exact sound.numbered
  · rw [carries.counted]
    exact sound.peopled

/-- Along every run of calls from a well-kept ledger whose serials are counted from zero up, each ledger is well kept
and counts up, no serial counter falls, and no serial comes back that was there once and then was gone. -/
theorem serials_kept_and_never_reused (ledger : Ledger) (kept : ledger.WellKept) (counts : ledger.CountsUp)
    (calls : List Call) :
    (∀ later ∈ history calls ledger, later.WellKept ∧ later.CountsUp) ∧
      (history calls ledger).Pairwise (fun earlier later => ∀ id token, earlier.tokens.get? id = some token →
        ∃ heir, later.tokens.get? id = some heir ∧ token.lastUsedSerial.toInt ≤ heir.lastUsedSerial.toInt) ∧
      (∀ first second third nft, [first, second, third].Sublist (history calls ledger) →
        first.nfts.get? nft ≠ none → second.nfts.get? nft = none → third.nfts.get? nft = none) := by
  obtain ⟨all, ordered⟩ := history_keeps (fun ledger => ledger.WellKept ∧ ledger.CountsUp)
    (fun first second => first.Precedes first.nextEntity.toNat second second.nextEntity.toNat)
    (fun _ kept => kept.1.rooted) (fun ledger => precedes_refl ledger _)
    (fun _ _ _ left right => precedes_trans _ _ _ _ _ _ left right)
    (fun call ledger body view carries kept => carried_well_kept call ledger body view carries kept)
    calls ledger ⟨kept, counts⟩
  refine ⟨fun later reached => (all later reached).1, ordered.imp fun before id token found => ?_,
    fun first second third nft along there gone => ?_⟩
  · obtain ⟨heir, later, _, _, rose⟩ := before.kept id token found
    exact ⟨heir, later, rose⟩
  -- Three ledgers of the run, in order: the first leads to the second, and that one to the third.
  · have chain := ordered.sublist along
    simp only [List.pairwise_cons, List.mem_cons, List.not_mem_nil, or_false, forall_eq_or_imp, forall_eq] at chain
    obtain ⟨⟨left, _⟩, right, _⟩ := chain
    have well := (all first (along.subset List.mem_cons_self)).1.1
    refine gone_for_good first second third _ _ _ left right well.numbered
      (fun other token present found live kind => ?_) nft there gone
    cases item : first.nfts.get? other with
    | none => exact absurd item present
    | some row => exact ((well.agrees _ token found live kind).range other row item rfl).2

namespace Sample

def burning : Bytes :=
  (ServiceFunction.burnToken .signed).selector.toBytes ++
    Abi.encode (ServiceFunction.burnToken .signed).params (art.toAddress, (0 : Int64), ([1] : List Int64), ())

def minting : Bytes :=
  (ServiceFunction.mintToken .signed).selector.toBytes ++
    Abi.encode (ServiceFunction.mintToken .signed).params (art.toAddress, (0 : Int64), ([[7]] : List Bytes), ())

def sunken : Ledger :=
  { accounts := .ofList [(holder, { id := holder, key := some key })]
    tokens := .ofList
      [(art, { id := art, type := .nonFungible, treasury := holder, lastUsedSerial := -5,
               keys := { supply := some key } })]
    relationships := .ofList [(⟨holder, art⟩, { kycGranted := true })]
    nextEntity := 3000 }

theorem ledger_well_kept : ledger.WellKept where
  rooted := ledger_rooted
  numbered := ledger_numbered
  peopled := peopled_of_rows ledger _ (by decide) (by decide)
  capped := capped_of_rows ledger .nonFungible (by decide)
  agrees := agrees_of_rows ledger (by decide)

theorem ledger_counts_up : ledger.CountsUp :=
  every_row ledger.tokens
    (fun _ row => row.deleted = false → row.type = .nonFungible → 0 ≤ row.lastUsedSerial.toInt) (by decide)

theorem sunken_well_kept : sunken.WellKept where
  rooted := rooted_of_rows sunken (by decide) (by decide) (by decide)
  numbered := numbered_of_rows sunken _ (by decide) (by decide) (by decide)
  peopled := peopled_of_rows sunken _ (by decide) (by decide)
  capped := capped_of_rows sunken .nonFungible (by decide)
  agrees := agrees_of_rows sunken (by decide)

end Sample

theorem burnt_serial_not_reused : ∃ second third,
    history [Sample.call Sample.burning, Sample.call Sample.minting] Sample.ledger = [Sample.ledger, second, third] ∧
      second.nfts.get? ⟨Sample.art, 1⟩ = none ∧ third.nfts.get? ⟨Sample.art, 1⟩ = none ∧
      third.nfts.get? ⟨Sample.art, 4⟩ ≠ none := by
  have kept := serials_kept_and_never_reused Sample.ledger Sample.ledger_well_kept Sample.ledger_counts_up
    [Sample.call Sample.burning, Sample.call Sample.minting]
  have there : Sample.ledger.nfts.get? ⟨Sample.art, 1⟩ ≠ none := by decide
  have gone : ((Sample.call Sample.burning).after Sample.ledger).nfts.get? ⟨Sample.art, 1⟩ = none := by
    decide +kernel
  have fresh : ((Sample.call Sample.minting).after ((Sample.call Sample.burning).after Sample.ledger)).nfts.get?
      ⟨Sample.art, 4⟩ ≠ none := by
    decide +kernel
  exact ⟨_, _, rfl, gone, kept.2.2 _ _ _ _ (List.Sublist.refl _) there gone, fresh⟩

theorem sunken_counter_breaks_range :
    ¬ ∀ (ledger : Ledger) (calls : List Call), ledger.WellKept → ∀ later ∈ history calls ledger, later.WellKept := by
  intro always
  have minted := always Sample.sunken [Sample.call Sample.minting] Sample.sunken_well_kept
    ((Sample.call Sample.minting).after Sample.sunken) (List.mem_cons_of_mem _ List.mem_cons_self)
  have token : (((Sample.call Sample.minting).after Sample.sunken).tokens.get? Sample.art).map
      (fun token => (token.deleted, token.type)) = some (false, .nonFungible) := by
    decide +kernel
  have item : (((Sample.call Sample.minting).after Sample.sunken).nfts.get? ⟨Sample.art, -4⟩).isSome = true := by
    decide +kernel
  obtain ⟨row, found, kind⟩ := Option.map_eq_some_iff.mp token
  obtain ⟨nft, present⟩ := Option.isSome_iff_exists.mp item
  have agrees := minted.agrees Sample.art row found (congrArg Prod.fst kind) (congrArg Prod.snd kind)
  have range := (agrees.range ⟨Sample.art, -4⟩ nft present rfl).1
  exact absurd range (by decide)

end TokenService
