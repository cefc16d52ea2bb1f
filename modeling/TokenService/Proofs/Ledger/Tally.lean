import TokenService.Proofs.Ledger.Serials
import TokenService.Proofs.Ledger.Solvency

set_option autoImplicit false

namespace TokenService

-- The counters of one token agree with the NFTs in a view. An account without a relationship owns
-- nothing.
structure View.Tallies (view : View) (id : TokenId) (token : Token) : Prop where
  supply : token.totalSupply.toInt = view.merged.serials id
  holdings : ∀ account, view.merged.units account id = view.merged.serialsOwned account id
  range : ∀ serial : Int64, view.nft ⟨id, serial⟩ ≠ none →
    1 ≤ serial.toInt ∧ serial.toInt ≤ token.lastUsedSerial.toInt
  counter : 0 ≤ token.lastUsedSerial.toInt

def View.Tallied (view : View) : Prop :=
  ∀ id token, view.Exists id token → token.type = .nonFungible → view.Tallies id token

structure View.SameItems (before after : View) (id : TokenId) : Prop where
  serials : after.merged.serials id = before.merged.serials id
  owned : ∀ account, after.merged.serialsOwned account id = before.merged.serialsOwned account id
  present : ∀ serial : Int64, after.nft ⟨id, serial⟩ ≠ none → before.nft ⟨id, serial⟩ ≠ none

section Items

variable (before after : View) (id : TokenId)

theorem same_items_untouched (same : after.merged.nfts = before.merged.nfts) : before.SameItems after id := by
  refine ⟨?_, fun account => ?_, fun serial there => ?_⟩
  · unfold Ledger.serials
    rw [same]
  · unfold Ledger.serialsOwned
    rw [same]
  · rwa [← View.merged_nft, same, View.merged_nft] at there

theorem same_items_put_again (row old : Nft) (found : before.nft row.id = some old)
    (owner : row.id.token = id → row.owner = old.owner) : before.SameItems (before.putNft row) id := by
  refine ⟨before.serials_put_again id row old found, fun account => ?_,
    fun serial there => before.put_again_present row old found _ there⟩
  rw [before.owned_put_again account id row old found]
  by_cases about : row.id.token = id
  · rw [owner about]
    exact Int.add_sub_cancel _ _
  · rw [one_false _ fun both => about both.1, one_false _ fun both => about both.1]
    omega

theorem same_items_issued (token : Token) (now : Timestamp) (last final : Int64) (metadata : List Bytes)
    (issued : Issued token now last metadata before final after) (beyond : before.Beyond token.id last)
    (apart : id ≠ token.id) : before.SameItems after id := by
  refine ⟨?_, fun account => ?_, fun serial there => ?_⟩
  · rw [issued_serials token now _ _ _ _ _ issued beyond, if_neg fun same => apart same.symm, Int.add_zero]
  · rw [issued_owned token now _ _ _ _ _ issued beyond, if_neg fun same => apart same.1.symm, Int.add_zero]
  · rcases issued_new token now _ _ _ _ _ issued _ there with old | ⟨about, _⟩
    · exact old
    · exact absurd about apart

theorem same_items_removed (token : TokenId) (holder : AccountId) (serials : List Int64)
    (removed : Removed token holder serials before after) (apart : id ≠ token) : before.SameItems after id := by
  refine ⟨?_, fun account => ?_, fun serial there => removed_present _ _ _ _ _ removed _ there⟩
  · rw [removed_serials _ _ _ _ _ removed, if_neg fun same => apart same.symm, Int.sub_zero]
  · rw [removed_owned _ _ _ _ _ removed, if_neg fun same => apart same.1.symm, Int.sub_zero]

end Items

theorem tallies_kept (before after : View) (id : TokenId) (token heir : Token) (tallies : before.Tallies id token)
    (supply : heir.totalSupply = token.totalSupply) (last : heir.lastUsedSerial = token.lastUsedSerial)
    (units : ∀ account, after.merged.units account id = before.merged.units account id)
    (items : before.SameItems after id) : after.Tallies id heir := by
  refine ⟨?_, fun account => ?_, fun serial there => ?_, ?_⟩
  · rw [supply, items.serials]
    exact tallies.supply
  · rw [units, items.owned]
    exact tallies.holdings account
  · rw [last]
    exact tallies.range serial (items.present serial there)
  · rw [last]
    exact tallies.counter

theorem tallies_beyond (view : View) (id : TokenId) (token : Token) (tallies : view.Tallies id token) :
    view.Beyond id token.lastUsedSerial := by
  intro serial above
  cases found : view.nft ⟨id, serial⟩ with
  | none => rfl
  | some row =>
      have within := tallies.range serial (by rw [found]; exact Option.some_ne_none _)
      omega

section Supply

variable (token : Token) (holder : AccountId) (held : Relationship) (supply balance : Int64) (before middle : View)
  (found : before.relationship holder token.id = some held) (tallies : before.Tallies token.id token)
include found tallies

theorem issued_tallies (now : Timestamp) (metadata : List Bytes) (last : Int64) (treasury : holder = token.treasury)
    (issued : Issued token now token.lastUsedSerial metadata before last middle)
    (supplied : Shifted token.totalSupply (Work.count metadata.length).toInt supply)
    (gained : Shifted held.balance (Work.count metadata.length).toInt balance) :
    (middle.resupplied token holder held supply last balance).Tallies token.id
      { token with totalSupply := supply, lastUsedSerial := last } := by
  have beyond := tallies_beyond before token.id token tallies
  have counter := tallies.counter
  have final := issued_last token now _ _ _ _ _ issued
  have top := last.toInt_lt
  -- The serials are counted in 64 bits, and so many new ones fit below the last of them.
  have counted := count_exact metadata.length (by omega)
  have sum := supplied.sum
  have added := gained.sum
  rw [counted] at sum added
  refine ⟨?_, fun account => ?_, fun serial there => ?_, ?_⟩
  · have total := issued_serials token now _ _ _ _ _ issued beyond token.id
    rw [if_pos rfl, ← tallies.supply] at total
    exact sum.trans total.symm
  · have owned := issued_owned token now _ _ _ _ _ issued beyond account token.id
    have start := tallies.holdings account
    rw [View.units_resupplied before middle (issued_alike _ _ _ _ _ _ _ issued)]
    refine Eq.trans ?_ owned.symm
    by_cases same : account = holder
    · subst same
      have paid := View.units_found _ _ _ _ found
      rw [if_pos ⟨rfl, rfl⟩, if_pos ⟨rfl, treasury.symm⟩]
      omega
    · rw [if_neg fun both => same both.1, if_neg fun both => same (both.2.symm.trans treasury.symm)]
      omega
  · rcases issued_new token now _ _ _ _ _ issued _ there with old | ⟨_, low, high⟩
    · have within := tallies.range serial old
      exact ⟨within.1, by simp only; omega⟩
    · simp only at low high ⊢
      omega
  · simp only
    omega

theorem removed_tallies (serials : List Int64) (removed : Removed token.id holder serials before middle)
    (supplied : Shifted token.totalSupply (-(Work.count serials.length).toInt) supply)
    (lost : Shifted held.balance (-(Work.count serials.length).toInt) balance) :
    (middle.resupplied token holder held supply token.lastUsedSerial balance).Tallies token.id
      { token with totalSupply := supply } := by
  have total := removed_serials _ _ _ _ _ removed token.id
  have rest := serials_nonneg middle.merged token.id
  have top := token.totalSupply.toInt_lt
  have start := tallies.supply
  rw [if_pos rfl] at total
  -- No more serials go than the supply has counted, so their number fits.
  have counted := count_exact serials.length (by omega)
  have sum := supplied.sum
  have left := lost.sum
  rw [counted] at sum left
  refine ⟨?_, fun account => ?_, fun serial there => ?_, tallies.counter⟩
  · refine Eq.trans ?_ total.symm
    simp only
    omega
  · have owned := removed_owned _ _ _ _ _ removed account token.id
    have had := tallies.holdings account
    rw [View.units_resupplied before middle (removed_alike _ _ _ _ _ removed)]
    refine Eq.trans ?_ owned.symm
    by_cases same : account = holder
    · subst same
      have paid := View.units_found _ _ _ _ found
      rw [if_pos ⟨rfl, rfl⟩, if_pos ⟨rfl, rfl⟩]
      omega
    · rw [if_neg fun both => same both.1, if_neg fun both => same both.2.symm]
      omega
  · exact tallies.range serial (removed_present _ _ _ _ _ removed _ there)

end Supply

section Deeds

variable (sender : AccountId) (now : Timestamp)

theorem exists_put_token (view : View) (row : Token) (id : TokenId) (token : Token)
    (existing : (view.putToken row).Exists id token) :
    id = row.id ∧ token = row ∨ id ≠ row.id ∧ view.Exists id token := by
  have found := existing.found
  rw [View.token_put_token] at found
  by_cases same : id = row.id
  · rw [if_pos same] at found
    cases found
    exact .inl ⟨same, rfl⟩
  · rw [if_neg same] at found
    exact .inr ⟨same, found, existing.own, existing.live⟩

theorem resupplied_other (before middle : View) (token : Token) (holder : AccountId) (held : Relationship)
    (supply last balance : Int64) (alike : before.AlikeButNfts middle) (tallied : before.Tallied) (id : TokenId)
    (apart : id ≠ token.id) (items : before.SameItems middle id) (other : Token) (existing : middle.Exists id other)
    (kind : other.type = .nonFungible) :
    (middle.resupplied token holder held supply last balance).Tallies id other := by
  have old : before.Exists id other :=
    ⟨(alike.token _ _ id).symm.trans existing.found, existing.own, existing.live⟩
  refine tallies_kept before _ id other other (tallied id other old kind) rfl rfl (fun account => ?_)
    ⟨items.serials, items.owned, items.present⟩
  rw [View.units_resupplied before middle alike, if_neg fun both => apart both.2]

theorem mint_tallied (order : Mint) (before after : View) (tallied : before.Tallied)
    (does : (Deed.mint order).Does sender now before after) : after.Tallied := by
  cases does with
  | @mint _ _ middle token held minted last supply balance usable found items supplied capped gained =>
      intro id other existing kind
      have alike := minted_alike _ _ _ _ _ _ _ items
      rcases exists_put_token _ _ id other existing with ⟨rfl, rfl⟩ | ⟨apart, there⟩
      · cases items with
        | units _ fungible => exact nomatch fungible.symm.trans kind
        | items nonFungible issued =>
            have known : before.Exists token.id token := usable.own.symm ▸ usable.toExists
            exact issued_tallies token _ held supply balance before middle found (tallied _ token known nonFungible) now
              _ last rfl issued supplied gained
      · refine resupplied_other before middle token _ held supply last balance alike tallied id apart ?_ other
          ⟨there.found, there.own, there.live⟩ kind
        cases items with
        | units => exact same_items_untouched _ _ _ rfl
        | items nonFungible issued =>
            have known : before.Exists token.id token := usable.own.symm ▸ usable.toExists
            exact same_items_issued _ _ _ token now _ _ _ issued
              (tallies_beyond _ _ token (tallied _ token known nonFungible)) apart

theorem retired_tallied (before middle : View) (id : TokenId) (token : Token) (holder : AccountId)
    (held : Relationship) (amount removed supply balance : Int64) (serials : List Int64) (tallied : before.Tallied)
    (known : before.Exists id token) (found : before.relationship holder token.id = some held)
    (items : Taken token holder amount serials removed before middle)
    (supplied : Shifted token.totalSupply (-removed.toInt) supply)
    (lost : Shifted held.balance (-removed.toInt) balance) :
    (middle.resupplied token holder held supply token.lastUsedSerial balance).Tallied := by
  intro other row existing kind
  have alike := taken_alike _ _ _ _ _ _ _ items
  rcases exists_put_token _ _ other row existing with ⟨rfl, rfl⟩ | ⟨apart, there⟩
  · cases items with
    | units _ fungible => exact nomatch fungible.symm.trans kind
    | items nonFungible gone =>
        have tallies := tallied token.id token (known.own.symm ▸ known) nonFungible
        exact removed_tallies token holder held supply balance before middle found tallies serials gone supplied lost
  · refine resupplied_other before middle token holder held supply _ balance alike tallied other apart ?_ row
      ⟨there.found, there.own, there.live⟩ kind
    cases items with
    | units => exact same_items_untouched _ _ _ rfl
    | items nonFungible gone => exact same_items_removed _ _ _ _ _ _ gone apart

theorem create_tallied (order : Creation) (proper : order.Proper) (before after : View)
    (numbered : before.merged.Numbered before.limit) (tallied : before.Tallied)
    (does : (Deed.create order).Does sender now before after) : after.Tallied := by
  cases does with
  | create treasury number reserved lives fresh next =>
      generalize named : (⟨order.treasury.shard, order.treasury.realm, number⟩ : TokenId) = id
      have free : before.limit ≤ id.num.toNat := by
        rw [← named]
        exact Nat.le_of_eq fresh.symm
      intro other token existing kind
      have written : ((before.reserving reserved).putToken (Work.created order id now)).Exists other token :=
        ⟨existing.found, existing.own, existing.live⟩
      rcases exists_put_token _ _ other token written with ⟨rfl, rfl⟩ | ⟨apart, there⟩
      -- Nothing was known about the new token: no holding, no serial.
      · have nothing (nft : NftId) (row : Nft) (found : before.merged.nfts.get? nft = some row) :
            nft.token ≠ other := by
          rintro rfl
          rw [View.merged_nft, View.unknown_nft _ _ numbered nft free] at found
          cases found
        have unheld (account : AccountId) : before.merged.units account other = 0 :=
          View.units_absent _ _ _ (View.unknown_relationship _ _ numbered account other free)
        have empty : order.initialSupply.toInt = 0 := congrArg Int64.toInt (proper.bare kind)
        have uncounted : before.merged.serials other = 0 :=
          Table.total_zero _ _ fun nft row found => one_false _ (nothing nft row found)
        have unowned (account : AccountId) : before.merged.serialsOwned account other = 0 :=
          owned_zero _ _ _ fun nft row found about => absurd about (nothing nft row found)
        refine ⟨empty.trans uncounted.symm, fun account => ?_, fun serial there => ?_, Int.le_refl 0⟩
        · rw [View.units_put_relationship]
          refine Eq.trans ?_ (unowned account).symm
          split
          · exact empty
          · exact unheld account
        · exact absurd (View.unknown_nft _ _ numbered ⟨other, serial⟩ free) there
      · refine tallies_kept before _ other token token (tallied other token ⟨there.found, there.own, there.live⟩ kind)
          rfl rfl (fun account => ?_) (same_items_untouched _ _ _ ?_)
        · rw [View.units_put_relationship, if_neg fun both => apart both.2]
          rfl
        · rw [View.merged_put_relationship, View.merged_put_token]
          rfl

section Moves

variable (before : View) (id : TokenId) (nft : Nft) (serial : Int64) (sender receiver : AccountId)
  (source target : Relationship) (left gained : Int64)

theorem moved_holdings (apart : sender ≠ receiver) (found : before.nft ⟨id, serial⟩ = some nft)
    (own : nft.id = ⟨id, serial⟩) (owned : nft.owner = sender)
    (sends : before.relationship sender id = some source) (receives : before.relationship receiver id = some target)
    (loss : Shifted source.balance (-1) left) (gain : Shifted target.balance 1 gained)
    (account : AccountId) (start : before.merged.units account id = before.merged.serialsOwned account id) :
    (((before.putRelationship sender id { source with balance := left }).putRelationship receiver id
        { target with balance := gained }).putNft { nft with owner := receiver, spender := none }).merged.units
        account id =
      (((before.putRelationship sender id { source with balance := left }).putRelationship receiver id
        { target with balance := gained }).putNft
          { nft with owner := receiver, spender := none }).merged.serialsOwned account id := by
  generalize paid : (before.putRelationship sender id { source with balance := left }).putRelationship receiver id
    { target with balance := gained } = middle
  have there : middle.nft nft.id = some nft := by
    rw [← paid, own]
    exact found
  have sent := View.units_found _ _ _ _ sends
  have received := View.units_found _ _ _ _ receives
  have lost := loss.sum
  have added := gain.sum
  rw [middle.owned_put_again account id { nft with owner := receiver, spender := none } nft there, own, owned]
  have units : middle.merged.units account id = if account = receiver then gained.toInt
      else if account = sender then left.toInt else before.merged.units account id := by
    rw [← paid, View.units_put_relationship, View.units_put_relationship]
    simp only [and_true]
  have counted : middle.merged.serialsOwned account id = before.merged.serialsOwned account id := by
    rw [← paid]
    rfl
  apply Eq.trans units
  rw [counted]
  -- The receiver, the sender, and everybody else.
  by_cases gets : account = receiver
  · subst gets
    rw [if_pos rfl, one_true _ ⟨rfl, rfl⟩, one_false _ fun both => apart both.2]
    omega
  · rw [if_neg gets, one_false _ fun both => gets both.2.symm]
    by_cases gives : account = sender
    · subst gives
      rw [if_pos rfl, one_true _ ⟨rfl, rfl⟩]
      omega
    · rw [if_neg gives, one_false _ fun both => gives both.2.symm]
      omega

theorem moved_tallies (token : Token) (apart : sender ≠ receiver) (found : before.nft ⟨id, serial⟩ = some nft)
    (own : nft.id = ⟨id, serial⟩) (owned : nft.owner = sender)
    (sends : before.relationship sender id = some source) (receives : before.relationship receiver id = some target)
    (loss : Shifted source.balance (-1) left) (gain : Shifted target.balance 1 gained)
    (tallies : before.Tallies id token) :
    (((before.putRelationship sender id { source with balance := left }).putRelationship receiver id
      { target with balance := gained }).putNft { nft with owner := receiver, spender := none }).Tallies id token := by
  have holdings := fun account => moved_holdings before id nft serial sender receiver source target left gained apart
    found own owned sends receives loss gain account (tallies.holdings account)
  generalize paid : (before.putRelationship sender id { source with balance := left }).putRelationship receiver id
    { target with balance := gained } = middle at holdings ⊢
  have there : middle.nft nft.id = some nft := by
    rw [← paid, own]
    exact found
  refine ⟨?_, holdings, fun other present => ?_, tallies.counter⟩
  · rw [middle.serials_put_again id { nft with owner := receiver, spender := none } nft there, ← paid]
    exact tallies.supply
  · have old := middle.put_again_present { nft with owner := receiver, spender := none } nft there _ present
    rw [← paid] at old
    exact tallies.range other old

end Moves

theorem exists_before (deed : Deed) (before after : View) (quiet : deed.definesToken = false)
    (does : deed.Does sender now before after) (id : TokenId) (token : Token) (existing : after.Exists id token) :
    before.Exists id token :=
  ⟨(deed_token sender now deed before after quiet does id).symm.trans existing.found, existing.own, existing.live⟩

theorem put_token_tallied (before middle : View) (id : TokenId) (token row : Token) (tallied : before.Tallied)
    (existing : before.Exists id token) (own : row.id = token.id) (type : row.type = token.type)
    (supply : row.totalSupply = token.totalSupply) (last : row.lastUsedSerial = token.lastUsedSerial)
    (tokens : ∀ other, middle.token other = before.token other) (nfts : middle.merged.nfts = before.merged.nfts)
    (units : ∀ account other, other ≠ token.id ∨ token.type = .nonFungible →
      middle.merged.units account other = before.merged.units account other) : (middle.putToken row).Tallied := by
  intro other found there kind
  have items := same_items_untouched before middle other nfts
  rcases exists_put_token _ _ other found there with ⟨rfl, rfl⟩ | ⟨apart, old⟩
  · have nonFungible := type.symm.trans kind
    have known : before.Exists found.id token := own.symm ▸ existing.own.symm ▸ existing
    exact tallies_kept before _ _ token found (tallied _ token known nonFungible) supply last
      (fun account => units account _ (.inr nonFungible)) ⟨items.serials, items.owned, items.present⟩
  · have known : before.Exists other found := ⟨(tokens other).symm.trans old.found, old.own, old.live⟩
    exact tallies_kept before _ other found found (tallied other found known kind) rfl rfl
      (fun account => units account other (.inl fun same => apart (same.trans own.symm)))
      ⟨items.serials, items.owned, items.present⟩

theorem handover_nfts (token : Token) (successor : AccountId) (before after : View)
    (handover : Handover token successor before after) : after.merged.nfts = before.merged.nfts := by
  cases handover with
  | stay | items => rfl
  | units => rw [View.merged_put_relationship, View.merged_put_relationship]

theorem handover_units (token : Token) (successor : AccountId) (before after : View)
    (handover : Handover token successor before after) (account : AccountId) (id : TokenId)
    (untouched : id ≠ token.id ∨ token.type = .nonFungible) :
    after.merged.units account id = before.merged.units account id := by
  cases handover with
  | stay | items => rfl
  | units row incoming outgoing balance apart fungible =>
      rcases untouched with other | nonFungible
      · rw [View.units_put_relationship, View.units_put_relationship, if_neg fun both => other both.2,
          if_neg fun both => other both.2]
      · exact nomatch fungible.symm.trans nonFungible

section Quiet

variable (view : View) (id : TokenId) (token : Token) (tallies : view.Tallies id token)
include tallies

theorem put_account_tallies (row : Account) : (view.putAccount row).Tallies id token :=
  tallies_kept view _ id token token tallies rfl rfl (fun _ => rfl)
    (same_items_untouched _ _ _ (by rw [View.merged_put_account]))

theorem put_relationship_tallies (account : AccountId) (about : TokenId) (row : Relationship)
    (same : id = about → row.balance.toInt = view.merged.units account about) :
    (view.putRelationship account about row).Tallies id token := by
  refine tallies_kept view _ id token token tallies rfl rfl (fun other => ?_)
    (same_items_untouched _ _ _ (by rw [View.merged_put_relationship]))
  rw [View.units_put_relationship]
  by_cases written : other = account ∧ id = about
  · rw [if_pos written, same written.2, written.1, written.2]
  · rw [if_neg written]

theorem remove_relationship_tallies (account : AccountId) (about : TokenId)
    (empty : id = about → view.merged.units account about = 0) :
    (view.removeRelationship account about).Tallies id token := by
  refine tallies_kept view _ id token token tallies rfl rfl (fun other => ?_)
    (same_items_untouched _ _ _ (by rw [View.merged_remove_relationship]))
  rw [View.units_remove_relationship]
  by_cases removed : other = account ∧ id = about
  · rw [if_pos removed, removed.1, removed.2, empty removed.2]
  · rw [if_neg removed]

theorem put_nft_tallies (row old : Nft) (found : view.nft row.id = some old)
    (owner : row.id.token = id → row.owner = old.owner) : (view.putNft row).Tallies id token :=
  tallies_kept view _ id token token tallies rfl rfl (fun _ => rfl) (same_items_put_again _ _ row old found owner)

end Quiet

theorem move_tallies (before after : View) (about : TokenId) (move : NftMove) (apart : move.sender ≠ move.receiver)
    (id : TokenId) (token : Token) (tallies : before.Tallies id token)
    (does : (Deed.moveNft about move).Does sender now before after) : after.Tallies id token := by
  cases does with
  | moveNft row nft receiver source target left gained usable nonFungible found own owned approved lives sends receives
      loss gain =>
      by_cases same : id = about
      · subst same
        exact moved_tallies before id nft move.serial move.sender move.receiver source target left gained token apart
          found own owned sends.found receives.found loss gain tallies
      · have left := put_relationship_tallies before id token tallies move.sender about
          { source with balance := left } fun this => absurd this same
        have gained := put_relationship_tallies _ id token left move.receiver about
          { target with balance := gained } fun this => absurd this same
        refine put_nft_tallies _ id token gained { nft with owner := move.receiver, spender := none } nft ?_
          fun this => absurd (this.symm.trans (congrArg NftId.token own)) same
        rw [own]
        exact found

theorem fungible_apart (before : View) (id about : TokenId) (token fungible : Token) (existing : before.Exists id token)
    (kind : token.type = .nonFungible) (usable : before.Usable about fungible) (type : fungible.type = .fungible) :
    id ≠ about := by
  rintro rfl
  have same := existing.found.symm.trans usable.found
  cases same
  exact nomatch kind.symm.trans type

theorem quiet_deed_tallied (deed : Deed) (proper : deed.Proper) (before after : View) (tallied : before.Tallied)
    (quiet : deed.definesToken = false) (does : deed.Does sender now before after) : after.Tallied := by
  intro id token existing kind
  have old := exists_before sender now deed before after quiet does id token existing
  have tallies := tallied id token old kind
  cases does with
  | associate holder row lives existing absent =>
      exact put_relationship_tallies before id token tallies _ _ _ fun _ => (View.units_absent _ _ _ absent).symm
  | dissociate held found released =>
      refine remove_relationship_tallies before id token tallies _ _ fun same => ?_
      rw [View.units_found _ _ _ _ found, (released token (same ▸ old)).2]
      rfl
  | adjustUnits row owner held balance usable fungible =>
      have apart := fungible_apart before id _ token row old kind usable fungible
      exact put_relationship_tallies before id token tallies _ _ _ fun same => absurd same apart
  | drawUnits row owner held allowances balance usable fungible =>
      have apart := fungible_apart before id _ token row old kind usable fungible
      exact put_relationship_tallies _ id token (put_account_tallies before id token tallies _) _ _ _
        fun same => absurd same apart
  | @moveNft about move _ row nft receiver source target left gained usable nonFungible found own owned approved lives
      sends receives loss gain =>
      exact move_tallies sender now before _ about move proper.apart id token tallies
        (.moveNft row nft receiver source target left gained usable nonFungible found own owned approved lives sends
          receives loss gain)
  | lendNft nft found own =>
      exact put_nft_tallies before id token tallies _ nft (by rw [own]; exact found) fun _ => rfl
  | clearSpender row nft usable entitled found own =>
      exact put_nft_tallies before id token tallies _ nft (by rw [own]; exact found) fun _ => rfl
  | adjustHbar | grantHbar | grantUnits | setOperator => exact put_account_tallies before id token tallies _
  | mint | burn | wipe | setPaused | create | update => cases quiet

-- Where a token is written, all other tokens must keep their counters all the same.
theorem deed_tallied (deed : Deed) (proper : deed.Proper) (before after : View)
    (numbered : before.merged.Numbered before.limit) (tallied : before.Tallied)
    (does : deed.Does sender now before after) : after.Tallied := by
  cases defines : deed.definesToken with
  | false => exact quiet_deed_tallied sender now deed proper before after tallied defines does
  | true =>
      cases does with
      | mint token held minted last supply balance usable found items supplied capped gained =>
          exact mint_tallied sender now _ _ _ tallied
            (.mint token held minted last supply balance usable found items supplied capped gained)
      | burn token held removed supply balance usable found items supplied lost =>
          exact retired_tallied before _ _ token _ held _ removed supply balance _ tallied usable.toExists found items
            supplied lost
      | wipe token account held removed supply balance usable lives apart found items supplied lost =>
          exact retired_tallied before _ _ token _ held _ removed supply balance _ tallied usable.toExists found items
            supplied lost
      | create treasury number reserved lives fresh next =>
          exact create_tallied sender now _ proper _ _ numbered tallied
            (.create treasury number reserved lives fresh next)
      | @setPaused paused about _ token existing =>
          exact put_token_tallied before before about token _ tallied existing rfl rfl rfl rfl (fun _ => rfl) rfl
            fun _ _ _ => rfl
      | @update order _ middle token usable handover =>
          exact put_token_tallied before middle order.token token (Work.revised order token) tallied usable.toExists
            rfl rfl rfl rfl (handover_tokens _ _ _ _ handover) (handover_nfts _ _ _ _ handover)
            (handover_units _ _ _ _ handover)
      | _ => cases defines

end Deeds

end TokenService
