import TokenService.Proofs.Ledger.Nobody
import TokenService.Proofs.Settlement.Atomicity

set_option autoImplicit false

namespace TokenService

namespace View

variable {id : TokenId} {left right : View}

theorem twins_of_given (treasury : AccountId) (key : NftId) (row : Nft) (about : key.token = id) (own : row.id = key)
    (found : left.nft key = some row) (nobody : row.owner = .zero) :
    left.Twins id treasury (left.putNft { row with owner := treasury }) where
  accounts := rfl
  tokens := rfl
  relationships := rfl
  limit := rfl
  nfts := by
    intro other
    rw [nft_put_nft]
    by_cases here : other = row.id
    · refine .inr ⟨here ▸ own ▸ about, row, nobody, ?_, if_pos here⟩
      rw [here, own]
      exact found
    · exact .inl (if_neg here).symm

variable {treasury : AccountId} (twins : Twins id treasury left right)
include twins

theorem twins_rooted (rooted : left.merged.Rooted) : right.merged.Rooted where
  accounts key row found := by
    rw [merged_account, ← twins.accounts] at found
    exact rooted_account left key rooted row found
  tokens key row found := by
    rw [merged_token, ← twins.tokens] at found
    exact rooted_token left key rooted row found
  nfts key row found := by
    rw [merged_nft] at found
    rcases twins.nfts key with same | ⟨_, other, _, here, there⟩
    · exact rooted_nft left rooted key row (same.trans found)
    · cases there.symm.trans found
      exact rooted_nft left rooted key other here

theorem twins_matched (agreed : Int64 → Prop) (rooted : left.merged.Rooted) (token : Token)
    (known : left.token id = some token) (held : token.treasury = treasury)
    (settled : ∀ serial, agreed serial → left.nft ⟨id, serial⟩ = right.nft ⟨id, serial⟩) :
    Matched id treasury agreed left right where
  toTwins := twins
  own key row found := rooted_token left key rooted row found
  held row found := by
    cases known.symm.trans found
    exact held
  placed key row found := rooted_nft left rooted key row found
  settled := settled

theorem twins_same_owner (key : NftId) (same : (left.nft key).map Nft.owner = (right.nft key).map Nft.owner) :
    left.nft key = right.nft key := by
  rcases twins.nfts key with equal | ⟨_, row, nobody, found, other⟩
  · exact equal
  · rw [found, other] at same
    obtain rfl : row.owner = treasury := Option.some.inj same
    rw [found, other]

end View

section Questions

variable {id : TokenId} {token : Token} {left right : View} (twins : View.Twins id token.treasury left right)
  (known : left.token id = some token)
include twins known

theorem owner_answers_same (nft : NftId) : left.answer (.ownerOf nft) = right.answer (.ownerOf nft) := by
  rcases twins.nfts nft with same | ⟨about, row, nobody, found, other⟩
  · simp only [View.answer, View.knownNft, View.knownToken, same, twins.tokens]
  · have here : left.token nft.token = some token := about ▸ known
    have there : right.token nft.token = some token := twins.tokens ▸ here
    rw [owner_answer row token left nft found here, owner_answer _ token right nft other there,
      Nft.holder_of_twin row token nobody]

theorem nft_answers_same (nft : NftId) (convention : Convention) (ledgerId : String) :
    (left.answer (.nftInfo nft)).map (Answer.encode convention ledgerId) =
      (right.answer (.nftInfo nft)).map (Answer.encode convention ledgerId) := by
  rcases twins.nfts nft with same | ⟨about, row, nobody, found, other⟩
  · simp only [View.answer, View.knownNft, View.knownToken, same, twins.tokens]
  · have here : left.token nft.token = some token := about ▸ known
    have there : right.token nft.token = some token := twins.tokens ▸ here
    have first : left.answer (.nftInfo nft) = .ok (.nftInfo token row) := by
      simp only [View.answer, View.knownNft, View.knownToken, View.demand, here, found]
      rfl
    have second : right.answer (.nftInfo nft) = .ok (.nftInfo token { row with owner := token.treasury }) := by
      simp only [View.answer, View.knownNft, View.knownToken, View.demand, there, other]
      rfl
    have described : Struct.ofNftInfo ledgerId token { row with owner := token.treasury } =
        Struct.ofNftInfo ledgerId token row := by
      unfold Struct.ofNftInfo
      rw [Nft.holder_of_twin row token nobody]
    simp only [first, second, Except.map, Answer.encode, described]

end Questions

/-- Let a token's serials belong to nobody in one view where they belong to its treasury in another. Who owns a serial,
and what is told about it, is answered alike by both. Every burn, transfer, approval and taking away of spenders has the
same result on both, and leaves them as alike as they were, if it names no serial on which they differ; one that names
such a serial does not go through on both. -/
theorem nobody_is_treasury_unless_named (id : TokenId) (token : Token) (left right : View)
    (rooted : left.merged.Rooted) (known : left.token id = some token) (twins : left.Twins id token.treasury right) :
    (∀ nft, left.answer (.ownerOf nft) = right.answer (.ownerOf nft)) ∧
      (∀ nft convention ledgerId, (left.answer (.nftInfo nft)).map (Answer.encode convention ledgerId) =
        (right.answer (.nftInfo nft)).map (Answer.encode convention ledgerId)) ∧
      ∀ (body : Body) (sender : AccountId) (now : Timestamp), body.deals = true →
        ((∀ serial, body.names id serial → left.nft ⟨id, serial⟩ = right.nft ⟨id, serial⟩) →
          (Work.execute body sender now left).1 = (Work.execute body sender now right).1 ∧
            (Work.execute body sender now left).2.Twins id token.treasury (Work.execute body sender now right).2) ∧
        ∀ serial, body.names id serial → left.nft ⟨id, serial⟩ ≠ right.nft ⟨id, serial⟩ →
          ¬ ((Work.execute body sender now left).1.isOk ∧ (Work.execute body sender now right).1.isOk) := by
  refine ⟨owner_answers_same twins known, nft_answers_same twins known, fun body sender now deals => ?_⟩
  refine ⟨fun same => ?_, ?_⟩
  · have matched := View.twins_matched twins (fun serial => body.names id serial) rooted token known rfl same
    obtain ⟨result, after⟩ := Work.execute_alike body sender now deals left right matched
    exact ⟨result, after.toTwins⟩
  · rintro serial named differ ⟨here, there⟩
    obtain ⟨outcome, leftAfter, first⟩ := Work.yields_of_ok _ _ here
    obtain ⟨other, rightAfter, second⟩ := Work.yields_of_ok _ _ there
    have owners := executions_agree sender now id serial body deals named left leftAfter right rightAfter outcome other
      rooted (View.twins_rooted twins rooted) twins.tokens first second
    exact differ (View.twins_same_owner twins ⟨id, serial⟩ owners)

namespace Sample

-- The first piece belongs to nobody, and the holder owns the second.
def vacant : View :=
  { ledger :=
      { ledger with
        nfts := .ofList [(⟨art, 1⟩, { id := ⟨art, 1⟩ }), (⟨art, 2⟩, { id := ⟨art, 2⟩, owner := holder })] } }

def occupied : View := vacant.putNft { id := ⟨art, 1⟩, owner := holder }

def artRow : Token := (ledger.tokens.get? art).getD {}

def burningOf (serial : Int64) : Work Execution := Work.execute (.burn ⟨art, 0, [serial]⟩) holder ⟨0, 0⟩

theorem vacant_rooted : vacant.merged.Rooted := by
  rw [vacant, View.fresh_merged]
  exact rooted_of_rows _ (by decide) (by decide) (by decide)

theorem vacant_twins : vacant.Twins art holder occupied :=
  View.twins_of_given holder ⟨art, 1⟩ { id := ⟨art, 1⟩ } rfl rfl rfl rfl

end Sample

theorem second_piece_burns_alike :
    (Sample.burningOf 2 Sample.vacant).1 = .ok (.supplyChanged 1) ∧
      (Sample.burningOf 2 Sample.occupied).1 = .ok (.supplyChanged 1) ∧
      (Sample.burningOf 2 Sample.vacant).2.Twins Sample.art Sample.holder (Sample.burningOf 2 Sample.occupied).2 ∧
      (Sample.burningOf 1 Sample.occupied).1 = .ok (.supplyChanged 1) ∧
      (Sample.burningOf 1 Sample.vacant).1.isOk = false := by
  obtain ⟨_, _, same⟩ := nobody_is_treasury_unless_named Sample.art Sample.artRow Sample.vacant Sample.occupied
    Sample.vacant_rooted (by decide) Sample.vacant_twins
  have burnt : (Sample.burningOf 2 Sample.vacant).1 = .ok (.supplyChanged 1) := by decide +kernel
  have gone : (Sample.burningOf 1 Sample.occupied).1 = .ok (.supplyChanged 1) := by decide +kernel
  obtain ⟨alike, _⟩ := same (.burn ⟨Sample.art, 0, [2]⟩) Sample.holder ⟨0, 0⟩ rfl
  obtain ⟨_, apart⟩ := same (.burn ⟨Sample.art, 0, [1]⟩) Sample.holder ⟨0, 0⟩ rfl
  have spared (serial : Int64) (named : (Body.burn ⟨Sample.art, 0, [2]⟩).names Sample.art serial) :
      Sample.vacant.nft ⟨Sample.art, serial⟩ = Sample.occupied.nft ⟨Sample.art, serial⟩ := by
    obtain rfl := List.mem_singleton.mp named.2
    decide
  obtain ⟨result, after⟩ := alike spared
  refine ⟨burnt, result ▸ burnt, after, gone, Bool.eq_false_iff.mpr fun also => ?_⟩
  exact apart 1 ⟨rfl, List.mem_singleton_self 1⟩ (by decide) ⟨also, congrArg Except.isOk gone⟩

theorem vacant_piece_does_not_burn :
    ¬ ∀ (view : View) (id : TokenId) (token : Token) (serial : Int64) (row : Nft), view.merged.Rooted →
      view.token id = some token → token.deleted = false → token.type = .nonFungible →
      view.nft ⟨id, serial⟩ = some row → row.owner = .zero →
      ∀ (body : Body) (sender : AccountId) (now : Timestamp), body.deals = true →
        ((Work.execute body sender now view).1.isOk ↔
          (Work.execute body sender now (view.putNft { row with owner := token.treasury })).1.isOk) := by
  intro always
  have burns := always Sample.vacant Sample.art Sample.artRow 1 { id := ⟨Sample.art, 1⟩ } Sample.vacant_rooted
    (by decide) (by decide) (by decide) rfl rfl (.burn ⟨Sample.art, 0, [1]⟩) Sample.holder ⟨0, 0⟩ rfl
  exact absurd burns (by decide +kernel)

end TokenService
