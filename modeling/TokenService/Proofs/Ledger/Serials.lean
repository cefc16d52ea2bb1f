import TokenService.Proofs.Ledger.Frames
import TokenService.Proofs.Ledger.Sums

set_option autoImplicit false

namespace TokenService

def one (holds : Prop) [Decidable holds] : Int := if holds then 1 else 0

theorem one_true (holds : Prop) [Decidable holds] (proof : holds) : one holds = 1 := if_pos proof

theorem one_false (holds : Prop) [Decidable holds] (refuted : ¬ holds) : one holds = 0 := if_neg refuted

namespace View

section Writes

variable (view : View) (account : AccountId) (id : TokenId)

theorem serials_put_new (row : Nft) (absent : view.nft row.id = none) :
    (view.putNft row).merged.serials id = view.merged.serials id + one (row.id.token = id) := by
  rw [merged_put_nft]
  apply (Table.total_insert _ _ _ _).trans
  rw [merged_nft, absent]
  exact Int.sub_zero _

theorem serials_put_again (row old : Nft) (found : view.nft row.id = some old) :
    (view.putNft row).merged.serials id = view.merged.serials id := by
  rw [merged_put_nft]
  apply (Table.total_insert _ _ _ _).trans
  rw [merged_nft, found]
  exact Int.add_sub_cancel _ _

theorem serials_remove (gone : NftId) (old : Nft) (found : view.nft gone = some old) :
    (view.removeNft gone).merged.serials id = view.merged.serials id - one (gone.token = id) := by
  rw [merged_remove_nft]
  apply (Table.total_erase _ _ _).trans
  rw [merged_nft, found]
  rfl

theorem owned_put_new (row : Nft) (absent : view.nft row.id = none) :
    (view.putNft row).merged.serialsOwned account id =
      view.merged.serialsOwned account id + one (row.id.token = id ∧ row.owner = account) := by
  rw [merged_put_nft]
  apply (Table.total_insert _ _ _ _).trans
  rw [merged_nft, absent]
  exact Int.sub_zero _

theorem owned_put_again (row old : Nft) (found : view.nft row.id = some old) :
    (view.putNft row).merged.serialsOwned account id =
      view.merged.serialsOwned account id + one (row.id.token = id ∧ row.owner = account) -
        one (row.id.token = id ∧ old.owner = account) := by
  rw [merged_put_nft]
  apply (Table.total_insert _ _ _ _).trans
  rw [merged_nft, found]
  rfl

theorem owned_remove (gone : NftId) (old : Nft) (found : view.nft gone = some old) :
    (view.removeNft gone).merged.serialsOwned account id =
      view.merged.serialsOwned account id - one (gone.token = id ∧ old.owner = account) := by
  rw [merged_remove_nft]
  apply (Table.total_erase _ _ _).trans
  rw [merged_nft, found]
  rfl

theorem put_again_present (row old : Nft) (found : view.nft row.id = some old) (nft : NftId)
    (present : (view.putNft row).nft nft ≠ none) : view.nft nft ≠ none := by
  rw [nft_put_nft] at present
  by_cases same : nft = row.id
  · rw [same, found]
    exact Option.some_ne_none _
  · rwa [if_neg same] at present

end Writes

end View

section Counts

theorem one_nonneg (holds : Prop) [Decidable holds] : 0 ≤ one holds := by
  unfold one
  split
  · exact Int.one_nonneg
  · exact Int.le_refl 0

theorem serials_nonneg (ledger : Ledger) (id : TokenId) : 0 ≤ ledger.serials id :=
  Table.total_nonneg _ _ fun nft _ _ => one_nonneg (nft.token = id)

theorem owned_positive (ledger : Ledger) (nft : NftId) (row : Nft) (found : ledger.nfts.get? nft = some row) :
    1 ≤ ledger.serialsOwned row.owner nft.token := by
  have least := Table.weight_le_total (fun other held => one (other.token = nft.token ∧ held.owner = row.owner))
    ledger.nfts nft row (fun other held _ => one_nonneg _) found
  rw [one_true _ ⟨rfl, rfl⟩] at least
  exact least

theorem owned_zero (ledger : Ledger) (account : AccountId) (id : TokenId)
    (none : ∀ nft row, ledger.nfts.get? nft = some row → nft.token = id → row.owner ≠ account) :
    ledger.serialsOwned account id = 0 :=
  Table.total_zero _ _ fun nft row found => one_false _ fun held => none nft row found held.1 held.2

theorem count_exact (length : Nat) (fits : (length : Int) ≤ 9223372036854775807) :
    (Work.count length).toInt = length := by
  unfold Work.count clamp
  have low : Int64.minValue.toInt = -9223372036854775808 := by decide
  have high : Int64.maxValue.toInt = 9223372036854775807 := by decide
  rw [low, high, if_neg (by omega), if_neg (by omega)]
  exact Int64.toInt_ofInt_of_le (by omega) (by omega)

end Counts

def View.Beyond (view : View) (token : TokenId) (last : Int64) : Prop :=
  ∀ serial : Int64, last.toInt < serial.toInt → view.nft ⟨token, serial⟩ = none

section Issues

variable (token : Token) (now : Timestamp)

theorem issued_last (last final : Int64) (metadata : List Bytes) (before after : View)
    (issued : Issued token now last metadata before final after) :
    final.toInt = last.toInt + metadata.length := by
  induction issued with
  | nil last view => exact (Int.add_zero _).symm
  | cons next others ih =>
      rw [ih, next, List.length_cons]
      omega

theorem beyond_put (view : View) (last serial : Int64) (row : Nft) (own : row.id = ⟨token.id, serial⟩)
    (next : serial.toInt = last.toInt + 1) (beyond : view.Beyond token.id last) :
    (view.putNft row).Beyond token.id serial := by
  intro other above
  rw [View.nft_put_nft, own, if_neg]
  · exact beyond other (by omega)
  · intro same
    cases same
    exact absurd above (Int.lt_irrefl _)

theorem issued_serials (last final : Int64) (metadata : List Bytes) (before after : View)
    (issued : Issued token now last metadata before final after) (beyond : before.Beyond token.id last)
    (id : TokenId) :
    after.merged.serials id = before.merged.serials id + if token.id = id then (metadata.length : Int) else 0 := by
  induction issued with
  | nil last view =>
      have nothing : (if token.id = id then (([] : List Bytes).length : Int) else 0) = 0 := ite_self _
      rw [nothing, Int.add_zero]
  | @cons last serial final metadata rest first after next others ih =>
      have absent := beyond serial (by omega)
      rw [ih (beyond_put token first last serial _ rfl next beyond), View.serials_put_new _ _ _ absent,
        List.length_cons]
      by_cases same : token.id = id
      · rw [if_pos same, if_pos same, one_true _ same]
        omega
      · rw [if_neg same, if_neg same, one_false _ same]
        omega

theorem issued_owned (last final : Int64) (metadata : List Bytes) (before after : View)
    (issued : Issued token now last metadata before final after) (beyond : before.Beyond token.id last)
    (account : AccountId) (id : TokenId) :
    after.merged.serialsOwned account id = before.merged.serialsOwned account id +
      if token.id = id ∧ token.treasury = account then (metadata.length : Int) else 0 := by
  induction issued with
  | nil last view =>
      have nothing : (if token.id = id ∧ token.treasury = account then (([] : List Bytes).length : Int) else 0) = 0 :=
        ite_self _
      rw [nothing, Int.add_zero]
  | @cons last serial final metadata rest first after next others ih =>
      have absent := beyond serial (by omega)
      rw [ih (beyond_put token first last serial _ rfl next beyond), View.owned_put_new _ _ _ _ absent,
        List.length_cons]
      by_cases same : token.id = id ∧ token.treasury = account
      · rw [if_pos same, if_pos same, one_true _ same]
        omega
      · rw [if_neg same, if_neg same, one_false _ same]
        omega

theorem issued_new (last final : Int64) (metadata : List Bytes) (before after : View)
    (issued : Issued token now last metadata before final after) (nft : NftId) (present : after.nft nft ≠ none) :
    before.nft nft ≠ none ∨
      nft.token = token.id ∧ last.toInt < nft.serial.toInt ∧ nft.serial.toInt ≤ final.toInt := by
  induction issued with
  | nil last view => exact .inl present
  | @cons last serial final metadata rest first after next others ih =>
      have high := issued_last token now _ _ _ _ _ others
      rcases ih present with there | ⟨about, low, top⟩
      · rw [View.nft_put_nft] at there
        by_cases same : nft = ⟨token.id, serial⟩
        · subst same
          exact .inr ⟨rfl, by simp only; omega, by simp only; omega⟩
        · rw [if_neg same] at there
          exact .inl there
      · exact .inr ⟨about, by omega, top⟩

end Issues

section Removals

variable (token : TokenId) (holder : AccountId) (serials : List Int64) (before after : View)
  (removed : Removed token holder serials before after)
include removed

theorem removed_serials (id : TokenId) :
    after.merged.serials id = before.merged.serials id - if token = id then (serials.length : Int) else 0 := by
  induction removed with
  | nil view =>
      have nothing : (if token = id then (([] : List Int64).length : Int) else 0) = 0 := ite_self _
      rw [nothing, Int.sub_zero]
  | cons nft found owned others ih =>
      rw [ih, View.serials_remove _ _ _ nft found, List.length_cons]
      by_cases same : token = id
      · rw [if_pos same, if_pos same, one_true _ same]
        omega
      · rw [if_neg same, if_neg same, one_false _ same]
        omega

theorem removed_owned (account : AccountId) (id : TokenId) :
    after.merged.serialsOwned account id = before.merged.serialsOwned account id -
      if token = id ∧ holder = account then (serials.length : Int) else 0 := by
  induction removed with
  | nil view =>
      have nothing : (if token = id ∧ holder = account then (([] : List Int64).length : Int) else 0) = 0 := ite_self _
      rw [nothing, Int.sub_zero]
  | cons nft found owned others ih =>
      rw [ih, View.owned_remove _ _ _ _ nft found, owned, List.length_cons]
      by_cases same : token = id ∧ holder = account
      · rw [if_pos same, if_pos same, one_true _ same]
        omega
      · rw [if_neg same, if_neg same, one_false _ same]
        omega

theorem removed_present (nft : NftId) (present : after.nft nft ≠ none) : before.nft nft ≠ none := by
  induction removed with
  | nil view => exact present
  | cons row found owned others ih =>
      have there := ih present
      rw [View.nft_remove_nft] at there
      split at there
      · exact absurd rfl there
      · exact there

end Removals

end TokenService
