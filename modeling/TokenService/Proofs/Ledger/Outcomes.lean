import TokenService.Proofs.Ledger.Execution
import TokenService.Proofs.Ledger.Serials

set_option autoImplicit false

namespace TokenService

section Rows

variable {κ ρ : Type} [Ord κ] [Std.TransOrd κ] [Std.LawfulEqOrd κ]

omit [Std.LawfulEqOrd κ] in
theorem insert_row_last (key : κ) (row : ρ) (rows : List (κ × ρ)) (above : ∀ entry ∈ rows, compare entry.1 key = .lt) :
    insertRow key row rows = rows ++ [(key, row)] := by
  induction rows with
  | nil => rfl
  | cons head rest ih =>
      obtain ⟨below, above⟩ := List.forall_mem_cons.mp above
      have beyond : compare key head.1 = .gt := Std.OrientedCmp.gt_of_lt below
      rw [insertRow, beyond]
      simp only
      rw [ih above, List.cons_append]

theorem insert_rows_last (table : Table κ ρ) (rows : List (κ × ρ)) (ascending : Ascending (table.rows ++ rows)) :
    (rows.foldl (fun table entry => table.insert entry.1 entry.2) table).rows = table.rows ++ rows := by
  induction rows generalizing table with
  | nil => exact (List.append_nil _).symm
  | cons head rest ih =>
      have above : ∀ entry ∈ table.rows, compare entry.1 head.1 = .lt := fun entry member =>
        (List.pairwise_append.mp ascending).2.2 entry member head List.mem_cons_self
      have inserted : (table.insert head.1 head.2).rows = table.rows ++ [head] := insert_row_last _ _ _ above
      rw [List.append_cons, ← inserted] at ascending ⊢
      exact ih _ ascending

end Rows

def Nft.entry (nft : Nft) : NftId × Option Nft := (nft.id, some nft)

def View.putNfts (view : View) (nfts : List Nft) : View := nfts.foldl View.putNft view

def Token.pieces (token : Token) (now : Timestamp) (serials : List Int64) (metadata : List Bytes) : List Nft :=
  (serials.zip metadata).map fun entry =>
    { id := ⟨token.id, entry.1⟩, owner := token.treasury, metadata := entry.2, creationTime := now }

def successors (last : Int) (count : Nat) : List Int := (List.range count).map fun place : Nat => last + 1 + place

theorem successors_succ (last : Int) (count : Nat) :
    successors last (count + 1) = (last + 1) :: successors (last + 1) count := by
  simp only [successors, List.range_succ_eq_map, List.map_cons, List.map_map]
  refine congrArg₂ List.cons (Int.add_zero _) (List.map_congr_left fun place _ => ?_)
  simp only [Function.comp]
  omega

theorem View.put_nfts (view : View) (nfts : List Nft) :
    view.putNfts nfts =
      { view with
        changes.nfts :=
          (nfts.map Nft.entry).foldl (fun table entry => table.insert entry.1 entry.2) view.changes.nfts } := by
  induction nfts generalizing view with
  | nil => rfl
  | cons nft rest ih => exact ih (view.putNft nft)

namespace Work

def size (type : TokenType) (amount : Int64) (items : Nat) : Int64 :=
  match type with
  | .fungible => amount
  | .nonFungible => count items

inductive Strikes (order : Mint) (now : Timestamp) (before : View) : Execution → View → Prop
  | intro (token : Token) (held : Relationship) (supply last balance : Int64) (serials : List Int64)
      (found : before.token order.token = some token)
      (live : token.deleted = false)
      (bare : token.type = .fungible → order.metadata = [])
      (positive : 0 < (size token.type order.amount order.metadata.length).toInt)
      (run : serials.map Int64.toInt = successors token.lastUsedSerial.toInt order.metadata.length)
      (supplied : Shifted token.totalSupply (size token.type order.amount order.metadata.length).toInt supply) :
      Strikes order now before (.minted supply serials)
        ((before.putNfts (token.pieces now serials order.metadata)).resupplied token token.treasury held supply last
          balance)

inductive Retires (id : TokenId) (amount : Int64) (serials : List Int64) (before : View) : Execution → View → Prop
  | intro (token : Token) (holder : AccountId) (held : Relationship) (supply balance : Int64) (middle : View)
      (found : before.token id = some token)
      (live : token.deleted = false)
      (positive : 0 < (size token.type amount serials.length).toInt)
      (taken : Taken token holder amount serials (size token.type amount serials.length) before middle)
      (supplied : Shifted token.totalSupply (-(size token.type amount serials.length).toInt) supply) :
      Retires id amount serials before (.supplyChanged supply)
        (middle.resupplied token holder held supply token.lastUsedSerial balance)

theorem founded_token (view : View) (order : Creation) (now : Timestamp) (id : TokenId) (reserved : UInt64)
    (other : TokenId) : (founded view order now id reserved).merged.tokens.get? other =
      if other = id then some (created order id now) else view.token other :=
  (View.merged_token _ other).trans (View.token_put_token _ _ _)

inductive Founds (order : Creation) (now : Timestamp) (before : View) : Execution → View → Prop
  | intro (id : TokenId) (reserved : UInt64)
      (fresh : id.num.toNat = before.limit) :
      Founds order now before (.created id) (founded before order now id reserved)

section Rules

variable (now : Timestamp) (before after : View) (outcome : Execution)

theorem count_positive (length : Nat) (some : 0 < length) : 0 < (count length).toInt := by
  unfold count clamp
  have low : Int64.minValue.toInt = -9223372036854775808 := by decide
  have high : Int64.maxValue.toInt = 9223372036854775807 := by decide
  split
  · omega
  · split
    · decide
    · rw [Int64.toInt_ofInt_of_le (by omega) (by omega)]
      omega

theorem mint_nfts_run (token : Token) (last final : Int64) (metadata : List Bytes) (serials : List Int64)
    (run : (mintNfts token now last metadata).Yields before (serials, final) after) :
    serials.map Int64.toInt = successors last.toInt metadata.length ∧
      after = before.putNfts (token.pieces now serials metadata) := by
  induction metadata generalizing last before serials with
  | nil =>
      simp only [mintNfts, yields_pure, Prod.mk.injEq] at run
      obtain ⟨⟨rfl, _⟩, rfl⟩ := run
      exact ⟨rfl, rfl⟩
  | cons entry rest ih =>
      simp only [mintNfts, yields_bind, yields_exact, yields_change, yields_pure, add_exact_ok] at run
      obtain ⟨serial, _, ⟨next, rfl⟩, _, _, rfl, ⟨more, top⟩, _, others, same, rfl⟩ := run
      cases same
      obtain ⟨run, staged⟩ := ih _ _ _ others
      have one : (1 : Int64).toInt = 1 := rfl
      rw [one] at next
      rw [next] at run
      exact ⟨by rw [List.map_cons, run, next, List.length_cons, successors_succ], staged⟩

theorem mint_items_run (token : Token) (order : Mint) (minted last : Int64) (serials : List Int64)
    (run : (mintItems token order now).Yields before (minted, serials, last) after) :
    minted = size token.type order.amount order.metadata.length ∧ 0 < minted.toInt ∧
      (token.type = .fungible → order.metadata = []) ∧
      serials.map Int64.toInt = successors token.lastUsedSerial.toInt order.metadata.length ∧
      after = before.putNfts (token.pieces now serials order.metadata) := by
  unfold mintItems at run
  cases kind : token.type with
  | fungible =>
      rw [kind] at run
      simp only [yields_bind, yields_require, yields_pure, Bool.and_eq_true, decide_eq_true_eq] at run
      obtain ⟨_, _, ⟨⟨bare, positive⟩, rfl⟩, same, rfl⟩ := run
      cases same
      rw [List.isEmpty_iff.mp bare]
      exact ⟨rfl, Int64.lt_iff_toInt_lt.mp positive, fun _ => rfl, rfl, rfl⟩
  | nonFungible =>
      rw [kind] at run
      simp only [yields_bind, yields_require, yields_pure, Bool.and_eq_true, Bool.not_eq_true',
        List.isEmpty_eq_false_iff] at run
      obtain ⟨_, _, ⟨⟨_, listed⟩, rfl⟩, ⟨more, final⟩, _, struck, same, rfl⟩ := run
      cases same
      exact ⟨rfl, count_positive _ (List.length_pos_iff.mpr listed), nofun, mint_nfts_run _ _ _ _ _ _ _ _ struck⟩

theorem mint_strikes (order : Mint) (run : (mint order now).Yields before outcome after) :
    Strikes order now before outcome after := by
  obtain ⟨token, held, minted, serials, last, supply, balance, middle, usable, _, items, supplied, _, _, rfl, rfl⟩ :=
    mint_yields now before after order outcome run
  obtain ⟨found, live, _⟩ := (View.usable_token_ok _ _ _).mp usable
  obtain ⟨rfl, positive, bare, listed, rfl⟩ := mint_items_run _ _ _ _ _ _ _ _ items
  exact .intro token held supply last balance serials found live bare positive listed supplied

theorem retire_items_size (token : Token) (holder : AccountId) (amount removed : Int64) (serials : List Int64)
    (invalid : Status) (run : (retireItems token holder amount serials invalid).Yields before removed after) :
    removed = size token.type amount serials.length ∧ 0 < removed.toInt := by
  unfold retireItems at run
  cases kind : token.type with
  | fungible =>
      rw [kind] at run
      simp only [yields_bind, yields_require, yields_pure, Bool.and_eq_true, decide_eq_true_eq] at run
      obtain ⟨_, _, ⟨⟨_, positive⟩, rfl⟩, rfl, rfl⟩ := run
      exact ⟨rfl, Int64.lt_iff_toInt_lt.mp positive⟩
  | nonFungible =>
      rw [kind] at run
      simp only [yields_bind, yields_require, yields_pure, Bool.and_eq_true, Bool.not_eq_true',
        List.isEmpty_eq_false_iff] at run
      obtain ⟨_, _, ⟨⟨_, listed⟩, rfl⟩, _, _, _, rfl, rfl⟩ := run
      exact ⟨rfl, count_positive _ (List.length_pos_iff.mpr listed)⟩

theorem retire_retires (id : TokenId) (token : Token) (found : before.token id = some token)
    (live : token.deleted = false) (holder : AccountId) (held : Relationship) (amount : Int64) (serials : List Int64)
    (invalid insufficient : Status)
    (run : (retire token holder held amount serials invalid insufficient).Yields before outcome after) :
    Retires id amount serials before outcome after := by
  obtain ⟨removed, middle, supply, balance, items, supplied, _, rfl, rfl⟩ := retire_yields _ _ _ _ _ _ _ _ _ _ run
  have taken := retire_items_taken _ _ _ _ _ _ _ _ items
  obtain ⟨rfl, positive⟩ := retire_items_size _ _ _ _ _ _ _ _ items
  exact .intro token holder held supply balance _ found live positive taken supplied

theorem burn_retires (order : Burn) (run : (burn order).Yields before outcome after) :
    Retires order.token order.amount order.serials before outcome after := by
  obtain ⟨token, held, usable, _, rest⟩ := burn_yields before after order outcome run
  obtain ⟨found, live, _⟩ := (View.usable_token_ok _ _ _).mp usable
  exact retire_retires _ _ _ _ token found live _ held _ _ _ _ rest

theorem wipe_retires (order : Wipe) (run : (wipe order).Yields before outcome after) :
    Retires order.token order.amount order.serials before outcome after := by
  obtain ⟨token, _, held, usable, _, _, _, rest⟩ := wipe_yields before after order outcome run
  obtain ⟨found, live, _⟩ := (View.usable_token_ok _ _ _).mp usable
  exact retire_retires _ _ _ _ token found live _ held _ _ _ _ rest

theorem create_founds (order : Creation) (run : (create order now).Yields before outcome after) :
    Founds order now before outcome after := by
  obtain ⟨_, _, reserved, _, fresh, _, rfl, rfl⟩ := create_yields now before after order outcome run
  exact .intro _ reserved fresh

end Rules

end Work

end TokenService
