import TokenService.Proofs.Ledger.Execution

set_option autoImplicit false

namespace TokenService

section Exact

theorem int64_none_iff (n : Int) : int64? n = none ↔ n < Int64.minValue.toInt ∨ Int64.maxValue.toInt < n := by
  unfold int64?
  split
  · rename_i range
    simp only [reduceCtorEq, false_iff]
    omega
  · rename_i range
    simp only [true_iff]
    omega

theorem guard_error {α : Type} (operation other : Overflow) (exact : Option α) :
    operation.guard exact = .error other ↔ exact = none ∧ other = operation := by
  cases exact with
  | none => simp [Overflow.guard, eq_comm]
  | some value => simp [Overflow.guard]

theorem neg_exact_error (a : Int64) (operation : Overflow) :
    negExact a = .error operation ↔ operation = .negate ∧ a = Int64.minValue := by
  have low : Int64.minValue.toInt = -9223372036854775808 := by decide
  have high : Int64.maxValue.toInt = 9223372036854775807 := by decide
  have above := Int64.minValue_le_toInt a
  have below := Int64.toInt_le a
  rw [negExact, guard_error, int64_none_iff, and_comm, ← Int64.toInt_inj]
  refine and_congr_right fun _ => ?_
  omega

end Exact

-- An approved debit of the least amount has no positive counterpart to draw from an allowance.
def Adjustment.Unpayable (adjustment : Adjustment) : Prop :=
  adjustment.approval = true ∧ adjustment.amount = Int64.minValue

namespace Work

def Overflows {α : Type} (work : Work α) (before : View) (operation : Overflow) : Prop :=
  (work before).1 = .error (.overflow operation)

section Laws

variable {α β : Type} (before : View) (operation : Overflow)

@[simp] theorem overflows_bind (work : Work α) (next : α → Work β) :
    (work >>= next).Overflows before operation ↔
      work.Overflows before operation ∨
        ∃ value between, work.Yields before value between ∧ (next value).Overflows between operation := by
  unfold Overflows Yields
  rw [run_bind]
  cases run : work before with
  | mk result between =>
      cases result with
      | ok value =>
          constructor
          · intro later
            exact .inr ⟨value, between, rfl, later⟩
          · rintro (first | ⟨_, _, same, later⟩)
            · nomatch first
            · cases same
              exact later
      | error failure =>
          change (Except.error failure : Except Failure β) = _ ↔ (Except.error failure : Except Failure α) = _ ∨ _
          constructor
          · intro first
            cases first
            exact .inl rfl
          · rintro (first | ⟨_, _, same, _⟩)
            · cases first
              rfl
            · cases same

@[simp] theorem overflows_pure (value : α) : ¬ (pure value : Work α).Overflows before operation :=
  fun same => nomatch same

@[simp] theorem overflows_get : ¬ (get : Work View).Overflows before operation := fun same => nomatch same

@[simp] theorem overflows_set (view : View) : ¬ (set view : Work PUnit).Overflows before operation :=
  fun same => nomatch same

@[simp] theorem overflows_change (step : View → View) : ¬ (change step).Overflows before operation :=
  fun same => nomatch same

@[simp] theorem overflows_refuse (status : Status) : ¬ (refuse status : Work α).Overflows before operation :=
  fun same => nomatch same

@[simp] theorem overflows_require (rule : Bool) (status : Status) :
    ¬ (require rule status).Overflows before operation := by
  cases rule with
  | true => exact overflows_pure before operation ()
  | false => exact overflows_refuse before operation status

@[simp] theorem overflows_read (look : View → Except Status α) : ¬ (read look).Overflows before operation := by
  unfold read
  rw [overflows_bind]
  rintro (first | ⟨view, between, _, later⟩)
  · exact overflows_get before operation first
  · cases found : look view with
    | ok row =>
        rw [found] at later
        exact overflows_pure between operation row later
    | error status =>
        rw [found] at later
        exact overflows_refuse between operation status later

@[simp] theorem overflows_map (step : α → β) (work : Work α) :
    (step <$> work).Overflows before operation ↔ work.Overflows before operation := by
  rw [← bind_pure_comp]
  simp only [overflows_bind, overflows_pure, and_false, exists_false, or_false]

@[simp] theorem overflows_discard (work : Work α) :
    (discard work : Work PUnit).Overflows before operation ↔ work.Overflows before operation := by
  exact overflows_map before operation (fun _ => PUnit.unit) work

@[simp] theorem overflows_exact (result : Except Overflow α) :
    (exact result).Overflows before operation ↔ result = .error operation := by
  cases result with
  | ok row => exact ⟨(nomatch ·), (nomatch ·)⟩
  | error other =>
      constructor
      · intro same
        cases same
        rfl
      · intro same
        cases same
        rfl

@[simp] theorem overflows_adjusted (balance delta : Int64) (insufficient : Status) :
    ¬ (adjusted balance delta insufficient).Overflows before operation := by
  unfold adjusted
  split
  · split
    · exact overflows_pure before operation _
    · exact overflows_refuse before operation _
  · exact overflows_refuse before operation _

theorem overflows_for (step : α → Work PUnit) (items : List α) :
    (items.forM step).Overflows before operation ↔
      ∃ done item rest middle, items = done ++ item :: rest ∧ (done.forM step).Yields before () middle ∧
        (step item).Overflows middle operation := by
  induction items generalizing before with
  | nil =>
      constructor
      · intro run
        exact absurd run (overflows_pure before operation _)
      · rintro ⟨done, item, rest, _, split, _⟩
        simp at split
  | cons first others ih =>
      change (step first >>= fun _ => others.forM step).Overflows before operation ↔ _
      rw [overflows_bind]
      constructor
      · rintro (now | ⟨_, between, run, later⟩)
        · exact ⟨[], first, others, before, rfl, (yields_for_nil _ _ _ _).mpr rfl, now⟩
        · obtain ⟨done, item, rest, middle, split, reached, fault⟩ := (ih between).mp later
          refine ⟨first :: done, item, rest, middle, ?_, ?_, fault⟩
          · rw [split, List.cons_append]
          · exact (yields_for_cons _ _ _ _ _ _).mpr ⟨between, run, reached⟩
      · rintro ⟨done, item, rest, middle, split, reached, fault⟩
        cases done with
        | nil =>
            obtain ⟨rfl, rfl⟩ := List.cons.inj split
            cases (yields_for_nil _ _ _ _).mp reached
            exact .inl fault
        | cons head tail =>
            obtain ⟨rfl, rfl⟩ := List.cons.inj split
            obtain ⟨between, run, onward⟩ := (yields_for_cons _ _ _ _ _ _).mp reached
            exact .inr ⟨(), between, run, (ih between).mpr ⟨tail, item, rest, middle, rfl, onward, fault⟩⟩

end Laws

def Steady {α : Type} (work : Work α) : Prop := ∀ before operation, ¬ work.Overflows before operation

theorem for_steady {α : Type} (step : α → Work PUnit) (each : ∀ item, (step item).Steady) (items : List α) :
    (forM items step : Work PUnit).Steady := by
  intro before operation run
  obtain ⟨_, item, _, middle, _, _, fault⟩ := (overflows_for _ _ _ _).mp run
  exact each item middle operation fault

section Rules

theorem associate_steady (association : Association) : (associate association).Steady := by
  intro before operation
  have each (id : TokenId) : (associateOne association.account id).Steady := by
    intro view other
    simp [associateOne]
  simp [associate, for_steady _ each _ _ _]

theorem check_release_steady (account : AccountId) (held : Relationship) (token : Except Status Token) :
    (checkRelease account held token).Steady := by
  intro before operation
  cases token <;> simp [checkRelease]

theorem dissociate_steady (association : Association) : (dissociate association).Steady := by
  intro before operation
  have each (id : TokenId) : (dissociateOne association.account id).Steady := by
    intro view other
    simp [dissociateOne, check_release_steady _ _ _ _ _]
  simp [dissociate, for_steady _ each _ _ _]

theorem set_paused_steady (paused : Bool) (id : TokenId) : (setPaused paused id).Steady := by
  intro before operation
  simp [setPaused]

theorem check_renewer_steady (renewer : Option AccountId) : (checkRenewer renewer).Steady := by
  intro before operation
  cases renewer <;> simp [checkRenewer]

theorem move_treasury_steady (token : Token) (successor : AccountId) : (moveTreasury token successor).Steady := by
  intro before operation
  have supply (incoming : Relationship) : (moveSupply token successor incoming).Steady := by
    intro view other
    unfold moveSupply
    cases token.type <;> simp
  unfold moveTreasury
  split <;> simp [supply _ _ _]

theorem update_steady (order : Update) : (update order).Steady := by
  intro before operation
  simp [update, move_treasury_steady _ _ _ _, check_renewer_steady _ _ _]

theorem approve_steady (hbar : List HbarGrant) (units : List UnitGrant) (nfts : List NftGrant) :
    (approve hbar units nfts).Steady := by
  intro before operation
  have money (grant : HbarGrant) : (grantHbar grant).Steady := by
    intro view other
    simp [grantHbar]
  have amount (grant : UnitGrant) : (grantUnits grant).Steady := by
    intro view other
    simp [grantUnits]
  have serial (token : TokenId) (owner spender : AccountId) (serial : Int64) :
      (lendNft token owner spender serial).Steady := by
    intro view other
    simp [lendNft]
  have delegate (owner : Account) (token : TokenId) (delegating : Option AccountId) :
      (checkDelegate owner token delegating).Steady := by
    intro view other
    cases delegating <;> simp [checkDelegate]
  have items (grant : NftGrant) : (grantNfts grant).Steady := by
    intro view other
    simp [grantNfts, delegate _ _ _ _ _, for_steady _ (serial _ _ _) _ _ _]
  simp [approve, for_steady _ money _ _ _, for_steady _ amount _ _ _, for_steady _ items _ _ _]

theorem revoke_steady (payer : AccountId) (revocations : List NftRevocation) : (revoke payer revocations).Steady := by
  have clear (token : Token) (owner : AccountId) (serial : Int64) : (clearSpender token owner serial).Steady := by
    intro view other
    simp [clearSpender]
  have entitled (token : TokenId) (owner : AccountId) : (checkPayer payer token owner).Steady := by
    intro view other
    unfold checkPayer
    split <;> simp
  refine for_steady _ (fun revocation view other => ?_) revocations
  simp [revokeOne, entitled _ _ _ _, for_steady _ (clear _ _) _ _ _]

theorem mint_nfts_steady (token : Token) (now : Timestamp) (last : Int64) (metadata : List Bytes) (before : View)
    (operation : Overflow) (room : last.toInt + metadata.length ≤ Int64.maxValue.toInt) :
    ¬ (mintNfts token now last metadata).Overflows before operation := by
  induction metadata generalizing last before with
  | nil => exact overflows_pure before operation _
  | cons entry rest ih =>
      have one : (1 : Int64).toInt = 1 := by decide
      have low := Int64.minValue_le_toInt last
      rw [List.length_cons] at room
      simp only [mintNfts, overflows_bind, overflows_exact, overflows_change, overflows_pure, yields_exact,
        add_exact_ok, one]
      rintro (first | ⟨serial, _, ⟨next, rfl⟩, fault | ⟨_, between, _, later | ⟨_, _, _, fault⟩⟩⟩)
      · have none := ((guard_error _ _ _).mp first).1
        rw [int64_none_iff, one] at none
        omega
      · exact fault
      · exact ih serial between (by omega) later
      · exact fault

theorem mint_steady (order : Mint) (now : Timestamp) (before : View) (operation : Overflow)
    (room : ∀ token, before.usableToken order.token = .ok token →
      token.lastUsedSerial.toInt + order.metadata.length ≤ Int64.maxValue.toInt) :
    ¬ (mint order now).Overflows before operation := by
  simp only [mint, overflows_bind, overflows_read, overflows_adjusted, overflows_require, overflows_change,
    overflows_pure, yields_read, false_or, or_false, and_false, exists_false]
  rintro ⟨token, _, ⟨found, rfl⟩, _, between, ⟨_, rfl⟩, items⟩
  unfold mintItems at items
  cases kind : token.type with
  | fungible =>
      rw [kind] at items
      simp only [overflows_bind, overflows_require, overflows_pure, and_false, exists_false, or_false] at items
  | nonFungible =>
      rw [kind] at items
      simp only [overflows_bind, overflows_require, overflows_pure, yields_require, false_or, or_false, and_false,
        exists_false] at items
      obtain ⟨_, _, ⟨_, rfl⟩, fault⟩ := items
      exact mint_nfts_steady token now _ _ _ operation (room token found) fault

theorem retire_items_nonneg (token : Token) (holder : AccountId) (amount removed : Int64) (serials : List Int64)
    (invalid : Status) (before after : View)
    (run : (retireItems token holder amount serials invalid).Yields before removed after) : 0 ≤ removed.toInt := by
  unfold retireItems at run
  cases kind : token.type with
  | fungible =>
      rw [kind] at run
      simp only [yields_bind, yields_require, yields_pure, Bool.and_eq_true, decide_eq_true_eq] at run
      obtain ⟨_, _, ⟨⟨_, positive⟩, _⟩, rfl, _⟩ := run
      exact Int.le_of_lt (Int64.lt_iff_toInt_lt.mp positive)
  | nonFungible =>
      rw [kind] at run
      simp only [yields_bind, yields_pure] at run
      obtain ⟨_, _, _, _, _, _, rfl, _⟩ := run
      exact count_nonneg _

theorem retire_steady (token : Token) (holder : AccountId) (held : Relationship) (amount : Int64)
    (serials : List Int64) (invalid insufficient : Status) :
    (retire token holder held amount serials invalid insufficient).Steady := by
  have owned (serial : Int64) : (removeOwned token.id holder serial).Steady := by
    intro view other
    simp [removeOwned]
  have items : (retireItems token holder amount serials invalid).Steady := by
    intro view other
    unfold retireItems
    cases token.type <;> simp [for_steady _ owned _ _ _]
  intro before operation
  simp only [retire, overflows_bind, items _ _, overflows_exact, overflows_adjusted, overflows_change, overflows_pure,
    neg_exact_error, false_or, or_false, and_false, exists_false]
  rintro ⟨removed, between, taken, rfl, least⟩
  have nonneg := retire_items_nonneg _ _ _ _ _ _ _ _ taken
  rw [least] at nonneg
  exact absurd nonneg (by decide)

theorem burn_steady (order : Burn) : (burn order).Steady := by
  intro before operation
  simp [burn, retire_steady _ _ _ _ _ _ _ _ _]

theorem wipe_steady (order : Wipe) : (wipe order).Steady := by
  intro before operation
  simp [wipe, retire_steady _ _ _ _ _ _ _ _ _]

theorem create_steady (order : Creation) (now : Timestamp) (before : View) (operation : Overflow)
    (room : before.limit + 1 < UInt64.size) : ¬ (create order now).Overflows before operation := by
  have given (view : View) (space : view.limit + 1 < UInt64.size) (other : Overflow) :
      ¬ allocate.Overflows view other := by
    obtain ⟨created, counted⟩ : ∃ created, uint64? (view.changes.entitiesCreated.toNat + 1) = some created := by
      rw [View.limit] at space
      exact ⟨_, if_pos (by omega)⟩
    obtain ⟨number, numbered⟩ : ∃ number, uint64? view.limit = some number := ⟨_, if_pos (by omega)⟩
    have step : view.allocate = .ok (number, view.reserving created) :=
      (View.allocate_ok _ _ _).mpr ⟨created, (uint64_some_iff _ _).mp numbered, (uint64_some_iff _ _).mp counted, rfl⟩
    simp only [allocate, overflows_bind, overflows_get, overflows_exact, overflows_set, overflows_pure, yields_get,
      false_or, or_false, and_false, exists_false]
    rintro ⟨_, _, ⟨rfl, rfl⟩, fault⟩
    rw [step] at fault
    cases fault
  simp only [create, overflows_bind, overflows_read, check_renewer_steady _ _ _, overflows_require, overflows_change,
    overflows_pure, yields_read, yields_require, false_or, or_false, and_false, exists_false]
  rintro ⟨_, _, ⟨_, rfl⟩, _, between, kept, _, _, ⟨_, rfl⟩, fault⟩
  obtain rfl := check_renewer_ok _ _ _ kept
  exact given _ room operation fault

section Transfers

theorem draw_overflows {κ : Type} [Ord κ] [Std.TransOrd κ] [Std.LawfulEqOrd κ] (allowances : Table κ Int64) (key : κ)
    (debit : Int64) (negative : debit.toInt < 0) (before : View) (operation : Overflow) :
    (draw allowances key debit).Overflows before operation ↔ operation = .negate ∧ debit = Int64.minValue := by
  have high : Int64.maxValue.toInt = 9223372036854775807 := by decide
  have low : Int64.minValue.toInt = -9223372036854775808 := by decide
  -- A positive amount within what was granted leaves a rest between nothing and that.
  have rest (amount granted : Int64) (opposite : amount.toInt = -debit.toInt) (within : amount ≤ granted) :
      subExact granted amount ≠ .error operation := by
    intro fault
    have none := ((guard_error _ _ _).mp fault).1
    have bound := Int64.toInt_le granted
    rw [Int64.le_iff_toInt_le] at within
    rw [int64_none_iff] at none
    omega
  simp only [draw, overflows_bind, overflows_exact, neg_exact_error, yields_exact, neg_exact_ok]
  refine or_iff_left ?_
  rintro ⟨amount, _, ⟨opposite, rfl⟩, fault⟩
  cases found : allowances.get? key with
  | none =>
      rw [found] at fault
      exact overflows_refuse _ _ _ fault
  | some granted =>
      rw [found] at fault
      simp only [overflows_bind, overflows_require, yields_require, decide_eq_true_eq, false_or] at fault
      obtain ⟨_, _, ⟨within, rfl⟩, fault⟩ := fault
      split at fault
      · exact overflows_pure _ _ _ fault
      · simp only [overflows_bind, overflows_exact, overflows_pure, and_false, exists_false, or_false] at fault
        exact rest amount granted opposite within fault

theorem drawn_overflows {κ : Type} [Ord κ] [Std.TransOrd κ] [Std.LawfulEqOrd κ] (allowances : Table κ Int64) (key : κ)
    (adjustment : Adjustment) (before : View) (operation : Overflow) :
    (drawn allowances key adjustment).Overflows before operation ↔ operation = .negate ∧ adjustment.Unpayable := by
  unfold drawn
  by_cases drawing : draws adjustment = true
  · have parts := drawing
    rw [draws, Bool.and_eq_true, decide_eq_true_eq, Int64.lt_iff_toInt_lt] at parts
    rw [if_pos drawing, draw_overflows _ _ _ parts.2]
    exact and_congr_right fun _ => (and_iff_right parts.1).symm
  · rw [if_neg drawing]
    refine iff_of_false (overflows_pure _ _ _) fun least => drawing ?_
    rw [draws, least.2.1, least.2.2]
    decide

theorem adjust_hbar_overflows (spender : AccountId) (adjustment : Adjustment) (before : View) (operation : Overflow) :
    (adjustHbar spender adjustment).Overflows before operation ↔
      operation = .negate ∧ adjustment.Unpayable ∧
        ∃ account, before.liveAccount adjustment.account = .ok account := by
  simp only [adjustHbar, overflows_bind, overflows_read, drawn_overflows, overflows_adjusted, overflows_change,
    yields_read, false_or, or_false, and_false, exists_false]
  constructor
  · rintro ⟨account, _, ⟨lives, rfl⟩, rfl, unpayable⟩
    exact ⟨rfl, unpayable, account, lives⟩
  · rintro ⟨rfl, unpayable, account, lives⟩
    exact ⟨account, before, ⟨lives, rfl⟩, rfl, unpayable⟩

theorem draw_units_overflows (spender : AccountId) (token : TokenId) (adjustment : Adjustment) (owner : Account)
    (before : View) (operation : Overflow) :
    (drawUnits spender token adjustment owner).Overflows before operation ↔
      operation = .negate ∧ adjustment.Unpayable := by
  rw [← drawn_overflows owner.tokenAllowances ⟨token, spender⟩ adjustment before operation]
  unfold drawUnits drawn
  split
  · simp only [overflows_bind, overflows_change, and_false, exists_false, or_false]
  · exact iff_of_false (overflows_pure _ _ _) (overflows_pure _ _ _)

theorem adjust_units_overflows (spender : AccountId) (token : TokenId) (adjustment : Adjustment) (before : View)
    (operation : Overflow) :
    (adjustUnits spender token adjustment).Overflows before operation ↔
      operation = .negate ∧ adjustment.Unpayable ∧
        (∃ owner, before.liveAccount adjustment.account = .ok owner) ∧
        ∃ held, before.usableRelationship adjustment.account token = .ok held := by
  simp only [adjustUnits, overflows_bind, overflows_read, draw_units_overflows, overflows_adjusted, overflows_change,
    yields_read, false_or, or_false, and_false, exists_false]
  constructor
  · rintro ⟨owner, _, ⟨lives, rfl⟩, held, _, ⟨trades, rfl⟩, rfl, unpayable⟩
    exact ⟨rfl, unpayable, ⟨owner, lives⟩, held, trades⟩
  · rintro ⟨rfl, unpayable, ⟨owner, lives⟩, held, trades⟩
    exact ⟨owner, before, ⟨lives, rfl⟩, held, before, ⟨trades, rfl⟩, rfl, unpayable⟩

theorem check_approval_steady (spender : AccountId) (token : TokenId) (move : NftMove) (nft : Nft) :
    (checkApproval spender token move nft).Steady := by
  intro before operation
  unfold checkApproval
  split <;> simp

theorem move_nft_steady (spender : AccountId) (token : TokenId) (move : NftMove) :
    (moveNft spender token move).Steady := by
  intro before operation
  simp [moveNft, check_approval_steady _ _ _ _ _ _]

theorem check_kind_yields (type : TokenType) (moves : TokenMoves) (before after : View) (value : Unit) :
    (checkKind type moves).Yields before value after ↔
      (type = .fungible → moves.nftMoves = []) ∧ (type = .nonFungible → moves.adjustments = []) ∧ after = before := by
  cases type <;> simp [checkKind, yields_require]

theorem check_kind_steady (type : TokenType) (moves : TokenMoves) : (checkKind type moves).Steady := by
  intro before operation
  cases type <;> simp [checkKind]

/-- How a transfer founders: its entries before one that is approved and of the least amount went through, and
whoever that entry is about is found. -/
inductive Founders (sender : AccountId) (hbar : List Adjustment) (tokens : List TokenMoves) (start : View) : Prop
  | hbar (done rest : List Adjustment) (entry : Adjustment) (middle : View) (account : Account)
      (split : hbar = done ++ entry :: rest)
      (reached : (done.forM (adjustHbar sender)).Yields start () middle)
      (unpayable : entry.Unpayable)
      (lives : middle.liveAccount entry.account = .ok account)
  | units (earlier later : List TokenMoves) (moves : TokenMoves) (done rest : List Adjustment) (entry : Adjustment)
      (between middle : View) (token : Token) (owner : Account) (held : Relationship)
      (listed : tokens = earlier ++ moves :: later)
      (begun : (transfer hbar earlier sender).Yields start () between)
      (usable : between.usableToken moves.token = .ok token)
      (fungible : token.type = .fungible)
      (bare : moves.nftMoves = [])
      (split : moves.adjustments = done ++ entry :: rest)
      (reached : (done.forM (adjustUnits sender token.id)).Yields between () middle)
      (unpayable : entry.Unpayable)
      (lives : middle.liveAccount entry.account = .ok owner)
      (trades : middle.usableRelationship entry.account token.id = .ok held)

theorem transfer_token_overflows (spender : AccountId) (moves : TokenMoves) (before : View) (operation : Overflow) :
    (transferToken spender moves).Overflows before operation ↔
      ∃ token, before.usableToken moves.token = .ok token ∧ token.type = .fungible ∧ moves.nftMoves = [] ∧
        (moves.adjustments.forM (adjustUnits spender token.id)).Overflows before operation := by
  have serials (token : Token) (view : View) :
      ¬ (forM moves.nftMoves (moveNft spender token.id) : Work PUnit).Overflows view operation :=
    for_steady _ (move_nft_steady spender token.id) _ _ _
  simp only [transferToken, overflows_bind, overflows_read, check_kind_steady _ _ _ _, List.forM_eq_forM, serials,
    yields_read, check_kind_yields, false_or, or_false, and_false, exists_false]
  constructor
  · rintro ⟨token, _, ⟨usable, rfl⟩, _, _, ⟨bare, serialized, rfl⟩, fault⟩
    cases kind : token.type with
    | fungible => exact ⟨token, usable, kind, bare kind, fault⟩
    | nonFungible =>
        rw [serialized kind] at fault
        exact absurd fault (overflows_pure _ _ _)
  · rintro ⟨token, usable, fungible, bare, fault⟩
    refine ⟨token, before, ⟨usable, rfl⟩, (), before, ⟨fun _ => bare, fun other => ?_, rfl⟩, fault⟩
    rw [fungible] at other
    cases other

theorem transfer_overflows (hbar : List Adjustment) (tokens : List TokenMoves) (sender : AccountId) (start : View)
    (operation : Overflow) :
    (transfer hbar tokens sender).Overflows start operation ↔
      operation = .negate ∧ Founders sender hbar tokens start := by
  have begun (earlier : List TokenMoves) (between : View) :
      (transfer hbar earlier sender).Yields start () between ↔
        ∃ paid, (hbar.forM (adjustHbar sender)).Yields start () paid ∧
          (earlier.forM (transferToken sender)).Yields paid () between := by
    unfold transfer
    rw [yields_bind]
    constructor
    · rintro ⟨_, paid, first, later⟩
      exact ⟨paid, first, later⟩
    · rintro ⟨paid, first, later⟩
      exact ⟨(), paid, first, later⟩
  unfold transfer
  rw [overflows_bind, overflows_for]
  constructor
  · rintro (⟨done, entry, rest, middle, split, reached, fault⟩ | ⟨_, paid, run, fault⟩)
    · obtain ⟨rfl, unpayable, account, lives⟩ := (adjust_hbar_overflows _ _ _ _).mp fault
      exact ⟨rfl, .hbar done rest entry middle account split reached unpayable lives⟩
    · obtain ⟨earlier, moves, later, between, listed, along, fault⟩ := (overflows_for _ _ _ _).mp fault
      obtain ⟨token, usable, fungible, bare, fault⟩ := (transfer_token_overflows _ _ _ _).mp fault
      obtain ⟨done, entry, rest, middle, split, reached, fault⟩ := (overflows_for _ _ _ _).mp fault
      obtain ⟨rfl, unpayable, ⟨owner, lives⟩, held, trades⟩ := (adjust_units_overflows _ _ _ _ _).mp fault
      exact ⟨rfl, .units earlier later moves done rest entry between middle token owner held listed
        ((begun _ _).mpr ⟨paid, run, along⟩) usable fungible bare split reached unpayable lives trades⟩
  · rintro ⟨rfl, founders⟩
    cases founders with
    | hbar done rest entry middle account split reached unpayable lives =>
        refine .inl ⟨done, entry, rest, middle, split, reached, ?_⟩
        exact (adjust_hbar_overflows _ _ _ _).mpr ⟨rfl, unpayable, account, lives⟩
    | units earlier later moves done rest entry between middle token owner held listed started usable fungible bare
        split reached unpayable lives trades =>
        obtain ⟨paid, run, along⟩ := (begun _ _).mp started
        refine .inr ⟨(), paid, run, (overflows_for _ _ _ _).mpr ⟨earlier, moves, later, between, listed, along, ?_⟩⟩
        refine (transfer_token_overflows _ _ _ _).mpr ⟨token, usable, fungible, bare, ?_⟩
        refine (overflows_for _ _ _ _).mpr ⟨done, entry, rest, middle, split, reached, ?_⟩
        exact (adjust_units_overflows _ _ _ _ _).mpr ⟨rfl, unpayable, ⟨owner, lives⟩, held, trades⟩

end Transfers

end Rules

@[simp] theorem overflows_completed (work : Work Unit) (before : View) (operation : Overflow) :
    (completed work).Overflows before operation ↔ work.Overflows before operation := by
  simp only [completed, overflows_bind, overflows_pure, and_false, exists_false, or_false]

/-- Where there are numbers for all that a transaction makes, its rules leave the range of numbers exactly when it is
a transfer that founders. -/
theorem execute_overflows (body : Body) (sender : AccountId) (now : Timestamp) (before : View) (operation : Overflow)
    (serials : ∀ order, body = .mint order → ∀ token, before.usableToken order.token = .ok token →
      token.lastUsedSerial.toInt + order.metadata.length ≤ Int64.maxValue.toInt)
    (numbers : before.limit + 1 < UInt64.size) :
    (execute body sender now).Overflows before operation ↔
      operation = .negate ∧ ∃ hbar tokens, body = .transfer hbar tokens ∧ Founders sender hbar tokens before := by
  have other (steady : ¬ (execute body sender now).Overflows before operation)
      (apart : ∀ hbar tokens, body ≠ .transfer hbar tokens) :
      (execute body sender now).Overflows before operation ↔
        operation = .negate ∧ ∃ hbar tokens, body = .transfer hbar tokens ∧ Founders sender hbar tokens before :=
    iff_of_false steady fun ⟨_, hbar, tokens, same, _⟩ => apart hbar tokens same
  have done (work : Work Unit) (steady : work.Steady) : ¬ (completed work).Overflows before operation :=
    fun fault => steady _ _ ((overflows_completed _ _ _).mp fault)
  cases body with
  | transfer hbar tokens =>
      simp only [execute, overflows_completed, transfer_overflows, Body.transfer.injEq]
      refine and_congr_right fun _ => ⟨fun founders => ⟨hbar, tokens, ⟨rfl, rfl⟩, founders⟩, ?_⟩
      rintro ⟨_, _, ⟨rfl, rfl⟩, founders⟩
      exact founders
  | associate association => exact other (done _ (associate_steady association)) fun _ _ => nofun
  | dissociate association => exact other (done _ (dissociate_steady association)) fun _ _ => nofun
  | mint order => exact other (mint_steady order now before operation (serials order rfl)) fun _ _ => nofun
  | burn order => exact other (burn_steady order before operation) fun _ _ => nofun
  | wipe order => exact other (wipe_steady order before operation) fun _ _ => nofun
  | pause token => exact other (done _ (set_paused_steady true token)) fun _ _ => nofun
  | unpause token => exact other (done _ (set_paused_steady false token)) fun _ _ => nofun
  | create order => exact other (create_steady order now before operation numbers) fun _ _ => nofun
  | update order => exact other (done _ (update_steady order)) fun _ _ => nofun
  | approve hbar units nfts => exact other (done _ (approve_steady hbar units nfts)) fun _ _ => nofun
  | revoke revocations => exact other (done _ (revoke_steady sender revocations)) fun _ _ => nofun
  | queryToken token => exact other (nomatch ·) fun _ _ => nofun
  | queryNft id => exact other (nomatch ·) fun _ _ => nofun

end Work

end TokenService
