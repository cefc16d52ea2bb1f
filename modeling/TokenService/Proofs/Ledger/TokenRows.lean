import TokenService.Proofs.Ledger.Execution
import TokenService.Proofs.Ledger.Steps

set_option autoImplicit false

namespace TokenService

def View.register (view : View) : Ledger × (TokenId → Option Token) := (view.ledger, view.token)

namespace Work

variable {ρ α β : Type}

def Keeps (look : View → ρ) (work : Work α) : Prop :=
  ∀ before value after, work.Yields before value after → look after = look before

section Laws

variable (look : View → ρ)

theorem keeps_bind (work : Work α) (next : α → Work β) (first : work.Keeps look)
    (rest : ∀ value, (next value).Keeps look) : (work >>= next).Keeps look := by
  intro before value after run
  obtain ⟨middle, between, start, finish⟩ := (yields_bind _ _ _ _ _).mp run
  exact (rest middle _ _ _ finish).trans (first _ _ _ start)

theorem keeps_pure (value : α) : (pure value : Work α).Keeps look := by
  intro before other after run
  obtain ⟨_, rfl⟩ := (yields_pure _ _ _ _).mp run
  rfl

theorem keeps_get : (get : Work View).Keeps look := by
  intro before view after run
  obtain ⟨_, rfl⟩ := (yields_get _ _ _).mp run
  rfl

theorem keeps_read (seen : View → Except Status α) : (read seen).Keeps look := by
  intro before value after run
  obtain ⟨_, rfl⟩ := (yields_read _ _ _ _).mp run
  rfl

theorem keeps_refuse (status : Status) : (refuse status : Work α).Keeps look :=
  fun _ _ _ run => absurd run (yields_refuse _ _ _ _)

theorem keeps_change (step : View → View) (same : ∀ view, look (step view) = look view) :
    (change step).Keeps look := by
  intro before value after run
  cases (yields_change _ _ _ _).mp run
  exact same before

theorem keeps_composes : Composes fun _ => Keeps look where
  bind := keeps_bind look
  pure := keeps_pure look
  refuse := keeps_refuse look
  overflow _ _ _ _ run := absurd run (yields_throw _ _ _ _)

theorem keeps_checked (rule : View → Bool) (status : Status) (step : View → View)
    (same : ∀ view, look (step view) = look view) :
    (do let view ← get; require (rule view) status; change step : Work Unit).Keeps look := by
  refine keeps_bind look _ _ (keeps_get look) fun view => ?_
  exact keeps_bind look _ _ ((keeps_composes look).require _ _) fun _ => keeps_change look _ same

end Laws

section Quiet

theorem register_carried : Carries (fun _ _ => True) fun _ => Keeps View.register where
  toComposes := keeps_composes _
  token _ _ rest := keeps_bind _ _ _ (keeps_read _ _) fun row => rest row trivial
  live _ := keeps_read _ _
  present _ _ := keeps_read _ _
  trades _ _ := keeps_read _ _
  putAccount _ := keeps_change _ _ fun _ => rfl
  putRelationship _ _ _ := keeps_change _ _ fun _ => rfl
  putNft _ := keeps_change _ _ fun _ => rfl

theorem associate_keeps_register (association : Association) : (associate association).Keeps View.register := by
  refine keeps_bind _ _ _ ((keeps_composes _).discarded _ (keeps_read _ _)) fun _ => ?_
  refine (keeps_composes _).each _ _ fun id _ => ?_
  exact keeps_bind _ _ _ (keeps_read _ _) fun token => keeps_checked _ _ _ _ fun _ => rfl

theorem check_release_keeps_register (account : AccountId) (held : Relationship) (token : Except Status Token) :
    (checkRelease account held token).Keeps View.register := by
  cases token with
  | error status => exact keeps_pure _ _
  | ok token =>
      exact keeps_bind _ _ _ ((keeps_composes _).require _ _) fun _ => (keeps_composes _).require _ _

theorem dissociate_keeps_register (association : Association) : (dissociate association).Keeps View.register := by
  refine keeps_bind _ _ _ ((keeps_composes _).discarded _ (keeps_read _ _)) fun _ => ?_
  refine (keeps_composes _).each _ _ fun id _ => ?_
  refine keeps_bind _ _ _ (keeps_read _ _) fun held => ?_
  refine keeps_bind _ _ _ (keeps_get _) fun view => ?_
  exact keeps_bind _ _ _ (check_release_keeps_register _ _ _) fun _ => keeps_change _ _ fun _ => rfl

theorem mint_nfts_keeps_register (token : Token) (now : Timestamp) (last : Int64) (metadata : List Bytes) :
    (mintNfts token now last metadata).Keeps View.register := by
  induction metadata generalizing last with
  | nil => exact keeps_pure _ _
  | cons entry rest ih =>
      refine keeps_bind _ _ _ ((keeps_composes _).exact _) fun serial => ?_
      refine keeps_bind _ _ _ (Carries.putNft register_carried _) fun _ => ?_
      exact keeps_bind _ _ _ (ih serial) fun _ => keeps_pure _ _

theorem mint_items_keeps_register (token : Token) (order : Mint) (now : Timestamp) :
    (mintItems token order now).Keeps View.register := by
  unfold mintItems
  cases token.type with
  | fungible => exact keeps_bind _ _ _ ((keeps_composes _).require _ _) fun _ => keeps_pure _ _
  | nonFungible =>
      refine keeps_bind _ _ _ ((keeps_composes _).require _ _) fun _ => ?_
      exact keeps_bind _ _ _ (mint_nfts_keeps_register _ _ _ _) fun _ => keeps_pure _ _

theorem retire_items_keeps_register (token : Token) (holder : AccountId) (amount : Int64) (serials : List Int64)
    (invalid : Status) : (retireItems token holder amount serials invalid).Keeps View.register :=
  (keeps_composes _).retire_items _ _ _ _ _ fun _ _ => keeps_checked _ _ _ _ fun _ => rfl

theorem move_treasury_keeps_register (token : Token) (successor : AccountId) :
    (moveTreasury token successor).Keeps View.register := by
  unfold moveTreasury
  split
  · exact keeps_pure _ _
  · refine keeps_bind _ _ _ ((keeps_composes _).discarded _ (keeps_read _ _)) fun _ => ?_
    refine keeps_bind _ _ _ (keeps_read _ _) fun incoming => ?_
    unfold moveSupply
    cases token.type with
    | nonFungible => exact keeps_pure _ _
    | fungible =>
        refine keeps_bind _ _ _ (keeps_read _ _) fun outgoing => ?_
        refine keeps_bind _ _ _ ((keeps_composes _).adjusted _ _ _) fun balance => ?_
        exact keeps_bind _ _ _ (keeps_change _ _ fun _ => rfl) fun _ => keeps_change _ _ fun _ => rfl

theorem transfer_keeps_register (hbar : List Adjustment) (tokens : List TokenMoves) (spender : AccountId) :
    (transfer hbar tokens spender).Keeps View.register :=
  Carries.transfer register_carried hbar tokens spender fun _ _ _ _ _ _ => keeps_read _ _

theorem approve_keeps_register (hbar : List HbarGrant) (units : List UnitGrant) (nfts : List NftGrant) :
    (approve hbar units nfts).Keeps View.register :=
  Carries.approve register_carried hbar units nfts fun _ _ _ _ _ _ => keeps_read _ _

theorem revoke_keeps_register (payer : AccountId) (revocations : List NftRevocation) :
    (revoke payer revocations).Keeps View.register := by
  refine Carries.revoke register_carried payer revocations fun revocation _ row _ serial => ?_
  refine keeps_bind _ _ _ (keeps_read _ _) fun nft => ?_
  exact keeps_bind _ _ _ ((keeps_composes _).require _ _) fun _ => keeps_change _ _ fun _ => rfl

end Quiet

end Work

-- The row that a body writes. It need not stand under the number that it carries, nor does the
-- one that it is made from.
inductive Body.Rewrites (before : View) : Body → Token → Prop
  | mint (order : Mint) (token : Token) (supply last : Int64)
      (found : before.token order.token = some token)
      (floor : 0 ≤ supply.toInt) :
      Rewrites before (.mint order) { token with totalSupply := supply, lastUsedSerial := last }
  | burn (order : Burn) (token : Token) (supply : Int64)
      (found : before.token order.token = some token)
      (floor : 0 ≤ supply.toInt) :
      Rewrites before (.burn order) { token with totalSupply := supply }
  | wipe (order : Wipe) (token : Token) (supply : Int64)
      (found : before.token order.token = some token)
      (floor : 0 ≤ supply.toInt) :
      Rewrites before (.wipe order) { token with totalSupply := supply }
  | pause (id : TokenId) (token : Token)
      (found : before.token id = some token) :
      Rewrites before (.pause id) { token with paused := true }
  | unpause (id : TokenId) (token : Token)
      (found : before.token id = some token) :
      Rewrites before (.unpause id) { token with paused := false }
  | create (order : Creation) (id : TokenId) (now : Timestamp) :
      Rewrites before (.create order) (Work.created order id now)
  | update (order : Update) (token : Token)
      (found : before.token order.token = some token) :
      Rewrites before (.update order) (Work.revised order token)

structure View.Rewritten (before : View) (row : Token) (after : View) : Prop where
  base : after.ledger = before.ledger
  rows : ∀ id, after.token id = if id = row.id then some row else before.token id

theorem View.rewritten_of_register (before middle : View) (row : Token) (same : middle.register = before.register) :
    before.Rewritten row (middle.putToken row) := by
  obtain ⟨base, rows⟩ := Prod.mk.inj same
  refine ⟨base, fun id => ?_⟩
  rw [token_put_token, rows]

namespace Work

section Rewriting

variable (before after : View) (now : Timestamp) (outcome : Execution)

theorem mint_rewrites (order : Mint) (run : (mint order now).Yields before outcome after) :
    ∃ row, (Body.mint order).Rewrites before row ∧ before.Rewritten row after := by
  obtain ⟨token, held, minted, serials, last, supply, balance, middle, usable, _, items, supplied, _, _, _, rfl⟩ :=
    mint_yields now before after order outcome run
  have same := mint_items_keeps_register token order now _ _ _ items
  exact ⟨_, .mint order token supply last ((View.usable_token_ok _ _ _).mp usable).1 supplied.floor,
    View.rewritten_of_register _ _ _ same⟩

theorem retire_rewrites (token : Token) (holder : AccountId) (held : Relationship) (amount : Int64)
    (serials : List Int64) (invalid insufficient : Status)
    (run : (retire token holder held amount serials invalid insufficient).Yields before outcome after) :
    ∃ supply : Int64, 0 ≤ supply.toInt ∧ before.Rewritten { token with totalSupply := supply } after := by
  obtain ⟨removed, middle, supply, balance, items, supplied, _, _, rfl⟩ := retire_yields _ _ _ _ _ _ _ _ _ _ run
  have same := retire_items_keeps_register _ _ _ _ _ _ _ _ items
  exact ⟨supply, supplied.floor, View.rewritten_of_register _ _ _ same⟩

theorem burn_rewrites (order : Burn) (run : (burn order).Yields before outcome after) :
    ∃ row, (Body.burn order).Rewrites before row ∧ before.Rewritten row after := by
  obtain ⟨token, held, usable, _, rest⟩ := burn_yields before after order outcome run
  obtain ⟨supply, floor, written⟩ := retire_rewrites _ _ _ _ _ _ _ _ _ _ rest
  exact ⟨_, .burn order token supply ((View.usable_token_ok _ _ _).mp usable).1 floor, written⟩

theorem wipe_rewrites (order : Wipe) (run : (wipe order).Yields before outcome after) :
    ∃ row, (Body.wipe order).Rewrites before row ∧ before.Rewritten row after := by
  obtain ⟨token, _, held, usable, _, _, _, rest⟩ := wipe_yields before after order outcome run
  obtain ⟨supply, floor, written⟩ := retire_rewrites _ _ _ _ _ _ _ _ _ _ rest
  exact ⟨_, .wipe order token supply ((View.usable_token_ok _ _ _).mp usable).1 floor, written⟩

theorem set_paused_rewrites (paused : Bool) (id : TokenId) (run : (setPaused paused id).Yields before () after) :
    ∃ token, before.token id = some token ∧ before.Rewritten { token with paused := paused } after := by
  simp only [setPaused, yields_bind, yields_read, yields_change] at run
  obtain ⟨token, _, ⟨existing, rfl⟩, rfl⟩ := run
  exact ⟨token, ((View.existing_token_ok _ _ _).mp existing).1, View.rewritten_of_register _ _ _ rfl⟩

theorem create_rewrites (order : Creation) (run : (create order now).Yields before outcome after) :
    ∃ row, (Body.create order).Rewrites before row ∧ before.Rewritten row after := by
  obtain ⟨treasury, number, reserved, _, _, _, _, rfl⟩ := create_yields now before after order outcome run
  refine ⟨_, .create order ⟨treasury.id.shard, treasury.id.realm, number⟩ now, rfl, fun id => ?_⟩
  rw [founded, View.token_put_relationship, View.token_put_token, View.token_reserving]

theorem update_rewrites (order : Update) (run : (update order).Yields before () after) :
    ∃ row, (Body.update order).Rewrites before row ∧ before.Rewritten row after := by
  simp only [update, yields_bind, yields_read, yields_change] at run
  obtain ⟨token, _, ⟨usable, rfl⟩, _, middle, moved, _, _, renewer, rfl⟩ := run
  cases check_renewer_ok _ _ _ renewer
  refine ⟨_, .update order token ((View.usable_token_ok _ _ _).mp usable).1, ?_⟩
  exact View.rewritten_of_register _ _ _ (move_treasury_keeps_register _ _ _ _ _ moved)

/-- Whatever rows it finds, a body leaves the register alone or writes one row of it. -/
theorem execute_token_rows (body : Body) (sender : AccountId)
    (run : (execute body sender now).Yields before outcome after) :
    after.register = before.register ∨ ∃ row, body.Rewrites before row ∧ before.Rewritten row after := by
  cases body with
  | associate association =>
      exact .inl (associate_keeps_register association _ _ _ (yields_completed _ _ _ _ run).1)
  | dissociate association =>
      exact .inl (dissociate_keeps_register association _ _ _ (yields_completed _ _ _ _ run).1)
  | mint order => exact .inr (mint_rewrites before after now outcome order run)
  | burn order => exact .inr (burn_rewrites before after outcome order run)
  | wipe order => exact .inr (wipe_rewrites before after outcome order run)
  | pause id =>
      obtain ⟨token, found, written⟩ := set_paused_rewrites _ _ _ _ (yields_completed _ _ _ _ run).1
      exact .inr ⟨_, .pause id token found, written⟩
  | unpause id =>
      obtain ⟨token, found, written⟩ := set_paused_rewrites _ _ _ _ (yields_completed _ _ _ _ run).1
      exact .inr ⟨_, .unpause id token found, written⟩
  | create order => exact .inr (create_rewrites before after now outcome order run)
  | update order => exact .inr (update_rewrites before after order (yields_completed _ _ _ _ run).1)
  | transfer hbar tokens =>
      exact .inl (transfer_keeps_register hbar tokens sender _ _ _ (yields_completed _ _ _ _ run).1)
  | approve hbar units nfts =>
      exact .inl (approve_keeps_register hbar units nfts _ _ _ (yields_completed _ _ _ _ run).1)
  | revoke revocations =>
      exact .inl (revoke_keeps_register sender revocations _ _ _ (yields_completed _ _ _ _ run).1)
  | queryToken | queryNft => exact absurd run (yields_throw _ _ _ _)

end Rewriting

end Work

end TokenService
