import TokenService.Proofs.Activation
import TokenService.Proofs.Ledger.Definitions
import TokenService.Proofs.Settlement.Sanction

set_option autoImplicit false

namespace TokenService

namespace Key

mutual

def withoutContracts : Key → Key
  | .ed25519 bytes => .ed25519 bytes
  | .secp256k1 bytes => .secp256k1 bytes
  | .contract _ => .list []
  | .delegatable id => .delegatable id
  | .list keys => .list (allWithoutContracts keys)
  | .threshold needed keys => .threshold needed (allWithoutContracts keys)

def allWithoutContracts : List Key → List Key
  | [] => []
  | key :: rest => withoutContracts key :: allWithoutContracts rest

end

mutual

theorem without_contracts_eq (key : Key) : key.withoutContracts = key.replaceContracts fun _ => .list [] := by
  cases key with
  | list keys => rw [withoutContracts, replaceContracts, all_without_contracts_eq keys]
  | threshold needed keys => rw [withoutContracts, replaceContracts, all_without_contracts_eq keys]
  | _ => rfl

theorem all_without_contracts_eq (keys : List Key) :
    allWithoutContracts keys = replaceAllContracts (fun _ => .list []) keys := by
  cases keys with
  | nil => rfl
  | cons key rest =>
      rw [allWithoutContracts, replaceAllContracts, without_contracts_eq key, all_without_contracts_eq rest]

end

end Key

namespace Authority

theorem delegated_active (authority : Authority) (delegated : authority.delegated = true) (key : Key) :
    authority.isActive key.withoutContracts = authority.isActive key := by
  rw [Key.without_contracts_eq]
  exact authority.replaced_active delegated _ (fun _ => rfl) key

-- How a body may change the row of a token: the key of its slot is active, and the fields that do
-- not belong to the change stay.
inductive Amends (authority : Authority) : Body → TokenId → Token → Token → Prop
  | mint (order : Mint) (token : Token) (supply last : Int64)
      (signed : authority.Holds token .supply) :
      Amends authority (.mint order) order.token token { token with totalSupply := supply, lastUsedSerial := last }
  | burn (order : Burn) (token : Token) (supply : Int64)
      (signed : authority.Holds token .supply) :
      Amends authority (.burn order) order.token token { token with totalSupply := supply }
  | wipe (order : Wipe) (token : Token) (supply : Int64)
      (signed : authority.Holds token .wipe) :
      Amends authority (.wipe order) order.token token { token with totalSupply := supply }
  | pause (id : TokenId) (token : Token)
      (signed : authority.Holds token .pause) :
      Amends authority (.pause id) id token { token with paused := true }
  | unpause (id : TokenId) (token : Token)
      (signed : authority.Holds token .pause) :
      Amends authority (.unpause id) id token { token with paused := false }
  | update (order : Update) (token : Token) (name symbol memo : String) (treasury : AccountId) (keys : TokenKeys)
      (expiry : Expiry)
      (signed : authority.Holds token .admin) :
      Amends authority (.update order) order.token token
        { token with
          name := name, symbol := symbol, memo := memo, treasury := treasury, keys := keys, expiry := expiry }

structure GovernsTokens (authority : Authority) (body : Body) (before after : Ledger) : Prop where
  amended : ∀ id token, before.tokens.get? id = some token → after.tokens.get? id ≠ some token →
    ∃ heir, after.tokens.get? id = some heir ∧ authority.Amends body id token heir
  created : ∀ id token, before.tokens.get? id = none → after.tokens.get? id = some token →
    (∃ order, body = .create order) ∧ authority.Consents before token.treasury ∧
      ∀ key, token.keys.admin = some key → authority.isActive key = true
  alone : ∀ id other, after.tokens.get? id ≠ before.tokens.get? id →
    after.tokens.get? other ≠ before.tokens.get? other → id = other

section Governance

variable (authority : Authority) (sender : AccountId) (ledger : Ledger) (body : Body)
  (permitted : authority.check (some { ledger := ledger }) body sender = .ok ())

include permitted

theorem explicit_active (key : Key) (needed : Requirement.explicit key ∈ body.requirements sender) :
    authority.isActive key = true := by
  have checked := authority.check_covers _ _ _ _ permitted needed
  rw [checkOne] at checked
  split at checked
  · assumption
  · cases checked

theorem row_amended (row token : Token) (defines : body.Defines { ledger := ledger } row)
    (found : ledger.tokens.get? row.id = some token) (numbered : ledger.Numbered ledger.nextEntity.toNat) :
    authority.Amends body row.id token row := by
  have signed (kind : KeyKind) (slot : KeySlot) (id : TokenId) (other : Token) (named : kind.slot? = some slot)
      (existing : (View.mk ledger {}).Exists id other)
      (needed : Requirement.ofToken kind id ∈ body.requirements sender) : authority.Holds other slot :=
    key_found authority sender ledger kind slot body id other permitted needed named existing.found
  have own (id : TokenId) (other : Token) (existing : (View.mk ledger {}).Exists id other) (about : row.id = other.id)
      (amends : authority.Amends body id other row) : authority.Amends body row.id token row := by
    rw [about, existing.own] at found ⊢
    cases found.symm.trans existing.found
    exact amends
  cases defines with
  | mint order other supply last existing =>
      have key := signed .supply .supply _ _ rfl existing List.mem_cons_self
      exact own _ _ existing rfl (.mint order other supply last key)
  | burn order other supply existing =>
      have key := signed .supply .supply _ _ rfl existing List.mem_cons_self
      exact own _ _ existing rfl (.burn order other supply key)
  | wipe order other supply existing =>
      have key := signed .wipe .wipe _ _ rfl existing List.mem_cons_self
      exact own _ _ existing rfl (.wipe order other supply key)
  | pause id other existing =>
      have key := signed .pause .pause _ _ rfl existing List.mem_cons_self
      exact own _ _ existing rfl (.pause id other key)
  | unpause id other existing =>
      have key := signed .pause .pause _ _ rfl existing List.mem_cons_self
      exact own _ _ existing rfl (.unpause id other key)
  | update order other existing =>
      have key := signed .admin .admin _ _ rfl existing List.mem_cons_self
      exact own _ _ existing rfl (.update order other _ _ _ _ _ _ key)
  -- No token has the number that a new one takes.
  | create order number now fresh =>
      have below := numbered.tokens _ token found
      exact absurd fresh (Nat.ne_of_lt below)

theorem row_created (row : Token) (defines : body.Defines { ledger := ledger } row)
    (absent : ledger.tokens.get? row.id = none) :
    (∃ order, body = .create order) ∧ authority.Consents ledger row.treasury ∧
      ∀ key, row.keys.admin = some key → authority.isActive key = true := by
  have present (id : TokenId) (other : Token) (existing : (View.mk ledger {}).Exists id other)
      (about : row.id = other.id) : False := by
    rw [about, existing.own] at absent
    cases absent.symm.trans existing.found
  cases defines with
  | create order number now fresh =>
      refine ⟨⟨order, rfl⟩, ?_, fun key stored => ?_⟩
      · exact authority.account_consents ledger _ (authority.check_covers _ _ _ _ permitted List.mem_cons_self)
      · refine authority.explicit_active sender ledger _ permitted key (List.mem_cons_of_mem _ ?_)
        rw [show order.keys.admin = some key from stored]
        exact List.mem_cons_self
  | mint order other supply last existing => exact (present _ _ existing rfl).elim
  | burn order other supply existing => exact (present _ _ existing rfl).elim
  | wipe order other supply existing => exact (present _ _ existing rfl).elim
  | pause id other existing => exact (present _ _ existing rfl).elim
  | unpause id other existing => exact (present _ _ existing rfl).elim
  | update order other existing => exact (present _ _ existing rfl).elim

theorem tokens_governed (now : Timestamp) (after : View) (numbered : ledger.Numbered ledger.nextEntity.toNat)
    (done : Deeds sender now body.deeds { ledger := ledger } after) :
    authority.GovernsTokens body ledger after.merged := by
  rcases body_token_rows sender now _ _ body done with kept | ⟨row, defines, rows⟩
  · have same (id : TokenId) : after.merged.tokens.get? id = ledger.tokens.get? id :=
      (View.merged_token _ _).trans (kept id)
    refine ⟨fun id token found changed => ?_, fun id token absent found => ?_, fun id other changed => ?_⟩
    · exact absurd ((same id).trans found) changed
    · cases absent.symm.trans ((same id).symm.trans found)
    · exact absurd (same id) changed
  · have here : after.merged.tokens.get? row.id = some row := by
      rw [View.merged_token, rows, if_pos rfl]
    -- Only the row that is written can differ.
    have written (id : TokenId) (changed : after.merged.tokens.get? id ≠ ledger.tokens.get? id) : id = row.id := by
      refine Decidable.byContradiction fun apart => changed ?_
      rw [View.merged_token, rows, if_neg apart]
      rfl
    refine ⟨fun id token found changed => ?_, fun id token absent found => ?_, fun id other first second => ?_⟩
    · have same := written id (found ▸ changed)
      subst same
      exact ⟨row, here, row_amended authority sender ledger body permitted row token defines found numbered⟩
    · have same := written id (by rw [absent, found]; exact Option.some_ne_none _)
      subst same
      cases here.symm.trans found
      exact row_created authority sender ledger body permitted _ defines absent
    · exact (written id first).trans (written other second).symm

end Governance

end Authority

/-- In a successful call the row of a token changes only under the right key: a row that was there is amended by the
transaction under the key of its slot, a new row is a creation that its treasury and its own admin key agree to, and
one row changes at most. In a delegate call no key owes its activity to a plain contract in it. -/
theorem token_rows_change_under_their_keys (config : Config) (market : Market) (prices : PriceTable) (host : Host)
    (frame : Frame) (input : Bytes) (ledger : Ledger) (lent : host.ledger = some ledger) (rooted : ledger.Rooted)
    (numbered : ledger.Numbered ledger.nextEntity.toNat) (settled : Settled)
    (computed : settled = (Service.native config market prices).compute host frame input)
    (success : settled.succeeds) :
    ∃ record transaction, settled.record = some (record, transaction) ∧
      (Service.authority host frame).GovernsTokens transaction.body ledger (settled.ledgerAfter ledger) ∧
      (frame.isDelegate = true → ∀ key, (Service.authority host frame).isActive key.withoutContracts =
        (Service.authority host frame).isActive key) := by
  obtain ⟨body, view, carries⟩ :=
    success_carries config market prices host frame input ledger settled lent rooted computed success
  obtain ⟨record, transaction, recorded, rfl⟩ := carries.recorded
  refine ⟨record, transaction, recorded, ?_, fun delegate key => Authority.delegated_active _ delegate key⟩
  rw [carries.after]
  exact Authority.tokens_governed _ _ ledger _ carries.permitted _ view numbered carries.done

namespace Sample

def coining : Bytes :=
  (ServiceFunction.mintToken .signed).selector.toBytes ++
    Abi.encode (ServiceFunction.mintToken .signed).params (coin.toAddress, (5 : Int64), ([] : List Bytes), ())

end Sample

theorem coining_under_supply_key :
    ((Sample.settled Sample.coining).ledgerAfter Sample.ledger).tokens.get? Sample.coin ≠
        Sample.ledger.tokens.get? Sample.coin ∧
      ∃ token, Sample.ledger.tokens.get? Sample.coin = some token ∧
        (Service.authority (Sample.host Sample.ledger) Sample.frame).Holds token .supply := by
  have minted : (Sample.settled Sample.coining).succeeds := by decide +kernel
  have body : (Sample.settled Sample.coining).record.map (fun entry => entry.2.body) =
      some (.mint ⟨Sample.coin, 5, []⟩) := by
    decide +kernel
  have changed : ((Sample.settled Sample.coining).ledgerAfter Sample.ledger).tokens.get? Sample.coin ≠
      Sample.ledger.tokens.get? Sample.coin := by
    decide +kernel
  refine ⟨changed, ?_⟩
  obtain ⟨record, transaction, recorded, governs, _⟩ := token_rows_change_under_their_keys {} Sample.market .empty
    (Sample.host Sample.ledger) Sample.frame Sample.coining Sample.ledger rfl Sample.ledger_rooted
    Sample.ledger_numbered (Sample.settled Sample.coining) rfl minted
  rw [recorded] at body
  cases found : Sample.ledger.tokens.get? Sample.coin with
  | none => exact absurd found (by decide)
  | some token =>
      obtain ⟨heir, _, amends⟩ := governs.amended Sample.coin token found (found ▸ changed)
      rw [show transaction.body = .mint ⟨Sample.coin, 5, []⟩ from Option.some.inj body] at amends
      cases amends with
      | mint _ _ supply last signed => exact ⟨token, rfl, signed⟩

end TokenService
