import TokenService.Proofs.Settlement.Freezes
import TokenService.Proofs.Settlement.Register

set_option autoImplicit false

namespace TokenService

namespace Work

section Joining

variable (account : AccountId) (before after : View)

theorem associate_one_joins (id : TokenId) (run : (associateOne account id).Yields before () after) :
    ∃ row joined, before.token id = some row ∧ before.relationship account id = none ∧
      joined.kycGranted = row.keys.kyc.isNone ∧ after = before.putRelationship account id joined := by
  simp only [associateOne, yields_bind, yields_read, yields_get, yields_require, yields_change] at run
  obtain ⟨row, _, ⟨existing, rfl⟩, _, _, ⟨rfl, rfl⟩, _, _, ⟨absent, rfl⟩, rfl⟩ := run
  exact ⟨row, _, ((View.existing_token_ok _ _ _).mp existing).1, Option.isNone_iff_eq_none.mp absent, rfl, rfl⟩

theorem associate_rest_stays (tokens : List TokenId) (id : TokenId) (held : Relationship)
    (run : (tokens.forM (associateOne account)).Yields before () after)
    (found : before.relationship account id = some held) : after.relationship account id = some held := by
  induction tokens generalizing before with
  | nil =>
      rw [(yields_for_nil _ _ _ _).mp run]
      exact found
  | cons first rest ih =>
      obtain ⟨middle, head, tail⟩ := (yields_for_cons _ _ _ _ _ _).mp run
      obtain ⟨row, joined, _, absent, _, rfl⟩ := associate_one_joins account before middle first head
      refine ih _ tail ?_
      have apart : id ≠ first := by
        rintro rfl
        cases found.symm.trans absent
      rw [View.relationship_put_relationship, if_neg fun same => apart same.2]
      exact found

theorem associate_all_join (tokens : List TokenId) (id : TokenId) (member : id ∈ tokens)
    (run : (tokens.forM (associateOne account)).Yields before () after) :
    ∃ row joined, before.token id = some row ∧ before.relationship account id = none ∧
      after.relationship account id = some joined ∧ joined.kycGranted = row.keys.kyc.isNone := by
  induction tokens generalizing before with
  | nil => cases member
  | cons first rest ih =>
      obtain ⟨middle, head, tail⟩ := (yields_for_cons _ _ _ _ _ _).mp run
      obtain ⟨row, joined, present, absent, granted, rfl⟩ := associate_one_joins account before middle first head
      by_cases same : id = first
      · subst same
        refine ⟨row, joined, present, absent, associate_rest_stays account _ _ rest id joined tail ?_, granted⟩
        rw [View.relationship_put_relationship, if_pos ⟨rfl, rfl⟩]
      · obtain ⟨other, made, found, free, stands, given⟩ := ih _ ((List.mem_cons.mp member).resolve_left same) tail
        rw [View.relationship_put_relationship, if_neg fun both => same both.2] at free
        exact ⟨other, made, found, free, stands, given⟩

theorem associate_joins (association : Association) (id : TokenId) (member : id ∈ association.tokens)
    (run : (associate association).Yields before () after) :
    after.ledger = before.ledger ∧ ∃ row joined, before.token id = some row ∧
      before.relationship association.account id = none ∧
      after.relationship association.account id = some joined ∧ joined.kycGranted = row.keys.kyc.isNone := by
  have same := associate_keeps_register association _ _ _ run
  simp only [associate, yields_bind, yields_discard, yields_read] at run
  obtain ⟨_, _, ⟨_, _, rfl⟩, run⟩ := run
  exact ⟨(Prod.mk.inj same).1, associate_all_join association.account _ after association.tokens id member run⟩

end Joining

end Work

namespace Token

def Candid (row : Token) : Prop := row.kycGrantedByDefault = row.keys.kyc.isNone

-- A token that withholds KYC has a key to grant it with.
def Lenient (row : Token) : Prop := row.keys.kyc = none → row.kycGrantedByDefault = true

theorem lenient_of_candid (row : Token) (candid : row.Candid) : row.Lenient := by
  intro bare
  rw [Candid, bare] at candid
  exact candid

theorem kyc_revised (order : Update) (row : Token) :
    (Work.revised order row).keys.kyc = order.keys.kyc.or row.keys.kyc := rfl

end Token

-- An update that gives its first KYC key to a row of this number.
def Call.Locks (call : Call) (ledger : Ledger) (number : TokenId) : Prop :=
  ∃ order row, call.Performs ledger (.update order) ∧ ledger.tokens.get? order.token = some row ∧ row.id = number ∧
    row.keys.kyc = none ∧ order.keys.kyc.isSome

section Rows

theorem lenient_kept (calls : List Call) (start : Ledger) (lenient : start.AllRows Token.Lenient) :
    (afterAll calls start).AllRows Token.Lenient := by
  refine after_all_keeps (fun ledger => ledger.AllRows Token.Lenient) calls start
    (fun moment _ fine => after_rows _ moment.1 moment.2 fine fun body row _ _ written => ?_) lenient
  cases written with
  | mint order token supply last found floor => exact fine _ token found
  | burn order token supply found floor => exact fine _ token found
  | wipe order token supply found floor => exact fine _ token found
  | pause id token found => exact fine _ token found
  | unpause id token found => exact fine _ token found
  | create order id now =>
      intro bare
      exact Option.isNone_iff_eq_none.mpr bare
  | update order token found =>
      intro bare
      rw [Token.kyc_revised, Option.or_eq_none_iff] at bare
      exact fine _ token found bare.2

theorem candid_kept (number : TokenId) (call : Call) (ledger : Ledger) (open_ : ¬ call.Locks ledger number)
    (candid : ledger.AllRows fun row => row.id = number → row.Candid) :
    (call.after ledger).AllRows fun row => row.id = number → row.Candid := by
  refine after_rows _ call ledger candid fun body row performs _ written => ?_
  cases written with
  | mint order token supply last found floor => exact candid _ token found
  | burn order token supply found floor => exact candid _ token found
  | wipe order token supply found floor => exact candid _ token found
  | pause id token found => exact candid _ token found
  | unpause id token found => exact candid _ token found
  | create order id now => exact fun _ => rfl
  | update order token found =>
      intro same
      have before : token.kycGrantedByDefault = token.keys.kyc.isNone := candid _ token found same
      change token.kycGrantedByDefault = (order.keys.kyc.or token.keys.kyc).isNone
      rw [before]
      -- Only a token without a key could lose what it advertises, and it is not given one here.
      cases held : token.keys.kyc with
      | some key => cases order.keys.kyc <;> rfl
      | none =>
          cases given : order.keys.kyc with
          | none => rfl
          | some key =>
              exact absurd ⟨order, token, performs, found, same, held, by rw [given]; rfl⟩ open_

end Rows

theorem Call.associates_joins (call : Call) (ledger : Ledger) (account : AccountId) (id : TokenId)
    (associates : call.Associates ledger account id) :
    ∃ row joined, ledger.tokens.get? id = some row ∧ ledger.relationships.get? ⟨account, id⟩ = none ∧
      (call.after ledger).relationships.get? ⟨account, id⟩ = some joined ∧
      joined.kycGranted = row.keys.kyc.isNone := by
  obtain ⟨tokens, performs, member⟩ := associates
  rcases call.performed _ _ performs with ⟨idle, _⟩ | ⟨outcome, view, executes⟩
  · cases tokens with
    | nil => cases member
    | cons first rest => cases idle
  · obtain ⟨base, row, joined, found, absent, stands, granted⟩ :=
      Work.associate_joins _ _ ⟨account, tokens⟩ id member (Work.yields_completed _ _ _ _ executes.run).1
    have base : view.ledger = ledger := base
    refine ⟨row, joined, found, absent, ?_, granted⟩
    rw [executes.after, ← base]
    exact (View.merged_relationship view account id).trans stands

namespace Struct

def defaultKycOf : tokenInfo.Val → Bool
  | (_, _, _, granted, _) => granted

end Struct

/-- On any store where every token advertises what its keys say, and after any run of calls: whoever joins a token
successfully has KYC exactly when the token has no KYC key. That is what the token advertises, and tells about itself,
unless an update in the run has given it its first KYC key; where the two differ, the token advertises KYC and the
newcomer has none. -/
theorem newcomers_join_as_advertised (calls : List Call) (start : Ledger) (candid : start.AllRows Token.Candid)
    (call : Call) (account : AccountId) (id : TokenId)
    (associates : call.Associates (afterAll calls start) account id) :
    ∃ row joined, (afterAll calls start).tokens.get? id = some row ∧
      (afterAll calls start).relationships.get? ⟨account, id⟩ = none ∧
      (call.after (afterAll calls start)).relationships.get? ⟨account, id⟩ = some joined ∧
      joined.kycGranted = row.keys.kyc.isNone ∧
      ((∀ moment ∈ calls.zip (history calls start), ¬ moment.1.Locks moment.2 row.id) →
        joined.kycGranted = row.kycGrantedByDefault) ∧
      (joined.kycGranted ≠ row.kycGrantedByDefault ↔ row.kycGrantedByDefault = true ∧ row.keys.kyc.isSome) ∧
      ∀ (reading : Call) (output : Bytes), reading.Learns (afterAll calls start) .direct (.info id) output →
        ∃ info, Abi.decode [.int32, Struct.tokenInfo] output = .ok (Status.success.number, info, ()) ∧
          Struct.defaultKycOf info = row.kycGrantedByDefault := by
  obtain ⟨row, joined, found, absent, stands, granted⟩ := call.associates_joins _ account id associates
  refine ⟨row, joined, found, absent, stands, granted, fun quiet => ?_, ?_, fun reading output learns => ?_⟩
  · have kept := after_all_keeps (fun ledger => ledger.AllRows fun other => other.id = row.id → other.Candid) calls
      start (fun moment along fine => candid_kept row.id moment.1 moment.2 (quiet moment along) fine)
      fun number other there _ => candid number other there
    exact granted.trans (kept id row found rfl).symm
  · have lenient := lenient_kept calls start
      (fun number other there => other.lenient_of_candid (candid number other there)) id row found
    rw [granted]
    cases held : row.keys.kyc with
    | none => simp [lenient held]
    | some key => cases row.kycGrantedByDefault <;> simp
  · obtain ⟨answer, answered, rfl⟩ := learns_answer reading _ _ _ output learns
    obtain ⟨other, known, same⟩ := (except_bind_ok _ _ _).mp answered
    cases same
    cases found.symm.trans ((View.demand_ok _ _ _).mp known)
    exact ⟨_, Abi.decode_written _ rfl _ learns.room, rfl⟩

namespace Sample

def welcoming : Ledger :=
  { ledger with
    tokens := .ofList
      [(coin, { id := coin, treasury := holder, totalSupply := 70, kycGrantedByDefault := true,
                keys := { admin := some key } })]
    relationships := .ofList [(⟨holder, coin⟩, { balance := 70, kycGranted := true })]
    nfts := .ofList [] }

theorem welcoming_candid : welcoming.AllRows Token.Candid :=
  every_row welcoming.tokens (fun _ row => row.kycGrantedByDefault = row.keys.kyc.isNone) (by decide)

def locking : Call :=
  call (ServiceFunction.updateTokenKeys.selector.toBytes ++
    Abi.encode ServiceFunction.updateTokenKeys.params
      (coin.toAddress,
        [(2#256, (false, (0 : Address), List.replicate 32 (7 : UInt8), ([] : Bytes), (0 : Address), ()), ())], ()))

theorem joining_associates (ledger : Ledger) (success : (joining.settled ledger).succeeds)
    (recorded : joining.recorded ledger = some (.associate ⟨friend, [coin]⟩)) : joining.Associates ledger friend coin :=
  ⟨[coin], ⟨success, recorded⟩, List.mem_singleton_self coin⟩

end Sample

theorem friend_joins_with_kyc :
    ∃ row joined, Sample.welcoming.tokens.get? Sample.coin = some row ∧
      (Sample.joining.after Sample.welcoming).relationships.get? ⟨Sample.friend, Sample.coin⟩ = some joined ∧
      joined.kycGranted = row.kycGrantedByDefault := by
  obtain ⟨unpaid, joins, recorded⟩ : ¬ ((Sample.call (Sample.payment 25)).settled Sample.welcoming).succeeds ∧
      (Sample.joining.settled Sample.welcoming).succeeds ∧
      Sample.joining.recorded Sample.welcoming = some (.associate ⟨Sample.friend, [Sample.coin]⟩) := by
    decide +kernel
  have same : afterAll [Sample.call (Sample.payment 25)] Sample.welcoming = Sample.welcoming := by
    rw [afterAll, afterAll, Call.failure_after _ _ unpaid]
  have associates : Sample.joining.Associates (afterAll [Sample.call (Sample.payment 25)] Sample.welcoming)
      Sample.friend Sample.coin := by
    rw [same]
    exact Sample.joining_associates Sample.welcoming joins recorded
  have joined := newcomers_join_as_advertised [Sample.call (Sample.payment 25)] Sample.welcoming Sample.welcoming_candid
    Sample.joining Sample.friend Sample.coin associates
  rw [same] at joined
  obtain ⟨row, joined, found, _, stands, _, advertised, _⟩ := joined
  refine ⟨row, joined, found, stands, advertised fun moment member => ?_⟩
  cases List.mem_singleton.mp member
  rintro ⟨_, _, performs, _⟩
  exact unpaid performs.succeeds

theorem locked_coin_misleads :
    ¬ ∀ (calls : List Call) (start : Ledger) (call : Call) (account : AccountId) (id : TokenId) (row : Token)
      (joined : Relationship), start.AllRows Token.Candid → call.Associates (afterAll calls start) account id →
      (afterAll calls start).tokens.get? id = some row →
      (call.after (afterAll calls start)).relationships.get? ⟨account, id⟩ = some joined →
      joined.kycGranted = row.kycGrantedByDefault := by
  intro always
  obtain ⟨joins, recorded, advertised, given⟩ :
      (Sample.joining.settled (afterAll [Sample.locking] Sample.welcoming)).succeeds ∧
        Sample.joining.recorded (afterAll [Sample.locking] Sample.welcoming) =
          some (.associate ⟨Sample.friend, [Sample.coin]⟩) ∧
        ((afterAll [Sample.locking] Sample.welcoming).tokens.get? Sample.coin).map Token.kycGrantedByDefault =
          some true ∧
        ((Sample.joining.after (afterAll [Sample.locking] Sample.welcoming)).relationships.get?
          ⟨Sample.friend, Sample.coin⟩).map Relationship.kycGranted = some false := by
    decide +kernel
  obtain ⟨row, found, grants⟩ := Option.map_eq_some_iff.mp advertised
  obtain ⟨joined, stands, withheld⟩ := Option.map_eq_some_iff.mp given
  have same := always [Sample.locking] Sample.welcoming Sample.joining Sample.friend Sample.coin row joined
    Sample.welcoming_candid (Sample.joining_associates _ joins recorded) found stands
  rw [grants, withheld] at same
  cases same

end TokenService
