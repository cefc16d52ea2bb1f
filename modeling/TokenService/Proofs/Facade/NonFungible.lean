import TokenService.Proofs.Facade.Erc721
import TokenService.Proofs.Facade.Standard
import TokenService.Proofs.Ledger.Holdings

set_option autoImplicit false

namespace TokenService

def Ledger.nft? (ledger : Ledger) (id : TokenId) (number : Int) : Option Nft :=
  (int64? number).bind fun serial => ledger.nfts.get? ⟨id, serial⟩

def Ledger.erc721 (ledger : Ledger) (id : TokenId) : Erc721.State :=
  { token := id
    owner := fun number => (ledger.nft? id number).map Nft.owner
    spender := fun number => (ledger.nft? id number).bind Nft.spender
    operators := fun owner delegate => ledger.operates owner delegate.token delegate.account }

-- One membership among the operators of an account is set, and nothing else is changed.
structure Ledger.Enrolls (before after : Ledger) (owner : AccountId) (delegate : Delegate) (approved : Bool) :
    Prop where
  own : ∃ row operators, before.accounts.get? owner = some row ∧
    after.accounts.get? owner = some { row with operators := operators } ∧
    ∀ other, operators.contains other = if other = delegate then approved else row.operators.contains other
  others : ∀ account, account ≠ owner → after.accounts.get? account = before.accounts.get? account
  rest : ∃ accounts, after = { before with accounts := accounts }

section Writes

variable (view : View)

theorem nft_numbered (ledger : Ledger) (id : TokenId) (serial : Int64) :
    ledger.nft? id serial.toInt = ledger.nfts.get? ⟨id, serial⟩ := by
  rw [Ledger.nft?, (int64_some_iff serial.toInt serial).mpr rfl]
  rfl

theorem nft_put (id : TokenId) (serial : Int64) (row : Nft) (own : row.id = ⟨id, serial⟩) (number : Int) :
    (view.putNft row).merged.nft? id number =
      if number = serial.toInt then some row else view.merged.nft? id number := by
  by_cases same : number = serial.toInt
  · rw [if_pos same, same, nft_numbered, View.merged_nft, View.nft_put_nft, if_pos own.symm]
  · rw [if_neg same]
    unfold Ledger.nft?
    cases found : int64? number with
    | none => rfl
    | some other =>
        have apart : (⟨id, other⟩ : NftId) ≠ row.id := by
          intro equal
          rw [own] at equal
          cases equal
          exact same ((int64_some_iff _ _).mp found).symm
        simp only [Option.bind_some, View.merged_nft, View.nft_put_nft, if_neg apart]

theorem operates_put_account (id : AccountId) (account row : Account) (lives : view.Lives id account)
    (own : row.id = account.id) (owner : AccountId) (token : TokenId) (operator : AccountId) :
    (view.putAccount row).merged.operates owner token operator =
      if owner = id then row.operators.contains ⟨token, operator⟩ else view.merged.operates owner token operator := by
  unfold Ledger.operates
  rw [View.merged_account, View.merged_account]
  by_cases same : owner = id
  · rw [if_pos same, same, View.put_account_same _ _ account row lives own]
    rfl
  · rw [if_neg same, View.put_account_other _ _ account row lives own owner same]

theorem operators_listed (owner : AccountId) (row : Account) (lives : view.Lives owner row) (id : TokenId)
    (delegate : Delegate) : (view.merged.erc721 id).operators owner delegate = row.operators.contains delegate := by
  simp only [Ledger.erc721, Ledger.operates, View.merged_account, lives.found, Option.map_some, Option.getD_some]

theorem operators_contain (operators : Table Delegate Unit) (delegate other : Delegate) (approved : Bool) :
    (Work.operatorsAfter operators delegate (some approved)).contains other =
      if other = delegate then approved else operators.contains other := by
  unfold Table.contains
  cases approved with
  | true =>
      simp only [Work.operatorsAfter, Table.get_insert]
      by_cases same : other = delegate
      · rw [if_pos same, if_pos same]
        rfl
      · rw [if_neg same, if_neg same]
  | false =>
      simp only [Work.operatorsAfter, Table.get_erase]
      by_cases same : other = delegate
      · rw [if_pos same, if_pos same]
        rfl
      · rw [if_neg same, if_neg same]

end Writes

theorem enrolled_erc721 (before after : Ledger) (id : TokenId) (owner operator : AccountId) (approved : Bool)
    (enrolls : before.Enrolls after owner ⟨id, operator⟩ approved) :
    after.erc721 id = (before.erc721 id).operating owner operator approved := by
  obtain ⟨⟨row, operators, found, written, contains⟩, others, accounts, rfl⟩ := enrolls
  refine Erc721.State.ext rfl rfl rfl (funext fun account => funext fun delegate => ?_)
  simp only [Ledger.erc721, Erc721.State.operating, Ledger.operates]
  by_cases same : account = owner
  · rw [same, written, found]
    simp only [Option.map_some, Option.getD_some, contains, true_and]
  · rw [others account same]
    exact (if_neg fun both => same both.1).symm

section Deeds

variable {sender : AccountId} {now : Timestamp} {id : TokenId} {before after : View}

theorem row_erc721 (view : View) (serial : Int64) (row : Nft) (found : view.nft ⟨id, serial⟩ = some row) :
    (view.merged.erc721 id).owner serial.toInt = some row.owner ∧
      (view.merged.erc721 id).spender serial.toInt = row.spender := by
  simp only [Ledger.erc721, nft_numbered, View.merged_nft, found]
  exact ⟨rfl, rfl⟩

theorem put_lends (view : View) (serial : Int64) (row : Nft) (spender : Option AccountId)
    (found : view.nft ⟨id, serial⟩ = some row) (own : row.id = ⟨id, serial⟩) :
    (view.putNft { row with spender := spender }).merged.erc721 id =
      (view.merged.erc721 id).lent serial.toInt spender := by
  have written := nft_put view id serial { row with spender := spender } own
  refine Erc721.State.ext rfl (funext fun number => ?_) (funext fun number => ?_) rfl
  · simp only [Ledger.erc721, Erc721.State.lent, written]
    by_cases same : number = serial.toInt
    · rw [if_pos same, same, nft_numbered, View.merged_nft, found]
      rfl
    · rw [if_neg same]
  · simp only [Ledger.erc721, Erc721.State.lent, written]
    by_cases same : number = serial.toInt
    · rw [if_pos same, if_pos same]
      rfl
    · rw [if_neg same, if_neg same]

theorem moved_erc721 (move : NftMove) (does : (Deed.moveNft id move).Does sender now before after) :
    (before.merged.erc721 id).owner move.serial.toInt = some move.sender ∧
      (move.approval = true →
        (before.merged.erc721 id).spender move.serial.toInt = some sender ∨
          (before.merged.erc721 id).operator move.sender sender = true) ∧
      after.merged.erc721 id = (before.merged.erc721 id).handed move.serial.toInt move.receiver := by
  cases does with
  | moveNft token nft receiver source target left gained usable nonFungible found own owned approved =>
      obtain ⟨owner, spender⟩ := row_erc721 before move.serial nft found
      refine ⟨owner.trans (congrArg some owned), fun approval => ?_, ?_⟩
      · obtain ⟨account, lives, entitled⟩ := approved approval
        rw [spender]
        exact entitled.imp_right (operators_listed before _ account lives id _).trans
      · have written := nft_put ((before.putRelationship move.sender id { source with balance := left }).putRelationship
          move.receiver id { target with balance := gained }) id move.serial
          { nft with owner := move.receiver, spender := none } own
        refine Erc721.State.ext rfl (funext fun number => ?_) (funext fun number => ?_) rfl
        · simp only [Ledger.erc721, Erc721.State.handed, written]
          by_cases same : number = move.serial.toInt
          · rw [if_pos same, if_pos same]
            rfl
          · rw [if_neg same, if_neg same]
            rfl
        · simp only [Ledger.erc721, Erc721.State.handed, Erc721.State.lent, written]
          by_cases same : number = move.serial.toInt
          · rw [if_pos same, if_pos same]
            rfl
          · rw [if_neg same, if_neg same]
            rfl

theorem lent_erc721 (owner spender : AccountId) (serial : Int64)
    (does : (Deed.lendNft id owner spender serial).Does sender now before after) :
    (before.merged.erc721 id).owner serial.toInt = some owner ∧
      after.merged.erc721 id = (before.merged.erc721 id).lent serial.toInt (some spender) := by
  cases does with
  | lendNft nft found own owned =>
      exact ⟨(row_erc721 before serial nft found).1.trans (congrArg some owned),
        put_lends before serial nft _ found own⟩

-- A zero owner would stand for the treasury.
theorem cleared_erc721 (owner : AccountId) (serial : Int64) (sound : (before.merged.erc721 id).Sound)
    (does : (Deed.clearSpender id owner serial).Does sender now before after) :
    (before.merged.erc721 id).owner serial.toInt = some owner ∧
      (owner = sender ∨ (before.merged.erc721 id).operator owner sender = true) ∧
      after.merged.erc721 id = (before.merged.erc721 id).lent serial.toInt none := by
  cases does with
  | clearSpender token nft usable entitled found own owned =>
      have owner' := (row_erc721 before serial nft found).1
      have named : nft.owner.isZero = false := by
        refine beq_eq_false_iff_ne.mpr fun nobody => ?_
        exact sound.owned _ (owner'.trans (congrArg some nobody))
      rw [Nft.holder, named] at owned
      refine ⟨owner'.trans (congrArg some owned), ?_, put_lends before serial nft none found own⟩
      refine entitled.imp Eq.symm ?_
      rintro ⟨account, lives, contained⟩
      exact (operators_listed before _ account lives id _).trans contained

theorem operated_enrolls (grant : NftGrant) (approved : Bool) (set : grant.forAll = some approved)
    (does : (Deed.setOperator grant).Does sender now before after) :
    before.merged.Enrolls after.merged grant.owner ⟨grant.token, grant.spender⟩ approved := by
  cases does with
  | setOperator owner token held lives usable nonFungible found delegated =>
      refine ⟨⟨owner, _, (View.merged_account before _).trans lives.found,
        (View.merged_account _ _).trans (View.put_account_same _ _ owner _ lives rfl), fun other => ?_⟩,
        fun account apart => ?_, _, rfl⟩
      · rw [set, operators_contain]
      · rw [View.merged_account, View.merged_account]
        exact View.put_account_other _ _ owner
          { owner with operators := Work.operatorsAfter owner.operators ⟨grant.token, grant.spender⟩ grant.forAll }
          lives rfl account apart

-- A grant that sets no operator is given for one that is set already.
theorem delegated_erc721 (grant : NftGrant) (about : grant.token = id) (single : grant.forAll = none)
    (does : (Deed.setOperator grant).Does sender now before after) :
    (∀ delegating, grant.delegatingSpender = some delegating →
        (before.merged.erc721 id).operator grant.owner delegating = true) ∧
      after.merged.erc721 id = before.merged.erc721 id := by
  subst about
  cases does with
  | setOperator owner token held lives usable nonFungible found delegated =>
      have listed := operators_listed before grant.owner owner lives grant.token
      have written := operates_put_account before grant.owner owner
        { owner with operators := Work.operatorsAfter owner.operators ⟨grant.token, grant.spender⟩ grant.forAll }
        lives rfl
      refine ⟨fun delegating named => (listed _).trans (delegated delegating named), ?_⟩
      refine Erc721.State.ext rfl rfl rfl (funext fun account => funext fun delegate => (written _ _ _).trans ?_)
      by_cases same : account = grant.owner
      · rw [if_pos same, same, single, listed]
        rfl
      · exact if_neg same

theorem associated_erc721 (account : AccountId) (does : (Deed.associate account id).Does sender now before after) :
    after.merged.erc721 id = before.merged.erc721 id := by
  cases does with
  | associate => rfl

theorem dissociated_erc721 (account : AccountId) (does : (Deed.dissociate account id).Does sender now before after) :
    after.merged.erc721 id = before.merged.erc721 id := by
  cases does with
  | dissociate => rfl

theorem approved_erc721 (caller : Caller) (asks : caller.sender = sender) (spender : AccountId) (serial : Int64)
    (sound : (before.merged.erc721 id).Sound)
    (done : Deeds sender now (nftApproval caller id spender serial).deeds before after) :
    ∃ owner, (before.merged.erc721 id).owner serial.toInt = some owner ∧
      (owner = sender ∨ (before.merged.erc721 id).operator owner sender = true) ∧
      after.merged.erc721 id =
        (before.merged.erc721 id).lent serial.toInt (if spender.isZero then none else some spender) := by
  subst asks
  unfold nftApproval at done
  generalize caller.nftOwner.getD caller.sender = owner at done
  simp only at done
  by_cases nobody : spender.isZero = true
  · rw [if_pos nobody] at done
    rw [if_pos nobody]
    obtain ⟨owned, entitled, cleared⟩ := cleared_erc721 owner serial sound (Deeds.of_single _ _ _ done)
    exact ⟨owner, owned, entitled, cleared⟩
  · rw [if_neg nobody] at done
    rw [if_neg nobody]
    cases done with
    | cons first others =>
        obtain ⟨owned, lent⟩ := lent_erc721 owner spender serial first
        obtain ⟨delegated, still⟩ := delegated_erc721 _ rfl rfl (Deeds.of_single _ _ _ others)
        refine ⟨owner, owned, ?_, still.trans lent⟩
        by_cases own : owner = caller.sender
        · exact .inl own
        · have acts := delegated caller.sender (if_neg own)
          rw [lent] at acts
          exact .inr acts

end Deeds

def FacadeRequest.erc721 (call : Call) : FacadeRequest → Erc721.Event
  | ⟨.transferFrom, (source, receiver, number, ())⟩ =>
      .transferFrom call.sender (call.entity source) (call.entity receiver) (BitVec.toNat number)
  | ⟨.approve, (spender, number, ())⟩ =>
      .approve call.sender (if (call.entity spender).isZero then none else some (call.entity spender))
        (BitVec.toNat number)
  | ⟨.setApprovalForAll, (operator, approved, ())⟩ => .setApprovalForAll call.sender (call.entity operator) approved
  | ⟨.ownerOf, (number, ())⟩ => .ownerOf (BitVec.toNat number)
  | ⟨.getApproved, (number, ())⟩ => .getApproved (BitVec.toNat number)
  | ⟨.isApprovedForAll, (owner, operator, ())⟩ => .isApprovedForAll (call.entity owner) (call.entity operator)
  | _ => .idle

namespace Erc721.Answer

def encode : Erc721.Answer → Bytes
  | .account told => Abi.encode [.address] ((told.getD .zero).toAddress, ())
  | .verdict told => Abi.encode [.bool] (told, ())

end Erc721.Answer

structure Ledger.NonFungible (ledger : Ledger) (id : TokenId) : Prop where
  rooted : ledger.Rooted
  token : ∃ row, ledger.tokens.get? id = some row ∧ row.type = .nonFungible
  sound : (ledger.erc721 id).Sound

theorem non_fungible_of_rows (ledger : Ledger) (id : TokenId) (rooted : ledger.Rooted)
    (token : ∃ row, ledger.tokens.get? id = some row ∧ row.type = .nonFungible)
    (owned : ∀ entry ∈ ledger.nfts.rows, entry.2.owner ≠ .zero) : ledger.NonFungible id := by
  refine ⟨rooted, token, ⟨fun number nobody => ?_⟩⟩
  obtain ⟨row, found, owner⟩ := Option.map_eq_some_iff.mp nobody
  obtain ⟨serial, _, found⟩ := Option.bind_eq_some_iff.mp found
  exact every_row ledger.nfts (fun _ row => row.owner ≠ .zero) owned _ row found owner

theorem serial_move_named (config : Config) (caller : Caller) (id : TokenId) (source : Option AccountId)
    (receiver : AccountId) (serial : Int64)
    (checked : (Body.transfer [] [assetMoves caller id source receiver (.serial serial)]).check config = .ok ()) :
    receiver ≠ .zero := by
  simp only [Body.check, checkTransfer, checkTokenMoves, assetMoves, checkNftMoves, except_bind_ok, require_ok,
    Bool.and_eq_true, Bool.not_eq_true'] at checked
  obtain ⟨_, _, _, _, _, _, _, _, _, _, _, ⟨_, _, _, ⟨_, named⟩, _⟩, _⟩ := checked
  exact beq_eq_false_iff_ne.mp named

section Answers

variable (ledger : Ledger) (id : TokenId) (explicit : Bool) (ledgerId : String)

theorem owner_answered (sound : (ledger.erc721 id).Sound) (serial : Int64) (answer : Answer)
    (answered : (View.mk ledger {}).answer (.ownerOf ⟨id, serial⟩) = .ok answer) :
    answer.encode (.redirect id explicit) ledgerId =
      (Erc721.Answer.account ((ledger.erc721 id).owner serial.toInt)).encode := by
  obtain ⟨nft, known, answered⟩ := (except_bind_ok _ _ _).mp answered
  have found : ledger.nfts.get? ⟨id, serial⟩ = some nft := (View.demand_ok _ _ _).mp known
  have owner : (ledger.erc721 id).owner serial.toInt = some nft.owner := by
    simp only [Ledger.erc721, nft_numbered, found, Option.map_some]
  have named : ¬ nft.owner.isZero = true := fun nobody =>
    sound.owned _ (owner.trans (congrArg some (beq_iff_eq.mp nobody)))
  rw [if_neg named] at answered
  cases answered
  rw [owner]
  rfl

theorem spender_answered (serial : Int64) (answer : Answer)
    (answered : (View.mk ledger {}).answer (.getApproved ⟨id, serial⟩) = .ok answer) :
    answer.encode (.redirect id explicit) ledgerId =
      (Erc721.Answer.account ((ledger.erc721 id).spender serial.toInt)).encode := by
  obtain ⟨nft, known, answered⟩ := (except_bind_ok _ _ _).mp answered
  have found : ledger.nfts.get? ⟨id, serial⟩ = some nft := (View.demand_ok _ _ _).mp known
  cases answered
  simp only [Ledger.erc721, nft_numbered, found, Option.bind_some]
  rfl

theorem operator_answered (owner operator : AccountId) (answer : Answer)
    (answered : (View.mk ledger {}).answer (.isApprovedForAll id owner operator) = .ok answer) :
    answer.encode (.redirect id explicit) ledgerId =
      (Erc721.Answer.verdict ((ledger.erc721 id).operator owner operator)).encode := by
  obtain ⟨_, _, answered⟩ := (except_bind_ok _ _ _).mp answered
  cases answered
  simp only [Ledger.erc721, Erc721.State.operator, Ledger.operates, View.fresh_account]
  cases ledger.accounts.get? owner <;> rfl

end Answers

def erc721 : Standard Erc721.State Erc721.Event where
  look := Ledger.erc721
  meaning call request := request.erc721 call
  Does := Erc721.Event.Does
  answer state event := (event.answer state).map Erc721.Answer.encode
  idle := .idle
  stays _ := .idle
  silent _ := rfl

section Steps

variable (call : Call) (ledger : Ledger) (id : TokenId) (operation : Operation) (output : Bytes) (view : View)

theorem set_served (operator : Address) (approved : Bool)
    (serves : call.Serves ledger id ⟨.setApprovalForAll, (operator, approved, ())⟩ operation output view) :
    ledger.Enrolls view.merged call.sender ⟨id, call.entity operator⟩ approved := by
  have done := serves.done
  cases serves.given
  have enrolls := operated_enrolls _ approved rfl (Deeds.of_single _ _ _ done)
  rwa [View.fresh_merged] at enrolls

theorem owner_served (sound : (ledger.erc721 id).Sound) (number : BitVec 256)
    (serves : call.Serves ledger id ⟨.ownerOf, (number, ())⟩ operation output view) :
    erc721.Served call ledger id ⟨.ownerOf, (number, ())⟩ output view.merged := by
  obtain ⟨_, read, given⟩ := (except_bind_ok _ _ _).mp serves.given
  cases given
  obtain ⟨serial, rfl, same⟩ := native64_mapped _ _ _ _ read
  refine erc721.question_served call ledger id _ output view _ serves .ownerOf
    fun answer explicit told answered asked => ?_
  rw [owner_answered ledger id explicit _ sound serial _ answered, ← Option.some.inj asked, same]
  rfl

theorem spender_served (number : BitVec 256)
    (serves : call.Serves ledger id ⟨.getApproved, (number, ())⟩ operation output view) :
    erc721.Served call ledger id ⟨.getApproved, (number, ())⟩ output view.merged := by
  obtain ⟨_, read, given⟩ := (except_bind_ok _ _ _).mp serves.given
  cases given
  obtain ⟨serial, rfl, same⟩ := native64_mapped _ _ _ _ read
  refine erc721.question_served call ledger id _ output view _ serves .getApproved
    fun answer explicit told answered asked => ?_
  rw [spender_answered ledger id explicit _ serial _ answered, ← Option.some.inj asked, same]
  rfl

theorem operator_served (owner operator : Address)
    (serves : call.Serves ledger id ⟨.isApprovedForAll, (owner, operator, ())⟩ operation output view) :
    erc721.Served call ledger id ⟨.isApprovedForAll, (owner, operator, ())⟩ output view.merged := by
  cases serves.given
  refine erc721.question_served call ledger id _ output view _ serves .isApprovedForAll
    fun answer explicit told answered asked => ?_
  rw [operator_answered ledger id explicit _ _ _ _ answered, ← Option.some.inj asked]
  rfl

variable (nonFungible : ledger.NonFungible id)
include nonFungible

theorem non_fungible_type : (ledger.tokens.get? id).map Token.type = some .nonFungible := by
  obtain ⟨row, found, type⟩ := nonFungible.token
  rw [found, Option.map_some, type]

theorem transfer_served (source receiver : Address) (number : BitVec 256)
    (serves : call.Serves ledger id ⟨.transferFrom, (source, receiver, number, ())⟩ operation output view) :
    erc721.Served call ledger id ⟨.transferFrom, (source, receiver, number, ())⟩ output view.merged := by
  have given := serves.given
  rw [non_fungible_type ledger id nonFungible] at given
  obtain ⟨asset, read, given⟩ := (except_bind_ok _ _ _).mp given
  cases given
  obtain ⟨serial, rfl, same⟩ := native64_mapped _ _ _ _ read
  have named := serial_move_named _ _ _ _ _ _ serves.wellFormed
  have does : (Deed.moveNft id ⟨call.entity source, call.entity receiver, serial,
      call.entity source != call.sender⟩).Does call.sender call.frame.consensusTime { ledger := ledger } view :=
    Deeds.of_single _ _ _ serves.done
  obtain ⟨owned, approved, handed⟩ := moved_erc721 _ does
  rw [View.fresh_merged, same] at owned approved handed
  refine ⟨?_, fun _ none => nomatch none⟩
  change Erc721.Event.Does _ (ledger.erc721 id) (view.merged.erc721 id)
  rw [handed]
  refine .transferFrom owned ?_ named
  by_cases own : call.entity source = call.sender
  · exact .inl own
  · exact .inr (approved (bne_iff_ne.mpr own))

theorem approval_served (spender : Address) (number : BitVec 256)
    (serves : call.Serves ledger id ⟨.approve, (spender, number, ())⟩ operation output view) :
    erc721.Served call ledger id ⟨.approve, (spender, number, ())⟩ output view.merged := by
  have given := serves.given
  have sound := nonFungible.sound
  rw [non_fungible_type ledger id nonFungible] at given
  rw [← View.fresh_merged ledger] at sound
  obtain ⟨asset, read, given⟩ := (except_bind_ok _ _ _).mp given
  cases given
  obtain ⟨serial, rfl, same⟩ := native64_mapped _ _ _ _ read
  obtain ⟨owner, owned, entitled, lent⟩ :=
    approved_erc721 (call.caller ledger _) rfl (call.entity spender) serial sound serves.done
  rw [View.fresh_merged, same] at owned lent
  rw [View.fresh_merged] at entitled
  refine ⟨?_, fun _ none => nomatch none⟩
  change Erc721.Event.Does _ (ledger.erc721 id) (view.merged.erc721 id)
  rw [lent]
  exact .approve owned entitled

theorem served_erc721 (request : FacadeRequest) (serves : call.Serves ledger id request operation output view) :
    erc721.Served call ledger id request output view.merged := by
  have fits := serves.fits
  have given := serves.given
  have done := serves.done
  rw [non_fungible_type ledger id nonFungible] at fits
  have still (same : view.merged.erc721 id = (View.mk ledger {}).merged.erc721 id) :
      view.merged.erc721 id = ledger.erc721 id := by
    rw [same, View.fresh_merged]
  obtain ⟨function, values⟩ := request
  cases function with
  | transferFrom => exact transfer_served call ledger id operation output view nonFungible _ _ _ serves
  | approve => exact approval_served call ledger id operation output view nonFungible _ _ serves
  | setApprovalForAll =>
      have enrolls := set_served call ledger id operation output view _ _ serves
      refine ⟨?_, fun _ none => nomatch none⟩
      change Erc721.Event.Does _ (ledger.erc721 id) (view.merged.erc721 id)
      rw [enrolled_erc721 _ _ _ _ _ _ enrolls]
      exact .setApprovalForAll
  | ownerOf => exact owner_served call ledger id operation output view nonFungible.sound _ serves
  | getApproved => exact spender_served call ledger id operation output view _ serves
  | isApprovedForAll => exact operator_served call ledger id operation output view _ _ serves
  | associate =>
      cases given
      exact erc721.idle_served call ledger id _ output _ rfl (still (associated_erc721 _ (Deeds.of_single _ _ _ done)))
  | dissociate =>
      cases given
      exact erc721.idle_served call ledger id _ output _ rfl (still (dissociated_erc721 _ (Deeds.of_single _ _ _ done)))
  -- Amounts are for fungible tokens.
  | transfer => cases fits
  | decimals => cases fits
  | name | symbol | totalSupply | balanceOf | allowance =>
      cases given
      cases served_question call ledger id _ _ output view serves _ rfl
      exact erc721.idle_served call ledger id _ output _ rfl (still rfl)
  | tokenUri =>
      obtain ⟨_, _, given⟩ := (except_bind_ok _ _ _).mp given
      cases given
      cases served_question call ledger id _ _ output view serves _ rfl
      exact erc721.idle_served call ledger id _ output _ rfl (still rfl)

end Steps

theorem non_fungible_served (id : TokenId) (call : Call) (ledger : Ledger) (request : FacadeRequest)
    (operation : Operation) (output : Bytes) (view : View)
    (serves : call.Serves ledger id request operation output view) (nonFungible : ledger.NonFungible id) :
    erc721.Served call ledger id request output (call.after ledger) ∧ (call.after ledger).NonFungible id := by
  have served := served_erc721 call ledger id operation output view nonFungible request serves
  rw [← serves.after] at served
  obtain ⟨row, found, type⟩ := nonFungible.token
  exact ⟨served, served_rooted call ledger id _ _ _ _ serves nonFungible.rooted,
    ⟨row, (served_token call ledger id _ _ _ _ serves id).trans found, type⟩,
    Erc721.Event.does_sound _ _ _ served.does nonFungible.sound⟩

theorem setting_enrolls (id : TokenId) (call : Call) (redirects : call.Redirects id) (ledger : Ledger)
    (rooted : ledger.Rooted) (owner operator : AccountId) (approved : Bool)
    (event : erc721.event call ledger = .setApprovalForAll owner operator approved) :
    ledger.Enrolls (call.after ledger) owner ⟨id, operator⟩ approved := by
  by_cases success : (call.settled ledger).succeeds
  · obtain ⟨request, operation, output, view, serves⟩ := call.success_serves ledger rooted id redirects success
    rw [Standard.event, if_pos success, serves.asked] at event
    change request.erc721 call = _ at event
    rw [serves.after]
    obtain ⟨function, values⟩ := request
    cases function with
    | setApprovalForAll =>
        obtain ⟨other, verdict, ⟨⟩⟩ := values
        cases event
        exact set_served call ledger id operation output view _ _ serves
    | _ => cases event
  · rw [Standard.event, if_neg success] at event
    cases event

/-- Calls to a non-fungible token through its facade are events of the standard, by whomever they are made. At each of
them every serial of the token has an owner again, and one that sets an operator sets that one membership of the ledger
and changes nothing else. A serial that somebody else owns than at the start, and that was not lent since, has no
spender. -/
theorem non_fungible_facade_refines_erc721 (id : TokenId) (calls : List Call)
    (redirected : ∀ call ∈ calls, call.Redirects id) (ledger : Ledger) (nonFungible : ledger.NonFungible id) :
    (∀ entry ∈ calls.zip (history calls ledger), entry.2.NonFungible id ∧ erc721.Met entry.1 entry.2 id ∧
        ∀ owner operator approved, erc721.event entry.1 entry.2 = .setApprovalForAll owner operator approved →
          entry.2.Enrolls (entry.1.after entry.2) owner ⟨id, operator⟩ approved) ∧
      ∀ serial : Nat,
        (∀ sender spender, Erc721.Event.approve sender (some spender) serial ∉ events erc721.event calls ledger) →
        ((afterAll calls ledger).erc721 id).owner serial ≠ (ledger.erc721 id).owner serial →
        ((afterAll calls ledger).erc721 id).spender serial = none := by
  obtain ⟨met, _, run⟩ := erc721.calls_meet id (fun later => later.NonFungible id) (fun _ held => held.rooted)
    (non_fungible_served id) calls redirected ledger nonFungible
  refine ⟨fun entry member => ?_, fun serial quiet changed => ?_⟩
  · obtain ⟨kept, meets⟩ := met entry member
    have redirects := redirected entry.1 (List.of_mem_zip member).1
    exact ⟨kept, meets, fun owner operator approved event =>
      setting_enrolls id entry.1 redirects entry.2 kept.rooted owner operator approved event⟩
  · rcases Erc721.run_drops_spender serial _ _ _ run fun event member sender spender same =>
      quiet sender spender (same ▸ member) with ⟨same, _⟩ | gone
    · exact absurd same changed
    · exact gone

namespace Sample

def exhibiting : Ledger :=
  { ledger with
    nfts := .ofList
      [(⟨art, 1⟩, { id := ⟨art, 1⟩, owner := holder, spender := some friend }),
        (⟨art, 3⟩, { id := ⟨art, 3⟩, owner := friend })] }

def collecting : Call := byFriend (facade art .transferFrom (holder.toAddress, friend.toAddress, 1#256, ()))

theorem exhibiting_non_fungible : exhibiting.NonFungible art :=
  non_fungible_of_rows exhibiting art (rooted_of_rows exhibiting (by decide) (by decide) (by decide))
    ⟨_, rfl, by decide⟩ (by decide)

theorem collecting_redirects : collecting.Redirects art :=
  Call.redirects_of_unwrapped collecting art
    ⟨art.toAddress, FacadeFunction.transferFrom.selector.toBytes ++
      Abi.encode FacadeFunction.transferFrom.params (holder.toAddress, friend.toAddress, 1#256, ()), true⟩
    (by decide +kernel) (by decide +kernel) (by decide +kernel)

end Sample

theorem collecting_drops_spender :
    ((afterAll [Sample.collecting] Sample.exhibiting).erc721 Sample.art).owner 1 = some Sample.friend ∧
      ((afterAll [Sample.collecting] Sample.exhibiting).erc721 Sample.art).spender 1 = none := by
  have event : erc721.event Sample.collecting Sample.exhibiting =
      .transferFrom Sample.friend Sample.holder Sample.friend 1 := by
    decide +kernel
  obtain ⟨steps, drops⟩ := non_fungible_facade_refines_erc721 Sample.art [Sample.collecting]
    (List.forall_mem_singleton.mpr Sample.collecting_redirects) Sample.exhibiting Sample.exhibiting_non_fungible
  obtain ⟨_, refines, _⟩ := steps (Sample.collecting, Sample.exhibiting) List.mem_cons_self
  have taken : ((afterAll [Sample.collecting] Sample.exhibiting).erc721 Sample.art).owner 1 = some Sample.friend := by
    have does : (erc721.event Sample.collecting Sample.exhibiting).Does (Sample.exhibiting.erc721 Sample.art)
        ((afterAll [Sample.collecting] Sample.exhibiting).erc721 Sample.art) :=
      refines.does
    rw [event] at does
    generalize (afterAll [Sample.collecting] Sample.exhibiting).erc721 Sample.art = last at does
    cases does with
    | transferFrom => rfl
  refine ⟨taken, drops 1 (fun sender spender approved => ?_) ?_⟩
  · rw [events, event] at approved
    cases List.mem_singleton.mp approved
  · have owned : (Sample.exhibiting.erc721 Sample.art).owner 1 = some Sample.holder := by decide
    intro same
    exact absurd (taken.symm.trans (same.trans owned)) (by decide)

end TokenService
