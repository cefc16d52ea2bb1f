import TokenService.Proofs.Call.Routes
import TokenService.Proofs.Ledger.Outcomes
import TokenService.Proofs.Settlement.Serials
import TokenService.Proofs.Settlement.Success

set_option autoImplicit false

namespace TokenService

open Abi

-- Where counters and NFTs of a token agree, and the next number is nobody's.
structure Ledger.Countable (ledger : Ledger) : Prop where
  rooted : ledger.Rooted
  counted : ∀ id token, ledger.tokens.get? id = some token → token.deleted = false → token.type = .nonFungible →
    token.totalSupply.toInt = ledger.serials id
  last : ∀ id token, ledger.tokens.get? id = some token → token.deleted = false → token.type = .nonFungible →
    ∀ serial : Int64, ledger.nfts.get? ⟨id, serial⟩ ≠ none → serial.toInt ≤ token.lastUsedSerial.toInt
  fresh : ∀ id : EntityId, id.num = ledger.nextEntity → ledger.accounts.get? id = none ∧ ledger.tokens.get? id = none

theorem Ledger.WellKept.countable (ledger : Ledger) (kept : ledger.WellKept) : ledger.Countable := by
  refine ⟨kept.rooted, fun id token found live kind => (kept.agrees id token found live kind).supply,
    fun id token found live kind serial present => ?_, fun id next => ⟨?_, ?_⟩⟩
  · obtain ⟨nft, there⟩ := Option.ne_none_iff_exists'.mp present
    exact ((kept.agrees id token found live kind).range ⟨id, serial⟩ nft there rfl).2
  · refine Option.eq_none_iff_forall_ne_some.mpr fun row there => ?_
    exact absurd (kept.peopled.accounts id row there) (next ▸ Nat.lt_irrefl _)
  · refine Option.eq_none_iff_forall_ne_some.mpr fun row there => ?_
    exact absurd (kept.numbered.tokens id row there) (next ▸ Nat.lt_irrefl _)

def quantity (type : TokenType) (amount : Int64) (items : Nat) : Int :=
  match type with
  | .fungible => amount.toInt
  | .nonFungible => items

section Told

variable (receipt : Receipt) (ledger next : Ledger)

structure SupplyTold (id : TokenId) (before after : Token) (change : Int) : Prop where
  found : ledger.tokens.get? id = some before
  stands : next.tokens.get? id = some after
  recorded : receipt.newTotalSupply = some after.totalSupply
  sum : after.totalSupply.toInt = before.totalSupply.toInt + change

structure SerialsTold (token : Token) (now : Timestamp) (serials : List Int64) (metadata : List Bytes) : Prop where
  run : serials.map Int64.toInt = successors token.lastUsedSerial.toInt metadata.length
  recorded : receipt.serials = serials
  anew : ∀ serial ∈ serials, ledger.nfts.get? ⟨token.id, serial⟩ = none
  stand : ∀ entry ∈ serials.zip metadata, next.nfts.get? ⟨token.id, entry.1⟩ =
    some
      { id := ⟨token.id, entry.1⟩, owner := token.treasury, spender := none, metadata := entry.2, creationTime := now }
  others : ∀ id, (∀ serial ∈ serials, id ≠ ⟨token.id, serial⟩) → next.nfts.get? id = ledger.nfts.get? id

structure TokenTold (id : TokenId) (row : Token) (supply : Int64) : Prop where
  unknown : ledger.accounts.get? id = none ∧ ledger.tokens.get? id = none
  stands : next.tokens.get? id = some row
  others : ∀ other, other ≠ id → next.tokens.get? other = ledger.tokens.get? other
  recorded : receipt.token = some id
  supplied : row.totalSupply = supply
  counted : receipt.newTotalSupply = if supply = 0 then none else some supply

def Operation.Told (now : Timestamp) (output : Bytes) : Operation → Prop
  | .mint order _ => ∃ (before after : Token) (word : UInt64) (serials : List Int64),
      SupplyTold receipt ledger next order.token before after
          (quantity before.type order.amount order.metadata.length) ∧
        SerialsTold receipt ledger next before now serials order.metadata ∧
        output = encode [.int32, .uint64, .array .int64] (Status.success.number, word, serials, ()) ∧
        (word.toNat : Int) = after.totalSupply.toInt
  | .burn order _ => ∃ (before after : Token) (word : UInt64),
      SupplyTold receipt ledger next order.token before after
          (-quantity before.type order.amount order.serials.length) ∧
        output = encode [.int32, .uint64] (Status.success.number, word, ()) ∧
        (word.toNat : Int) = after.totalSupply.toInt
  | .wipe order _ => ∃ before after,
      SupplyTold receipt ledger next order.token before after
        (-quantity before.type order.amount order.serials.length)
  | .create order _ => ∃ id row,
      TokenTold receipt ledger next id row order.initialSupply ∧
        output = encode [.int32, .address] (Status.success.number, id.toAddress, ())
  | _ => True

end Told

section Numbers

theorem unsigned_exact (number : Int64) (floor : 0 ≤ number.toInt) :
    ((unsigned number).toNat : Int) = number.toInt := by
  have top := number.toInt_lt
  have size : UInt64.size = 18446744073709551616 := rfl
  rw [unsigned, UInt64.toNat_ofNat_of_lt' (by omega)]
  omega

theorem size_exact (type : TokenType) (amount : Int64) (items : Nat)
    (fits : type = .nonFungible → (items : Int) ≤ 9223372036854775807) :
    (Work.size type amount items).toInt = quantity type amount items := by
  cases type with
  | fungible => rfl
  | nonFungible => exact count_exact items (fits rfl)

theorem run_length (last : Int) (count : Nat) (serials : List Int64)
    (run : serials.map Int64.toInt = successors last count) : serials.length = count := by
  have lengths := congrArg List.length run
  rwa [List.length_map, successors, List.length_map, List.length_range] at lengths

theorem run_above (last : Int) (count : Nat) (serials : List Int64)
    (run : serials.map Int64.toInt = successors last count) (serial : Int64) (member : serial ∈ serials) :
    last < serial.toInt := by
  have listed : serial.toInt ∈ serials.map Int64.toInt := List.mem_map.mpr ⟨serial, member, rfl⟩
  rw [run] at listed
  obtain ⟨place, _, same⟩ := List.mem_map.mp listed
  omega

theorem run_ascending (last : Int) (count : Nat) (serials : List Int64)
    (run : serials.map Int64.toInt = successors last count) :
    serials.Pairwise fun earlier later => earlier.toInt < later.toInt := by
  rw [← List.pairwise_map, run, successors, List.pairwise_map]
  exact List.pairwise_lt_range.imp fun below => by omega

end Numbers

section Pieces

variable (token : Token) (now : Timestamp) (serials : List Int64) (metadata : List Bytes)

theorem pieces_serials (even : serials.length = metadata.length) :
    (token.pieces now serials metadata).map (fun nft => nft.id.serial) = serials := by
  rw [Token.pieces, List.map_map]
  exact List.map_fst_zip (Nat.le_of_eq even)

theorem same_token_lt (id : TokenId) (earlier later : Int64) (below : earlier.toInt < later.toInt) :
    compare (⟨id, earlier⟩ : NftId) ⟨id, later⟩ = .lt := by
  change (compare id id).then (compare earlier later) = .lt
  rw [Std.ReflOrd.compare_self]
  exact if_pos (Int64.lt_iff_toInt_lt.mpr below)

theorem pieces_ascending (even : serials.length = metadata.length)
    (ascending : serials.Pairwise fun earlier later => earlier.toInt < later.toInt) :
    Ascending ((token.pieces now serials metadata).map Nft.entry) := by
  rw [← pieces_serials token now serials metadata even, List.pairwise_map] at ascending
  refine List.pairwise_map.mpr (ascending.imp_of_mem fun {earlier later} first second below => ?_)
  obtain ⟨_, _, rfl⟩ := List.mem_map.mp first
  obtain ⟨_, _, rfl⟩ := List.mem_map.mp second
  exact same_token_lt token.id _ _ below

theorem pieces_staged (view : View) (bare : view.changes.nfts = ∅) (even : serials.length = metadata.length)
    (ascending : serials.Pairwise fun earlier later => earlier.toInt < later.toInt) :
    (view.putNfts (token.pieces now serials metadata)).changes.nfts.rows =
      (token.pieces now serials metadata).map Nft.entry := by
  rw [View.put_nfts, bare]
  exact insert_rows_last ∅ _ (pieces_ascending token now serials metadata even ascending)

theorem piece_listed (serial : Int64) (data : Bytes) (member : (serial, data) ∈ serials.zip metadata) :
    { id := ⟨token.id, serial⟩, owner := token.treasury, metadata := data, creationTime := now } ∈
      token.pieces now serials metadata :=
  List.mem_map.mpr ⟨(serial, data), member, rfl⟩

theorem piece_of_serial (nft : Nft) (member : nft ∈ token.pieces now serials metadata) :
    ∃ serial ∈ serials, nft.id = ⟨token.id, serial⟩ := by
  obtain ⟨entry, listed, rfl⟩ := List.mem_map.mp member
  exact ⟨entry.1, (List.of_mem_zip listed).1, rfl⟩

end Pieces

section Effects

variable (ledger : Ledger) (changes : Changes)

section Sole

variable (row : Token) (sole : changes.tokens = (∅ : Table TokenId (Option Token)).insert row.id (some row))
include sole

theorem sole_supply :
    Effects.newTotalSupply? ledger changes =
      if row.totalSupply = ((ledger.tokens.get? row.id).map Token.totalSupply).getD 0 then none
      else some row.totalSupply := by
  rw [Effects.newTotalSupply?, sole]
  rfl

theorem sole_token :
    Effects.newToken? ledger changes = if (ledger.tokens.get? row.id).isNone then some row.id else none := by
  rw [Effects.newToken?, sole]
  rfl

end Sole

theorem new_serials (nfts : List Nft) (staged : changes.nfts.rows = nfts.map Nft.entry)
    (absent : ∀ nft ∈ nfts, ledger.nfts.get? nft.id = none) :
    Effects.newSerials ledger changes = nfts.map fun nft => nft.id.serial := by
  rw [Effects.newSerials, staged, List.filterMap_map, ← List.filterMap_eq_map]
  refine List.filterMap_congr fun nft member => ?_
  simp only [Function.comp, Nft.entry, absent nft member]
  rfl

end Effects

structure Receipt.Reports (receipt : Receipt) (ledger : Ledger) (changes : Changes) : Prop where
  token : receipt.token = Effects.newToken? ledger changes
  supply : receipt.newTotalSupply = Effects.newTotalSupply? ledger changes
  serials : receipt.serials = Effects.newSerials ledger changes

theorem success_reports (service : Service) (frame : Frame) (prepared : Prepared) (output : Bytes) (gas : UInt64)
    (ledger : Ledger) (changes : Changes) (effects : Effects) (told : changes.effects ledger = .ok effects) :
    (service.record frame prepared .success (some effects) output gas).1.receipt.Reports ledger changes := by
  obtain ⟨units, _, told⟩ := (except_bind_ok _ _ _).mp told
  obtain ⟨hbar, _, told⟩ := (except_bind_ok _ _ _).mp told
  cases told
  exact ⟨rfl, rfl, rfl⟩

section Staged

variable (view : View) (id : NftId)

theorem staged_nft (row : Nft) (listed : (id, some row) ∈ view.changes.nfts.rows) : view.nft id = some row := by
  rw [View.nft, Table.overlaid, (Table.get_some_iff _ _ _).mpr listed]
  rfl

theorem unstaged_nft (apart : ∀ entry ∈ view.changes.nfts.rows, entry.1 ≠ id) :
    view.nft id = view.ledger.nfts.get? id := by
  rw [View.nft, Table.overlaid]
  cases found : view.changes.nfts.get? id with
  | none => rfl
  | some row => exact absurd rfl (apart _ ((Table.get_some_iff _ _ _).mp found))

theorem removed_stages (token : TokenId) (holder : AccountId) (serials : List Int64) (before after : View)
    (removed : Removed token holder serials before after) : after.changes.tokens = before.changes.tokens := by
  induction removed with
  | nil view => rfl
  | cons nft found owned others ih => exact ih

theorem taken_stages (token : Token) (holder : AccountId) (amount removed : Int64) (serials : List Int64)
    (before after : View) (items : Taken token holder amount serials removed before after) :
    after.changes.tokens = before.changes.tokens := by
  cases items with
  | units => rfl
  | items nonFungible gone => exact removed_stages _ _ _ _ _ gone

end Staged

def Token.resupplied (token : Token) (supply last : Int64) : Token :=
  { token with totalSupply := supply, lastUsedSerial := last }

section Rules

variable (ledger : Ledger) (now : Timestamp) (receipt : Receipt)

theorem supply_told (middle : View) (bare : middle.changes.tokens = ∅) (token : Token)
    (found : ledger.tokens.get? token.id = some token) (holder : AccountId) (held : Relationship)
    (supply last balance : Int64) (change : Int) (moved : change ≠ 0)
    (supplied : Shifted token.totalSupply change supply)
    (reports : receipt.Reports ledger (middle.resupplied token holder held supply last balance).changes) :
    SupplyTold receipt ledger (middle.resupplied token holder held supply last balance).merged token.id token
      (token.resupplied supply last) change := by
  have sum := supplied.sum
  have other : supply ≠ token.totalSupply := by
    rintro rfl
    omega
  have sole : (middle.resupplied token holder held supply last balance).changes.tokens =
      (∅ : Table TokenId (Option Token)).insert token.id (some (token.resupplied supply last)) := by
    rw [← bare]
    rfl
  refine ⟨found, (View.merged_token _ _).trans ((View.token_put_token _ _ _).trans (if_pos rfl)), ?_, sum⟩
  rw [reports.supply, sole_supply ledger _ (token.resupplied supply last) sole]
  change (if supply = ((ledger.tokens.get? token.id).map Token.totalSupply).getD 0 then none else some supply) = _
  rw [found]
  exact if_neg other

theorem serials_told (token : Token) (serials : List Int64) (metadata : List Bytes)
    (run : serials.map Int64.toInt = successors token.lastUsedSerial.toInt metadata.length)
    (anew : ∀ serial ∈ serials, ledger.nfts.get? ⟨token.id, serial⟩ = none) (after : View)
    (base : after.ledger = ledger)
    (staged : after.changes.nfts.rows = (token.pieces now serials metadata).map Nft.entry)
    (reports : receipt.Reports ledger after.changes) :
    SerialsTold receipt ledger after.merged token now serials metadata := by
  have even := run_length _ _ _ run
  refine ⟨run, ?_, anew, fun entry member => ?_, fun id apart => ?_⟩
  · rw [reports.serials, new_serials ledger _ _ staged fun nft member => ?_]
    · exact pieces_serials token now serials metadata even
    · obtain ⟨serial, listed, same⟩ := piece_of_serial token now serials metadata nft member
      rw [same]
      exact anew serial listed
  · rw [View.merged_nft]
    refine staged_nft after _ _ ?_
    rw [staged]
    exact List.mem_map.mpr ⟨_, piece_listed token now serials metadata entry.1 entry.2 member, rfl⟩
  · rw [View.merged_nft, ← base]
    refine unstaged_nft after id fun entry member same => ?_
    rw [staged] at member
    obtain ⟨nft, listed, rfl⟩ := List.mem_map.mp member
    obtain ⟨serial, given, about⟩ := piece_of_serial token now serials metadata nft listed
    exact apart serial given (same.symm.trans about)

variable (countable : ledger.Countable)
include countable

theorem serials_anew (token : Token) (found : ledger.tokens.get? token.id = some token) (live : token.deleted = false)
    (serials : List Int64) (metadata : List Bytes) (bare : token.type = .fungible → metadata = [])
    (run : serials.map Int64.toInt = successors token.lastUsedSerial.toInt metadata.length) (serial : Int64)
    (member : serial ∈ serials) : ledger.nfts.get? ⟨token.id, serial⟩ = none := by
  cases kind : token.type with
  | fungible =>
      rw [bare kind] at run
      rw [List.length_eq_zero_iff.mp (run_length _ _ _ run)] at member
      cases member
  | nonFungible =>
      have above := run_above _ _ _ run serial member
      by_contra present
      have below := countable.last token.id token found live kind serial present
      omega

theorem mint_told (order : Mint) (generation : Generation) (convention : Convention)
    (fits : (order.metadata.length : Int) ≤ 9223372036854775807) (outcome : Execution) (after : View)
    (strikes : Work.Strikes order now { ledger := ledger } outcome after)
    (reports : receipt.Reports ledger after.changes) :
    (Operation.mint order generation).Told receipt ledger after.merged now
      ((Operation.mint order generation).encodeExecution convention outcome) := by
  obtain ⟨token, held, supply, last, balance, serials, found, live, bare, positive, run, supplied⟩ := strikes
  have own : token.id = order.token := countable.rooted.tokens _ _ found
  rw [← own] at found
  have struck := View.put_nfts { ledger := ledger } (token.pieces now serials order.metadata)
  have size := size_exact token.type order.amount order.metadata.length fun _ => fits
  refine ⟨token, token.resupplied supply last, unsigned supply, serials, ?_, ?_, rfl,
    unsigned_exact supply supplied.floor⟩
  · rw [← own, ← size]
    exact supply_told ledger receipt _ (struck ▸ rfl) token found _ _ _ _ _ _ (by omega) supplied reports
  · have staged := pieces_staged token now serials order.metadata { ledger := ledger } rfl (run_length _ _ _ run)
      (run_ascending _ _ _ run)
    exact serials_told ledger now receipt token serials order.metadata run
      (serials_anew ledger countable token found live serials order.metadata bare run) _ (struck ▸ rfl) staged reports

theorem taken_size (token : Token) (found : ledger.tokens.get? token.id = some token) (live : token.deleted = false)
    (holder : AccountId) (amount removed : Int64) (serials : List Int64) (middle : View)
    (items : Taken token holder amount serials removed { ledger := ledger } middle) (kind : token.type = .nonFungible) :
    (serials.length : Int) ≤ 9223372036854775807 := by
  cases items with
  | units _ fungible => cases fungible.symm.trans kind
  | items _ gone =>
      have total := removed_serials _ _ _ _ _ gone token.id
      have rest := serials_nonneg middle.merged token.id
      have top := token.totalSupply.toInt_lt
      rw [View.fresh_merged, if_pos rfl, ← countable.counted _ _ found live kind] at total
      omega

theorem retire_told (id : TokenId) (amount : Int64) (serials : List Int64) (outcome : Execution) (after : View)
    (retires : Work.Retires id amount serials { ledger := ledger } outcome after)
    (reports : receipt.Reports ledger after.changes) :
    ∃ before row, outcome = .supplyChanged row.totalSupply ∧ 0 ≤ row.totalSupply.toInt ∧
      SupplyTold receipt ledger after.merged id before row (-quantity before.type amount serials.length) := by
  obtain ⟨token, holder, held, supply, balance, middle, found, live, positive, taken, supplied⟩ := retires
  have own : token.id = id := countable.rooted.tokens _ _ found
  subst own
  have size := size_exact token.type amount serials.length
    (taken_size ledger countable token found live _ _ _ _ _ taken)
  refine ⟨token, token.resupplied supply token.lastUsedSerial, rfl, supplied.floor, ?_⟩
  rw [← size]
  exact supply_told ledger receipt middle (taken_stages _ _ _ _ _ _ _ taken) token found _ _ _ _ _ _ (by omega)
    supplied reports

theorem create_told (order : CreateOrder) (generation : Generation) (caller : Caller) (convention : Convention)
    (outcome : Execution) (after : View)
    (founds : Work.Founds (order.creation caller) now { ledger := ledger } outcome after)
    (reports : receipt.Reports ledger after.changes) :
    (Operation.create order generation).Told receipt ledger after.merged now
      ((Operation.create order generation).encodeExecution convention outcome) := by
  obtain ⟨id, reserved, fresh⟩ := founds
  have unknown := countable.fresh id (UInt64.toNat_inj.mp fresh)
  have row := Work.founded_token { ledger := ledger } (order.creation caller) now id reserved
  refine ⟨id, Work.created (order.creation caller) id now,
    ⟨unknown, (row id).trans (if_pos rfl), fun other apart => (row other).trans (if_neg apart), ?_, rfl, ?_⟩, rfl⟩
  · rw [reports.token, sole_token ledger _ (Work.created (order.creation caller) id now) rfl]
    exact if_pos (Option.isNone_iff_eq_none.mpr unknown.2)
  · rw [reports.supply, sole_supply ledger _ (Work.created (order.creation caller) id now) rfl]
    simp only [Work.created, unknown.2, Option.map_none, Option.getD_none]
    rfl

theorem executed_told (operation : Operation) (caller : Caller) (sender : AccountId) (convention : Convention)
    (fits : ∀ order generation, operation = .mint order generation →
      (order.metadata.length : Int) ≤ 9223372036854775807)
    (outcome : Execution) (after : View)
    (run : (Work.execute (operation.body caller) sender now).Yields { ledger := ledger } outcome after)
    (reports : receipt.Reports ledger after.changes) :
    operation.Told receipt ledger after.merged now (operation.encodeExecution convention outcome) := by
  cases operation with
  | mint order generation =>
      exact mint_told ledger now receipt countable order generation convention (fits order generation rfl) outcome after
        (Work.mint_strikes _ _ _ _ _ run) reports
  | burn order generation =>
      obtain ⟨before, row, rfl, floor, told⟩ :=
        retire_told ledger receipt countable _ _ _ outcome after (Work.burn_retires _ _ _ _ run) reports
      exact ⟨before, row, unsigned row.totalSupply, told, rfl, unsigned_exact _ floor⟩
  | wipe order generation =>
      obtain ⟨before, row, _, _, told⟩ :=
        retire_told ledger receipt countable _ _ _ outcome after (Work.wipe_retires _ _ _ _ run) reports
      exact ⟨before, row, told⟩
  | create order generation =>
      exact create_told ledger now receipt countable order generation caller convention outcome after
        (Work.create_founds _ _ _ _ _ run) reports
  | _ => trivial

end Rules

/-- A successful mint, burn, wipe or creation tells one thing three times. The bytes that it returns and its record name
the supply of the row that it leaves behind, which is the old one and what was ordered; a mint names the new serials,
which follow the last one, and a creation its token, which is the only new one and was nobody before. -/
theorem supplies_told_thrice (config : Config) (market : Market) (prices : PriceTable) (host : Host) (frame : Frame)
    (input : Bytes) (addressable : input.length < UInt64.size) (ledger : Ledger) (lent : host.ledger = some ledger)
    (countable : ledger.Countable) (settled : Settled)
    (computed : settled = (Service.native config market prices).compute host frame input)
    (success : settled.succeeds) :
    ∃ call record transaction settlement output,
      dispatch ((Service.native config market prices).setting host frame { ledger := ledger }) input = .ok (some call) ∧
        settled.record = some (record, transaction) ∧ settled.result = .ok settlement ∧
        settlement.output = some output ∧
        call.operation.Told record.receipt ledger (settled.ledgerAfter ledger) frame.consensusTime output := by
  obtain ⟨call, view, takes⟩ :=
    success_takes_lent config market prices host frame input ledger settled lent computed success
  have carries := takes_carries config market prices host frame input ledger settled countable.rooted call view takes
  obtain ⟨output, evaluated⟩ := takes.passes.evaluated
  obtain ⟨settlement, result, _⟩ := success
  obtain ⟨returned, effects, told, recorded⟩ :=
    success_concluded _ host frame input ledger call output view takes.passes evaluated settlement (computed ▸ result)
  rw [deeds_ledger _ _ _ _ _ carries.done] at told
  have reports := success_reports (Service.native config market prices) frame
    ((Service.native config market prices).ready host frame ledger call) output settlement.gas ledger view.changes
    effects told
  refine ⟨call, _, _, settlement, output, takes.passes.dispatched, computed ▸ recorded, result, returned, ?_⟩
  rw [carries.after]
  by_cases asked : ∃ question, call.operation = .query question
  · obtain ⟨question, asked⟩ := asked
    rw [asked]
    trivial
  · obtain ⟨outcome, run, rfl⟩ := evaluated_yields _ rfl host frame ledger call output view
      (fun question same => asked ⟨question, same⟩) evaluated
    refine executed_told ledger frame.consensusTime _ countable call.operation _ _ call.convention
      (fun order generation mints => ?_) outcome view run reports
    have fits := route_mint_fits _ _ _ order generation (dispatch_routes _ _ _ takes.passes.dispatched) mints
    have size : UInt64.size = 18446744073709551616 := rfl
    omega

theorem fourth_piece_told :
    (Sample.settled Sample.minting).succeeds ∧ ∃ record transaction settlement,
      (Sample.settled Sample.minting).record = some (record, transaction) ∧
        (Sample.settled Sample.minting).result = .ok settlement ∧
        record.receipt.serials = [4] ∧ record.receipt.newTotalSupply = some 3 ∧
        settlement.output = some (encode [.int32, .uint64, .array .int64]
          (Status.success.number, (3 : UInt64), ([4] : List Int64), ())) := by
  have done : (Sample.settled Sample.minting).succeeds := by decide +kernel
  obtain ⟨call, record, transaction, settlement, output, dispatched, recorded, result, returned, told⟩ :=
    supplies_told_thrice {} Sample.market .empty (Sample.host Sample.ledger) Sample.frame Sample.minting
      (by decide +kernel) Sample.ledger rfl Sample.ledger_well_kept.countable (Sample.settled Sample.minting) rfl done
  have asked : dispatch ((Service.native {} Sample.market .empty).setting (Sample.host Sample.ledger) Sample.frame
      { ledger := Sample.ledger }) Sample.minting =
      .ok (some ⟨(ServiceFunction.mintToken .signed).selector, .mint ⟨Sample.art, 0, [[7]]⟩ .second, .direct⟩) := by
    decide +kernel
  cases asked.symm.trans dispatched
  obtain ⟨before, after, word, serials, supply, new, rfl, total⟩ := told
  obtain rfl := Option.some.inj supply.found
  have three : after.totalSupply = 3 := Int64.toInt_inj.mp supply.sum
  have four : serials = [4] := List.map_inj_right (fun _ _ => Int64.toInt_inj.mp) |>.mp new.run
  rw [three] at total
  obtain rfl : word = 3 := UInt64.toNat_inj.mp (Int.ofNat_inj.mp total)
  rw [four] at returned
  exact ⟨done, record, transaction, settlement, recorded, result, new.recorded.trans four,
    supply.recorded.trans (congrArg some three), returned⟩

end TokenService
