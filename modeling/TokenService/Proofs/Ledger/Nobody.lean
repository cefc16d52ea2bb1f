import TokenService.Proofs.Ledger.Alike
import TokenService.Proofs.Ledger.Execution

set_option autoImplicit false

namespace TokenService

def Body.names (id : TokenId) (serial : Int64) : Body → Prop
  | .burn order => order.token = id ∧ serial ∈ order.serials
  | .transfer _ tokens => ∃ moves ∈ tokens, moves.token = id ∧ ∃ move ∈ moves.nftMoves, move.serial = serial
  | .approve _ _ nfts => ∃ grant ∈ nfts, grant.token = id ∧ serial ∈ grant.serials
  | _ => False

def Body.deals : Body → Bool
  | .burn _ | .transfer _ _ | .approve _ _ _ | .revoke _ => true
  | _ => false

def Deed.names (id : TokenId) (serial : Int64) : Deed → Prop
  | .moveNft token move => token = id ∧ move.serial = serial
  | .lendNft token _ _ other => token = id ∧ other = serial
  | _ => False

theorem Nft.holder_of_twin (row : Nft) (token : Token) (nobody : row.owner = .zero) :
    ({ row with owner := token.treasury } : Nft).holder token = row.holder token := by
  rw [holder_of_nobody row token nobody]
  exact ite_self _

namespace Work

section Rules

variable {id : TokenId} {treasury : AccountId} {agreed : Int64 → Prop}

def Faithful (id : TokenId) (treasury : AccountId) (key : TokenId) (row : Token) : Prop :=
  row.id = key ∧ (row.id = id → row.treasury = treasury)

-- What rules do to accounts, relationships and single rows of serials does not tell the two apart.
theorem matched_carried : Carries (Faithful id treasury) fun _ => Alike (View.Matched id treasury agreed) where
  toComposes := alike_composes _
  token key _ rest :=
    alike_read_bind _ _ _ _ (fun _ _ matched => View.twins_usable matched.toTwins key)
      (fun _ _ token matched found => View.matched_usable matched key token found) rest
  live account := alike_read _ _ fun _ _ matched => View.twins_live matched.toTwins account
  present account token := alike_read _ _ fun _ _ matched => View.twins_present matched.toTwins account token
  trades account token := alike_read _ _ fun _ _ matched => View.twins_trades matched.toTwins account token
  putAccount row := alike_change _ _ fun _ _ matched => View.matched_put_account matched row
  putRelationship account token row :=
    alike_change _ _ fun _ _ matched => View.matched_put_relationship matched account token row
  putNft row := alike_change _ _ fun _ _ matched => View.matched_put_nft matched row

theorem alike_nft (token : TokenId) (serial : Int64) (sure : token = id → agreed serial) :
    (read fun view => View.demand (view.nft ⟨token, serial⟩) .invalidNftId).Alike
      (View.Matched id treasury agreed) := by
  refine alike_read _ _ fun _ _ matched => ?_
  rw [View.matched_nft matched ⟨token, serial⟩ sure]

theorem remove_owned_alike (token : TokenId) (holder : AccountId) (serial : Int64)
    (sure : token = id → agreed serial) :
    (removeOwned token holder serial).Alike (View.Matched id treasury agreed) := by
  refine alike_checked _ _ _ _ (fun _ _ matched => ?_) fun _ _ matched => View.matched_remove_nft matched _
  rw [View.matched_nft matched ⟨token, serial⟩ sure]

theorem burn_alike (order : Burn) (sure : ∀ serial ∈ order.serials, order.token = id → agreed serial) :
    (burn order).Alike (View.Matched id treasury agreed) := by
  refine Carries.token matched_carried _ _ fun token ⟨own, held⟩ => ?_
  refine alike_bind _ _ _ (Carries.present matched_carried _ _) fun relationship => ?_
  refine alike_bind _ _ _ ((alike_composes _).retire_items _ _ _ _ _ fun serial member => ?_) fun removed => ?_
  · refine remove_owned_alike token.id token.treasury serial ?_
    rw [own]
    exact sure serial member
  refine alike_bind _ _ _ ((alike_composes _).exact _) fun loss => ?_
  refine alike_bind _ _ _ ((alike_composes _).adjusted _ _ _) fun balance => ?_
  refine alike_bind _ _ _ ((alike_composes _).adjusted _ _ _) fun supply => ?_
  refine alike_bind _ _ _ (Carries.putRelationship matched_carried _ _ _) fun _ => ?_
  exact alike_bind _ _ _ (alike_change _ _ fun _ _ matched => View.matched_put_token matched _ held) fun _ =>
    alike_pure _ _

theorem transfer_alike (hbar : List Adjustment) (tokens : List TokenMoves) (spender : AccountId)
    (sure : ∀ moves ∈ tokens, ∀ move ∈ moves.nftMoves, moves.token = id → agreed move.serial) :
    (transfer hbar tokens spender).Alike (View.Matched id treasury agreed) := by
  refine Carries.transfer matched_carried hbar tokens spender fun moves listed row ⟨own, _⟩ move member => ?_
  refine alike_nft row.id move.serial ?_
  rw [own]
  exact sure moves listed move member

theorem approve_alike (hbar : List HbarGrant) (units : List UnitGrant) (nfts : List NftGrant)
    (sure : ∀ grant ∈ nfts, ∀ serial ∈ grant.serials, grant.token = id → agreed serial) :
    (approve hbar units nfts).Alike (View.Matched id treasury agreed) := by
  refine Carries.approve matched_carried hbar units nfts fun grant listed row ⟨own, _⟩ serial member => ?_
  refine alike_nft row.id serial ?_
  rw [own]
  exact sure grant listed serial member

theorem clear_spender_run (token : Token) (owner : AccountId) (serial : Int64) (view : View) :
    clearSpender token owner serial view = match view.nft ⟨token.id, serial⟩ with
      | none => (.error (.status .invalidNftId), view)
      | some nft =>
          if nft.holder token == owner then (.ok (), view.putNft { nft with spender := none })
          else (.error (.status .senderDoesNotOwnNftSerialNo), view) := by
  rw [clearSpender, run_bind, read_run]
  cases view.nft ⟨token.id, serial⟩ with
  | none => rfl
  | some nft =>
      cases held : nft.holder token == owner <;> simp only [View.demand, run_bind, held] <;> rfl

theorem clear_spender_alike (token : Token) (owner : AccountId) (serial : Int64)
    (held : token.id = id → token.treasury = treasury) :
    (clearSpender token owner serial).Alike (View.Matched id treasury fun _ => False) := by
  intro left right matched
  rw [clear_spender_run, clear_spender_run]
  rcases matched.nfts ⟨token.id, serial⟩ with same | ⟨about, row, nobody, found, other⟩
  · rw [← same]
    cases left.nft ⟨token.id, serial⟩ with
    | none => exact ⟨rfl, matched⟩
    | some nft =>
        dsimp only
        split
        · exact ⟨rfl, View.matched_put_nft matched _⟩
        · exact ⟨rfl, matched⟩
  · obtain rfl := held about
    have own : row.id.token = id := (congrArg NftId.token (matched.placed _ row found)).trans about
    rw [found, other]
    dsimp only
    rw [Nft.holder_of_twin row token nobody]
    split
    · exact ⟨rfl, View.matched_put_nfts matched _ _ rfl (.inr ⟨own, not_false, nobody, rfl⟩)⟩
    · exact ⟨rfl, matched⟩

theorem revoke_alike (payer : AccountId) (revocations : List NftRevocation) :
    (revoke payer revocations).Alike (View.Matched id treasury fun _ => False) :=
  Carries.revoke matched_carried payer revocations fun revocation _ row ⟨_, held⟩ serial =>
    clear_spender_alike row revocation.owner serial held

theorem execute_alike (body : Body) (sender : AccountId) (now : Timestamp) (deals : body.deals = true) :
    (execute body sender now).Alike (View.Matched id treasury fun serial => body.names id serial) := by
  cases body with
  | burn order => exact burn_alike order fun serial member about => ⟨about, member⟩
  | transfer hbar tokens =>
      refine alike_bind _ _ _ (transfer_alike hbar tokens sender ?_) fun _ => alike_pure _ _
      exact fun moves listed move member about => ⟨moves, listed, about, move, member, rfl⟩
  | approve hbar units nfts =>
      refine alike_bind _ _ _ (approve_alike hbar units nfts ?_) fun _ => alike_pure _ _
      exact fun grant listed serial member about => ⟨grant, listed, about, member⟩
  | revoke revocations => exact alike_bind _ _ _ (revoke_alike sender revocations) fun _ => alike_pure _ _
  | _ => cases deals

end Rules

end Work

section Owners

variable (sender : AccountId) (now : Timestamp) (id : TokenId) (serial : Int64)

theorem named_owner (deed : Deed) (named : deed.names id serial) (left leftAfter right rightAfter : View)
    (here : deed.Does sender now left leftAfter) (there : deed.Does sender now right rightAfter) :
    (left.nft ⟨id, serial⟩).map Nft.owner = (right.nft ⟨id, serial⟩).map Nft.owner := by
  cases here with
  | moveNft _ nft _ _ _ _ _ _ _ found own owned =>
      obtain ⟨rfl, rfl⟩ := named
      cases there with
      | moveNft _ other _ _ _ _ _ _ _ also own' owned' =>
          rw [found, also, Option.map_some, Option.map_some, owned, owned']
  | lendNft nft found own owned =>
      obtain ⟨rfl, rfl⟩ := named
      cases there with
      | lendNft other also own' owned' => rw [found, also, Option.map_some, Option.map_some, owned, owned']
  | _ => cases named

theorem put_keeps_owner (view : View) (nft : NftId) (row old : Nft) (found : view.nft row.id = some old)
    (same : nft = row.id → row.owner = old.owner) :
    ((view.putNft row).nft nft).map Nft.owner = (view.nft nft).map Nft.owner := by
  rw [View.nft_put_nft]
  by_cases here : nft = row.id
  · rw [if_pos here, here, found, Option.map_some, Option.map_some, same here]
  · rw [if_neg here]

theorem unnamed_owner (deed : Deed) (quiet : deed.definesToken = false) (unnamed : ¬ deed.names id serial)
    (before after : View) (does : deed.Does sender now before after) :
    (after.nft ⟨id, serial⟩).map Nft.owner = (before.nft ⟨id, serial⟩).map Nft.owner := by
  cases does with
  | moveNft _ nft _ _ _ _ _ _ _ found own =>
      refine put_keeps_owner _ _ _ nft (own ▸ found) fun same => ?_
      cases same.trans own
      exact absurd ⟨rfl, rfl⟩ unnamed
  | lendNft nft found own owned => exact put_keeps_owner _ _ _ nft (own ▸ found) fun _ => rfl
  | clearSpender _ nft _ _ found own => exact put_keeps_owner _ _ _ nft (own ▸ found) fun _ => rfl
  | associate | dissociate | adjustHbar | adjustUnits | drawUnits | grantHbar | grantUnits | setOperator => rfl
  | mint | burn | wipe | setPaused | create | update => cases quiet

theorem deeds_agree (deeds : List Deed) (quiet : ∀ deed ∈ deeds, deed.definesToken = false)
    (named : ∃ deed ∈ deeds, deed.names id serial) (left leftAfter right rightAfter : View)
    (here : Deeds sender now deeds left leftAfter) (there : Deeds sender now deeds right rightAfter) :
    (left.nft ⟨id, serial⟩).map Nft.owner = (right.nft ⟨id, serial⟩).map Nft.owner := by
  induction deeds generalizing left right with
  | nil =>
      obtain ⟨deed, member, _⟩ := named
      cases member
  | cons deed rest ih =>
      cases here with
      | cons does others =>
          cases there with
          | cons does' others' =>
              by_cases this : deed.names id serial
              · exact named_owner sender now id serial deed this _ _ _ _ does does'
              · have first := quiet deed List.mem_cons_self
                rw [← unnamed_owner sender now id serial deed first this _ _ does,
                  ← unnamed_owner sender now id serial deed first this _ _ does']
                refine ih (fun other member => quiet other (List.mem_cons_of_mem _ member)) ?_ _ _ others others'
                obtain ⟨other, member, about⟩ := named
                refine ⟨other, (List.mem_cons.mp member).resolve_left ?_, about⟩
                rintro rfl
                exact this about

theorem removed_owner (token : TokenId) (holder : AccountId) (serials : List Int64) (before after : View)
    (removed : Removed token holder serials before after) (member : serial ∈ serials) :
    (before.nft ⟨token, serial⟩).map Nft.owner = some holder := by
  induction removed with
  | nil view => cases member
  | @cons gone rest first after nft found owned others ih =>
      by_cases same : serial = gone
      · rw [same, found, Option.map_some, owned]
      · have apart : (⟨token, serial⟩ : NftId) ≠ ⟨token, gone⟩ := fun equal => same (congrArg NftId.serial equal)
        have later := ih ((List.mem_cons.mp member).resolve_left same)
        rwa [View.nft_remove_nft, if_neg apart] at later

theorem burnt_owner (order : Burn) (member : serial ∈ order.serials) (before after : View)
    (does : (Deed.burn order).Does sender now before after) :
    ∃ token, before.token order.token = some token ∧
      (before.nft ⟨order.token, serial⟩).map Nft.owner = some token.treasury := by
  cases does with
  | burn token held removed supply balance usable found items =>
      refine ⟨token, usable.found, ?_⟩
      cases items with
      | units view fungible bare =>
          rw [bare] at member
          cases member
      | items nonFungible removed =>
          rw [← usable.own]
          exact removed_owner serial _ _ _ _ _ removed member

theorem transfer_quiet (hbar : List Adjustment) (tokens : List TokenMoves) (deed : Deed)
    (member : deed ∈ (Body.transfer hbar tokens).deeds) : deed.definesToken = false := by
  simp only [Body.deeds, TokenMoves.deeds, List.mem_append, List.mem_map, List.mem_flatMap] at member
  rcases member with ⟨_, _, rfl⟩ | ⟨_, _, ⟨_, _, rfl⟩ | ⟨_, _, rfl⟩⟩ <;> rfl

theorem approve_quiet (hbar : List HbarGrant) (units : List UnitGrant) (nfts : List NftGrant) (deed : Deed)
    (member : deed ∈ (Body.approve hbar units nfts).deeds) : deed.definesToken = false := by
  simp only [Body.deeds, NftGrant.deeds, List.mem_append, List.mem_map, List.mem_flatMap, List.mem_singleton] at member
  rcases member with ⟨_, _, rfl⟩ | ⟨_, _, rfl⟩ | ⟨_, _, ⟨_, _, rfl⟩ | rfl⟩ <;> rfl

/-- A body that goes through on two views with the same tokens finds each serial that it names with one owner. -/
theorem executions_agree (body : Body) (deals : body.deals = true) (named : body.names id serial)
    (left leftAfter right rightAfter : View) (outcome other : Execution) (leftRooted : left.merged.Rooted)
    (rightRooted : right.merged.Rooted) (tokens : left.token = right.token)
    (here : (Work.execute body sender now).Yields left outcome leftAfter)
    (there : (Work.execute body sender now).Yields right other rightAfter) :
    (left.nft ⟨id, serial⟩).map Nft.owner = (right.nft ⟨id, serial⟩).map Nft.owner := by
  have first := Work.execute_deeds sender now body _ _ _ leftRooted here
  have second := Work.execute_deeds sender now body _ _ _ rightRooted there
  cases body with
  | burn order =>
      obtain ⟨rfl, member⟩ := named
      obtain ⟨token, found, owned⟩ := burnt_owner sender now serial order member _ _ (Deeds.of_single _ _ _ first)
      obtain ⟨token', found', owned'⟩ := burnt_owner sender now serial order member _ _ (Deeds.of_single _ _ _ second)
      rw [tokens] at found
      cases found.symm.trans found'
      rw [owned, owned']
  | transfer hbar tokens =>
      refine deeds_agree sender now id serial _ (transfer_quiet hbar tokens) ?_ _ _ _ _ first second
      obtain ⟨moves, listed, about, move, member, same⟩ := named
      have entry : Deed.moveNft moves.token move ∈ moves.deeds := List.mem_append_right _ (List.mem_map_of_mem member)
      exact ⟨_, List.mem_append_right _ (List.mem_flatMap.mpr ⟨moves, listed, entry⟩), about, same⟩
  | approve hbar units nfts =>
      refine deeds_agree sender now id serial _ (approve_quiet hbar units nfts) ?_ _ _ _ _ first second
      obtain ⟨grant, listed, about, member⟩ := named
      have entry : Deed.lendNft grant.token grant.owner grant.spender serial ∈ grant.deeds :=
        List.mem_append_left _ (List.mem_map_of_mem member)
      have granting := List.mem_flatMap.mpr ⟨grant, listed, entry⟩
      exact ⟨_, List.mem_append_right _ (List.mem_append_right _ granting), about, rfl⟩
  | revoke revocations => cases named
  | _ => cases deals

end Owners

end TokenService
