import TokenService.Proofs.Ledger.Frames
import TokenService.Proofs.Ledger.Isolation

set_option autoImplicit false

namespace TokenService

inductive Body.Defines (before : View) : Body → Token → Prop
  | mint (order : Mint) (token : Token) (supply last : Int64)
      (existing : before.Exists order.token token) :
      Defines before (.mint order) { token with totalSupply := supply, lastUsedSerial := last }
  | burn (order : Burn) (token : Token) (supply : Int64)
      (existing : before.Exists order.token token) :
      Defines before (.burn order) { token with totalSupply := supply }
  | wipe (order : Wipe) (token : Token) (supply : Int64)
      (existing : before.Exists order.token token) :
      Defines before (.wipe order) { token with totalSupply := supply }
  | pause (id : TokenId) (token : Token)
      (existing : before.Exists id token) :
      Defines before (.pause id) { token with paused := true }
  | unpause (id : TokenId) (token : Token)
      (existing : before.Exists id token) :
      Defines before (.unpause id) { token with paused := false }
  | create (order : Creation) (number : UInt64) (now : Timestamp)
      (fresh : number.toNat = before.limit) :
      Defines before (.create order) (Work.created order ⟨order.treasury.shard, order.treasury.realm, number⟩ now)
  | update (order : Update) (token : Token)
      (existing : before.Exists order.token token) :
      Defines before (.update order) (Work.revised order token)

def Body.definesToken : Body → Bool
  | .mint _ | .burn _ | .wipe _ | .pause _ | .unpause _ | .create _ | .update _ => true
  | _ => false

theorem quiet_deeds (body : Body) (quiet : body.definesToken = false) (deed : Deed) (member : deed ∈ body.deeds) :
    deed.definesToken = false := by
  cases body with
  | mint | burn | wipe | pause | unpause | create | update => cases quiet
  | associate association | dissociate association =>
      obtain ⟨_, _, rfl⟩ := List.mem_map.mp member
      rfl
  | transfer hbar tokens =>
      rcases transfer_deed _ _ _ member with ⟨_, _, rfl⟩ | ⟨_, _, _, _, rfl⟩ | ⟨_, _, _, _, rfl⟩ <;> rfl
  | approve hbar units nfts =>
      simp only [Body.deeds, NftGrant.deeds, List.mem_append, List.mem_map, List.mem_flatMap,
        List.mem_singleton] at member
      rcases member with ⟨_, _, rfl⟩ | ⟨_, _, rfl⟩ | ⟨_, _, ⟨_, _, rfl⟩ | rfl⟩ <;> rfl
  | revoke revocations =>
      obtain ⟨_, _, member⟩ := List.mem_flatMap.mp member
      obtain ⟨_, _, rfl⟩ := List.mem_map.mp member
      rfl
  | queryToken | queryNft => cases member

section Definitions

variable (sender : AccountId) (now : Timestamp) (before after : View)

theorem quiet_token_rows (deeds : List Deed) (quiet : ∀ deed ∈ deeds, deed.definesToken = false)
    (done : Deeds sender now deeds before after) (id : TokenId) : after.token id = before.token id :=
  Deeds.keeps (fun view => view.token id = before.token id) _ _ _
    (fun deed member first next does kept => (deed_token sender now deed first next (quiet deed member) does id).trans
      kept) done rfl

-- A body of many deeds leaves the rows of tokens alone, and one of a single deed writes at most
-- the row that it is about.
theorem body_token_rows (body : Body) (done : Deeds sender now body.deeds before after) :
    (∀ id, after.token id = before.token id) ∨
      ∃ row, body.Defines before row ∧ ∀ id, after.token id = if id = row.id then some row else before.token id := by
  have quiet (still : body.definesToken = false) : ∀ id, after.token id = before.token id :=
    quiet_token_rows sender now before after _ (quiet_deeds body still) done
  cases body with
  | mint order =>
      cases Deeds.of_single _ _ _ done with
      | mint token held minted last supply balance usable found items =>
          refine .inr ⟨_, .mint order token supply last usable.toExists, fun id => ?_⟩
          rw [View.token_resupplied, (minted_alike _ _ _ _ _ _ _ items).token]
  | burn order =>
      cases Deeds.of_single _ _ _ done with
      | burn token held removed supply balance usable found items =>
          refine .inr ⟨_, .burn order token supply usable.toExists, fun id => ?_⟩
          rw [View.token_resupplied, (taken_alike _ _ _ _ _ _ _ items).token]
  | wipe order =>
      cases Deeds.of_single _ _ _ done with
      | wipe token account held removed supply balance usable lives apart found items =>
          refine .inr ⟨_, .wipe order token supply usable.toExists, fun id => ?_⟩
          rw [View.token_resupplied, (taken_alike _ _ _ _ _ _ _ items).token]
  | pause id =>
      cases Deeds.of_single _ _ _ done with
      | setPaused token existing => exact .inr ⟨_, .pause id token existing, fun id => View.token_put_token _ _ _⟩
  | unpause id =>
      cases Deeds.of_single _ _ _ done with
      | setPaused token existing => exact .inr ⟨_, .unpause id token existing, fun id => View.token_put_token _ _ _⟩
  | create order =>
      cases Deeds.of_single _ _ _ done with
      | create treasury number reserved lives fresh =>
          refine .inr ⟨_, .create order number now fresh, fun id => ?_⟩
          rw [View.token_put_relationship, View.token_put_token, View.token_reserving]
  | update order =>
      cases Deeds.of_single _ _ _ done with
      | update token usable handover =>
          refine .inr ⟨_, .update order token usable.toExists, fun id => ?_⟩
          rw [View.token_put_token, handover_tokens _ _ _ _ handover]
  | associate | dissociate | transfer | approve | revoke | queryToken | queryNft => exact .inl (quiet rfl)

end Definitions

end TokenService
