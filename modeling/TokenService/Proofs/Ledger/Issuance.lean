import TokenService.Proofs.Ledger.Conservation
import TokenService.Proofs.Ledger.Definitions

set_option autoImplicit false

namespace TokenService

def Ledger.supply (ledger : Ledger) (id : TokenId) : Int :=
  ((ledger.tokens.get? id).map fun token => token.totalSupply.toInt).getD 0

-- What a body issues of a fungible token; what it takes back counts below zero.
def Body.issued (ledger : Ledger) (id : TokenId) : Body → Int
  | .mint order => if order.token = id then order.amount.toInt else 0
  | .burn order => if order.token = id then -order.amount.toInt else 0
  | .wipe order => if order.token = id then -order.amount.toInt else 0
  | .create order => if (ledger.tokens.get? id).isNone then order.initialSupply.toInt else 0
  | _ => 0

inductive Issues (ledger : Ledger) (body : Body) (id : TokenId) (row : Token) : Prop
  | more (token : Token)
      (found : ledger.tokens.get? id = some token)
      (live : token.deleted = false)
      (fungible : token.type = .fungible)
      (supplied : row.totalSupply.toInt = token.totalSupply.toInt + body.issued ledger id)
  | anew (absent : ledger.tokens.get? id = none)
      (unheld : ledger.unitsHeld id = 0)
      (supplied : row.totalSupply.toInt = body.issued ledger id)

theorem minted_amount (token : Token) (order : Mint) (now : Timestamp) (minted last : Int64) (before after : View)
    (items : Minted token order now minted last before after) (fungible : token.type = .fungible) :
    minted = order.amount := by
  cases items with
  | units => rfl
  | items nonFungible => cases fungible.symm.trans nonFungible

theorem taken_amount (token : Token) (holder : AccountId) (amount removed : Int64) (serials : List Int64)
    (before after : View) (items : Taken token holder amount serials removed before after)
    (fungible : token.type = .fungible) : removed = amount := by
  cases items with
  | units => rfl
  | items nonFungible => cases fungible.symm.trans nonFungible

section Bodies

variable (sender : AccountId) (now : Timestamp) (ledger : Ledger) (after : View) (id : TokenId) (row : Token)
  (live : row.deleted = false) (fungible : row.type = .fungible)

include live fungible

theorem kept_issues (body : Body) (found : ledger.tokens.get? id = some row) (none : body.issued ledger id = 0) :
    Issues ledger body id row :=
  .more row found live fungible (by rw [none, Int.add_zero])

variable (found : after.token id = some row)

include found

theorem rewritten_issues (body : Body) (about : TokenId) (token heir : Token) (change : Int)
    (existing : (View.mk ledger {}).Exists about token) (own : heir.id = token.id) (type : heir.type = token.type)
    (deleted : heir.deleted = token.deleted)
    (sum : token.type = .fungible → heir.totalSupply.toInt = token.totalSupply.toInt + change)
    (rows : after.token id = if id = heir.id then some heir else ledger.tokens.get? id)
    (issued : body.issued ledger id = if about = id then change else 0) : Issues ledger body id row := by
  rw [rows, own, existing.own] at found
  by_cases same : id = about
  · rw [if_pos same] at found
    cases found
    rw [type] at fungible
    refine .more token (same ▸ existing.found) (deleted ▸ live) fungible ?_
    rw [issued, if_pos same.symm, sum fungible]
  · rw [if_neg same] at found
    exact kept_issues ledger id row live fungible body found (issued.trans (if_neg (Ne.symm same)))

theorem resupplied_issues (body : Body) (about : TokenId) (token : Token) (middle : View) (holder : AccountId)
    (held : Relationship) (supply last balance : Int64) (change : Int)
    (existing : (View.mk ledger {}).Exists about token) (alike : (View.mk ledger {}).AlikeButNfts middle)
    (made : after = middle.resupplied token holder held supply last balance)
    (sum : token.type = .fungible → supply.toInt = token.totalSupply.toInt + change)
    (issued : body.issued ledger id = if about = id then change else 0) : Issues ledger body id row := by
  refine rewritten_issues ledger after id row live fungible found body about token
    { token with totalSupply := supply, lastUsedSerial := last } change existing rfl rfl rfl sum ?_ issued
  rw [made, View.token_resupplied, alike.token]
  rfl

theorem created_issues (numbered : ledger.Numbered ledger.nextEntity.toNat) (order : Creation)
    (does : (Deed.create order).Does sender now { ledger := ledger } after) :
    Issues ledger (.create order) id row := by
  cases does with
  | create treasury number reserved lives fresh =>
      rw [View.token_put_relationship, View.token_put_token, View.token_reserving] at found
      by_cases same : id = (Work.created order ⟨order.treasury.shard, order.treasury.realm, number⟩ now).id
      · -- The new token takes the first number that no row uses.
        have free : (View.mk ledger {}).limit ≤ id.num.toNat := by
          rw [same]
          exact Nat.le_of_eq fresh.symm
        have below : (View.mk ledger {}).merged.Numbered (View.mk ledger {}).limit := by
          rwa [View.fresh_merged, View.fresh_limit]
        have absent : ledger.tokens.get? id = none := View.unknown_token _ _ below id free
        have unheld := fresh_units_held _ _ below id free
        rw [View.fresh_merged] at unheld
        rw [if_pos same] at found
        cases found
        refine .anew absent unheld ?_
        rw [Body.issued, if_pos (Option.isNone_iff_eq_none.mpr absent)]
        rfl
      · rw [if_neg same] at found
        refine kept_issues ledger id row live fungible _ found ?_
        rw [Body.issued, show ledger.tokens.get? id = some row from found]
        rfl

theorem body_issues (numbered : ledger.Numbered ledger.nextEntity.toNat) (body : Body)
    (done : Deeds sender now body.deeds { ledger := ledger } after) : Issues ledger body id row := by
  have quiet (still : body.definesToken = false) (none : body.issued ledger id = 0) : Issues ledger body id row :=
    kept_issues ledger id row live fungible body
      ((quiet_token_rows sender now _ _ _ (quiet_deeds body still) done id).symm.trans found) none
  cases body with
  | mint order =>
      cases Deeds.of_single _ _ _ done with
      | mint token held minted last supply balance usable _ items supplied =>
          refine resupplied_issues ledger _ id row live fungible found _ order.token token _ _ held supply last balance
            order.amount.toInt usable.toExists (minted_alike _ _ _ _ _ _ _ items) rfl (fun units => ?_) rfl
          rw [← minted_amount _ _ _ _ _ _ _ items units]
          exact supplied.sum
  | burn order =>
      cases Deeds.of_single _ _ _ done with
      | burn token held removed supply balance usable _ items supplied =>
          refine resupplied_issues ledger _ id row live fungible found _ order.token token _ _ held supply _ balance
            (-order.amount.toInt) usable.toExists (taken_alike _ _ _ _ _ _ _ items) rfl (fun units => ?_) rfl
          rw [← taken_amount _ _ _ _ _ _ _ items units]
          exact supplied.sum
  | wipe order =>
      cases Deeds.of_single _ _ _ done with
      | wipe token account held removed supply balance usable lives apart _ items supplied =>
          refine resupplied_issues ledger _ id row live fungible found _ order.token token _ _ held supply _ balance
            (-order.amount.toInt) usable.toExists (taken_alike _ _ _ _ _ _ _ items) rfl (fun units => ?_) rfl
          rw [← taken_amount _ _ _ _ _ _ _ items units]
          exact supplied.sum
  | pause about =>
      cases Deeds.of_single _ _ _ done with
      | setPaused token existing =>
          exact rewritten_issues ledger _ id row live fungible found _ about token { token with paused := true } 0
            existing rfl rfl rfl (fun _ => (Int.add_zero _).symm) (View.token_put_token _ _ _) (ite_self _).symm
  | unpause about =>
      cases Deeds.of_single _ _ _ done with
      | setPaused token existing =>
          exact rewritten_issues ledger _ id row live fungible found _ about token { token with paused := false } 0
            existing rfl rfl rfl (fun _ => (Int.add_zero _).symm) (View.token_put_token _ _ _) (ite_self _).symm
  | update order =>
      cases Deeds.of_single _ _ _ done with
      | @update _ _ middle token usable handover =>
          refine rewritten_issues ledger _ id row live fungible found _ order.token token (Work.revised order token) 0
            usable.toExists rfl rfl rfl (fun _ => (Int.add_zero _).symm) ?_ (ite_self _).symm
          rw [View.token_put_token, handover_tokens _ _ _ _ handover]
          rfl
  | create order =>
      exact created_issues sender now ledger after id row live fungible found numbered order
        (Deeds.of_single _ _ _ done)
  | associate | dissociate | transfer | approve | revoke | queryToken | queryNft => exact quiet rfl rfl

-- What a body issues of a live fungible token is how much more its holders together have, and how
-- much larger its supply is.
theorem body_supplies (rooted : ledger.Rooted) (numbered : ledger.Numbered ledger.nextEntity.toNat) (config : Config)
    (body : Body) (wellFormed : body.check config = .ok ())
    (done : Deeds sender now body.deeds { ledger := ledger } after) :
    after.merged.unitsHeld id - ledger.unitsHeld id = body.issued ledger id ∧
      row.totalSupply.toInt - ledger.supply id = body.issued ledger id := by
  have level := body_surplus sender now config body wellFormed { ledger := ledger } after
    (by rwa [View.fresh_merged]) (by rwa [View.fresh_merged, View.fresh_limit]) done id
  rw [View.fresh_merged] at level
  have later : after.merged.outstanding id = some row.totalSupply.toInt := by
    rw [outstanding_view, found, Option.map_some, Option.getD_some, Token.outstanding, if_pos ⟨live, fungible⟩]
  simp only [Ledger.surplus, later] at level
  cases body_issues sender now ledger after id row live fungible found numbered body done with
  | more token held alive units supplied =>
      have earlier : ledger.outstanding id = some token.totalSupply.toInt := by
        rw [Ledger.outstanding, held, Option.map_some, Option.getD_some, Token.outstanding, if_pos ⟨alive, units⟩]
      have supply : ledger.supply id = token.totalSupply.toInt := by
        rw [Ledger.supply, held]
        rfl
      simp only [earlier] at level
      omega
  | anew absent unheld supplied =>
      have earlier : ledger.outstanding id = none := by
        rw [Ledger.outstanding, absent]
        rfl
      have supply : ledger.supply id = 0 := by
        rw [Ledger.supply, absent]
        rfl
      simp only [earlier] at level
      omega

end Bodies

end TokenService
