import TokenService.Proofs.Facade.Simulation

set_option autoImplicit false

namespace TokenService.Erc721

-- The operators are those of every owner for every token, of which the token knows its own.
@[ext] structure State where
  token : TokenId
  owner : Int → Option AccountId
  spender : Int → Option AccountId
  operators : AccountId → Delegate → Bool

namespace State

def operator (state : State) (owner operator : AccountId) : Bool := state.operators owner ⟨state.token, operator⟩

def lent (state : State) (serial : Int) (spender : Option AccountId) : State :=
  { state with spender := fun other => if other = serial then spender else state.spender other }

def handed (state : State) (serial : Int) (receiver : AccountId) : State :=
  { state.lent serial none with
    owner := fun other => if other = serial then some receiver else state.owner other }

def operating (state : State) (owner operator : AccountId) (approved : Bool) : State :=
  { state with
    operators := fun account delegate =>
      if account = owner ∧ delegate = ⟨state.token, operator⟩ then approved else state.operators account delegate }

structure Sound (state : State) : Prop where
  owned : ∀ serial, state.owner serial ≠ some .zero

end State

inductive Event where
  | transferFrom (sender source receiver : AccountId) (serial : Nat)
  | approve (sender : AccountId) (spender : Option AccountId) (serial : Nat)
  | setApprovalForAll (owner operator : AccountId) (approved : Bool)
  | ownerOf (serial : Nat)
  | getApproved (serial : Nat)
  | isApprovedForAll (owner operator : AccountId)
  | idle
  deriving DecidableEq

inductive Answer where
  | account (account : Option AccountId)
  | verdict (verdict : Bool)

namespace Event

-- The owner moves a serial, its spender does, or an operator of the owner; the owner lends it, or an
-- operator.
inductive Does : Event → State → State → Prop
  | transferFrom {sender source receiver : AccountId} {serial : Nat} {before : State}
      (owned : before.owner serial = some source)
      (entitled : source = sender ∨ before.spender serial = some sender ∨ before.operator source sender = true)
      (named : receiver ≠ .zero) :
      Does (.transferFrom sender source receiver serial) before (before.handed serial receiver)
  | approve {sender owner : AccountId} {spender : Option AccountId} {serial : Nat} {before : State}
      (owned : before.owner serial = some owner)
      (entitled : owner = sender ∨ before.operator owner sender = true) :
      Does (.approve sender spender serial) before (before.lent serial spender)
  | setApprovalForAll {owner operator : AccountId} {approved : Bool} {before : State} :
      Does (.setApprovalForAll owner operator approved) before (before.operating owner operator approved)
  | ownerOf {serial : Nat} {state : State} : Does (.ownerOf serial) state state
  | getApproved {serial : Nat} {state : State} : Does (.getApproved serial) state state
  | isApprovedForAll {owner operator : AccountId} {state : State} : Does (.isApprovedForAll owner operator) state state
  | idle {state : State} : Does .idle state state

def answer (state : State) : Event → Option Answer
  | .ownerOf serial => some (.account (state.owner serial))
  | .getApproved serial => some (.account (state.spender serial))
  | .isApprovedForAll owner operator => some (.verdict (state.operator owner operator))
  | _ => none

theorem does_sound (event : Event) (before after : State) (does : event.Does before after) (sound : before.Sound) :
    after.Sound := by
  cases does with
  | @transferFrom _ _ receiver serial _ owned entitled named =>
      refine ⟨fun other nobody => ?_⟩
      by_cases same : other = serial
      · exact named (Option.some.inj ((if_pos same).symm.trans nobody))
      · exact sound.owned other ((if_neg same).symm.trans nobody)
  | approve | setApprovalForAll => exact ⟨sound.owned⟩
  | ownerOf | getApproved | isApprovedForAll | idle => exact sound

theorem does_drops_spender (serial : Nat) (event : Event) (before after : State) (does : event.Does before after)
    (kept : ∀ sender spender, event ≠ .approve sender (some spender) serial) :
    (after.owner serial = before.owner serial ∧ after.spender serial = before.spender serial) ∨
      after.spender serial = none := by
  cases does with
  | @transferFrom _ _ _ other =>
      by_cases same : (serial : Int) = other
      · exact .inr (if_pos same)
      · exact .inl ⟨if_neg same, if_neg same⟩
  | @approve sender _ spender other =>
      by_cases same : (serial : Int) = other
      · right
        cases Int.ofNat_inj.mp same
        cases spender with
        | none => exact if_pos rfl
        | some account => exact absurd rfl (kept sender account)
      · exact .inl ⟨rfl, if_neg same⟩
  | setApprovalForAll | ownerOf | getApproved | isApprovedForAll | idle => exact .inl ⟨rfl, rfl⟩

end Event

theorem run_drops_spender (serial : Nat) (events : List Event) (before after : State)
    (run : Run Event.Does events before after)
    (kept : ∀ event ∈ events, ∀ sender spender, event ≠ .approve sender (some spender) serial) :
    (after.owner serial = before.owner serial ∧ after.spender serial = before.spender serial) ∨
      after.spender serial = none := by
  induction run with
  | nil state => exact .inl ⟨rfl, rfl⟩
  | @cons event rest before middle after first others ih =>
      have step := Event.does_drops_spender serial event _ _ first (kept event List.mem_cons_self)
      rcases ih fun other member => kept other (List.mem_cons_of_mem _ member) with ⟨owner, spender⟩ | gone
      -- What the rest leaves alone is as the first event left it.
      · rw [owner, spender]
        exact step
      · exact .inr gone

end TokenService.Erc721
