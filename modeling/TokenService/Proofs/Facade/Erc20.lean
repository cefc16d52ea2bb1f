import TokenService.Proofs.Facade.Simulation

set_option autoImplicit false

namespace TokenService.Erc20

@[ext] structure State where
  balance : AccountId → Int
  allowance : AccountId → AccountId → Int
  supply : Int

namespace State

def credited (state : State) (account : AccountId) (amount : Int) : State :=
  { state with
    balance := fun other => if other = account then state.balance other + amount else state.balance other }

def moved (state : State) (source receiver : AccountId) (amount : Int) : State :=
  (state.credited source (-amount)).credited receiver amount

def allowing (state : State) (owner spender : AccountId) (amount : Int) : State :=
  { state with
    allowance := fun account other =>
      if account = owner ∧ other = spender then amount else state.allowance account other }

theorem allowing_same (state : State) (owner spender : AccountId) :
    state.allowing owner spender (state.allowance owner spender) = state := by
  refine State.ext rfl (funext fun account => funext fun other => ?_) rfl
  by_cases same : account = owner ∧ other = spender
  · obtain ⟨rfl, rfl⟩ := same
    exact if_pos ⟨rfl, rfl⟩
  · exact if_neg same

structure Sound (state : State) : Prop where
  balance : ∀ account, 0 ≤ state.balance account
  allowance : ∀ owner spender, 0 ≤ state.allowance owner spender

end State

inductive Event where
  | transfer (sender receiver : AccountId) (amount : Nat)
  | transferFrom (sender source receiver : AccountId) (amount : Nat)
  | approve (owner spender : AccountId) (amount : Nat)
  | balanceOf (account : AccountId)
  | allowance (owner spender : AccountId)
  | totalSupply
  | idle
  deriving DecidableEq

namespace Event

-- Only the owner moves units without an allowance.
inductive Does : Event → State → State → Prop
  | transfer {sender receiver : AccountId} {amount : Nat} {before : State}
      (covered : amount ≤ before.balance sender) :
      Does (.transfer sender receiver amount) before (before.moved sender receiver amount)
  | transferOwn {source receiver : AccountId} {amount : Nat} {before : State}
      (covered : amount ≤ before.balance source) :
      Does (.transferFrom source source receiver amount) before (before.moved source receiver amount)
  | transferFrom {sender source receiver : AccountId} {amount : Nat} {before : State}
      (apart : source ≠ sender)
      (covered : amount ≤ before.balance source)
      (allowed : amount ≤ before.allowance source sender) :
      Does (.transferFrom sender source receiver amount) before
        ((before.moved source receiver amount).allowing source sender (before.allowance source sender - amount))
  | approve {owner spender : AccountId} {amount : Nat} {before : State} :
      Does (.approve owner spender amount) before (before.allowing owner spender amount)
  | balanceOf {account : AccountId} {state : State} : Does (.balanceOf account) state state
  | allowance {owner spender : AccountId} {state : State} : Does (.allowance owner spender) state state
  | totalSupply {state : State} : Does .totalSupply state state
  | idle {state : State} : Does .idle state state

def answer (state : State) : Event → Option Int
  | .balanceOf account => some (state.balance account)
  | .allowance owner spender => some (state.allowance owner spender)
  | .totalSupply => some state.supply
  | _ => none

def withdrawn (owner spender : AccountId) : Event → Nat
  | .transferFrom sender source _ amount => if sender = spender ∧ source = owner then amount else 0
  | _ => 0

theorem moved_sound (state : State) (sound : state.Sound) (source receiver : AccountId) (amount : Nat)
    (covered : amount ≤ state.balance source) : (state.moved source receiver amount).Sound := by
  refine ⟨fun account => ?_, sound.allowance⟩
  have nonneg := sound.balance account
  simp only [State.moved, State.credited]
  split
  · split
    · omega
    · omega
  · split
    · rename_i same
      subst same
      omega
    · exact nonneg

theorem allowing_sound (state : State) (sound : state.Sound) (owner spender : AccountId) (amount : Int)
    (floor : 0 ≤ amount) : (state.allowing owner spender amount).Sound := by
  refine ⟨sound.balance, fun account other => ?_⟩
  simp only [State.allowing]
  split
  · exact floor
  · exact sound.allowance account other

theorem does_sound (event : Event) (before after : State) (does : event.Does before after) (sound : before.Sound) :
    after.Sound := by
  cases does with
  | transfer covered => exact moved_sound _ sound _ _ _ covered
  | transferOwn covered => exact moved_sound _ sound _ _ _ covered
  | transferFrom apart covered allowed =>
      exact allowing_sound _ (moved_sound _ sound _ _ _ covered) _ _ _ (by omega)
  | approve => exact allowing_sound _ sound _ _ _ (by omega)
  | balanceOf | allowance | totalSupply | idle => exact sound

theorem does_withdraws (owner spender : AccountId) (apart : spender ≠ owner) (event : Event) (before after : State)
    (does : event.Does before after) (kept : ∀ amount, event ≠ .approve owner spender amount) :
    after.allowance owner spender + event.withdrawn owner spender = before.allowance owner spender := by
  cases does with
  | transfer covered => exact Int.add_zero _
  | @transferOwn source receiver amount _ covered =>
      have none : ¬ (source = spender ∧ source = owner) := fun same => apart (same.1.symm.trans same.2)
      rw [withdrawn, if_neg none]
      exact Int.add_zero _
  | @transferFrom sender source receiver amount _ other covered allowed =>
      simp only [State.allowing, withdrawn]
      by_cases same : sender = spender ∧ source = owner
      · obtain ⟨rfl, rfl⟩ := same
        rw [if_pos ⟨rfl, rfl⟩, if_pos ⟨rfl, rfl⟩]
        omega
      · rw [if_neg fun again => same ⟨again.2.symm, again.1.symm⟩, if_neg same]
        exact Int.add_zero _
  | @approve account other amount =>
      simp only [State.allowing, withdrawn]
      rw [if_neg fun same => kept amount (by rw [same.1, same.2])]
      exact Int.add_zero _
  | balanceOf | allowance | totalSupply | idle => exact Int.add_zero _

end Event

def withdrawn (owner spender : AccountId) : List Event → Nat
  | [] => 0
  | event :: rest => event.withdrawn owner spender + withdrawn owner spender rest

theorem run_withdraws (owner spender : AccountId) (apart : spender ≠ owner) (events : List Event)
    (before after : State) (run : Run Event.Does events before after)
    (kept : ∀ event ∈ events, ∀ amount, event ≠ .approve owner spender amount) :
    after.allowance owner spender + withdrawn owner spender events = before.allowance owner spender := by
  induction run with
  | nil state => exact Int.add_zero _
  | @cons event rest before middle after first others ih =>
      have step := Event.does_withdraws owner spender apart event _ _ first (kept event List.mem_cons_self)
      have later := ih fun other member => kept other (List.mem_cons_of_mem _ member)
      rw [withdrawn]
      omega

end TokenService.Erc20
