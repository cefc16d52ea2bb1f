import TokenService.Proofs.Settlement.Runs

set_option autoImplicit false

namespace TokenService

section Machines

variable {σ ε : Type}

inductive Run (Does : ε → σ → σ → Prop) : List ε → σ → σ → Prop
  | nil (state : σ) : Run Does [] state state
  | cons {event : ε} {rest : List ε} {before middle after : σ}
      (first : Does event before middle)
      (others : Run Does rest middle after) :
      Run Does (event :: rest) before after

def events (event : Call → Ledger → ε) : List Call → Ledger → List ε
  | [], _ => []
  | call :: rest, ledger => event call ledger :: events event rest (call.after ledger)

variable (look : Ledger → σ) (event : Call → Ledger → ε) (Does : ε → σ → σ → Prop) (Keep : Ledger → Prop)
  (calls : List Call)

theorem calls_run
    (step : ∀ call ∈ calls, ∀ ledger, Keep ledger →
      Does (event call ledger) (look ledger) (look (call.after ledger)) ∧ Keep (call.after ledger))
    (ledger : Ledger) (start : Keep ledger) :
    Keep (afterAll calls ledger) ∧
      Run Does (events event calls ledger) (look ledger) (look (afterAll calls ledger)) := by
  induction calls generalizing ledger with
  | nil => exact ⟨start, .nil _⟩
  | cons call rest ih =>
      obtain ⟨does, kept⟩ := step call List.mem_cons_self ledger start
      obtain ⟨held, run⟩ := ih (fun other member => step other (List.mem_cons_of_mem _ member)) _ kept
      exact ⟨held, .cons does run⟩

end Machines

end TokenService
