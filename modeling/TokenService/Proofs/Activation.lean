import Mathlib.Data.List.Count
import TokenService.Authority

set_option autoImplicit false

namespace TokenService

namespace Key

mutual

def leaves : Key → List Key
  | .ed25519 bytes => [.ed25519 bytes]
  | .secp256k1 bytes => [.secp256k1 bytes]
  | .contract id => [.contract id]
  | .delegatable id => [.delegatable id]
  | .list keys => allLeaves keys
  | .threshold _ keys => allLeaves keys

def allLeaves : List Key → List Key
  | [] => []
  | key :: rest => leaves key ++ allLeaves rest

end

mutual

def replaceContracts (other : ContractId → Key) : Key → Key
  | .ed25519 bytes => .ed25519 bytes
  | .secp256k1 bytes => .secp256k1 bytes
  | .contract id => other id
  | .delegatable id => .delegatable id
  | .list keys => .list (replaceAllContracts other keys)
  | .threshold needed keys => .threshold needed (replaceAllContracts other keys)

def replaceAllContracts (other : ContractId → Key) : List Key → List Key
  | [] => []
  | key :: rest => replaceContracts other key :: replaceAllContracts other rest

end

theorem replace_all_length (other : ContractId → Key) (keys : List Key) :
    (replaceAllContracts other keys).length = keys.length := by
  induction keys with
  | nil => rfl
  | cons key rest ih => rw [replaceAllContracts, List.length_cons, List.length_cons, ih]

theorem replace_all_empty (other : ContractId → Key) (keys : List Key) :
    (replaceAllContracts other keys).isEmpty = keys.isEmpty := by
  cases keys <;> rfl

end Key

namespace Authority

section Vouching

variable (authority : Authority)

def Vouches : Key → Prop
  | .ed25519 bytes => authority.signed (.ed25519 bytes) = true
  | .secp256k1 bytes => authority.signed (.secp256k1 bytes) = true
  | .contract id => authority.delegated = false ∧ id = authority.activeContract
  | .delegatable id => id = authority.activeContract
  | .list _ => False
  | .threshold _ _ => False

def Unsigned : Key → Prop
  | .ed25519 bytes => authority.signed (.ed25519 bytes) = false
  | .secp256k1 bytes => authority.signed (.secp256k1 bytes) = false
  | _ => False

theorem contract_active_iff (id : ContractId) :
    authority.isActive (.contract id) = true ↔ authority.Vouches (.contract id) := by
  simp [isActive, Vouches]

theorem delegatable_active_iff (id : ContractId) :
    authority.isActive (.delegatable id) = true ↔ authority.Vouches (.delegatable id) := by
  simp [isActive, Vouches]

theorem unsigned_inert (key : Key) (unsigned : authority.Unsigned key) : authority.isActive key = false := by
  cases key with
  | ed25519 bytes => exact unsigned
  | secp256k1 bytes => exact unsigned
  | _ => exact unsigned.elim

end Vouching

section Counting

variable (authority : Authority)

theorem count_active_eq (keys : List Key) : authority.countActive keys = keys.countP authority.isActive := by
  induction keys with
  | nil => rfl
  | cons key rest ih => rw [countActive, ih, List.countP_cons, Nat.add_comm]

theorem count_active_le (keys : List Key) : authority.countActive keys ≤ keys.length := by
  rw [count_active_eq]
  exact List.countP_le_length

theorem list_active_iff (keys : List Key) :
    authority.isActive (.list keys) = true ↔ keys ≠ [] ∧ ∀ key ∈ keys, authority.isActive key = true := by
  simp [isActive, count_active_eq, List.countP_eq_length]

theorem threshold_active_iff (needed : Nat) (keys : List Key) :
    authority.isActive (.threshold needed keys) = true ↔ max needed 1 ≤ keys.countP authority.isActive := by
  rw [isActive, decide_eq_true_iff, count_active_eq]

theorem threshold_beyond (needed : Nat) (keys : List Key) (beyond : keys.length < needed) :
    authority.isActive (.threshold needed keys) = false := by
  by_contra active
  have enough := (threshold_active_iff authority needed keys).mp (by simpa using active)
  have members : keys.countP authority.isActive ≤ keys.length := List.countP_le_length
  omega

end Counting

section Leaves

variable (authority : Authority)

mutual

theorem active_leaf (key : Key) (active : authority.isActive key = true) :
    ∃ leaf ∈ key.leaves, authority.isActive leaf = true ∧ authority.Vouches leaf := by
  cases key with
  | ed25519 bytes => exact ⟨_, List.mem_singleton_self _, active, active⟩
  | secp256k1 bytes => exact ⟨_, List.mem_singleton_self _, active, active⟩
  | contract id => exact ⟨_, List.mem_singleton_self _, active, (contract_active_iff authority id).mp active⟩
  | delegatable id => exact ⟨_, List.mem_singleton_self _, active, (delegatable_active_iff authority id).mp active⟩
  | list keys =>
      rw [isActive, Bool.and_eq_true, beq_iff_eq, Bool.not_eq_true', List.isEmpty_eq_false_iff] at active
      have some := List.length_pos_iff.mpr active.1
      exact counted_leaf keys (by omega)
  | threshold needed keys =>
      rw [isActive, decide_eq_true_iff] at active
      exact counted_leaf keys (by omega)

theorem counted_leaf (keys : List Key) (counted : 0 < authority.countActive keys) :
    ∃ leaf ∈ Key.allLeaves keys, authority.isActive leaf = true ∧ authority.Vouches leaf := by
  cases keys with
  | nil => cases counted
  | cons key rest =>
      by_cases active : authority.isActive key = true
      · obtain ⟨leaf, member, vouches⟩ := active_leaf key active
        exact ⟨leaf, List.mem_append_left _ member, vouches⟩
      · rw [countActive, if_neg active, Nat.zero_add] at counted
        obtain ⟨leaf, member, vouches⟩ := counted_leaf rest counted
        exact ⟨leaf, List.mem_append_right _ member, vouches⟩

end

end Leaves

section Covering

def Covers (wide narrow : Authority) : Prop := ∀ key, narrow.Vouches key → wide.Vouches key

variable {wide narrow : Authority}

mutual

-- Keys have no negation: what more leaves vouch for stays active under every nesting.
theorem active_covered (covers : wide.Covers narrow) (key : Key) (active : narrow.isActive key = true) :
    wide.isActive key = true := by
  cases key with
  | ed25519 bytes => exact covers (.ed25519 bytes) active
  | secp256k1 bytes => exact covers (.secp256k1 bytes) active
  | contract id =>
      rw [contract_active_iff] at active ⊢
      exact covers _ active
  | delegatable id =>
      rw [delegatable_active_iff] at active ⊢
      exact covers _ active
  | list keys =>
      simp only [isActive, Bool.and_eq_true, beq_iff_eq] at active ⊢
      have fewer := count_covered covers keys
      have all := count_active_le wide keys
      exact ⟨active.1, by omega⟩
  | threshold needed keys =>
      simp only [isActive, decide_eq_true_eq] at active ⊢
      exact Nat.le_trans active (count_covered covers keys)

theorem count_covered (covers : wide.Covers narrow) (keys : List Key) :
    narrow.countActive keys ≤ wide.countActive keys := by
  cases keys with
  | nil => exact Nat.le_refl 0
  | cons key rest =>
      have others := count_covered covers rest
      rw [countActive, countActive]
      by_cases active : narrow.isActive key = true
      · rw [if_pos active, if_pos (active_covered covers key active)]
        omega
      · rw [if_neg active]
        omega

end

theorem undelegated_covers (authority : Authority) :
    { authority with delegated := false }.Covers { authority with delegated := true } := by
  intro key vouches
  cases key with
  | contract id => cases vouches.1
  | _ => exact vouches

end Covering

section Replacing

variable (authority : Authority)

mutual

-- In a delegate call a plain contract does no more than a key that is never active.
theorem replaced_active (delegated : authority.delegated = true) (other : ContractId → Key)
    (inert : ∀ id, authority.isActive (other id) = false) (key : Key) :
    authority.isActive (key.replaceContracts other) = authority.isActive key := by
  cases key with
  | ed25519 bytes => rfl
  | secp256k1 bytes => rfl
  | contract id => simp [Key.replaceContracts, isActive, inert, delegated]
  | delegatable id => rfl
  | list keys =>
      simp only [Key.replaceContracts, isActive, replaced_count delegated other inert keys, Key.replace_all_length,
        Key.replace_all_empty]
  | threshold needed keys =>
      simp only [Key.replaceContracts, isActive, replaced_count delegated other inert keys]

theorem replaced_count (delegated : authority.delegated = true) (other : ContractId → Key)
    (inert : ∀ id, authority.isActive (other id) = false) (keys : List Key) :
    authority.countActive (Key.replaceAllContracts other keys) = authority.countActive keys := by
  cases keys with
  | nil => rfl
  | cons key rest =>
      simp only [Key.replaceAllContracts, countActive, replaced_active delegated other inert key,
        replaced_count delegated other inert rest]

end

end Replacing

end Authority

/-- A list is active when it has members and all are, a threshold when so many members are, and one at least. Under
every nesting an active key has a leaf that is active itself, a delegate call activates no key that a call of the same
contract would not, and in a delegate call plain contracts may as well be keys that nobody signed with. -/
theorem keys_activate_as_meant (authority : Authority) :
    (∀ keys, authority.isActive (.list keys) = true ↔ keys ≠ [] ∧ ∀ key ∈ keys, authority.isActive key = true) ∧
    (∀ needed keys,
      (authority.isActive (.threshold needed keys) = true ↔ max needed 1 ≤ keys.countP authority.isActive) ∧
      (keys.length < needed → authority.isActive (.threshold needed keys) = false)) ∧
    (∀ key, authority.isActive key = true →
      ∃ leaf ∈ key.leaves, authority.isActive leaf = true ∧ authority.Vouches leaf) ∧
    (∀ key, { authority with delegated := true }.isActive key = true →
      { authority with delegated := false }.isActive key = true) ∧
    (authority.delegated = true → ∀ other : ContractId → Key, (∀ id, authority.Unsigned (other id)) →
      ∀ key, authority.isActive (key.replaceContracts other) = authority.isActive key) := by
  refine ⟨authority.list_active_iff, fun needed keys => ⟨authority.threshold_active_iff needed keys,
    authority.threshold_beyond needed keys⟩, authority.active_leaf,
    Authority.active_covered authority.undelegated_covers, fun delegated other unsigned key => ?_⟩
  exact authority.replaced_active delegated other (fun id => authority.unsigned_inert _ (unsigned id)) key

namespace Sample

def proxy : Authority where
  signed key := key == .ed25519 [1]
  activeContract := ⟨0, 0, 7⟩
  delegated := true

def board : Key := .threshold 0 [.list [], .contract ⟨0, 0, 7⟩, .list [.ed25519 [1], .delegatable ⟨0, 0, 7⟩]]

end Sample

theorem board_active_through_leaf :
    Sample.proxy.isActive Sample.board = true ∧
      (∃ leaf ∈ Sample.board.leaves, Sample.proxy.isActive leaf = true ∧ Sample.proxy.Vouches leaf) ∧
      { Sample.proxy with delegated := false }.isActive Sample.board = true ∧
      Sample.proxy.isActive (Sample.board.replaceContracts fun _ => .ed25519 [2]) = true ∧
      Sample.proxy.isActive (.threshold 4 [Sample.board, Sample.board, Sample.board]) = false ∧
      Sample.proxy.isActive (.list []) = false := by
  have active : Sample.proxy.isActive Sample.board = true := by decide
  obtain ⟨list, threshold, leaf, mode, replaced⟩ := keys_activate_as_meant Sample.proxy
  refine ⟨active, leaf _ active, mode _ active, ?_, (threshold 4 _).2 (by decide), ?_⟩
  · exact (replaced rfl (fun _ => .ed25519 [2]) (fun _ => rfl) Sample.board).trans active
  · exact Bool.eq_false_iff.mpr fun empty => ((list []).mp empty).1 rfl

end TokenService
