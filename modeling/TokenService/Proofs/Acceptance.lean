import Mathlib.Algebra.Order.Ring.Int
import TokenService.Proofs.Settlement.Reordering

set_option autoImplicit false

namespace TokenService

theorem net_amount_bound (adjustments : List Adjustment) :
    (netAmount adjustments).natAbs ≤ adjustments.length * 2 ^ 63 := by
  induction adjustments with
  | nil => exact Nat.zero_le _
  | cons adjustment rest ih =>
      have least := Int64.minValue_le_toInt adjustment.amount
      have most := Int64.toInt_le adjustment.amount
      rw [show Int64.minValue.toInt = -2 ^ 63 from rfl] at least
      rw [show Int64.maxValue.toInt = 2 ^ 63 - 1 from rfl] at most
      rw [netAmount, List.length_cons, Nat.add_mul, Nat.one_mul]
      omega

-- The sum in a register of 128 bits, in which an addition may wrap.
def registerSum (net : BitVec 128) : List Adjustment → BitVec 128
  | [] => net
  | adjustment :: rest => registerSum (net + adjustment.amount.toBitVec.signExtend 128) rest

theorem register_sum_eq (net : Int) (run : List Adjustment) :
    registerSum (BitVec.ofInt 128 net) run = BitVec.ofInt 128 (net + netAmount run) := by
  induction run generalizing net with
  | nil => rw [registerSum, netAmount, Int.add_zero]
  | cons adjustment rest ih =>
      have wide : adjustment.amount.toBitVec.signExtend 128 = BitVec.ofInt 128 adjustment.amount.toInt := rfl
      rw [registerSum, wide, ← BitVec.ofInt_add, ih, netAmount, Int.add_assoc]

theorem register_sum_exact (run : List Adjustment) (net : Int) (few : run.length < UInt64.size)
    (sum : sumAdjustments [] 0 run = .ok net) : (registerSum 0 run).toInt = net := by
  obtain ⟨_, exactly⟩ := (sum_adjustments_ok [] 0 net run).mp sum
  have bound := net_amount_bound run
  have whole : registerSum 0 run = BitVec.ofInt 128 net := by
    rw [exactly]
    exact register_sum_eq 0 run
  rw [show UInt64.size = 2 ^ 64 from rfl] at few
  rw [whole]
  exact BitVec.toInt_ofInt_eq_self (by decide) (by omega) (by omega)

theorem net_amount_perm (adjustments others : List Adjustment) (perm : adjustments.Perm others) :
    netAmount adjustments = netAmount others := by
  induction perm with
  | nil => rfl
  | cons adjustment _ ih => rw [netAmount, netAmount, ih]
  | swap first second rest => simp only [netAmount, Int.add_left_comm]
  | trans _ _ left right => exact left.trans right

theorem balanced_perm_iff (adjustments others : List Adjustment) (perm : adjustments.Perm others) :
    Balanced adjustments ↔ Balanced others := by
  have distinct := (perm.map Adjustment.account).nodup_iff
  have same := net_amount_perm adjustments others perm
  exact ⟨fun balanced => ⟨distinct.mp balanced.distinct, same ▸ balanced.zero⟩,
    fun balanced => ⟨distinct.mpr balanced.distinct, same.trans balanced.zero⟩⟩

theorem reordered_symm (moves other : TokenMoves) (reordered : moves.Reordered other) : other.Reordered moves :=
  ⟨reordered.token.symm, reordered.adjustments.symm, reordered.nftMoves.symm⟩

theorem reordered_proper (moves other : TokenMoves) (reordered : moves.Reordered other) (proper : moves.Proper) :
    other.Proper where
  stocked := by
    refine proper.stocked.imp (mt fun bare => ?_) (mt fun bare => ?_)
    · exact (bare ▸ reordered.adjustments).eq_nil
    · exact (bare ▸ reordered.nftMoves).eq_nil
  balanced := (balanced_perm_iff _ _ reordered.adjustments).mp proper.balanced
  proper := fun move member => proper.proper move (reordered.nftMoves.mem_iff.mpr member)
  serials := (reordered.nftMoves.map NftMove.serial).nodup_iff.mp proper.serials

section Lists

variable (hbar adjustments : List Adjustment) (tokens others : List TokenMoves)

theorem lists_proper (each : List.Forall₂ TokenMoves.Reordered tokens others)
    (proper : ∀ moves ∈ tokens, moves.Proper) : ∀ moves ∈ others, moves.Proper := by
  induction each with
  | nil => exact fun _ member => absurd member List.not_mem_nil
  | cons head _ ih =>
      obtain ⟨first, later⟩ := List.forall_mem_cons.mp proper
      exact List.forall_mem_cons.mpr ⟨reordered_proper _ _ head first, ih later⟩

theorem lists_tokens (each : List.Forall₂ TokenMoves.Reordered tokens others) :
    others.map TokenMoves.token = tokens.map TokenMoves.token := by
  induction each with
  | nil => rfl
  | cons head _ ih => rw [List.map_cons, List.map_cons, head.token, ih]

theorem proper_reordered_iff (money : hbar.Perm adjustments) (lists : Reordered tokens others) :
    ProperTransfer hbar tokens ↔ ProperTransfer adjustments others := by
  obtain ⟨between, perm, each⟩ := lists
  have back : List.Forall₂ TokenMoves.Reordered others between := (each.imp fun _ _ => reordered_symm _ _).flip
  have balanced := balanced_perm_iff hbar adjustments money
  have names := lists_tokens between others each
  have distinct := (perm.map TokenMoves.token).nodup_iff
  have bare : tokens = [] ↔ others = [] := by
    rw [← List.length_eq_zero_iff, ← List.length_eq_zero_iff, perm.length_eq, each.length_eq]
  have idle : hbar = [] ↔ adjustments = [] := by
    rw [← List.length_eq_zero_iff, ← List.length_eq_zero_iff, money.length_eq]
  constructor
  · intro transfer
    refine ⟨transfer.stocked.imp (mt idle.mpr) (mt bare.mpr), balanced.mp transfer.balanced, ?_, ?_⟩
    · exact lists_proper between others each fun moves member => transfer.proper moves (perm.mem_iff.mpr member)
    · exact names ▸ distinct.mp transfer.distinct
  · intro transfer
    refine ⟨transfer.stocked.imp (mt idle.mp) (mt bare.mp), balanced.mpr transfer.balanced, ?_, ?_⟩
    · exact fun moves member => lists_proper others between back transfer.proper moves (perm.mem_iff.mp member)
    · exact distinct.mpr (names ▸ transfer.distinct)

end Lists

/-- The check of a transfer accepts those and only those that move something, in which no account, token or serial is
named twice where it may be named once, the amounts of hbar and of each token come to nothing, and each NFT goes to
somebody else. So it accepts a transfer with its entries in any order or in none. The running sum of a list and of
every beginning of it is the exact one in 128 bits, however extreme the amounts are. -/
theorem transfer_accepted_iff_proper (config : Config) (hbar : List Adjustment) (tokens : List TokenMoves) :
    ((Body.transfer hbar tokens).check config = .ok () ↔ ProperTransfer hbar tokens) ∧
      (∀ adjustments others, hbar.Perm adjustments → Reordered tokens others →
        ((Body.transfer hbar tokens).check config = .ok () ↔
          (Body.transfer adjustments others).check config = .ok ())) ∧
      ∀ (adjustments run : List Adjustment) (net : Int), adjustments.length < UInt64.size → run <+: adjustments →
        sumAdjustments [] 0 run = .ok net → (registerSum 0 run).toInt = net := by
  refine ⟨transfer_check_iff hbar tokens, fun adjustments others money lists => ?_,
    fun adjustments run net few start => register_sum_exact run net (Nat.lt_of_le_of_lt start.length_le few)⟩
  have before := transfer_check_iff hbar tokens
  have after := transfer_check_iff adjustments others
  exact before.trans ((proper_reordered_iff hbar adjustments tokens others money lists).trans after.symm)

namespace Sample

def extremes : List Adjustment :=
  [⟨holder, Int64.minValue, false⟩, ⟨friend, Int64.maxValue, false⟩, ⟨.ofNum 1003, 1, false⟩]

end Sample

theorem extremes_accepted :
    ProperTransfer Sample.extremes Sample.trade ∧
      (Body.transfer Sample.extremes.reverse Sample.tradeBackwards).check {} = .ok () ∧
      (registerSum 0 (Sample.extremes.take 1)).toInt = -2 ^ 63 := by
  obtain ⟨accepted, orders, room⟩ := transfer_accepted_iff_proper {} Sample.extremes Sample.trade
  have checked : (Body.transfer Sample.extremes Sample.trade).check {} = .ok () := by decide
  refine ⟨accepted.mp checked, (orders _ _ (List.reverse_perm _).symm ?_).mp checked, ?_⟩
  · refine ⟨Sample.trade.reverse, (List.reverse_perm _).symm, ?_⟩
    exact .cons ⟨rfl, .swap _ _ _, .refl _⟩ (.cons ⟨rfl, .refl _, .swap _ _ _⟩ .nil)
  · exact room Sample.extremes _ _ (by decide) (List.take_prefix 1 _) rfl

end TokenService
