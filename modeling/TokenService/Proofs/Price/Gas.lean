import Mathlib.Algebra.Ring.Nat
import TokenService.Price.Quote

set_option autoImplicit false

namespace TokenService

def capped (n : Nat) : Nat := min n (2 ^ 64 - 1)

theorem capped_of_word (n : UInt64) : capped n.toNat = n.toNat := by
  have bound := n.toNat_lt
  rw [capped]
  omega

theorem capped_mono (n m : Nat) (le : n ≤ m) : capped n ≤ capped m := by
  rw [capped, capped]
  omega

theorem capped_capped_add (n m : Nat) : capped (capped n + m) = capped (n + m) := by
  rw [capped, capped, capped]
  omega

theorem capped_add_capped (n m : Nat) : capped (n + capped m) = capped (n + m) := by
  rw [Nat.add_comm, capped_capped_add, Nat.add_comm]

theorem saturate_capped (n : Nat) : (saturate n).toNat = capped n := saturate_to_nat n

theorem add_saturating_capped (a b : UInt64) : (addSaturating a b).toNat = capped (a.toNat + b.toNat) :=
  saturate_capped _

theorem mul_saturating_capped (a : UInt64) (count : Nat) : (mulSaturating a count).toNat = capped (a.toNat * count) :=
  saturate_capped _

theorem max_word (n m : UInt64) : (max n m).toNat = max n.toNat m.toNat := by
  by_cases le : n ≤ m
  · rw [show max n m = m from if_pos le, Nat.max_eq_right (UInt64.le_iff_toNat_le.mp le)]
  · rw [show max n m = n from if_neg le, Nat.max_eq_left (Nat.le_of_not_le (mt UInt64.le_iff_toNat_le.mpr le))]

namespace Fee

def AtMost (fee other : Fee) : Prop :=
  fee.node ≤ other.node ∧ fee.network ≤ other.network ∧ fee.service ≤ other.service

def sum (fee : Fee) : Nat := fee.node.toNat + fee.network.toNat + fee.service.toNat

theorem total_exact (fee : Fee) : fee.total.toNat = capped fee.sum := by
  rw [total, add_saturating_capped, add_saturating_capped, capped_capped_add, sum]

theorem sum_mono (fee other : Fee) (below : fee.AtMost other) : fee.sum ≤ other.sum := by
  obtain ⟨node, network, service⟩ := below
  exact Nat.add_le_add (Nat.add_le_add (UInt64.le_iff_toNat_le.mp node) (UInt64.le_iff_toNat_le.mp network))
    (UInt64.le_iff_toNat_le.mp service)

end Fee

namespace Rate

variable (rate : Rate) (tinycents : UInt64)

theorem product_exact : (rate.product tinycents).toNat = tinycents.toNat * rate.hbar.toNat := by
  have amount : tinycents.toBitVec.toNat < 2 ^ 64 := tinycents.toBitVec.isLt
  have hbar : rate.hbar.toBitVec.toNat < 2 ^ 32 := rate.hbar.toBitVec.isLt
  have small : tinycents.toBitVec.toNat * rate.hbar.toBitVec.toNat < 2 ^ 128 :=
    calc tinycents.toBitVec.toNat * rate.hbar.toBitVec.toNat
      _ ≤ 2 ^ 64 * 2 ^ 32 := Nat.mul_le_mul (Nat.le_of_lt amount) (Nat.le_of_lt hbar)
      _ < 2 ^ 128 := by decide
  rw [product, BitVec.toNat_mul, BitVec.toNat_setWidth, BitVec.toNat_setWidth,
    Nat.mod_eq_of_lt (Nat.lt_trans amount (by decide)), Nat.mod_eq_of_lt (Nat.lt_trans hbar (by decide)),
    Nat.mod_eq_of_lt small]
  rfl

theorem cents_exact : rate.cents.toNat = max rate.cent.toNat 1 := by
  by_cases le : rate.cent ≤ 1
  · rw [cents, show max rate.cent 1 = 1 from if_pos le]
    exact (Nat.max_eq_right (UInt32.le_iff_toNat_le.mp le)).symm
  · rw [cents, show max rate.cent 1 = rate.cent from if_neg le]
    exact (Nat.max_eq_left (Nat.le_of_not_le (mt UInt32.le_iff_toNat_le.mpr le))).symm

theorem tinybars_exact :
    (rate.tinybars tinycents).toNat = capped (tinycents.toNat * rate.hbar.toNat / max rate.cent.toNat 1) := by
  have divisor : (rate.cents.toBitVec.setWidth 128).toNat = rate.cents.toNat := by
    have bound : rate.cents.toBitVec.toNat < 2 ^ 32 := rate.cents.toBitVec.isLt
    rw [BitVec.toNat_setWidth, Nat.mod_eq_of_lt (Nat.lt_trans bound (by decide))]
    rfl
  rw [tinybars, saturate_capped, BitVec.toNat_udiv, divisor, cents_exact, product_exact]

end Rate

theorem gas_for_exact (tinybars gasPrice : UInt64) :
    (gasFor tinybars gasPrice).toNat = capped (6 * (tinybars.toNat / max gasPrice.toNat 1)) / 5 := by
  rw [gasFor, UInt64.toNat_div, mul_saturating_capped, UInt64.toNat_div, max_word, Nat.mul_comm]
  rfl

section Entries

variable (tokens : List TokenMoves)

def unitEntries : Nat := (tokens.flatMap fun moves => moves.adjustments).length

def nftEntries : Nat := (tokens.flatMap fun moves => moves.nftMoves).length

end Entries

namespace Body

def tinycents (table : PriceTable) : Body → Nat
  | .transfer hbar tokens =>
      unitEntries tokens * ((table.price .cryptoTransfer .fungible).toNat / 2) +
        nftEntries tokens * (table.price .cryptoTransfer .nonFungible).toNat +
        hbar.length * ((table.price .cryptoTransfer .default).toNat / 2)
  | body => (table.price body.function body.priceClass).toNat

-- The same transaction, or a transfer with no fewer entries of any kind.
inductive Within : Body → Body → Prop
  | same (body : Body) : Within body body
  | longer (hbar adjustments : List Adjustment) (tokens others : List TokenMoves)
      (money : hbar.length ≤ adjustments.length)
      (units : unitEntries tokens ≤ unitEntries others)
      (nfts : nftEntries tokens ≤ nftEntries others) :
      Within (.transfer hbar tokens) (.transfer adjustments others)

theorem minimum_exact (body : Body) (table : PriceTable) :
    (body.minimumTinycents table).toNat = capped (body.tinycents table) := by
  cases body with
  | transfer hbar tokens =>
      have half (n : UInt64) : (n / 2).toNat = n.toNat / 2 := UInt64.toNat_div n 2
      simp only [minimumTinycents, add_saturating_capped, mul_saturating_capped, half, capped_add_capped,
        capped_capped_add, tinycents, unitEntries, nftEntries, function, Nat.mul_comm, Nat.add_assoc]
  | _ => exact (capped_of_word _).symm

theorem tinycents_mono (body other : Body) (table dearer : PriceTable) (within : body.Within other)
    (prices : ∀ function priceClass, table.price function priceClass ≤ dearer.price function priceClass) :
    body.tinycents table ≤ other.tinycents dearer := by
  have price (function : NativeFunction) (priceClass : PriceClass) :
      (table.price function priceClass).toNat ≤ (dearer.price function priceClass).toNat :=
    UInt64.le_iff_toNat_le.mp (prices function priceClass)
  have entries (hbar adjustments : List Adjustment) (tokens others : List TokenMoves)
      (money : hbar.length ≤ adjustments.length) (units : unitEntries tokens ≤ unitEntries others)
      (nfts : nftEntries tokens ≤ nftEntries others) :
      (transfer hbar tokens).tinycents table ≤ (transfer adjustments others).tinycents dearer := by
    refine Nat.add_le_add (Nat.add_le_add ?_ ?_) ?_
    · exact Nat.mul_le_mul units (Nat.div_le_div_right (price _ _))
    · exact Nat.mul_le_mul nfts (price _ _)
    · exact Nat.mul_le_mul money (Nat.div_le_div_right (price _ _))
  cases within with
  | longer hbar adjustments tokens others money units nfts => exact entries _ _ _ _ money units nfts
  | same =>
      cases body with
      | transfer hbar tokens => exact entries _ _ _ _ (Nat.le_refl _) (Nat.le_refl _) (Nat.le_refl _)
      | _ => exact price _ _

end Body

def Rate.exactTinybars (rate : Rate) (tinycents : Nat) : Nat :=
  capped (capped tinycents * rate.hbar.toNat / max rate.cent.toNat 1)

def exactGas (fee : Fee) (minimum : Nat) (gasPrice : UInt64) : Nat :=
  capped (6 * (max minimum (capped fee.sum) / max gasPrice.toNat 1)) / 5

theorem Rate.exact_tinybars_mono (rate other : Rate) (tinycents more : Nat) (le : tinycents ≤ more)
    (hbar : rate.hbar ≤ other.hbar) (cent : other.cent ≤ rate.cent) :
    rate.exactTinybars tinycents ≤ other.exactTinybars more := by
  have cents : max other.cent.toNat 1 ≤ max rate.cent.toNat 1 := by
    have below := UInt32.le_iff_toNat_le.mp cent
    omega
  refine capped_mono _ _ (Nat.div_le_div ?_ cents (by omega))
  exact Nat.mul_le_mul (capped_mono _ _ le) (UInt32.le_iff_toNat_le.mp hbar)

theorem exact_gas_mono (fee other : Fee) (minimum more : Nat) (gasPrice lower : UInt64) (below : fee.AtMost other)
    (le : minimum ≤ more) (cheaper : lower ≤ gasPrice) : exactGas fee minimum gasPrice ≤ exactGas other more lower := by
  have due : max minimum (capped fee.sum) ≤ max more (capped other.sum) := by
    have fees := capped_mono _ _ (fee.sum_mono other below)
    omega
  have price : max lower.toNat 1 ≤ max gasPrice.toNat 1 := by
    have under := UInt64.le_iff_toNat_le.mp cheaper
    omega
  refine Nat.div_le_div_right (capped_mono _ _ (Nat.mul_le_mul_left 6 ?_))
  exact Nat.div_le_div due price (by omega)

theorem Quote.gas_exact (fee : Fee) (minimum gasPrice : UInt64) :
    (Quote.of fee minimum gasPrice).gas.toNat = exactGas fee minimum.toNat gasPrice := by
  rw [Quote.of, gas_for_exact, max_word, fee.total_exact, exactGas]

namespace Market

variable (market : Market) (table : PriceTable) (transaction : Transaction) (payer : AccountId) (now : Timestamp)

theorem minimum_exact : (market.quote table transaction payer now).minimumTinybars.toNat =
    (market.rate now).exactTinybars (transaction.body.tinycents table) := by
  rw [quote, Quote.of, Rate.tinybars_exact, Body.minimum_exact, Rate.exactTinybars]

theorem gas_exact : (market.quote table transaction payer now).gas.toNat =
    exactGas (market.fee transaction payer now)
      ((market.rate now).exactTinybars (transaction.body.tinycents table)) (market.gasPrice .contractCall now) := by
  rw [← market.minimum_exact table transaction payer now]
  exact Quote.gas_exact _ _ _

end Market

/-- The quote of a call is the exact one: the price of its entries, or its one price, converted into tinybars; then the
gas for that or for the fee, whichever is more, with each sum, product and quotient stopping at the largest number. No
product leaves its 128 bits and no divisor is zero. So a call with more entries, higher prices, a higher fee or more
hbar to the cent is not quoted less gas, and one with a higher gas price or more cents to the hbar is not quoted
more. -/
theorem gas_exact_and_monotone (market other : Market) (table dearer : PriceTable) (transaction longer : Transaction)
    (payer another : AccountId) (now later : Timestamp) :
    ((market.quote table transaction payer now).minimumTinybars.toNat =
        (market.rate now).exactTinybars (transaction.body.tinycents table) ∧
      (market.quote table transaction payer now).gas.toNat =
        exactGas (market.fee transaction payer now)
          ((market.rate now).exactTinybars (transaction.body.tinycents table)) (market.gasPrice .contractCall now)) ∧
    (∀ function, (market.queryQuote function now).gas.toNat =
      exactGas (market.queryFee function now) 0 (market.gasPrice .contractCall now)) ∧
    ((∀ tinycents, ((market.rate now).product tinycents).toNat = tinycents.toNat * (market.rate now).hbar.toNat) ∧
      (market.rate now).cents ≠ 0 ∧ max (market.gasPrice .contractCall now) 1 ≠ 0) ∧
    ((∀ function priceClass, table.price function priceClass ≤ dearer.price function priceClass) →
      transaction.body.Within longer.body →
      (market.fee transaction payer now).AtMost (other.fee longer another later) →
      (market.rate now).hbar ≤ (other.rate later).hbar → (other.rate later).cent ≤ (market.rate now).cent →
      other.gasPrice .contractCall later ≤ market.gasPrice .contractCall now →
      (market.quote table transaction payer now).gas ≤ (other.quote dearer longer another later).gas) := by
  refine ⟨⟨market.minimum_exact table transaction payer now, market.gas_exact table transaction payer now⟩,
    fun function => Quote.gas_exact _ _ _, ⟨(market.rate now).product_exact, fun none => ?_, fun none => ?_⟩,
    fun prices within fees hbar cent cheaper => ?_⟩
  · have cents := (market.rate now).cents_exact
    rw [none, show (0 : UInt32).toNat = 0 from rfl] at cents
    omega
  · have price := max_word (market.gasPrice .contractCall now) 1
    rw [none, show (0 : UInt64).toNat = 0 from rfl, show (1 : UInt64).toNat = 1 from rfl] at price
    omega
  · rw [UInt64.le_iff_toNat_le, market.gas_exact, other.gas_exact]
    refine exact_gas_mono _ _ _ _ _ _ fees ?_ cheaper
    exact Rate.exact_tinybars_mono _ _ _ _ (Body.tinycents_mono _ _ _ _ within prices) hbar cent

namespace Sample

def payer : AccountId := .ofNum 1001

def tariff : PriceTable := (PriceTable.empty.set .cryptoTransfer .fungible 201).set .cryptoTransfer .default 100

def dearTariff : PriceTable := ⟨fun _ _ => some 0xffffffffffffffff⟩

def stall : Market :=
  { fee := fun _ _ _ => ⟨1, 2, 3⟩, queryFee := fun _ _ => ⟨1, 2, 3⟩, gasPrice := fun _ _ => 10
    rate := fun _ => ⟨3, 12⟩ }

def dearStall : Market :=
  { fee := fun _ _ _ => ⟨1, 2, 0xffffffffffffffff⟩, queryFee := fun _ _ => ⟨1, 2, 3⟩, gasPrice := fun _ _ => 0
    rate := fun _ => ⟨3, 0⟩ }

def donation : Transaction := { body := .transfer [⟨payer, -5, false⟩, ⟨.ofNum 1002, 5, false⟩] [] }

def largerDonation : Transaction :=
  { body := .transfer [⟨payer, -5, false⟩, ⟨.ofNum 1002, 5, false⟩]
      [{ token := .ofNum 2001, adjustments := [⟨payer, -1, false⟩, ⟨.ofNum 1002, 1, false⟩] }] }

end Sample

theorem larger_donation_quoted_higher :
    (Sample.stall.quote Sample.tariff Sample.donation Sample.payer ⟨0, 0⟩).gas.toNat = 2 ∧
      (Sample.dearStall.quote Sample.dearTariff Sample.largerDonation Sample.payer ⟨1, 0⟩).gas.toNat =
        (2 ^ 64 - 1) / 5 ∧
      (Sample.stall.quote Sample.tariff Sample.donation Sample.payer ⟨0, 0⟩).gas ≤
        (Sample.dearStall.quote Sample.dearTariff Sample.largerDonation Sample.payer ⟨1, 0⟩).gas := by
  obtain ⟨⟨_, gas⟩, _, _, dearer⟩ := gas_exact_and_monotone Sample.stall Sample.dearStall Sample.tariff
    Sample.dearTariff Sample.donation Sample.largerDonation Sample.payer Sample.payer ⟨0, 0⟩ ⟨1, 0⟩
  obtain ⟨⟨_, more⟩, _⟩ := gas_exact_and_monotone Sample.dearStall Sample.dearStall Sample.dearTariff
    Sample.dearTariff Sample.largerDonation Sample.largerDonation Sample.payer Sample.payer ⟨1, 0⟩ ⟨1, 0⟩
  refine ⟨gas.trans (by decide), more.trans (by decide), dearer ?_ ?_ ?_ ?_ ?_ ?_⟩
  · intro function priceClass
    have top : (Sample.dearTariff.price function priceClass).toNat = 2 ^ 64 - 1 := rfl
    have bound := UInt64.toNat_lt (Sample.tariff.price function priceClass)
    rw [UInt64.le_iff_toNat_le, top]
    omega
  · exact .longer _ _ _ _ (by decide) (by decide) (by decide)
  · exact ⟨by decide, by decide, by decide⟩
  · decide
  · decide
  · decide

end TokenService
