import ObliviousTransfer.Proofs.Curve.Residue

/-!
The order of the group and the modulus of its coordinates are primes. A number
is prime if the multiplicative group modulo it has an element whose order is
one less than the number, which powers show once the prime factors of that
order are known. The factors that are not small are shown prime in the same way.
-/

namespace ObliviousTransfer

open ObliviousTransfer.Modular

/-- An element of full order modulo a number, and the prime factors of the order, each as often as
it divides. -/
structure OrderWitness where
  base : Nat
  factors : List Nat

namespace OrderWitness

def order (witness : OrderWitness) : Nat := witness.factors.prod

def number (witness : OrderWitness) : Nat := witness.order + 1

instance (witness : OrderWitness) : NeZero witness.number := ⟨Nat.succ_ne_zero _⟩

def power (witness : OrderWitness) (exponent : Nat) : Fin witness.number :=
  Modular.power (Fin.ofNat witness.number witness.base) exponent

def Holds (witness : OrderWitness) : Prop :=
  witness.order < 2 ^ exponentBits ∧ witness.power witness.order = 1 ∧
    ∀ factor ∈ witness.factors, witness.power (witness.order / factor) ≠ 1

/-- The power from no more digits than the order has. -/
def shortPower (witness : OrderWitness) (exponent : Nat) : Fin witness.number :=
  (binaryDigits (witness.order.log2 + 1) exponent).foldl
    (fun result digit =>
      if digit then result * result * Fin.ofNat witness.number witness.base else result * result) 1

theorem short_power_eq {witness : OrderWitness} (small : witness.order < 2 ^ exponentBits)
    {exponent : Nat} (below : exponent ≤ witness.order) :
    witness.shortPower exponent = witness.power exponent := by
  have fold := residue_power_digits (Fin.ofNat witness.number witness.base) 1 0
    (binaryDigits (witness.order.log2 + 1) exponent) (by rw [residue_one, pow_zero])
  rw [digits_value_exponent (below.trans_lt Nat.lt_log2_self)] at fold
  rw [← residue_eq_iff, power, residue_power _ (below.trans_lt small)]
  exact fold

theorem holds_iff_short (witness : OrderWitness) :
    witness.Holds ↔ witness.order < 2 ^ exponentBits ∧ witness.shortPower witness.order = 1 ∧
      ∀ factor ∈ witness.factors, witness.shortPower (witness.order / factor) ≠ 1 := by
  unfold Holds
  refine and_congr_right fun small => ?_
  simp only [short_power_eq small, le_refl, Nat.div_le_self]

instance (witness : OrderWitness) : Decidable witness.Holds :=
  decidable_of_iff' _ witness.holds_iff_short

theorem power_eq_one_iff (witness : OrderWitness) {exponent : Nat}
    (small : exponent < 2 ^ exponentBits) :
    witness.power exponent = 1 ↔ (witness.base : ZMod witness.number) ^ exponent = 1 := by
  rw [← residue_eq_iff, power, residue_power _ small, residue_of_nat, residue_one]

theorem number_prime {witness : OrderWitness} (holds : witness.Holds)
    (primes : ∀ factor ∈ witness.factors, factor.Prime) : witness.number.Prime := by
  obtain ⟨small, full, proper⟩ := holds
  apply lucas_primality witness.number witness.base
  · exact (witness.power_eq_one_iff small).mp full
  · intro divisor divisorPrime divides
    obtain ⟨factor, member, inside⟩ :=
      (Prime.dvd_prod_iff divisorPrime.prime).mp divides
    have same : divisor = factor :=
      (Nat.prime_dvd_prime_iff_eq divisorPrime (primes factor member)).mp inside
    subst same
    have smaller : witness.order / divisor < 2 ^ exponentBits :=
      (Nat.div_le_self _ _).trans_lt small
    exact fun one => proper divisor member ((witness.power_eq_one_iff smaller).mpr one)

end OrderWitness

/-- Every witness holds, and has factors from a list of primes and the numbers shown before it. -/
def Certified : List Nat → List OrderWitness → Prop
  | _, [] => True
  | primes, witness :: rest =>
      (∀ factor ∈ witness.factors, factor ∈ primes) ∧ witness.Holds ∧
        Certified (witness.number :: primes) rest

instance decidableCertified :
    (primes : List Nat) → (witnesses : List OrderWitness) → Decidable (Certified primes witnesses)
  | _, [] => inferInstanceAs (Decidable True)
  | primes, witness :: rest =>
      have := decidableCertified (witness.number :: primes) rest
      inferInstanceAs (Decidable (_ ∧ _ ∧ _))

theorem certified_numbers_prime {primes : List Nat} {witnesses : List OrderWitness}
    (certified : Certified primes witnesses) (known : ∀ number ∈ primes, number.Prime) :
    ∀ witness ∈ witnesses, witness.number.Prime := by
  induction witnesses generalizing primes with
  | nil =>
      intro witness member
      cases member
  | cons head rest induction =>
      obtain ⟨factors, holds, others⟩ := certified
      have headPrime : head.number.Prime :=
        OrderWitness.number_prime holds fun factor member => known factor (factors factor member)
      have restPrime := induction others (by
        intro number member
        rcases List.mem_cons.mp member with same | earlier
        · exact same ▸ headPrime
        · exact known number earlier)
      intro witness member
      rcases List.mem_cons.mp member with same | later
      · exact same ▸ headPrime
      · exact restPrime witness later

def smallPrimes : List Nat :=
  [2, 3, 5, 7, 11, 17, 29, 31, 41, 53, 59, 97, 109, 149, 293, 461, 631, 797, 971, 1373, 1627,
    1871, 2011, 2621, 2657, 4051, 4423, 5323, 7723, 9349, 13441, 16699, 20113, 24809, 28181,
    41201, 85831, 96557, 120233, 305873]

theorem small_primes_prime : ∀ number ∈ smallPrimes, number.Prime := by
  simp only [smallPrimes, List.forall_mem_cons, List.not_mem_nil]
  norm_num

/-- The witnesses of the two primes, each after those of its factors. -/
def primeWitnesses : List OrderWitness :=
  [⟨13, [2, 5, 971, 1373]⟩,
    ⟨6, [2, 2, 2, 5, 5, 2621, 24809, 13331831]⟩,
    ⟨5, [2, 2, 2, 3, 5323, 173378833005251801]⟩,
    ⟨6, [2, 3, 22149492674086928081353]⟩,
    ⟨10, [2, 2, 3, 5, 20113]⟩,
    ⟨3, [2, 3, 1206781]⟩,
    ⟨3, [2, 2, 2, 2, 5, 5, 5, 5, 7, 29, 53]⟩,
    ⟨3, [2, 2, 2, 7, 7, 11, 1627, 2657, 4423, 41201, 96557, 7240687, 107590001]⟩,
    ⟨10, [2, 3, 5, 29, 29, 31, 7723, 132896956044521568488119,
      255515944373312847190720520512484175977]⟩,
    ⟨3, [2, 3, 7, 13441,
      205115282021455665897114700593932402728804164701536103180137503955397371]⟩,
    ⟨23, [2, 2, 2, 3, 97, 2011]⟩,
    ⟨3, [2, 2, 2, 2, 16699, 85831, 4681609]⟩,
    ⟨6, [2, 3, 797, 9349]⟩,
    ⟨3, [2, 2, 2, 17, 59, 4051, 120233, 44706919]⟩,
    ⟨5, [2, 2, 2, 41, 59, 28181]⟩,
    ⟨3, [2, 3, 5, 29, 1871]⟩,
    ⟨2, [2, 2, 3, 3, 11, 461, 1627771]⟩,
    ⟨2, [2, 293, 305873, 545358713, 297159362677]⟩,
    ⟨2, [2, 2, 3, 3, 3, 109, 29047611873442575647497758179]⟩,
    ⟨7, [2, 2, 2, 2, 2, 2, 3, 149, 631, 107361793816595537, 174723607534414371449,
      341948486974166000522343609283189]⟩]

theorem prime_witnesses_certified : Certified smallPrimes primeWitnesses := by decide +kernel

theorem prime_of_witness {number : Nat}
    (listed : number ∈ primeWitnesses.map OrderWitness.number) : number.Prime := by
  obtain ⟨witness, member, same⟩ := List.mem_map.mp listed
  exact same ▸ certified_numbers_prime prime_witnesses_certified small_primes_prime witness member

theorem field_prime_prime : fieldPrime.Prime := prime_of_witness (by decide)

theorem group_order_prime : groupOrder.Prime := prime_of_witness (by decide)

instance : Fact fieldPrime.Prime := ⟨field_prime_prime⟩

instance : Fact groupOrder.Prime := ⟨group_order_prime⟩

end ObliviousTransfer
