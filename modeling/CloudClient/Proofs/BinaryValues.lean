import CloudClient.Number.Binary64
import Mathlib.Algebra.Order.Field.Power
import Mathlib.Data.Rat.Cast.Order
import Mathlib.Tactic.Ring

/-!
# What binary numbers denote

A binary number is kept as a sign, a mantissa and an exponent, and what is
computed with it are naturals. Here it is a rational number (`Binary64.value`),
and comparisons, minima and maxima of finite numbers are those of their values.

An integer becomes a binary number by rounding. Where all its digits fit into
the mantissa nothing is lost. Where it is too long, the format has an end: the
greatest number is `2 ^ 1024 - 2 ^ 971`, the next one would be `2 ^ 1024`, and
half way between them a tie goes to the even mantissa, which is that of the
missing one. That is at `2 ^ 1024 - 2 ^ 970` (`Binary64.beyond`), and integers
have binary numbers just below it (`Binary64.ofInt?_eq_none_iff`).

Powers of such size are never computed. One of them, `2 ^ 970`, is taken for
an unknown, of which all bounds are multiples.
-/

namespace CloudClient.Binary64

/-- Whether a number is neither an infinity nor not-a-number. -/
def isFinite : Binary64 → Bool
  | .finite .. => true
  | _ => false

/-- The value of a finite number; zero of all others. -/
def value : Binary64 → ℚ
  | .finite s m e => signed s m * 2 ^ e
  | _ => 0

@[simp] theorem value_zero (s : Bool) : (zero s).value = 0 := by
  cases s <;> simp [zero, value, signed]

/-! ## Order -/

theorem signed_mul (s : Bool) (m k : Nat) : signed s (m * k) = signed s m * k := by
  cases s <;> simp [signed]

/-- A mantissa that is written with a lower exponent has the same value. -/
theorem signed_scaled (s : Bool) (m : Nat) {e low : Int} (h : low ≤ e) :
    (signed s (m * Nat.pow 2 (e - low).toNat) : ℚ) * 2 ^ low = signed s m * 2 ^ e := by
  have hsplit : (2 : ℚ) ^ e = 2 ^ (e - low).toNat * 2 ^ low := by
    rw [← zpow_natCast, ← zpow_add₀ two_ne_zero, Int.toNat_of_nonneg (by omega)]
    congr 1
    omega
  rw [signed_mul, hsplit, Nat.pow_eq]
  push_cast
  ring

variable {x y : Binary64}

/-- **Finite numbers are compared by value.** -/
theorem lt_iff_value (hx : x.isFinite = true) (hy : y.isFinite = true) :
    x.lt y = true ↔ x.value < y.value := by
  match x, y, hx, hy with
  | .finite s m e, .finite s' m' e', _, _ =>
    have hpos : (0 : ℚ) < 2 ^ (Min.min e e') := zpow_pos two_pos _
    simp only [lt, value, decide_eq_true_eq]
    rw [← signed_scaled s m (min_le_left e e'), ← signed_scaled s' m' (min_le_right e e'),
      mul_lt_mul_iff_left₀ hpos, Int.cast_lt]

/-- The lesser of two finite numbers has the lesser value, -/
theorem value_min (hx : x.isFinite = true) (hy : y.isFinite = true) :
    (x.min y).isFinite = true ∧ (x.min y).value = Min.min x.value y.value := by
  unfold Binary64.min
  split
  · rename_i hlt
    exact ⟨hy, (min_eq_right ((lt_iff_value hy hx).1 hlt).le).symm⟩
  · rename_i hlt
    exact ⟨hx, (min_eq_left (not_lt.1 fun h => hlt ((lt_iff_value hy hx).2 h))).symm⟩

/-- and the greater one the greater. -/
theorem value_max (hx : x.isFinite = true) (hy : y.isFinite = true) :
    (x.max y).isFinite = true ∧ (x.max y).value = Max.max x.value y.value := by
  unfold Binary64.max
  split
  · rename_i hlt
    exact ⟨hy, (max_eq_right ((lt_iff_value hx hy).1 hlt).le).symm⟩
  · rename_i hlt
    exact ⟨hx, (max_eq_left (not_lt.1 fun h => hlt ((lt_iff_value hx hy).2 h))).symm⟩

/-! ## Integers -/

section Integers

theorem scaled_natCast (num den k : Nat) : scaled num den k = (num, den * 2 ^ k) := by
  rw [scaled, if_pos (Int.natCast_nonneg k)]
  rfl

/-- An integer at the exponent of its leading digit has a mantissa of at least
53 digits. -/
theorem full_scaled {n : Nat} (hn : n ≠ 0) :
    2 ^ 52 ≤ (scaled n 1 (n.log2 - 52)).1 / (scaled n 1 (n.log2 - 52)).2 := by
  have hlow : 2 ^ n.log2 ≤ n := Nat.log2_self_le hn
  unfold scaled
  split
  · rename_i hbig
    have hexp : ((n.log2 : Int) - 52).toNat = n.log2 - 52 := by omega
    rw [hexp, Nat.pow_eq, Nat.one_mul, Nat.le_div_iff_mul_le (Nat.two_pow_pos _), ← Nat.pow_add,
      Nat.add_sub_cancel' (by omega)]
    exact hlow
  · rename_i hsmall
    have hexp : (-((n.log2 : Int) - 52)).toNat = 52 - n.log2 := by omega
    have hsplit : 2 ^ 52 = 2 ^ n.log2 * 2 ^ (52 - n.log2) := by
      rw [← Nat.pow_add, Nat.add_sub_cancel' (by omega)]
    rw [hexp, Nat.pow_eq, Nat.div_one, hsplit]
    exact Nat.mul_le_mul_right _ hlow

/-- So that is its exponent. -/
theorem exponentFor_one {n : Nat} (hn : n ≠ 0) : exponentFor n 1 = n.log2 - 52 := by
  have hlog : (Nat.log2 1 : Int) = 0 := rfl
  have hfull := full_scaled hn
  unfold exponentFor leastExponent
  simp only [hlog, Int.sub_zero, Nat.pow_eq]
  rw [if_neg (Nat.not_lt.2 hfull), if_neg (by omega)]

theorem isFinite_pack (s : Bool) (m : Nat) (e : Int) :
    (pack s m e).isFinite = true ↔ (if m = 2 ^ 53 then e + 1 else e) ≤ 971 := by
  unfold pack greatestExponent
  simp only [Nat.pow_eq]
  generalize (if m = 2 ^ 53 then e + 1 else e) = e'
  split
  · rename_i hover
    exact iff_of_false Bool.false_ne_true (by omega)
  · rename_i hin
    exact iff_of_true rfl (by omega)

/-- Below the next multiple of the divisor a quotient is rounded up to it from
half a divisor on; if it is odd, then a tie goes up too. -/
theorem roundQuotient_eq_succ_iff {num den t : Nat} (hodd : t % 2 = 1)
    (hbelow : num < (t + 1) * den) :
    roundQuotient num den = t + 1 ↔ 2 * ((t + 1) * den) ≤ 2 * num + den := by
  have hdiv := Nat.div_add_mod num den
  have hden : 0 < den := Nat.pos_of_mul_pos_left (by omega : 0 < (t + 1) * den)
  have hmod := Nat.mod_lt num hden
  have hle : num / den ≤ t := Nat.lt_succ_iff.1 ((Nat.div_lt_iff_lt_mul hden).2 hbelow)
  unfold roundQuotient
  simp only
  obtain hlt | heq := Nat.lt_or_eq_of_le hle
  · have hfar : (num / den + 1) * den ≤ t * den := Nat.mul_le_mul_right den hlt
    have hnum : num < t * den := by
      refine Nat.lt_of_lt_of_le ?_ hfar
      rw [Nat.add_mul, Nat.one_mul, Nat.mul_comm]
      omega
    rw [Nat.add_mul, Nat.one_mul]
    split <;> omega
  · rw [heq] at hdiv ⊢
    rw [Nat.add_mul, Nat.one_mul, Nat.mul_comm t den]
    split <;> omega

/-- At the end of the format it is odd. -/
theorem roundQuotient_limit {n unit : Nat} (hbelow : n < 2 ^ 53 * (unit * 2)) :
    roundQuotient n (unit * 2) = 2 ^ 53 ↔ (2 ^ 54 - 1) * unit ≤ n := by
  have htop := roundQuotient_eq_succ_iff (t := 2 ^ 53 - 1) (by decide)
    (by rwa [Nat.sub_add_cancel (by decide)])
  rw [Nat.sub_add_cancel (by decide)] at htop
  rw [htop]
  omega

theorem two_pow_le_mul {a b c : Nat} (h : a ≤ b + c) : 2 ^ a ≤ 2 ^ b * 2 ^ c := by
  rw [← pow_add]
  exact Nat.pow_le_pow_right Nat.two_pos h

theorem two_pow_mul_le {a b c : Nat} (h : b + c ≤ a) : 2 ^ b * 2 ^ c ≤ 2 ^ a := by
  rw [← pow_add]
  exact Nat.pow_le_pow_right Nat.two_pos h

/-- A natural is rounded to a finite number up to half a step above the greatest
one. Below the last binade it cannot be carried so far, and above it there is
nothing; within it the mantissa decides. -/
theorem isFinite_ofRatio_one (s : Bool) (n : Nat) :
    (ofRatio s n 1).isFinite = true ↔ n < (2 ^ 54 - 1) * 2 ^ 970 := by
  have hpos : 0 < 2 ^ 970 := pow_pos two_pos 970
  by_cases hn : n = 0
  · subst hn
    generalize 2 ^ 970 = unit at hpos ⊢
    exact iff_of_true rfl (by omega)
  · have hlow : 2 ^ n.log2 ≤ n := Nat.log2_self_le hn
    have hhigh : n < 2 ^ (n.log2 + 1) := Nat.lt_log2_self
    unfold ofRatio
    simp only [hn, if_false, exponentFor_one hn]
    rw [isFinite_pack]
    obtain hless | hequal | hmore := Nat.lt_trichotomy n.log2 1023
    · -- a carry out of a lower binade stays in the format
      have hsmall : 2 ^ (n.log2 + 1) ≤ 2 ^ 53 * 2 ^ 970 := two_pow_le_mul (by omega)
      refine iff_of_true (by split <;> omega) ?_
      generalize 2 ^ 970 = unit at hsmall hpos ⊢
      omega
    · -- in the last binade it does not
      have hexp : (n.log2 : Int) - 52 = ((970 + 1 : Nat) : Int) := by omega
      have hbelow : 2 ^ (n.log2 + 1) ≤ 2 ^ 54 * 2 ^ 970 := two_pow_le_mul (by omega)
      rw [hexp, scaled_natCast, Nat.one_mul, pow_succ]
      generalize 2 ^ 970 = unit at hbelow ⊢
      simp only [roundQuotient_limit (by omega : n < 2 ^ 53 * (unit * 2))]
      split <;> omega
    · have hgreat : 2 ^ 54 * 2 ^ 970 ≤ 2 ^ n.log2 := two_pow_mul_le (by omega)
      refine iff_of_false (by split <;> omega) ?_
      generalize 2 ^ 970 = unit at hgreat ⊢
      omega

/-- The middle between the greatest number and what would be the next. -/
def beyond : Nat := 2 ^ 1024 - 2 ^ 970

/-- **An integer has no binary number** just if it is as great as that. -/
theorem ofInt?_eq_none_iff (n : Int) : ofInt? n = none ↔ beyond ≤ n.natAbs := by
  have hlimit : (2 ^ 54 - 1) * 2 ^ 970 = beyond := by
    rw [beyond, Nat.sub_mul, Nat.one_mul, ← pow_add]
  rw [← hlimit, ← Nat.not_lt, ← isFinite_ofRatio_one (decide (n < 0))]
  unfold ofInt?
  cases ofRatio (decide (n < 0)) n.natAbs 1 <;> simp [isFinite]

theorem isFinite_of_ofInt? {n : Int} (h : ofInt? n = some x) : x.isFinite = true := by
  unfold ofInt? at h
  split at h
  · cases h
    rfl
  · cases h

theorem roundQuotient_one (m : Nat) : roundQuotient m 1 = m := by
  simp [roundQuotient, Nat.mod_one]

/-- A natural of at most 53 digits is moved up until it has as many. -/
theorem ofRatio_one_of_lt (s : Bool) {m : Nat} (hm : m ≠ 0) (hlt : m < 2 ^ 53) :
    ofRatio s m 1 = .finite s (m * Nat.pow 2 (0 - ((m.log2 : Int) - 52)).toNat)
      ((m.log2 : Int) - 52) := by
  have hlog : m.log2 ≤ 52 := Nat.le_of_lt_succ ((Nat.log2_lt hm).2 hlt)
  have hscaled : scaled m 1 ((m.log2 : Int) - 52)
      = (m * Nat.pow 2 (0 - ((m.log2 : Int) - 52)).toNat, 1) := by
    unfold scaled
    split
    · rename_i hfull
      have hexp : (m.log2 : Int) - 52 = 0 := by omega
      rw [hexp]
      simp
    · rw [Int.zero_sub]
  have hfits : m * Nat.pow 2 (0 - ((m.log2 : Int) - 52)).toNat < 2 ^ 53 := by
    have hsplit : 2 ^ 53 = 2 ^ (m.log2 + 1) * 2 ^ (0 - ((m.log2 : Int) - 52)).toNat := by
      rw [← Nat.pow_add]
      congr 1
      omega
    rw [hsplit]
    exact Nat.mul_lt_mul_of_pos_right Nat.lt_log2_self (Nat.two_pow_pos _)
  unfold ofRatio pack greatestExponent
  simp only [hm, if_false, exponentFor_one hm, hscaled, roundQuotient_one]
  rw [if_neg (by omega), if_neg (by exact Nat.ne_of_lt hfits), if_neg (by exact Nat.ne_of_lt hfits)]

/-- **An integer of at most 53 digits is a binary number**, and keeps its
value. -/
theorem value_of_ofInt? {n : Int} (hn : n.natAbs < 2 ^ 53) (h : ofInt? n = some x) :
    x.value = n := by
  have hsigned : signed (decide (n < 0)) n.natAbs = n := by
    unfold signed
    split
    · rename_i hneg
      have hlt := of_decide_eq_true hneg
      omega
    · rename_i hpos
      have hge := of_decide_eq_false (Bool.eq_false_iff.2 hpos)
      omega
  by_cases hzero : n.natAbs = 0
  · rw [ofInt?, hzero, ofRatio, if_pos rfl] at h
    have hzeroed : zero (decide (n < 0)) = x := Option.some.inj h
    rw [← hzeroed, value_zero, Int.natAbs_eq_zero.1 hzero, Int.cast_zero]
  · rw [ofInt?, ofRatio_one_of_lt _ hzero hn] at h
    cases h
    rw [value, signed_scaled _ _ (by have := (Nat.log2_lt hzero).2 hn; omega), hsigned, zpow_zero,
      mul_one]

end Integers

end CloudClient.Binary64
