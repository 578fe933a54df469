import Mathlib.Algebra.Order.Field.Basic
import Mathlib.Data.Rat.Cast.Order
import Mathlib.Tactic.FieldSimp
import Mathlib.Tactic.Linarith
import Mathlib.Tactic.Positivity
import Mathlib.Tactic.Ring
import PrintSettings.Numeric.Binary64

/-! # Rounding to nearest

The magnitude that a quotient is rounded to is at least as near to it as any other one that is
written with 53 bits, and its last bit is zero if another one is just as near
(`abs_nearest_sub_le`). This determines the rounded magnitude up to overflow: it is monotone
(`nearest_le`, `le_nearest`), exact where it can be (`nearest_mul`) and depends on nothing but the
quotient (`nearest_congr`). For numbers with signs it says that `round` is nearest (`IsNearest`). -/

namespace PrintSettings.Numeric

/-! ## Magnitudes with 53 bits -/

/-- The magnitude is written with 53 bits, but for zeros after them. -/
def Rounded (n : Nat) : Prop := ∃ m e, m < pow2 53 ∧ n = m * pow2 e

/-- The bits of a magnitude that are kept. -/
def significand (n : Nat) : Nat := n / pow2 (spacing n)

variable {num den m n q k : Nat}

theorem Representable.rounded (h : Representable n) : Rounded n := by
  obtain ⟨m, e, hm, -, rfl⟩ := h
  exact ⟨m, e, hm, rfl⟩

theorem rounded_pow2 (e : Nat) : Rounded (pow2 e) := ⟨1, e, by decide, (Nat.one_mul _).symm⟩

/-- There is no magnitude with 53 bits strictly between two neighbours. -/
theorem Rounded.le_or_le (hm : Rounded m) (hq : 0 < k → pow2 52 ≤ q) :
    m ≤ q * pow2 k ∨ (q + 1) * pow2 k ≤ m := by
  obtain ⟨a, e, ha, rfl⟩ := hm
  rcases Nat.lt_or_ge e k with hek | hke
  · -- coarser than the magnitude, so the neighbours are above it
    left
    obtain ⟨j, rfl⟩ := Nat.exists_eq_add_of_lt hek
    have hq' : pow2 52 ≤ q := hq (by omega)
    calc a * pow2 e ≤ pow2 53 * pow2 e := Nat.mul_le_mul_right _ (Nat.le_of_lt ha)
      _ = pow2 52 * pow2 (e + 1) := by rw [pow2_succ e, pow2_succ 52]; ring
      _ ≤ pow2 52 * pow2 (e + j + 1) := Nat.mul_le_mul_left _ (pow2_le_pow2 (by omega))
      _ ≤ q * pow2 (e + j + 1) := Nat.mul_le_mul_right _ hq'
  · obtain ⟨j, rfl⟩ := Nat.exists_eq_add_of_le hke
    have ha' : a * pow2 (k + j) = a * pow2 j * pow2 k := by rw [pow2_add]; ring
    rw [ha']
    rcases Nat.lt_or_ge q (a * pow2 j) with h | h
    · exact .inr (Nat.mul_le_mul_right _ h)
    · exact .inl (Nat.mul_le_mul_right _ h)

theorem log2_mul_pow2 (hlow : pow2 52 ≤ n) (hn : n < pow2 53) (k : Nat) :
    (n * pow2 k).log2 = 52 + k := by
  have hne : n * pow2 k ≠ 0 :=
    Nat.mul_ne_zero (Nat.lt_of_lt_of_le (pow2_pos 52) hlow).ne' (pow2_pos k).ne'
  have hbounds : pow2 (52 + k) ≤ n * pow2 k ∧ n * pow2 k < pow2 (52 + k + 1) := by
    rw [Nat.add_right_comm, pow2_add, pow2_add]
    exact ⟨Nat.mul_le_mul_right _ hlow, Nat.mul_lt_mul_of_pos_right hn (pow2_pos k)⟩
  exact (Nat.log2_eq_iff hne).2 hbounds

theorem significand_mul_pow2 (hn : n < pow2 53) (hk : 0 < k → pow2 52 ≤ n) :
    significand (n * pow2 k) = n := by
  have hspacing : spacing (n * pow2 k) = k := by
    rcases Nat.lt_or_ge n (pow2 52) with hlow | hlow
    · obtain rfl : k = 0 := Nat.eq_zero_of_not_pos fun h => absurd (hk h) (Nat.not_le.2 hlow)
      have hlog : n.log2 < 53 := lt_of_pow2_lt_pow2 (n := 53) <| by
        rcases Nat.eq_zero_or_pos n with rfl | h0
        · decide
        · exact Nat.lt_of_le_of_lt (pow2_log2_le h0.ne') hn
      have hone : n * pow2 0 = n := Nat.mul_one n
      rw [hone, spacing]
      omega
    · rw [spacing, log2_mul_pow2 hlow hn]
      omega
  rw [significand, hspacing, Nat.mul_div_cancel _ (pow2_pos k)]

/-! ## The nearest integer -/

/-- The nearest integer is one of the two neighbours of a quotient, the nearer one or the even one
of two that are equally near. -/
theorem divNearest_cases (num den : Nat) :
    (2 * (num % den) ≤ den ∧ divNearest num den = num / den ∨
      den ≤ 2 * (num % den) ∧ divNearest num den = num / den + 1) ∧
    (2 * (num % den) = den → divNearest num den % 2 = 0) := by
  unfold divNearest
  dsimp only
  split
  next h => omega
  next h =>
    split
    next h' => omega
    next h' => omega

theorem cast_div_eq (num : Nat) (hden : 0 < den) :
    (num : ℚ) / den = (num / den : ℕ) + ((num % den : ℕ) : ℚ) / den := by
  have hpos : (0 : ℚ) < den := by exact_mod_cast hden
  have hnum : (num : ℚ) = den * (num / den : ℕ) + (num % den : ℕ) := by
    exact_mod_cast (Nat.div_add_mod num den).symm
  rw [hnum]
  field_simp

/-- No point off the gap between the neighbours of a quotient is nearer than the nearest integer,
and that is even if another point is as near. -/
theorem abs_divNearest_sub_le (num : Nat) (hden : 0 < den) {t : ℚ}
    (ht : t ≤ (num / den : ℕ) ∨ ((num / den : ℕ) : ℚ) + 1 ≤ t) :
    |(divNearest num den : ℚ) - num / den| ≤ |t - num / den| ∧
    (|t - num / den| = |(divNearest num den : ℚ) - num / den| →
      t = divNearest num den ∨ divNearest num den % 2 = 0) := by
  obtain ⟨hcases, heven⟩ := divNearest_cases num den
  have hpos : (0 : ℚ) < den := by exact_mod_cast hden
  rw [cast_div_eq num hden]
  generalize hf : ((num % den : ℕ) : ℚ) / den = f
  generalize num / den = q at *
  generalize divNearest num den = d at *
  have hr : ((num % den : ℕ) : ℚ) = f * den := by rw [← hf]; field_simp
  have hf0 : 0 ≤ f := by rw [← hf]; positivity
  have hf1 : f < 1 := by
    rw [← hf, div_lt_one hpos]
    exact_mod_cast Nat.mod_lt num hden
  have hhalf : f = 1 / 2 → 2 * (num % den) = den := fun h => by
    have hcast : (2 : ℚ) * (num % den : ℕ) = den := by rw [hr, h]; ring
    exact_mod_cast hcast
  rcases hcases with ⟨hle, rfl⟩ | ⟨hle, rfl⟩
  · have hf2 : f ≤ 1 / 2 := by
      have hcast : (2 : ℚ) * (num % den : ℕ) ≤ den := by exact_mod_cast hle
      rw [hr] at hcast
      nlinarith
    have hd : |(d : ℚ) - (d + f)| = f := by rw [sub_add_cancel_left, abs_neg, abs_of_nonneg hf0]
    rw [hd]
    rcases ht with ht | ht
    · rw [abs_of_nonpos (by linarith)]
      exact ⟨by linarith, fun h => .inl (by linarith)⟩
    · rw [abs_of_nonneg (by linarith)]
      exact ⟨by linarith, fun h => .inr (heven (hhalf (by linarith)))⟩
  · have hf2 : 1 / 2 ≤ f := by
      have hcast : (den : ℚ) ≤ 2 * (num % den : ℕ) := by exact_mod_cast hle
      rw [hr] at hcast
      nlinarith
    have hd : |((q + 1 : ℕ) : ℚ) - (q + f)| = 1 - f := by
      rw [Nat.cast_add_one, abs_of_nonneg (by linarith)]
      ring
    rw [hd, Nat.cast_add_one]
    rcases ht with ht | ht
    · rw [abs_of_nonpos (by linarith)]
      exact ⟨by linarith, fun h => .inr (heven (hhalf (by linarith)))⟩
    · rw [abs_of_nonneg (by linarith)]
      exact ⟨by linarith, fun h => .inl (by linarith)⟩

/-! ## The nearest magnitude -/

theorem nearest_eq (num den : Nat) : ∃ k, nearest num den =
      divNearest num (den * pow2 k) * pow2 k ∧
      divNearest num (den * pow2 k) ≤ pow2 53 ∧
      (0 < k → pow2 52 ≤ num / (den * pow2 k)) :=
  ⟨_, rfl, Nat.le_trans (divNearest_le _ _) (Nat.succ_le_of_lt (div_spacing_lt num den)),
    le_div_spacing⟩

theorem significand_even (hn : n ≤ pow2 53) (hk : 0 < k → pow2 52 ≤ n) (heven : n % 2 = 0) :
    significand (n * pow2 k) % 2 = 0 := by
  rcases Nat.lt_or_eq_of_le hn with h | rfl
  · rwa [significand_mul_pow2 h hk]
  · -- one bit more is on the next grid
    have hnext : pow2 53 * pow2 k = pow2 52 * pow2 (k + 1) := by
      rw [pow2_succ 52, pow2_succ k]
      ring
    rw [hnext, significand_mul_pow2 (by decide) fun _ => Nat.le_refl _]
    decide

/-- No signed magnitude with 53 bits is nearer than the rounded one, and the last bit of that is
zero if another one is as near. -/
theorem abs_nearest_sub_le (num : Nat) (hden : 0 < den) {t : Int} (ht : Rounded t.natAbs) :
    |(nearest num den : ℚ) - num / den| ≤ |(t : ℚ) - num / den| ∧
    (|(t : ℚ) - num / den| = |(nearest num den : ℚ) - num / den| →
      t = nearest num den ∨ significand (nearest num den) % 2 = 0) := by
  obtain ⟨k, hnearest, hle, hge⟩ := nearest_eq num den
  have hpow : (0 : ℚ) < pow2 k := by exact_mod_cast pow2_pos k
  have hgrid : 0 < den * pow2 k := Nat.mul_pos hden (pow2_pos k)
  have hgap : (t : ℚ) / pow2 k ≤ (num / (den * pow2 k) : ℕ) ∨
      ((num / (den * pow2 k) : ℕ) : ℚ) + 1 ≤ t / pow2 k := by
    rw [div_le_iff₀ hpow, le_div_iff₀ hpow]
    obtain ⟨a, rfl | rfl⟩ := Int.eq_nat_or_neg t
    · rw [Int.natAbs_natCast] at ht
      rw [Int.cast_natCast]
      exact_mod_cast ht.le_or_le hge
    · left
      have h0 : (0 : ℚ) ≤ a := by positivity
      have h1 : (0 : ℚ) ≤ (num / (den * pow2 k) : ℕ) * pow2 k := by positivity
      push_cast
      linarith
  obtain ⟨hnear, heven⟩ := abs_divNearest_sub_le num hgrid hgap
  -- distances on the grid and in units
  have hscale : ∀ x : ℚ, |x * pow2 k - num / den| =
      |x - num / (den * pow2 k : ℕ)| * pow2 k := fun x => by
    rw [← abs_of_pos hpow, ← abs_mul, abs_of_pos hpow]
    congr 1
    push_cast
    field_simp
  have ht' : |(t : ℚ) - num / den| = |t / pow2 k - (num : ℚ) / (den * pow2 k : ℕ)| * pow2 k := by
    rw [← hscale, div_mul_cancel₀ _ hpow.ne']
  have hn' : |(nearest num den : ℚ) - num / den| =
      |(divNearest num (den * pow2 k) : ℚ) - num / (den * pow2 k : ℕ)| * pow2 k := by
    rw [← hscale, hnearest, Nat.cast_mul]
  rw [ht', hn']
  refine ⟨mul_le_mul_of_nonneg_right hnear hpow.le, fun h => ?_⟩
  rcases heven (mul_right_cancel₀ hpow.ne' h) with h | h
  · left
    rw [div_eq_iff hpow.ne'] at h
    rw [hnearest]
    exact_mod_cast h
  · right
    rw [hnearest]
    exact significand_even hle (fun hk => Nat.le_trans (hge hk) (le_divNearest _ _)) h

/-! ## What rounding keeps -/

theorem nearest_le (hden : 0 < den) (hm : Rounded m) (h : num ≤ m * den) :
    nearest num den ≤ m := by
  have hpos : (0 : ℚ) < den := by exact_mod_cast hden
  have hle : (num : ℚ) / den ≤ m := (div_le_iff₀ hpos).2 (by exact_mod_cast h)
  have hnear := (abs_nearest_sub_le num hden (t := m) hm).1
  rw [Int.cast_natCast, abs_of_nonneg (sub_nonneg.2 hle)] at hnear
  have hcast : (nearest num den : ℚ) ≤ m := by
    linarith [le_abs_self ((nearest num den : ℚ) - num / den)]
  exact_mod_cast hcast

theorem le_nearest (hden : 0 < den) (hm : Rounded m) (h : m * den ≤ num) :
    m ≤ nearest num den := by
  have hpos : (0 : ℚ) < den := by exact_mod_cast hden
  have hle : (m : ℚ) ≤ num / den := (le_div_iff₀ hpos).2 (by exact_mod_cast h)
  have hnear := (abs_nearest_sub_le num hden (t := m) hm).1
  rw [Int.cast_natCast, abs_of_nonpos (sub_nonpos.2 hle)] at hnear
  have hcast : (m : ℚ) ≤ nearest num den := by
    linarith [neg_abs_le ((nearest num den : ℚ) - num / den)]
  exact_mod_cast hcast

theorem nearest_mul (hden : 0 < den) (hm : Rounded m) : nearest (m * den) den = m :=
  Nat.le_antisymm (nearest_le hden hm (Nat.le_refl _)) (le_nearest hden hm (Nat.le_refl _))

theorem nearest_eq_zero (h : 2 * num < den) : nearest num den = 0 := by
  have hdiv : num / den = 0 := Nat.div_eq_of_lt (by omega)
  have hmod : num % den = num := Nat.mod_eq_of_lt (by omega)
  have hone : den * pow2 (spacing 0) = den := Nat.mul_one den
  simp [nearest, divNearest, hdiv, hone, hmod, h]

theorem divNearest_mul_mul (num den : Nat) {c : Nat} (hc : 0 < c) :
    divNearest (num * c) (den * c) = divNearest num den := by
  have hlt : ∀ a b, a * c < b * c ↔ a < b := fun a b => Nat.mul_lt_mul_right hc
  simp only [divNearest, Nat.mul_div_mul_right _ _ hc, Nat.mul_mod_mul_right, ← Nat.mul_assoc, hlt]

theorem nearest_mul_mul (num den : Nat) {c : Nat} (hc : 0 < c) :
    nearest (num * c) (den * c) = nearest num den := by
  have hdiv : num * c / (den * c) = num / den := Nat.mul_div_mul_right _ _ hc
  rw [nearest, hdiv, Nat.mul_right_comm, divNearest_mul_mul _ _ hc, ← nearest]

theorem nearest_congr {num' den' : Nat} (hden : 0 < den) (hden' : 0 < den')
    (h : (num : ℚ) / den = num' / den') : nearest num den = nearest num' den' := by
  have hcross : num * den' = num' * den := by
    rw [div_eq_div_iff (by positivity) (by positivity)] at h
    exact_mod_cast h
  rw [← nearest_mul_mul num den hden', hcross, Nat.mul_comm den, nearest_mul_mul _ _ hden]

/-! ## Numbers -/

namespace Binary64

/-- The value of a finite number. -/
def value : Binary64 → ℚ
  | finite negative units _ => signed negative units / one
  | _ => 0

/-- The last bit that is kept of a finite number. -/
def lastBit : Binary64 → Nat
  | finite _ units _ => significand units % 2
  | _ => 0

/-- The finite number is nearest to a rational one, a half going to the even neighbour. -/
structure IsNearest (r : ℚ) (x : Binary64) : Prop where
  isFinite : x.isFinite
  nearest : ∀ y : Binary64, y.isFinite → |x.value - r| ≤ |y.value - r|
  even : ∀ y : Binary64, y.isFinite → |y.value - r| = |x.value - r| →
    y.value = x.value ∨ x.lastBit = 0

theorem isNearest_value {x : Binary64} (h : x.isFinite) : x.IsNearest x.value where
  isFinite := h
  nearest y _ := by rw [sub_self, abs_zero]; exact abs_nonneg _
  even y _ hy := by
    rw [sub_self, abs_zero, abs_eq_zero, sub_eq_zero] at hy
    exact .inl hy

variable {negative : Bool}

theorem round_eq_finite (h : nearest num den = n) (hn : Representable n) :
    round negative num den = finite negative n hn := by
  subst h
  exact dif_pos hn.lt_overflow

theorem round_eq_infinite (h : overflow ≤ nearest num den) :
    round negative num den = infinite negative := dif_neg (Nat.not_lt.2 h)

theorem round_congr {num' den' : Nat} (hden : 0 < den) (hden' : 0 < den')
    (h : (num : ℚ) / den = num' / den') : round negative num den = round negative num' den' := by
  unfold round
  simp only [nearest_congr hden hden' h]

theorem signed_eq_mul (negative : Bool) (n : Nat) : signed negative n = signed negative 1 * n := by
  cases negative <;> simp [signed]

/-- **Rounding gives the nearest number**, unless it overflows. -/
theorem isNearest_round (hden : 0 < den) (h : nearest num den < overflow) :
    (round negative num den).IsNearest (signed negative 1 * (num / den) / one) := by
  have hround : round negative num den = finite negative _ (representable_nearest h) := dif_pos h
  have hone : (0 : ℚ) < one := by exact_mod_cast one_pos
  have hsign : (signed negative 1 : ℚ) * signed negative 1 = 1 := by
    cases negative <;> norm_num [signed]
  -- with the sign of the quotient taken out, distances are those of magnitudes
  have hdist : ∀ t : Int,
      |(signed negative 1 * t / one : ℚ) - signed negative 1 * (num / den) / one| =
        |(t : ℚ) - num / den| / one := fun t => by
    have habs : |(signed negative 1 : ℚ)| = 1 := by cases negative <;> norm_num [signed]
    rw [← sub_div, ← mul_sub, abs_div, abs_mul, habs, one_mul, abs_of_pos hone]
  have hx : (round negative num den).value =
      signed negative 1 * ((nearest num den : Int) : ℚ) / one := by
    rw [hround, value, signed_eq_mul]
    push_cast
    rfl
  have hy : ∀ y : Binary64, y.isFinite → ∃ t : Int, Rounded t.natAbs ∧
      y.value = signed negative 1 * t / one := fun y hy => by
    obtain ⟨b, m, hm⟩ | _ | _ := y
    · refine ⟨signed negative 1 * signed b m, ?_, ?_⟩
      · have habs : (signed negative 1 * signed b m).natAbs = m := by
          cases negative <;> cases b <;> simp [signed]
        rw [habs]
        exact hm.rounded
      · rw [value, Int.cast_mul, ← mul_assoc, hsign, one_mul]
    · exact absurd hy Bool.false_ne_true
    · exact absurd hy Bool.false_ne_true
  refine ⟨by rw [hround]; rfl, fun y hfinite => ?_, fun y hfinite => ?_⟩
  · obtain ⟨t, ht, hvalue⟩ := hy y hfinite
    rw [hx, hvalue, hdist, hdist]
    exact div_le_div_of_nonneg_right (abs_nearest_sub_le num hden ht).1 hone.le
  · obtain ⟨t, ht, hvalue⟩ := hy y hfinite
    rw [hx, hvalue, hdist, hdist]
    intro heq
    have heq' := (div_left_inj' hone.ne').1 heq
    rcases (abs_nearest_sub_le num hden ht).2 heq' with h | h
    · exact .inl (by rw [h])
    · right
      rw [hround]
      exact h

end Binary64

end PrintSettings.Numeric
