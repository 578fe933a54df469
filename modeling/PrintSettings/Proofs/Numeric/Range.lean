import PrintSettings.Proofs.Numeric.Value

/-! # Correct rounding

A magnitude is rounded correctly to the number nearest to it, a half going to the even neighbour; or
to infinity if it is not less than the mean of the largest number and the power of two after it
(`IsRounded`). There is one such number with a given sign, and it is what `round` gives
(`isRounded_iff`), because numbers next to each other are not both even (`exists_between`). Whole
numbers are rounded on the grid of their spacing (`nearest_mul_add`), so rounding commutes with
powers of two as long as nothing lies below the grid (`nearest_mul_pow2`). -/

namespace PrintSettings.Numeric

variable {num den m n q r k : Nat}

/-! ## Whole numbers -/

theorem rounded_of_lt (h : n < pow2 53) : Rounded n := ⟨n, 0, h, (Nat.mul_one n).symm⟩

theorem Rounded.mul_pow2 (h : Rounded n) (k : Nat) : Rounded (n * pow2 k) := by
  obtain ⟨m, e, hm, rfl⟩ := h
  exact ⟨m, e + k, hm, by rw [pow2_add, Nat.mul_assoc]⟩

theorem Rounded.nearest_eq (h : Rounded n) : nearest n 1 = n := by
  simpa using nearest_mul Nat.one_pos h

theorem rounded_nearest : Rounded (nearest num den) := by
  obtain ⟨k, heq, hle, -⟩ := nearest_eq num den
  rw [heq]
  rcases Nat.lt_or_eq_of_le hle with h | h
  · exact ⟨_, k, h, rfl⟩
  · rw [h]
    exact (rounded_pow2 53).mul_pow2 k

theorem Rounded.representable (h : Rounded n) (hn : n < overflow) : Representable n := by
  rw [← h.nearest_eq] at hn ⊢
  exact representable_nearest hn

theorem mul_add_div_pow2 (q : Nat) (hr : r < pow2 k) : (q * pow2 k + r) / pow2 k = q := by
  rw [Nat.mul_comm, Nat.mul_add_div (pow2_pos k), Nat.div_eq_of_lt hr, Nat.add_zero]

theorem mul_add_mod_pow2 (q : Nat) (hr : r < pow2 k) : (q * pow2 k + r) % pow2 k = r := by
  rw [Nat.mul_comm, Nat.mul_add_mod, Nat.mod_eq_of_lt hr]

theorem spacing_mul_add (hlow : pow2 52 ≤ q) (hq : q < pow2 53) (hr : r < pow2 k) :
    spacing (q * pow2 k + r) = k := by
  have hbelow : pow2 (52 + k) ≤ q * pow2 k + r := by
    rw [pow2_add]
    exact (Nat.mul_le_mul_right _ hlow).trans (Nat.le_add_right _ _)
  have habove : q * pow2 k + r < pow2 (52 + k + 1) := by
    calc q * pow2 k + r < (q + 1) * pow2 k := by rw [Nat.add_one_mul]; omega
      _ ≤ pow2 53 * pow2 k := Nat.mul_le_mul_right _ hq
      _ = pow2 (52 + k + 1) := by rw [← pow2_add]; congr 1; omega
  have hlog : (q * pow2 k + r).log2 = 52 + k :=
    (Nat.log2_eq_iff ((pow2_pos _).trans_le hbelow).ne').2 ⟨hbelow, habove⟩
  rw [spacing, hlog]
  omega

/-- On the grid of its spacing a quotient is rounded by what lies above it. -/
theorem nearest_grid (hlow : pow2 52 ≤ q) (hq : q < pow2 53) (hr : r < den) :
    nearest ((q * den + r) * pow2 k) den =
      (if 2 * r < den then q else if den < 2 * r then q + 1 else q + q % 2) * pow2 k := by
  have hden : 0 < den := Nat.zero_lt_of_lt hr
  have hrest : r * pow2 k / den < pow2 k :=
    Nat.div_lt_of_lt_mul (Nat.mul_lt_mul_of_pos_right hr (pow2_pos k))
  have hquotient : (q * den + r) * pow2 k / den = q * pow2 k + r * pow2 k / den := by
    have hcomm : (q * den + r) * pow2 k = den * (q * pow2 k) + r * pow2 k := by ring
    rw [hcomm, Nat.mul_add_div hden]
  have hdiv : (q * den + r) / den = q := by
    rw [Nat.mul_comm, Nat.mul_add_div hden, Nat.div_eq_of_lt hr, Nat.add_zero]
  have hmod : (q * den + r) % den = r := by
    rw [Nat.mul_comm, Nat.mul_add_mod, Nat.mod_eq_of_lt hr]
  rw [nearest, hquotient, spacing_mul_add hlow hq hrest, divNearest_mul_mul _ _ (pow2_pos k),
    divNearest]
  simp only [hdiv, hmod]

theorem nearest_mul_add (hlow : pow2 52 ≤ q) (hq : q < pow2 53) (hr : r < pow2 k) :
    nearest (q * pow2 k + r) 1 =
      (if 2 * r < pow2 k then q else if pow2 k < 2 * r then q + 1 else q + q % 2) * pow2 k := by
  rw [← nearest_mul_mul _ 1 (pow2_pos k), Nat.one_mul]
  exact nearest_grid hlow hq hr

theorem exists_mul_add (h : pow2 53 ≤ n) : ∃ q k r, 0 < k ∧ pow2 52 ≤ q ∧ q < pow2 53 ∧
    r < pow2 k ∧ n = q * pow2 k + r := by
  have hlog : 53 ≤ n.log2 := (Nat.le_log2 ((pow2_pos 53).trans_le h).ne').2 h
  have hpos : 0 < spacing n := by
    unfold spacing
    omega
  have hlow := @le_div_spacing n 1
  have hhigh := div_spacing_lt n 1
  rw [Nat.div_one, Nat.one_mul] at hlow hhigh
  exact ⟨n / pow2 (spacing n), spacing n, n % pow2 (spacing n), hpos, hlow hpos, hhigh,
    Nat.mod_lt _ (pow2_pos _), (Nat.div_add_mod' n _).symm⟩

theorem nearest_mul_pow2 (n k : Nat) : nearest (n * pow2 k) 1 = nearest n 1 * pow2 k := by
  rcases Nat.lt_or_ge n (pow2 53) with h | h
  · have hn := rounded_of_lt h
    rw [hn.nearest_eq, (hn.mul_pow2 k).nearest_eq]
  · obtain ⟨q, j, r, -, hlow, hq, hr, rfl⟩ := exists_mul_add h
    have hr' : r * pow2 k < pow2 (j + k) := by
      rw [pow2_add]
      exact Nat.mul_lt_mul_of_pos_right hr (pow2_pos k)
    have hscale : (q * pow2 j + r) * pow2 k = q * pow2 (j + k) + r * pow2 k := by
      rw [Nat.add_mul, pow2_add, Nat.mul_assoc]
    have hlt : ∀ a b, a * pow2 k < b * pow2 k ↔ a < b := fun a b =>
      Nat.mul_lt_mul_right (pow2_pos k)
    rw [hscale, nearest_mul_add hlow hq hr', nearest_mul_add hlow hq hr, pow2_add, ← Nat.mul_assoc,
      ← Nat.mul_assoc]
    simp only [hlt]

/-! ## Multiples of a spacing -/

theorem le_spacing (h : pow2 (52 + k) ≤ n) : k ≤ spacing n := by
  have hlog : 52 + k ≤ n.log2 := (Nat.le_log2 (Nat.lt_of_lt_of_le (pow2_pos _) h).ne').2 h
  unfold spacing
  omega

theorem pow2_dvd_nearest (h : pow2 (52 + k) ≤ n) : pow2 k ∣ nearest n 1 := by
  have hspacing : k ≤ spacing (n / 1) := le_spacing (by rwa [Nat.div_one])
  exact Dvd.dvd.mul_left (Nat.pow_dvd_pow 2 hspacing) _

theorem Rounded.pow2_dvd (h : Rounded n) (hn : pow2 (52 + k) ≤ n) : pow2 k ∣ n := by
  have hdvd := pow2_dvd_nearest hn
  rwa [h.nearest_eq] at hdvd

theorem rounded_of_pow2_dvd (hn : n < pow2 (53 + k)) (h : pow2 k ∣ n) : Rounded n := by
  obtain ⟨m, rfl⟩ := h
  rw [Nat.mul_comm, pow2_add] at hn
  exact ⟨m, k, Nat.lt_of_mul_lt_mul_right hn, Nat.mul_comm _ _⟩

theorem nearest_eq_self_iff : nearest n 1 = n ↔ Rounded n :=
  ⟨fun h => h ▸ rounded_nearest, Rounded.nearest_eq⟩

/-! ## The end of the range -/

/-- Below a power of two the last magnitude is one spacing away, and ends in a one. -/
theorem last_spec (k : Nat) : Rounded ((pow2 53 - 1) * pow2 k) ∧
    significand ((pow2 53 - 1) * pow2 k) % 2 = 1 ∧
    (pow2 53 - 1) * pow2 k + pow2 k = pow2 (53 + k) ∧
    ∀ n, Rounded n → n < pow2 (53 + k) → n ≤ (pow2 53 - 1) * pow2 k := by
  have hnext : (pow2 53 - 1 + 1) * pow2 k = pow2 (53 + k) := (pow2_add 53 k).symm
  refine ⟨⟨pow2 53 - 1, k, by decide, rfl⟩, ?_, ?_, fun n hn hlt => ?_⟩
  · rw [significand_mul_pow2 (by decide) fun _ => by decide]
    decide
  · rw [← hnext, Nat.add_one_mul]
  · have hcases := hn.le_or_le (q := pow2 53 - 1) (k := k) fun _ => by decide
    rw [hnext] at hcases
    exact hcases.resolve_right (Nat.not_le.2 hlt)

/-- A quotient is rounded up to a power of two from the mean with the magnitude before it on. -/
theorem pow2_le_nearest_iff (hden : 0 < den) (k : Nat) :
    pow2 (53 + (k + 1)) ≤ nearest num den ↔
      (pow2 (53 + (k + 1)) : ℚ) - pow2 k ≤ num / den := by
  obtain ⟨hlast, hodd, hnext, hmax⟩ := last_spec (k + 1)
  have hpow : Rounded (pow2 (53 + (k + 1))) := rounded_pow2 _
  have hstep : (0 : ℚ) < pow2 k := by exact_mod_cast pow2_pos k
  have hden' : (0 : ℚ) < den := by exact_mod_cast hden
  have hgap : (((pow2 53 - 1) * pow2 (k + 1) : ℕ) : ℚ) + 2 * pow2 k = pow2 (53 + (k + 1)) := by
    rw [← hnext, Nat.cast_add, pow2_succ k, Nat.cast_mul (pow2 k), Nat.cast_ofNat, mul_comm (2 : ℚ)]
  generalize (pow2 53 - 1) * pow2 (k + 1) = last at *
  generalize pow2 (53 + (k + 1)) = next at *
  constructor
  · intro h
    by_contra hlt
    have hle : (next : ℚ) ≤ nearest num den := by exact_mod_cast h
    -- the magnitude before the power is nearer
    obtain ⟨hnear, -⟩ := abs_nearest_sub_le num hden (t := last) hlast
    rw [Int.cast_natCast, abs_of_nonneg (by linarith)] at hnear
    rcases le_total (last : ℚ) (num / den) with hbelow | habove
    · rw [abs_of_nonpos (by linarith)] at hnear
      linarith
    · have hnum : num ≤ last * den := by
        rw [div_le_iff₀ hden'] at habove
        exact_mod_cast habove
      have hsmall : (nearest num den : ℚ) ≤ last := by exact_mod_cast nearest_le hden hlast hnum
      linarith
  · intro h
    by_contra hlt
    have hle : (nearest num den : ℚ) ≤ last := by
      exact_mod_cast hmax _ rounded_nearest (Nat.not_le.1 hlt)
    have habove : (num : ℚ) / den < next := by
      rw [div_lt_iff₀ hden']
      by_contra hnum
      exact hlt (le_nearest hden hpow (by exact_mod_cast not_lt.1 hnum))
    -- both are as near, so the tie decides
    obtain ⟨hnear, htie⟩ := abs_nearest_sub_le num hden (t := next) hpow
    rw [Int.cast_natCast, abs_sub_comm (nearest num den : ℚ), abs_of_nonneg (by linarith),
      abs_of_nonneg (by linarith)] at hnear htie
    have heq : (nearest num den : ℚ) = last := by linarith
    rcases htie (by linarith) with hnext | heven
    · exact hlt (by omega)
    · rw [Nat.cast_inj.1 heq, hodd] at heven
      contradiction

/-- A magnitude is rounded to a finite one: it is less than the mean of the largest magnitude and
the power of two after it. -/
def InRange (r : ℚ) : Prop := r < 2 ^ 1024 - 2 ^ 970

theorem inRange_of_le {r : ℚ} (h : r ≤ 2 ^ 1023) : InRange r := by
  have hlt : (2 : ℚ) ^ 970 < 2 ^ 1023 := pow_lt_pow_right₀ one_lt_two (by decide)
  have hnext : (2 : ℚ) ^ 1024 = 2 ^ 1023 * 2 := pow_succ 2 1023
  rw [InRange, hnext, mul_two, lt_sub_iff_add_lt]
  exact add_lt_add_of_le_of_lt h hlt

theorem overflow_le_nearest_iff (hden : 0 < den) {r : ℚ} (h : (num : ℚ) / den = r * one) :
    overflow ≤ nearest num den ↔ ¬ InRange r := by
  have hmean : ∀ a b, (pow2 (a + fractionBits) : ℚ) - pow2 (b + fractionBits) =
      (2 ^ a - 2 ^ b) * one := fun a b => by
    rw [pow2_add, pow2_add, Nat.cast_mul, Nat.cast_mul, ← sub_mul, cast_pow2 a, cast_pow2 b, one]
  have hiff := @pow2_le_nearest_iff num den hden (970 + fractionBits)
  have hexponent : 53 + (970 + fractionBits + 1) = 1024 + fractionBits := by omega
  rw [hexponent, hmean 1024 970, h, mul_le_mul_iff_left₀ cast_one_pos] at hiff
  rw [InRange, not_lt, overflow, hiff]

/-! ## Neighbours -/

theorem Rounded.exists_grid (h : Rounded n) :
    ∃ q k, n = q * pow2 k ∧ q < pow2 53 ∧ (0 < k → pow2 52 ≤ q) := by
  rcases Nat.lt_or_ge n (pow2 53) with hn | hn
  · exact ⟨n, 0, (Nat.mul_one n).symm, hn, fun h0 => absurd h0 (Nat.lt_irrefl 0)⟩
  · obtain ⟨q, k, r, -, hlow, hq, hr, rfl⟩ := exists_mul_add hn
    refine ⟨q, k, ?_, hq, fun _ => hlow⟩
    have hcases := h.le_or_le (q := q) (k := k) fun _ => hlow
    rw [Nat.add_one_mul] at hcases
    omega

/-- Between two magnitudes that end in a zero there is another one. -/
theorem exists_between (hm : Rounded m) (hn : Rounded n) (hlt : m < n)
    (heven : significand m % 2 = 0) (heven' : significand n % 2 = 0) :
    ∃ c, Rounded c ∧ m < c ∧ c < n := by
  -- the next magnitude on the grid of the lower one ends in a one, so it is not the upper one
  obtain ⟨q, k, rfl, hq, hk⟩ := hm.exists_grid
  rw [significand_mul_pow2 hq hk] at heven
  have htwo : pow2 53 % 2 = 0 := rfl
  have hq' : q + 1 < pow2 53 := by omega
  have hk' : 0 < k → pow2 52 ≤ q + 1 := fun h => (hk h).trans (Nat.le_succ q)
  have hnext : (q + 1) * pow2 k ≤ n := (hn.le_or_le hk).resolve_left (Nat.not_le.2 hlt)
  refine ⟨(q + 1) * pow2 k, ⟨q + 1, k, hq', rfl⟩, ?_, Nat.lt_of_le_of_ne hnext ?_⟩
  · exact Nat.mul_lt_mul_of_pos_right (Nat.lt_succ_self q) (pow2_pos k)
  · rintro rfl
    rw [significand_mul_pow2 hq' hk'] at heven'
    omega

/-! ## Numbers -/

namespace Binary64

variable {negative : Bool} {r : ℚ} {x : Binary64}

/-- The number is what a magnitude with a sign is rounded to. -/
inductive IsRounded (negative : Bool) (r : ℚ) : Binary64 → Prop where
  | finite {units : Nat} {h : Representable units} : InRange r →
    (finite negative units h).IsNearest (signed negative 1 * r) →
    IsRounded negative r (finite negative units h)
  | infinite : ¬ InRange r → IsRounded negative r (infinite negative)

theorem infinite_isRounded_iff : (infinite negative).IsRounded negative r ↔ ¬ InRange r :=
  ⟨fun h => by cases h; assumption, .infinite⟩

theorem not_isRounded_nan : ¬ nan.IsRounded negative r := by
  intro h
  cases h

theorem value_lt (negative : Bool) (hm : Representable m) (hn : Representable n) (h : m < n) :
    if negative then (finite negative n hn).value < (finite negative m hm).value
    else (finite negative m hm).value < (finite negative n hn).value := by
  have hcast : (m : ℚ) / one < n / one :=
    div_lt_div_of_pos_right (by exact_mod_cast h) cast_one_pos
  rw [value, value, signed_eq_mul negative m, signed_eq_mul negative n, Int.cast_mul, Int.cast_mul,
    Int.cast_natCast, Int.cast_natCast, mul_div_assoc, mul_div_assoc]
  cases negative with
  | false =>
    have hsign : signed false 1 = 1 := rfl
    rw [hsign, Int.cast_one, one_mul, one_mul, if_neg Bool.false_ne_true]
    exact hcast
  | true =>
    have hsign : signed true 1 = -1 := rfl
    rw [hsign, Int.cast_neg, Int.cast_one, neg_one_mul, neg_one_mul, if_pos rfl]
    exact neg_lt_neg hcast

theorem abs_sub_lt {a b c r : ℚ} (h : |b - r| = |a - r|) (hc : a < c ∧ c < b ∨ b < c ∧ c < a) :
    |c - r| < |a - r| := by
  rcases abs_eq_abs.1 h with h | h
  · rcases hc with hc | hc <;> linarith
  · rw [abs_lt]
    rcases hc with hc | hc
    · rw [abs_of_nonpos (by linarith)]
      constructor <;> linarith
    · rw [abs_of_nonneg (by linarith)]
      constructor <;> linarith

theorem IsNearest.not_lt {hm : Representable m} {hn : Representable n}
    (h : (finite negative m hm).IsNearest r) (h' : (finite negative n hn).IsNearest r) :
    ¬ m < n := by
  intro hlt
  have hdist : |(finite negative n hn).value - r| = |(finite negative m hm).value - r| :=
    le_antisymm (h'.nearest _ rfl) (h.nearest _ rfl)
  have hne : (finite negative n hn).value ≠ (finite negative m hm).value := by
    have hvalue := value_lt negative hm hn hlt
    cases negative
    · exact hvalue.ne'
    · exact hvalue.ne
  obtain ⟨c, hc, hmc, hcn⟩ := exists_between hm.rounded hn.rounded hlt
    ((h.even _ rfl hdist).resolve_left hne) ((h'.even _ rfl hdist.symm).resolve_left hne.symm)
  have hc' : Representable c := hc.representable (hcn.trans hn.lt_overflow)
  refine absurd (h.nearest (finite negative c hc') rfl) (not_le.2 (abs_sub_lt hdist ?_))
  have hleft := value_lt negative hm hc' hmc
  have hright := value_lt negative hc' hn hcn
  cases negative
  · exact .inl ⟨hleft, hright⟩
  · exact .inr ⟨hright, hleft⟩

theorem IsNearest.unique {hm : Representable m} {hn : Representable n}
    (h : (finite negative m hm).IsNearest r) (h' : (finite negative n hn).IsNearest r) : m = n :=
  Nat.le_antisymm (Nat.not_lt.1 (h'.not_lt h)) (Nat.not_lt.1 (h.not_lt h'))

theorem infinite_ne_nan : infinite negative ≠ nan := by
  intro h
  cases h

theorem round_ne_nan : round negative num den ≠ nan := by
  unfold round
  split
  · intro h
    cases h
  · exact infinite_ne_nan

theorem round_eq_round_iff (h : nearest n 1 < overflow) :
    round negative m 1 = round negative n 1 ↔ nearest m 1 = nearest n 1 := by
  constructor
  · intro heq
    rw [round_eq_finite rfl (representable_nearest h)] at heq
    exact nearest_of_round_eq heq
  · intro heq
    unfold round
    simp only [heq]

/-- **A magnitude is rounded to one number**, which is what rounding its quotient gives. -/
theorem isRounded_iff (hden : 0 < den) (h : (num : ℚ) / den = r * one) :
    x.IsRounded negative r ↔ x = round negative num den := by
  have hiff := overflow_le_nearest_iff hden h
  rw [← not_lt, not_iff_not] at hiff
  have hnearest : InRange r → (round negative num den).IsNearest (signed negative 1 * r) := by
    intro hr
    have hround := @isNearest_round num den negative hden (hiff.2 hr)
    rwa [h, ← mul_assoc, mul_div_cancel_right₀ _ cast_one_pos.ne'] at hround
  by_cases hr : InRange r
  · have hround : round negative num den = finite negative _ (representable_nearest (hiff.2 hr)) :=
      round_eq_finite rfl _
    rw [hround] at hnearest ⊢
    constructor
    · rintro (⟨-, hx⟩ | h0)
      · obtain rfl := hx.unique (hnearest hr)
        rfl
      · exact absurd hr h0
    · rintro rfl
      exact .finite hr (hnearest hr)
  · rw [round_eq_infinite (not_lt.1 fun h0 => hr (hiff.1 h0))]
    constructor
    · rintro (⟨h0, -⟩ | -)
      · exact absurd h0 hr
      · rfl
    · rintro rfl
      exact .infinite hr

end Binary64

end PrintSettings.Numeric
