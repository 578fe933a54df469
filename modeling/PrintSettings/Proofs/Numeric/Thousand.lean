import PrintSettings.Proofs.Numeric.Whole

/-! # Thousandths

The number nearest to `m` thousandths, times a thousand, need not be `m`: both steps round. Scaled
by a power of two, `m` is a multiple of a thousand and a rest (`exists_scale`), and the rest decides
everything. A rest above half of a thousand is rounded up at first, so the product is `m` or just
above it. A rest below half of a thousand is rounded away at first, and the product comes back to
`m` unless the rest is above 256 and the grid below `m` is fine enough to keep the difference
(`FallsShort`); then the product is just below `m`, so its whole part is `m - 1`
(`whole_thousandths`).

* `nearest_mul_sub`: what is rounded from just below a place on the grid.
* `FallsShort`: the numbers of thousandths that are not restored. -/

namespace PrintSettings.Numeric

variable {m a q r k s : Nat}

/-! ## Places on a grid -/

theorem rounded_of_le (h : m ≤ pow2 53) : Rounded m := by
  rcases Nat.lt_or_eq_of_le h with h | rfl
  · exact rounded_of_lt h
  · exact rounded_pow2 53

/-- Just below a place on the grid, a whole number is rounded to that place or to the one before. -/
theorem nearest_mul_sub (hlow : pow2 52 < a) (ha : a ≤ pow2 53) (hr : r < pow2 k)
    (heven : 2 * r = pow2 k → a % 2 = 0) :
    nearest (a * pow2 k - r) 1 = if pow2 k < 2 * r then (a - 1) * pow2 k else a * pow2 k := by
  rcases Nat.eq_zero_or_pos r with rfl | hpos
  · rw [if_neg (Nat.not_lt_zero _), Nat.sub_zero]
    exact ((rounded_of_le ha).mul_pow2 k).nearest_eq
  obtain ⟨b, rfl⟩ := Nat.exists_eq_add_of_le' (Nat.zero_lt_of_lt hlow)
  have hbelow : (b + 1) * pow2 k - r = b * pow2 k + (pow2 k - r) := by
    rw [Nat.add_one_mul]
    omega
  rw [hbelow, nearest_mul_add (by omega) (by omega) (by omega), Nat.add_sub_cancel]
  rcases Nat.lt_trichotomy (pow2 k) (2 * r) with h | h | h
  · rw [if_pos h, if_pos (by omega)]
  · -- half way, so the place is the even neighbour
    have hodd : b % 2 = 1 := by
      have := heven h.symm
      omega
    rw [if_neg (by omega), if_neg (by omega), if_neg (by omega), hodd]
  · rw [if_neg (by omega), if_pos (by omega), if_neg (by omega)]

/-! ## Scales -/

/-- A number is scaled by one power of two to between `1000 · 2⁵²` and `1000 · 2⁵³`. -/
theorem exists_scale (h0 : 0 < m) (h : m < pow2 52) : ∃ s, 10 ≤ s ∧ s < 63 ∧
    1000 * pow2 52 ≤ m * pow2 s ∧ m * pow2 s < 1000 * pow2 53 := by
  have hlow := pow2_log2_le h0.ne'
  have hhigh := lt_pow2_log2 m
  have hlog : m.log2 < 52 := lt_of_pow2_lt_pow2 (hlow.trans_lt h)
  obtain ⟨j, hj⟩ := Nat.exists_eq_add_of_le (Nat.lt_succ_iff.1 hlog)
  have hbelow : pow2 61 ≤ m * pow2 (10 + j) := by
    calc pow2 61 = pow2 m.log2 * pow2 (10 + j) := by rw [← pow2_add]; congr 1; omega
      _ ≤ m * pow2 (10 + j) := Nat.mul_le_mul_right _ hlow
  have habove : m * pow2 (10 + j) < pow2 62 := by
    calc m * pow2 (10 + j) < pow2 (m.log2 + 1) * pow2 (10 + j) :=
        Nat.mul_lt_mul_of_pos_right hhigh (pow2_pos _)
      _ = pow2 62 := by rw [← pow2_add]; congr 1; omega
  have hnext : m * pow2 (10 + j + 1) = m * pow2 (10 + j) * 2 := by rw [pow2_succ, Nat.mul_assoc]
  have h52 : pow2 52 = 0x10000000000000 := rfl
  have h53 : pow2 53 = 0x20000000000000 := rfl
  have h61 : pow2 61 = 0x2000000000000000 := rfl
  have h62 : pow2 62 = 0x4000000000000000 := rfl
  rcases Nat.lt_or_ge (m * pow2 (10 + j)) (1000 * pow2 52) with hsmall | hlarge
  · exact ⟨10 + j + 1, by omega, by omega, by omega, by omega⟩
  · exact ⟨10 + j, by omega, by omega, hlarge, by omega⟩

theorem scale_unique {s' : Nat} (hlow : 1000 * pow2 52 ≤ m * pow2 s)
    (hhigh : m * pow2 s' < 1000 * pow2 53) : s' ≤ s := by
  by_contra hlt
  have hnext : 2 * (m * pow2 s) ≤ m * pow2 s' := by
    calc 2 * (m * pow2 s) = m * pow2 (s + 1) := by rw [pow2_succ]; ring
      _ ≤ m * pow2 s' := Nat.mul_le_mul_left _ (pow2_le_pow2 (Nat.not_le.1 hlt))
  rw [pow2_succ 52] at hhigh
  omega

/-- The numbers of thousandths that are not restored. Scaled, such a number lies above a multiple of
a thousand by more than 256 and less than half of a thousand, and at most 2.4 per cent above a
thousand times a power of two. -/
def FallsShort (m : Nat) : Prop := ∃ s < 63, 1000 * pow2 52 ≤ m * pow2 s ∧
  m * pow2 s ≤ 1024 * pow2 52 ∧ 256 < m * pow2 s % 1000 ∧ m * pow2 s % 1000 < 500

instance : DecidablePred FallsShort := fun m =>
  inferInstanceAs (Decidable (∃ s < 63, 1000 * pow2 52 ≤ m * pow2 s ∧
    m * pow2 s ≤ 1024 * pow2 52 ∧ 256 < m * pow2 s % 1000 ∧ m * pow2 s % 1000 < 500))

theorem fallsShort_iff (hs : s < 63) (hlow : 1000 * pow2 52 ≤ m * pow2 s)
    (hhigh : m * pow2 s < 1000 * pow2 53) : FallsShort m ↔ m * pow2 s ≤ 1024 * pow2 52 ∧
      256 < m * pow2 s % 1000 ∧ m * pow2 s % 1000 < 500 := by
  constructor
  · rintro ⟨s', -, hlow', hrest⟩
    have hlt : m * pow2 s' < 1000 * pow2 53 := by
      have h52 : pow2 53 = pow2 52 * 2 := pow2_succ 52
      have := pow2_pos 52
      omega
    obtain rfl : s' = s := Nat.le_antisymm (scale_unique hlow hlt) (scale_unique hlow' hhigh)
    exact hrest
  · exact fun hrest => ⟨s, hs, hlow, hrest⟩

/-! ## Both roundings -/

/-- What scaled thousandths are first rounded to: the multiple of a thousand that is nearer. -/
def roundedScale (q r : Nat) : Nat := if r < 500 then q else q + 1

/-- A rest of half of a thousand would be no multiple of eight. -/
theorem rest_ne (hs : 3 ≤ s) (hscale : m * pow2 s = 1000 * q + r) : r ≠ 500 := by
  obtain ⟨j, rfl⟩ := Nat.exists_eq_add_of_le hs
  have height : m * pow2 (3 + j) = 8 * (m * pow2 j) := by
    have h8 : pow2 3 = 8 := rfl
    rw [pow2_add, h8]
    ring
  omega

theorem nearest_thousandths {t : Nat} (hs : 3 ≤ s) (hscale : m * pow2 s = 1000 * q + r)
    (hlow : pow2 52 ≤ q) (hq : q < pow2 53) (hr : r < 1000) :
    nearest (m * pow2 s * pow2 t) 1000 = roundedScale q r * pow2 t := by
  have hne := rest_ne hs hscale
  rw [hscale, Nat.mul_comm 1000 q, nearest_grid hlow hq hr, roundedScale]
  congr 1
  split_ifs <;> omega

/-- After a rest is rounded away, a thousand times the multiple is just below the number, where the
grid is twice as fine up to the next power of two as it is beyond. -/
theorem nearest_below {c : Nat} (hscale : 1024 * c = 1000 * q + r) (hr : r < 500)
    (hlow : 1000 * pow2 52 ≤ 1024 * c) (hhigh : 1024 * c < 1000 * pow2 53) :
    nearest (q * 1000) 1 = if c ≤ pow2 52 ∧ 256 < r then 1024 * c - 512 else 1024 * c := by
  have h9 : pow2 9 = 512 := rfl
  have h10 : pow2 10 = 1024 := rfl
  have h53 : pow2 53 = pow2 52 * 2 := pow2_succ 52
  have hpos := pow2_pos 52
  have hfine : q * 1000 = 2 * c * pow2 9 - r := by
    rw [h9]
    omega
  have hcoarse : q * 1000 = c * pow2 10 - r := by
    rw [h10]
    omega
  -- the size of the power is of no account, and too large to reckon with
  generalize hpower : pow2 52 = p at *
  by_cases hc : c ≤ p
  · rw [hfine, nearest_mul_sub (by omega) (by omega) (by omega) (by omega), h9]
    clear hfine hcoarse hpower h53 hlow hhigh
    split_ifs <;> omega
  · rw [hcoarse, nearest_mul_sub (by omega) (by omega) (by omega) (by omega), h10]
    clear hfine hcoarse hpower h53 hlow hhigh
    split_ifs <;> omega

/-- After a rest is rounded up, a thousand times the multiple is the number or just above it. -/
theorem nearest_above (hs : 10 ≤ s) (hm : m < pow2 52) (hscale : m * pow2 s = 1000 * q + r)
    (hr : 500 < r) (hr' : r < 1000) : m * pow2 s ≤ nearest ((q + 1) * 1000) 1 ∧
      nearest ((q + 1) * 1000) 1 < (m + 1) * pow2 s := by
  obtain ⟨j, rfl⟩ := Nat.exists_eq_add_of_le hs
  have hplace : Rounded (m * pow2 (10 + j)) :=
    (rounded_of_lt (hm.trans (by decide))).mul_pow2 (10 + j)
  -- half of the step to the next whole number
  have hhalf : Rounded ((2 * m + 1) * pow2 (9 + j)) := by
    refine (rounded_of_lt ?_).mul_pow2 (9 + j)
    rw [pow2_succ 52]
    omega
  have hstep : pow2 (10 + j) = 2 * pow2 (9 + j) := by
    rw [Nat.mul_comm, ← pow2_succ]
    congr 1
    omega
  have h9 : pow2 9 = 512 := rfl
  have hlarge : pow2 9 ≤ pow2 (9 + j) := pow2_le_pow2 (Nat.le_add_right 9 j)
  have hmiddle : (2 * m + 1) * pow2 (9 + j) = m * pow2 (10 + j) + pow2 (9 + j) := by
    rw [hstep]
    ring
  have hnext : (m + 1) * pow2 (10 + j) = m * pow2 (10 + j) + 2 * pow2 (9 + j) := by
    rw [Nat.add_one_mul, hstep]
  refine ⟨le_nearest Nat.one_pos hplace (by omega), ?_⟩
  have hle : nearest ((q + 1) * 1000) 1 ≤ (2 * m + 1) * pow2 (9 + j) :=
    nearest_le Nat.one_pos hhalf (by omega)
  omega

theorem sub_div_pow2 (hs : 10 ≤ s) (hpos : 0 < m) : (m * pow2 s - 512) / pow2 s = m - 1 := by
  obtain ⟨b, rfl⟩ : ∃ b, m = b + 1 := Nat.exists_eq_add_of_le' hpos
  have hstep : pow2 10 ≤ pow2 s := pow2_le_pow2 hs
  have h10 : pow2 10 = 1024 := rfl
  have hsub : (b + 1) * pow2 s - 512 = b * pow2 s + (pow2 s - 512) := by
    rw [Nat.add_one_mul]
    omega
  rw [hsub, mul_add_div_pow2 b (by omega), Nat.add_sub_cancel]

/-- What scaled thousandths come back to is the number or, if they fall short, the one before. -/
theorem div_nearest_roundedScale (hs : 10 ≤ s) (hpos : 0 < m) (hm : m < pow2 52)
    (hscale : m * pow2 s = 1000 * q + r) (hr : r < 1000) (hlow : 1000 * pow2 52 ≤ m * pow2 s)
    (hhigh : m * pow2 s < 1000 * pow2 53) : nearest (roundedScale q r * 1000) 1 / pow2 s =
      if m * pow2 s ≤ 1024 * pow2 52 ∧ 256 < r ∧ r < 500 then m - 1 else m := by
  have hne := rest_ne (by omega) hscale
  rcases Nat.lt_or_gt_of_ne hne with hr' | hr'
  · obtain ⟨j, rfl⟩ := Nat.exists_eq_add_of_le hs
    have h1024 : m * pow2 (10 + j) = 1024 * (m * pow2 j) := by
      have h10 : pow2 10 = 1024 := rfl
      rw [pow2_add, h10]
      ring
    have hiff : m * pow2 (10 + j) ≤ 1024 * pow2 52 ∧ 256 < r ∧ r < 500 ↔
        m * pow2 j ≤ pow2 52 ∧ 256 < r := by
      rw [h1024]
      omega
    rw [h1024] at hscale hlow hhigh
    rw [roundedScale, if_pos hr', nearest_below hscale hr' hlow hhigh, if_congr hiff rfl rfl,
      ← h1024]
    split_ifs
    · exact sub_div_pow2 hs hpos
    · exact Nat.mul_div_cancel m (pow2_pos _)
  · obtain ⟨hle, hlt⟩ := nearest_above hs hm hscale hr' hr
    rw [roundedScale, if_neg (by omega), if_neg (by omega)]
    exact Nat.div_eq_of_lt_le hle hlt

/-- **Thousandths are restored**, times a thousand and cut to a whole number, unless they fall
short; then it is the number before. -/
theorem whole_thousandths (h : m < pow2 52) :
    nearest (nearest (m * one) 1000 * 1000) 1 / one = if FallsShort m then m - 1 else m := by
  rcases Nat.eq_zero_or_pos m with rfl | hpos
  · rw [Nat.zero_mul, nearest_eq_zero (by decide), Nat.zero_div, Nat.zero_sub, ite_self]
  obtain ⟨s, hs, hs', hlow, hhigh⟩ := exists_scale hpos h
  have hscale := (Nat.div_add_mod (m * pow2 s) 1000).symm
  have hr : m * pow2 s % 1000 < 1000 := Nat.mod_lt _ (by decide)
  have hone : one = pow2 s * pow2 (fractionBits - s) := by
    rw [one, ← pow2_add]
    congr 1
    unfold fractionBits
    omega
  have hfirst : nearest (m * one) 1000 =
      roundedScale (m * pow2 s / 1000) (m * pow2 s % 1000) * pow2 (fractionBits - s) := by
    rw [hone, ← Nat.mul_assoc]
    exact nearest_thousandths (by omega) hscale (by omega) (by omega) hr
  rw [hfirst, Nat.mul_right_comm, nearest_mul_pow2, hone, Nat.mul_div_mul_right _ _ (pow2_pos _),
    div_nearest_roundedScale hs hpos h hscale hr hlow hhigh,
    if_congr (fallsShort_iff hs' hlow hhigh) rfl rfl]

end PrintSettings.Numeric
