import PrintSettings.Proofs.Numeric.Range
import PrintSettings.Proofs.Numeric.Whole
import PrintSettings.Proofs.Value.Circle

/-! # Angles brought onto the circle again

An angle is already on the circle, but bringing it there once more adds a full turn to it, and this
sum is rounded. The angle comes back unchanged exactly if the sum needs no rounding
(`again_eq_self_iff`). Below eight it never does, because whatever was brought onto the circle is a
multiple of the spacing of such sums (`pow2_dvd_of_wrapped`). From eight on the spacing is twice as
wide (`rounded_add_iff`), and angles between its multiples are moved to one of them, the last one to
zero (`again_near`). Then nothing is moved any more (`rounded_add_again`). Nothing is moved at all
if the number that the angle was made of is not negative, since it came from just such a sum.

Adding the zero angle, or taking it away, does the same as bringing the angle onto the circle again
(`settled_eq_iff`). -/

namespace PrintSettings.Value.Angle

open PrintSettings.Numeric
open PrintSettings.Numeric.Binary64 (signed)

variable {m n : Nat} {x y : Binary64}

/-! ## Where a full turn lies -/

theorem four_add_two_lt : pow2 (52 + 1024) + pow2 1075 < fullTurn := by decide +kernel

theorem eight_lt : pow2 (53 + 1024) < fullTurn + pow2 1075 := by decide +kernel

theorem pow2_dvd_fullTurn : pow2 1025 ∣ fullTurn := by decide +kernel

theorem pow2_dvd_fullTurn' : pow2 1024 ∣ fullTurn := Dvd.intro_left _ rfl

theorem rounded_fullTurn : Rounded fullTurn := representable_fullTurn.rounded

theorem rounded_two_fullTurn : Rounded (2 * fullTurn) :=
  ⟨0x1921fb54442d18, 1025, by decide, by decide +kernel⟩

/-! ## One step -/

/-- A magnitude less than a full turn, taken forward or backward from one full turn on. -/
def ahead (negative : Bool) (m : Nat) : Nat := if negative then fullTurn - m else fullTurn + m

theorem ahead_bounds (negative : Bool) (hm : m < fullTurn) :
    0 < ahead negative m ∧ ahead negative m < 2 * fullTurn ∧
      signed negative m + signed false fullTurn = ahead negative m := by
  cases negative <;> simp only [ahead, signed, if_true, Bool.false_eq_true, if_false] <;> omega

/-- A number is wrapped to what lies ahead, rounded, without whole turns. -/
theorem isPlace_wrap_finite {b : Bool} {units : Nat} (h : Representable units) :
    IsPlace (nearest (ahead b (units % fullTurn)) 1 % fullTurn) (wrap (.finite b units h)) := by
  obtain ⟨hpos, hlt, hsum⟩ := ahead_bounds b (Nat.mod_lt units fullTurn_pos)
  have hsmall : nearest (ahead b (units % fullTurn)) 1 < overflow := by
    refine Nat.lt_of_le_of_lt (nearest_le Nat.one_pos rounded_two_fullTurn ?_) ?_
    · rw [Nat.mul_one]
      exact hlt.le
    · decide +kernel
  refine ⟨Nat.mod_lt _ fullTurn_pos, (representable_nearest hsmall).mod representable_fullTurn, ?_⟩
  have hif : wrap (.finite b units h) = (.finite b units h % tau + tau) % tau := rfl
  have hadd : (.finite b (units % fullTurn) (h.mod representable_fullTurn) + tau : Binary64) =
      .finite false _ (representable_nearest hsmall) := by
    rw [tau_eq, Binary64.add_finite, hsum, if_neg (by omega), Int.natAbs_natCast,
      decide_eq_false (by omega)]
    exact Binary64.round_eq_finite rfl _
  rw [hif, rem_tau, hadd, rem_tau]

theorem IsPlace.eq_iff (hx : IsPlace m x) (hy : IsPlace n y) : x = y ↔ m = n := by
  obtain ⟨-, _, rfl⟩ := hx
  obtain ⟨-, _, rfl⟩ := hy
  exact ⟨fun h => (Binary64.finite.inj h).2, fun h => by subst h; rfl⟩

theorem isPlace_zero : IsPlace 0 0 := ⟨fullTurn_pos, representable_zero, zero_eq⟩

/-- The place that a place is wrapped to. -/
def again (n : Nat) : Nat := nearest (fullTurn + n) 1 % fullTurn

theorem IsPlace.again (h : IsPlace n x) : IsPlace (again n) (wrap x) := by
  obtain ⟨hn, hrepresentable, rfl⟩ := h
  have hplace := isPlace_wrap_finite (b := false) hrepresentable
  rwa [Nat.mod_eq_of_lt hn] at hplace

/-! ## Stable places -/

theorem again_cases (hn : n < fullTurn) :
    nearest (fullTurn + n) 1 = fullTurn + again n ∨
      nearest (fullTurn + n) 1 = 2 * fullTurn ∧ again n = 0 := by
  have hlow : fullTurn ≤ nearest (fullTurn + n) 1 :=
    le_nearest Nat.one_pos rounded_fullTurn (by omega)
  have hhigh : nearest (fullTurn + n) 1 ≤ 2 * fullTurn :=
    nearest_le Nat.one_pos rounded_two_fullTurn (by omega)
  unfold again
  rcases Nat.lt_or_eq_of_le hhigh with hlt | heq
  · left
    rw [Nat.mod_eq_sub_mod hlow, Nat.mod_eq_of_lt (by omega)]
    omega
  · right
    rw [heq, Nat.mul_mod_left]
    exact ⟨rfl, rfl⟩

/-- **A place is stable exactly if its sum with a full turn is not rounded.** -/
theorem again_eq_self_iff (hn : n < fullTurn) : again n = n ↔ Rounded (fullTurn + n) := by
  rw [← nearest_eq_self_iff]
  rcases again_cases hn with h | ⟨h, hzero⟩
  · omega
  · constructor
    · intro hself
      -- at zero the sum is the full turn itself
      have hturn : nearest (fullTurn + n) 1 = fullTurn := by
        rw [← hself, hzero, Nat.add_zero]
        exact rounded_fullTurn.nearest_eq
      have hpos := fullTurn_pos
      omega
    · omega

theorem rounded_add_again (hn : n < fullTurn) : Rounded (fullTurn + again n) := by
  rcases again_cases hn with h | ⟨-, hzero⟩
  · rw [← h]
    exact rounded_nearest
  · rw [hzero, Nat.add_zero]
    exact rounded_fullTurn

/-- What was wrapped is a multiple of the spacing of sums below eight, if its sum is one of them. -/
theorem pow2_dvd_of_wrapped {b : Bool} (hm : Rounded m) (hlt : m < fullTurn)
    (hbelow : fullTurn + nearest (ahead b m) 1 % fullTurn < pow2 (53 + 1024)) :
    pow2 1024 ∣ nearest (ahead b m) 1 % fullTurn := by
  have hfour := four_add_two_lt
  have height := eight_lt
  rw [Nat.dvd_mod_iff pow2_dvd_fullTurn']
  rcases Nat.lt_or_ge (ahead b m) (pow2 (52 + 1024)) with hsmall | hlarge
  · cases b with
    | false =>
      simp only [ahead, Bool.false_eq_true, if_false] at hsmall
      omega
    | true =>
      simp only [ahead, if_true] at hsmall hbelow ⊢
      -- less than four is less than a full turn, so the place is the sum, and less than two
      have hle : nearest (fullTurn - m) 1 ≤ pow2 (52 + 1024) :=
        nearest_le Nat.one_pos (rounded_pow2 _) (by omega)
      rw [Nat.mod_eq_of_lt (by omega)] at hbelow
      have htwo : fullTurn - m < pow2 1075 := by
        by_contra hge
        have hge' : pow2 1075 ≤ nearest (fullTurn - m) 1 :=
          le_nearest Nat.one_pos (rounded_pow2 1075) (by omega)
        omega
      -- so the magnitude is above four, and the sum is exact
      have hdvd : pow2 1024 ∣ fullTurn - m :=
        Nat.dvd_sub pow2_dvd_fullTurn' (hm.pow2_dvd (by omega))
      have hexact := rounded_of_pow2_dvd (hsmall.trans_le (pow2_le_pow2 (by omega))) hdvd
      rwa [hexact.nearest_eq]
  · exact pow2_dvd_nearest hlarge

/-- Sums with a full turn are exact on their grid, which is wider from eight on. -/
theorem rounded_add_iff (hn : n < fullTurn)
    (hgrid : fullTurn + n < pow2 (53 + 1024) → pow2 1024 ∣ n) :
    Rounded (fullTurn + n) ↔ fullTurn + n < pow2 (53 + 1024) ∨ pow2 1025 ∣ n := by
  have hend : fullTurn + n < pow2 (53 + 1025) := by
    have htwo := two_fullTurn_lt
    omega
  constructor
  · intro h
    rcases Nat.lt_or_ge (fullTurn + n) (pow2 (53 + 1024)) with hlt | hge
    · exact .inl hlt
    · exact .inr ((Nat.dvd_add_right pow2_dvd_fullTurn).1 (h.pow2_dvd (k := 1025) hge))
  · rintro (hlt | hdvd)
    · exact rounded_of_pow2_dvd hlt (Nat.dvd_add pow2_dvd_fullTurn' (hgrid hlt))
    · exact rounded_of_pow2_dvd hend (Nat.dvd_add pow2_dvd_fullTurn hdvd)

/-- A place that moves goes to the nearest place of the wider grid, or from the end of the circle to
its start. -/
theorem again_near (hn : n < fullTurn) : ∃ k : Int, (k = 0 ∨ k = -1 ∧ again n = 0) ∧
    2 * |(again n : Int) - (n + k * fullTurn)| ≤ pow2 1025 := by
  have hnear : 2 * |(nearest (fullTurn + n) 1 : Int) - (fullTurn + n : Nat)| ≤ pow2 1025 := by
    have htwo := two_fullTurn_lt
    exact abs_nearest_one_sub_le (k := 1025) (by omega)
  -- the second remainder takes off one full turn, or two
  rcases again_cases hn with h | ⟨h, hzero⟩
  · refine ⟨0, .inl rfl, ?_⟩
    rw [h] at hnear
    have hsame : (again n : Int) - (n + 0 * fullTurn) =
        (fullTurn + again n : Nat) - (fullTurn + n : Nat) := by
      push_cast
      ring
    rwa [hsame]
  · refine ⟨-1, .inr ⟨rfl, hzero⟩, ?_⟩
    rw [h] at hnear
    have hsame : (again n : Int) - (n + -1 * fullTurn) =
        (2 * fullTurn : Nat) - (fullTurn + n : Nat) := by
      rw [hzero]
      push_cast
      ring
    rwa [hsame]

/-! ## Units and radians -/

theorem tau_value : tau.value = fullTurn / one := by
  rw [tau_eq, Binary64.value_finite, signed_false, Int.cast_natCast]

theorem one_eq : (one : ℚ) = pow2 1025 * 2 ^ 49 := by
  have hnat : one = pow2 1025 * pow2 49 := pow2_add 1025 49
  rw [hnat, Nat.cast_mul, cast_pow2 49]

theorem add_tau_lt_iff : (n : ℚ) / one + tau.value < 8 ↔ fullTurn + n < pow2 (53 + 1024) := by
  have height : ((pow2 (53 + 1024) : ℕ) : ℚ) = pow2 1025 * 2 ^ 52 := by
    have hnat : pow2 (53 + 1024) = pow2 1025 * pow2 52 := pow2_add 1025 52
    rw [hnat, Nat.cast_mul, cast_pow2 52]
  have hpow : (0 : ℚ) < pow2 1025 := by exact_mod_cast pow2_pos 1025
  rw [← Nat.cast_lt (α := ℚ), height, Nat.cast_add, tau_value, one_eq, ← add_div]
  generalize (pow2 1025 : ℚ) = p at *
  rw [div_lt_iff₀ (by positivity), add_comm]
  constructor <;> intro h <;> linarith

theorem exists_eq_div_iff : (∃ k : Nat, (n : ℚ) / one = k / 2 ^ 49) ↔ pow2 1025 ∣ n := by
  have hpow : (pow2 1025 : ℚ) ≠ 0 := by exact_mod_cast (pow2_pos 1025).ne'
  refine exists_congr fun k => ?_
  rw [← Nat.cast_inj (R := ℚ), Nat.cast_mul, one_eq]
  generalize (pow2 1025 : ℚ) = p at *
  rw [div_eq_div_iff (by positivity) (by positivity)]
  constructor
  · intro h
    exact mul_right_cancel₀ (pow_ne_zero 49 two_ne_zero) (by linarith)
  · intro h
    rw [h]
    ring

/-! ## Numbers that are not negative -/

/-- A number with a sign is zero, or not finite. -/
inductive NotNegative : Binary64 → Prop
  | finite {b : Bool} {units : Nat} {h : Representable units} (hzero : b = true → units = 0) :
    NotNegative (.finite b units h)
  | infinite (b : Bool) : NotNegative (.infinite b)
  | nan : NotNegative .nan

theorem notNegative_of_le (h : 0 ≤ x) : NotNegative x := by
  cases x with
  | finite b units hunits =>
    rw [zero_eq, Binary64.finite_le_iff] at h
    refine .finite ?_
    rintro rfl
    simp only [signed, if_true, Bool.false_eq_true, if_false] at h
    omega
  | infinite b => exact .infinite b
  | nan => exact .nan

theorem notNegative_round {b : Bool} {num den : Nat} (hden : 0 < den) (h : b = true → num = 0) :
    NotNegative (.round b num den) := by
  rcases Nat.lt_or_ge (nearest num den) overflow with hlt | hge
  · rw [Binary64.round_eq_finite rfl (representable_nearest hlt)]
    refine .finite fun hb => ?_
    rw [h hb]
    exact nearest_eq_zero (by omega)
  · rw [Binary64.round_eq_infinite hge]
    exact .infinite b

theorem NotNegative.mul (h : NotNegative x) {hn : Representable n} :
    NotNegative (x * .finite false n hn) := by
  cases h with
  | @finite b units hunits hzero =>
    have hmul : (.finite b units hunits * .finite false n hn : Binary64) =
        Binary64.mul (.finite b units hunits) (.finite false n hn) := rfl
    rw [hmul, Binary64.mul, Bool.bne_false]
    exact notNegative_round Numeric.one_pos fun hb => by rw [hzero hb, Nat.zero_mul]
  | infinite b =>
    have hmul : (.infinite b * .finite false n hn : Binary64) =
        if n = 0 then .nan else .infinite (b != false) := rfl
    rw [hmul]
    split
    · exact .nan
    · exact .infinite _
  | nan => exact .nan

theorem NotNegative.div (h : NotNegative x) {hn : Representable n} (h0 : n ≠ 0) :
    NotNegative (x / .finite false n hn) := by
  cases h with
  | @finite b units hunits hzero =>
    have hdiv : (.finite b units hunits / .finite false n hn : Binary64) =
        .round (b != false) (units * one) n := if_neg h0
    rw [hdiv, Bool.bne_false]
    exact notNegative_round (Nat.pos_of_ne_zero h0) fun hb => by rw [hzero hb, Nat.zero_mul]
  | infinite b => exact .infinite _
  | nan => exact .nan

theorem pi_eq : pi = .finite false (0x1921fb54442d18 * pow2 1023)
    ⟨_, _, by decide, by decide, rfl⟩ := by decide +kernel

theorem halfTurn_eq : (180 : Binary64) = .finite false (45 * pow2 1076)
    ⟨_, _, by decide, by decide, rfl⟩ := by decide +kernel

/-- An angle is made by wrapping a number of radians, which is as negative as the number given. -/
theorem exists_wrap_ofMeasure (m : Measure) (x : Binary64) :
    ∃ y, (ofMeasure m x).radians = wrap y ∧ (NotNegative x → NotNegative y) := by
  cases m with
  | degrees =>
    refine ⟨x * pi / 180, rfl, fun h => ?_⟩
    rw [pi_eq, halfTurn_eq]
    exact h.mul.div (Nat.mul_pos (by decide) (pow2_pos _)).ne'
  | radians => exact ⟨x, rfl, id⟩

/-- Every number is wrapped to a place on the grid, and to a stable one if it is not negative. -/
theorem exists_place_grid (x : Binary64) : ∃ n, IsPlace n (wrap x) ∧
    (fullTurn + n < pow2 (53 + 1024) → pow2 1024 ∣ n) ∧
    (NotNegative x → Rounded (fullTurn + n)) := by
  have hturn : Rounded (fullTurn + 0) := by rw [Nat.add_zero]; exact rounded_fullTurn
  cases x with
  | finite b units h =>
    have hmod : units % fullTurn < fullTurn := Nat.mod_lt _ fullTurn_pos
    refine ⟨_, isPlace_wrap_finite h,
      pow2_dvd_of_wrapped (h.mod representable_fullTurn).rounded hmod, fun hnot => ?_⟩
    cases b with
    | false => exact rounded_add_again hmod
    | true =>
      -- only the zero with a sign is left
      obtain ⟨hunits⟩ := hnot
      obtain rfl : units = 0 := hunits rfl
      have hstart : nearest (ahead true (0 % fullTurn)) 1 = fullTurn := by
        rw [Nat.zero_mod, ahead, if_pos rfl, Nat.sub_zero]
        exact rounded_fullTurn.nearest_eq
      rwa [hstart, Nat.mod_self]
  | infinite b => exact ⟨0, isPlace_zero, fun _ => Nat.dvd_zero _, fun _ => hturn⟩
  | nan => exact ⟨0, isPlace_zero, fun _ => Nat.dvd_zero _, fun _ => hturn⟩

/-! ## The zero angle -/

theorem IsPlace.add_zero (h : IsPlace n x) : x + 0 = x := by
  obtain ⟨-, hn, rfl⟩ := h
  rw [zero_eq, Binary64.finite_add_finite]
  exact Binary64.round_eq_finite hn.rounded.nearest_eq hn

theorem IsPlace.sub_zero (h : IsPlace n x) : x - 0 = x := by
  obtain ⟨-, hn, rfl⟩ := h
  have hneg : (.finite false n hn - 0 : Binary64) =
      .finite false n hn + .finite true 0 representable_zero := by rw [zero_eq]; rfl
  have hsum : signed false n + signed true 0 = n := Int.add_zero _
  rw [hneg, Binary64.add_finite, hsum, Int.natAbs_natCast,
    decide_eq_false (Int.not_lt.2 (Int.natCast_nonneg n)),
    Binary64.round_eq_finite hn.rounded.nearest_eq hn]
  split
  next h0 =>
    obtain rfl : n = 0 := Int.natCast_eq_zero.1 h0
    rfl
  next => rfl

/-- Turning by zero only brings the angle onto the circle again. -/
theorem IsPlace.apply_zero {a : Angle} (h : IsPlace n a.radians) {t : Turn}
    (ht : t.angle.radians = 0) : t.apply a = ofRadians a.radians := by
  have hadd : a + t.angle = ofRadians a.radians := by
    show ofRadians (a.radians + t.angle.radians) = _
    rw [ht, h.add_zero]
  have hsub : a - t.angle = ofRadians a.radians := by
    show ofRadians (a.radians - t.angle.radians) = _
    rw [ht, h.sub_zero]
  unfold Turn.apply
  cases t.operation with
  | add => exact hadd
  | addAssign => exact hadd
  | sub => exact hsub
  | subAssign => exact hsub

/-! ## Angles -/

/-- The angle brought onto the circle again. -/
def settled (a : Angle) : Angle := ofRadians a.radians

theorem settled_eq_self_iff {a : Angle} (h : IsPlace n a.radians) :
    a.settled = a ↔ Rounded (fullTurn + n) := by
  have hagain : IsPlace (again n) a.settled.radians := h.again
  rw [← again_eq_self_iff h.1, ← hagain.eq_iff h, Angle.mk.injEq]

theorem settled_near {a : Angle} (h : IsPlace n a.radians) :
    |a.settled.radians.value - a.radians.value| ≤ 1 / 2 ^ 50 ∨
      a.settled.radians = 0 ∧ tau.value - a.radians.value ≤ 1 / 2 ^ 50 := by
  have hagain : IsPlace (again n) a.settled.radians := h.again
  obtain ⟨k, hk, hnear⟩ := again_near h.1
  rw [← one_mul (pow2 1025 : Int), ← Nat.cast_one] at hnear
  have hvalue := abs_value_sub_le hnear
  rw [Nat.cast_one, Int.cast_natCast, ← h.value_eq, ← hagain.value_eq] at hvalue
  rcases hk with rfl | ⟨rfl, hzero⟩
  · left
    rwa [Int.cast_zero, zero_mul, add_zero] at hvalue
  · right
    rw [hzero] at hagain
    have hstart : a.settled.radians = 0 := (hagain.eq_iff isPlace_zero).2 rfl
    have hback : (0 : ℚ) - (a.radians.value + -1 * tau.value) = tau.value - a.radians.value := by
      ring
    rw [hagain.value_eq, Nat.cast_zero, zero_div, Int.cast_neg, Int.cast_one, hback] at hvalue
    exact ⟨hstart, (le_abs_self _).trans hvalue⟩

/-- **Which angles stay the same on the circle.** An angle brought onto the circle again does not
change exactly if its sum with a full turn is less than eight or it is a multiple of `2⁻⁴⁹`. This is
so if it was made of a number that is not negative. Otherwise the angle moves by `2⁻⁵⁰` at most, the
last one to zero, and after that it stays the same. Turning by the zero angle does no more than
this. -/
theorem settled_eq_iff (m : Measure) (x : Binary64) :
    ((ofMeasure m x).settled = ofMeasure m x ↔
      (ofMeasure m x).radians.value + tau.value < 8 ∨
        ∃ k : Nat, (ofMeasure m x).radians.value = k / 2 ^ 49) ∧
    (0 ≤ x → (ofMeasure m x).settled = ofMeasure m x) ∧
    (|(ofMeasure m x).settled.radians.value - (ofMeasure m x).radians.value| ≤ 1 / 2 ^ 50 ∨
      (ofMeasure m x).settled.radians = 0 ∧
        tau.value - (ofMeasure m x).radians.value ≤ 1 / 2 ^ 50) ∧
    (ofMeasure m x).settled.settled = (ofMeasure m x).settled ∧
    ∀ t : Turn, t.angle.radians = 0 → t.apply (ofMeasure m x) = (ofMeasure m x).settled := by
  obtain ⟨y, hy, hnot⟩ := exists_wrap_ofMeasure m x
  obtain ⟨n, hplace, hgrid, hrounded⟩ := exists_place_grid y
  rw [← hy] at hplace
  refine ⟨?_, fun hx => ?_, settled_near hplace, ?_, fun t => hplace.apply_zero⟩
  · rw [settled_eq_self_iff hplace, rounded_add_iff hplace.1 hgrid, hplace.value_eq,
      add_tau_lt_iff, exists_eq_div_iff]
  · exact (settled_eq_self_iff hplace).2 (hrounded (hnot (notNegative_of_le hx)))
  · exact (settled_eq_self_iff hplace.again).2 (rounded_add_again hplace.1)

/-- A right angle stays the same, also if the zero angle is taken away from it. -/
theorem settled_right : (ofMeasure .degrees 90).settled = ofMeasure .degrees 90 ∧
    Turn.apply ⟨.sub, .radians, 0⟩ (ofMeasure .degrees 90) = ofMeasure .degrees 90 := by
  obtain ⟨-, hsettled, -, -, happly⟩ := settled_eq_iff .degrees 90
  have hsame := hsettled (by decide +kernel)
  exact ⟨hsame, (happly ⟨.sub, .radians, 0⟩ (by decide +kernel)).trans hsame⟩

/-- Thirty degrees backward do not stay the same, and turning them by zero moves them too. The last
angle before a full turn goes to zero. -/
theorem settled_ne_self :
    ((ofMeasure .degrees (.ofBits 0xc03e000000000000)).settled ≠
        ofMeasure .degrees (.ofBits 0xc03e000000000000) ∧
      ∀ o : Operation,
        Turn.apply ⟨o, .radians, 0⟩ (ofMeasure .degrees (.ofBits 0xc03e000000000000)) ≠
          ofMeasure .degrees (.ofBits 0xc03e000000000000)) ∧
    ofMeasure .radians (.ofBits 0xbcd0000000000000) = ⟨.ofBits 0x401921fb54442d17⟩ ∧
    (ofMeasure .radians (.ofBits 0xbcd0000000000000)).settled = ⟨0⟩ := by
  refine ⟨⟨by decide +kernel, fun o => ?_⟩, by decide +kernel, by decide +kernel⟩
  cases o <;> decide +kernel

end PrintSettings.Value.Angle
