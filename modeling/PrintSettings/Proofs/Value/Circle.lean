import PrintSettings.Proofs.Numeric.Sum
import PrintSettings.Proofs.Numeric.Value
import PrintSettings.Value.Angle

/-! # Angles on the circle

An angle never leaves `[0, 2π)`, whatever numbers it is made of and however often it is turned
(`after_onCircle`). The remainder of a number is exact, and one full turn more makes it positive.
That sum is rounded, perhaps up to one or two full turns, which the second remainder takes off
again. So an angle is also the number it was made of up to whole turns and one rounding
(`exists_place_wrap`), and a turn leads to the exact place up to two (`exists_place_apply`). -/

namespace PrintSettings.Value.Angle

open PrintSettings.Numeric
open PrintSettings.Numeric.Binary64 (signed)

/-! ## A full turn -/

/-- Units in a full turn. -/
def fullTurn : Nat := 0x1921fb54442d18 * pow2 1024

theorem fullTurn_pos : 0 < fullTurn := Nat.mul_pos (by decide) (pow2_pos 1024)

theorem two_fullTurn_lt : 2 * fullTurn < pow2 (53 + 1025) := by decide +kernel

theorem representable_fullTurn : Representable fullTurn :=
  ⟨0x1921fb54442d18, 1024, by decide, by decide, rfl⟩

theorem tau_eq : tau = .finite false fullTurn representable_fullTurn := by decide +kernel

theorem zero_eq : (0 : Binary64) = .finite false 0 representable_zero := by decide +kernel

theorem signed_false (n : Nat) : signed false n = n := rfl

theorem rem_tau {b : Bool} {units : Nat} (h : Representable units) :
    (.finite b units h : Binary64) % tau =
      .finite b (units % fullTurn) (h.mod representable_fullTurn) := by
  rw [tau_eq]
  exact Binary64.rem_finite fullTurn_pos.ne'

/-! ## The circle -/

/-- The angle is a finite number of radians, from zero up to less than a full turn. -/
structure OnCircle (a : Angle) : Prop where
  isFinite : a.radians.isFinite
  nonneg : 0 ≤ a.radians
  lt_tau : a.radians < tau

/-- The number is so many units, less than a full turn. -/
def IsPlace (units : Nat) (x : Binary64) : Prop :=
  units < fullTurn ∧ ∃ h : Representable units, x = .finite false units h

variable {m n : Nat} {x y : Binary64}

theorem IsPlace.value_eq (h : IsPlace n x) : x.value = n / one := by
  obtain ⟨-, hn, rfl⟩ := h
  rw [Binary64.value_finite, signed_false, Int.cast_natCast]

theorem IsPlace.onCircle {a : Angle} (h : IsPlace n a.radians) : a.OnCircle := by
  obtain ⟨hlt, hn, hx⟩ := h
  have hnonneg : (0 : Binary64) ≤ a.radians := by
    rw [hx, zero_eq, Binary64.finite_le_iff]
    exact Int.natCast_nonneg n
  have htau : a.radians < tau := by
    rw [hx, tau_eq, Binary64.finite_lt_iff]
    exact Int.ofNat_lt.2 hlt
  exact ⟨by rw [hx]; rfl, hnonneg, htau⟩

/-! ## Wrapping -/

theorem signed_eq_mod_add (b : Bool) (units : Nat) :
    ∃ k : Int, signed b units = signed b (units % fullTurn) + k * fullTurn := by
  have hdiv : ((units % fullTurn : Nat) : Int) + (units / fullTurn : Nat) * fullTurn = units := by
    rw [Int.mul_comm]
    exact_mod_cast Nat.mod_add_div units fullTurn
  cases b
  · exact ⟨(units / fullTurn : Nat), hdiv.symm⟩
  · refine ⟨-(units / fullTurn : Nat), ?_⟩
    simp only [signed, if_true]
    rw [Int.neg_mul, ← Int.neg_add, hdiv]

/-- A finite number is wrapped to its place on the circle, rounded once. -/
theorem exists_place_finite {b : Bool} {units : Nat} (h : Representable units) :
    ∃ n, IsPlace n (wrap (.finite b units h)) ∧
      ∃ k : Int, 2 * |(n : Int) - (signed b units + k * fullTurn)| ≤ pow2 1025 := by
  have hmod : units % fullTurn < fullTurn := Nat.mod_lt _ fullTurn_pos
  have hbounds : 0 < signed b (units % fullTurn) + signed false fullTurn ∧
      signed b (units % fullTurn) + signed false fullTurn < 2 * fullTurn := by
    cases b <;> simp only [signed, if_true, Bool.false_eq_true, if_false] <;> omega
  have hsize : (signed b (units % fullTurn) + signed false fullTurn).natAbs < pow2 (53 + 1025) := by
    have := two_fullTurn_lt
    omega
  obtain ⟨c, u, hu, hadd, hnear, hpositive⟩ := Binary64.exists_add
    (h.mod representable_fullTurn) representable_fullTurn hsize (by decide)
  obtain rfl : c = false := hpositive hbounds.1
  have hwrap : wrap (.finite b units h) =
      .finite false (u % fullTurn) (hu.mod representable_fullTurn) := by
    have hif : wrap (.finite b units h) = (.finite b units h % tau + tau) % tau := rfl
    rw [hif, rem_tau, ← rem_tau hu, ← hadd, ← tau_eq]
  obtain ⟨q, hq⟩ := signed_eq_mod_add b units
  obtain ⟨j, hj⟩ := signed_eq_mod_add false u
  refine ⟨u % fullTurn, ⟨Nat.mod_lt _ fullTurn_pos, _, hwrap⟩, 1 - j - q, ?_⟩
  -- the two remainders differ from their numbers by whole turns
  have hdist : ((u % fullTurn : Nat) : Int) - (signed b units + (1 - j - q) * fullTurn) =
      signed false u - (signed b (units % fullTurn) + signed false fullTurn) := by
    rw [hj, hq, signed_false, signed_false]
    ring
  rw [hdist]
  exact hnear

theorem abs_value_sub_le {e : Nat} {s k : Int}
    (h : 2 * |(n : Int) - (s + k * fullTurn)| ≤ e * pow2 1025) :
    |(n : ℚ) / one - (s / one + k * tau.value)| ≤ e / 2 ^ 50 := by
  have htau : tau.value = fullTurn / one := by
    rw [tau_eq, Binary64.value_finite, signed_false, Int.cast_natCast]
  have hone : (one : ℚ) = pow2 1025 * 2 ^ 49 := by
    have hnat : one = pow2 1025 * pow2 49 := pow2_add 1025 49
    rw [hnat, Nat.cast_mul, cast_pow2 49]
  have hpow : (0 : ℚ) < pow2 1025 := by exact_mod_cast pow2_pos 1025
  have hcast : 2 * |(n : ℚ) - (s + k * fullTurn)| ≤ e * pow2 1025 := by exact_mod_cast h
  rw [htau, hone]
  generalize (pow2 1025 : ℚ) = p at *
  have hscale : (n : ℚ) / (p * 2 ^ 49) - (s / (p * 2 ^ 49) + k * (fullTurn / (p * 2 ^ 49))) =
      (n - (s + k * fullTurn)) / (p * 2 ^ 49) := by ring
  rw [hscale, abs_div, abs_of_pos (by positivity : (0 : ℚ) < p * 2 ^ 49),
    div_le_div_iff₀ (by positivity) (by positivity)]
  linarith

/-- **Every number has a place on the circle**, which is the number itself up to whole turns and
one rounding. What is not finite is at zero. -/
theorem exists_place_wrap (x : Binary64) :
    ∃ n, IsPlace n (wrap x) ∧
      ∃ k : Int, |(wrap x).value - (x.value + k * tau.value)| ≤ 1 / 2 ^ 50 := by
  have hzero : IsPlace 0 (0 : Binary64) := ⟨fullTurn_pos, representable_zero, zero_eq⟩
  have hnear : |(0 : Binary64).value - (0 + (0 : Int) * tau.value)| ≤ 1 / 2 ^ 50 := by
    rw [hzero.value_eq, Nat.cast_zero, zero_div, Int.cast_zero, zero_mul, add_zero, sub_zero,
      abs_zero]
    positivity
  cases x with
  | finite b units h =>
    obtain ⟨n, hplace, k, hk⟩ := exists_place_finite h
    refine ⟨n, hplace, k, ?_⟩
    rw [hplace.value_eq, Binary64.value_finite]
    exact_mod_cast abs_value_sub_le (by rwa [Nat.cast_one, one_mul])
  | infinite b => exact ⟨0, hzero, 0, hnear⟩
  | nan => exact ⟨0, hzero, 0, hnear⟩

/-! ## Turning -/

/-- How a number makes an angle. -/
inductive Measure where
  | degrees
  | radians

def ofMeasure : Measure → Binary64 → Angle
  | .degrees, x => .ofDegrees x
  | .radians, x => .ofRadians x

/-- The ways to combine an angle with another one; an assignment keeps the result in the first. -/
inductive Operation where
  | add
  | sub
  | addAssign
  | subAssign

/-- An operation and the number that its second angle is made of. -/
structure Turn where
  operation : Operation
  measure : Measure
  amount : Binary64

namespace Turn

def angle (t : Turn) : Angle := ofMeasure t.measure t.amount

def apply (t : Turn) (a : Angle) : Angle :=
  match t.operation with
  | .add | .addAssign => a + t.angle
  | .sub | .subAssign => a - t.angle

/-- The exact number of radians that a turn leads to, with its whole turns. -/
def target (t : Turn) (a : Angle) : ℚ :=
  match t.operation with
  | .add | .addAssign => a.radians.value + t.angle.radians.value
  | .sub | .subAssign => a.radians.value - t.angle.radians.value

end Turn

/-- The angle after some turns. -/
def after (start : Angle) (turns : List Turn) : Angle := turns.foldl (fun a t => t.apply a) start

theorem exists_place_ofMeasure (m : Measure) (x : Binary64) :
    ∃ n, IsPlace n (ofMeasure m x).radians := by
  cases m with
  | degrees =>
    obtain ⟨n, hn, -⟩ := exists_place_wrap (x * pi / 180)
    exact ⟨n, hn⟩
  | radians =>
    obtain ⟨n, hn, -⟩ := exists_place_wrap x
    exact ⟨n, hn⟩

/-- A place turned by another one, forward or backward, has its place after two roundings. -/
theorem exists_place_turn (c : Bool) {hm : Representable m} {hn : Representable n}
    (hm' : m < fullTurn) (hn' : n < fullTurn) :
    ∃ r, IsPlace r (wrap (.finite false m hm + .finite c n hn)) ∧
      ∃ k : Int, |(r : ℚ) / one - (m / one + signed c n / one + k * tau.value)| ≤ 2 / 2 ^ 50 := by
  have hsize : (signed false m + signed c n).natAbs < pow2 (53 + 1025) := by
    have := two_fullTurn_lt
    cases c <;> simp only [signed, if_true, Bool.false_eq_true, if_false] <;> omega
  obtain ⟨d, u, hu, hadd, hsum, -⟩ := Binary64.exists_add hm hn hsize (by decide)
  obtain ⟨r, hplace, k, hk⟩ := exists_place_finite (b := d) hu
  rw [signed_false] at hsum
  rw [hadd]
  refine ⟨r, hplace, k, ?_⟩
  -- one rounding for the sum and one for its place
  have hunits : 2 * |(r : Int) - ((m + signed c n) + k * fullTurn)| ≤ (2 : Nat) * pow2 1025 := by
    have hsplit : (r : Int) - ((m + signed c n) + k * fullTurn) =
        (r - (signed d u + k * fullTurn)) + (signed d u - (m + signed c n)) := by ring
    have htriangle := abs_add_le ((r : Int) - (signed d u + k * fullTurn))
      (signed d u - (m + signed c n))
    rw [hsplit]
    push_cast
    linarith
  have hvalue := abs_value_sub_le hunits
  rwa [Int.cast_add, Int.cast_natCast, add_div] at hvalue

theorem exists_place_add (hx : IsPlace m x) (hy : IsPlace n y) :
    ∃ r, IsPlace r (wrap (x + y)) ∧
      ∃ k : Int, |(wrap (x + y)).value - (x.value + y.value + k * tau.value)| ≤ 2 / 2 ^ 50 := by
  rw [hx.value_eq, hy.value_eq]
  obtain ⟨hm, hm', rfl⟩ := hx
  obtain ⟨hn, hn', rfl⟩ := hy
  obtain ⟨r, hplace, hnear⟩ := exists_place_turn false hm hn
  rw [hplace.value_eq]
  exact ⟨r, hplace, hnear⟩

theorem exists_place_sub (hx : IsPlace m x) (hy : IsPlace n y) :
    ∃ r, IsPlace r (wrap (x - y)) ∧
      ∃ k : Int, |(wrap (x - y)).value - (x.value - y.value + k * tau.value)| ≤ 2 / 2 ^ 50 := by
  rw [hx.value_eq, hy.value_eq]
  obtain ⟨hm, hm', rfl⟩ := hx
  obtain ⟨hn, hn', rfl⟩ := hy
  have hneg : (.finite false m hm' - .finite false n hn' : Binary64) =
      .finite false m hm' + .finite true n hn' := rfl
  obtain ⟨r, hplace, k, hnear⟩ := exists_place_turn true hm hn
  rw [hneg, hplace.value_eq]
  refine ⟨r, hplace, k, ?_⟩
  have hsigned : (signed true n : ℚ) / one = -(n / one) := by
    have hback : signed true n = -(n : Int) := rfl
    rw [hback, Int.cast_neg, Int.cast_natCast, neg_div]
  rwa [hsigned, ← sub_eq_add_neg] at hnear

/-- **A turn from a place leads to a place**, which is the exact target up to whole turns and two
roundings. -/
theorem exists_place_apply (t : Turn) {a : Angle} (ha : IsPlace m a.radians) :
    ∃ r, IsPlace r (t.apply a).radians ∧
      ∃ k : Int, |(t.apply a).radians.value - (t.target a + k * tau.value)| ≤ 2 / 2 ^ 50 := by
  obtain ⟨n, hb⟩ := exists_place_ofMeasure t.measure t.amount
  rcases t with ⟨operation, measure, amount⟩
  cases operation with
  | add => exact exists_place_add ha hb
  | addAssign => exact exists_place_add ha hb
  | sub => exact exists_place_sub ha hb
  | subAssign => exact exists_place_sub ha hb

/-! ## Runs -/

theorem exists_place_after {start : Angle} (hstart : ∃ n, IsPlace n start.radians)
    (turns : List Turn) : ∃ n, IsPlace n (after start turns).radians := by
  induction turns generalizing start with
  | nil => exact hstart
  | cons t turns ih =>
    obtain ⟨n, hn⟩ := hstart
    obtain ⟨r, hr, -⟩ := exists_place_apply t hn
    exact ih ⟨r, hr⟩

/-- **Angles stay on the circle.** Whatever number an angle is made of and whatever turns it takes,
it is finite, at least zero and less than a full turn. The start is the number of radians it is made
of, and the next turn leads to the exact sum or difference, up to whole turns and rounding. -/
theorem after_onCircle (m : Measure) (x : Binary64) (turns : List Turn) :
    (after (ofMeasure m x) turns).OnCircle ∧
    (∃ k : Int, |(ofRadians x).radians.value - (x.value + k * tau.value)| ≤ 1 / 2 ^ 50) ∧
    ∀ t : Turn, ∃ k : Int,
      |(after (ofMeasure m x) (turns ++ [t])).radians.value -
        (t.target (after (ofMeasure m x) turns) + k * tau.value)| ≤ 1 / 2 ^ 49 := by
  obtain ⟨n, hn⟩ := exists_place_after (exists_place_ofMeasure m x) turns
  obtain ⟨-, -, hstart⟩ := exists_place_wrap x
  refine ⟨hn.onCircle, hstart, fun t => ?_⟩
  obtain ⟨r, -, k, hk⟩ := exists_place_apply t hn
  have hlast : after (ofMeasure m x) (turns ++ [t]) = t.apply (after (ofMeasure m x) turns) := by
    rw [after, List.foldl_append]
    rfl
  have hbound : (1 : ℚ) / 2 ^ 49 = 2 / 2 ^ 50 := by norm_num
  rw [hlast, hbound]
  exact ⟨k, hk⟩

end PrintSettings.Value.Angle
