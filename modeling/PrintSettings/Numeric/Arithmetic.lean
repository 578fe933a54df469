import PrintSettings.Numeric.Binary64

/-! # Arithmetic on binary floating point

Sums, products and quotients are the exact result rounded to nearest, a half to even. The remainder
is exact: remainders of representable magnitudes are representable (`Representable.mod`). -/

namespace PrintSettings.Numeric

/-! ## Remainders -/

theorem Representable.mod {a b : Nat} (ha : Representable a) (hb : Representable b) :
    Representable (a % b) := by
  obtain ⟨m, e, hm, he, rfl⟩ := ha
  obtain ⟨n, f, hn, hf, rfl⟩ := hb
  rcases Nat.le_total e f with h | h
  · obtain ⟨d, rfl⟩ := Nat.exists_eq_add_of_le h
    refine ⟨m % (n * pow2 d), e, Nat.lt_of_le_of_lt (Nat.mod_le _ _) hm, he, ?_⟩
    rw [Nat.add_comm, pow2_add, ← Nat.mul_assoc, Nat.mul_mod_mul_right]
  · obtain ⟨d, rfl⟩ := Nat.exists_eq_add_of_le h
    by_cases h0 : n = 0
    · subst h0
      exact ⟨m, f + d, hm, he, by simp⟩
    refine ⟨m * pow2 d % n, f, Nat.lt_trans (Nat.mod_lt _ (Nat.pos_of_ne_zero h0)) hn, hf, ?_⟩
    rw [Nat.add_comm, pow2_add, ← Nat.mul_assoc, Nat.mul_mod_mul_right]

namespace Binary64

/-! ## Operations -/

def neg : Binary64 → Binary64
  | finite negative units h => finite (!negative) units h
  | infinite negative => infinite (!negative)
  | nan => nan

/-- A vanishing sum is positive unless both terms are negative. -/
def add : Binary64 → Binary64 → Binary64
  | finite a m _, finite b n _ =>
    let sum := signed a m + signed b n
    if sum = 0 then zero (a && b) else round (sum < 0) sum.natAbs 1
  | infinite a, infinite b => if a = b then infinite a else nan
  | infinite a, finite .. => infinite a
  | finite .., infinite b => infinite b
  | nan, _ => nan
  | _, nan => nan

def sub (x y : Binary64) : Binary64 := add x (neg y)

def mul : Binary64 → Binary64 → Binary64
  | finite a m _, finite b n _ => round (a != b) (m * n) one
  | infinite a, infinite b => infinite (a != b)
  | infinite a, finite b n _ => if n = 0 then nan else infinite (a != b)
  | finite a m _, infinite b => if m = 0 then nan else infinite (a != b)
  | nan, _ => nan
  | _, nan => nan

def div : Binary64 → Binary64 → Binary64
  | finite a m _, finite b n _ =>
    if n = 0 then if m = 0 then nan else infinite (a != b)
    else round (a != b) (m * one) n
  | infinite _, infinite _ => nan
  | infinite a, finite b .. => infinite (a != b)
  | finite a .., infinite b => zero (a != b)
  | nan, _ => nan
  | _, nan => nan

/-- Remainder of the division toward zero, exact and with the sign of the dividend. -/
def rem : Binary64 → Binary64 → Binary64
  | finite a m hm, finite _ n hn => if n = 0 then nan else finite a (m % n) (hm.mod hn)
  | finite a m hm, infinite _ => finite a m hm
  | infinite _, _ => nan
  | nan, _ => nan
  | _, nan => nan

instance : Neg Binary64 := ⟨neg⟩
instance : Add Binary64 := ⟨add⟩
instance : Sub Binary64 := ⟨sub⟩
instance : Mul Binary64 := ⟨mul⟩
instance : Div Binary64 := ⟨div⟩
instance : Mod Binary64 := ⟨rem⟩

/-- The power of two with an integer exponent; it overflows from `2¹⁰²⁴` on. Below `2⁻¹⁰²²` it is
rounded correctly, and below `2⁻¹¹⁰⁰` it is zero. The power function of a platform is not as precise
there: one that divides by the opposite power gives zero from `2⁻¹⁰²⁴` down. -/
def twoPow (exponent : Int) : Binary64 :=
  if 1024 ≤ exponent then infinite false
  else if exponent < -1100 then zero false
  else round false (one * pow2 exponent.toNat) (pow2 (-exponent).toNat)

end Binary64

end PrintSettings.Numeric
