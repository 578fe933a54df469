import PrintSettings.Numeric.Leading
import PrintSettings.Proofs.Numeric.Range
import PrintSettings.Proofs.Numeric.Sum

/-! # Hexadecimal digits

Digits are appended one by one, and each result is rounded to 53 bits (`roundedDigits`). From 53
bits on every further digit is lost (`nearest_append`), so the digits up to there are rounded and
the others only counted. That is the number that the digits denote, rounded once, unless a digit
other than zero follows a half that was rounded down (`roundedDigits_eq_iff`). -/

namespace PrintSettings.Numeric

variable {digits front rest : List Char} {n q r t j k : Nat}

/-! ## Digits -/

/-- Value of a hexadecimal digit; every other character counts as zero. -/
def hexDigit (c : Char) : Nat := (hexDigit? c).getD 0

def ofHexDigits (digits : List Char) : Nat := digits.foldl (fun n c => 16 * n + hexDigit c) 0

theorem hexDigit_lt (c : Char) : hexDigit c < 16 := by
  have hnine : '9'.toNat = '0'.toNat + 9 := rfl
  have hlower : 'f'.toNat = 'a'.toNat + 5 := rfl
  have hupper : 'F'.toNat = 'A'.toNat + 5 := rfl
  unfold hexDigit hexDigit?
  split
  next h =>
    simp only [Char.isDigit, Bool.and_eq_true, decide_eq_true_eq] at h
    have hhigh : c.toNat ≤ '9'.toNat := h.2
    rw [Option.getD_some]
    omega
  next =>
    split
    next h =>
      have hhigh : c.toNat ≤ 'f'.toNat := h.2
      rw [Option.getD_some]
      omega
    next =>
      split
      next h =>
        have hhigh : c.toNat ≤ 'F'.toNat := h.2
        rw [Option.getD_some]
        omega
      next => decide

theorem pow2_digits (n : Nat) : pow2 (4 * (n + 1)) = 16 * pow2 (4 * n) := by
  have hfour : 4 * (n + 1) = 4 + 4 * n := by omega
  rw [hfour, pow2_add]
  rfl

theorem ofHexDigits_concat (digits : List Char) (c : Char) :
    ofHexDigits (digits ++ [c]) = 16 * ofHexDigits digits + hexDigit c := List.foldl_concat ..

theorem ofHexDigits_append (front rest : List Char) : ofHexDigits (front ++ rest) =
    ofHexDigits front * pow2 (4 * rest.length) + ofHexDigits rest := by
  induction rest using List.reverseRecOn with
  | nil => simp [ofHexDigits, pow2]
  | append_singleton rest c ih =>
    rw [← List.append_assoc, ofHexDigits_concat, ih, ofHexDigits_concat, List.length_append,
      List.length_singleton, pow2_digits]
    ring

theorem ofHexDigits_lt (digits : List Char) : ofHexDigits digits < pow2 (4 * digits.length) := by
  induction digits using List.reverseRecOn with
  | nil => decide
  | append_singleton digits c ih =>
    have hc := hexDigit_lt c
    rw [ofHexDigits_concat, List.length_append, List.length_singleton, pow2_digits]
    omega

/-- The digits can be cut where they reach 53 bits. -/
theorem exists_append (digits : List Char) : ∃ front rest, digits = front ++ rest ∧
    ofHexDigits front < pow2 57 ∧ (rest = [] ∨ pow2 53 ≤ ofHexDigits front) := by
  induction digits using List.reverseRecOn with
  | nil => exact ⟨[], [], rfl, by decide, .inl rfl⟩
  | append_singleton digits c ih =>
    obtain ⟨front, rest, rfl, hlt, hrest⟩ := ih
    -- a digit belongs to the front until that has 53 bits, and to the rest from then on
    by_cases hlow : pow2 53 ≤ ofHexDigits front
    · exact ⟨front, rest ++ [c], List.append_assoc .., hlt, .inr hlow⟩
    · obtain rfl := hrest.resolve_right hlow
      refine ⟨front ++ [c], [], by simp, ?_, .inl rfl⟩
      have hc := hexDigit_lt c
      have hpow : pow2 57 = 16 * pow2 53 := rfl
      rw [ofHexDigits_concat]
      omega

/-! ## Halves -/

/-- A magnitude is half way between its neighbours, and goes to the lower one. -/
def IsLowerHalf (n : Nat) : Prop :=
  2 * (n % pow2 (spacing n)) = pow2 (spacing n) ∧ significand n % 2 = 0

instance : DecidablePred IsLowerHalf := fun _ => inferInstanceAs (Decidable (_ ∧ _))

theorem isLowerHalf_mul_add (hlow : pow2 52 ≤ q) (hq : q < pow2 53) (hr : r < pow2 k) :
    IsLowerHalf (q * pow2 k + r) ↔ 2 * r = pow2 k ∧ q % 2 = 0 := by
  rw [IsLowerHalf, significand, spacing_mul_add hlow hq hr, mul_add_div_pow2 q hr,
    mul_add_mod_pow2 q hr]

theorem IsLowerHalf.pow2_le (h : IsLowerHalf n) : pow2 53 ≤ n := by
  rw [← Nat.not_lt]
  intro hlt
  have hspacing : spacing n = 0 := Nat.le_zero.1 (spacing_le hlt)
  have hone : pow2 0 = 1 := rfl
  have hhalf := h.1
  rw [hspacing, hone] at hhalf
  omega

/-- More bits decide between the neighbours of a half, and have no effect on anything else. -/
theorem compare_half (hk : 0 < k) (ht : t < pow2 j) :
    (2 * (r * pow2 j + t) < pow2 (k + j) ↔ 2 * r < pow2 k) ∧
    (pow2 (k + j) < 2 * (r * pow2 j + t) ↔ pow2 k < 2 * r ∨ 2 * r = pow2 k ∧ t ≠ 0) := by
  have heven : pow2 k % 2 = 0 := by
    obtain ⟨i, rfl⟩ := Nat.exists_eq_add_of_lt hk
    rw [pow2_succ]
    exact Nat.mul_mod_left _ _
  rw [pow2_add]
  rcases Nat.lt_trichotomy (2 * r) (pow2 k) with h | h | h
  · have hle : (2 * r + 2) * pow2 j ≤ pow2 k * pow2 j := Nat.mul_le_mul_right _ (by omega)
    rw [Nat.add_mul, Nat.mul_assoc] at hle
    omega
  · rw [← h, Nat.mul_assoc]
    omega
  · have hle : (pow2 k + 1) * pow2 j ≤ 2 * r * pow2 j := Nat.mul_le_mul_right _ h
    rw [Nat.add_mul, Nat.mul_assoc] at hle
    omega

/-- More bits have an effect on rounding only if they follow a lower half. -/
theorem nearest_mul_pow2_add (hn : pow2 53 ≤ n) (ht : t < pow2 j) :
    (¬ (IsLowerHalf n ∧ t ≠ 0) ∧ nearest (n * pow2 j + t) 1 = nearest n 1 * pow2 j) ∨
    ((IsLowerHalf n ∧ t ≠ 0) ∧ ∃ q i, pow2 52 ≤ q ∧ q + 1 < pow2 53 ∧
      nearest n 1 * pow2 j = q * pow2 i ∧ nearest (n * pow2 j + t) 1 = (q + 1) * pow2 i) := by
  obtain ⟨q, k, r, hk, hlow, hq, hr, rfl⟩ := exists_mul_add hn
  obtain ⟨hbelow, habove⟩ := @compare_half r t j k hk ht
  have hsplit : (q * pow2 k + r) * pow2 j + t = q * pow2 (k + j) + (r * pow2 j + t) := by
    rw [pow2_add]
    ring
  have hgrid : r * pow2 j + t < pow2 (k + j) := by
    calc r * pow2 j + t < (r + 1) * pow2 j := by rw [Nat.add_one_mul]; omega
      _ ≤ pow2 (k + j) := by rw [pow2_add]; exact Nat.mul_le_mul_right _ hr
  rw [hsplit, nearest_mul_add hlow hq hgrid, nearest_mul_add hlow hq hr,
    isLowerHalf_mul_add hlow hq hr, Nat.mul_assoc, ← pow2_add]
  simp only [hbelow, habove]
  -- a half goes to the even neighbour, and the upper one if anything follows; these may be the same
  by_cases hhalf : 2 * r = pow2 k ∧ t ≠ 0
  · obtain ⟨hr2, ht0⟩ := hhalf
    rw [if_neg (by omega), if_pos (.inr ⟨hr2, ht0⟩), if_neg (by omega), if_neg (by omega)]
    rcases Nat.mod_two_eq_zero_or_one q with hq0 | hq1
    · have htwo : pow2 53 % 2 = 0 := rfl
      exact .inr ⟨⟨⟨hr2, hq0⟩, ht0⟩, q, k + j, hlow, by omega, by rw [hq0, Nat.add_zero], rfl⟩
    · exact .inl ⟨by omega, by rw [hq1]⟩
  · refine .inl ⟨fun h => hhalf ⟨h.1.1, h.2⟩, ?_⟩
    simp only [or_iff_left hhalf]

theorem pow2_le_succ_iff {q : Nat} (hlow : pow2 52 ≤ q) (hq : q + 1 < pow2 53) (i j : Nat) :
    pow2 i ≤ (q + 1) * pow2 j ↔ pow2 i ≤ q * pow2 j := by
  have hne : ∀ m, pow2 52 ≤ m → m * pow2 j ≠ 0 := fun m hm =>
    Nat.mul_ne_zero ((pow2_pos 52).trans_le hm).ne' (pow2_pos j).ne'
  have hiff : ∀ m, pow2 52 ≤ m → m < pow2 53 → (pow2 i ≤ m * pow2 j ↔ i ≤ 52 + j) := by
    intro m hm hm'
    rw [← log2_mul_pow2 hm hm' j]
    exact (Nat.le_log2 (hne m hm)).symm
  rw [hiff _ (by omega) hq, hiff _ hlow (by omega)]

/-! ## Appending digits -/

/-- The digits appended one by one, with 53 bits kept of each result. -/
def roundedDigits (digits : List Char) : Nat :=
  digits.foldl (fun n c => nearest (16 * n + hexDigit c) 1) 0

theorem roundedDigits_concat (digits : List Char) (c : Char) :
    roundedDigits (digits ++ [c]) = nearest (16 * roundedDigits digits + hexDigit c) 1 :=
  List.foldl_concat ..

theorem rounded_roundedDigits (digits : List Char) : Rounded (roundedDigits digits) := by
  cases digits using List.reverseRecOn with
  | nil => exact rounded_of_lt (pow2_pos 53)
  | append_singleton digits c =>
    rw [roundedDigits_concat]
    exact rounded_nearest

theorem nearest_append (hn : Rounded n) (hlow : pow2 53 ≤ n) (ht : t < 16) :
    nearest (16 * n + t) 1 = 16 * n := by
  obtain ⟨q, k, rfl, hq, hk⟩ := hn.exists_grid
  -- the digit lies below the last of the 53 bits, and by more than a bit after the shift
  have hpos : 0 < k := Nat.pos_of_ne_zero fun h => by
    rw [h] at hlow
    exact absurd hlow (Nat.not_le.2 (by rwa [← Nat.mul_one q] at hq))
  have hscale : 16 * (q * pow2 k) = q * pow2 (k + 4) := by
    have hfour : pow2 4 = 16 := rfl
    rw [pow2_add, hfour]
    ring
  have hhalf : 2 * t < pow2 (k + 4) := by
    calc 2 * t < pow2 (1 + 4) := by
          have : pow2 (1 + 4) = 32 := rfl
          omega
      _ ≤ pow2 (k + 4) := pow2_le_pow2 (by omega)
  rw [hscale, nearest_mul_add (hk hpos) hq (by omega), if_pos hhalf]

/-- After 53 bits, digits are counted only. -/
theorem roundedDigits_append (h : pow2 53 ≤ roundedDigits front) (rest : List Char) :
    roundedDigits (front ++ rest) = roundedDigits front * pow2 (4 * rest.length) := by
  induction rest using List.reverseRecOn with
  | nil => rw [List.append_nil]; exact (Nat.mul_one _).symm
  | append_singleton rest c ih =>
    have hlow : pow2 53 ≤ roundedDigits front * pow2 (4 * rest.length) :=
      h.trans (Nat.le_mul_of_pos_right _ (pow2_pos _))
    rw [← List.append_assoc, roundedDigits_concat, ih,
      nearest_append ((rounded_roundedDigits front).mul_pow2 _) hlow (hexDigit_lt c),
      List.length_append, List.length_singleton, pow2_digits]
    ring

theorem roundedDigits_of_lt (h : ofHexDigits digits < pow2 57) :
    roundedDigits digits = nearest (ofHexDigits digits) 1 := by
  induction digits using List.reverseRecOn with
  | nil => rfl
  | append_singleton digits c ih =>
    have hpow : pow2 57 = 16 * pow2 53 := rfl
    rw [ofHexDigits_concat] at h ⊢
    have hexact : nearest (ofHexDigits digits) 1 = ofHexDigits digits :=
      (rounded_of_lt (by omega)).nearest_eq
    rw [roundedDigits_concat, ih (by omega), hexact]

/-- A digit other than zero follows a lower half with at most 57 bits. -/
def LosesHalf (digits : List Char) : Prop := ∃ front rest, digits = front ++ rest ∧
  ofHexDigits front < pow2 57 ∧ IsLowerHalf (ofHexDigits front) ∧ ofHexDigits rest ≠ 0

theorem roundedDigits_of_pow2_le (hlow : pow2 53 ≤ ofHexDigits front)
    (hlt : ofHexDigits front < pow2 57) (rest : List Char) : roundedDigits (front ++ rest) =
      nearest (ofHexDigits front) 1 * pow2 (4 * rest.length) := by
  have hreaches : pow2 53 ≤ roundedDigits front := by
    rw [roundedDigits_of_lt hlt]
    exact le_nearest Nat.one_pos (rounded_pow2 53) ((Nat.mul_one _).trans_le hlow)
  rw [roundedDigits_append hreaches, roundedDigits_of_lt hlt]

/-- **Digits are rounded correctly but for a half that is lost.** -/
theorem roundedDigits_eq_iff :
    roundedDigits digits = nearest (ofHexDigits digits) 1 ↔ ¬ LosesHalf digits := by
  constructor
  · rintro heq ⟨front, rest, rfl, hlt, hhalf, hrest⟩
    rw [roundedDigits_of_pow2_le hhalf.pow2_le hlt, ofHexDigits_append] at heq
    rcases nearest_mul_pow2_add hhalf.pow2_le (ofHexDigits_lt rest) with
      ⟨hnot, -⟩ | ⟨-, q, i, -, -, hlower, hupper⟩
    · exact hnot ⟨hhalf, hrest⟩
    · rw [hlower, hupper] at heq
      have hq := Nat.eq_of_mul_eq_mul_right (pow2_pos i) heq
      omega
  · intro hnot
    obtain ⟨front, rest, rfl, hlt, rfl | hlow⟩ := exists_append digits
    · rw [List.append_nil]
      exact roundedDigits_of_lt hlt
    · rw [roundedDigits_of_pow2_le hlow hlt, ofHexDigits_append]
      rcases nearest_mul_pow2_add hlow (ofHexDigits_lt rest) with ⟨-, heq⟩ | ⟨⟨hhalf, hrest⟩, -⟩
      · exact heq.symm
      · exact absurd ⟨front, rest, rfl, hlt, hhalf, hrest⟩ hnot

theorem pow2_le_roundedDigits_iff (digits : List Char) (i : Nat) :
    pow2 i ≤ roundedDigits digits ↔ pow2 i ≤ nearest (ofHexDigits digits) 1 := by
  obtain ⟨front, rest, rfl, hlt, rfl | hlow⟩ := exists_append digits
  · rw [List.append_nil, roundedDigits_of_lt hlt]
  · rw [roundedDigits_of_pow2_le hlow hlt, ofHexDigits_append]
    rcases nearest_mul_pow2_add hlow (ofHexDigits_lt rest) with
      ⟨-, heq⟩ | ⟨-, q, j, hq, hq', hlower, hupper⟩
    · rw [heq]
    · rw [hlower, hupper]
      exact (pow2_le_succ_iff hq hq' i j).symm

end PrintSettings.Numeric
