/-! # Longest prefixes

A class of texts may have several members that a text starts with; the longest one is unique
(`LongestPrefix.unique`). A scanner that returns what it read and the rest of the text *munches* a
class if it always takes the longest prefix in it, and reads that as it would on its own
(`Munches`). Then nothing after the prefix matters. Munching is kept by alternatives, as long as a
later one is never longer where an earlier one applies (`Munches.or`). -/

namespace PrintSettings.Text

variable {α β : Type} {P Q : List Char → Prop} {text p q rest : List Char} {x : α}

/-! ## Prefixes in a class -/

/-- The longest prefix of a text that is in a class. -/
structure LongestPrefix (P : List Char → Prop) (text p : List Char) : Prop where
  isPrefix : p <+: text
  mem : P p
  longest : ∀ q, q <+: text → P q → q.length ≤ p.length

theorem LongestPrefix.unique (hp : LongestPrefix P text p) (hq : LongestPrefix P text q) :
    p = q := by
  have hlength : p.length = q.length :=
    Nat.le_antisymm (hq.longest p hp.isPrefix hp.mem) (hp.longest q hq.isPrefix hq.mem)
  have hprefix : p <+: q :=
    List.prefix_of_prefix_length_le hp.isPrefix hq.isPrefix (Nat.le_of_eq hlength)
  exact hprefix.eq_of_length hlength

theorem head?_of_isPrefix {c : Char} (hp : p <+: text) (hc : p.head? = some c) :
    text.head? = some c := by
  obtain ⟨rest, rfl⟩ := hp
  rw [List.head?_append, hc, Option.some_or]

/-! ## Scanners -/

/-- A scanner takes the longest prefix in a class. -/
structure Munches (P : List Char → Prop) (scan : List Char → Option (α × List Char)) : Prop where
  /-- What is taken is in the class, and is read in the same way if nothing follows it. -/
  taken : ∀ {text x rest}, scan text = some (x, rest) →
    ∃ p, text = p ++ rest ∧ P p ∧ scan p = some (x, [])
  /-- At least as much is taken as is in the class. -/
  greedy : ∀ {p} rest, P p → ∃ x rest', scan (p ++ rest) = some (x, rest') ∧
    rest'.length ≤ rest.length

variable {scan scan' : List Char → Option (α × List Char)}

namespace Munches

theorem longest_of_eq_some (h : Munches P scan) (hscan : scan (p ++ rest) = some (x, rest)) :
    LongestPrefix P (p ++ rest) p ∧ scan p = some (x, []) := by
  obtain ⟨p', hp', hmem, hread⟩ := h.taken hscan
  obtain rfl : p = p' := List.append_cancel_right hp'
  refine ⟨⟨List.prefix_append p rest, hmem, fun q hq hqmem => ?_⟩, hread⟩
  obtain ⟨tail, htail⟩ := hq
  obtain ⟨y, rest', hgreedy, hle⟩ := h.greedy tail hqmem
  rw [htail, hscan] at hgreedy
  obtain ⟨rfl, rfl⟩ : x = y ∧ rest = rest' := by simpa using hgreedy
  have hlength := congrArg List.length htail
  rw [List.length_append, List.length_append] at hlength
  omega

theorem eq_none_iff (h : Munches P scan) : scan text = none ↔ ∀ p, p <+: text → ¬ P p := by
  constructor
  · rintro hnone p ⟨rest, rfl⟩ hmem
    obtain ⟨x, rest', hsome, -⟩ := h.greedy rest hmem
    rw [hnone] at hsome
    contradiction
  · intro hall
    cases hscan : scan text with
    | none => rfl
    | some found =>
      obtain ⟨p, rfl, hmem, -⟩ := h.taken hscan
      exact absurd hmem (hall p (List.prefix_append p _))

/-- The scanner reads the longest prefix, whatever comes after it. -/
theorem eq_some_of_longest (h : Munches P scan) (hp : LongestPrefix P text p) :
    ∃ x rest, text = p ++ rest ∧ scan text = some (x, rest) ∧ scan p = some (x, []) := by
  cases hscan : scan text with
  | none => exact absurd hp.mem (h.eq_none_iff.1 hscan p hp.isPrefix)
  | some found =>
    obtain ⟨x, rest⟩ := found
    obtain ⟨p', rfl, -, -⟩ := h.taken hscan
    obtain ⟨hlongest, hread⟩ := h.longest_of_eq_some hscan
    obtain rfl := hp.unique hlongest
    exact ⟨x, rest, rfl, rfl, hread⟩

theorem map_fst_append (h : Munches P scan)
    (hrest : ∀ p, p <+: text ++ rest → P p → p <+: text) :
    (scan (text ++ rest)).map (·.1) = (scan text).map (·.1) := by
  cases hscan : scan text with
  | none =>
    have hnone : scan (text ++ rest) = none := h.eq_none_iff.2 fun p hp hmem =>
      h.eq_none_iff.1 hscan p (hrest p hp hmem) hmem
    rw [hnone]
  | some found =>
    obtain ⟨x, after⟩ := found
    obtain ⟨p, rfl, hmem, hread⟩ := h.taken hscan
    have hlongest : LongestPrefix P (p ++ after ++ rest) p := by
      refine ⟨⟨after ++ rest, by rw [List.append_assoc]⟩, hmem, fun q hq hqmem => ?_⟩
      exact (h.longest_of_eq_some hscan).1.longest q (hrest q hq hqmem) hqmem
    obtain ⟨y, after', -, hscan', hread'⟩ := h.eq_some_of_longest hlongest
    obtain ⟨rfl, -⟩ := Prod.mk.inj (Option.some.inj (hread.symm.trans hread'))
    rw [hscan', Option.map_some, Option.map_some]

theorem map (f : α → β) (h : Munches P scan) :
    Munches P fun text => (scan text).map fun (x, rest) => (f x, rest) where
  taken := by
    intro text y rest hscan
    obtain ⟨⟨x, rest'⟩, hfound, heq⟩ := Option.map_eq_some_iff.1 hscan
    obtain ⟨rfl, rfl⟩ : f x = y ∧ rest' = rest := by simpa using heq
    obtain ⟨p, hp, hmem, hread⟩ := h.taken hfound
    exact ⟨p, hp, hmem, by rw [hread, Option.map_some]⟩
  greedy := by
    intro p rest hmem
    obtain ⟨x, rest', hscan, hle⟩ := h.greedy rest hmem
    exact ⟨f x, rest', by rw [hscan, Option.map_some], hle⟩

/-- A scanner and, where it finds nothing, another one. -/
theorem or (h : Munches P scan) (h' : Munches Q scan')
    (hle : ∀ {p q text}, P p → Q q → p <+: text → q <+: text → q.length ≤ p.length) :
    Munches (fun p => P p ∨ Q p) fun text => (scan text).or (scan' text) where
  taken := by
    intro text x rest hscan
    cases hfirst : scan text with
    | some found =>
      rw [hfirst, Option.some_or] at hscan
      obtain ⟨p, hp, hmem, hread⟩ := h.taken (hfirst.trans hscan)
      exact ⟨p, hp, .inl hmem, by rw [hread, Option.some_or]⟩
    | none =>
      rw [hfirst, Option.none_or] at hscan
      obtain ⟨q, hq, hmem, hread⟩ := h'.taken hscan
      -- the first scanner finds nothing in the prefix either
      have hnone : scan q = none := h.eq_none_iff.2 fun p hp =>
        h.eq_none_iff.1 hfirst p (hp.trans (hq ▸ List.prefix_append q rest))
      exact ⟨q, hq, .inr hmem, by rw [hnone, Option.none_or, hread]⟩
  greedy := by
    intro p rest hmem
    cases hfirst : scan (p ++ rest) with
    | some found =>
      refine ⟨found.1, found.2, by rw [Option.some_or], ?_⟩
      rcases hmem with hP | hQ
      · obtain ⟨x, rest', hscan, hlength⟩ := h.greedy rest hP
        rw [hfirst] at hscan
        rw [Option.some.inj hscan]
        exact hlength
      · obtain ⟨p', hp', hP, -⟩ := h.taken hfirst
        have hlength := congrArg List.length hp'
        have := hle hP hQ (hp' ▸ List.prefix_append p' found.2) (List.prefix_append p rest)
        rw [List.length_append, List.length_append] at hlength
        omega
    | none =>
      rw [Option.none_or]
      rcases hmem with hP | hQ
      · exact absurd hP (h.eq_none_iff.1 hfirst p (List.prefix_append p rest))
      · exact h'.greedy rest hQ

end Munches

end PrintSettings.Text
