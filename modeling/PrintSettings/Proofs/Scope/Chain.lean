import PrintSettings.Proofs.KeyMap
import PrintSettings.Proofs.Outcome
import PrintSettings.Scope.Container

/-! # Chains of containers

A chain of containers is given by what was added to each of its scopes, the widest one first. A
lookup goes from the innermost scope outwards and ends at the first entry; what it finds is also
what the scopes hold when each one is laid over those around it (`chain_overlaid`).

* `find?_chain`: the lookup, read off the additions.
* `get?_overlaid`: the same of the scopes laid over each other.
* `find?_take_modify`: an addition is seen under its own name only, and not from further out.
* `size_own_chain`: a scope has one entry for each name. -/

namespace PrintSettings

open PrintSettings.Value

/-! ## Additions -/

/-- What is added to a scope: a text without a limit, or with what is said about its limit. -/
inductive Addition where
  | plain (key value : String)
  | limited (key value : String) (limit : Option Nat)

namespace Addition

def key : Addition → String
  | plain key _ | limited key _ _ => key

def setting : Addition → Setting
  | plain _ value => ⟨value, none⟩
  | limited _ value limit => ⟨value, limit⟩

/-- The setting that was added last under a name, value and limit together. -/
def last? (key : String) (additions : List Addition) : Option Setting :=
  additions.reverse.findSome? fun a => if a.key = key then some a.setting else none

/-- The map of what was added last under each name. -/
def written (additions : List Addition) : KeyMap Setting :=
  additions.foldl (fun m a => m.insert a.key a.setting) ∅

theorem get?_written (additions : List Addition) (key : String) :
    (written additions).get? key = last? key additions := by
  rw [written, KeyMap.get?_foldl_insert_last, KeyMap.get?_empty, Option.or_none, last?]

theorem last?_concat (key : String) (additions : List Addition) (a : Addition) :
    last? key (additions ++ [a]) = if a.key = key then some a.setting else last? key additions := by
  by_cases h : a.key = key <;> simp [last?, h]

end Addition

namespace Container

def addition (c : Container) : Addition → Container
  | .plain key value => c.add key value
  | .limited key value limit => c.addLimited key value limit

def addAll (c : Container) (additions : List Addition) : Container := additions.foldl addition c

theorem addition_eq (c : Container) (a : Addition) :
    c.addition a = { c with own := c.own.insert a.key a.setting } := by
  cases a <;> rfl

theorem addAll_eq (c : Container) (additions : List Addition) : c.addAll additions =
    { c with own := additions.foldl (fun m a => m.insert a.key a.setting) c.own } := by
  unfold addAll
  induction additions generalizing c with
  | nil => rfl
  | cons a additions ih => rw [List.foldl_cons, ih, addition_eq, List.foldl_cons]

/-! ## Chains -/

/-- The innermost of containers inside one another, after these additions to each of them, the
widest one first. There is a widest scope even if nothing is said of it. -/
def chain : List (List Addition) → Container
  | [] => root
  | widest :: inner =>
    inner.foldl (fun c additions => c.inside.addAll additions) (root.addAll widest)

/-- The scopes of a container, the innermost one first. -/
def scopes (c : Container) : List (KeyMap Setting) := c.own :: c.around

theorem scopes_inside_addAll (c : Container) (additions : List Addition) :
    (c.inside.addAll additions).scopes = Addition.written additions :: c.scopes := by
  rw [addAll_eq]
  rfl

theorem scopes_chain (widest : List Addition) (inner : List (List Addition)) :
    (chain (widest :: inner)).scopes = ((widest :: inner).map Addition.written).reverse := by
  have hrun : ∀ c : Container,
      (inner.foldl (fun c additions => c.inside.addAll additions) c).scopes =
        (inner.map Addition.written).reverse ++ c.scopes := by
    induction inner with
    | nil => exact fun c => rfl
    | cons additions inner ih =>
      intro c
      rw [List.foldl_cons, ih, scopes_inside_addAll]
      simp
  rw [chain, hrun, addAll_eq]
  simp [scopes, root, Addition.written]

/-- **The lookup from the innermost scope outwards** ends at the first scope with the name. -/
theorem find?_chain (additions : List (List Addition)) (key : String) :
    (chain additions).find? key = additions.reverse.findSome? (Addition.last? key) := by
  cases additions with
  | nil => rfl
  | cons widest inner =>
    show (chain (widest :: inner)).scopes.findSome? (·.get? key) = _
    rw [scopes_chain, ← List.map_reverse, List.findSome?_map]
    congr 1
    funext additions
    exact Addition.get?_written additions key

/-- The map that is left when every scope is laid over those around it, from the widest one
inwards. -/
def overlaid (additions : List (List Addition)) : KeyMap Setting :=
  additions.foldl (fun m additions => m.overlay (Addition.written additions)) ∅

theorem get?_overlaid (additions : List (List Addition)) (key : String) :
    (overlaid additions).get? key = additions.reverse.findSome? (Addition.last? key) := by
  have hrun : ∀ m : KeyMap Setting,
      (additions.foldl (fun m additions => m.overlay (Addition.written additions)) m).get? key =
        (additions.reverse.findSome? (Addition.last? key)).or (m.get? key) := by
    induction additions with
    | nil => exact fun m => rfl
    | cons scope additions ih =>
      intro m
      rw [List.foldl_cons, ih, KeyMap.get?_overlay, Addition.get?_written, List.reverse_cons,
        List.findSome?_append, Option.or_assoc]
      simp
  rw [overlaid, hrun, KeyMap.get?_empty, Option.or_none]

/-! ## Sizes -/

theorem size_own_chain (outer : List (List Addition)) (additions : List Addition) :
    (chain (outer ++ [additions])).own.size = (additions.map Addition.key).toFinset.card := by
  have hown : (chain (outer ++ [additions])).own = Addition.written additions := by
    have hscopes : (chain (outer ++ [additions])).scopes =
        ((outer ++ [additions]).map Addition.written).reverse := by
      cases outer with
      | nil => exact scopes_chain additions []
      | cons widest outer => exact scopes_chain widest (outer ++ [additions])
    rw [List.map_append, List.reverse_append] at hscopes
    exact (List.cons_eq_cons.1 hscopes).1
  rw [hown]
  exact KeyMap.size_foldl_insert Addition.key Addition.setting additions

/-! ## Further additions -/

/-- A further addition to one scope is not seen from a scope around it, and from no scope under
another name. -/
theorem find?_take_modify {a : Addition} {n m : Nat} {key : String} (h : m < n ∨ key ≠ a.key)
    (additions : List (List Addition)) :
    (chain ((additions.modify n (· ++ [a])).take (m + 1))).find? key =
      (chain (additions.take (m + 1))).find? key := by
  have hlast : ((additions.modify n (· ++ [a])).take (m + 1)).map (Addition.last? key) =
      (additions.take (m + 1)).map (Addition.last? key) := by
    refine List.ext_getElem? fun i => ?_
    simp only [List.getElem?_map, List.getElem?_take, List.getElem?_modify]
    split
    next hi =>
      cases additions[i]? with
      | none => rfl
      | some scope =>
        by_cases hn : n = i
        · have hkey : ¬ a.key = key := fun heq => h.elim (by omega) (fun hne => hne heq.symm)
          simp [hn, Addition.last?_concat, hkey]
        · simp [hn]
    next => rfl
  -- the lookup depends only on what is found in each scope
  have hfind : ∀ l : List (List Addition), (chain l).find? key =
      (l.map (Addition.last? key)).reverse.findSome? id := fun l => by
    rw [find?_chain, ← List.map_reverse, List.findSome?_map]
    rfl
  rw [hfind, hfind, hlast]

/-! ## Outcomes -/

theorem resolve_congr {c c' : Container} {key : String} (h : c.find? key = c'.find? key) :
    c.resolve key = c'.resolve key := by
  rw [resolve, resolve, h]

theorem get_congr {c c' : Container} {key : String} (h : c.find? key = c'.find? key)
    (kind : Kind) : c.get kind key = c'.get kind key := by
  rw [get, get, resolve_congr h]

theorem result_resolve (c : Container) (key : String) :
    (c.resolve key).result = match c.find? key with
      | some setting => .ok setting.value
      | none => .error (.missingKey key) := by
  unfold resolve
  cases c.find? key <;> rfl

theorem result_get (c : Container) (kind : Kind) (key : String) :
    (c.get kind key).result = match c.find? key with
      | some setting => .ok (kind.read key setting.value).value
      | none => .error (.missingKey key) := by
  unfold get
  rw [Outcome.result_bind, result_resolve]
  cases c.find? key <;> rfl

/-- **A chain of containers is the overlay of its scopes.** The lookup from the innermost scope finds
what the overlay holds, value and limit together; texts, and values of every kind, are there exactly
if the overlay has the name. A scope has one entry for each name that it was ever given. A further
addition to a scope is not seen from the scopes around it, nor under any other name. -/
theorem chain_overlaid (additions : List (List Addition)) :
    let c := chain additions
    let m := overlaid additions
    (∀ key, c.find? key = m.get? key) ∧
    (∀ key, m.get? key = additions.reverse.findSome? (Addition.last? key)) ∧
    (∀ key, ((∃ text, (c.resolve key).result = .ok text) ↔ key ∈ m.keys) ∧
      ∀ setting, m.get? key = some setting → (c.resolve key).result = .ok setting.value) ∧
    (∀ (kind : Kind) (key : String),
      ((∃ x, (c.get kind key).result = .ok x) ↔ key ∈ m.keys) ∧
      ∀ setting, m.get? key = some setting →
        (c.get kind key).result = .ok (kind.read key setting.value).value) ∧
    (∀ outer scope, additions = outer ++ [scope] →
      c.own.size = (scope.map Addition.key).toFinset.card) ∧
    ∀ (a : Addition) (n m : Nat) (key : String), m < n ∨ key ≠ a.key →
      let before := chain (additions.take (m + 1))
      let after := chain ((additions.modify n (· ++ [a])).take (m + 1))
      after.find? key = before.find? key ∧ after.resolve key = before.resolve key ∧
        ∀ kind, after.get kind key = before.get kind key := by
  intro c m
  have hfind : ∀ key, c.find? key = m.get? key := fun key => by
    rw [find?_chain, get?_overlaid]
  refine ⟨hfind, get?_overlaid additions, fun key => ?_, fun kind key => ?_, ?_,
    fun a n k key h => ?_⟩
  · rw [result_resolve, hfind, KeyMap.mem_keys_iff]
    cases m.get? key <;> simp
  · rw [result_get, hfind, KeyMap.mem_keys_iff]
    cases m.get? key <;> simp
  · rintro outer scope rfl
    exact size_own_chain outer scope
  · have hsame := find?_take_modify h additions
    exact ⟨hsame, resolve_congr hsame, get_congr hsame⟩

/-- A global width with a limit, a scope to which nothing is added, and one with three widths. -/
def threeWidths : List (List Addition) :=
  [[.limited "width" "0.4" (some 1), .plain "speed" "50"], [],
    [.plain "width" "0.6", .limited "width" "0.5" (some 0), .plain "width" "0.7"]]

/-- The last of the three widths has no limit and is what counts in its scope; another one after it
is not seen from outside, nor as a speed. -/
theorem chain_overlaid_threeWidths :
    let more : Addition := .limited "width" "0.8" (some 1)
    (overlaid threeWidths).get? "width" = some ⟨"0.7", none⟩ ∧
    ((chain threeWidths).get .text "width").result = .ok "0.7" ∧
    (∃ text, ((chain threeWidths).resolve "speed").result = .ok text) ∧
    (chain threeWidths).own.size = 1 ∧
    (1 < 2 ∨ "width" ≠ more.key) ∧
    (chain ((threeWidths.modify 2 (· ++ [more])).take 2)).find? "width" = some ⟨"0.4", some 1⟩ ∧
    (2 < 2 ∨ "speed" ≠ more.key) ∧
    ((chain ((threeWidths.modify 2 (· ++ [more])).take 3)).resolve "speed").result =
      .ok "50" := by
  intro more
  obtain ⟨-, -, hresolve, hget, hsize, hmore⟩ := chain_overlaid threeWidths
  have hwidth : (overlaid threeWidths).get? "width" = some ⟨"0.7", none⟩ := by decide
  have houter : 1 < 2 ∨ "width" ≠ more.key := .inl (by decide)
  have hspeed : 2 < 2 ∨ "speed" ≠ more.key := .inr (by decide)
  refine ⟨hwidth, (hget .text "width").2 _ hwidth, (hresolve "speed").1.2 (by decide), ?_, houter,
    (hmore more 2 1 "width" houter).1.trans rfl, hspeed, ?_⟩
  · exact (hsize (threeWidths.take 2) _ rfl).trans (by decide)
  · exact (congrArg Outcome.result (hmore more 2 2 "speed" hspeed).2.1).trans rfl

end Container

end PrintSettings
