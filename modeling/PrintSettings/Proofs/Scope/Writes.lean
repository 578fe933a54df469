import PrintSettings.Proofs.Pair.Last
import PrintSettings.Proofs.Scope.Resolution

/-! # Writes through views

A store is written to by calls that write a text or send the lookup of a name to another scope. Each
call may go through messengers in front of the store, any number of them. A run of calls comes to
the same as the writes made directly, and what is found afterwards can be read off them: the last
target of a name wins over every text of it (`callAll_eq_writeAll`).

* `call_eq_write`: messengers make no difference to one call.
* `find?_overrides_writeAll`, `values_writeAll`: what a run of writes leaves behind.
* `resolve_eq`: the lookup in a store, read off its overrides, texts and parent. -/

namespace PrintSettings

/-! ## Calls -/

/-- What a call does to a store. -/
inductive Write where
  | set (p : Pair)
  | inherit (key : String) (target : Scope)

namespace Write

/-- The scope that the lookup of a key is sent to. -/
def target? (key : String) : Write → Option Scope
  | set _ => none
  | inherit k target => if k = key then some target else none

/-- The pair that is written. -/
def pair? : Write → Option Pair
  | set p => some p
  | inherit .. => none

/-- The target that was given last for a key. -/
def lastTarget? (key : String) (writes : List Write) : Option Scope :=
  writes.reverse.findSome? (target? key)

end Write

/-- A write through a number of messengers, one in front of the other. -/
structure Call where
  messengers : Nat
  write : Write

theorem Scope.resolve_messenger (key : String) (owner : Scope) :
    (Scope.messenger owner).resolve key = owner.resolve key := by
  rw [Scope.resolve]

namespace WritableScope

def write (registry : Registry) (w : WritableScope) : Write → Logged WritableScope
  | .set p => w.set registry p
  | .inherit key target => pure (w.inherit key target)

/-- A store behind a number of messengers. -/
def behind (s : Store Scope) : Nat → WritableScope
  | 0 => direct s
  | n + 1 => messenger (behind s n)

end WritableScope

namespace Store

def write (registry : Registry) (s : Store Scope) : Write → Logged (Store Scope)
  | .set p => s.set registry p
  | .inherit key target => pure (s.inherit key target)

/-- Several writes one after another, made directly. -/
def writeAll (registry : Registry) (s : Store Scope) (writes : List Write) :
    Logged (Store Scope) :=
  writes.foldlM (write registry) s

/-- The store that a call leaves behind its messengers. -/
def call (registry : Registry) (s : Store Scope) (c : Call) : Logged (Store Scope) :=
  WritableScope.store <$> (WritableScope.behind s c.messengers).write registry c.write

/-- Several calls one after another. -/
def callAll (registry : Registry) (s : Store Scope) (calls : List Call) : Logged (Store Scope) :=
  calls.foldlM (call registry) s

variable (registry : Registry) (s : Store Scope)

/-! ## Views -/

theorem store_behind_set (p : Pair) (n : Nat) :
    WritableScope.store <$> (WritableScope.behind s n).set registry p = s.set registry p := by
  induction n with
  | zero => rw [WritableScope.behind, WritableScope.set, Functor.map_map]; exact id_map' _
  | succ n ih => rw [WritableScope.behind, WritableScope.set, Functor.map_map]; exact ih

theorem store_behind_inherit (key : String) (target : Scope) (n : Nat) :
    ((WritableScope.behind s n).inherit key target).store = s.inherit key target := by
  induction n with
  | zero => rfl
  | succ n ih => exact ih

/-- **A call does what its write does directly.** -/
theorem call_eq_write (c : Call) : s.call registry c = s.write registry c.write := by
  obtain ⟨n, p | ⟨key, target⟩⟩ := c
  · exact store_behind_set registry s p n
  · exact congrArg pure (store_behind_inherit s key target n)

theorem callAll_eq (calls : List Call) :
    s.callAll registry calls = s.writeAll registry (calls.map (·.write)) := by
  have hstep : call registry = fun s c => s.write registry c.write := by
    funext s c
    exact call_eq_write registry s c
  rw [callAll, writeAll, List.foldlM_map, hstep]

/-- A store behind messengers is looked up as if they were not there. -/
theorem resolve_behind (key : String) (n : Nat) :
    (WritableScope.behind s n).toScope.resolve key = (Scope.store s).resolve key := by
  induction n with
  | zero => rfl
  | succ n ih => exact (Scope.resolve_messenger key _).trans ih

/-! ## One write -/

theorem find?_overrides_write (w : Write) (key : String) :
    KeyMap.find? key (s.write registry w).value.overrides =
      (w.target? key).or (KeyMap.find? key s.overrides) := by
  cases w with
  | set p => rfl
  | inherit k target =>
    show KeyMap.find? key (KeyMap.insertEntry k target s.overrides) = _
    rw [KeyMap.find?_insertEntry]
    by_cases h : k = key <;> simp [Write.target?, h]

theorem parent_write (w : Write) : (s.write registry w).value.parent = s.parent := by
  cases w <;> rfl

/-! ## Runs of writes -/

theorem writeAll_cons (w : Write) (writes : List Write) :
    (s.writeAll registry (w :: writes)).value =
      ((s.write registry w).value.writeAll registry writes).value := rfl

theorem find?_overrides_writeAll (writes : List Write) (key : String) :
    KeyMap.find? key (s.writeAll registry writes).value.overrides =
      (Write.lastTarget? key writes).or (KeyMap.find? key s.overrides) := by
  induction writes generalizing s with
  | nil => rfl
  | cons w writes ih =>
    rw [writeAll_cons, ih, find?_overrides_write, Write.lastTarget?, Write.lastTarget?,
      List.reverse_cons, List.findSome?_append, Option.or_assoc]
    simp

theorem parent_writeAll (writes : List Write) :
    (s.writeAll registry writes).value.parent = s.parent := by
  induction writes generalizing s with
  | nil => rfl
  | cons w writes ih => rw [writeAll_cons, ih, parent_write]

theorem setAll_cons (p : Pair) (pairs : List Pair) :
    (s.setAll registry (p :: pairs)).value =
      ((s.set registry p).value.setAll registry pairs).value := rfl

theorem values_setAll (pairs : List Pair) : (s.setAll registry pairs).value.values =
    pairs.foldl (fun m p => m.insert p.key p.value) s.values := by
  induction pairs generalizing s with
  | nil => rfl
  | cons p pairs ih => rw [setAll_cons, ih]; rfl

theorem values_writeAll (writes : List Write) : (s.writeAll registry writes).value.values =
    (writes.filterMap Write.pair?).foldl (fun m p => m.insert p.key p.value) s.values := by
  induction writes generalizing s with
  | nil => rfl
  | cons w writes ih =>
    rw [writeAll_cons, ih]
    cases w <;> rfl

theorem get?_values_writeAll (writes : List Write) (key : String) :
    (s.writeAll registry writes).value.values.get? key =
      (lastText? key (writes.filterMap Write.pair?)).or (s.values.get? key) := by
  rw [values_writeAll, KeyMap.get?_foldl_insert_pairs]

/-! ## Lookups -/

/-- **The lookup in a store.** An override goes before a text, and a text before the parent. -/
theorem resolve_eq (key : String) :
    (Scope.store s).resolve key = match KeyMap.find? key s.overrides, s.values.get? key with
      | some target, _ => target.resolve key
      | none, some text => pure text
      | none, none => Scope.resolveParent key s.parent := by
  cases ht : KeyMap.find? key s.overrides with
  | some target => exact Scope.resolve_override ht
  | none =>
    cases hv : s.values.get? key with
    | some text => exact Scope.resolve_text ht hv
    | none =>
      cases hp : s.parent with
      | some p => exact Scope.resolve_parent ht hv hp
      | none => exact Scope.resolve_widest ht hv hp

theorem resolve_inherit_of_ne {key other : String} (h : other ≠ key) (target : Scope) :
    (Scope.store (s.inherit key target)).resolve other = (Scope.store s).resolve other := by
  have hfind : KeyMap.find? other (s.inherit key target).overrides =
      KeyMap.find? other s.overrides :=
    KeyMap.find?_insertEntry.trans (if_neg (Ne.symm h))
  rw [resolve_eq, resolve_eq, hfind]
  rfl

/-! ## Texts -/

theorem mem_pairs {p : Pair} : p ∈ s.pairs ↔ s.values.get? p.key = some p.value := by
  rw [pairs, List.mem_map]
  constructor
  · rintro ⟨e, he, rfl⟩
    exact KeyMap.mem_entries_iff.1 he
  · exact fun h => ⟨(p.key, p.value), KeyMap.mem_entries_iff.2 h, rfl⟩

theorem sorted_pairs : s.pairs.Pairwise (·.key < ·.key) := by
  rw [pairs, List.pairwise_map]
  exact s.values.sorted

theorem pairs_eq_of_values_eq {s t : Store Scope} (h : s.values = t.values) :
    s.pairs = t.pairs := by
  rw [pairs, h, ← pairs]

theorem arguments_eq_of_values_eq {s t : Store Scope} (h : s.values = t.values) :
    s.arguments = t.arguments := by
  rw [arguments, pairs_eq_of_values_eq h, ← arguments]

/-! ## Runs of calls -/

/-- **Writes through views.** Calls through any messengers leave the store and the records that the
same writes leave when they are made directly, and views of the store are looked up as the store is.
A name that was ever sent to a target resolves as the last target does; otherwise it has the text
that was written last, else what the parent gives. What the store lists depends on the pairs
alone. -/
theorem callAll_eq_writeAll (calls : List Call) :
    let writes := calls.map (·.write)
    let pairs := writes.filterMap Write.pair?
    let t := (s.callAll registry calls).value
    let u := (s.setAll registry pairs).value
    s.callAll registry calls = s.writeAll registry writes ∧
    (∀ n key, (WritableScope.behind t n).toScope.resolve key = (Scope.store t).resolve key ∧
      ∀ kind, (WritableScope.behind t n).toScope.get kind key = (Scope.store t).get kind key) ∧
    (∀ key, (Scope.store t).resolve key =
      match (Write.lastTarget? key writes).or (KeyMap.find? key s.overrides),
        (lastText? key pairs).or (s.values.get? key) with
      | some target, _ => target.resolve key
      | none, some text => pure text
      | none, none => Scope.resolveParent key s.parent) ∧
    (∀ key target other, other ≠ key →
      (Scope.store (t.inherit key target)).resolve other = (Scope.store t).resolve other) ∧
    t.pairs = u.pairs ∧ t.arguments = u.arguments ∧ t.pairs.Pairwise (·.key < ·.key) ∧
    ∀ p, p ∈ t.pairs ↔
      (lastText? p.key pairs).or (s.values.get? p.key) = some p.value := by
  intro writes pairs t u
  have hrun : s.callAll registry calls = s.writeAll registry writes := callAll_eq registry s calls
  have ht : t = (s.writeAll registry writes).value := congrArg Logged.value hrun
  have hvalues : t.values = u.values := by
    rw [ht, values_writeAll, values_setAll]
  refine ⟨hrun, fun n key => ⟨resolve_behind t key n, fun kind => ?_⟩, fun key => ?_,
    fun key target other h => resolve_inherit_of_ne t h target, pairs_eq_of_values_eq hvalues,
    arguments_eq_of_values_eq hvalues, sorted_pairs t, fun p => ?_⟩
  · rw [Scope.get, resolve_behind, Scope.get]
  · rw [resolve_eq, ht, find?_overrides_writeAll, get?_values_writeAll, parent_writeAll]
  · rw [mem_pairs, ht, get?_values_writeAll]

/-- A speed that is sent to a container, and written before and after that through messengers. -/
def redirectedSpeed : List Call :=
  let slow : Scope := .container ⟨KeyMap.ofList [("speed", ⟨"25", none⟩)], []⟩
  [⟨2, .set ⟨"speed", "90"⟩⟩, ⟨1, .inherit "speed" slow⟩, ⟨0, .set ⟨"speed", "80"⟩⟩,
    ⟨3, .set ⟨"width", "0.4"⟩⟩]

theorem callAll_eq_writeAll_redirectedSpeed :
    let t := (Store.root.callAll ∅ redirectedSpeed).value
    "width" ≠ "speed" ∧
    (Scope.store t).resolve "speed" = pure "25" ∧ t.pairs = [⟨"speed", "80"⟩, ⟨"width", "0.4"⟩] ∧
    ∀ target, (Scope.store (t.inherit "speed" target)).resolve "width" = pure "0.4" := by
  intro t
  obtain ⟨-, -, hresolve, hother, hpairs, -⟩ := callAll_eq_writeAll ∅ Store.root redirectedSpeed
  have hne : "width" ≠ "speed" := by decide
  refine ⟨hne, (hresolve "speed").trans rfl, hpairs.trans (by decide), fun target => ?_⟩
  exact (hother "speed" target "width" hne).trans ((hresolve "width").trans rfl)

end Store

end PrintSettings
