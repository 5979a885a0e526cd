import Booster.Theory.Rows

/-!
# A store edited through a context

Records are kept in a *store*, and edited through a *context* that holds the
changes not yet written: a fetch reads the store with the pending changes made
to it (the context's *view*), a commit writes the view to the store, and when a
commit throws the changes stay pending. Every record the context has read or
made is held in memory by an object; the object of a deleted row keeps the record it
had, and editing it again edits no row. That it keeps the record once the deletion has been committed is
an assumption, which concerns whoever still holds the object then. When the process ends, what is pending
and what is in memory is lost and the store remains.

The context carries its own soundness (`Sound`): the identities in the store and
in the view are distinct and older than `next`, and the object of a row of the
view holds that row's record. What the operations do to the four things that can
be observed — store, view, memory, next identity — is stated once, as simp
lemmas; two contexts that agree on them (`Same`) behave alike. `Everywhere` is the
rule for a property of every record, and `fetch_partition` says when fetches by key split the
fetch of everything.
-/

namespace Booster.Theory

universe u

variable {α : Type u}

/-- What a context guarantees of its parts. -/
structure Sound (store : Rows α) (pending : List (Change α)) (memory : ObjectID → Option α)
    (next : ObjectID) : Prop where
  /-- The store's identities are distinct. -/
  store_nodup : (ids store).Nodup
  /-- The store's identities have been given out. -/
  store_lt : ∀ i ∈ ids store, i < next
  /-- The view's identities are distinct. -/
  view_nodup : (ids (replay pending store)).Nodup
  /-- The view's identities have been given out. -/
  view_lt : ∀ i ∈ ids (replay pending store), i < next
  /-- A row's object holds the row's record. -/
  memory_eq : ∀ r ∈ replay pending store, memory r.1 = some r.2

/-- A store with a context on it. -/
structure Context (α : Type u) where
  /-- The rows written. -/
  store : Rows α
  /-- The changes not yet written. -/
  pending : List (Change α)
  /-- What the objects hold. -/
  memory : ObjectID → Option α
  /-- The identity the next new object gets. -/
  next : ObjectID
  /-- The parts fit together. -/
  sound : Sound store pending memory next

namespace Context

/-- What a fetch reads: the store with the pending changes made to it. -/
def view (c : Context α) : Rows α := replay c.pending c.store

/-- `context.fetch(request)`: the objects whose records satisfy the predicate. -/
def fetch (c : Context α) (p : α → Bool) : List ObjectID := ids (c.view.filter fun r => p r.2)

/-- `context.hasChanges`. -/
def hasChanges (c : Context α) : Bool := !c.pending.isEmpty

/-- Nothing stored, nothing pending. -/
def empty : Context α where
  store := []
  pending := []
  memory := fun _ => none
  next := 0
  sound := ⟨by simp [ids], by simp [ids], by simp [ids], by simp [ids], by simp⟩

/-- A new object holding `a`, with its row pending. -/
def insertNewObject (c : Context α) (a : α) : Context α where
  store := c.store
  pending := c.pending ++ [.insert c.next a]
  memory := Function.update c.memory c.next (some a)
  next := c.next + 1
  sound := by
    have h := c.sound
    have hv : ∀ i ∈ ids (replay c.pending c.store), i ≠ c.next := fun i hi => Nat.ne_of_lt (h.view_lt i hi)
    refine ⟨h.store_nodup, fun i hi => Nat.lt_succ_of_lt (h.store_lt i hi), ?_, ?_, ?_⟩
    · rw [replay_concat, ids_insert, List.nodup_append]
      refine ⟨h.view_nodup, List.nodup_singleton _, fun i hi j hj => ?_⟩
      rw [List.mem_singleton.mp hj]
      exact hv i hi
    · intro i hi
      rw [replay_concat, ids_insert, List.mem_append, List.mem_singleton] at hi
      rcases hi with hi | rfl
      · exact Nat.lt_succ_of_lt (h.view_lt i hi)
      · exact Nat.lt_succ_self _
    · intro r hr
      rw [replay_concat, mem_insert] at hr
      rcases hr with hr | rfl
      · rw [Function.update_of_ne (hv r.1 (mem_ids_of_mem hr))]
        exact h.memory_eq r hr
      · rw [Function.update_self]

/-- Object `i`'s record is rewritten; if it has a row, the row's change is pending. -/
def setValue (c : Context α) (i : ObjectID) (f : α → α) : Context α where
  store := c.store
  pending := if i ∈ ids c.view then c.pending ++ [.update i f] else c.pending
  memory := Function.update c.memory i ((c.memory i).map f)
  next := c.next
  sound := by
    have h := c.sound
    split
    next hi =>
      refine ⟨h.store_nodup, h.store_lt, by simpa using h.view_nodup, by simpa using h.view_lt, ?_⟩
      rintro ⟨j, b⟩ hr
      rw [replay_concat, mem_update] at hr
      obtain ⟨a, ha, rfl⟩ := hr
      have hm := h.memory_eq _ ha
      by_cases hj : j = i
      · subst hj
        simp only [Function.update_self, if_pos]
        rw [hm, Option.map_some]
      · simp only [if_neg hj, Function.update_of_ne hj]
        exact hm
    next hi =>
      refine ⟨h.store_nodup, h.store_lt, h.view_nodup, h.view_lt, fun r hr => ?_⟩
      have hj : r.1 ≠ i := fun e => hi (e ▸ mem_ids_of_mem hr)
      rw [Function.update_of_ne hj]
      exact h.memory_eq r hr

/-- `context.delete(i)`: if object `i` has a row, the row's deletion is pending. -/
def delete (c : Context α) (i : ObjectID) : Context α where
  store := c.store
  pending := if i ∈ ids c.view then c.pending ++ [.delete i] else c.pending
  memory := c.memory
  next := c.next
  sound := by
    have h := c.sound
    split
    next hi =>
      refine ⟨h.store_nodup, h.store_lt, ?_, fun j hj => ?_, fun r hr => ?_⟩
      · simpa using h.view_nodup.filter _
      · rw [replay_concat, ids_delete, List.mem_filter] at hj
        exact h.view_lt j hj.1
      · rw [replay_concat, mem_delete] at hr
        exact h.memory_eq r hr.1
    next hi => exact ⟨h.store_nodup, h.store_lt, h.view_nodup, h.view_lt, h.memory_eq⟩

/-- `context.save()`, when it does not throw: every pending change is written. -/
def save (c : Context α) : Context α where
  store := c.view
  pending := []
  memory := c.memory
  next := c.next
  sound := ⟨c.sound.view_nodup, c.sound.view_lt, c.sound.view_nodup, c.sound.view_lt, c.sound.memory_eq⟩

/-- The process ends and starts again: the store is what remains. -/
def restart (c : Context α) : Context α where
  store := c.store
  pending := []
  memory := fun i => (c.store.find? fun r => r.1 = i).map Prod.snd
  next := c.next
  sound := by
    have h := c.sound
    refine ⟨h.store_nodup, h.store_lt, h.store_nodup, h.store_lt, ?_⟩
    rintro ⟨i, a⟩ hr
    cases hf : c.store.find? fun r => r.1 = i with
    | none => exact absurd (List.find?_eq_none.mp hf _ hr) (by simp)
    | some r =>
      obtain ⟨j, b⟩ := r
      have hj : j = i := by simpa using List.find?_some hf
      subst hj
      simp only [Option.map_some, Option.some.injEq]
      exact eq_of_mem_of_nodup h.store_nodup (List.mem_of_find?_eq_some hf) hr

/-- A change asked of the context; an insertion takes the next identity, whatever it names. -/
def make (c : Context α) : Change α → Context α
  | .insert _ a => c.insertNewObject a
  | .update i f => c.setValue i f
  | .delete i => c.delete i

/-! ### What the operations do -/

section Observations

variable (c : Context α) (a : α) (i : ObjectID) (f : α → α)

@[simp] theorem view_insertNewObject :
    (c.insertNewObject a).view = (Change.insert c.next a).apply c.view := by
  simp [view, insertNewObject]

@[simp] theorem store_insertNewObject : (c.insertNewObject a).store = c.store := rfl

@[simp] theorem memory_insertNewObject :
    (c.insertNewObject a).memory = Function.update c.memory c.next (some a) := rfl

@[simp] theorem next_insertNewObject : (c.insertNewObject a).next = c.next + 1 := rfl

@[simp] theorem view_setValue : (c.setValue i f).view = (Change.update i f).apply c.view := by
  by_cases h : i ∈ ids c.view
  · have hp : (c.setValue i f).pending = c.pending ++ [.update i f] := if_pos h
    rw [view, hp, replay_concat]
    rfl
  · have hp : (c.setValue i f).pending = c.pending := if_neg h
    rw [update_of_notMem h, view, hp]
    rfl

@[simp] theorem store_setValue : (c.setValue i f).store = c.store := rfl

@[simp] theorem memory_setValue :
    (c.setValue i f).memory = Function.update c.memory i ((c.memory i).map f) := rfl

@[simp] theorem next_setValue : (c.setValue i f).next = c.next := rfl

@[simp] theorem view_delete : (c.delete i).view = (Change.delete i).apply c.view := by
  by_cases h : i ∈ ids c.view
  · have hp : (c.delete i).pending = c.pending ++ [.delete i] := if_pos h
    rw [view, hp, replay_concat]
    rfl
  · have hp : (c.delete i).pending = c.pending := if_neg h
    rw [delete_of_notMem h, view, hp]
    rfl

@[simp] theorem store_delete : (c.delete i).store = c.store := rfl

@[simp] theorem memory_delete : (c.delete i).memory = c.memory := rfl

@[simp] theorem next_delete : (c.delete i).next = c.next := rfl

@[simp] theorem view_save : c.save.view = c.view := rfl

@[simp] theorem store_save : c.save.store = c.view := rfl

@[simp] theorem memory_save : c.save.memory = c.memory := rfl

@[simp] theorem next_save : c.save.next = c.next := rfl

@[simp] theorem store_make (ch : Change α) : (c.make ch).store = c.store := by
  cases ch <;> rfl

/-- A change asked is made to the view. -/
theorem view_make {ch : Change α} (h : ∀ i a, ch = .insert i a → i = c.next) :
    (c.make ch).view = ch.apply c.view := by
  cases ch with
  | insert i a =>
    rw [h i a rfl]
    exact c.view_insertNewObject a
  | update i f => exact c.view_setValue i f
  | delete i => exact c.view_delete i

/-- What is in memory after a restart is in the store. -/
theorem mem_store_of_memory_restart {i : ObjectID} {a : α} (h : c.restart.memory i = some a) :
    (i, a) ∈ c.store := by
  obtain ⟨r, hr, rfl⟩ := Option.map_eq_some_iff.mp h
  have : r.1 = i := by simpa using List.find?_some hr
  exact this ▸ List.mem_of_find?_eq_some hr

theorem view_nodup : (ids c.view).Nodup := c.sound.view_nodup

theorem memory_of_mem_view {i : ObjectID} {a : α} (h : (i, a) ∈ c.view) : c.memory i = some a :=
  c.sound.memory_eq _ h

theorem mem_fetch {p : α → Bool} {i : ObjectID} :
    i ∈ c.fetch p ↔ ∃ a, (i, a) ∈ c.view ∧ p a = true := by
  simp [fetch, mem_ids, List.mem_filter]

theorem fetch_nodup (p : α → Bool) : (c.fetch p).Nodup :=
  c.view_nodup.sublist (List.filter_sublist.map _)

/-- A fetch by key finds nothing exactly when the key is not in the view. -/
theorem fetch_key_eq_nil_iff {κ : Type*} [DecidableEq κ] {key : α → κ} {k : κ} :
    c.fetch (fun a => key a = k) = [] ↔ k ∉ keys key c.view := by
  simp [fetch, ids, keys, List.filter_eq_nil_iff]

end Observations

/-! ### Contexts that cannot be told apart -/

/-- Two contexts that agree on everything a program can read or write. -/
structure Same (c d : Context α) : Prop where
  /-- The same rows written. -/
  store : c.store = d.store
  /-- The same rows to fetch. -/
  view : c.view = d.view
  /-- The same objects. -/
  memory : c.memory = d.memory
  /-- The same next identity. -/
  next : c.next = d.next

@[refl] theorem Same.refl (c : Context α) : Same c c := ⟨rfl, rfl, rfl, rfl⟩

theorem Same.trans {c d e : Context α} (h₁ : Same c d) (h₂ : Same d e) : Same c e :=
  ⟨h₁.store.trans h₂.store, h₁.view.trans h₂.view, h₁.memory.trans h₂.memory, h₁.next.trans h₂.next⟩

/-- Writing an edit and then making the same edit again tells nothing new, when
making it again does nothing. -/
theorem same_setValue_save_setValue {f : α → α} (hf : ∀ a, f (f a) = f a) (c : Context α) (i : ObjectID) :
    Same ((c.setValue i f).save.setValue i f) (c.setValue i f).save where
  store := rfl
  view := by simp [update_update hf]
  memory := by
    funext j
    by_cases h : j = i
    · subst h
      cases hm : c.memory j <;> simp [hm, hf]
    · simp [Function.update_of_ne h]
  next := rfl

/-- Two contexts that differ at most in what is written: the same rows to fetch,
the same objects, the same next identity. -/
structure Alike (c d : Context α) : Prop where
  /-- The same rows to fetch. -/
  view : c.view = d.view
  /-- The same objects. -/
  memory : c.memory = d.memory
  /-- The same next identity. -/
  next : c.next = d.next

theorem Same.alike {c d : Context α} (h : Same c d) : Alike c d := ⟨h.view, h.memory, h.next⟩

@[refl] theorem Alike.refl (c : Context α) : Alike c c := (Same.refl c).alike

theorem Alike.symm {c d : Context α} (h : Alike c d) : Alike d c := ⟨h.view.symm, h.memory.symm, h.next.symm⟩

theorem Alike.trans {c d e : Context α} (h₁ : Alike c d) (h₂ : Alike d e) : Alike c e :=
  ⟨h₁.view.trans h₂.view, h₁.memory.trans h₂.memory, h₁.next.trans h₂.next⟩

/-- A commit changes what is written, and nothing else. -/
theorem alike_save (c : Context α) : Alike c.save c := ⟨rfl, rfl, rfl⟩

theorem Alike.fetch {c d : Context α} (h : Alike c d) (p : α → Bool) : c.fetch p = d.fetch p := by
  rw [Context.fetch, Context.fetch, h.view]

theorem Alike.insertNewObject {c d : Context α} (h : Alike c d) (a : α) :
    Alike (c.insertNewObject a) (d.insertNewObject a) :=
  ⟨by simp [h.view, h.next], by simp [h.memory, h.next], by simp [h.next]⟩

theorem Alike.setValue {c d : Context α} (h : Alike c d) (i : ObjectID) (f : α → α) :
    Alike (c.setValue i f) (d.setValue i f) :=
  ⟨by simp [h.view], by simp [h.memory], by simp [h.next]⟩

theorem Alike.delete {c d : Context α} (h : Alike c d) (i : ObjectID) : Alike (c.delete i) (d.delete i) :=
  ⟨by simp [h.view], by simp [h.memory], by simp [h.next]⟩

theorem Alike.make {c d : Context α} (h : Alike c d) : ∀ ch : Change α, Alike (c.make ch) (d.make ch)
  | .insert _ a => h.insertNewObject a
  | .update i f => h.setValue i f
  | .delete i => h.delete i

theorem Alike.save {c d : Context α} (h : Alike c d) : Alike c.save d.save :=
  ⟨h.view, h.memory, h.next⟩

/-! ### A property of every record -/

/-- Every record written, fetched or held in memory has property `P`. -/
structure Everywhere (P : α → Prop) (c : Context α) : Prop where
  /-- Every record written. -/
  store : ∀ r ∈ c.store, P r.2
  /-- Every record a fetch sees. -/
  view : ∀ r ∈ c.view, P r.2
  /-- Every record an object holds. -/
  memory : ∀ i a, c.memory i = some a → P a

theorem everywhere_empty (P : α → Prop) : Everywhere P empty where
  store _ hr := by cases hr
  view _ hr := by cases hr
  memory _ _ hm := by cases hm

theorem Everywhere.congr {P : α → Prop} {c d : Context α} (h : Everywhere P d) (hs : Same c d) :
    Everywhere P c :=
  ⟨hs.store ▸ h.store, hs.view ▸ h.view, hs.memory ▸ h.memory⟩

/-- A change keeps the property when the record it inserts has it, or its edit keeps it. -/
theorem Everywhere.make {P : α → Prop} {c : Context α} (h : Everywhere P c) {ch : Change α}
    (hi : ∀ i a, ch = .insert i a → P a) (hu : ∀ i f, ch = .update i f → ∀ a, P a → P (f a)) :
    Everywhere P (c.make ch) := by
  refine ⟨fun r hr => h.store r (c.store_make ch ▸ hr), ?_, ?_⟩
  · intro r hr
    cases ch with
    | insert i a =>
      rw [show c.make (.insert i a) = c.insertNewObject a from rfl, view_insertNewObject, mem_insert] at hr
      rcases hr with hr | rfl
      · exact h.view r hr
      · exact hi i a rfl
    | update i f =>
      rw [show c.make (.update i f) = c.setValue i f from rfl, view_setValue, mem_update] at hr
      obtain ⟨a, ha, hr⟩ := hr
      rw [hr]
      split
      · exact hu i f rfl a (h.view _ ha)
      · exact h.view _ ha
    | delete i =>
      rw [show c.make (.delete i) = c.delete i from rfl, view_delete, mem_delete] at hr
      exact h.view r hr.1
  · intro j b hm
    cases ch with
    | insert i a =>
      rw [show c.make (.insert i a) = c.insertNewObject a from rfl, memory_insertNewObject] at hm
      by_cases hj : j = c.next
      · rw [hj, Function.update_self, Option.some.injEq] at hm
        exact hm ▸ hi i a rfl
      · rw [Function.update_of_ne hj] at hm
        exact h.memory j b hm
    | update i f =>
      rw [show c.make (.update i f) = c.setValue i f from rfl, memory_setValue] at hm
      by_cases hj : j = i
      · rw [hj, Function.update_self, Option.map_eq_some_iff] at hm
        obtain ⟨a, ha, rfl⟩ := hm
        exact hu i f rfl a (h.memory i a ha)
      · rw [Function.update_of_ne hj] at hm
        exact h.memory j b hm
    | delete i => exact h.memory j b hm

theorem Everywhere.save {P : α → Prop} {c : Context α} (h : Everywhere P c) : Everywhere P c.save :=
  ⟨h.view, h.view, h.memory⟩

theorem Everywhere.restart {P : α → Prop} {c : Context α} (h : Everywhere P c) : Everywhere P c.restart :=
  ⟨h.store, h.store, fun _ _ hm => h.store _ (c.mem_store_of_memory_restart hm)⟩

/-! ### A property of the records of one identity -/

/-- The identity has been given out, and every record it has had that is still written, fetched
or held in memory has property `P`. -/
structure At (P : α → Prop) (i : ObjectID) (c : Context α) : Prop where
  /-- The identity has been given out. -/
  lt : i < c.next
  /-- A record written. -/
  store : ∀ a, (i, a) ∈ c.store → P a
  /-- A record a fetch sees. -/
  view : ∀ a, (i, a) ∈ c.view → P a
  /-- The record its object holds. -/
  memory : ∀ a, c.memory i = some a → P a

/-- A new object has one record. -/
theorem at_insertNewObject {P : α → Prop} {a : α} (h : P a) (c : Context α) :
    At P c.next (c.insertNewObject a) where
  lt := Nat.lt_succ_self _
  store b hb := absurd (c.sound.store_lt _ (mem_ids_of_mem hb)) (Nat.lt_irrefl _)
  view b hb := by
    rw [view_insertNewObject, mem_insert] at hb
    rcases hb with hb | hb
    · exact absurd (c.sound.view_lt _ (mem_ids_of_mem hb)) (Nat.lt_irrefl _)
    · cases hb
      exact h
  memory b hb := by
    rw [memory_insertNewObject, Function.update_self, Option.some.injEq] at hb
    exact hb ▸ h

theorem At.congr {P : α → Prop} {i : ObjectID} {c d : Context α} (h : At P i d) (hs : Same c d) : At P i c :=
  ⟨hs.next ▸ h.lt, hs.store ▸ h.store, hs.view ▸ h.view, hs.memory ▸ h.memory⟩

/-- A change keeps the property when its edit keeps it: what it inserts has another identity. -/
theorem At.make {P : α → Prop} {i : ObjectID} {c : Context α} (h : At P i c) {ch : Change α}
    (hu : ∀ j f, ch = .update j f → ∀ a, P a → P (f a)) : At P i (c.make ch) := by
  cases ch with
  | insert j a =>
    have hne : i ≠ c.next := Nat.ne_of_lt h.lt
    refine ⟨Nat.lt_succ_of_lt h.lt, h.store, fun b hb => ?_, fun b hb => ?_⟩
    · rw [show c.make (.insert j a) = c.insertNewObject a from rfl, view_insertNewObject, mem_insert] at hb
      rcases hb with hb | hb
      · exact h.view b hb
      · exact absurd (congrArg Prod.fst hb) hne
    · rw [show c.make (.insert j a) = c.insertNewObject a from rfl, memory_insertNewObject,
        Function.update_of_ne hne] at hb
      exact h.memory b hb
  | update j f =>
    refine ⟨h.lt, h.store, fun b hb => ?_, fun b hb => ?_⟩
    · rw [show c.make (.update j f) = c.setValue j f from rfl, view_setValue, mem_update] at hb
      obtain ⟨a, ha, rfl⟩ := hb
      split
      · exact hu j f rfl a (h.view a ha)
      · exact h.view a ha
    · rw [show c.make (.update j f) = c.setValue j f from rfl, memory_setValue] at hb
      by_cases hj : i = j
      · subst hj
        rw [Function.update_self, Option.map_eq_some_iff] at hb
        obtain ⟨a, ha, rfl⟩ := hb
        exact hu i f rfl a (h.memory a ha)
      · rw [Function.update_of_ne hj] at hb
        exact h.memory b hb
  | delete j =>
    refine ⟨h.lt, h.store, fun b hb => ?_, h.memory⟩
    rw [show c.make (.delete j) = c.delete j from rfl, view_delete, mem_delete] at hb
    exact h.view b hb.1

theorem At.save {P : α → Prop} {i : ObjectID} {c : Context α} (h : At P i c) : At P i c.save :=
  ⟨h.lt, h.view, h.view, h.memory⟩

theorem At.restart {P : α → Prop} {i : ObjectID} {c : Context α} (h : At P i c) : At P i c.restart :=
  ⟨h.lt, h.store, h.store, fun _ hm => h.store _ (c.mem_store_of_memory_restart hm)⟩

/-- When every record fetched has one of the distinct keys `ks`, the fetches by these keys
are disjoint, and together they are the fetch of everything. -/
theorem fetch_partition {κ : Type*} [DecidableEq κ] (c : Context α) (key : α → κ) {ks : List κ}
    (hks : ks.Nodup) (h : ∀ r ∈ c.view, key r.2 ∈ ks) :
    (ks.map fun k => c.fetch fun a => key a = k).Pairwise List.Disjoint ∧
      (ks.map fun k => c.fetch fun a => key a = k).flatten.Perm (c.fetch fun _ => true) := by
  have hd : (ks.map fun k => c.fetch fun a => key a = k).Pairwise List.Disjoint := by
    rw [List.pairwise_map]
    refine hks.imp fun {k l} hkl i hk hl => ?_
    obtain ⟨a, ha, hka⟩ := c.mem_fetch.mp hk
    obtain ⟨b, hb, hlb⟩ := c.mem_fetch.mp hl
    obtain rfl := eq_of_mem_of_nodup c.view_nodup ha hb
    exact hkl ((of_decide_eq_true hka).symm.trans (of_decide_eq_true hlb))
  refine ⟨hd, (List.perm_ext_iff_of_nodup ?_ (c.fetch_nodup _)).mpr fun i => ?_⟩
  · refine List.nodup_flatten.mpr ⟨fun l hl => ?_, hd⟩
    obtain ⟨k, -, rfl⟩ := List.mem_map.mp hl
    exact c.fetch_nodup _
  · rw [List.mem_flatten, c.mem_fetch]
    constructor
    · rintro ⟨l, hl, hi⟩
      obtain ⟨k, -, rfl⟩ := List.mem_map.mp hl
      obtain ⟨a, ha, -⟩ := c.mem_fetch.mp hi
      exact ⟨a, ha, rfl⟩
    · rintro ⟨a, ha, -⟩
      exact ⟨_, List.mem_map.mpr ⟨key a, h _ ha, rfl⟩, c.mem_fetch.mpr ⟨a, ha, by simp⟩⟩

end Context

end Booster.Theory
