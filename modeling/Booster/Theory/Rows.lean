import Mathlib.Data.List.Basic
import Mathlib.Data.List.Nodup
import Mathlib.Logic.Function.Basic

/-!
# Rows, changes and keys

A table of records is a list of *rows*: a record together with the identity of
the object that holds it. A table is edited by *changes* — a row inserted, a
row's record rewritten, a row deleted — and read by *key*, a function of the
record. This module gives the three changes, says which identities and which
keys each leaves behind, and proves that, as long as no two rows have the same
key, the table read by key is a finite map on which a change is a point update
(`lookup_insert`, `lookup_update`, `lookup_delete`). `Lists` says that a list kept beside
the table has the rows a predicate selects, with what each change does to that.
-/

namespace Booster.Theory

universe u v

variable {α : Type u} {κ : Type v}

/-- The identity of an object. -/
abbrev ObjectID := ℕ

/-- A table: records with the identities of the objects that hold them. -/
abbrev Rows (α : Type u) := List (ObjectID × α)

/-- The identities in a table. -/
def ids (rs : Rows α) : List ObjectID := rs.map Prod.fst

/-- A change of a table. -/
inductive Change (α : Type u) where
  /-- A new row. -/
  | insert (i : ObjectID) (a : α)
  /-- Row `i`'s record is rewritten. -/
  | update (i : ObjectID) (f : α → α)
  /-- Row `i` goes. -/
  | delete (i : ObjectID)

/-- The table after a change. A change of a row that is not there changes nothing. -/
def Change.apply : Change α → Rows α → Rows α
  | .insert i a, rs => rs ++ [(i, a)]
  | .update i f, rs => rs.map fun r => if r.1 = i then (r.1, f r.2) else r
  | .delete i, rs => rs.filter fun r => r.1 ≠ i

/-- The table after several changes, first change first. -/
def replay (chs : List (Change α)) (rs : Rows α) : Rows α := chs.foldl (fun rs ch => ch.apply rs) rs

@[simp] theorem replay_nil (rs : Rows α) : replay [] rs = rs := rfl

@[simp] theorem replay_concat (chs : List (Change α)) (ch : Change α) (rs : Rows α) :
    replay (chs ++ [ch]) rs = ch.apply (replay chs rs) := by
  simp [replay]

/-! ### Identities -/

theorem mem_ids {i : ObjectID} {rs : Rows α} : i ∈ ids rs ↔ ∃ a, (i, a) ∈ rs := by
  simp [ids]

theorem mem_ids_of_mem {r : ObjectID × α} {rs : Rows α} (h : r ∈ rs) : r.1 ∈ ids rs :=
  List.mem_map_of_mem h

/-- With distinct identities, an identity has one record. -/
theorem eq_of_mem_of_nodup {rs : Rows α} (h : (ids rs).Nodup) {i : ObjectID} {a b : α}
    (ha : (i, a) ∈ rs) (hb : (i, b) ∈ rs) : a = b :=
  congrArg Prod.snd (List.inj_on_of_nodup_map h ha hb rfl)

/-- With distinct identities, what holds of every record of an identity holds of the one it has. -/
theorem forall_mem_iff {rs : Rows α} (h : (ids rs).Nodup) {i : ObjectID} {a : α} (ha : (i, a) ∈ rs)
    {P : α → Prop} : (∀ b, (i, b) ∈ rs → P b) ↔ P a :=
  ⟨fun hp => hp a ha, fun hp _ hb => eq_of_mem_of_nodup h ha hb ▸ hp⟩

@[simp] theorem ids_insert (i : ObjectID) (a : α) (rs : Rows α) :
    ids ((Change.insert i a).apply rs) = ids rs ++ [i] := by
  simp [ids, Change.apply]

@[simp] theorem ids_update (i : ObjectID) (f : α → α) (rs : Rows α) :
    ids ((Change.update i f).apply rs) = ids rs := by
  simp only [ids, Change.apply, List.map_map]
  refine List.map_congr_left fun r _ => ?_
  by_cases h : r.1 = i <;> simp [h]

@[simp] theorem ids_delete (i : ObjectID) (rs : Rows α) :
    ids ((Change.delete i).apply rs) = (ids rs).filter (· ≠ i) := by
  simp only [ids, Change.apply, List.filter_map]
  rfl

/-- A rewritten row is a row of the table, rewritten if it is row `i`. -/
theorem mem_update {i : ObjectID} {f : α → α} {rs : Rows α} {j : ObjectID} {b : α} :
    (j, b) ∈ (Change.update i f).apply rs ↔ ∃ a, (j, a) ∈ rs ∧ b = if j = i then f a else a := by
  simp only [Change.apply, List.mem_map, Prod.exists]
  constructor
  · rintro ⟨j', a, hm, he⟩
    by_cases h : j' = i <;> simp only [h, if_true, if_false, Prod.mk.injEq] at he
    · obtain ⟨rfl, rfl⟩ := he
      exact ⟨a, h ▸ hm, by simp⟩
    · obtain ⟨rfl, rfl⟩ := he
      exact ⟨a, hm, by simp [h]⟩
  · rintro ⟨a, hm, rfl⟩
    refine ⟨j, a, hm, ?_⟩
    by_cases h : j = i <;> simp [h]

theorem mem_delete {i : ObjectID} {rs : Rows α} {r : ObjectID × α} :
    r ∈ (Change.delete i).apply rs ↔ r ∈ rs ∧ r.1 ≠ i := by
  simp [Change.apply]

theorem mem_insert {i : ObjectID} {a : α} {rs : Rows α} {r : ObjectID × α} :
    r ∈ (Change.insert i a).apply rs ↔ r ∈ rs ∨ r = (i, a) := by
  simp [Change.apply]

/-- Rewriting a row that is not there changes nothing. -/
theorem update_of_notMem {i : ObjectID} {rs : Rows α} (h : i ∉ ids rs) (f : α → α) :
    (Change.update i f).apply rs = rs := by
  refine (List.map_congr_left fun r hr => ?_).trans rs.map_id
  have : r.1 ≠ i := fun e => h (e ▸ mem_ids_of_mem hr)
  simp [this]

/-- Deleting a row that is not there changes nothing. -/
theorem delete_of_notMem {i : ObjectID} {rs : Rows α} (h : i ∉ ids rs) :
    (Change.delete i).apply rs = rs :=
  List.filter_eq_self.mpr fun r hr => by
    have : r.1 ≠ i := fun e => h (e ▸ mem_ids_of_mem hr)
    simp [this]

/-- Rewriting twice the same way is rewriting once, when rewriting again does nothing. -/
theorem update_update {f : α → α} (hf : ∀ a, f (f a) = f a) (i : ObjectID) (rs : Rows α) :
    (Change.update i f).apply ((Change.update i f).apply rs) = (Change.update i f).apply rs := by
  simp only [Change.apply, List.map_map]
  refine List.map_congr_left fun r _ => ?_
  by_cases h : r.1 = i <;> simp [h, hf]

/-! ### Keys -/

/-- The keys in a table. -/
def keys (key : α → κ) (rs : Rows α) : List κ := rs.map fun r => key r.2

theorem mem_keys {key : α → κ} {rs : Rows α} {k : κ} : k ∈ keys key rs ↔ ∃ r ∈ rs, key r.2 = k :=
  List.mem_map

theorem mem_keys_of_mem {key : α → κ} {rs : Rows α} {r : ObjectID × α} (h : r ∈ rs) :
    key r.2 ∈ keys key rs :=
  List.mem_map_of_mem h

/-- With distinct keys, a key has one row. -/
theorem eq_of_key_eq {key : α → κ} {rs : Rows α} (h : (keys key rs).Nodup) {r r' : ObjectID × α}
    (hr : r ∈ rs) (hr' : r' ∈ rs) (e : key r.2 = key r'.2) : r = r' :=
  List.inj_on_of_nodup_map h hr hr' e

/-- With distinct keys, at most one row has a given key. -/
theorem length_filter_key_le_one [DecidableEq κ] {key : α → κ} {rs : Rows α} (h : (keys key rs).Nodup)
    (k : κ) : (rs.filter fun r => key r.2 = k).length ≤ 1 := by
  have hc : (keys key rs).count k = (rs.filter fun r => key r.2 = k).length := by
    rw [keys, List.count, List.countP_map, List.countP_eq_length_filter]
    congr 2
  rw [← hc]
  exact List.nodup_iff_count_le_one.mp h k

@[simp] theorem keys_insert (key : α → κ) (i : ObjectID) (a : α) (rs : Rows α) :
    keys key ((Change.insert i a).apply rs) = keys key rs ++ [key a] := by
  simp [keys, Change.apply]

/-- Rewriting that keeps the key keeps the keys. -/
theorem keys_update {key : α → κ} {f : α → α} (hf : ∀ a, key (f a) = key a) (i : ObjectID)
    (rs : Rows α) : keys key ((Change.update i f).apply rs) = keys key rs := by
  simp only [keys, Change.apply, List.map_map]
  refine List.map_congr_left fun r _ => ?_
  by_cases h : r.1 = i <;> simp [h, hf]

theorem keys_delete_sublist (key : α → κ) (i : ObjectID) (rs : Rows α) :
    (keys key ((Change.delete i).apply rs)).Sublist (keys key rs) :=
  List.filter_sublist.map _

/-- A change keeps keys distinct, when what it inserts has a new key and what it
rewrites keeps its key. -/
theorem nodup_keys_apply {key : α → κ} {rs : Rows α} (h : (keys key rs).Nodup) :
    ∀ {ch : Change α}, (∀ i a, ch = .insert i a → key a ∉ keys key rs) →
      (∀ i f, ch = .update i f → ∀ a, key (f a) = key a) → (keys key (ch.apply rs)).Nodup
  | .insert i a, hi, _ => by
    rw [keys_insert, List.nodup_append]
    refine ⟨h, List.nodup_singleton _, ?_⟩
    rintro k hk k' hk' rfl
    rw [List.mem_singleton] at hk'
    exact hi i a rfl (hk' ▸ hk)
  | .update i f, _, hf => by rwa [keys_update (hf i f rfl)]
  | .delete i, _, _ => (keys_delete_sublist key i rs).nodup h

/-- The row deleted takes its key with it. -/
theorem key_notMem_keys_delete {key : α → κ} {rs : Rows α} (h : (keys key rs).Nodup) {i : ObjectID}
    {a : α} (ha : (i, a) ∈ rs) : key a ∉ keys key ((Change.delete i).apply rs) := by
  intro hk
  obtain ⟨r, hr, hk⟩ := mem_keys.mp hk
  rw [mem_delete] at hr
  have : r = (i, a) := eq_of_key_eq h hr.1 ha hk
  exact hr.2 (congrArg Prod.fst this)

/-! ### The table as a map -/

variable [DecidableEq κ]

/-- The record under a key: the first match. -/
def lookup (key : α → κ) (rs : Rows α) (k : κ) : Option α :=
  (rs.find? fun r => key r.2 = k).map Prod.snd

theorem lookup_eq_none_iff {key : α → κ} {rs : Rows α} {k : κ} :
    lookup key rs k = none ↔ k ∉ keys key rs := by
  simp [lookup, keys]

/-- With distinct keys, the record under a key is the one record with that key. -/
theorem lookup_eq_some_iff {key : α → κ} {rs : Rows α} (h : (keys key rs).Nodup) {k : κ} {a : α} :
    lookup key rs k = some a ↔ ∃ i, (i, a) ∈ rs ∧ key a = k := by
  simp only [lookup, Option.map_eq_some_iff, Prod.exists, exists_eq_right]
  constructor
  · rintro ⟨i, hf⟩
    exact ⟨i, List.mem_of_find?_eq_some hf, by simpa using List.find?_some hf⟩
  · rintro ⟨i, hm, hk⟩
    refine ⟨i, ?_⟩
    cases hf : rs.find? fun r => key r.2 = k with
    | none => exact absurd (List.find?_eq_none.mp hf _ hm) (by simp [hk])
    | some r =>
      have hr : key r.2 = k := by simpa using List.find?_some hf
      rw [eq_of_key_eq h (List.mem_of_find?_eq_some hf) hm (hr.trans hk.symm)]

/-- Inserting a record under a new key is a point update of the map. -/
theorem lookup_insert {key : α → κ} {rs : Rows α} {a : α} (ha : key a ∉ keys key rs) (i : ObjectID) :
    lookup key ((Change.insert i a).apply rs) = Function.update (lookup key rs) (key a) (some a) := by
  funext k
  by_cases hk : k = key a
  · subst hk
    have : rs.find? (fun r => key r.2 = key a) = none := by
      simpa [lookup] using lookup_eq_none_iff.mpr ha
    simp [lookup, Change.apply, List.find?_append, this]
  · simp [lookup, Change.apply, List.find?_append, Function.update_of_ne hk, Ne.symm hk]

/-- Rewriting a row, key kept, is a point update of the map. -/
theorem lookup_update {key : α → κ} {rs : Rows α} (hi : (ids rs).Nodup) (hk : (keys key rs).Nodup)
    {f : α → α} (hf : ∀ a, key (f a) = key a) {i : ObjectID} {a : α} (ha : (i, a) ∈ rs) :
    lookup key ((Change.update i f).apply rs) = Function.update (lookup key rs) (key a) (some (f a)) := by
  have hk' : (keys key ((Change.update i f).apply rs)).Nodup := by rwa [keys_update hf]
  funext k
  by_cases hka : k = key a
  · subst hka
    rw [Function.update_self, lookup_eq_some_iff hk']
    exact ⟨i, mem_update.mpr ⟨a, ha, by simp⟩, hf a⟩
  · rw [Function.update_of_ne hka]
    ext b
    rw [lookup_eq_some_iff hk', lookup_eq_some_iff hk]
    refine exists_congr fun j => and_congr_left fun hb => ?_
    rw [mem_update]
    constructor
    · rintro ⟨b', hm, rfl⟩
      by_cases hj : j = i
      · subst hj
        rw [eq_of_mem_of_nodup hi hm ha, if_pos rfl, hf] at hb
        exact absurd hb.symm hka
      · rwa [if_neg hj]
    · intro hm
      refine ⟨b, hm, ?_⟩
      by_cases hj : j = i
      · subst hj
        rw [eq_of_mem_of_nodup hi hm ha] at hb
        exact absurd hb.symm hka
      · rw [if_neg hj]

/-- Deleting a row is a point update of the map. -/
theorem lookup_delete {key : α → κ} {rs : Rows α} (hi : (ids rs).Nodup) (hk : (keys key rs).Nodup)
    {i : ObjectID} {a : α} (ha : (i, a) ∈ rs) :
    lookup key ((Change.delete i).apply rs) = Function.update (lookup key rs) (key a) none := by
  have hk' : (keys key ((Change.delete i).apply rs)).Nodup := (keys_delete_sublist key i rs).nodup hk
  funext k
  by_cases hka : k = key a
  · subst hka
    rw [Function.update_self, lookup_eq_none_iff]
    exact key_notMem_keys_delete hk ha
  · rw [Function.update_of_ne hka]
    ext b
    rw [lookup_eq_some_iff hk', lookup_eq_some_iff hk]
    refine exists_congr fun j => and_congr_left fun hb => ?_
    rw [mem_delete]
    refine ⟨fun h => h.1, fun h => ⟨h, ?_⟩⟩
    rintro rfl
    rw [eq_of_mem_of_nodup hi h ha] at hb
    exact hka hb.symm

/-- A change that touches only rows with key `k`. -/
def Change.Touches (key : α → κ) (k : κ) (rs : Rows α) : Change α → Prop
  | .insert _ a => key a = k
  | .update i f => (∀ a, key (f a) = key a) ∧ ∀ a, (i, a) ∈ rs → key a = k
  | .delete i => ∀ a, (i, a) ∈ rs → key a = k

/-- A change leaves the record of every key it does not touch. -/
theorem lookup_apply_of_ne {key : α → κ} {rs : Rows α} (hi : (ids rs).Nodup) (hk : (keys key rs).Nodup)
    {ch : Change α} {k l : κ} (h : ch.Touches key k rs) (hl : l ≠ k) :
    lookup key (ch.apply rs) l = lookup key rs l := by
  cases ch with
  | insert i a =>
    have ha : key a ≠ l := fun e => hl (e.symm.trans h)
    simp [lookup, Change.apply, List.find?_append, ha]
  | update i f =>
    by_cases hm : i ∈ ids rs
    · obtain ⟨a, ha⟩ := mem_ids.mp hm
      rw [lookup_update hi hk h.1 ha, Function.update_of_ne (h.2 a ha ▸ hl)]
    · rw [update_of_notMem hm]
  | delete i =>
    by_cases hm : i ∈ ids rs
    · obtain ⟨a, ha⟩ := mem_ids.mp hm
      rw [lookup_delete hi hk ha, Function.update_of_ne (h a ha ▸ hl)]
    · rw [delete_of_notMem hm]

/-! ### Lists of the rows that satisfy a predicate -/

/-- The list has the identities of the rows that satisfy `q`, each once. -/
structure Lists (l : List ObjectID) (rs : Rows α) (q : α → Bool) : Prop where
  /-- Each once. -/
  nodup : l.Nodup
  /-- Those of the rows that satisfy `q`. -/
  mem_iff : ∀ i, i ∈ l ↔ ∃ a, (i, a) ∈ rs ∧ q a = true

/-- The row of a record tells whether the record's identity is listed. -/
theorem Lists.mem_of_mem {l : List ObjectID} {rs : Rows α} {q : α → Bool} (h : Lists l rs q)
    (hn : (ids rs).Nodup) {i : ObjectID} {a : α} (ha : (i, a) ∈ rs) : i ∈ l ↔ q a = true := by
  rw [h.mem_iff]
  constructor
  · rintro ⟨b, hb, hq⟩
    exact eq_of_mem_of_nodup hn hb ha ▸ hq
  · intro hq
    exact ⟨a, ha, hq⟩

/-- What was selected by `p` is what `q` selects when the two agree on every row. -/
theorem lists_filter_iff {rs : Rows α} (hn : (ids rs).Nodup) {p q : α → Bool} :
    Lists (ids (rs.filter fun r => p r.2)) rs q ↔ ∀ r ∈ rs, p r.2 = q r.2 := by
  have hp : ∀ i, i ∈ ids (rs.filter fun r => p r.2) ↔ ∃ a, (i, a) ∈ rs ∧ p a = true := by
    intro i
    simp [mem_ids, List.mem_filter]
  have hl : Lists (ids (rs.filter fun r => p r.2)) rs p :=
    ⟨hn.sublist (List.filter_sublist.map _), hp⟩
  constructor
  · rintro h ⟨i, a⟩ ha
    exact Bool.eq_iff_iff.mpr ((hl.mem_of_mem hn ha).symm.trans (h.mem_of_mem hn ha))
  · intro h
    refine ⟨hl.nodup, fun i => (hp i).trans (exists_congr fun a => and_congr_right fun ha => ?_)⟩
    rw [h _ ha]

/-- Rewriting a record keeps the list right when it keeps the record selected or not. -/
theorem Lists.update_iff {l : List ObjectID} {rs : Rows α} {q : α → Bool} (h : Lists l rs q)
    (hn : (ids rs).Nodup) {i : ObjectID} {a : α} (ha : (i, a) ∈ rs) {f : α → α} :
    Lists l ((Change.update i f).apply rs) q ↔ q (f a) = q a := by
  have hn' : (ids ((Change.update i f).apply rs)).Nodup := by rwa [ids_update]
  have ha' : (i, f a) ∈ (Change.update i f).apply rs := mem_update.mpr ⟨a, ha, by simp⟩
  constructor
  · intro h'
    exact Bool.eq_iff_iff.mpr ((h'.mem_of_mem hn' ha').symm.trans (h.mem_of_mem hn ha))
  · intro hq
    refine ⟨h.nodup, fun j => (h.mem_iff j).trans ?_⟩
    constructor
    · rintro ⟨b, hb, hqb⟩
      refine ⟨_, mem_update.mpr ⟨b, hb, rfl⟩, ?_⟩
      by_cases hj : j = i
      · subst hj
        rw [if_pos rfl, eq_of_mem_of_nodup hn hb ha, hq, ← eq_of_mem_of_nodup hn hb ha, hqb]
      · rw [if_neg hj, hqb]
    · rintro ⟨b', hb', hqb⟩
      obtain ⟨b, hb, rfl⟩ := mem_update.mp hb'
      refine ⟨b, hb, ?_⟩
      by_cases hj : j = i
      · subst hj
        rw [if_pos rfl, eq_of_mem_of_nodup hn hb ha, hq] at hqb
        rw [eq_of_mem_of_nodup hn hb ha, hqb]
      · rwa [if_neg hj] at hqb

/-- Deleting a row keeps the list right when the row's record was not selected. -/
theorem Lists.delete_iff {l : List ObjectID} {rs : Rows α} {q : α → Bool} (h : Lists l rs q)
    (hn : (ids rs).Nodup) {i : ObjectID} {a : α} (ha : (i, a) ∈ rs) :
    Lists l ((Change.delete i).apply rs) q ↔ q a = false := by
  constructor
  · intro h'
    rw [← Bool.not_eq_true, ← h.mem_of_mem hn ha, h'.mem_iff]
    rintro ⟨b, hb, -⟩
    exact (mem_delete.mp hb).2 rfl
  · intro hq
    refine ⟨h.nodup, fun j => (h.mem_iff j).trans (exists_congr fun b => and_congr_left fun hqb => ?_)⟩
    rw [mem_delete]
    refine ⟨fun hb => ⟨hb, fun hj => ?_⟩, fun hb => hb.1⟩
    subst hj
    rw [eq_of_mem_of_nodup hn hb ha, hq] at hqb
    cases hqb

/-- Deleting a row and its place in the list keeps the list right. -/
theorem Lists.eraseIdx {l : List ObjectID} {rs : Rows α} {q : α → Bool} (h : Lists l rs q) {k : ℕ}
    {i : ObjectID} (hk : l[k]? = some i) : Lists (l.eraseIdx k) ((Change.delete i).apply rs) q := by
  refine ⟨(List.eraseIdx_sublist ..).nodup h.nodup, fun j => ?_⟩
  have hj : j ∈ l.eraseIdx k ↔ j ∈ l ∧ j ≠ i := by
    rw [List.mem_eraseIdx_iff_getElem?]
    constructor
    · rintro ⟨m, hm, hjm⟩
      refine ⟨List.mem_of_getElem? hjm, fun e => hm ?_⟩
      exact (List.getElem?_inj (List.getElem?_eq_some_iff.mp hjm).1 h.nodup).mp (by rw [hjm, hk, e])
    · rintro ⟨hl, hne⟩
      obtain ⟨m, hm⟩ := List.mem_iff_getElem?.mp hl
      refine ⟨m, fun e => hne ?_, hm⟩
      rw [e, hk] at hm
      exact (Option.some.inj hm).symm
  rw [hj, h.mem_iff]
  constructor
  · rintro ⟨⟨a, ha, hq⟩, hne⟩
    exact ⟨a, mem_delete.mpr ⟨ha, hne⟩, hq⟩
  · rintro ⟨a, ha, hq⟩
    obtain ⟨ha, hne⟩ := mem_delete.mp ha
    exact ⟨⟨a, ha, hq⟩, hne⟩

end Booster.Theory
