import Booster.Theory.Run
import Mathlib.Data.List.Infix
import Mathlib.Logic.Function.Basic

/-!
# What survives a crash

A value is edited by commands. An edit is seen at once and is *written* by a later
act; a crash loses what is not written. The machine `Act.exec` says so of any value and any
commands.

Its freest instance edits the list of the commands themselves: `logged acts` has
the commands that are written and those that are seen. Every other instance is what the
log says, replayed (`reach_exec`), so what is true of logs is true of it: what is written is a
prefix of what is seen, it only grows, and no command is in it twice or out of order. When each
command edits one point of a map, a point of the map is what the commands on it make of it
(`reach_updatePoint`).
-/

namespace Booster.Theory

universe u v w

variable {κ : Type u} {α : Type v} {β : Type w}

/-- A value as it is written, and as it is seen. -/
structure Durable (α : Type v) where
  /-- What a crash leaves. -/
  written : α
  /-- What is written, with the edits made since. -/
  seen : α

/-- The value `a`, with nothing left to write. -/
def Durable.settled (a : α) : Durable α := ⟨a, a⟩

/-- The same, of another value. -/
def Durable.map (φ : α → β) (d : Durable α) : Durable β := ⟨φ d.written, φ d.seen⟩

/-- What happens to a durable value. -/
inductive Act (κ : Type u) where
  /-- A command is carried out. -/
  | ask (c : κ)
  /-- What is seen is written. -/
  | write
  /-- What is not written is lost. -/
  | crash

/-- The value after an act. -/
def Act.exec (apply : κ → α → α) : Act κ → Durable α → Durable α
  | .ask c, d => { d with seen := apply c d.seen }
  | .write, d => .settled d.seen
  | .crash, d => .settled d.written

/-- The commands a list of acts asks for. -/
def asked : List (Act κ) → List κ
  | [] => []
  | .ask c :: acts => c :: asked acts
  | .write :: acts | .crash :: acts => asked acts

/-- The commands that are written and those that are seen after a list of acts. -/
def logged (acts : List (Act κ)) : Durable (List κ) := reach (Act.exec fun c l => l ++ [c]) acts (.settled [])

/-! ### The log -/

/-- A map between values that turns one command into the other turns one run into the other. -/
theorem map_reach_exec {apply : κ → α → α} {apply' : κ → β → β} {φ : α → β}
    (hφ : ∀ c a, φ (apply c a) = apply' c (φ a)) (acts : List (Act κ)) (d : Durable α) :
    (reach (Act.exec apply) acts d).map φ = reach (Act.exec apply') acts (d.map φ) := by
  induction acts generalizing d with
  | nil => rfl
  | cons a acts ih =>
    rw [reach_cons, reach_cons, ih]
    cases a with
    | ask c => simp only [Act.exec, Durable.map, hφ]
    | write => rfl
    | crash => rfl

/-- **The value is its log, replayed.** -/
theorem reach_exec (apply : κ → α → α) (acts : List (Act κ)) (a : α) :
    reach (Act.exec apply) acts (.settled a) = (logged acts).map fun l => reach apply l a := by
  have hc : ∀ c l, reach apply (l ++ [c]) a = apply c (reach apply l a) := fun c l => by
    rw [reach_append]
    rfl
  exact (map_reach_exec hc acts (.settled [])).symm

theorem logged_concat (acts : List (Act κ)) (a : Act κ) :
    logged (acts ++ [a]) = a.exec (fun c l => l ++ [c]) (logged acts) := by
  rw [logged, reach_append]
  rfl

/-- What is written is seen first. -/
theorem written_prefix_seen (acts : List (Act κ)) : (logged acts).written <+: (logged acts).seen := by
  induction acts using List.reverseRecOn with
  | nil => exact List.prefix_refl _
  | append_singleton acts a ih =>
    rw [logged_concat]
    cases a with
    | ask c => exact ih.trans (List.prefix_append _ _)
    | write => exact List.prefix_refl _
    | crash => exact List.prefix_refl _

/-- What is written stays written. -/
theorem written_prefix_append (acts acts' : List (Act κ)) :
    (logged acts).written <+: (logged (acts ++ acts')).written := by
  induction acts' using List.reverseRecOn with
  | nil => rw [List.append_nil]
  | append_singleton acts' a ih =>
    rw [← List.append_assoc, logged_concat]
    cases a with
    | ask c => exact ih
    | write => exact ih.trans (written_prefix_seen _)
    | crash => exact ih

theorem asked_append (acts acts' : List (Act κ)) : asked (acts ++ acts') = asked acts ++ asked acts' := by
  induction acts with
  | nil => rfl
  | cons a acts ih =>
    cases a with
    | ask c => simp only [List.cons_append, asked, ih]
    | write => exact ih
    | crash => exact ih

/-- No command is seen twice, or before one asked earlier. -/
theorem seen_sublist_asked (acts : List (Act κ)) : (logged acts).seen.Sublist (asked acts) := by
  induction acts using List.reverseRecOn with
  | nil => exact List.Sublist.refl _
  | append_singleton acts a ih =>
    rw [logged_concat, asked_append]
    cases a with
    | ask c => exact ih.append (List.Sublist.refl [c])
    | write => exact ih.trans (List.sublist_append_left _ _)
    | crash => exact (written_prefix_seen acts).sublist.trans (ih.trans (List.sublist_append_left _ _))

/-! ### A property kept by the commands -/

/-- What is written and what is seen have property `P`. -/
structure Durable.Both (P : α → Prop) (d : Durable α) : Prop where
  /-- What is written has it. -/
  written : P d.written
  /-- What is seen has it. -/
  seen : P d.seen

theorem Durable.both_settled {P : α → Prop} {a : α} (h : P a) : (settled a).Both P := ⟨h, h⟩

/-- A property kept by every command asked is kept, whatever is written or lost. -/
theorem Durable.Both.reach_exec {apply : κ → α → α} {P : α → Prop} {acts : List (Act κ)}
    (hP : ∀ c ∈ asked acts, ∀ a, P a → P (apply c a)) {d : Durable α} (h : d.Both P) :
    (reach (Act.exec apply) acts d).Both P := by
  induction acts generalizing d with
  | nil => exact h
  | cons a acts ih =>
    rw [reach_cons]
    cases a with
    | ask c => exact ih (fun c' hc => hP c' (List.mem_cons_of_mem _ hc)) ⟨h.written, hP c List.mem_cons_self _ h.seen⟩
    | write => exact ih hP (both_settled h.seen)
    | crash => exact ih hP (both_settled h.written)

/-! ### Maps edited one point at a time -/

section Points

variable {ι : Type*} {γ : Type*} [DecidableEq ι] (key : κ → ι) (act : κ → γ → γ)

/-- What `act` makes of the point of the map that a command is about. -/
def updatePoint (c : κ) (m : ι → γ) : ι → γ := Function.update m (key c) (act c (m (key c)))

variable {key act}

theorem updatePoint_of_ne {c : κ} {i : ι} (h : key c ≠ i) (m : ι → γ) : updatePoint key act c m i = m i :=
  Function.update_of_ne h.symm _ _

/-- **A point of the map is what the commands on it make of it**, in their order. -/
theorem reach_updatePoint (cs : List κ) (m : ι → γ) (i : ι) :
    reach (updatePoint key act) cs m i = reach act (cs.filter fun c => key c = i) (m i) := by
  induction cs generalizing m with
  | nil => rfl
  | cons c cs ih =>
    rw [reach_cons, ih]
    by_cases h : key c = i
    · subst h
      rw [List.filter_cons_of_pos (by simp), reach_cons, updatePoint, Function.update_self]
    · rw [List.filter_cons_of_neg (by simpa using h), updatePoint_of_ne h]

end Points

end Booster.Theory
