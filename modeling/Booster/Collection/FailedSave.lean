import Booster.Collection.Calls

/-!
# What a failed save leaves

The six editing functions catch what `context.save()` throws and print it; none of
them, nor anything else in the app, rolls the context back. So the change a
failed save was to write stays pending in the one context they share. This
module says what that comes to.

A run is looked at through the `Step`s it takes on the context, its calls and
its commits (`App.steps`, defined as long as the process does not end). The same steps
taken from contexts that are alike leave contexts alike (`Step.exec_alike`), and the same store
once one of them has written (`runSteps_store`). The context after a failed save
is alike to the one its success would have left (`alike_of_failed`). Hence
`failed_save_as_if_saved`: until the process ends, the calls and commits of a later run leave every fetch
and, once one of them has written, the store as they would have done had the save succeeded; only the store, until
then, is as if the operation had not been called. The calls are compared, and not the taps: a success also refills
the Profile list, so that the same tap on a row can be for another object.
-/

namespace Booster

open Theory

/-- A step on the context. -/
inductive Step where
  /-- A call, some of its calls into Core Data throwing. -/
  | ofCall (call : Call) (f : Faults)
  /-- `AppDelegate.saveContext`. -/
  | commit

/-- The context after a step. -/
def Step.exec : Step → Context GameSave → Context GameSave
  | .ofCall call f, c => call.exec f c
  | .commit, c => c.save

/-- Whether the step writes to the store. -/
def Step.writes : Step → Context GameSave → Bool
  | .ofCall call f, c => (call.change f c).isSome && !call.saveThrows f c
  | .commit, _ => true

/-- The context after a list of steps. -/
def runSteps (steps : List Step) (c : Context GameSave) : Context GameSave :=
  reach Step.exec steps c

/-- Whether one of a list of steps writes to the store. -/
def anyWrites : List Step → Context GameSave → Bool
  | [], _ => false
  | a :: steps, c => a.writes c || anyWrites steps (a.exec c)

/-- The steps an event takes on the context, or `none` if it ends the process. -/
def Event.steps (s : App) : Event → Option (List Step)
  | .op o f =>
    match o.exec f s with
    | .ok _ => some ((o.call s).map (.ofCall · f)).toList
    | .error _ => none
  | .enterBackground saveThrows =>
    match AppDelegate.saveContext saveThrows s.context with
    | .ok _ => some [.commit]
    | .error _ => none
  | .kill => none

/-- The steps a run takes on the context, or `none` if the process ends in it. -/
def App.steps : List Event → App → Option (List Step)
  | [], _ => some []
  | e :: es, s => do
    let steps ← e.steps s
    let rest ← App.steps es (App.step e s)
    return steps ++ rest

/-- The faults in which an operation's saves throw, or do not, and its fetches are as in `f`. -/
def Faults.saves (throws : Bool) (f : Faults) : Faults := { f with save := throws, updateSave := throws }

/-! ### Steps from contexts that are alike -/

theorem firstWithID_congr {c d : Context GameSave} (h : Context.Alike c d) (gameID : Int64) :
    firstWithID gameID c = firstWithID gameID d := by
  rw [firstWithID, firstWithID, h.fetch]

theorem Call.change_congr {c d : Context GameSave} (h : Context.Alike c d) (f : Faults) (call : Call) :
    call.change f c = call.change f d := by
  cases call <;> simp only [Call.change, firstWithID_congr h, insertion, h.next]

theorem Call.saveThrows_congr {c d : Context GameSave} (h : Context.Alike c d) (f : Faults) (call : Call) :
    call.saveThrows f c = call.saveThrows f d := by
  cases call <;> simp only [Call.saveThrows, firstWithID_congr h]

theorem Step.writes_congr {c d : Context GameSave} (h : Context.Alike c d) (a : Step) :
    a.writes c = a.writes d := by
  cases a with
  | ofCall call f => simp only [Step.writes, call.change_congr h, call.saveThrows_congr h]
  | commit => rfl

/-- Contexts alike are alike after the same step. -/
theorem Step.exec_alike {c d : Context GameSave} (h : Context.Alike c d) (a : Step) :
    Context.Alike (a.exec c) (a.exec d) := by
  cases a with
  | commit => exact h.save
  | ofCall call f =>
    simp only [Step.exec, Call.exec, call.change_congr h, call.saveThrows_congr h]
    cases call.change f d with
    | none => exact h
    | some ch =>
      cases call.saveThrows f d with
      | true => exact h.make ch
      | false => exact (h.make ch).save

/-- The store after a step: the view, if the step writes, or as it was. -/
theorem Step.store_exec (a : Step) (c : Context GameSave) :
    (a.exec c).store = if a.writes c then (a.exec c).view else c.store := by
  cases a with
  | commit => rfl
  | ofCall call f =>
    cases hc : call.change f c with
    | none => simp [Step.exec, Step.writes, Call.exec, hc]
    | some ch => cases ht : call.saveThrows f c <;> simp [Step.exec, Step.writes, Call.exec, hc, ht]

/-- Contexts that are the same are the same after the same step. -/
theorem Step.exec_same {c d : Context GameSave} (h : Context.Same c d) (a : Step) :
    Context.Same (a.exec c) (a.exec d) := by
  have ha := a.exec_alike h.alike
  refine ⟨?_, ha.view, ha.memory, ha.next⟩
  rw [a.store_exec, a.store_exec, a.writes_congr h.alike, ha.view, h.store]

/-- Contexts alike are alike after the same steps. -/
theorem runSteps_alike (steps : List Step) {c d : Context GameSave} (h : Context.Alike c d) :
    Context.Alike (runSteps steps c) (runSteps steps d) := by
  induction steps generalizing c d with
  | nil => exact h
  | cons a steps ih => exact ih (a.exec_alike h)

theorem runSteps_same (steps : List Step) {c d : Context GameSave} (h : Context.Same c d) :
    Context.Same (runSteps steps c) (runSteps steps d) := by
  induction steps generalizing c d with
  | nil => exact h
  | cons a steps ih => exact ih (a.exec_same h)

/-- From contexts alike, steps one of which writes leave the same store. -/
theorem runSteps_store (steps : List Step) {c d : Context GameSave} (h : Context.Alike c d)
    (hw : anyWrites steps c = true) : (runSteps steps c).store = (runSteps steps d).store := by
  induction steps generalizing c d with
  | nil => cases hw
  | cons a steps ih =>
    have ha := a.exec_alike h
    by_cases hac : a.writes c = true
    · -- once this step has written, the two stores are the view, and nothing tells them apart
      have hs : (a.exec c).store = (a.exec d).store := by
        rw [a.store_exec, a.store_exec, ← a.writes_congr h, if_pos hac, if_pos hac, ha.view]
      exact (runSteps_same steps ⟨hs, ha.view, ha.memory, ha.next⟩).store
    · rw [anyWrites, Bool.or_eq_true] at hw
      exact ih ha (hw.resolve_left hac)

/-- Steps none of which writes leave the store as it was. -/
theorem runSteps_store_of_not_anyWrites (steps : List Step) {c : Context GameSave}
    (hw : anyWrites steps c = false) : (runSteps steps c).store = c.store := by
  induction steps generalizing c with
  | nil => rfl
  | cons a steps ih =>
    rw [anyWrites, Bool.or_eq_false_iff] at hw
    obtain ⟨ha, hw⟩ := hw
    have hs : (a.exec c).store = c.store := by simp [a.store_exec, ha]
    exact (ih hw).trans hs

theorem runSteps_append (l l' : List Step) (c : Context GameSave) :
    runSteps (l ++ l') c = runSteps l' (runSteps l c) := reach_append Step.exec l l' c

/-! ### A run takes its steps -/

/-- The context after an event is the context after its steps. -/
theorem same_steps_event {e : Event} {s : App} {steps : List Step} (h : e.steps s = some steps) :
    Context.Same (App.step e s).context (runSteps steps s.context) := by
  cases e with
  | op o f =>
    cases ho : o.exec f s with
    | error t => simp [Event.steps, ho] at h
    | ok s' =>
      simp only [Event.steps, ho, Option.some.injEq] at h
      subst h
      have hs := exec_context ho
      simp only [App.step, ho]
      unfold Op.callExec at hs
      cases hc : o.call s with
      | none =>
        rw [hc] at hs
        exact hs
      | some call =>
        rw [hc] at hs
        exact hs
  | enterBackground saveThrows =>
    cases hc : s.context.hasChanges with
    | true =>
      cases saveThrows with
      | true => simp [Event.steps, AppDelegate.saveContext, hc] at h
      | false =>
        simp only [Event.steps, AppDelegate.saveContext, hc, if_true, Bool.false_eq_true, if_false,
          Option.some.injEq] at h
        subst h
        simp only [App.step, AppDelegate.saveContext, hc, if_true, Bool.false_eq_true, if_false]
        exact Context.Same.refl _
    | false =>
      simp only [Event.steps, AppDelegate.saveContext, hc, Bool.false_eq_true, if_false, Option.some.injEq] at h
      subst h
      -- nothing is pending, so the commit would write what is written
      have hp : s.context.view = s.context.store := by
        have hn : s.context.pending = [] := by simpa [Context.hasChanges] using hc
        rw [Context.view, hn, replay_nil]
      simp only [App.step, AppDelegate.saveContext, hc, Bool.false_eq_true, if_false]
      exact ⟨hp.symm, rfl, rfl, rfl⟩
  | kill => cases h

/-- The context after a run is the context after its steps. -/
theorem same_steps {es : List Event} {s : App} {steps : List Step} (h : App.steps es s = some steps) :
    Context.Same (reach App.step es s).context (runSteps steps s.context) := by
  induction es generalizing s steps with
  | nil =>
    obtain rfl : [] = steps := Option.some.inj h
    exact Context.Same.refl _
  | cons e es ih =>
    obtain ⟨l, hl, h⟩ := Option.bind_eq_some_iff.mp h
    obtain ⟨l', hl', h⟩ := Option.bind_eq_some_iff.mp h
    obtain rfl : l ++ l' = steps := Option.some.inj h
    rw [runSteps_append]
    exact (ih hl').trans (runSteps_same l' (same_steps_event hl))

/-! ### A failed save -/

theorem Call.change_saves (f : Faults) (throws : Bool) (call : Call) (c : Context GameSave) :
    call.change (f.saves throws) c = call.change f c := by
  cases call <;> rfl

theorem Call.saveThrows_saves (f : Faults) (throws : Bool) (call : Call) (c : Context GameSave) :
    call.saveThrows (f.saves throws) c = throws := by
  cases call <;> simp only [Call.saveThrows, Faults.saves]
  split <;> rfl

/-- A call whose save throws leaves the store as it was, and the context alike to the one
its success leaves. -/
theorem Call.exec_saves_true (f : Faults) (call : Call) (c : Context GameSave) :
    (call.exec (f.saves true) c).store = c.store ∧
      Context.Alike (call.exec (f.saves true) c) (call.exec (f.saves false) c) := by
  simp only [Call.exec, Call.change_saves, Call.saveThrows_saves]
  cases call.change f c with
  | none => exact ⟨rfl, Context.Alike.refl c⟩
  | some ch => exact ⟨c.store_make ch, (Context.alike_save (c.make ch)).symm⟩

/-- So does an operation. -/
theorem alike_of_failed {o : Op} {f : Faults} {s s₁ s₂ : App} (h₁ : o.exec (f.saves true) s = .ok s₁)
    (h₂ : o.exec (f.saves false) s = .ok s₂) :
    s₁.context.store = s.context.store ∧ Context.Alike s₁.context s₂.context := by
  have hc₁ := exec_context h₁
  have hc₂ := exec_context h₂
  unfold Op.callExec at hc₁ hc₂
  cases hc : o.call s with
  | none =>
    rw [hc] at hc₁ hc₂
    exact ⟨hc₁.store, hc₁.alike.trans hc₂.alike.symm⟩
  | some call =>
    rw [hc] at hc₁ hc₂
    obtain ⟨hs, ha⟩ := call.exec_saves_true f s.context
    exact ⟨hc₁.store.trans hs, hc₁.alike.trans (ha.trans hc₂.alike.symm)⟩

/-- A save that throws leaves its game in what a fetch sees, and the save of the whole
context when the app goes to the background writes it. -/
theorem failed_save_leaves_trace : ∃ s₁ : App,
    (Op.homeSave (.bare 7) "Played").exec (Faults.none.saves true) App.launch = .ok s₁ ∧
    s₁.context.fetch (fun _ => true) ≠ App.launch.context.fetch (fun _ => true) ∧
    (App.step (.enterBackground false) s₁).context.store ≠
      (App.step (.enterBackground false) App.launch).context.store :=
  ⟨_, rfl, by decide, by decide⟩

/-- **A failed save is a save put off.** Let an operation's saves throw, leaving `s₁`, and let
`s₂` be what it would have left had they not thrown. The store is as it was; and after any
later run in which the process does not end, every fetch returns what it would return
after the same calls and commits from `s₂`, and the store is the one they would
have written, if any of them has written, and otherwise still as it was. -/
theorem failed_save_as_if_saved {o : Op} {f : Faults} {s s₁ s₂ : App}
    (h₁ : o.exec (f.saves true) s = .ok s₁) (h₂ : o.exec (f.saves false) s = .ok s₂)
    {es : List Event} {steps : List Step} (he : App.steps es s₁ = some steps) :
    s₁.context.store = s.context.store ∧
    (∀ p, (reach App.step es s₁).context.fetch p = (runSteps steps s₂.context).fetch p) ∧
    (reach App.step es s₁).context.store =
      if anyWrites steps s₁.context then (runSteps steps s₂.context).store else s.context.store := by
  obtain ⟨hs, ha⟩ := alike_of_failed h₁ h₂
  have hr := same_steps he
  have hra := hr.alike.trans (runSteps_alike steps ha)
  refine ⟨hs, fun p => hra.fetch p, ?_⟩
  rw [hr.store]
  split
  next hw => exact runSteps_store steps ha hw
  next hw =>
    rw [Bool.not_eq_true] at hw
    exact (runSteps_store_of_not_anyWrites steps hw).trans hs

theorem failed_save_as_if_saved_background : ∃ s₁ s₂ : App, ∃ steps : List Step,
    (Op.homeSave (.bare 7) "Played").exec (Faults.none.saves true) App.launch = .ok s₁ ∧
    (Op.homeSave (.bare 7) "Played").exec (Faults.none.saves false) App.launch = .ok s₂ ∧
    App.steps [.op (.update 7 "To Play") .none, .enterBackground false] s₁ = some steps ∧
    s₁.context.store = App.launch.context.store ∧
    (∀ p, (reach App.step [.op (.update 7 "To Play") .none, .enterBackground false] s₁).context.fetch p =
      (runSteps steps s₂.context).fetch p) ∧
    (reach App.step [.op (.update 7 "To Play") .none, .enterBackground false] s₁).context.store =
      if anyWrites steps s₁.context then (runSteps steps s₂.context).store else App.launch.context.store :=
  ⟨_, _, _, rfl, rfl, rfl,
    failed_save_as_if_saved (o := .homeSave (.bare 7) "Played") (f := .none) rfl rfl rfl⟩

end Booster
