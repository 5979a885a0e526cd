import Booster.Collection.Calls

/-!
# One record per game

Nothing in the data model makes `game_id` unique: what does is that the two
functions that insert look first. A failed save leaves its insertion, edit or
deletion pending, a fetch sees what is pending, and a later save of any operation writes
it all, so uniqueness has to hold of two tables at once, the store and the view
(`Unique`). It is kept by every call (`unique_exec`), hence by every event, and
holds in every state of every run (`one_record_per_game`).
-/

namespace Booster

open Theory

/-- At most one record per `game_id`, in the store and in what a fetch sees. -/
structure Unique (c : Context GameSave) : Prop where
  /-- In the store. -/
  store : (keys GameSave.gameId c.store).Nodup
  /-- In what a fetch sees. -/
  view : (keys GameSave.gameId c.view).Nodup

theorem Unique.congr {c d : Context GameSave} (h : Unique d) (hs : Context.Same c d) : Unique c :=
  ⟨hs.store ▸ h.store, hs.view ▸ h.view⟩

/-- A call keeps the view's records one per `game_id`. -/
theorem nodup_view_exec {f : Faults} {call : Call} {c : Context GameSave}
    (h : (keys GameSave.gameId c.view).Nodup) : (keys GameSave.gameId (call.exec f c).view).Nodup := by
  rw [Call.view_exec]
  cases hc : call.change f c with
  | none => exact h
  | some ch =>
    refine nodup_keys_apply h (fun i g hi => ?_) fun i u hu g => ?_
    · exact (Call.change_insert (hi ▸ hc)).2
    · obtain ⟨status, -, rfl⟩ := Call.change_update (hu ▸ hc)
      rfl

/-- A call keeps one record per `game_id`: what it writes, if anything, is the view. -/
theorem unique_exec {f : Faults} {call : Call} {c : Context GameSave} (h : Unique c) :
    Unique (call.exec f c) where
  store := by
    rcases call.store_exec f c with hs | hs
    · rw [hs]; exact h.store
    · rw [hs]; exact nodup_view_exec h.view
  view := nodup_view_exec h.view

theorem Unique.save {c : Context GameSave} (h : Unique c) : Unique c.save := ⟨h.view, h.view⟩

theorem Unique.restart {c : Context GameSave} (h : Unique c) : Unique c.restart := ⟨h.store, h.store⟩

/-- An operation keeps one record per `game_id`. -/
theorem unique_op {f : Faults} {o : Op} {s s' : App} (h : Unique s.context) (ho : o.exec f s = .ok s') :
    Unique s'.context := by
  refine Unique.congr ?_ (exec_context ho)
  unfold Op.callExec
  cases o.call s with
  | none => exact h
  | some call => exact unique_exec h

/-- An event keeps one record per `game_id`. -/
theorem unique_step (e : Event) (s : App) (h : Unique s.context) : Unique (App.step e s).context := by
  rcases App.step_cases e s with ⟨o, f, -, ho⟩ | hs | hs | hs
  · exact unique_op h ho
  · rw [hs]; exact h.restart
  · rw [hs]; exact h.save
  · rw [hs]; exact h

theorem unique_reach (es : List Event) : Unique (reach App.step es App.launch).context :=
  reach_inv (I := fun s : App => Unique s.context) unique_step es ⟨List.nodup_nil, List.nodup_nil⟩

/-- **One record per game.** Whatever the operations, in whatever order, whichever of
their fetches and saves throw, whenever the scene goes to the background or the process
is killed: the store, and the collection as a fetch sees it, have at most one
record per `game_id`. -/
theorem one_record_per_game (es : List Event) (gameId : Int32) :
    ((reach App.step es App.launch).context.store.filter fun r => r.2.gameId = gameId).length ≤ 1 ∧
    ((reach App.step es App.launch).context.fetch fun g => g.gameId = gameId).length ≤ 1 := by
  have h := unique_reach es
  refine ⟨length_filter_key_le_one h.store gameId, ?_⟩
  rw [Context.fetch, ids, List.length_map]
  exact length_filter_key_le_one h.view gameId

end Booster
