import Booster.Collection.Refinement
import Booster.Controllers.ProfileTaps
import Mathlib.Algebra.Ring.Int.Defs

/-!
# Which games can be told apart

An id is an `Int` in the decoded game and in the detail screen, and the low 32 bits of it
everywhere else: in the record and in the predicates. `NeverConfused a b` is what the
screens assume of two games, over every state that can be reached: an operation on one
leaves what is kept of the other (`Separate`), and a Profile row opens the game it was saved for (`Opens`).

Both are proved exact. Records are told apart by the low 32 bits (`separate_iff`): an operation on `a`
touches only rows with its key. A row opens with the id it was saved under when
these bits, read as signed, are the id (`opens_iff`): whatever happens, an object keeps its `game_id`.
-/

namespace Booster

open Theory

/-- An id the `Integer 32` attribute `game_id` can hold. -/
def FitsInteger32 (a : Int64) : Prop := -2 ^ 31 ≤ a.toInt ∧ a.toInt < 2 ^ 31

/-- An operation that saves, edits or deletes the game `a`. -/
def Op.About (a : Int64) (s : App) : Op → Prop
  | .homeSave game _ | .save game _ => game.gameId = some a
  | .update gameID _ | .delete gameID => gameID = a
  | .updateRow row _ | .deleteRow row => s.rowGameID row = some a.toInt32
  | _ => False

/-- What a fetch finds kept of the game `b`, if anything. -/
def found (b : Int64) (c : Context GameSave) : Option Saved :=
  (lookup GameSave.gameId c.view b.toInt32).map GameSave.saved

/-- Nothing is done to the game `b`: what is found of it stays, and what is stored of it,
unless what was found already is now written. -/
structure Untouched (b : Int64) (c c' : Context GameSave) : Prop where
  /-- Found as before. -/
  found : found b c' = found b c
  /-- Stored as before, or as found before. -/
  stored : stored c' b.toInt32 = stored c b.toInt32 ∨ stored c' b.toInt32 = Booster.found b c

/-- In every state reached, no operation on `a` does anything to `b`, and the record a save of `a` finds
is not `b`'s. -/
structure Separate (a b : Int64) : Prop where
  /-- No operation on `a` does anything to `b`. -/
  untouched : ∀ (es : List Event) (o : Op) (f : Faults) (s' : App),
    o.About a (reach App.step es App.launch) → o.exec f (reach App.step es App.launch) = .ok s' →
      Untouched b (reach App.step es App.launch).context s'.context
  /-- The record a save of `a` finds is not `b`'s. -/
  found_ne : ∀ (es : List Event) (i : ObjectID), firstWithID a (reach App.step es App.launch).context = some i →
    firstWithID b (reach App.step es App.launch).context ≠ some i

/-- A record inserted for `a`, in any state reached, and listed by a Profile row after any
events, is opened as `a`. -/
def Opens (a : Int64) : Prop :=
  ∀ (es es' : List Event) (game : Game) (o : Op) (f : Faults) (row : ℕ) (vc : DetailVC),
    game.gameId = some a → (∃ status, o = .homeSave game status ∨ o = .save game status) →
    Inserts f (reach App.step es App.launch) game →
    (reach App.step (es ++ .op o f :: es') App.launch).profile.results[row]? =
      some (reach App.step es App.launch).context.next →
    ProfileController.imageTapped row (reach App.step (es ++ .op o f :: es') App.launch) = .ok vc →
    vc.gameID = some a

/-- Two games that are never confused. -/
structure NeverConfused (a b : Int64) : Prop where
  separate : Separate a b
  separate_symm : Separate b a
  opens : Opens a
  opens_symm : Opens b

/-! ### Ids -/

theorem toInt64_toInt32_eq_iff {a : Int64} : a.toInt32.toInt64 = a ↔ FitsInteger32 a := by
  rw [← Int64.toInt_inj, Int32.toInt_toInt64, Int64.toInt_toInt32, FitsInteger32, Int.bmod_def]
  have h₁ := Int64.le_toInt a
  have h₂ := Int64.toInt_lt a
  split <;> omega

/-- The code sees the low 32 bits of an id. -/
theorem firstWithID_of_toInt32_eq {a b : Int64} (h : a.toInt32 = b.toInt32) (c : Context GameSave) :
    firstWithID a c = firstWithID b c := by
  have hp : hasGameID a = hasGameID b := by
    funext g
    rw [hasGameID, hasGameID, h]
  rw [firstWithID, hp, firstWithID]

/-! ### What an operation on a game touches -/

/-- The record found under an id is the only one of its object. -/
theorem key_of_firstWithID {a : Int64} {c : Context GameSave} {i : ObjectID} (h : firstWithID a c = some i) :
    ∀ g, (i, g) ∈ c.view → g.gameId = a.toInt32 := by
  obtain ⟨g, hm, hk⟩ := mem_view_of_firstWithID h
  exact (forall_mem_iff c.view_nodup hm).mpr hk

/-- The object a row lists has the row's `game_id`. -/
theorem key_of_rowGameID {s : App} {row : ℕ} {i : ObjectID} {k : Int32} (hr : s.profile.results[row]? = some i)
    (h : s.rowGameID row = some k) : ∀ g, (i, g) ∈ s.context.view → g.gameId = k := by
  intro g hg
  rw [App.rowGameID, hr, Option.bind_some, s.context.memory_of_mem_view hg] at h
  exact Option.some.inj h

/-- **An operation on a game touches only rows with the low bits of its id.** -/
theorem touches_of_about {a : Int64} {f : Faults} {s : App} {o : Op} {call : Call} {ch : Change GameSave}
    (ho : o.About a s) (hc : o.call s = some call) (h : call.change f s.context = some ch) :
    ch.Touches GameSave.gameId a.toInt32 s.context.view := by
  have hu : ∀ {i : ObjectID} (status : String), firstWithID a s.context = some i →
      (Change.update i (GameSave.setStatus status)).Touches GameSave.gameId a.toInt32 s.context.view :=
    fun status hi => ⟨GameSave.gameId_setStatus status, key_of_firstWithID hi⟩
  cases o with
  | homeSave game status =>
    cases hc
    obtain ⟨gameId, hg, -, rfl⟩ := Call.change_homeSave h
    obtain rfl : gameId = a := Option.some.inj (hg.symm.trans ho)
    rfl
  | save game status =>
    cases hc
    obtain ⟨gameId, hg, hs⟩ := Call.change_save h
    obtain rfl : gameId = a := Option.some.inj (hg.symm.trans ho)
    obtain ⟨i, hi, rfl⟩ | ⟨-, rfl⟩ := hs
    · exact hu status hi
    · rfl
  | update gameID status =>
    cases hc
    obtain rfl : gameID = a := ho
    obtain ⟨i, hi, rfl⟩ := Call.change_updateByID h
    exact hu status hi
  | delete gameID =>
    cases hc
    obtain rfl : gameID = a := ho
    obtain ⟨i, hi, rfl⟩ := Call.change_deleteByID h
    exact key_of_firstWithID hi
  | updateRow row status =>
    obtain ⟨i, hi, rfl⟩ := Option.map_eq_some_iff.mp hc
    cases h
    exact ⟨GameSave.gameId_setStatus status, key_of_rowGameID hi ho⟩
  | deleteRow row =>
    obtain ⟨i, hi, rfl⟩ := Option.map_eq_some_iff.mp hc
    cases h
    exact key_of_rowGameID hi ho
  | loadProfile => cases ho
  | fetchAll => cases ho
  | fetchStatus status => cases ho
  | selectSegment index => cases ho
  | reload => cases ho

/-- An operation on a game leaves what is found under other low bits. -/
theorem found_exec {a b : Int64} {f : Faults} {s s' : App} {o : Op} (hs : Unique s.context)
    (hab : a.toInt32 ≠ b.toInt32) (ho : o.About a s) (h : o.exec f s = .ok s') :
    found b s'.context = found b s.context := by
  rw [found, (exec_context h).view, Op.callExec, found]
  cases hc : o.call s with
  | none => rfl
  | some call =>
    dsimp only
    rw [Call.view_exec]
    cases hch : call.change f s.context with
    | none => rfl
    | some ch =>
      rw [Option.map_some, Option.getD_some,
        lookup_apply_of_ne s.context.view_nodup hs.view (touches_of_about ho hc hch) (Ne.symm hab)]

/-- What an operation leaves stored: what was, or what is found. -/
theorem store_exec {f : Faults} {s s' : App} {o : Op} (h : o.exec f s = .ok s') :
    s'.context.store = s.context.store ∨ s'.context.store = s'.context.view := by
  rw [(exec_context h).store, (exec_context h).view, Op.callExec]
  cases o.call s with
  | none => exact .inl rfl
  | some call => exact call.store_exec f s.context

theorem untouched_exec {a b : Int64} {f : Faults} {s s' : App} {o : Op} (hs : Unique s.context)
    (hab : a.toInt32 ≠ b.toInt32) (ho : o.About a s) (h : o.exec f s = .ok s') :
    Untouched b s.context s'.context := by
  have hf := found_exec hs hab ho h
  refine ⟨hf, ?_⟩
  rcases store_exec h with hw | hw
  · left
    rw [stored, hw, stored]
  · right
    rw [← hf, stored, hw, found]

/-- The game `a`, saved when nothing is kept yet. -/
def savedRun (a : Int64) : List Event := [.op (.homeSave (.bare a) "Played") .none]

theorem firstWithID_savedRun {a b : Int64} (h : a.toInt32 = b.toInt32) :
    firstWithID b (reach App.step (savedRun a) App.launch).context = some 0 := by
  rw [← firstWithID_of_toInt32_eq h]
  have hv : (reach App.step (savedRun a) App.launch).context.view = [(0, (Game.bare a).toGameSave a "Played")] := rfl
  simp [firstWithID, Context.fetch, hv, ids, hasGameID]

/-- **Two games are separate exactly when the low 32 bits of their ids differ.** -/
theorem separate_iff {a b : Int64} : Separate a b ↔ a.toInt32 ≠ b.toInt32 := by
  constructor
  · intro h hab
    exact h.found_ne (savedRun a) 0 (firstWithID_savedRun rfl) (firstWithID_savedRun hab)
  · intro hab
    refine ⟨fun es o f s' ho h => untouched_exec (unique_reach es) hab ho h, fun es i ha hb => hab ?_⟩
    obtain ⟨g, hm, hk⟩ := mem_view_of_firstWithID hb
    rw [← hk, key_of_firstWithID ha g hm]

/-! ### What a row opens -/

/-- The `game_id` of identity `i` is `k`, whichever of its records is asked. -/
def App.KeyAt (k : Int32) (i : ObjectID) (s : App) : Prop := s.context.At (fun g => g.gameId = k) i

theorem keyAt_callExec {f : Faults} {call : Call} {c : Context GameSave} {k : Int32} {i : ObjectID}
    (h : c.At (fun g => g.gameId = k) i) : (call.exec f c).At (fun g => g.gameId = k) i := by
  unfold Call.exec
  cases hc : call.change f c with
  | none => exact h
  | some ch =>
    have hm : (c.make ch).At (fun g => g.gameId = k) i := by
      refine h.make fun j u hu g hg => ?_
      obtain ⟨status, -, rfl⟩ := Call.change_update (hu ▸ hc)
      exact hg
    dsimp only
    split
    · exact hm
    · exact hm.save

theorem keyAt_op {f : Faults} {o : Op} {s s' : App} {k : Int32} {i : ObjectID} (h : s.KeyAt k i)
    (ho : o.exec f s = .ok s') : s'.KeyAt k i := by
  refine Context.At.congr ?_ (exec_context ho)
  unfold Op.callExec
  cases o.call s with
  | none => exact h
  | some call => exact keyAt_callExec h

/-- An event keeps the `game_id` of an identity. -/
theorem keyAt_step (k : Int32) (i : ObjectID) (e : Event) (s : App) (h : s.KeyAt k i) :
    (App.step e s).KeyAt k i := by
  rcases App.step_cases e s with ⟨o, f, -, ho⟩ | hs | hs | hs
  · exact keyAt_op h ho
  · rw [hs]
    exact h.restart
  · rw [hs]
    exact h.save
  · rw [hs]
    exact h

/-- What a save that inserts its game leaves. -/
theorem callExec_of_inserts {a : Int64} {game : Game} {status : String} {o : Op} {f : Faults} {s : App}
    (hg : game.gameId = some a) (ho : o = .homeSave game status ∨ o = .save game status)
    (hi : Inserts f s game) :
    o.callExec f s = (s.context.insertNewObject (game.toGameSave a status)).save := by
  obtain ⟨hn, hff, hs⟩ := (inserts_iff hg).mp hi
  rcases ho with rfl | rfl
  · simp [Op.callExec, Op.call, Call.exec, Call.change, Call.saveThrows, hg, hff, hn, hs, insertion, Context.make]
  · simp [Op.callExec, Op.call, Call.exec, Call.change, Call.saveThrows, hg, hff, hn, hs, insertion, Context.make]

/-- The save that inserts a game gives its object the low bits of the game's id. -/
theorem keyAt_inserts {a : Int64} {game : Game} {status : String} {o : Op} {f : Faults} {s : App}
    (hg : game.gameId = some a) (ho : o = .homeSave game status ∨ o = .save game status)
    (hi : Inserts f s game) : (App.step (.op o f) s).KeyAt a.toInt32 s.context.next := by
  have hex : ∃ s', o.exec f s = .ok s' := by
    rcases ho with rfl | rfl
    · exact homeSave_ok_iff.mpr (hg ▸ Option.some_ne_none a)
    · obtain ⟨⟨s', calls⟩, h⟩ := save_ok_iff.mpr (hg ▸ Option.some_ne_none a)
      exact ⟨s', by rw [Op.exec, h]; rfl⟩
  obtain ⟨s', h⟩ := hex
  have hstep : App.step (.op o f) s = s' := by rw [App.step, h]
  rw [hstep, App.KeyAt]
  refine Context.At.congr ?_ (exec_context h)
  rw [callExec_of_inserts hg ho hi]
  have hk : (game.toGameSave a status).gameId = a.toInt32 := rfl
  exact (Context.at_insertNewObject (P := fun g : GameSave => g.gameId = a.toInt32) hk s.context).save

/-- A row opens with the `game_id` of the object it lists. -/
theorem gameID_imageTapped {row : ℕ} {s : App} {vc : DetailVC} (h : ProfileController.imageTapped row s = .ok vc) :
    ∃ i g, s.profile.results[row]? = some i ∧ s.context.memory i = some g ∧
      vc.gameID = some g.gameId.toInt64 := by
  obtain ⟨i, hi, h⟩ := bind_eq_ok_iff.mp h
  obtain ⟨gameID, hid, h⟩ := bind_eq_ok_iff.mp h
  obtain ⟨g, hm, rfl⟩ := Option.map_eq_some_iff.mp (force_eq_ok_iff.mp hid)
  refine ⟨i, g, subscript_eq_ok_iff.mp hi, hm, ?_⟩
  cases ht : (s.context.memory i).bind GameSave.status with
  | none =>
    simp only [ht] at h
    cases h
    rfl
  | some title =>
    simp only [ht] at h
    exact (DetailVC.viewDidLoad_of_gameID rfl h).1

/-- **A game opens as itself exactly when `game_id` can hold its id.** -/
theorem opens_iff {a : Int64} : Opens a ↔ FitsInteger32 a := by
  rw [← toInt64_toInt32_eq_iff]
  constructor
  · intro h
    have hv := h [] [.op .loadProfile .none] (.bare a) (.homeSave (.bare a) "Played") .none 0
      { gameID := some a.toInt32.toInt64, status := "Played", reloadDelegate := true,
        requested := some a.toInt32.toInt64, buttonStatus := "Played", tapGesture := some .changeButtonTapped }
      rfl ⟨"Played", .inl rfl⟩ ⟨⟨a, rfl, rfl⟩, rfl, rfl⟩ rfl rfl
    exact Option.some.inj hv
  · intro ha es es' game o f row vc hg ho hi hr h
    obtain ⟨status, ho⟩ := ho
    obtain ⟨i, g, hri, hm, hv⟩ := gameID_imageTapped h
    obtain rfl := Option.some.inj (hri.symm.trans hr)
    rw [reach_append, reach_cons] at hm
    have hk := reach_inv (I := App.KeyAt a.toInt32 _) (keyAt_step a.toInt32 _) es' (keyAt_inserts hg ho hi)
    rw [hv, hk.memory g hm, ha]

/-- Game 7 is saved and game 7 + 2^32 deleted: nothing is kept of game 7. -/
theorem wideId_not_neverConfused :
    (∃ s', (Op.delete 4294967303).exec .none (reach App.step (savedRun 7) App.launch) = .ok s' ∧
      found 7 (reach App.step (savedRun 7) App.launch).context ≠ none ∧ found 7 s'.context = none) ∧
    ¬NeverConfused 7 4294967303 :=
  ⟨⟨_, rfl, nofun, rfl⟩, fun h => separate_iff.mp h.separate (by decide)⟩

/-- **Two games are never confused exactly when `game_id` can hold both their ids.** -/
theorem neverConfused_iff {a b : Int64} (hab : a ≠ b) : NeverConfused a b ↔ FitsInteger32 a ∧ FitsInteger32 b := by
  constructor
  · intro h
    exact ⟨opens_iff.mp h.opens, opens_iff.mp h.opens_symm⟩
  · rintro ⟨ha, hb⟩
    have hne : a.toInt32 ≠ b.toInt32 := fun e => hab (by
      rw [← toInt64_toInt32_eq_iff.mpr ha, e, toInt64_toInt32_eq_iff.mpr hb])
    exact ⟨separate_iff.mpr hne, separate_iff.mpr (Ne.symm hne), opens_iff.mpr ha, opens_iff.mpr hb⟩

theorem neverConfused_iff_narrow : NeverConfused 7 8 ↔ FitsInteger32 7 ∧ FitsInteger32 8 :=
  neverConfused_iff (by decide)

end Booster
