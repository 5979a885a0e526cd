import Booster.Models.CoredataController
import Booster.Theory.Run

/-!
# What the operations ask of the context

Six functions edit the collection: the two saves, the update and the deletion by
`game_id`, and the update and the deletion of a Profile row. This module lists
them, with the fetches that do not edit, as the operations `Op` of the app, and
says once what each does to the shared context.

* `Op.exec` runs the function of the source, with its fetch of the Profile list
  and its badge.
* `Call` is what is left of an operation when only the context is looked at: a
  row has become the object it lists. `Call.change` is the one change it asks
  for, if any, and `Call.exec` makes it and commits it unless the save throws.
* `exec_context` — the context after an operation is the context after its call.

`Event` adds what is not an operation: the scene entering the background, which
saves what is pending, and the end of the process. A trap ends the process.
-/

namespace Booster

open Theory

/-- The operations of the app on the collection and on the list of it. -/
inductive Op where
  /-- `MyRootViewController.saveGameToCoreData`. -/
  | homeSave (game : Game) (status : String)
  /-- `CoredataController.saveGameToCoreData`. -/
  | save (game : Game) (status : String)
  /-- `CoredataController.updateGameToCoreDataByGameID`. -/
  | update (gameID : Int64) (status : String)
  /-- `CoredataController.deleteGameFromCoreData(gameID:)`. -/
  | delete (gameID : Int64)
  /-- `ProfileController.updateGameInCoreData(at:withNewStatus:)`. -/
  | updateRow (row : ℕ) (status : String)
  /-- `ProfileController.deleteGameFromCoreData(at:)`. -/
  | deleteRow (row : ℕ)
  /-- `ProfileController.viewDidLoad`. -/
  | loadProfile
  /-- `ProfileController.fetchGamesFromCoreData`. -/
  | fetchAll
  /-- `ProfileController.fetchGamesWithStatus`. -/
  | fetchStatus (status : String)
  /-- A tap on a segment. -/
  | selectSegment (index : ℕ)
  /-- `ProfileController.reloadData`. -/
  | reload

/-- The state after an operation. -/
def Op.exec (f : Faults) : Op → App → Except Trap App
  | .homeSave game status, s => MyRootViewController.saveGameToCoreData game status f s
  | .save game status, s => do
    let (s, _) ← CoredataController.saveGameToCoreData game status f s
    return s
  | .update gameID status, s =>
    .ok { s with context := CoredataController.updateGameToCoreDataByGameID gameID status f.fetch f.save s.context }
  | .delete gameID, s =>
    .ok { s with context := CoredataController.deleteGameFromCoreData gameID f.fetch f.save s.context }
  | .updateRow row status, s => ProfileController.updateGameInCoreData row status f.save s
  | .deleteRow row, s => ProfileController.deleteGameFromCoreData row f.save s
  | .loadProfile, s => ProfileController.viewDidLoad f.fetch s
  | .fetchAll, s => ProfileController.fetchGamesFromCoreData f.fetch s
  | .fetchStatus status, s => ProfileController.fetchGamesWithStatus status f.fetch s
  | .selectSegment index, s => ProfileController.setSelectIndex index f.fetch s
  | .reload, s => ProfileController.reloadData f.fetch s

/-- What happens to the app. -/
inductive Event where
  /-- An operation, some of its calls into Core Data throwing. -/
  | op (o : Op) (f : Faults)
  /-- `sceneDidEnterBackground`, which runs `AppDelegate.saveContext`. -/
  | enterBackground (saveThrows : Bool)
  /-- The process is killed and started again. -/
  | kill

/-- The state after an event; a trap ends the process, which is started again. -/
def App.step : Event → App → App
  | .op o f, s =>
    match o.exec f s with
    | .ok s' => s'
    | .error _ => s.restart
  | .enterBackground saveThrows, s =>
    match AppDelegate.saveContext saveThrows s.context with
    | .ok context => { s with context := context }
    | .error _ => s.restart
  | .kill, s => s.restart

/-- **What an event can do**: an operation that does not trap, a restart, a commit of
what is pending, or nothing. -/
theorem App.step_cases (e : Event) (s : App) :
    (∃ o f, e = .op o f ∧ o.exec f s = .ok (App.step e s)) ∨ App.step e s = s.restart ∨
      App.step e s = { s with context := s.context.save } ∨ App.step e s = s := by
  cases e with
  | op o f =>
    cases ho : o.exec f s with
    | ok s' => exact .inl ⟨o, f, rfl, by simp [App.step, ho]⟩
    | error t => exact .inr (.inl (by simp [App.step, ho]))
  | enterBackground saveThrows =>
    cases hc : s.context.hasChanges with
    | false => exact .inr (.inr (.inr (by simp [App.step, AppDelegate.saveContext, hc])))
    | true =>
      cases saveThrows with
      | true => exact .inr (.inl (by simp [App.step, AppDelegate.saveContext, hc]))
      | false => exact .inr (.inr (.inl (by simp [App.step, AppDelegate.saveContext, hc])))
  | kill => exact .inr (.inl rfl)

/-! ### Calls -/

/-- An editing operation as the context sees it. -/
inductive Call where
  /-- The Home save. -/
  | homeSave (game : Game) (status : String)
  /-- `CoredataController`'s save. -/
  | save (game : Game) (status : String)
  /-- The update by `game_id`. -/
  | update (gameID : Int64) (status : String)
  /-- The deletion by `game_id`. -/
  | delete (gameID : Int64)
  /-- The update of the object a row lists. -/
  | updateObject (i : ObjectID) (status : String)
  /-- The deletion of the object a row lists. -/
  | deleteObject (i : ObjectID)

/-- The first object with a `game_id`, as a fetch finds it. -/
def firstWithID (gameID : Int64) (c : Context GameSave) : Option ObjectID :=
  (c.fetch (hasGameID gameID)).head?

/-- The insertion both saves ask for when no object has the game's `game_id`. -/
def insertion (game : Game) (gameId : Int64) (status : String) (c : Context GameSave) : Change GameSave :=
  .insert c.next (game.toGameSave gameId status)

/-- The change a call asks for, if its fetches do not throw and find what it looks for. -/
def Call.change (f : Faults) (c : Context GameSave) : Call → Option (Change GameSave)
  | .homeSave game status =>
    game.gameId.bind fun gameId =>
      if f.fetch then none
      else match firstWithID gameId c with
        | some _ => none
        | none => some (insertion game gameId status c)
  | .save game status =>
    game.gameId.bind fun gameId =>
      if f.fetch then none
      else match firstWithID gameId c with
        | some i => if f.updateFetch then none else some (.update i (GameSave.setStatus status))
        | none => some (insertion game gameId status c)
  | .update gameID status =>
    if f.fetch then none else (firstWithID gameID c).map fun i => .update i (GameSave.setStatus status)
  | .delete gameID => if f.fetch then none else (firstWithID gameID c).map .delete
  | .updateObject i status => some (.update i (GameSave.setStatus status))
  | .deleteObject i => some (.delete i)

/-- Whether the save that would commit the call's change throws: `CoredataController`'s
save of a game it found is committed by the update it calls. -/
def Call.saveThrows (f : Faults) (c : Context GameSave) : Call → Bool
  | .save game _ =>
    match game.gameId.bind fun gameId => firstWithID gameId c with
    | some _ => f.updateSave
    | none => f.save
  | _ => f.save

/-- The context after a call. -/
def Call.exec (f : Faults) (call : Call) (c : Context GameSave) : Context GameSave :=
  match call.change f c with
  | none => c
  | some ch => if call.saveThrows f c then c.make ch else (c.make ch).save

theorem Call.exec_updateObject (f : Faults) (i : ObjectID) (status : String) (c : Context GameSave) :
    (Call.updateObject i status).exec f c =
      if f.save then c.setValue i (GameSave.setStatus status) else (c.setValue i (GameSave.setStatus status)).save :=
  rfl

theorem Call.exec_deleteObject (f : Faults) (i : ObjectID) (c : Context GameSave) :
    (Call.deleteObject i).exec f c = if f.save then c.delete i else (c.delete i).save := rfl

/-- The call an operation makes; a fetch makes none. -/
def Op.call (s : App) : Op → Option Call
  | .homeSave game status => some (.homeSave game status)
  | .save game status => some (.save game status)
  | .update gameID status => some (.update gameID status)
  | .delete gameID => some (.delete gameID)
  | .updateRow row status => s.profile.results[row]?.map (.updateObject · status)
  | .deleteRow row => s.profile.results[row]?.map .deleteObject
  | _ => none

/-- The context after an operation's call. -/
def Op.callExec (f : Faults) (o : Op) (s : App) : Context GameSave :=
  match o.call s with
  | none => s.context
  | some call => call.exec f s.context

/-! ### The functions of the source make their calls -/

theorem firstWithID_eq_none {gameID : Int64} {c : Context GameSave} :
    firstWithID gameID c = none ↔ c.fetch (hasGameID gameID) = [] := by
  simp [firstWithID]

theorem firstWithID_of_fetch_cons {gameID : Int64} {c : Context GameSave} {i : ObjectID} {l : List ObjectID}
    (h : c.fetch (hasGameID gameID) = i :: l) : firstWithID gameID c = some i := by
  simp [firstWithID, h]

theorem updateGameToCoreDataByGameID_eq (gameID : Int64) (status : String) (f : Faults) (c : Context GameSave) :
    CoredataController.updateGameToCoreDataByGameID gameID status f.fetch f.save c =
      (Call.update gameID status).exec f c := by
  unfold CoredataController.updateGameToCoreDataByGameID Call.exec Call.change Call.saveThrows
  cases f.fetch with
  | true => rfl
  | false =>
    cases h : c.fetch (hasGameID gameID) with
    | nil => simp [firstWithID, h]
    | cons i l => simp [firstWithID, h, Context.make]

theorem deleteGameFromCoreData_eq (gameID : Int64) (f : Faults) (c : Context GameSave) :
    CoredataController.deleteGameFromCoreData gameID f.fetch f.save c = (Call.delete gameID).exec f c := by
  unfold CoredataController.deleteGameFromCoreData Call.exec Call.change Call.saveThrows
  cases f.fetch with
  | true => rfl
  | false =>
    cases h : c.fetch (hasGameID gameID) with
    | nil => simp [firstWithID, h]
    | cons i l => simp [firstWithID, h, Context.make]

namespace ProfileController

theorem reloadCollectionView_eq_ok_iff {s s' : App} :
    reloadCollectionView s = .ok s' ↔ s.profile.collectionView ≠ none ∧
      s' = { s with profile.collectionView := some s.profile.results.length } := by
  unfold reloadCollectionView
  cases s.profile.collectionView with
  | none => simp [bind, Except.bind]
  | some n => simp [bind, Except.bind, pure, Except.pure, eq_comm]

/-- A reload of the list leaves the context as it is. -/
theorem fetchResults_context {p : GameSave → Bool} {throws : Bool} {s s' : App}
    (h : fetchResults p throws s = .ok s') : s'.context = s.context := by
  unfold fetchResults at h
  cases throws with
  | true =>
    simp only [if_true, Except.ok.injEq] at h
    subst h
    rfl
  | false =>
    simp only [Bool.false_eq_true, if_false, reloadCollectionView_eq_ok_iff] at h
    obtain ⟨-, rfl⟩ := h
    rfl

/-- A fetch into the list returns, once its view is loaded. -/
theorem fetchResults_ok {s : App} (h : s.profile.collectionView ≠ none) (p : GameSave → Bool) (throws : Bool) :
    ∃ s', fetchResults p throws s = .ok s' := by
  cases throws with
  | true => exact ⟨_, rfl⟩
  | false =>
    simp only [fetchResults, Bool.false_eq_true, if_false]
    exact ⟨_, reloadCollectionView_eq_ok_iff.mpr ⟨h, rfl⟩⟩

/-- A reload that does not throw lists what it fetched. -/
theorem results_of_fetchResults {p : GameSave → Bool} {s s' : App} (h : fetchResults p false s = .ok s') :
    s'.profile.results = s.context.fetch p := by
  simp only [fetchResults, Bool.false_eq_true, if_false, reloadCollectionView_eq_ok_iff] at h
  obtain ⟨-, rfl⟩ := h
  rfl

theorem postReloadProfileData_context {throws : Bool} {s s' : App}
    (h : postReloadProfileData throws s = .ok s') : s'.context = s.context := by
  unfold postReloadProfileData at h
  cases hc : s.profile.collectionView with
  | none =>
    rw [hc, Except.ok.injEq] at h
    rw [h]
  | some n =>
    rw [hc] at h
    exact fetchResults_context h

/-- **What the update of a row can do**: its object is given the status, and that is left pending or saved and
set once more. The rows are counted either way. -/
theorem updateGameInCoreData_cases {row : ℕ} {status : String} {saveThrows : Bool} {s s' : App}
    (h : updateGameInCoreData row status saveThrows s = .ok s') :
    ∃ i, s.profile.results[row]? = some i ∧ s.profile.collectionView ≠ none ∧ s' = { s with
      context := if saveThrows then s.context.setValue i (GameSave.setStatus status)
        else (s.context.setValue i (GameSave.setStatus status)).save.setValue i (GameSave.setStatus status)
      profile.collectionView := some s.profile.results.length } := by
  obtain ⟨i, hi, h⟩ := bind_eq_ok_iff.mp h
  refine ⟨i, subscript_eq_ok_iff.mp hi, ?_⟩
  cases saveThrows with
  | true => exact reloadCollectionView_eq_ok_iff.mp h
  | false => exact reloadCollectionView_eq_ok_iff.mp h

/-- **What the deletion of a row can do**: its object is deleted, and that is left pending, or saved and the
row removed. -/
theorem deleteGameFromCoreData_cases {row : ℕ} {saveThrows : Bool} {s s' : App}
    (h : deleteGameFromCoreData row saveThrows s = .ok s') :
    ∃ i, s.profile.results[row]? = some i ∧
      ((saveThrows = true ∧ s' = { s with context := s.context.delete i }) ∨
        saveThrows = false ∧ s.profile.collectionView ≠ none ∧ s' = { s with
          context := (s.context.delete i).save
          profile := { s.profile with
            results := s.profile.results.eraseIdx row
            collectionView := some (s.profile.results.eraseIdx row).length }
          badgeValue := some (toString (s.profile.results.eraseIdx row).length) }) := by
  obtain ⟨i, hi, h⟩ := bind_eq_ok_iff.mp h
  refine ⟨i, subscript_eq_ok_iff.mp hi, ?_⟩
  cases saveThrows with
  | true => exact .inl ⟨rfl, (Except.ok.inj h).symm⟩
  | false => exact .inr ⟨rfl, reloadCollectionView_eq_ok_iff.mp h⟩

theorem updateGameInCoreData_context {row : ℕ} {status : String} {f : Faults} {s s' : App}
    (h : updateGameInCoreData row status f.save s = .ok s') :
    Context.Same s'.context ((Op.updateRow row status).callExec f s) := by
  obtain ⟨i, hr, -, rfl⟩ := updateGameInCoreData_cases h
  have hcall : (Op.updateRow row status).callExec f s = (Call.updateObject i status).exec f s.context := by
    simp [Op.callExec, Op.call, hr]
  rw [hcall, Call.exec_updateObject]
  dsimp only
  by_cases hs : f.save = true
  · rw [if_pos hs, if_pos hs]
  · rw [if_neg hs, if_neg hs]
    exact Context.same_setValue_save_setValue (GameSave.setStatus_setStatus status) _ _

theorem deleteGameFromCoreData_context {row : ℕ} {f : Faults} {s s' : App}
    (h : deleteGameFromCoreData row f.save s = .ok s') :
    s'.context = (Op.deleteRow row).callExec f s := by
  obtain ⟨i, hr, hc⟩ := deleteGameFromCoreData_cases h
  have hcall : (Op.deleteRow row).callExec f s = (Call.deleteObject i).exec f s.context := by
    simp [Op.callExec, Op.call, hr]
  rw [hcall, Call.exec_deleteObject]
  obtain ⟨hs, rfl⟩ | ⟨hs, -, rfl⟩ := hc
  · rw [if_pos hs]
  · rw [if_neg (Bool.eq_false_iff.mp hs)]

theorem viewDidLoad_context {throws : Bool} {s s' : App} (h : viewDidLoad throws s = .ok s') :
    s'.context = s.context := by
  obtain ⟨t, ht, h⟩ := bind_eq_ok_iff.mp h
  cases h
  exact (fetchResults_context ht :)

theorem reloadData_context {throws : Bool} {s s' : App} (h : reloadData throws s = .ok s') :
    s'.context = s.context := by
  obtain ⟨t, ht, h⟩ := bind_eq_ok_iff.mp h
  obtain ⟨-, rfl⟩ := reloadCollectionView_eq_ok_iff.mp h
  exact (fetchResults_context ht :)

/-- **What a tap on a segment can do**: nothing, when there is no view, the segment is the one selected or
none; or select it and fetch what it shows. -/
theorem setSelectIndex_cases {index : ℕ} {throws : Bool} {s s' : App} (h : setSelectIndex index throws s = .ok s') :
    ((s.profile.collectionView = none ∨ index = s.profile.selectIndex ∨ titles[index]? = none) ∧ s' = s) ∨
      ∃ title, s.profile.collectionView ≠ none ∧ index ≠ s.profile.selectIndex ∧ titles[index]? = some title ∧
        fetchResults (if index = 0 then fun _ => true else hasStatus title) throws
          { s with profile.selectIndex := index } = .ok s' := by
  unfold setSelectIndex at h
  by_cases hc : s.profile.collectionView = none
  · rw [if_pos hc] at h
    exact .inl ⟨.inl hc, (Except.ok.inj h).symm⟩
  rw [if_neg hc] at h
  by_cases hi : index = s.profile.selectIndex
  · rw [if_pos hi] at h
    exact .inl ⟨.inr (.inl hi), (Except.ok.inj h).symm⟩
  rw [if_neg hi] at h
  cases ht : titles[index]? with
  | none =>
    rw [ht] at h
    exact .inl ⟨.inr (.inr rfl), (Except.ok.inj h).symm⟩
  | some title =>
    rw [ht] at h
    refine .inr ⟨title, hc, hi, rfl, ?_⟩
    by_cases h0 : index = 0
    · simp only [h0, if_true] at h ⊢
      exact h
    · simp only [h0, if_false] at h ⊢
      exact h

theorem setSelectIndex_context {index : ℕ} {throws : Bool} {s s' : App}
    (h : setSelectIndex index throws s = .ok s') : s'.context = s.context := by
  obtain ⟨-, rfl⟩ | ⟨title, -, -, -, h⟩ := setSelectIndex_cases h
  · rfl
  · exact (fetchResults_context h :)

end ProfileController

/-- **What the Home save can do**: nothing, when its fetch throws or finds the game; or insert the
game, and leave that pending or post `reloadProfileData`. -/
theorem homeSave_cases {game : Game} {status : String} {f : Faults} {s s' : App}
    (h : MyRootViewController.saveGameToCoreData game status f s = .ok s') :
    ∃ gameId, game.gameId = some gameId ∧
      ((f.fetch = true ∧ s' = s) ∨ f.fetch = false ∧
        ((∃ i, firstWithID gameId s.context = some i ∧ s' = s) ∨ firstWithID gameId s.context = none ∧
          ((f.save = true ∧ s' = { s with
              context := s.context.insertNewObject (game.toGameSave gameId status) }) ∨
            f.save = false ∧ ProfileController.postReloadProfileData f.reloadFetch { s with
              context := (s.context.insertNewObject (game.toGameSave gameId status)).save } = .ok s'))) := by
  obtain ⟨gameId, hg, h⟩ := bind_eq_ok_iff.mp h
  refine ⟨gameId, force_eq_ok_iff.mp hg, ?_⟩
  by_cases hff : f.fetch = true
  · rw [if_pos hff] at h
    exact .inl ⟨hff, (Except.ok.inj h).symm⟩
  rw [if_neg hff] at h
  refine .inr ⟨Bool.eq_false_iff.mpr hff, ?_⟩
  cases hf : s.context.fetch (hasGameID gameId) with
  | cons i l =>
    rw [hf] at h
    exact .inl ⟨i, firstWithID_of_fetch_cons hf, (Except.ok.inj h).symm⟩
  | nil =>
    rw [hf] at h
    refine .inr ⟨firstWithID_eq_none.mpr hf, ?_⟩
    by_cases hs : f.save = true
    · simp only [hs, if_true] at h
      exact .inl ⟨hs, (Except.ok.inj h).symm⟩
    · simp only [hs] at h
      exact .inr ⟨Bool.eq_false_iff.mpr hs, h⟩

/-- **What `CoredataController`'s save can do**, and what it reports: as the Home save, but a game
found is updated, and that is reported as a success. -/
theorem save_cases {game : Game} {status : String} {f : Faults} {s s' : App} {calls : List Bool}
    (h : CoredataController.saveGameToCoreData game status f s = .ok (s', calls)) :
    ∃ gameId, game.gameId = some gameId ∧
      ((f.fetch = true ∧ s' = s ∧ calls = [false]) ∨ f.fetch = false ∧
        ((∃ i, firstWithID gameId s.context = some i ∧ calls = [true] ∧ s' = { s with
            context := CoredataController.updateGameToCoreDataByGameID gameId status f.updateFetch f.updateSave
              s.context }) ∨ firstWithID gameId s.context = none ∧
          ((f.save = true ∧ calls = [false] ∧ s' = { s with
              context := s.context.insertNewObject (game.toGameSave gameId status) }) ∨
            f.save = false ∧ calls = [true] ∧ ProfileController.postReloadProfileData f.reloadFetch { s with
              context := (s.context.insertNewObject (game.toGameSave gameId status)).save } = .ok s'))) := by
  obtain ⟨gameId, hg, h⟩ := bind_eq_ok_iff.mp h
  refine ⟨gameId, force_eq_ok_iff.mp hg, ?_⟩
  by_cases hff : f.fetch = true
  · rw [if_pos hff] at h
    obtain ⟨hs, hc⟩ := Prod.mk.inj (Except.ok.inj h)
    exact .inl ⟨hff, hs.symm, hc.symm⟩
  rw [if_neg hff] at h
  refine .inr ⟨Bool.eq_false_iff.mpr hff, ?_⟩
  cases hf : s.context.fetch (hasGameID gameId) with
  | cons i l =>
    rw [hf] at h
    obtain ⟨hs, hc⟩ := Prod.mk.inj (Except.ok.inj h)
    exact .inl ⟨i, firstWithID_of_fetch_cons hf, hc.symm, hs.symm⟩
  | nil =>
    rw [hf] at h
    refine .inr ⟨firstWithID_eq_none.mpr hf, ?_⟩
    by_cases hs : f.save = true
    · simp only [hs, if_true] at h
      obtain ⟨hs', hc⟩ := Prod.mk.inj (Except.ok.inj h)
      exact .inl ⟨hs, hc.symm, hs'.symm⟩
    · simp only [hs] at h
      obtain ⟨t, ht, h⟩ := bind_eq_ok_iff.mp h
      obtain ⟨rfl, hc⟩ := Prod.mk.inj (Except.ok.inj h)
      exact .inr ⟨Bool.eq_false_iff.mpr hs, hc.symm, ht⟩

/-- A save of the game inserts it, and posts `reloadProfileData`. -/
structure Inserts (f : Faults) (s : App) (game : Game) : Prop where
  /-- No record has its `game_id`. -/
  absent : ∃ gameId ∈ game.gameId, firstWithID gameId s.context = none
  /-- The save's fetch does not throw. -/
  fetch : f.fetch = false
  /-- Nor does its save. -/
  save : f.save = false

theorem inserts_iff {f : Faults} {s : App} {game : Game} {gameId : Int64} (hg : game.gameId = some gameId) :
    Inserts f s game ↔ firstWithID gameId s.context = none ∧ f.fetch = false ∧ f.save = false := by
  constructor
  · rintro ⟨⟨gameId', hg', hn⟩, hff, hs⟩
    obtain rfl : gameId = gameId' := Option.some.inj (hg.symm.trans hg')
    exact ⟨hn, hff, hs⟩
  · rintro ⟨hn, hff, hs⟩
    exact ⟨⟨gameId, hg, hn⟩, hff, hs⟩

theorem homeSave_context {game : Game} {status : String} {f : Faults} {s s' : App}
    (h : MyRootViewController.saveGameToCoreData game status f s = .ok s') :
    s'.context = (Call.homeSave game status).exec f s.context := by
  obtain ⟨gameId, hg, ⟨hff, rfl⟩ | ⟨hff, ⟨i, hi, rfl⟩ | ⟨hn, ⟨hs, rfl⟩ | ⟨hs, h⟩⟩⟩⟩ := homeSave_cases h
  · simp [Call.exec, Call.change, hg, hff]
  · simp [Call.exec, Call.change, hg, hff, hi]
  · simp [Call.exec, Call.change, Call.saveThrows, hg, hff, hn, hs, insertion, Context.make]
  · rw [ProfileController.postReloadProfileData_context h]
    simp [Call.exec, Call.change, Call.saveThrows, hg, hff, hn, hs, insertion, Context.make]

theorem save_context {game : Game} {status : String} {f : Faults} {s s' : App} {calls : List Bool}
    (h : CoredataController.saveGameToCoreData game status f s = .ok (s', calls)) :
    s'.context = (Call.save game status).exec f s.context := by
  obtain ⟨gameId, hg, ⟨hff, rfl, -⟩ | ⟨hff, ⟨i, hi, -, rfl⟩ | ⟨hn, ⟨hs, -, rfl⟩ | ⟨hs, -, h⟩⟩⟩⟩ := save_cases h
  · simp [Call.exec, Call.change, hg, hff]
  · refine (updateGameToCoreDataByGameID_eq gameId status ⟨f.updateFetch, f.updateSave, false, false, false⟩
      s.context).trans ?_
    cases hu : f.updateFetch <;> cases hv : f.updateSave <;>
      simp [Call.exec, Call.change, Call.saveThrows, hg, hff, hi, hu, hv]
  · simp [Call.exec, Call.change, Call.saveThrows, hg, hff, hn, hs, insertion, Context.make]
  · rw [ProfileController.postReloadProfileData_context h]
    simp [Call.exec, Call.change, Call.saveThrows, hg, hff, hn, hs, insertion, Context.make]

/-- The notification is handled without a trap: there is a collection view where there is
an observer. -/
theorem postReloadProfileData_ok (throws : Bool) (s : App) :
    ∃ s', ProfileController.postReloadProfileData throws s = .ok s' := by
  unfold ProfileController.postReloadProfileData
  cases hc : s.profile.collectionView with
  | none => exact ⟨_, rfl⟩
  | some n =>
    cases throws with
    | true => exact ⟨_, rfl⟩
    | false => exact ⟨_, ProfileController.reloadCollectionView_eq_ok_iff.mpr ⟨by simp [hc], rfl⟩⟩

theorem homeSave_ok_iff {game : Game} {status : String} {f : Faults} {s : App} :
    (∃ s', MyRootViewController.saveGameToCoreData game status f s = .ok s') ↔ game.gameId ≠ none := by
  unfold MyRootViewController.saveGameToCoreData
  cases hg : game.gameId with
  | none => simp [bind, Except.bind]
  | some gameId =>
    refine iff_of_true ?_ (Option.some_ne_none _)
    simp only [force_some, bind, Except.bind, pure, Except.pure]
    split
    · exact ⟨_, rfl⟩
    split
    · exact ⟨_, rfl⟩
    split
    · exact ⟨_, rfl⟩
    · exact postReloadProfileData_ok _ _

theorem save_ok_iff {game : Game} {status : String} {f : Faults} {s : App} :
    (∃ r, CoredataController.saveGameToCoreData game status f s = .ok r) ↔ game.gameId ≠ none := by
  unfold CoredataController.saveGameToCoreData
  cases hg : game.gameId with
  | none => simp [bind, Except.bind]
  | some gameId =>
    refine iff_of_true ?_ (Option.some_ne_none _)
    simp only [force_some, bind, Except.bind, pure, Except.pure]
    split
    · exact ⟨_, rfl⟩
    split
    · exact ⟨_, rfl⟩
    split
    · exact ⟨_, rfl⟩
    next context _ =>
      obtain ⟨s', hs'⟩ := postReloadProfileData_ok f.reloadFetch
        { s with context := (s.context.insertNewObject (game.toGameSave gameId status)).save }
      rw [hs']
      exact ⟨_, rfl⟩

/-- **What an operation does to the context** is what its call does. -/
theorem exec_context {f : Faults} {o : Op} {s s' : App} (h : o.exec f s = .ok s') :
    Context.Same s'.context (o.callExec f s) := by
  cases o with
  | homeSave game status => exact homeSave_context h ▸ Context.Same.refl _
  | save game status =>
    simp only [Op.exec, bind, Except.bind, pure, Except.pure] at h
    split at h
    · cases h
    next t ht =>
      obtain ⟨t, calls⟩ := t
      rw [Except.ok.injEq] at h
      subst h
      exact save_context ht ▸ Context.Same.refl _
  | update gameID status =>
    rw [Op.exec, Except.ok.injEq] at h
    rw [← h, updateGameToCoreDataByGameID_eq]
    rfl
  | delete gameID =>
    rw [Op.exec, Except.ok.injEq] at h
    rw [← h, deleteGameFromCoreData_eq]
    rfl
  | updateRow row status => exact ProfileController.updateGameInCoreData_context h
  | deleteRow row => exact ProfileController.deleteGameFromCoreData_context h ▸ Context.Same.refl _
  | loadProfile => exact ProfileController.viewDidLoad_context h ▸ Context.Same.refl _
  | fetchAll => exact ProfileController.fetchResults_context h ▸ Context.Same.refl _
  | fetchStatus status => exact ProfileController.fetchResults_context h ▸ Context.Same.refl _
  | selectSegment index => exact ProfileController.setSelectIndex_context h ▸ Context.Same.refl _
  | reload => exact ProfileController.reloadData_context h ▸ Context.Same.refl _

/-! ### What a call can do -/

/-- The status a call writes, if it writes one. -/
def Call.status : Call → Option String
  | .homeSave _ status | .save _ status | .update _ status | .updateObject _ status => some status
  | .delete _ | .deleteObject _ => none

/-- The game a call may insert. -/
def Call.game : Call → Option Game
  | .homeSave game _ | .save game _ => some game
  | _ => none

theorem firstWithID_eq_none_iff_notMem {gameID : Int64} {c : Context GameSave} :
    firstWithID gameID c = none ↔ gameID.toInt32 ∉ keys GameSave.gameId c.view :=
  firstWithID_eq_none.trans c.fetch_key_eq_nil_iff

/-- The object found has the `game_id` asked for. -/
theorem mem_view_of_firstWithID {gameID : Int64} {c : Context GameSave} {i : ObjectID}
    (h : firstWithID gameID c = some i) : ∃ g, (i, g) ∈ c.view ∧ g.gameId = gameID.toInt32 := by
  obtain ⟨g, hm, hg⟩ := c.mem_fetch.mp (List.mem_of_mem_head? h)
  exact ⟨g, hm, by simpa [hasGameID] using hg⟩

/-- The change the Home save asks for. -/
theorem Call.change_homeSave {f : Faults} {c : Context GameSave} {game : Game} {status : String}
    {ch : Change GameSave} (h : (Call.homeSave game status).change f c = some ch) :
    ∃ gameId, game.gameId = some gameId ∧ firstWithID gameId c = none ∧ ch = insertion game gameId status c := by
  obtain ⟨gameId, hg, h⟩ := Option.bind_eq_some_iff.mp h
  obtain ⟨-, h⟩ := Option.ite_none_left_eq_some.mp h
  cases hf : firstWithID gameId c with
  | some i => simp [hf] at h
  | none =>
    rw [hf, Option.some.injEq] at h
    exact ⟨gameId, hg, hf, h.symm⟩

/-- The change `CoredataController`'s save asks for. -/
theorem Call.change_save {f : Faults} {c : Context GameSave} {game : Game} {status : String}
    {ch : Change GameSave} (h : (Call.save game status).change f c = some ch) :
    ∃ gameId, game.gameId = some gameId ∧
      ((∃ i, firstWithID gameId c = some i ∧ ch = .update i (GameSave.setStatus status)) ∨
        firstWithID gameId c = none ∧ ch = insertion game gameId status c) := by
  obtain ⟨gameId, hg, h⟩ := Option.bind_eq_some_iff.mp h
  obtain ⟨-, h⟩ := Option.ite_none_left_eq_some.mp h
  refine ⟨gameId, hg, ?_⟩
  cases hf : firstWithID gameId c with
  | some i =>
    simp only [hf] at h
    obtain ⟨-, h⟩ := Option.ite_none_left_eq_some.mp h
    exact .inl ⟨i, rfl, (Option.some.inj h).symm⟩
  | none =>
    rw [hf, Option.some.injEq] at h
    exact .inr ⟨rfl, h.symm⟩

/-- The change an update by `game_id` asks for. -/
theorem Call.change_updateByID {f : Faults} {c : Context GameSave} {gameID : Int64} {status : String}
    {ch : Change GameSave} (h : (Call.update gameID status).change f c = some ch) :
    ∃ i, firstWithID gameID c = some i ∧ ch = .update i (GameSave.setStatus status) := by
  obtain ⟨-, h⟩ := Option.ite_none_left_eq_some.mp h
  obtain ⟨i, hi, rfl⟩ := Option.map_eq_some_iff.mp h
  exact ⟨i, hi, rfl⟩

/-- The change a deletion by `game_id` asks for. -/
theorem Call.change_deleteByID {f : Faults} {c : Context GameSave} {gameID : Int64} {ch : Change GameSave}
    (h : (Call.delete gameID).change f c = some ch) : ∃ i, firstWithID gameID c = some i ∧ ch = .delete i := by
  obtain ⟨-, h⟩ := Option.ite_none_left_eq_some.mp h
  obtain ⟨i, hi, rfl⟩ := Option.map_eq_some_iff.mp h
  exact ⟨i, hi, rfl⟩

/-- **What a call can ask for**: the insertion of a game under a `game_id` the view does
not have, a new status for an object, or an object's deletion. -/
theorem Call.change_cases {f : Faults} {c : Context GameSave} {call : Call} {ch : Change GameSave}
    (h : call.change f c = some ch) :
    (∃ game gameId status, call.game = some game ∧ game.gameId = some gameId ∧ call.status = some status ∧
      gameId.toInt32 ∉ keys GameSave.gameId c.view ∧ ch = insertion game gameId status c) ∨
    (∃ i status, call.status = some status ∧ ch = .update i (GameSave.setStatus status)) ∨
    ∃ i, ch = .delete i := by
  cases call with
  | homeSave game status =>
    obtain ⟨gameId, hg, hf, rfl⟩ := Call.change_homeSave h
    exact .inl ⟨game, gameId, status, rfl, hg, rfl, firstWithID_eq_none_iff_notMem.mp hf, rfl⟩
  | save game status =>
    obtain ⟨gameId, hg, ⟨i, -, rfl⟩ | ⟨hf, rfl⟩⟩ := Call.change_save h
    · exact .inr (.inl ⟨i, status, rfl, rfl⟩)
    · exact .inl ⟨game, gameId, status, rfl, hg, rfl, firstWithID_eq_none_iff_notMem.mp hf, rfl⟩
  | update gameID status =>
    obtain ⟨i, -, rfl⟩ := Call.change_updateByID h
    exact .inr (.inl ⟨i, status, rfl, rfl⟩)
  | delete gameID =>
    obtain ⟨i, -, rfl⟩ := Call.change_deleteByID h
    exact .inr (.inr ⟨i, rfl⟩)
  | updateObject i status => exact .inr (.inl ⟨i, status, rfl, (Option.some.inj h).symm⟩)
  | deleteObject i => exact .inr (.inr ⟨i, (Option.some.inj h).symm⟩)

/-- An insertion a call asks for is made under the next identity. -/
theorem Call.change_insert {f : Faults} {c : Context GameSave} {call : Call} {i : ObjectID} {g : GameSave}
    (h : call.change f c = some (.insert i g)) : i = c.next ∧ g.gameId ∉ keys GameSave.gameId c.view := by
  rcases Call.change_cases h with ⟨game, gameId, status, -, -, -, hk, hc⟩ | ⟨j, status, -, hc⟩ | ⟨j, hc⟩
  · simp only [insertion, Change.insert.injEq] at hc
    obtain ⟨rfl, rfl⟩ := hc
    exact ⟨rfl, hk⟩
  · cases hc
  · cases hc

/-- Rewriting that a call asks for keeps the `game_id`. -/
theorem Call.change_update {f : Faults} {c : Context GameSave} {call : Call} {i : ObjectID}
    {u : GameSave → GameSave} (h : call.change f c = some (.update i u)) :
    ∃ status, call.status = some status ∧ u = GameSave.setStatus status := by
  rcases Call.change_cases h with ⟨_, _, _, -, -, -, -, hc⟩ | ⟨j, status, hs, hc⟩ | ⟨j, hc⟩
  · cases hc
  · cases hc
    exact ⟨status, hs, rfl⟩
  · cases hc

/-- The view after a call is the view with the change made to it. -/
theorem Call.view_exec (f : Faults) (call : Call) (c : Context GameSave) :
    (call.exec f c).view = ((call.change f c).map fun ch => ch.apply c.view).getD c.view := by
  unfold Call.exec
  cases h : call.change f c with
  | none => rfl
  | some ch =>
    have hv : (c.make ch).view = ch.apply c.view :=
      c.view_make fun i g hch => (Call.change_insert (hch ▸ h)).1
    cases call.saveThrows f c <;> simp [hv]

/-- The store after a call: as it was, or the view. -/
theorem Call.store_exec (f : Faults) (call : Call) (c : Context GameSave) :
    (call.exec f c).store = c.store ∨ (call.exec f c).store = (call.exec f c).view := by
  unfold Call.exec
  cases call.change f c with
  | none => exact .inl rfl
  | some ch =>
    cases call.saveThrows f c with
    | true => exact .inl (c.store_make ch)
    | false => exact .inr rfl

end Booster
