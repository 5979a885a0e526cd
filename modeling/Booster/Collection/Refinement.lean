import Booster.Collection.NoFaults

/-!
# The saved collection is a finite map

What the six editing functions are for, stated without objects, contexts or
rows: a map from `game_id` to status, title and thumbnail (`Collection`), and
four commands on it (`Command`). `Op.command` says which command an operation
stands for — a Profile row stands for the `game_id` of the object it lists,
however old the row is — and `abstractRun` runs the commands of a list of
operations.

`stored_exec` is the simulation of one operation, and `stored_eq_abstractRun`
that of a run from an empty store: a run of valid operations does not trap, and
the records it leaves in the store, read by `game_id`, are the map its commands leave.
-/

namespace Booster

open Theory

/-- What is kept of a game. -/
structure Saved where
  status : Option String
  title : Option String
  thumbnailImage : Option String

/-- A collection: what is kept of the games in it, by `game_id`. -/
abbrev Collection := Int32 → Option Saved

/-- What can be asked of a collection. -/
inductive Command where
  /-- Add a game; if it is there already, change nothing. -/
  | add (gameId : Int32) (a : Saved)
  /-- Add a game; if it is there already, give it the status. -/
  | addOrSetStatus (gameId : Int32) (a : Saved)
  /-- Give a game a status, if it is there. -/
  | setStatus (gameId : Int32) (status : String)
  /-- Remove a game. -/
  | remove (gameId : Int32)

/-- The collection after a command. -/
def Command.apply : Command → Collection → Collection
  | .add k a, m => if (m k).isSome then m else Function.update m k (some a)
  | .addOrSetStatus k a, m =>
    Function.update m k (some (match m k with
      | some b => { b with status := a.status }
      | none => a))
  | .setStatus k status, m => Function.update m k ((m k).map fun b => { b with status := some status })
  | .remove k, m => Function.update m k none

/-- What is kept of a game saved with a status. -/
def Game.saved (game : Game) (status : String) : Saved where
  status := some status
  title := game.title
  thumbnailImage := game.sampleCover.map Cover.thumbnailImageURL

/-- `results[row].game_id`. -/
def App.rowGameID (s : App) (row : ℕ) : Option Int32 :=
  (s.profile.results[row]?.bind s.context.memory).map GameSave.gameId

/-- The command an operation stands for. -/
def Op.command (s : App) : Op → Option Command
  | .homeSave game status => game.gameId.map fun gameId => .add gameId.toInt32 (game.saved status)
  | .save game status => game.gameId.map fun gameId => .addOrSetStatus gameId.toInt32 (game.saved status)
  | .update gameID status => some (.setStatus gameID.toInt32 status)
  | .delete gameID => some (.remove gameID.toInt32)
  | .updateRow row status => (s.rowGameID row).map (.setStatus · status)
  | .deleteRow row => (s.rowGameID row).map .remove
  | _ => none

/-- The collection after the command an operation stands for, if it stands for one. -/
def Op.applyCommand (s : App) (o : Op) (m : Collection) : Collection :=
  match o.command s with
  | some c => c.apply m
  | none => m

/-- The collection after the commands of a run of operations. -/
def abstractRun : List Op → App → Collection → Collection
  | [], _, m => m
  | o :: os, s, m =>
    match o.exec .none s with
    | .ok s' => abstractRun os s' (o.applyCommand s m)
    | .error _ => m

/-- What is kept of a record. -/
def GameSave.saved (g : GameSave) : Saved := ⟨g.status, g.title, g.thumbnailImage⟩

/-- The records in the store, read by `game_id`. -/
def stored (c : Context GameSave) : Collection := fun k => (lookup GameSave.gameId c.store k).map GameSave.saved

@[simp] theorem Game.gameId_toGameSave (game : Game) (gameId : Int64) (status : String) :
    (game.toGameSave gameId status).gameId = gameId.toInt32 := rfl

@[simp] theorem Game.saved_toGameSave (game : Game) (gameId : Int64) (status : String) :
    (game.toGameSave gameId status).saved = game.saved status := rfl

/-! ### One operation -/

theorem stored_eq_none_iff {s : App} (h : Clean s) {k : Int32} :
    stored s.context k = none ↔ k ∉ keys GameSave.gameId s.context.view := by
  rw [stored, Option.map_eq_none_iff, lookup_eq_none_iff, h.written]

theorem stored_of_mem_view {s : App} (h : Clean s) {i : ObjectID} {g : GameSave}
    (hg : (i, g) ∈ s.context.view) : stored s.context g.gameId = some g.saved := by
  have hl : lookup GameSave.gameId s.context.view g.gameId = some g :=
    (lookup_eq_some_iff h.nodup).mpr ⟨i, hg, rfl⟩
  rw [stored, h.written, hl, Option.map_some]

/-- Giving a record a status gives its `game_id` the status. -/
theorem stored_statusSet {s : App} (h : Clean s) {i : ObjectID} {g : GameSave} (hg : (i, g) ∈ s.context.view)
    (status : String) :
    stored (s.statusSet i status).context = (Command.setStatus g.gameId status).apply (stored s.context) := by
  have hl := lookup_update s.context.view_nodup h.nodup (GameSave.gameId_setStatus status) hg
  funext k
  simp only [Command.apply, stored_of_mem_view h hg, Option.map_some]
  by_cases hk : k = g.gameId
  · subst hk
    simp [stored, App.statusSet, hl, GameSave.saved, GameSave.setStatus]
  · simp [stored, App.statusSet, hl, h.written, Function.update_of_ne hk]

/-- Deleting a record removes its `game_id`. -/
theorem stored_deleted {s : App} (h : Clean s) {i : ObjectID} {g : GameSave} (hg : (i, g) ∈ s.context.view) :
    stored (s.deleted i).context = (Command.remove g.gameId).apply (stored s.context) := by
  have hl := lookup_delete s.context.view_nodup h.nodup hg
  funext k
  simp only [Command.apply]
  by_cases hk : k = g.gameId
  · subst hk
    simp [stored, App.deleted, hl]
  · simp [stored, App.deleted, hl, h.written, Function.update_of_ne hk]

theorem notified_context (s : App) : s.notified.context = s.context := by
  unfold App.notified
  cases s.profile.collectionView <;> rfl

/-- Inserting a record adds its `game_id`. -/
theorem stored_inserted {s : App} (h : Clean s) {game : Game} {gameId : Int64} {status : String}
    (hf : firstWithID gameId s.context = none) :
    stored (s.inserted game gameId status).context =
      Function.update (stored s.context) gameId.toInt32 (some (game.saved status)) := by
  have hl := lookup_insert (a := game.toGameSave gameId status) (firstWithID_eq_none_iff_notMem.mp hf) s.context.next
  rw [App.inserted, notified_context]
  funext k
  by_cases hk : k = gameId.toInt32
  · subst hk
    simp [stored, hl]
  · simp [stored, hl, h.written, Function.update_of_ne hk]

/-- An object none of the view's records is held by has no row to edit. -/
theorem notMem_ids_of_key_notMem {s : App} {i : ObjectID} {g : GameSave} (hm : s.context.memory i = some g)
    (hk : g.gameId ∉ keys GameSave.gameId s.context.view) : i ∉ ids s.context.view := by
  intro hi
  obtain ⟨g', hg'⟩ := mem_ids.mp hi
  rw [s.context.memory_of_mem_view hg', Option.some.injEq] at hm
  exact hk (hm ▸ mem_keys_of_mem hg')

/-- A listed object, given a status: its `game_id` is given the status, whether or not it
still has a record. -/
theorem stored_statusSet_listed {s : App} (h : Clean s) {i : ObjectID} (hi : i ∈ s.profile.results)
    (status : String) : ∃ g, s.context.memory i = some g ∧
      stored (s.statusSet i status).context = (Command.setStatus g.gameId status).apply (stored s.context) := by
  obtain ⟨g, hm, hg | hg⟩ := h.listed i hi
  · exact ⟨g, hm, stored_statusSet h hg status⟩
  · refine ⟨g, hm, ?_⟩
    funext k
    simp only [Command.apply, (stored_eq_none_iff h).mpr hg, Option.map_none]
    rw [← (stored_eq_none_iff h).mpr hg, Function.update_eq_self]
    simp only [stored, App.statusSet, Context.store_save, Context.view_setValue, h.written,
      update_of_notMem (notMem_ids_of_key_notMem hm hg)]

/-- A listed object, deleted: its `game_id` is removed, whether or not it still has a record. -/
theorem stored_deleted_listed {s : App} (h : Clean s) {i : ObjectID} (hi : i ∈ s.profile.results) :
    ∃ g, s.context.memory i = some g ∧
      stored (s.deleted i).context = (Command.remove g.gameId).apply (stored s.context) := by
  obtain ⟨g, hm, hg | hg⟩ := h.listed i hi
  · exact ⟨g, hm, stored_deleted h hg⟩
  · refine ⟨g, hm, ?_⟩
    funext k
    simp only [Command.apply]
    rw [← (stored_eq_none_iff h).mpr hg, Function.update_eq_self]
    simp only [stored, App.deleted, Context.store_save, Context.view_delete, h.written,
      delete_of_notMem (notMem_ids_of_key_notMem hm hg)]

/-! ### A run -/

/-- A valid operation: a game saved has a `gameId`, a row is one of `results`, and a fetch
into the Profile list is made once its view is loaded. -/
def Op.Valid (s : App) : Op → Prop
  | .homeSave game _ | .save game _ => game.gameId ≠ none
  | .updateRow row _ | .deleteRow row => row < s.profile.results.length
  | .fetchAll | .fetchStatus _ | .reload => s.profile.collectionView ≠ none
  | .update _ _ | .delete _ | .loadProfile | .selectSegment _ => True

instance (s : App) : (o : Op) → Decidable (o.Valid s)
  | .homeSave game _ | .save game _ => inferInstanceAs (Decidable (game.gameId ≠ none))
  | .updateRow row _ | .deleteRow row => inferInstanceAs (Decidable (row < s.profile.results.length))
  | .fetchAll | .fetchStatus _ | .reload => inferInstanceAs (Decidable (s.profile.collectionView ≠ none))
  | .update _ _ | .delete _ | .loadProfile | .selectSegment _ => isTrue trivial

/-- Each operation is valid in the state the ones before it left. -/
def ValidRun : List Op → App → Prop
  | [], _ => True
  | o :: os, s => o.Valid s ∧ match o.exec .none s with
    | .ok s' => ValidRun os s'
    | .error _ => True

instance ValidRun.decidable : (os : List Op) → (s : App) → Decidable (ValidRun os s)
  | [], _ => isTrue trivial
  | o :: os, s =>
    have : Decidable (match o.exec .none s with
        | .ok s' => ValidRun os s'
        | .error _ => True) :=
      match o.exec .none s with
      | .ok s' => decidable os s'
      | .error _ => isTrue trivial
    inferInstanceAs (Decidable (o.Valid s ∧ _))

/-- A row of `results` lists an object held in memory. -/
theorem Clean.row {s : App} (h : Clean s) {row : ℕ} (hr : row < s.profile.results.length) :
    ∃ i g, s.profile.results[row]? = some i ∧ i ∈ s.profile.results ∧ s.context.memory i = some g ∧
      s.rowGameID row = some g.gameId := by
  have hi : s.profile.results[row]? = some s.profile.results[row] := List.getElem?_eq_getElem hr
  obtain ⟨g, hm, -⟩ := h.listed _ (List.getElem_mem hr)
  exact ⟨_, g, hi, List.getElem_mem hr, hm, by simp [App.rowGameID, hi, hm]⟩

/-- **One operation simulates its command**: it does not trap, and the store it leaves is
the collection the command makes. -/
theorem stored_exec {o : Op} {s : App} (h : Clean s) (hv : o.Valid s) :
    ∃ s', o.exec .none s = .ok s' ∧ stored s'.context = o.applyCommand s (stored s.context) := by
  cases o with
  | homeSave game status =>
    obtain ⟨gameId, hg⟩ := Option.ne_none_iff_exists'.mp hv
    refine ⟨_, homeSave_eq hg status s, ?_⟩
    simp only [Op.applyCommand, Op.command, hg, Option.map_some, Command.apply]
    cases hf : firstWithID gameId s.context with
    | some i =>
      obtain ⟨g, hm, hk⟩ := mem_view_of_firstWithID hf
      simp [← hk, stored_of_mem_view h hm]
    | none =>
      simp [stored_inserted h hf, (stored_eq_none_iff h).mpr (firstWithID_eq_none_iff_notMem.mp hf)]
  | save game status =>
    obtain ⟨gameId, hg⟩ := Option.ne_none_iff_exists'.mp hv
    refine ⟨_, by rw [Op.exec, save_eq hg]; rfl, ?_⟩
    simp only [Op.applyCommand, Op.command, hg, Option.map_some, Command.apply]
    cases hf : firstWithID gameId s.context with
    | some i =>
      obtain ⟨g, hm, hk⟩ := mem_view_of_firstWithID hf
      simp [← hk, stored_statusSet h hm, Command.apply, stored_of_mem_view h hm, Game.saved]
    | none =>
      simp [stored_inserted h hf, (stored_eq_none_iff h).mpr (firstWithID_eq_none_iff_notMem.mp hf)]
  | update gameID status =>
    refine ⟨_, congrArg Except.ok (update_eq gameID status s), ?_⟩
    simp only [Op.applyCommand, Op.command]
    cases hf : firstWithID gameID s.context with
    | some i =>
      obtain ⟨g, hm, hk⟩ := mem_view_of_firstWithID hf
      rw [← hk]
      exact stored_statusSet h hm status
    | none =>
      have hn := (stored_eq_none_iff h).mpr (firstWithID_eq_none_iff_notMem.mp hf)
      simp only [Command.apply, hn, Option.map_none]
      rw [← hn, Function.update_eq_self]
  | delete gameID =>
    refine ⟨_, congrArg Except.ok (delete_eq gameID s), ?_⟩
    simp only [Op.applyCommand, Op.command]
    cases hf : firstWithID gameID s.context with
    | some i =>
      obtain ⟨g, hm, hk⟩ := mem_view_of_firstWithID hf
      rw [← hk]
      exact stored_deleted h hm
    | none =>
      have hn := (stored_eq_none_iff h).mpr (firstWithID_eq_none_iff_notMem.mp hf)
      simp only [Command.apply]
      rw [← hn, Function.update_eq_self]
  | updateRow row status =>
    obtain ⟨i, g, hr, hi, hm, hk⟩ := h.row hv
    refine ⟨_, ProfileController.updateGameInCoreData_eq (h.loaded hr) hr status, ?_⟩
    obtain ⟨g', hm', hs⟩ := stored_statusSet_listed h hi status
    obtain rfl : g' = g := Option.some.inj (hm'.symm.trans hm)
    simp only [Op.applyCommand, Op.command, hk, Option.map_some, ← hs]
    rfl
  | deleteRow row =>
    obtain ⟨i, g, hr, hi, hm, hk⟩ := h.row hv
    refine ⟨_, ProfileController.deleteGameFromCoreData_eq (h.loaded hr) hr, ?_⟩
    obtain ⟨g', hm', hs⟩ := stored_deleted_listed h hi
    obtain rfl : g' = g := Option.some.inj (hm'.symm.trans hm)
    simp only [Op.applyCommand, Op.command, hk, Option.map_some, ← hs]
    rfl
  | loadProfile => exact ⟨_, ProfileController.viewDidLoad_eq s, rfl⟩
  | fetchAll => exact ⟨_, ProfileController.fetchResults_eq hv _, rfl⟩
  | fetchStatus status => exact ⟨_, ProfileController.fetchResults_eq hv _, rfl⟩
  | selectSegment index =>
    by_cases hs : s.profile.collectionView = none ∨ index = s.profile.selectIndex ∨
        ProfileController.titles[index]? = none
    · exact ⟨_, ProfileController.setSelectIndex_eq_self hs false, rfl⟩
    · simp only [not_or] at hs
      obtain ⟨title, ht⟩ := Option.ne_none_iff_exists'.mp hs.2.2
      exact ⟨_, ProfileController.setSelectIndex_eq hs.1 hs.2.1 ht, rfl⟩
  | reload => exact ⟨_, ProfileController.reloadData_eq hv, rfl⟩

/-- A run of valid operations simulates its commands. -/
theorem stored_run {os : List Op} {s : App} (h : Clean s) (hv : ValidRun os s) :
    ∃ s', run (Op.exec .none) os s = .ok s' ∧ Clean s' ∧
      stored s'.context = abstractRun os s (stored s.context) := by
  induction os generalizing s with
  | nil => exact ⟨s, rfl, h, rfl⟩
  | cons o os ih =>
    obtain ⟨hv, hvs⟩ := hv
    obtain ⟨s₁, ho, hs₁⟩ := stored_exec h hv
    rw [ho] at hvs
    obtain ⟨s', hrun, hc, hs'⟩ := ih (clean_exec h ho) hvs
    refine ⟨s', run_cons_ok.mpr ⟨s₁, ho, hrun⟩, hc, ?_⟩
    rw [hs', hs₁]
    simp only [abstractRun, ho]

/-- **The saved collection is a finite map.** From an empty store, a run of valid operations
none of whose calls into Core Data throw does not trap; it leaves at most one record per
`game_id`, and the records, read by `game_id`, are the map the run's commands make of the empty one. -/
theorem stored_eq_abstractRun (os : List Op) (h : ValidRun os App.launch) :
    ∃ s', run (Op.exec .none) os App.launch = .ok s' ∧
      (keys GameSave.gameId s'.context.store).Nodup ∧
      stored s'.context = abstractRun os App.launch fun _ => none := by
  obtain ⟨s', hrun, hc, hs⟩ := stored_run clean_launch h
  exact ⟨s', hrun, hc.written ▸ hc.nodup, hs⟩

/-- Two games saved; the first given a status in Profile, then removed from the screen
of the game, and its row, left behind, given another status. -/
def sampleRun : List Op :=
  [.homeSave (.bare 7) "Played", .loadProfile, .save (.bare 8) "To Play", .updateRow 0 "Uncategorized",
    .delete 7, .updateRow 0 "Played", .deleteRow 1]

theorem stored_eq_abstractRun_sampleRun :
    ValidRun sampleRun App.launch ∧ ∃ s', run (Op.exec .none) sampleRun App.launch = .ok s' ∧
      (keys GameSave.gameId s'.context.store).Nodup ∧
      stored s'.context = abstractRun sampleRun App.launch fun _ => none :=
  ⟨by decide, stored_eq_abstractRun sampleRun (by decide)⟩

end Booster
