import Booster.Collection.Unique
import Booster.Collection.Refinement
import Booster.Theory.Durable

/-!
# What survives of a collection

`Refinement` has runs in which nothing fails. Here any fetch or save may throw, the app may be
sent to the background or killed at any time, and a trap ends the process: the collection is then
two maps, the one written and the one a fetch sees (`collection`), and an event does to
them what a few acts do, a command, a write or a crash (`Event.acts`). A Profile row stands for the
`game_id` of the record its object still has, and for nothing when it has none.

`collection_step` is the simulation of one event. By it both maps are a replay of the
commands that are written and of those that are seen (`collection_eq_replay`), a record is what the commands
about its `game_id` make of it (`stored_game`), and what a crash leaves is the whole collection as it was
at the last event that wrote (`store_eq_view_earlier`). The stored `game_id` has 32 bits, so two games can share one.
-/

namespace Booster

open Theory

/-- The `game_id` a command is about. -/
def Command.key : Command → Int32
  | .add k _ | .addOrSetStatus k _ | .setStatus k _ | .remove k => k

/-- What a command makes of what is kept of its game. -/
def Command.act : Command → Option Saved → Option Saved
  | .add _ a, m => some (m.getD a)
  | .addOrSetStatus _ a, m => some ((m.map fun b => { b with status := a.status }).getD a)
  | .setStatus _ status, m => m.map fun b => { b with status := some status }
  | .remove _, _ => none

/-- The records a fetch sees, read by `game_id`. -/
def seen (c : Context GameSave) : Collection := fun k => (lookup GameSave.gameId c.view k).map GameSave.saved

/-- The collection as it is written and as a fetch sees it. -/
def collection (c : Context GameSave) : Durable Collection := ⟨stored c, seen c⟩

/-- The `game_id` of the record that the object of a row still has. -/
def App.keptGameID (s : App) (row : ℕ) : Option Int32 :=
  (s.profile.results[row]?.bind fun i => s.context.view.find? fun r => r.1 = i).map fun r => r.2.gameId

/-- The command an operation stands for, when its fetches do not throw and find what it looks for. -/
def Op.keptCommand (s : App) : Op → Option Command
  | .updateRow row status => (s.keptGameID row).map (.setStatus · status)
  | .deleteRow row => (s.keptGameID row).map .remove
  | o => o.command s

/-- What an operation that does not trap does to the collection. -/
def Op.acts (f : Faults) (s : App) (o : Op) : List (Act Command) :=
  match o.call s with
  | none => []
  | some call =>
    if (call.change f s.context).isSome then
      (o.keptCommand s).toList.map .ask ++ if call.saveThrows f s.context then [] else [.write]
    else []

/-- What an event does to the collection. -/
def Event.acts (s : App) : Event → List (Act Command)
  | .op o f =>
    match o.exec f s with
    | .ok _ => o.acts f s
    | .error _ => [.crash]
  | .enterBackground saveThrows => if s.context.hasChanges then (if saveThrows then [.crash] else [.write]) else []
  | .kill => [.crash]

/-- What a run does to the collection. -/
def App.acts : List Event → App → List (Act Command)
  | [], _ => []
  | e :: es, s => e.acts s ++ App.acts es (App.step e s)

/-! ### One event -/

theorem Command.apply_eq (c : Command) (m : Collection) : c.apply m = updatePoint Command.key Command.act c m := by
  cases c with
  | add k a =>
    simp only [Command.apply, updatePoint, Command.key, Command.act]
    cases h : m k with
    | none => simp
    | some b =>
      rw [Option.isSome_some, if_pos rfl, Option.getD_some, ← h, Function.update_eq_self]
  | addOrSetStatus k a =>
    simp only [Command.apply, updatePoint, Command.key, Command.act]
    cases m k <;> rfl
  | setStatus k status => rfl
  | remove k => rfl

theorem seen_of_mem_view {c : Context GameSave} (h : (keys GameSave.gameId c.view).Nodup) {i : ObjectID} {g : GameSave}
    (hg : (i, g) ∈ c.view) : seen c g.gameId = some g.saved := by
  have hl : lookup GameSave.gameId c.view g.gameId = some g := (lookup_eq_some_iff h).mpr ⟨i, hg, rfl⟩
  rw [seen, hl, Option.map_some]

theorem seen_eq_none_iff {c : Context GameSave} {k : Int32} : seen c k = none ↔ k ∉ keys GameSave.gameId c.view := by
  rw [seen, Option.map_eq_none_iff, lookup_eq_none_iff]

/-- The records of the view, read by `game_id`, with a change made to it. -/
def seenAfter (ch : Change GameSave) (c : Context GameSave) : Collection :=
  fun k => (lookup GameSave.gameId (ch.apply c.view) k).map GameSave.saved

theorem seenAfter_insertion {c : Context GameSave} {game : Game} {gameId : Int64} {status : String}
    (hf : firstWithID gameId c = none) :
    seenAfter (insertion game gameId status c) c =
      Function.update (seen c) gameId.toInt32 (some (game.saved status)) := by
  have hl := lookup_insert (a := game.toGameSave gameId status) (firstWithID_eq_none_iff_notMem.mp hf) c.next
  funext k
  rw [seenAfter, insertion, hl]
  by_cases hk : k = gameId.toInt32
  · subst hk
    simp
  · simp [seen, Function.update_of_ne hk]

theorem seenAfter_update {c : Context GameSave} (h : (keys GameSave.gameId c.view).Nodup) {i : ObjectID} {g : GameSave}
    (hg : (i, g) ∈ c.view) (status : String) :
    seenAfter (.update i (GameSave.setStatus status)) c = (Command.setStatus g.gameId status).apply (seen c) := by
  have hl := lookup_update c.view_nodup h (GameSave.gameId_setStatus status) hg
  funext k
  simp only [Command.apply, seen_of_mem_view h hg, Option.map_some, seenAfter, hl]
  by_cases hk : k = g.gameId
  · subst hk
    simp [GameSave.saved, GameSave.setStatus]
  · simp [seen, Function.update_of_ne hk]

theorem seenAfter_delete {c : Context GameSave} (h : (keys GameSave.gameId c.view).Nodup) {i : ObjectID} {g : GameSave}
    (hg : (i, g) ∈ c.view) : seenAfter (.delete i) c = (Command.remove g.gameId).apply (seen c) := by
  have hl := lookup_delete c.view_nodup h hg
  funext k
  simp only [Command.apply, seenAfter, hl]
  by_cases hk : k = g.gameId
  · subst hk
    simp
  · simp [seen, Function.update_of_ne hk]

/-- What the object of a row still has. -/
theorem App.keptGameID_of_mem {s : App} {row : ℕ} {i : ObjectID} {g : GameSave} (hr : s.profile.results[row]? = some i)
    (hg : (i, g) ∈ s.context.view) : s.keptGameID row = some g.gameId := by
  have hf : s.context.view.find? (fun r => r.1 = i) = some (i, g) := by
    cases hf : s.context.view.find? (fun r => r.1 = i) with
    | none => exact absurd (List.find?_eq_none.mp hf _ hg) (by simp)
    | some r =>
      obtain ⟨j, b⟩ := r
      obtain rfl : j = i := by simpa using List.find?_some hf
      rw [eq_of_mem_of_nodup s.context.view_nodup (List.mem_of_find?_eq_some hf) hg]
  rw [App.keptGameID, hr, Option.bind_some, hf, Option.map_some]

theorem App.keptGameID_of_notMem {s : App} {row : ℕ} {i : ObjectID} (hr : s.profile.results[row]? = some i)
    (hi : i ∉ ids s.context.view) : s.keptGameID row = none := by
  have hf : s.context.view.find? (fun r => r.1 = i) = none :=
    List.find?_eq_none.mpr fun r hr he => hi (of_decide_eq_true he ▸ mem_ids_of_mem hr)
  rw [App.keptGameID, hr, Option.bind_some, hf, Option.map_none]

/-- **The change an operation asks for is its command**, on what a fetch sees. -/
theorem seenAfter_change {s : App} {o : Op} {f : Faults} {call : Call} {ch : Change GameSave}
    (h : (keys GameSave.gameId s.context.view).Nodup) (hc : o.call s = some call)
    (hch : call.change f s.context = some ch) :
    seenAfter ch s.context = reach Command.apply (o.keptCommand s).toList (seen s.context) := by
  cases o with
  | homeSave game status =>
    cases hc
    obtain ⟨gameId, hg, hf, rfl⟩ := Call.change_homeSave hch
    have hn : seen s.context gameId.toInt32 = none := seen_eq_none_iff.mpr (firstWithID_eq_none_iff_notMem.mp hf)
    simp [seenAfter_insertion hf, Op.keptCommand, Op.command, hg, Command.apply, hn]
  | save game status =>
    cases hc
    obtain ⟨gameId, hg, ⟨i, hi, rfl⟩ | ⟨hf, rfl⟩⟩ := Call.change_save hch
    · obtain ⟨g, hm, hk⟩ := mem_view_of_firstWithID hi
      simp [seenAfter_update h hm, Op.keptCommand, Op.command, hg, ← hk, Command.apply, seen_of_mem_view h hm,
        Game.saved]
    · have hn : seen s.context gameId.toInt32 = none := seen_eq_none_iff.mpr (firstWithID_eq_none_iff_notMem.mp hf)
      simp [seenAfter_insertion hf, Op.keptCommand, Op.command, hg, Command.apply, hn]
  | update gameID status =>
    cases hc
    obtain ⟨i, hi, rfl⟩ := Call.change_updateByID hch
    obtain ⟨g, hm, hk⟩ := mem_view_of_firstWithID hi
    simp [seenAfter_update h hm, Op.keptCommand, Op.command, hk]
  | delete gameID =>
    cases hc
    obtain ⟨i, hi, rfl⟩ := Call.change_deleteByID hch
    obtain ⟨g, hm, hk⟩ := mem_view_of_firstWithID hi
    simp [seenAfter_delete h hm, Op.keptCommand, Op.command, hk]
  | updateRow row status =>
    obtain ⟨i, hr, rfl⟩ := Option.map_eq_some_iff.mp hc
    cases hch
    by_cases hi : i ∈ ids s.context.view
    · obtain ⟨g, hm⟩ := mem_ids.mp hi
      simp [seenAfter_update h hm, Op.keptCommand, App.keptGameID_of_mem hr hm]
    · funext k
      simp [seenAfter, seen, update_of_notMem hi, Op.keptCommand, App.keptGameID_of_notMem hr hi]
  | deleteRow row =>
    obtain ⟨i, hr, rfl⟩ := Option.map_eq_some_iff.mp hc
    cases hch
    by_cases hi : i ∈ ids s.context.view
    · obtain ⟨g, hm⟩ := mem_ids.mp hi
      simp [seenAfter_delete h hm, Op.keptCommand, App.keptGameID_of_mem hr hm]
    · funext k
      simp [seenAfter, seen, delete_of_notMem hi, Op.keptCommand, App.keptGameID_of_notMem hr hi]
  | loadProfile => cases hc
  | fetchAll => cases hc
  | fetchStatus status => cases hc
  | selectSegment index => cases hc
  | reload => cases hc

theorem collection_congr {c d : Context GameSave} (h : Context.Same c d) : collection c = collection d := by
  have hs : stored c = stored d := by
    funext k
    rw [stored, stored, h.store]
  have hv : seen c = seen d := by
    funext k
    rw [seen, seen, h.view]
  rw [collection, collection, hs, hv]

theorem collection_save (c : Context GameSave) : collection c.save = .settled (seen c) := rfl

theorem collection_restart (c : Context GameSave) : collection c.restart = .settled (stored c) := rfl

/-- The commands an operation asks for, carried out on what a fetch sees. -/
theorem reach_exec_ask (cs : List Command) (d : Durable Collection) :
    reach (Act.exec Command.apply) (cs.map .ask) d = ⟨d.written, reach Command.apply cs d.seen⟩ := by
  induction cs generalizing d with
  | nil => rfl
  | cons c cs ih => exact ih _

/-- A change left pending is seen, and not written. -/
theorem collection_make {c : Context GameSave} {ch : Change GameSave} (hv : (c.make ch).view = ch.apply c.view) :
    collection (c.make ch) = ⟨stored c, seenAfter ch c⟩ := by
  have hs : stored (c.make ch) = stored c := by
    funext k
    rw [stored, c.store_make, stored]
  have hs' : seen (c.make ch) = seenAfter ch c := by
    funext k
    rw [seen, hv, seenAfter]
  rw [collection, hs, hs']

/-- An operation that does not trap does its acts to the collection. -/
theorem collection_op {f : Faults} {o : Op} {s s' : App} (h : Unique s.context) (ho : o.exec f s = .ok s') :
    collection s'.context = reach (Act.exec Command.apply) (o.acts f s) (collection s.context) := by
  rw [collection_congr (exec_context ho), Op.callExec, Op.acts]
  cases hc : o.call s with
  | none => rfl
  | some call =>
    dsimp only
    rw [Call.exec]
    cases hch : call.change f s.context with
    | none => rfl
    | some ch =>
      have hm := collection_make
        (s.context.view_make fun i g hi => (Call.change_insert (hch.trans (congrArg some hi))).1)
      have hs := congrArg Durable.seen hm
      rw [seenAfter_change h.view hc hch] at hm hs
      simp only [Option.isSome_some, if_true, reach_append, reach_exec_ask]
      cases call.saveThrows f s.context with
      | true => exact hm
      | false => exact (collection_save _).trans (congrArg Durable.settled hs)

/-- **An event does its acts to the collection.** -/
theorem collection_step {s : App} (h : Unique s.context) (e : Event) :
    collection (App.step e s).context = reach (Act.exec Command.apply) (e.acts s) (collection s.context) := by
  cases e with
  | op o f =>
    cases ho : o.exec f s with
    | ok s' =>
      simp only [App.step, Event.acts, ho]
      exact collection_op h ho
    | error t =>
      simp only [App.step, Event.acts, ho]
      exact collection_restart s.context
  | enterBackground saveThrows =>
    cases hc : s.context.hasChanges with
    | false => simp [App.step, Event.acts, AppDelegate.saveContext, hc]
    | true =>
      cases saveThrows with
      | true =>
        simp only [App.step, Event.acts, AppDelegate.saveContext, hc, if_true]
        exact collection_restart s.context
      | false =>
        simp only [App.step, Event.acts, AppDelegate.saveContext, hc, if_true, Bool.false_eq_true, if_false]
        exact collection_save s.context
  | kill => exact collection_restart s.context

/-! ### A run -/

theorem App.acts_append (es es' : List Event) (s : App) :
    App.acts (es ++ es') s = App.acts es s ++ App.acts es' (reach App.step es s) := by
  induction es generalizing s with
  | nil => rfl
  | cons e es ih => rw [List.cons_append, App.acts, ih, App.acts, List.append_assoc, reach_cons]

/-- A run does its acts to the collection. -/
theorem collection_reach (es : List Event) {s : App} (h : Unique s.context) :
    collection (reach App.step es s).context =
      reach (Act.exec Command.apply) (App.acts es s) (collection s.context) := by
  induction es generalizing s with
  | nil => rfl
  | cons e es ih => rw [reach_cons, ih (unique_step e s h), collection_step h, App.acts, reach_append]

/-- The commands of a run from the first launch that are written, and those that are seen. -/
def commands (es : List Event) : Durable (List Command) := logged (App.acts es App.launch)

/-- The collection is what its commands make of the empty one. -/
theorem collection_launch (es : List Event) : collection (reach App.step es App.launch).context =
    (commands es).map fun l => reach Command.apply l fun _ => none := by
  rw [collection_reach es (s := App.launch) (unique_reach []), commands, ← reach_exec]
  rfl

/-- What is written stays written. -/
theorem commands_written_prefix (es es' : List Event) : (commands es).written <+: (commands (es ++ es')).written := by
  rw [commands, commands, App.acts_append]
  exact written_prefix_append _ _

/-- **The collection is a replay of its commands.** Whatever throws, and whenever the app
is sent to the background or killed: the collection written is what the commands
written make of the empty one, and the collection a fetch sees is what the commands seen make of it. No
command is carried out twice or before one asked earlier, those written come first, and they stay written. -/
theorem collection_eq_replay (es : List Event) :
    stored (reach App.step es App.launch).context = reach Command.apply (commands es).written (fun _ => none) ∧
    seen (reach App.step es App.launch).context = reach Command.apply (commands es).seen (fun _ => none) ∧
    (commands es).written <+: (commands es).seen ∧
    (commands es).seen.Sublist (asked (App.acts es App.launch)) ∧
    ∀ es', (commands es).written <+: (commands (es ++ es')).written := by
  have hc := collection_launch es
  exact ⟨congrArg Durable.written hc, congrArg Durable.seen hc, written_prefix_seen _, seen_sublist_asked _,
    commands_written_prefix es⟩

theorem apply_eq_updatePoint : Command.apply = updatePoint Command.key Command.act := by
  funext c m
  exact c.apply_eq m

/-- **A record is what the commands about its `game_id` make of it**, in every state reached: what is done to records
with other `game_id`s, and in which order, does not show. -/
theorem stored_game (es : List Event) (k : Int32) :
    stored (reach App.step es App.launch).context k =
      reach Command.act ((commands es).written.filter fun c => c.key = k) none ∧
    seen (reach App.step es App.launch).context k =
      reach Command.act ((commands es).seen.filter fun c => c.key = k) none := by
  have hc := collection_launch es
  have hw : stored (reach App.step es App.launch).context = _ := congrArg Durable.written hc
  have hs : seen (reach App.step es App.launch).context = _ := congrArg Durable.seen hc
  rw [hw, hs, apply_eq_updatePoint]
  exact ⟨reach_updatePoint _ _ _, reach_updatePoint _ _ _⟩

/-! ### What a crash leaves -/

/-- The event writes to the store. -/
def Event.Writes (s : App) (e : Event) : Prop := Act.write ∈ e.acts s

/-- An operation that writes leaves the store as a fetch sees it; one that does not, as it was. -/
theorem store_op {f : Faults} {o : Op} {s s' : App} (ho : o.exec f s = .ok s') :
    (Act.write ∈ o.acts f s → s'.context.store = s'.context.view) ∧
      (Act.write ∉ o.acts f s → s'.context.store = s.context.store) := by
  have hs := exec_context ho
  rw [hs.store, hs.view, Op.callExec, Op.acts]
  cases o.call s with
  | none => exact ⟨fun hw => absurd hw List.not_mem_nil, fun _ => rfl⟩
  | some call =>
    dsimp only
    rw [Call.exec]
    cases call.change f s.context with
    | none => exact ⟨fun hw => absurd hw List.not_mem_nil, fun _ => rfl⟩
    | some ch =>
      cases call.saveThrows f s.context with
      | true => exact ⟨fun hw => by simp at hw, fun _ => s.context.store_make ch⟩
      | false => exact ⟨fun _ => rfl, fun hw => absurd hw (by simp)⟩

/-- An event that writes leaves the store as a fetch sees it; one that does not, as it was. -/
theorem store_step (e : Event) (s : App) :
    (e.Writes s → (App.step e s).context.store = (App.step e s).context.view) ∧
      (¬e.Writes s → (App.step e s).context.store = s.context.store) := by
  unfold Event.Writes
  cases e with
  | op o f =>
    cases ho : o.exec f s with
    | ok s' =>
      simp only [App.step, Event.acts, ho]
      exact store_op ho
    | error t =>
      simp only [App.step, Event.acts, ho]
      exact ⟨fun hw => by simp at hw, fun _ => rfl⟩
  | enterBackground saveThrows =>
    cases hc : s.context.hasChanges with
    | false =>
      simp only [App.step, Event.acts, AppDelegate.saveContext, hc, Bool.false_eq_true, if_false]
      exact ⟨fun hw => absurd hw List.not_mem_nil, fun _ => trivial⟩
    | true =>
      cases saveThrows with
      | true =>
        simp only [App.step, Event.acts, AppDelegate.saveContext, hc, if_true]
        exact ⟨fun hw => by simp at hw, fun _ => rfl⟩
      | false =>
        simp only [App.step, Event.acts, AppDelegate.saveContext, hc, if_true, Bool.false_eq_true, if_false]
        exact ⟨fun _ => rfl, fun hw => absurd hw (by simp)⟩
  | kill => exact ⟨fun hw => by simp [Event.acts] at hw, fun _ => rfl⟩

/-- **What a crash leaves is a whole past collection**: the records a fetch saw right after the last event that wrote,
or none if no event has written. -/
theorem store_eq_view_earlier (es : List Event) : ∃ n ≤ es.length,
    (reach App.step es App.launch).context.store = (reach App.step (es.take n) App.launch).context.view ∧
    (∀ m e, es[m]? = some e → (m + 1 = n → e.Writes (reach App.step (es.take m) App.launch)) ∧
      (n ≤ m → ¬e.Writes (reach App.step (es.take m) App.launch))) := by
  induction es using List.reverseRecOn with
  | nil => exact ⟨0, Nat.le_refl _, rfl, fun m e he => by simp at he⟩
  | append_singleton es e ih =>
    rw [reach_append]
    by_cases hw : e.Writes (reach App.step es App.launch)
    · -- the last event writes: it is the one
      refine ⟨es.length + 1, by simp, ?_, fun m e' he => ⟨fun hm => ?_, fun hm => ?_⟩⟩
      · rw [List.take_of_length_le (by simp), reach_append]
        exact (store_step e _).1 hw
      · obtain rfl : m = es.length := by omega
        obtain rfl : e = e' := by simpa using he
        rwa [List.take_left]
      · rw [List.getElem?_eq_none (by simpa using hm)] at he
        cases he
    · obtain ⟨n, hn, hs, hm⟩ := ih
      refine ⟨n, by simp; omega, ?_, fun m e' he => ?_⟩
      · rw [List.take_append_of_le_length hn, ← hs]
        exact (store_step e _).2 hw
      · have hlt : m < (es ++ [e]).length := (List.getElem?_eq_some_iff.mp he).1
        rw [List.length_append, List.length_singleton] at hlt
        rcases Nat.lt_succ_iff_lt_or_eq.mp hlt with hlt | rfl
        · rw [List.take_append_of_le_length (Nat.le_of_lt hlt)]
          exact hm m e' (by rwa [List.getElem?_append_left hlt] at he)
        · obtain rfl : e = e' := by simpa using he
          rw [List.take_left]
          exact ⟨fun he => absurd he (by omega), fun _ => hw⟩

theorem collection_of_writes {e : Event} {s : App} (hw : e.Writes s) :
    collection (App.step e s).context = .settled (seen (App.step e s).context) := by
  have hs : stored (App.step e s).context = seen (App.step e s).context := by
    funext k
    rw [stored, (store_step e s).1 hw, seen]
  rw [collection, hs, Durable.settled]

/-- **What is written is lost to no crash and no failure**: after an event that writes, what is written and what is
seen of a `game_id` stay what a fetch saw of it then, until a command about that `game_id` is asked. -/
theorem kept_until_asked {es es' : List Event} {e : Event} {k : Int32}
    (hw : e.Writes (reach App.step es App.launch))
    (hk : ∀ c ∈ asked (App.acts es' (reach App.step (es ++ [e]) App.launch)), c.key ≠ k) :
    stored (reach App.step (es ++ e :: es') App.launch).context k =
      seen (reach App.step (es ++ [e]) App.launch).context k ∧
    seen (reach App.step (es ++ e :: es') App.launch).context k =
      seen (reach App.step (es ++ [e]) App.launch).context k := by
  have hsplit : reach App.step (es ++ e :: es') App.launch =
      reach App.step es' (reach App.step (es ++ [e]) App.launch) := by
    rw [← reach_append, List.append_assoc]
    rfl
  have hset : collection (reach App.step (es ++ [e]) App.launch).context =
      .settled (seen (reach App.step (es ++ [e]) App.launch).context) := by
    rw [reach_append]
    exact collection_of_writes hw
  have hb : (reach (Act.exec Command.apply) (App.acts es' (reach App.step (es ++ [e]) App.launch))
      (collection (reach App.step (es ++ [e]) App.launch).context)).Both
      fun m => m k = seen (reach App.step (es ++ [e]) App.launch).context k := by
    rw [hset]
    refine Durable.Both.reach_exec (fun c hc m hm => ?_) (Durable.both_settled rfl)
    rw [c.apply_eq, updatePoint_of_ne (hk c hc), hm]
  rw [← collection_reach es' (unique_reach (es ++ [e])), ← hsplit] at hb
  exact ⟨hb.written, hb.seen⟩

/-- A kill, a failed save of game 8, and a fetch that traps: a second kill. -/
def crashes : List Event := [.kill, .op (.homeSave (.bare 8) "To Play") { save := true }, .op .fetchAll .none]

theorem kept_until_asked_crashes :
    stored (reach App.step ([] ++ .op (.homeSave (.bare 7) "Played") .none :: crashes) App.launch).context 7 =
      seen (reach App.step ([] ++ [.op (.homeSave (.bare 7) "Played") .none]) App.launch).context 7 ∧
    seen (reach App.step ([] ++ .op (.homeSave (.bare 7) "Played") .none :: crashes) App.launch).context 7 =
      seen (reach App.step ([] ++ [.op (.homeSave (.bare 7) "Played") .none]) App.launch).context 7 :=
  kept_until_asked (List.mem_cons_of_mem _ List.mem_cons_self) fun c hc => by
    obtain rfl := List.mem_singleton.mp hc
    decide

end Booster
