import Booster.Session.Actions
import Booster.Collection.Unique

/-!
# The segments partition the collection

A status is a free string in the data model. The four menus write four of them, the
titles of the Profile segments other than "All" (`statuses`), and every record is
inserted with one. So every record ever written, pending, or held in memory has
one of the four (`Statused`), whatever fails and however late it is written
(`statused_reach`). The four fetches by status are then disjoint and together the
whole collection, and no record opened from Home is without a status
(`segments_partition`).
-/

namespace Booster

open Theory

namespace ProfileController

/-- The titles of the segments other than "All". -/
def statuses : List String := titles.tail

end ProfileController

open ProfileController

/-- A record with one of the four statuses. -/
def Statused (g : GameSave) : Prop := g.status ∈ statuses.map some

theorem statused_toGameSave {status : String} (h : status ∈ statuses) (game : Game) (gameId : Int64) :
    Statused (game.toGameSave gameId status) :=
  List.mem_map_of_mem h

theorem statused_setStatus {status : String} (h : status ∈ statuses) (g : GameSave) :
    Statused (g.setStatus status) :=
  List.mem_map_of_mem h

/-! ### The menus write the four statuses -/

theorem mem_statuses_homeActions : ∀ title ∈ MyRootViewController.addActions, title ∈ statuses := by decide

theorem mem_statuses_addActions : ∀ action ∈ DetailVC.addActions, action.status ∈ statuses := by decide

/-- The status an action of the change menu writes, if it writes one. -/
def DetailVC.ChangeAction.status : ChangeAction → Option String
  | .update _ status _ => some status
  | .delete _ => none

theorem mem_statuses_changeActions :
    ∀ action ∈ DetailVC.changeActions, ∀ status ∈ action.status, status ∈ statuses := by decide

/-- The status an action of a row's menu writes, if it writes one. -/
def ProfileController.RowAction.status : RowAction → Option String
  | .update _ status => some status
  | .delete _ => none

theorem mem_statuses_rowActions : ∀ action ∈ rowActions, ∀ status ∈ action.status, status ∈ statuses := by decide

/-- The status an operation writes, if it writes one. -/
def Op.status : Op → Option String
  | .homeSave _ status | .save _ status | .update _ status | .updateRow _ status => some status
  | _ => none

theorem Op.status_call {o : Op} {s : App} {call : Call} (h : o.call s = some call) : call.status = o.status := by
  cases o with
  | homeSave game status => rw [← Option.some.inj h]; rfl
  | save game status => rw [← Option.some.inj h]; rfl
  | update gameID status => rw [← Option.some.inj h]; rfl
  | delete gameID => rw [← Option.some.inj h]; rfl
  | updateRow row status =>
    obtain ⟨i, -, rfl⟩ := Option.map_eq_some_iff.mp h
    rfl
  | deleteRow row =>
    obtain ⟨i, -, rfl⟩ := Option.map_eq_some_iff.mp h
    rfl
  | loadProfile => cases h
  | fetchAll => cases h
  | fetchStatus status => cases h
  | selectSegment index => cases h
  | reload => cases h

/-- What the operations of the detail screen's menu write. -/
theorem DetailVC.mem_statuses_ops {item : ℕ} {f : Faults} {vc : DetailVC} {p : Op × Faults}
    (hp : p ∈ vc.ops item f) {status : String} (hs : p.1.status = some status) : status ∈ statuses := by
  rcases DetailVC.ops_cases hp with
    ⟨game, action, ha, rfl⟩ | ⟨gameID, title, status', label, ha, rfl⟩ | ⟨gameID, rfl⟩ | rfl
  · exact Option.some.inj hs ▸ mem_statuses_addActions action ha
  · exact Option.some.inj hs ▸ mem_statuses_changeActions _ ha status' rfl
  · cases hs
  · cases hs

/-- What the operations of an action write. -/
theorem mem_statuses_ops {f : Faults} {s : Session} {a : Action} {p : Op × Faults} (hp : p ∈ a.ops f s)
    {status : String} (hs : p.1.status = some status) : status ∈ statuses := by
  rcases Action.ops_cases hp with
    (rfl | ⟨index, rfl⟩) | ⟨game, title, ht, rfl⟩ | ⟨row, title, status', ha, rfl⟩ | ⟨row, rfl⟩ | ⟨item, vc, hp⟩
  · cases hs
  · cases hs
  · exact Option.some.inj hs ▸ mem_statuses_homeActions title ht
  · exact Option.some.inj hs ▸ mem_statuses_rowActions _ ha status' rfl
  · cases hs
  · exact DetailVC.mem_statuses_ops hp hs

/-! ### Every record has one -/

/-- A call that writes one of the four statuses, or none, keeps every record's. -/
theorem statused_callExec {f : Faults} {call : Call} {c : Context GameSave} (h : c.Everywhere Statused)
    (hs : ∀ status, call.status = some status → status ∈ statuses) : (call.exec f c).Everywhere Statused := by
  unfold Call.exec
  cases hc : call.change f c with
  | none => exact h
  | some ch =>
    have hm : (c.make ch).Everywhere Statused := by
      refine h.make (fun i g hi => ?_) fun i u hu g _ => ?_
      · rcases Call.change_cases hc with ⟨game, gameId, status, -, -, hst, -, rfl⟩ | ⟨_, _, -, rfl⟩ | ⟨_, rfl⟩
        · cases hi
          exact statused_toGameSave (hs status hst) game gameId
        · cases hi
        · cases hi
      · obtain ⟨status, hst, rfl⟩ := Call.change_update (hu ▸ hc)
        exact statused_setStatus (hs status hst) g
    cases call.saveThrows f c with
    | true => exact hm
    | false => exact hm.save

/-- An operation that writes one of the four statuses, or none, keeps every record's. -/
theorem statused_op {f : Faults} {o : Op} {s s' : App} (h : s.context.Everywhere Statused)
    (hs : ∀ status, o.status = some status → status ∈ statuses) (ho : o.exec f s = .ok s') :
    s'.context.Everywhere Statused := by
  refine Context.Everywhere.congr ?_ (exec_context ho)
  unfold Op.callExec
  cases hc : o.call s with
  | none => exact h
  | some call => exact statused_callExec h (Op.status_call hc ▸ hs)

/-- An action keeps every record's status one of the four. -/
theorem statused_action {f : Faults} {a : Action} {s s' : Session} (h : s.app.context.Everywhere Statused)
    (ha : s.step f a = .ok s') : s'.app.context.Everywhere Statused := by
  refine Session.step_inv (I := fun s : App => s.context.Everywhere Statused) ?_ ?_ (fun _ ht => ht.restart) h ha
  · intro p hp _ _ hi hs
    exact statused_op hi (fun _ => mem_statuses_ops hp) hs
  · intro t ht
    unfold SceneDelegate.setRootViewTabbar SceneDelegate.updateProfileBadgeValue
    split <;> exact ht

theorem statused_next (e : Session.Event) (s : Session) (h : s.app.context.Everywhere Statused) :
    (s.next e).app.context.Everywhere Statused := by
  cases e with
  | act a f =>
    cases ha : s.step f a with
    | ok s' =>
      simp only [Session.next, ha]
      exact statused_action h ha
    | error t =>
      simp only [Session.next, ha]
      exact h.restart
  | enterBackground saveThrows =>
    cases hc : AppDelegate.saveContext saveThrows s.app.context with
    | error t =>
      simp only [Session.next, hc]
      exact h.restart
    | ok context =>
      simp only [Session.next, hc]
      unfold AppDelegate.saveContext at hc
      split at hc
      · split at hc
        · cases hc
        · cases hc
          exact h.save
      · cases hc
        exact h
  | kill => exact h.restart

/-- In every state of every session, every record has one of the four statuses. -/
theorem statused_reach (es : List Session.Event) :
    (reach Session.next es Session.launch).app.context.Everywhere Statused :=
  reach_inv (I := fun s : Session => s.app.context.Everywhere Statused) statused_next es
    (Context.everywhere_empty Statused)

/-! ### The segments -/

theorem statuses_nodup : (statuses.map some).Nodup := by decide

/-- One of the four statuses is the title of exactly one segment, and not of the first. -/
theorem existsUnique_segment {status : Option String} (h : status ∈ statuses.map some) :
    ∃! index, 0 < index ∧ ∃ title, titles[index]? = some title ∧ status = some title := by
  obtain ⟨title, ht, rfl⟩ := List.mem_map.mp h
  obtain ⟨k, hk⟩ := List.mem_iff_getElem?.mp ht
  have hk' : titles[k + 1]? = some title := hk
  refine ⟨k + 1, ⟨Nat.succ_pos k, title, hk', rfl⟩, ?_⟩
  rintro j ⟨-, t, hj, hjt⟩
  obtain rfl : title = t := Option.some.inj hjt
  exact (List.getElem?_inj (List.getElem?_eq_some_iff.mp hj).1 (by decide)).mp (hj.trans hk'.symm)

/-- A tap on a game saved with a status does not trap on the status. -/
theorem imageTapped_ne_status {s : App} (h : s.context.Everywhere Statused) (game : Game) (throws : Bool) :
    MyRootViewController.imageTapped game throws s ≠ .error (.unwrapNil "gameToUpdate.status") := by
  intro he
  unfold MyRootViewController.imageTapped at he
  cases hg : game.gameId with
  | none =>
    simp only [hg, force_none, bind, Except.bind, Except.error.injEq, Trap.unwrapNil.injEq] at he
    revert he
    decide
  | some gameId =>
    simp only [hg, force_some, bind, Except.bind] at he
    split at he
    · cases he
    split at he
    next i l hf =>
      obtain ⟨g, hm, -⟩ := s.context.mem_fetch.mp (hf ▸ List.mem_cons_self : i ∈ s.context.fetch _)
      obtain ⟨title, -, ht⟩ := List.mem_map.mp (h.view _ hm)
      rw [s.context.memory_of_mem_view hm, Option.bind_some, ← ht, force_some] at he
      exact absurd (DetailVC.mem_traps_of_viewDidLoad he) (by decide)
    next hf => exact absurd (DetailVC.mem_traps_of_viewDidLoad he) (by decide)

/-- **The segments partition the collection.** In every state of every session, whatever
fails: every record a fetch sees has a status, the title of exactly one segment other
than "All"; the four lists by status are disjoint, and together, each record as often as it occurs, they are
the list of everything; the functions that fill the Profile list with them return, once its view is loaded; and no
tap on a Home cell traps on a missing status. -/
theorem segments_partition (es : List Session.Event) :
    let s := (reach Session.next es Session.launch).app
    (∀ r ∈ s.context.view,
      ∃! index, 0 < index ∧ ∃ title, titles[index]? = some title ∧ r.2.status = some title) ∧
    (statuses.map fun status => s.context.fetch (hasStatus status)).Pairwise List.Disjoint ∧
    (statuses.map fun status => s.context.fetch (hasStatus status)).flatten.Perm
      (s.context.fetch fun _ => true) ∧
    (∀ status s', fetchGamesWithStatus status false s = .ok s' →
      s'.profile.results = s.context.fetch (hasStatus status)) ∧
    (∀ s', fetchGamesFromCoreData false s = .ok s' → s'.profile.results = s.context.fetch fun _ => true) ∧
    (s.profile.collectionView ≠ none → ∀ throws,
      (∀ status, ∃ s', fetchGamesWithStatus status throws s = .ok s') ∧
      ∃ s', fetchGamesFromCoreData throws s = .ok s') ∧
    ∀ game throws,
      MyRootViewController.imageTapped game throws s ≠ .error (.unwrapNil "gameToUpdate.status") := by
  intro s
  have h : s.context.Everywhere Statused := statused_reach es
  have hp := s.context.fetch_partition GameSave.status statuses_nodup h.view
  rw [List.map_map] at hp
  refine ⟨fun r hr => existsUnique_segment (h.view r hr), hp.1, hp.2, fun status s' hs => ?_, fun s' hs => ?_,
    fun hl throws => ⟨fun status => ?_, ?_⟩, imageTapped_ne_status h⟩
  · exact results_of_fetchResults hs
  · exact results_of_fetchResults hs
  · exact fetchResults_ok hl (hasStatus status) throws
  · exact fetchResults_ok hl (fun _ => true) throws

end Booster
