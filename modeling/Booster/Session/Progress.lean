import Booster.Session.Safety
import Booster.Session.Effects
import Booster.Collection.OfferedRows
import Booster.Session.Label

/-!
# When an action traps

The handlers of the user's actions have some twenty expressions that can trap. In a state reached by a session
most of them cannot: the list has rows only once its view is loaded, an object listed holds a
record, every record has a status, and the detail screen is opened to add only a game with a
`gameId` and reloads only a Profile screen with a view (`Session.Intact`, kept by every event
whatever fails). What is left is a condition on the action, on the game or the row
it is about (`Action.Safe`), and `traps_iff` says that it is exact. When nothing fails, the list shows the rows it has;
so an action on a showable game, or on a row that is on the screen, does not trap (`no_trap_on_screen`).

This is about the handler itself, up to where it returns: what the detail screen then requests is answered later,
and can trap in its own ways (`OpenScreen`). And a row of the list can be of an object deleted and committed
meanwhile, which is assumed to keep its record (`Context`).
-/

namespace Booster

open Theory

/-- The rows of the Profile list are objects that hold a record, in a view that is loaded. -/
structure App.Held (s : App) : Prop where
  /-- A list with rows has a view. -/
  loaded : s.profile.results ≠ [] → s.profile.collectionView ≠ none
  /-- Each row's object holds a record. -/
  memory : ∀ i ∈ s.profile.results, s.context.memory i ≠ none

/-- What the detail screen presented is opened to do can be done. -/
structure DetailVC.Held (s : App) (vc : DetailVC) : Prop where
  /-- It adds a game that has a `gameId`. -/
  adds : vc.tapGesture = some .addButtonTapped → ∃ game, vc.game = some game ∧ game.gameId ≠ none
  /-- It reloads a Profile screen that has a view. -/
  reloads : vc.reloadDelegate = true → s.profile.collectionView ≠ none

/-- What no event of a session breaks. -/
structure Session.Intact (s : Session) : Prop where
  /-- The Profile list. -/
  list : s.app.Held
  /-- The records. -/
  statused : s.app.context.Everywhere Statused
  /-- The detail screen. -/
  detail : ∀ vc ∈ s.detail, vc.Held s.app

/-- What an action needs of the game or the row it is about. -/
def Action.Safe (f : Faults) (s : Session) : Action → Prop
  | .homeAdd game item => item < MyRootViewController.addActions.length → game.gameId ≠ none
  | .homeOpen game => game.gameId ≠ none ∧ (f.fetch = false → ({} : DetailVC).Loads game)
  | .profileOpen row => row < s.app.profile.results.length
  | .rowMenu row item =>
    item < ProfileController.rowActions.length → row < s.app.profile.results.length
  | .visitProfile | .chooseSegment _ | .detailChoose _ | .detailDismiss | .logout | .login | .relaunch => True

/-! ### The list -/

/-- What an operation leaves of the list: its view, if it had one, and rows it had, or the objects of a fetch. -/
structure App.Relists (s s' : App) : Prop where
  /-- A view loaded stays loaded. -/
  loaded : s.profile.collectionView ≠ none → s'.profile.collectionView ≠ none
  /-- The rows are among those before, or fetched into a view. -/
  rows : s'.profile.results ⊆ s.profile.results ∨
    s'.profile.collectionView ≠ none ∧ ∃ p, s'.profile.results = s'.context.fetch p

theorem App.Relists.of_profile_eq {s s' : App} (h : s'.profile = s.profile) : s.Relists s' := by
  refine ⟨fun hl => ?_, .inl fun i hi => ?_⟩
  · rwa [h]
  · rwa [h] at hi

namespace ProfileController

theorem relists_fetchResults {p : GameSave → Bool} {throws : Bool} {s s' : App}
    (h : fetchResults p throws s = .ok s') : s.Relists s' := by
  cases throws with
  | true =>
    simp only [fetchResults, if_true, Except.ok.injEq] at h
    subst h
    exact ⟨id, .inl (List.nil_subset _)⟩
  | false =>
    simp only [fetchResults, Bool.false_eq_true, if_false, reloadCollectionView_eq_ok_iff] at h
    obtain ⟨-, rfl⟩ := h
    exact ⟨fun _ => Option.some_ne_none _, .inr ⟨Option.some_ne_none _, p, rfl⟩⟩

theorem relists_postReloadProfileData {throws : Bool} {s s' : App}
    (h : postReloadProfileData throws s = .ok s') : s.Relists s' := by
  unfold postReloadProfileData at h
  cases hc : s.profile.collectionView with
  | none =>
    simp only [hc, Except.ok.injEq] at h
    exact .of_profile_eq (h ▸ rfl)
  | some n =>
    simp only [hc] at h
    exact relists_fetchResults h

theorem relists_reloadData {throws : Bool} {s s' : App} (h : reloadData throws s = .ok s') : s.Relists s' := by
  obtain ⟨t, ht, h⟩ := bind_eq_ok_iff.mp h
  have hr := relists_fetchResults ht
  obtain ⟨-, rfl⟩ := reloadCollectionView_eq_ok_iff.mp h
  exact ⟨fun _ => Option.some_ne_none _, hr.rows.imp_right fun hf => ⟨Option.some_ne_none _, hf.2⟩⟩

end ProfileController

/-- An operation relists. -/
theorem relists_exec {o : Op} {f : Faults} {s s' : App} (h : o.exec f s = .ok s') : s.Relists s' := by
  cases o with
  | homeSave game status =>
    obtain ⟨gameId, -, ⟨-, rfl⟩ | ⟨-, ⟨i, -, rfl⟩ | ⟨-, ⟨-, rfl⟩ | ⟨-, h⟩⟩⟩⟩ := homeSave_cases h
    · exact .of_profile_eq rfl
    · exact .of_profile_eq rfl
    · exact .of_profile_eq rfl
    · have hr := ProfileController.relists_postReloadProfileData h
      exact ⟨hr.loaded, hr.rows⟩
  | save game status =>
    obtain ⟨⟨t, calls⟩, ht, h⟩ := bind_eq_ok_iff.mp h
    cases h
    obtain ⟨gameId, -, ⟨-, rfl, -⟩ | ⟨-, ⟨i, -, -, rfl⟩ | ⟨-, ⟨-, -, rfl⟩ | ⟨-, -, h⟩⟩⟩⟩ := save_cases ht
    · exact .of_profile_eq rfl
    · exact .of_profile_eq rfl
    · exact .of_profile_eq rfl
    · have hr := ProfileController.relists_postReloadProfileData h
      exact ⟨hr.loaded, hr.rows⟩
  | update gameID status =>
    cases h
    exact .of_profile_eq rfl
  | delete gameID =>
    cases h
    exact .of_profile_eq rfl
  | updateRow row status =>
    obtain ⟨i, -, -, rfl⟩ := ProfileController.updateGameInCoreData_cases h
    exact ⟨fun _ => Option.some_ne_none _, .inl fun _ hi => hi⟩
  | deleteRow row =>
    obtain ⟨i, -, ⟨-, rfl⟩ | ⟨-, -, rfl⟩⟩ := ProfileController.deleteGameFromCoreData_cases h
    · exact .of_profile_eq rfl
    · exact ⟨fun _ => Option.some_ne_none _, .inl (List.eraseIdx_subset)⟩
  | loadProfile =>
    obtain ⟨t, ht, h⟩ := bind_eq_ok_iff.mp h
    cases h
    have hr := ProfileController.relists_fetchResults ht
    exact ⟨fun _ => hr.loaded (Option.some_ne_none _), hr.rows⟩
  | fetchAll => exact ProfileController.relists_fetchResults h
  | fetchStatus status => exact ProfileController.relists_fetchResults h
  | selectSegment index =>
    obtain ⟨-, rfl⟩ | ⟨title, -, -, -, h⟩ := ProfileController.setSelectIndex_cases h
    · exact .of_profile_eq rfl
    · have hr := ProfileController.relists_fetchResults h
      exact ⟨hr.loaded, hr.rows⟩
  | reload => exact ProfileController.relists_reloadData h

/-- A call keeps what an object holds, whatever it holds. -/
theorem memory_callExec {f : Faults} {call : Call} {c : Context GameSave} {i : ObjectID} (h : c.memory i ≠ none) :
    (call.exec f c).memory i ≠ none := by
  unfold Call.exec
  cases call.change f c with
  | none => exact h
  | some ch =>
    have hm : (c.make ch).memory i ≠ none := by
      cases ch with
      | insert j g =>
        rw [show c.make (.insert j g) = c.insertNewObject g from rfl, Context.memory_insertNewObject]
        by_cases hi : i = c.next
        · rw [hi, Function.update_self]
          exact Option.some_ne_none _
        · rwa [Function.update_of_ne hi]
      | update j u =>
        rw [show c.make (.update j u) = c.setValue j u from rfl, Context.memory_setValue]
        by_cases hi : i = j
        · rw [hi, Function.update_self, Ne, Option.map_eq_none_iff, ← hi]
          exact h
        · rwa [Function.update_of_ne hi]
      | delete j => exact h
    cases call.saveThrows f c with
    | true => exact hm
    | false => exact hm

theorem memory_exec {o : Op} {f : Faults} {s s' : App} {i : ObjectID} (h : s.context.memory i ≠ none)
    (ho : o.exec f s = .ok s') : s'.context.memory i ≠ none := by
  rw [(exec_context ho).memory, Op.callExec]
  cases o.call s with
  | none => exact h
  | some call => exact memory_callExec h

/-- **An operation keeps the list's rows held.** -/
theorem held_exec {o : Op} {f : Faults} {s s' : App} (h : s.Held) (ho : o.exec f s = .ok s') : s'.Held := by
  obtain ⟨hl, hr | ⟨hl', p, hr⟩⟩ := relists_exec ho
  · refine ⟨fun hne => hl (h.loaded fun hn => hne ?_), fun i hi => memory_exec (h.memory i (hr hi)) ho⟩
    rw [hn] at hr
    exact List.subset_nil.mp hr
  · refine ⟨fun _ => hl', fun i hi => ?_⟩
    rw [hr] at hi
    obtain ⟨g, hg, -⟩ := s'.context.mem_fetch.mp hi
    rw [s'.context.memory_of_mem_view hg]
    exact Option.some_ne_none _

theorem App.held_restart (s : App) : s.restart.Held := ⟨fun h => absurd rfl h, fun _ hi => nomatch hi⟩

/-! ### The detail screen -/

theorem DetailVC.Held.congr {s s' : App} {vc : DetailVC} (h : vc.Held s)
    (hl : s.profile.collectionView ≠ none → s'.profile.collectionView ≠ none) : vc.Held s' :=
  ⟨h.adds, fun hd => hl (h.reloads hd)⟩

/-- A screen opened from Home is held. -/
theorem held_homeOpen {game : Game} {throws : Bool} {s : App} {vc : DetailVC}
    (h : MyRootViewController.imageTapped game throws s = .ok vc) : vc.Held s := by
  obtain ⟨gameId, hg, h⟩ := bind_eq_ok_iff.mp h
  have hid : game.gameId ≠ none := by
    rw [force_eq_ok_iff.mp hg]
    exact Option.some_ne_none _
  cases throws with
  | true =>
    cases h
    exact ⟨nofun, nofun⟩
  | false =>
    simp only [Bool.false_eq_true, if_false] at h
    split at h
    next i l hf =>
      obtain ⟨status, -, h⟩ := bind_eq_ok_iff.mp h
      obtain ⟨g, hm, -⟩ := s.context.mem_fetch.mp (hf ▸ List.mem_cons_self : i ∈ s.context.fetch _)
      rw [s.context.memory_of_mem_view hm] at h
      obtain ⟨-, ht, -, hd⟩ := DetailVC.viewDidLoad_of_gameID rfl h
      refine ⟨fun ha => ?_, fun hr => ?_⟩
      · rw [ht] at ha
        cases ha
      · rw [hd] at hr
        cases hr
    next hf =>
      obtain ⟨-, hgame, -, -⟩ := DetailVC.viewDidLoad_of_game rfl rfl h
      refine ⟨fun _ => ⟨game, hgame, hid⟩, fun hr => ?_⟩
      rw [(DetailVC.loaded_of_loadGameToView h).reloadDelegate] at hr
      cases hr

/-- A screen opened from a Profile row is held. -/
theorem held_profileOpen {row : ℕ} {s : App} (hs : s.Held) {vc : DetailVC}
    (h : ProfileController.imageTapped row s = .ok vc) : vc.Held s := by
  obtain ⟨i, hi, h⟩ := bind_eq_ok_iff.mp h
  have hne : s.profile.results ≠ [] := List.ne_nil_of_mem (List.mem_of_getElem? (subscript_eq_ok_iff.mp hi))
  obtain ⟨gameID, -, h⟩ := bind_eq_ok_iff.mp h
  refine ⟨fun ha => ?_, fun _ => hs.loaded hne⟩
  cases ht : (s.context.memory i).bind GameSave.status with
  | none =>
    simp only [ht] at h
    cases h
    cases ha
  | some title =>
    simp only [ht] at h
    rw [(DetailVC.viewDidLoad_of_gameID rfl h).2.1] at ha
    cases ha

/-- A choice in a screen's menu changes at most its label. -/
theorem DetailVC.choose_fields {item : ℕ} {f : Faults} {vc vc' : DetailVC} {s s' : App}
    (h : vc.choose item f s = .ok (vc', s')) :
    vc'.game = vc.game ∧ vc'.tapGesture = vc.tapGesture ∧ vc'.reloadDelegate = vc.reloadDelegate := by
  unfold DetailVC.choose at h
  cases hg : vc.tapGesture with
  | none =>
    rw [hg] at h
    cases h
    exact ⟨rfl, hg, rfl⟩
  | some action =>
    cases action with
    | addButtonTapped =>
      rw [hg] at h
      dsimp only at h
      unfold DetailVC.addButtonTapped at h
      split at h
      · obtain ⟨⟨t, calls⟩, -, h⟩ := bind_eq_ok_iff.mp h
        cases h
        exact ⟨rfl, hg, rfl⟩
      · cases h
        exact ⟨rfl, hg, rfl⟩
    | changeButtonTapped =>
      rw [hg] at h
      dsimp only at h
      unfold DetailVC.changeButtonTapped at h
      split at h
      · cases h
        exact ⟨rfl, hg, rfl⟩
      · by_cases hd : vc.reloadDelegate = true
        · simp only [hd, if_true] at h
          obtain ⟨t, -, h⟩ := bind_eq_ok_iff.mp h
          cases h
          exact ⟨rfl, hg, rfl⟩
        · simp only [hd, Bool.false_eq_true, if_false] at h
          cases h
          exact ⟨rfl, hg, rfl⟩
      · cases h
        exact ⟨rfl, hg, rfl⟩

/-! ### What every event keeps -/

/-- An action keeps a view that is loaded, unless it starts the process again. -/
theorem loaded_step {f : Faults} {a : Action} {s s' : Session} (ha : Session.setsRoot a = false)
    (h : s.step f a = .ok s') (hl : s.app.profile.collectionView ≠ none) : s'.app.profile.collectionView ≠ none :=
  run_inv (I := fun t : App => t.profile.collectionView ≠ none) (fun _ _ _ _ ht ho => (relists_exec ho).loaded ht) hl
    (Session.step_ops ha h)

theorem held_setRootViewTabbar (throws : Bool) {s : App} (h : s.Held) :
    (SceneDelegate.setRootViewTabbar throws s).Held := by
  unfold SceneDelegate.setRootViewTabbar SceneDelegate.updateProfileBadgeValue
  split
  · exact h
  · exact ⟨h.loaded, h.memory⟩

/-- **An action keeps the session intact.** -/
theorem intact_step {f : Faults} {a : Action} {s s' : Session} (h : s.Intact) (ha : s.step f a = .ok s') :
    s'.Intact where
  list := Session.step_inv (I := App.Held) (fun _ _ _ _ ht ho => held_exec ht ho)
    (fun _ ht => held_setRootViewTabbar f.fetch ht) (fun t _ => t.held_restart) h.list ha
  statused := statused_action h.statused ha
  detail := by
    -- the screen presented before, while its delegate's view stays loaded
    have hkeep : Session.setsRoot a = false → ∀ vc ∈ s.detail, vc.Held s'.app := fun hr vc hvc =>
      (h.detail vc hvc).congr (loaded_step hr ha)
    intro vc hvc
    cases a with
    | homeOpen game =>
      obtain ⟨vc', hvc', ha⟩ := bind_eq_ok_iff.mp ha
      cases ha
      cases hvc
      exact held_homeOpen hvc'
    | profileOpen row =>
      obtain ⟨vc', hvc', ha⟩ := bind_eq_ok_iff.mp ha
      cases ha
      cases hvc
      exact held_profileOpen h.list hvc'
    | detailChoose item =>
      cases hd : s.detail with
      | none =>
        simp only [Session.step, hd, Except.ok.injEq] at ha
        rw [← ha, hd] at hvc
        cases hvc
      | some vc₀ =>
        have hh := hkeep rfl vc₀ hd
        simp only [Session.step, hd] at ha
        obtain ⟨⟨vc', app⟩, hc, ha⟩ := bind_eq_ok_iff.mp ha
        cases ha
        cases hvc
        obtain ⟨hg, ht, hr⟩ := DetailVC.choose_fields hc
        exact ⟨fun hadd => hg ▸ hh.adds (ht ▸ hadd), fun hrel => hh.reloads (hr ▸ hrel)⟩
    | detailDismiss =>
      cases ha
      cases hvc
    | relaunch =>
      cases ha
      cases hvc
    | login =>
      cases ha
      refine (h.detail vc hvc).congr fun hl => ?_
      unfold SceneDelegate.setRootViewTabbar SceneDelegate.updateProfileBadgeValue
      split <;> exact hl
    | logout =>
      cases ha
      exact h.detail vc hvc
    | visitProfile =>
      refine hkeep rfl vc ?_
      cases hc : s.app.profile.collectionView with
      | none =>
        simp only [Session.step, hc] at ha
        obtain ⟨app, -, ha⟩ := bind_eq_ok_iff.mp ha
        cases ha
        exact hvc
      | some n =>
        simp only [Session.step, hc, Except.ok.injEq] at ha
        exact ha ▸ hvc
    | chooseSegment index =>
      refine hkeep rfl vc ?_
      obtain ⟨app, -, ha⟩ := bind_eq_ok_iff.mp ha
      cases ha
      exact hvc
    | homeAdd game item =>
      refine hkeep rfl vc ?_
      obtain ⟨app, -, ha⟩ := bind_eq_ok_iff.mp ha
      cases ha
      exact hvc
    | rowMenu row item =>
      refine hkeep rfl vc ?_
      obtain ⟨app, -, ha⟩ := bind_eq_ok_iff.mp ha
      cases ha
      exact hvc

theorem intact_restart {s : Session} (h : s.Intact) : s.restart.Intact where
  list := s.app.held_restart
  statused := h.statused.restart
  detail vc hvc := by
    rw [Session.restart] at hvc
    cases hvc

/-- An event keeps the session intact. -/
theorem intact_next (e : Session.Event) (s : Session) (h : s.Intact) : (s.next e).Intact := by
  cases e with
  | act a f =>
    cases ha : s.step f a with
    | ok s' =>
      simp only [Session.next, ha]
      exact intact_step h ha
    | error t =>
      simp only [Session.next, ha]
      exact intact_restart h
  | enterBackground saveThrows =>
    have hst := statused_next (.enterBackground saveThrows) s h.statused
    cases hc : AppDelegate.saveContext saveThrows s.app.context with
    | error t =>
      simp only [Session.next, hc]
      exact intact_restart h
    | ok context =>
      simp only [Session.next, hc] at hst ⊢
      have hm : context.memory = s.app.context.memory := by
        unfold AppDelegate.saveContext at hc
        split at hc
        · split at hc
          · cases hc
          · cases hc
            rfl
        · cases hc
          rfl
      exact {
        list := ⟨h.list.loaded, fun i hi => hm ▸ h.list.memory i hi⟩
        statused := hst
        detail := fun vc hvc => (h.detail vc hvc).congr id }
  | kill => exact intact_restart h

theorem intact_launch : Session.launch.Intact where
  list := App.launch.held_restart
  statused := Context.everywhere_empty Statused
  detail vc hvc := by
    rw [Session.launch] at hvc
    cases hvc

/-- Every state of every session is intact. -/
theorem intact_reach (es : List Session.Event) : (reach Session.next es Session.launch).Intact :=
  reach_inv (I := Session.Intact) intact_next es intact_launch

/-! ### What each handler needs -/

namespace ProfileController

theorem viewDidLoad_ok (throws : Bool) (s : App) : ∃ s', viewDidLoad throws s = .ok s' := by
  obtain ⟨t, ht⟩ := fetchResults_ok (s := s.opened) (Option.some_ne_none 0) (fun _ => true) throws
  exact ⟨_, bind_eq_ok_iff.mpr ⟨t, ht, rfl⟩⟩

theorem reloadData_ok {s : App} (h : s.profile.collectionView ≠ none) (throws : Bool) :
    ∃ s', reloadData throws s = .ok s' := by
  obtain ⟨t, ht⟩ := fetchResults_ok h (fun _ => true) throws
  exact ⟨_, bind_eq_ok_iff.mpr ⟨t, ht, reloadCollectionView_eq_ok_iff.mpr ⟨(relists_fetchResults ht).loaded h, rfl⟩⟩⟩

theorem setSelectIndex_ok (index : ℕ) (throws : Bool) (s : App) : ∃ s', setSelectIndex index throws s = .ok s' := by
  unfold setSelectIndex
  by_cases hc : s.profile.collectionView = none
  · exact ⟨s, if_pos hc⟩
  rw [if_neg hc]
  by_cases hi : index = s.profile.selectIndex
  · exact ⟨s, if_pos hi⟩
  rw [if_neg hi]
  cases titles[index]? with
  | none => exact ⟨s, rfl⟩
  | some title =>
    dsimp only
    split
    · exact fetchResults_ok (s := s.atSegment index) hc (fun _ => true) throws
    · exact fetchResults_ok (s := s.atSegment index) hc (hasStatus title) throws

/-- The menu of a row runs exactly on a row there is. -/
theorem addButtonTapped_ok_iff {row item : ℕ} {f : Faults} {s : App} (hs : s.Held) :
    (∃ s', addButtonTapped row item f s = .ok s') ↔ (item < rowActions.length → row < s.profile.results.length) := by
  unfold addButtonTapped
  cases hi : rowActions[item]? with
  | none => exact iff_of_true ⟨s, rfl⟩ fun hlt => absurd hlt (Nat.not_lt_of_le (List.getElem?_eq_none_iff.mp hi))
  | some action =>
    rw [forall_prop_of_true (List.getElem?_eq_some_iff.mp hi).1]
    constructor
    · rintro ⟨s', h⟩
      cases action with
      | update title status =>
        obtain ⟨i, hr, -⟩ := updateGameInCoreData_cases h
        exact (List.getElem?_eq_some_iff.mp hr).1
      | delete title =>
        obtain ⟨i, hr, -⟩ := deleteGameFromCoreData_cases h
        exact (List.getElem?_eq_some_iff.mp hr).1
    · intro hlt
      have hr : s.profile.results[row]? = some s.profile.results[row] := List.getElem?_eq_getElem hlt
      have hl := hs.loaded (List.ne_nil_of_mem (List.mem_of_getElem? hr))
      cases action with
      | update title status =>
        dsimp only
        rw [updateGameInCoreData, subscript_eq_ok_iff.mpr hr]
        cases f.save with
        | true => exact ⟨_, reloadCollectionView_eq_ok_iff.mpr ⟨hl, rfl⟩⟩
        | false => exact ⟨_, reloadCollectionView_eq_ok_iff.mpr ⟨hl, rfl⟩⟩
      | delete title =>
        dsimp only
        rw [deleteGameFromCoreData, subscript_eq_ok_iff.mpr hr]
        cases f.save with
        | true => exact ⟨_, rfl⟩
        | false => exact ⟨_, reloadCollectionView_eq_ok_iff.mpr ⟨hl, rfl⟩⟩

/-- The tap on a row opens exactly a row there is. -/
theorem imageTapped_ok_iff {row : ℕ} {s : App} (hs : s.Held) :
    (∃ vc, imageTapped row s = .ok vc) ↔ row < s.profile.results.length := by
  constructor
  · rintro ⟨vc, h⟩
    obtain ⟨i, hi, -⟩ := bind_eq_ok_iff.mp h
    exact (List.getElem?_eq_some_iff.mp (subscript_eq_ok_iff.mp hi)).1
  · intro hlt
    have hr : s.profile.results[row]? = some s.profile.results[row] := List.getElem?_eq_getElem hlt
    obtain ⟨g, hg⟩ := Option.ne_none_iff_exists'.mp (hs.memory _ (List.getElem_mem hlt))
    unfold imageTapped
    simp only [subscript_eq_ok_iff.mpr hr, hg, bind, Except.bind, Option.map_some, force_some, Option.bind_some]
    cases g.status with
    | none => exact ⟨_, rfl⟩
    | some title => exact ⟨_, rfl⟩

end ProfileController

/-- A screen with a game opens exactly when it can load it. -/
theorem viewDidLoad_ok_iff {vc : DetailVC} {game : Game} (hg : vc.game = some game) :
    (∃ vc', vc.viewDidLoad = .ok vc') ↔ vc.Loads game := by
  refine ⟨?_, viewDidLoad_ok_of_loads hg⟩
  rintro ⟨vc', h⟩
  unfold DetailVC.viewDidLoad at h
  cases hid : vc.gameID with
  | none =>
    simp only [hid, hg] at h
    obtain ⟨hc, hs, hgen, hp⟩ := DetailVC.loadGameToView_ok_iff.mp ⟨vc', h⟩
    exact ⟨hc, hs, hgen, hp⟩
  | some gameID =>
    simp only [hid, hg] at h
    obtain ⟨v, hv, -⟩ := bind_eq_ok_iff.mp h
    exact DetailVC.loadGameToView_ok_iff.mp ⟨v, hv⟩

/-- The tap on a Home cell opens exactly a game with an id that, unless its fetch throws, can be loaded. -/
theorem imageTapped_ok_iff {game : Game} {throws : Bool} {s : App} (hs : s.context.Everywhere Statused) :
    (∃ vc, MyRootViewController.imageTapped game throws s = .ok vc) ↔
      game.gameId ≠ none ∧ (throws = false → ({} : DetailVC).Loads game) := by
  unfold MyRootViewController.imageTapped
  cases hg : game.gameId with
  | none => simp [bind, Except.bind]
  | some gameId =>
    have hl : ∀ vc : DetailVC, vc.game = some game → vc.tagListView = [] → vc.tagListViewPlatform = [] →
        ((∃ vc', vc.viewDidLoad = .ok vc') ↔ ({} : DetailVC).Loads game) := fun vc hvc ht hp =>
      (viewDidLoad_ok_iff hvc).trans ((loads_iff ht hp).trans (loads_iff rfl rfl).symm)
    simp only [force_some, bind, Except.bind, ne_eq, reduceCtorEq, not_false_eq_true, true_and]
    cases throws with
    | true => exact iff_of_true ⟨_, rfl⟩ nofun
    | false =>
      simp only [Bool.false_eq_true, if_false, forall_const]
      split
      next i l hf =>
        obtain ⟨g, hm, -⟩ := s.context.mem_fetch.mp (hf ▸ List.mem_cons_self : i ∈ s.context.fetch _)
        obtain ⟨title, -, ht⟩ := List.mem_map.mp (hs.view _ hm)
        rw [s.context.memory_of_mem_view hm, Option.bind_some, ← ht, force_some]
        exact hl _ rfl rfl rfl
      next hf => exact hl _ rfl rfl rfl

/-- A choice in the menu of a screen that is held does not trap. -/
theorem choose_ok (item : ℕ) (f : Faults) {vc : DetailVC} {s : App} (h : vc.Held s) :
    ∃ r, vc.choose item f s = .ok r := by
  unfold DetailVC.choose
  cases ht : vc.tapGesture with
  | none => exact ⟨_, rfl⟩
  | some action =>
    cases action with
    | addButtonTapped =>
      obtain ⟨game, hg, hid⟩ := h.adds ht
      dsimp only
      rw [DetailVC.addButtonTapped, hg]
      cases DetailVC.addActions[item]? with
      | none => exact ⟨_, rfl⟩
      | some action =>
        obtain ⟨r, hr⟩ : ∃ r, CoredataController.saveGameToCoreData game action.status f s = .ok r :=
          save_ok_iff.mpr hid
        exact ⟨_, bind_eq_ok_iff.mpr ⟨r, hr, rfl⟩⟩
    | changeButtonTapped =>
      dsimp only
      cases hid : vc.gameID with
      | none =>
        rw [DetailVC.changeButtonTapped, hid]
        exact ⟨_, rfl⟩
      | some gameID =>
        cases hi : DetailVC.changeActions[item]? with
        | none =>
          rw [DetailVC.changeButtonTapped, hid, hi]
          exact ⟨_, rfl⟩
        | some action =>
          cases action with
          | update title status label => exact ⟨_, DetailVC.changeButtonTapped_update hid hi⟩
          | delete title =>
            rw [DetailVC.changeButtonTapped_delete hid hi]
            by_cases hd : vc.reloadDelegate = true
            · obtain ⟨t, ht⟩ := ProfileController.reloadData_ok (s := { s with
                context := CoredataController.deleteGameFromCoreData gameID f.fetch f.save s.context })
                (h.reloads hd) f.reloadFetch
              simp only [hd, if_true]
              exact ⟨_, bind_eq_ok_iff.mpr ⟨t, ht, rfl⟩⟩
            · simp only [hd, Bool.false_eq_true, if_false]
              exact ⟨_, rfl⟩

/-! ### A session -/

theorem exists_bind_ok_iff {α β : Type} {x : Except Trap α} {g : α → β} :
    (∃ b, (do let a ← x; return g a) = .ok b) ↔ ∃ a, x = .ok a := by
  constructor
  · rintro ⟨b, h⟩
    obtain ⟨a, ha, -⟩ := bind_eq_ok_iff.mp h
    exact ⟨a, ha⟩
  · rintro ⟨a, rfl⟩
    exact ⟨g a, rfl⟩

/-- **In a session that is intact, an action is carried out exactly when it is safe.** -/
theorem step_ok_iff {f : Faults} {a : Action} {s : Session} (h : s.Intact) :
    (∃ s', s.step f a = .ok s') ↔ a.Safe f s := by
  cases a with
  | visitProfile =>
    refine iff_of_true ?_ trivial
    cases hc : s.app.profile.collectionView with
    | none =>
      simp only [Session.step, hc]
      exact exists_bind_ok_iff.mpr (ProfileController.viewDidLoad_ok f.fetch s.app)
    | some n => exact ⟨s, by simp only [Session.step, hc]⟩
  | chooseSegment index =>
    exact iff_of_true (exists_bind_ok_iff.mpr (ProfileController.setSelectIndex_ok index f.fetch s.app)) trivial
  | homeAdd game item =>
    refine exists_bind_ok_iff.trans ?_
    simp only [MyRootViewController.addButtonTapped, Action.Safe]
    cases hi : MyRootViewController.addActions[item]? with
    | none => exact iff_of_true ⟨_, rfl⟩ fun hlt => absurd hlt (Nat.not_lt_of_le (List.getElem?_eq_none_iff.mp hi))
    | some title =>
      rw [forall_prop_of_true (List.getElem?_eq_some_iff.mp hi).1]
      exact homeSave_ok_iff
  | homeOpen game => exact exists_bind_ok_iff.trans (imageTapped_ok_iff h.statused)
  | profileOpen row => exact exists_bind_ok_iff.trans (ProfileController.imageTapped_ok_iff h.list)
  | detailChoose item =>
    refine iff_of_true ?_ trivial
    cases hd : s.detail with
    | none => exact ⟨s, by simp only [Session.step, hd]⟩
    | some vc =>
      obtain ⟨⟨vc', app⟩, hc⟩ := choose_ok item f (h.detail vc hd)
      exact ⟨⟨app, some vc'⟩, step_detailChoose hd hc⟩
  | rowMenu row item => exact exists_bind_ok_iff.trans (ProfileController.addButtonTapped_ok_iff h.list)
  | detailDismiss => exact iff_of_true ⟨_, rfl⟩ trivial
  | logout => exact iff_of_true ⟨_, rfl⟩ trivial
  | login => exact iff_of_true ⟨_, rfl⟩ trivial
  | relaunch => exact iff_of_true ⟨_, rfl⟩ trivial

/-- **When the handler of an action traps.** In every state of every session, whatever has failed and whatever fails
in the action: the handler, before any request it makes is answered, traps exactly when the action opens or saves a
game that lacks what the screen needs, or opens or edits a row past the end of the list. -/
theorem traps_iff (es : List Session.Event) (f : Faults) (a : Action) :
    (∃ t, (reach Session.next es Session.launch).step f a = .error t) ↔
      ¬a.Safe f (reach Session.next es Session.launch) := by
  rw [← step_ok_iff (intact_reach es)]
  cases (reach Session.next es Session.launch).step f a <;> simp

/-- An action on a cell that is on the screen. -/
def Action.OnScreen (s : Session) : Action → Prop
  | .homeAdd game _ | .homeOpen game => game.Showable
  | .profileOpen row | .rowMenu row _ => s.app.Offers row
  | .visitProfile | .chooseSegment _ | .detailChoose _ | .detailDismiss | .logout | .login | .relaunch => True

theorem Action.OnScreen.safe {a : Action} {s : Session} (h : a.OnScreen s) (hc : Clean s.app) (f : Faults) :
    a.Safe f s := by
  have hrow : ∀ row, s.app.Offers row → row < s.app.profile.results.length := by
    rintro row ⟨n, hn, hlt⟩
    rwa [hc.counted n hn] at hlt
  cases a with
  | homeAdd game item => exact fun _ => Game.Showable.gameId h
  | homeOpen game =>
    exact ⟨Game.Showable.gameId h, fun _ => (loads_iff rfl rfl).mpr
      ⟨Game.Showable.sampleCover h, Game.Showable.sampleScreenshots h, Game.Showable.genres h,
        Game.Showable.platforms h⟩⟩
  | profileOpen row => exact hrow row h
  | rowMenu row item => exact fun _ => hrow row h
  | visitProfile => trivial
  | chooseSegment index => trivial
  | detailChoose item => trivial
  | detailDismiss => trivial
  | logout => trivial
  | login => trivial
  | relaunch => trivial

/-- **When nothing fails, no handler of what is on the screen traps**: after any actions, and whatever fails in the next
one, the handler of an action on a showable game or on a row the list shows does not trap, before any request it makes
is answered. -/
theorem no_trap_on_screen {as : List Action} {s : Session} (hr : run (Session.step .none) as Session.launch = .ok s)
    {a : Action} (ha : a.OnScreen s) (f : Faults) : ∃ s', s.step f a = .ok s' :=
  (step_ok_iff (run_inv (fun _ _ _ _ h hs => intact_step h hs) intact_launch hr)).mpr (ha.safe (clean_session hr) f)

/-- A game saved, and the Profile tab visited. -/
def savedAndListed : List Action := [.homeAdd (.bare 7) 2, .visitProfile]

theorem no_trap_on_screen_savedAndListed : ∃ s s', run (Session.step .none) savedAndListed Session.launch = .ok s ∧
    s.step .none (.rowMenu 0 4) = .ok s' := by
  obtain ⟨s, hs⟩ : ∃ s, run (Session.step .none) savedAndListed Session.launch = .ok s := ⟨_, rfl⟩
  have ho : (Action.rowMenu 0 4).OnScreen s := by
    cases hs
    exact ⟨1, rfl, Nat.one_pos⟩
  obtain ⟨s', hs'⟩ := no_trap_on_screen hs ho .none
  exact ⟨s, s', hs, hs'⟩

end Booster
