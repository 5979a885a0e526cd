import Booster.Session.Actions
import Booster.Collection.NoFaults

/-!
# What an action comes to when nothing fails

A session in which nothing fails keeps the invariant `Clean`
(`clean_action`), and then an action does one of a dozen things to what the
screens share: insert a record, give one a status, delete one, refill the Profile list,
count the badge, and so on (`Effect`). Which, is decided by the action and the state before it
(`Action.effect`); `step_effect` says that the handler of the source leaves what
the effect does, and that the effect fits the state. What follows about the Profile list and
the badge is proved by cases on effects.
-/

namespace Booster

open Theory

/-- What an action does to what the screens share. -/
inductive Effect where
  /-- Nothing. -/
  | idle
  /-- The Profile view is loaded. -/
  | load
  /-- Segment `index` is selected, and its records listed. -/
  | segment (index : ℕ)
  /-- A record is inserted. -/
  | insert (game : Game) (gameId : Int64) (status : String)
  /-- The record of object `i`, found by `game_id`, is given a status. -/
  | setStatus (i : ObjectID) (status : String)
  /-- The record of object `i`, found by `game_id`, is deleted. -/
  | delete (i : ObjectID)
  /-- The record of object `i`, found by `game_id`, is deleted, and all records are listed. -/
  | deleteReload (i : ObjectID)
  /-- All records are listed. -/
  | reload
  /-- Object `i`, listed, is given a status. -/
  | rowStatus (i : ObjectID) (status : String)
  /-- Object `i`, listed at `row`, is deleted. -/
  | rowDelete (row : ℕ) (i : ObjectID)
  /-- All records are counted in the badge. -/
  | count
  /-- The process is started again, and all records are counted in the badge. -/
  | restart

/-- What the screens share after object `i`, listed, is given a status. -/
def App.rowStatusSet (i : ObjectID) (status : String) (s : App) : App :=
  { s with
    context := (s.context.setValue i (GameSave.setStatus status)).save.setValue i (GameSave.setStatus status)
    profile.collectionView := some s.profile.results.length }

/-- What the screens share after object `i`, listed at `row`, is deleted. -/
def App.rowDeleted (row : ℕ) (i : ObjectID) (s : App) : App :=
  { s with
    context := (s.context.delete i).save
    profile := { s.profile with
      results := s.profile.results.eraseIdx row
      collectionView := some (s.profile.results.eraseIdx row).length }
    badgeValue := some (toString (s.profile.results.eraseIdx row).length) }

/-- What the screens share after all records are counted in the badge. -/
def App.counted (s : App) : App := { s with badgeValue := some (toString (s.context.fetch fun _ => true).length) }

/-- What the screens share after an effect. -/
def Effect.apply : Effect → App → App
  | .idle, s => s
  | .load, s => s.opened.listing fun _ => true
  | .segment index, s => (s.atSegment index).listing (ProfileController.segmentShows index)
  | .insert game gameId status, s => s.inserted game gameId status
  | .setStatus i status, s => s.statusSet i status
  | .delete i, s => s.deleted i
  | .deleteReload i, s => (s.deleted i).listing fun _ => true
  | .reload, s => s.listing fun _ => true
  | .rowStatus i status, s => s.rowStatusSet i status
  | .rowDelete row i, s => s.rowDeleted row i
  | .count, s => s.counted
  | .restart, s => s.restart.counted

/-- What must hold of a state for an effect to be one of its actions'. -/
def Effect.Fits (s : App) : Effect → Prop
  | .idle | .count | .restart => True
  | .load => s.profile.collectionView = none
  | .segment index =>
    s.profile.collectionView ≠ none ∧ ∃ title, ProfileController.titles[index]? = some title
  | .insert game gameId _ => game.gameId = some gameId ∧ firstWithID gameId s.context = none
  | .setStatus i _ | .delete i => ∃ g, (i, g) ∈ s.context.view
  | .deleteReload i => s.profile.collectionView ≠ none ∧ ∃ g, (i, g) ∈ s.context.view
  | .reload => s.profile.collectionView ≠ none
  | .rowStatus i _ => s.profile.collectionView ≠ none ∧ i ∈ s.profile.results
  | .rowDelete row i => s.profile.collectionView ≠ none ∧ s.profile.results[row]? = some i

/-- The effect of saving a game from Home. -/
def homeSaveEffect (game : Game) (status : String) (s : App) : Effect :=
  match game.gameId with
  | none => .idle
  | some gameId =>
    match firstWithID gameId s.context with
    | some _ => .idle
    | none => .insert game gameId status

/-- The effect of saving a game from its detail screen. -/
def saveEffect (game : Game) (status : String) (s : App) : Effect :=
  match game.gameId with
  | none => .idle
  | some gameId =>
    match firstWithID gameId s.context with
    | some i => .setStatus i status
    | none => .insert game gameId status

/-- The effect of choosing an item of the detail screen's menu. -/
def DetailVC.effect (item : ℕ) (s : App) (vc : DetailVC) : Effect :=
  match vc.tapGesture with
  | some .addButtonTapped =>
    match vc.game, addActions[item]? with
    | some game, some action => saveEffect game action.status s
    | _, _ => .idle
  | some .changeButtonTapped =>
    match vc.gameID, changeActions[item]? with
    | some gameID, some (.update _ status _) =>
      match firstWithID gameID s.context with
      | some i => .setStatus i status
      | none => .idle
    | some gameID, some (.delete _) =>
      match firstWithID gameID s.context, vc.reloadDelegate with
      | some i, true => .deleteReload i
      | some i, false => .delete i
      | none, true => .reload
      | none, false => .idle
    | _, _ => .idle
  | none => .idle

/-- The effect of an action. -/
def Action.effect (s : Session) : Action → Effect
  | .visitProfile => if s.app.profile.collectionView = none then .load else .idle
  | .chooseSegment index =>
    if s.app.profile.collectionView = none ∨ index = s.app.profile.selectIndex ∨
        ProfileController.titles[index]? = none then .idle
    else .segment index
  | .homeAdd game item =>
    match MyRootViewController.addActions[item]? with
    | some title => homeSaveEffect game title s.app
    | none => .idle
  | .detailChoose item =>
    match s.detail with
    | some vc => vc.effect item s.app
    | none => .idle
  | .rowMenu row item =>
    match s.app.profile.results[row]?, ProfileController.rowActions[item]? with
    | some i, some (.update _ status) => .rowStatus i status
    | some i, some (.delete _) => .rowDelete row i
    | _, _ => .idle
  | .homeOpen _ | .profileOpen _ | .detailDismiss | .logout => .idle
  | .login => .count
  | .relaunch => .restart

/-! ### The invariant of a session -/

theorem Clean.counted_badge {s : App} (h : Clean s) : Clean s.counted where
  written := h.written
  nodup := h.nodup
  unloaded := h.unloaded
  counted := h.counted
  distinct := h.distinct
  segment := h.segment
  listed := h.listed

theorem Clean.restart {s : App} (h : Clean s) : Clean s.restart where
  written := rfl
  nodup := by
    show (keys GameSave.gameId s.context.store).Nodup
    rw [h.written]
    exact h.nodup
  unloaded _ := rfl
  counted _ hn := by cases hn
  distinct := List.nodup_nil
  segment := Nat.zero_lt_succ _
  listed _ hi := by cases hi

/-- When nothing fails, an action keeps the invariant. -/
theorem clean_action {a : Action} {s s' : Session} (h : Clean s.app) (ha : s.step .none a = .ok s') :
    Clean s'.app := by
  refine Session.step_inv (f := .none) ?_ (fun _ ht => ht.counted_badge) (fun _ ht => ht.restart) h ha
  intro p hp _ _ hi hs
  rw [Action.ops_faults_none hp] at hs
  exact clean_exec hi hs

/-- When nothing fails, a session keeps the invariant. -/
theorem clean_session {as : List Action} {s : Session} (h : run (Session.step .none) as Session.launch = .ok s) :
    Clean s.app :=
  run_inv (I := fun s : Session => Clean s.app) (fun _ _ _ _ hi hs => clean_action hi hs) clean_launch h

/-! ### An action has its effect -/

theorem homeSave_effect {game : Game} {status : String} {s s' : App}
    (h : MyRootViewController.saveGameToCoreData game status .none s = .ok s') :
    s' = (homeSaveEffect game status s).apply s ∧ (homeSaveEffect game status s).Fits s := by
  obtain ⟨gameId, hg, -⟩ := homeSave_cases h
  rw [homeSave_eq hg, Except.ok.injEq] at h
  subst h
  unfold homeSaveEffect
  rw [hg]
  dsimp only
  cases hf : firstWithID gameId s.context with
  | some i => exact ⟨rfl, trivial⟩
  | none => exact ⟨rfl, hg, hf⟩

theorem save_effect {game : Game} {status : String} {s s' : App} {calls : List Bool}
    (h : CoredataController.saveGameToCoreData game status .none s = .ok (s', calls)) :
    s' = (saveEffect game status s).apply s ∧ (saveEffect game status s).Fits s := by
  obtain ⟨gameId, hg, -⟩ := save_cases h
  rw [save_eq hg, Except.ok.injEq, Prod.mk.injEq] at h
  obtain ⟨rfl, rfl⟩ := h
  unfold saveEffect
  rw [hg]
  dsimp only
  cases hf : firstWithID gameId s.context with
  | some i =>
    obtain ⟨g, hm, -⟩ := mem_view_of_firstWithID hf
    exact ⟨rfl, g, hm⟩
  | none => exact ⟨rfl, hg, hf⟩

/-- A choice in the detail screen's menu has its effect. -/
theorem DetailVC.choose_effect {item : ℕ} {vc vc' : DetailVC} {s s' : App}
    (h : vc.choose item .none s = .ok (vc', s')) :
    s' = (vc.effect item s).apply s ∧ (vc.effect item s).Fits s := by
  unfold DetailVC.choose at h
  unfold DetailVC.effect
  cases hg : vc.tapGesture with
  | none =>
    simp only [hg, Except.ok.injEq, Prod.mk.injEq] at h
    exact ⟨h.2.symm, trivial⟩
  | some action =>
    cases action with
    | addButtonTapped =>
      rw [hg] at h
      obtain ⟨game, action, calls, hgame, haction, ht⟩ | ⟨hn, rfl⟩ := DetailVC.addButtonTapped_cases h
      · rw [hgame, haction]
        exact save_effect ht
      · dsimp only
        split
        next game action hgame haction => exact absurd haction (hn game action hgame)
        · exact ⟨rfl, trivial⟩
    | changeButtonTapped =>
      rw [hg] at h
      obtain ⟨gameID, title, status, label, hid, haction, rfl⟩ | ⟨gameID, title, hid, haction, ht⟩ | ⟨hn, rfl⟩ :=
        DetailVC.changeButtonTapped_cases h
      · rw [hid, haction, Faults.none, update_eq]
        dsimp only
        cases hf : firstWithID gameID s.context with
        | some i =>
          obtain ⟨g, hm, -⟩ := mem_view_of_firstWithID hf
          exact ⟨rfl, g, hm⟩
        | none => exact ⟨rfl, trivial⟩
      · rw [hid, haction]
        rw [Faults.none, delete_eq] at ht
        dsimp only
        cases hd : vc.reloadDelegate with
        | true =>
          rw [hd, if_pos rfl] at ht
          obtain ⟨hl, rfl⟩ := ProfileController.reloadData_loaded ht
          cases hf : firstWithID gameID s.context with
          | some i =>
            obtain ⟨g, hm, -⟩ := mem_view_of_firstWithID hf
            rw [hf] at hl
            exact ⟨rfl, hl, g, hm⟩
          | none =>
            rw [hf] at hl
            exact ⟨rfl, hl⟩
        | false =>
          rw [hd, if_neg Bool.false_ne_true, Except.ok.injEq] at ht
          subst ht
          cases hf : firstWithID gameID s.context with
          | some i =>
            obtain ⟨g, hm, -⟩ := mem_view_of_firstWithID hf
            exact ⟨rfl, g, hm⟩
          | none => exact ⟨rfl, trivial⟩
      · dsimp only
        split
        next gameID title status label hid haction => exact absurd haction (hn gameID _ hid)
        next gameID title hid haction => exact absurd haction (hn gameID _ hid)
        · exact ⟨rfl, trivial⟩

/-- **What an action does when nothing fails** is its effect, and the effect fits the state. -/
theorem step_effect {a : Action} {s s' : Session} (ha : s.step .none a = .ok s') :
    s'.app = (a.effect s).apply s.app ∧ (a.effect s).Fits s.app := by
  cases a with
  | visitProfile =>
    cases hc : s.app.profile.collectionView with
    | none =>
      simp only [Session.step, hc, Faults.none, ProfileController.viewDidLoad_eq] at ha
      cases ha
      rw [Action.effect, if_pos hc]
      exact ⟨rfl, hc⟩
    | some n =>
      simp only [Session.step, hc, Except.ok.injEq] at ha
      rw [Action.effect, if_neg (by simp [hc]), ha]
      exact ⟨rfl, trivial⟩
  | chooseSegment index =>
    obtain ⟨app, happ, ha⟩ := bind_eq_ok_iff.mp ha
    cases ha
    obtain ⟨hs, rfl⟩ | ⟨title, hc, hi, ht, -⟩ := ProfileController.setSelectIndex_cases happ
    · rw [Action.effect, if_pos hs]
      exact ⟨rfl, trivial⟩
    · rw [Action.effect, if_neg (by simp [hc, hi, ht])]
      rw [Faults.none, ProfileController.setSelectIndex_eq hc hi ht, Except.ok.injEq] at happ
      exact ⟨happ.symm, hc, title, ht⟩
  | homeAdd game item =>
    obtain ⟨app, happ, ha⟩ := bind_eq_ok_iff.mp ha
    cases ha
    simp only [MyRootViewController.addButtonTapped] at happ
    simp only [Action.effect]
    cases hi : MyRootViewController.addActions[item]? with
    | none =>
      rw [hi, Except.ok.injEq] at happ
      exact ⟨happ.symm, trivial⟩
    | some title =>
      rw [hi] at happ
      exact homeSave_effect happ
  | homeOpen game =>
    obtain ⟨vc, hvc, ha⟩ := bind_eq_ok_iff.mp ha
    cases ha
    exact ⟨rfl, trivial⟩
  | profileOpen row =>
    obtain ⟨vc, hvc, ha⟩ := bind_eq_ok_iff.mp ha
    cases ha
    exact ⟨rfl, trivial⟩
  | detailChoose item =>
    simp only [Action.effect]
    cases hd : s.detail with
    | none =>
      simp only [Session.step, hd, Except.ok.injEq] at ha
      exact ⟨by rw [ha]; rfl, trivial⟩
    | some vc =>
      simp only [Session.step, hd] at ha
      obtain ⟨⟨vc', app⟩, happ, ha⟩ := bind_eq_ok_iff.mp ha
      cases ha
      exact DetailVC.choose_effect happ
  | detailDismiss =>
    cases ha
    exact ⟨rfl, trivial⟩
  | rowMenu row item =>
    obtain ⟨app, happ, ha⟩ := bind_eq_ok_iff.mp ha
    cases ha
    simp only [ProfileController.addButtonTapped] at happ
    simp only [Action.effect]
    cases hi : ProfileController.rowActions[item]? with
    | none =>
      rw [hi, Except.ok.injEq] at happ
      rw [happ]
      cases hr : app.profile.results[row]? with
      | none => exact ⟨rfl, trivial⟩
      | some i => exact ⟨rfl, trivial⟩
    | some action =>
      rw [hi] at happ
      cases action with
      | update title status =>
        obtain ⟨i, hr, hl, rfl⟩ := ProfileController.updateGameInCoreData_cases happ
        rw [hr]
        exact ⟨rfl, hl, List.mem_of_getElem? hr⟩
      | delete title =>
        obtain ⟨i, hr, ⟨hs, -⟩ | ⟨-, hl, rfl⟩⟩ := ProfileController.deleteGameFromCoreData_cases happ
        · cases hs
        · rw [hr]
          exact ⟨rfl, hl, hr⟩
  | logout =>
    cases ha
    exact ⟨rfl, trivial⟩
  | login =>
    cases ha
    exact ⟨rfl, trivial⟩
  | relaunch =>
    cases ha
    exact ⟨rfl, trivial⟩

end Booster
