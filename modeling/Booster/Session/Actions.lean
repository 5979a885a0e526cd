import Booster.Collection.Calls
import Booster.Controllers.Home
import Booster.Controllers.ProfileTaps
import Booster.Delegates.SceneDelegate

/-!
# What the user does

A session is the app's state with the detail screen presented, if one is. The user
visits the Profile tab, chooses segments, opens and edits games from Home and from
Profile, chooses from the menu of the detail screen, logs out and in, and quits the app and opens it
again (`Action`). A row stands for a cell, so a row past the end of the list is
not offered; the model runs it, and it traps.

`Session.step` runs the handler of the source for an action. `step_ops` says what
that comes to: the operations `Action.ops`, one after the other, unless the action
makes the tab bar the root screen or starts the process again. `Session.Event` adds the events
that are not the user's, and faults.
-/

namespace Booster

open Theory

/-- The app's state and the detail screen presented. -/
structure Session where
  /-- What the screens share. -/
  app : App
  /-- The detail screen. -/
  detail : Option DetailVC

/-- The app started for the first time. -/
def Session.launch : Session := ⟨App.launch, none⟩

/-- The process ends and is started again. -/
def Session.restart (s : Session) : Session := ⟨s.app.restart, none⟩

/-- What the user does. -/
inductive Action where
  /-- Visit the Profile tab. -/
  | visitProfile
  /-- Tap segment `index`. -/
  | chooseSegment (index : ℕ)
  /-- Choose an item of the menu of a Home cell. -/
  | homeAdd (game : Game) (item : ℕ)
  /-- Tap the image of a Home cell. -/
  | homeOpen (game : Game)
  /-- Tap the image of a Profile row. -/
  | profileOpen (row : ℕ)
  /-- Choose an item of the menu of the detail screen. -/
  | detailChoose (item : ℕ)
  /-- Tap the back button of the detail screen. -/
  | detailDismiss
  /-- Choose an item of the menu of a Profile row. -/
  | rowMenu (row item : ℕ)
  /-- Log out: the welcome screen becomes the root, and the tab bar is kept. -/
  | logout
  /-- Log in: the tab bar becomes the root. -/
  | login
  /-- Quit the app and open it again, logged in. -/
  | relaunch

namespace Session

/-- The state after an action. -/
def step (f : Faults) : Action → Session → Except Trap Session
  | .visitProfile, s =>
    match s.app.profile.collectionView with
    | none => do
      let app ← ProfileController.viewDidLoad f.fetch s.app
      return { s with app := app }
    | some _ => .ok s
  | .chooseSegment index, s => do
    let app ← ProfileController.setSelectIndex index f.fetch s.app
    return { s with app := app }
  | .homeAdd game item, s => do
    let app ← MyRootViewController.addButtonTapped game item f s.app
    return { s with app := app }
  | .homeOpen game, s => do
    let detailVC ← MyRootViewController.imageTapped game f.fetch s.app
    return { s with detail := some detailVC }
  | .profileOpen row, s => do
    let detailVC ← ProfileController.imageTapped row s.app
    return { s with detail := some detailVC }
  | .detailChoose item, s =>
    match s.detail with
    | none => .ok s
    | some detailVC => do
      let (detailVC, app) ← detailVC.choose item f s.app
      return ⟨app, some detailVC⟩
  | .detailDismiss, s => .ok { s with detail := none }
  | .rowMenu row item, s => do
    let app ← ProfileController.addButtonTapped row item f s.app
    return { s with app := app }
  | .logout, s => .ok s
  | .login, s => .ok { s with app := SceneDelegate.setRootViewTabbar f.fetch s.app }
  | .relaunch, s => .ok ⟨SceneDelegate.setRootViewTabbar f.fetch s.app.restart, none⟩

/-- What happens in a session. -/
inductive Event where
  /-- An action, some of its calls into Core Data throwing. -/
  | act (a : Action) (f : Faults)
  /-- `sceneDidEnterBackground`, which runs `AppDelegate.saveContext`. -/
  | enterBackground (saveThrows : Bool)
  /-- The process is killed and started again. -/
  | kill

/-- The state after an event; a trap ends the process, which is started again. -/
def next : Event → Session → Session
  | .act a f, s =>
    match s.step f a with
    | .ok s' => s'
    | .error _ => s.restart
  | .enterBackground saveThrows, s =>
    match AppDelegate.saveContext saveThrows s.app.context with
    | .ok context => { s with app.context := context }
    | .error _ => s.restart
  | .kill, s => s.restart

end Session

/-! ### The operations of an action -/

/-- The operations run by the choice of an item of the detail screen's menu. -/
def DetailVC.ops (item : ℕ) (f : Faults) (vc : DetailVC) : List (Op × Faults) :=
  match vc.tapGesture with
  | some .addButtonTapped =>
    match vc.game, addActions[item]? with
    | some game, some action => [(.save game action.status, f)]
    | _, _ => []
  | some .changeButtonTapped =>
    match vc.gameID, changeActions[item]? with
    | some gameID, some (.update _ status _) => [(.update gameID status, f)]
    | some gameID, some (.delete _) =>
      (.delete gameID, f) :: if vc.reloadDelegate then [(.reload, { fetch := f.reloadFetch })] else []
    | _, _ => []
  | none => []

/-- The operations of an action, each with its faults. -/
def Action.ops (f : Faults) (s : Session) : Action → List (Op × Faults)
  | .visitProfile => if s.app.profile.collectionView = none then [(.loadProfile, f)] else []
  | .chooseSegment index => [(.selectSegment index, f)]
  | .homeAdd game item => (MyRootViewController.addActions[item]?.map fun title => (.homeSave game title, f)).toList
  | .detailChoose item => (s.detail.map fun vc => vc.ops item f).getD []
  | .rowMenu row item =>
    match ProfileController.rowActions[item]? with
    | some (.update _ status) => [(.updateRow row status, f)]
    | some (.delete _) => [(.deleteRow row, f)]
    | none => []
  | _ => []

/-- Run a list of operations, each with its faults. -/
def runOps : List (Op × Faults) → App → Except Trap App := run fun p => p.1.exec p.2

theorem runOps_singleton {o : Op} {f : Faults} {s s' : App} : runOps [(o, f)] s = .ok s' ↔ o.exec f s = .ok s' := by
  simp [runOps, run_cons_ok]

/-- The choice of an item of the detail screen's menu runs its operations. -/
theorem DetailVC.choose_ops {item : ℕ} {f : Faults} {vc vc' : DetailVC} {s s' : App}
    (h : vc.choose item f s = .ok (vc', s')) : runOps (vc.ops item f) s = .ok s' := by
  unfold DetailVC.choose at h
  unfold DetailVC.ops
  cases hg : vc.tapGesture with
  | none =>
    simp only [hg, Except.ok.injEq, Prod.mk.injEq] at h
    rw [← h.2]
    rfl
  | some action =>
    cases action with
    | addButtonTapped =>
      rw [hg] at h
      obtain ⟨game, action, calls, hgame, haction, ht⟩ | ⟨hn, rfl⟩ := DetailVC.addButtonTapped_cases h
      · rw [hgame, haction]
        refine runOps_singleton.mpr ?_
        rw [Op.exec, ht]
        rfl
      · dsimp only
        split
        next game action hgame haction => exact absurd haction (hn game action hgame)
        · rfl
    | changeButtonTapped =>
      rw [hg] at h
      obtain ⟨gameID, title, status, label, hid, haction, rfl⟩ | ⟨gameID, title, hid, haction, ht⟩ | ⟨hn, rfl⟩ :=
        DetailVC.changeButtonTapped_cases h
      · rw [hid, haction]
        exact runOps_singleton.mpr rfl
      · rw [hid, haction]
        refine run_cons_ok.mpr ⟨_, rfl, ?_⟩
        by_cases hd : vc.reloadDelegate = true
        · rw [if_pos hd] at ht ⊢
          exact runOps_singleton.mpr ht
        · rw [if_neg hd] at ht ⊢
          exact ht
      · dsimp only
        split
        next gameID title status label hid haction => exact absurd haction (hn gameID _ hid)
        next gameID title hid haction => exact absurd haction (hn gameID _ hid)
        · rfl

namespace Session

/-- Whether an action makes the tab bar the root screen. -/
def setsRoot : Action → Bool
  | .login | .relaunch => true
  | _ => false

/-- **What an action does to what the screens share**: it runs its operations. -/
theorem step_ops {f : Faults} {a : Action} {s s' : Session} (ha : setsRoot a = false)
    (h : s.step f a = .ok s') : runOps (a.ops f s) s.app = .ok s'.app := by
  cases a with
  | visitProfile =>
    cases hc : s.app.profile.collectionView with
    | none =>
      simp only [step, hc] at h
      obtain ⟨app, happ, h⟩ := bind_eq_ok_iff.mp h
      cases h
      rw [Action.ops, if_pos hc]
      exact runOps_singleton.mpr happ
    | some n =>
      simp only [step, hc, Except.ok.injEq] at h
      rw [Action.ops, if_neg (by simp [hc]), h]
      rfl
  | chooseSegment index =>
    obtain ⟨app, happ, h⟩ := bind_eq_ok_iff.mp h
    cases h
    exact runOps_singleton.mpr happ
  | homeAdd game item =>
    obtain ⟨app, happ, h⟩ := bind_eq_ok_iff.mp h
    cases h
    simp only [MyRootViewController.addButtonTapped] at happ
    simp only [Action.ops]
    cases hi : MyRootViewController.addActions[item]? with
    | none =>
      rw [hi] at happ
      exact happ
    | some title =>
      rw [hi] at happ
      exact (runOps_singleton (o := .homeSave game title)).mpr happ
  | homeOpen game =>
    obtain ⟨vc, hvc, h⟩ := bind_eq_ok_iff.mp h
    cases h
    rfl
  | profileOpen row =>
    obtain ⟨vc, hvc, h⟩ := bind_eq_ok_iff.mp h
    cases h
    rfl
  | detailChoose item =>
    unfold Action.ops
    cases hd : s.detail with
    | none =>
      simp only [step, hd, Except.ok.injEq] at h
      rw [h]
      rfl
    | some vc =>
      simp only [step, hd] at h
      obtain ⟨⟨vc', app⟩, happ, h⟩ := bind_eq_ok_iff.mp h
      cases h
      exact DetailVC.choose_ops happ
  | detailDismiss =>
    cases h
    rfl
  | rowMenu row item =>
    obtain ⟨app, happ, h⟩ := bind_eq_ok_iff.mp h
    cases h
    simp only [ProfileController.addButtonTapped] at happ
    simp only [Action.ops]
    cases hi : ProfileController.rowActions[item]? with
    | none =>
      rw [hi] at happ
      exact happ
    | some action =>
      rw [hi] at happ
      cases action with
      | update title status => exact (runOps_singleton (o := .updateRow row status)).mpr happ
      | delete title => exact (runOps_singleton (o := .deleteRow row)).mpr happ
  | logout =>
    cases h
    rfl
  | login => cases ha
  | relaunch => cases ha

/-- A property of what the screens share is kept by an action if its operations keep it, and the
tab bar becoming the root screen, and a restart. -/
theorem step_inv {I : App → Prop} {f : Faults} {a : Action} {s s' : Session}
    (ho : ∀ p ∈ a.ops f s, ∀ t t', I t → p.1.exec p.2 t = .ok t' → I t')
    (ht : ∀ t, I t → I (SceneDelegate.setRootViewTabbar f.fetch t)) (hr : ∀ t : App, I t → I t.restart)
    (h : I s.app) (ha : s.step f a = .ok s') : I s'.app := by
  by_cases hroot : setsRoot a = true
  · cases a with
    | login =>
      cases ha
      exact ht _ h
    | relaunch =>
      cases ha
      exact ht _ (hr _ h)
    | _ => cases hroot
  · exact run_inv ho h (step_ops (Bool.eq_false_iff.mpr hroot) ha)

end Session

/-- What an operation of the detail screen's menu can be. -/
theorem DetailVC.ops_cases {item : ℕ} {f : Faults} {vc : DetailVC} {p : Op × Faults} (hp : p ∈ vc.ops item f) :
    (∃ game, ∃ action ∈ addActions, p = (.save game action.status, f)) ∨
    (∃ gameID title status label, ChangeAction.update title status label ∈ changeActions ∧
      p = (.update gameID status, f)) ∨
    (∃ gameID, p = (.delete gameID, f)) ∨ p = (.reload, { fetch := f.reloadFetch }) := by
  unfold DetailVC.ops at hp
  split at hp
  · split at hp
    next game action hgame haction =>
      exact .inl ⟨game, action, List.mem_of_getElem? haction, List.mem_singleton.mp hp⟩
    · cases hp
  · split at hp
    next gameID title status label hid haction =>
      exact .inr (.inl ⟨gameID, title, status, label, List.mem_of_getElem? haction, List.mem_singleton.mp hp⟩)
    next gameID title hid haction =>
      rcases List.mem_cons.mp hp with rfl | hp
      · exact .inr (.inr (.inl ⟨gameID, rfl⟩))
      · split at hp
        · exact .inr (.inr (.inr (List.mem_singleton.mp hp)))
        · cases hp
    · cases hp
  · cases hp

/-- **What an operation of an action can be**, and with which faults: one of the Profile list's, a
save or an update to a status of the menu chosen from, or a deletion. -/
theorem Action.ops_cases {f : Faults} {s : Session} {a : Action} {p : Op × Faults} (hp : p ∈ a.ops f s) :
    (p = (.loadProfile, f) ∨ ∃ index, p = (.selectSegment index, f)) ∨
    (∃ game, ∃ title ∈ MyRootViewController.addActions, p = (.homeSave game title, f)) ∨
    (∃ row title status, ProfileController.RowAction.update title status ∈ ProfileController.rowActions ∧
      p = (.updateRow row status, f)) ∨
    (∃ row, p = (.deleteRow row, f)) ∨
    ∃ item, ∃ vc : DetailVC, p ∈ vc.ops item f := by
  cases a with
  | visitProfile =>
    by_cases hc : s.app.profile.collectionView = none
    · rw [Action.ops, if_pos hc, List.mem_singleton] at hp
      exact .inl (.inl hp)
    · rw [Action.ops, if_neg hc] at hp
      cases hp
  | chooseSegment index => exact .inl (.inr ⟨index, List.mem_singleton.mp hp⟩)
  | homeAdd game item =>
    simp only [Action.ops, Option.mem_toList, Option.map_eq_some_iff] at hp
    obtain ⟨title, htitle, rfl⟩ := hp
    exact .inr (.inl ⟨game, title, List.mem_of_getElem? htitle, rfl⟩)
  | detailChoose item =>
    simp only [Action.ops] at hp
    cases hd : s.detail with
    | none => simp [hd] at hp
    | some vc =>
      simp only [hd, Option.map_some, Option.getD_some] at hp
      exact .inr (.inr (.inr (.inr ⟨item, vc, hp⟩)))
  | rowMenu row item =>
    simp only [Action.ops] at hp
    split at hp
    next title status hi =>
      exact .inr (.inr (.inl ⟨row, title, status, List.mem_of_getElem? hi, List.mem_singleton.mp hp⟩))
    next title hi => exact .inr (.inr (.inr (.inl ⟨row, List.mem_singleton.mp hp⟩)))
    · cases hp
  | homeOpen game => cases hp
  | profileOpen row => cases hp
  | detailDismiss => cases hp
  | logout => cases hp
  | login => cases hp
  | relaunch => cases hp

/-- An action with its faults none runs operations whose faults are none. -/
theorem Action.ops_faults_none {a : Action} {s : Session} {p : Op × Faults} (hp : p ∈ a.ops .none s) :
    p.2 = .none := by
  rcases Action.ops_cases hp with
    (rfl | ⟨_, rfl⟩) | ⟨_, _, -, rfl⟩ | ⟨_, _, _, -, rfl⟩ | ⟨_, rfl⟩ | ⟨item, vc, hp⟩
  · rfl
  · rfl
  · rfl
  · rfl
  · rfl
  · rcases DetailVC.ops_cases hp with ⟨_, _, -, rfl⟩ | ⟨_, _, _, _, -, rfl⟩ | ⟨_, rfl⟩ | rfl
    · rfl
    · rfl
    · rfl
    · rfl

end Booster
