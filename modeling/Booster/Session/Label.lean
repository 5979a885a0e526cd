import Booster.Session.Effects
import Booster.Session.Statuses
import Booster.Collection.Refinement

/-!
# When the label of the detail screen is right

`buttonStatus` should show the status of the game's record, or "Add" when it has
none (`LabelRight`). A screen opened to add sets it in the completion of each save,
after which the record has the status saved (`adding_choose`). A screen opened to change sets it
whether or not there was a record to update, and not at all when it deletes the record, while
it stays open (`changing_choose`). So after every choice the label is right if the
screen was opened to add, or if it has a record and Delete is not chosen, and
in no other case, but that of no choice at all (`label_throughout_iff`).
-/

namespace Booster

open Theory ProfileController

/-- The `game_id` a screen is about. -/
def DetailVC.key (vc : DetailVC) : Option Int32 := (vc.gameID.or (vc.game.bind Game.gameId)).map Int64.toInt32

/-- The label shows the status of the stored record with `game_id` `k`, or "Add". -/
def ShowsStatus (text : String) (k : Int32) (c : Context GameSave) : Prop :=
  match stored c k with
  | some a => a.status = some text
  | none => text = "Add"

/-- The label of the screen presented is right. -/
def LabelRight (s : Session) : Prop := ∀ vc ∈ s.detail, ∀ k ∈ vc.key, ShowsStatus vc.buttonStatus k s.app.context

/-- The number of items in the menu a tap on the label presents. -/
def DetailVC.menuLength (vc : DetailVC) : ℕ :=
  match vc.tapGesture with
  | some .addButtonTapped => addActions.length
  | some .changeButtonTapped => changeActions.length
  | none => 0

/-- Whether an item of the change menu is Delete. -/
def isDelete (item : ℕ) : Bool :=
  match DetailVC.changeActions[item]? with
  | some (.delete _) => true
  | _ => false

/-- A choice on the screen presented. -/
theorem step_detailChoose {f : Faults} {item : ℕ} {s : Session} {vc : DetailVC} (hd : s.detail = some vc)
    {vc' : DetailVC} {t : App} (h : vc.choose item f s.app = .ok (vc', t)) :
    s.step f (.detailChoose item) = .ok ⟨t, some vc'⟩ := by
  rw [Session.step, hd]
  exact bind_eq_ok_iff.mpr ⟨_, h, rfl⟩

/-! ### The screen opened to add -/

/-- The screen presented is one opened to add `game`. -/
structure Adding (game : Game) (gameId : Int64) (vc : DetailVC) (s : Session) : Prop where
  detail : s.detail = some vc
  clean : Clean s.app
  tapGesture : vc.tapGesture = some .addButtonTapped
  noGameID : vc.gameID = none
  ofGame : vc.game = some game
  hasID : game.gameId = some gameId

theorem Adding.step {game : Game} {gameId : Int64} {vc : DetailVC} {s : Session} (h : Adding game gameId vc s)
    {item : ℕ} {action : DetailVC.AddAction} (ha : DetailVC.addActions[item]? = some action) {t : App}
    {calls : List Bool}
    (hs : CoredataController.saveGameToCoreData game action.status .none s.app = .ok (t, calls)) :
    s.step .none (.detailChoose item) =
      .ok ⟨t, some { vc with buttonStatus := calls.foldl action.completion vc.buttonStatus }⟩ := by
  have hc : vc.choose item .none s.app = vc.addButtonTapped item .none s.app := by rw [DetailVC.choose, h.tapGesture]
  refine step_detailChoose h.detail (hc.trans ?_)
  rw [DetailVC.addButtonTapped, h.ofGame, ha]
  exact bind_eq_ok_iff.mpr ⟨_, hs, rfl⟩

/-- Each action of the menu shows the status it saves. -/
theorem label_addActions : ∀ action ∈ DetailVC.addActions, action.label = action.status := by decide

/-- The record a save leaves has the status saved. -/
theorem showsStatus_save {s : App} (h : Clean s) {game : Game} {gameId : Int64} (hg : game.gameId = some gameId)
    (status : String) : ShowsStatus status gameId.toInt32 ((saveEffect game status s).apply s).context := by
  simp only [saveEffect, hg]
  cases hf : firstWithID gameId s.context with
  | some i =>
    obtain ⟨g, hm, hk⟩ := mem_view_of_firstWithID hf
    simp only [ShowsStatus, Effect.apply, stored_statusSet h hm, Command.apply, ← hk, stored_of_mem_view h hm,
      Option.map_some, Function.update_self]
  | none =>
    simp only [ShowsStatus, Effect.apply, stored_inserted h hf, Function.update_self]
    rfl

/-- **A choice on the screen opened to add** leaves the label right. -/
theorem adding_choose {game : Game} {gameId : Int64} {vc : DetailVC} {s : Session}
    (h : Adding game gameId vc s) {item : ℕ} (hi : item < vc.menuLength) :
    ∃ vc' s', s.step .none (.detailChoose item) = .ok s' ∧ Adding game gameId vc' s' ∧ LabelRight s' := by
  rw [DetailVC.menuLength, h.tapGesture] at hi
  obtain ⟨action, ha⟩ : ∃ action, DetailVC.addActions[item]? = some action := ⟨_, List.getElem?_eq_getElem hi⟩
  have hs := save_eq h.hasID action.status s.app
  have hstep : s.step .none (.detailChoose item) =
      .ok ⟨(saveEffect game action.status s.app).apply s.app, some { vc with buttonStatus := action.label }⟩ := by
    rw [← (save_effect hs).1]
    exact h.step ha hs
  refine ⟨{ vc with buttonStatus := action.label }, _, hstep, ?_, ?_⟩
  · exact ⟨rfl, clean_action h.clean hstep, h.tapGesture, h.noGameID, h.ofGame, h.hasID⟩
  · rintro vc' hvc' k hk
    cases hvc'
    simp only [DetailVC.key, h.noGameID, h.ofGame, h.hasID, Option.none_or, Option.bind_some, Option.map_some,
      Option.mem_some_iff] at hk
    subst hk
    rw [label_addActions action (List.mem_of_getElem? ha)]
    exact showsStatus_save h.clean h.hasID action.status

/-! ### The screen opened to change -/

/-- The screen presented is one opened to change the game with `gameID`. -/
structure Changing (gameID : Int64) (vc : DetailVC) (s : Session) : Prop where
  detail : s.detail = some vc
  clean : Clean s.app
  tapGesture : vc.tapGesture = some .changeButtonTapped
  hasGameID : vc.gameID = some gameID
  /-- The label is one of the four statuses, so not "Add". -/
  label : vc.buttonStatus ∈ statuses
  /-- The delegate is a Profile screen whose view is loaded. -/
  loaded : vc.reloadDelegate = true → s.app.profile.collectionView ≠ none

theorem Changing.step {gameID : Int64} {vc : DetailVC} {s : Session} (h : Changing gameID vc s) {item : ℕ}
    {vc' : DetailVC} {t : App} (hc : vc.changeButtonTapped item .none s.app = .ok (vc', t)) :
    s.step .none (.detailChoose item) = .ok ⟨t, some vc'⟩ := by
  refine step_detailChoose h.detail ?_
  rw [DetailVC.choose, h.tapGesture]
  exact hc

theorem key_of_changing {gameID : Int64} {vc : DetailVC} {s : Session} (h : Changing gameID vc s) :
    vc.key = some gameID.toInt32 := by
  simp [DetailVC.key, h.hasGameID]

theorem add_notMem_statuses : "Add" ∉ statuses := by decide

/-- Each update of the menu shows the status it writes. -/
theorem label_changeActions : ∀ action ∈ DetailVC.changeActions, ∀ title status label,
    action = .update title status label → label = status := by
  intro action ha title status label he
  subst he
  revert ha
  simp only [DetailVC.changeActions, List.mem_cons, DetailVC.ChangeAction.update.injEq, reduceCtorEq,
    List.not_mem_nil, or_false]
  rintro (⟨-, rfl, rfl⟩ | ⟨-, rfl, rfl⟩ | ⟨-, rfl, rfl⟩ | ⟨-, rfl, rfl⟩) <;> rfl

/-- Whether the game of a screen has a stored record. -/
def Recorded (gameID : Int64) (s : Session) : Prop := stored s.app.context gameID.toInt32 ≠ none

/-- Without a record, the label of a screen opened to change is wrong. -/
theorem not_labelRight_of_not_recorded {gameID : Int64} {vc : DetailVC} {s : Session}
    (h : Changing gameID vc s) (hr : ¬Recorded gameID s) : ¬LabelRight s := by
  intro hl
  have := hl vc h.detail _ (key_of_changing h)
  rw [ShowsStatus, not_not.mp hr] at this
  exact add_notMem_statuses (this ▸ h.label)

/-- What an update of the menu leaves: the label with the status, the record too if there is
one, and no record if there is none. -/
theorem changing_update {gameID : Int64} {vc : DetailVC} {s : Session} (h : Changing gameID vc s) {item : ℕ}
    {title status label : String} (hi : DetailVC.changeActions[item]? = some (.update title status label)) :
    ∃ vc' s', s.step .none (.detailChoose item) = .ok s' ∧ Changing gameID vc' s' ∧
      (Recorded gameID s' ↔ Recorded gameID s) ∧ (Recorded gameID s → LabelRight s') := by
  obtain rfl : label = status := label_changeActions _ (List.mem_of_getElem? hi) title status label rfl
  have hst : label ∈ statuses := mem_statuses_changeActions _ (List.mem_of_getElem? hi) label rfl
  have hstep := h.step (DetailVC.changeButtonTapped_update h.hasGameID hi)
  rw [Faults.none, update_eq] at hstep
  have hc := clean_action h.clean hstep
  cases hf : firstWithID gameID s.app.context with
  | some i =>
    rw [hf] at hstep hc
    obtain ⟨g, hm, hk⟩ := mem_view_of_firstWithID hf
    have hr : stored s.app.context gameID.toInt32 = some g.saved := hk ▸ stored_of_mem_view h.clean hm
    have hr' : stored (s.app.statusSet i label).context gameID.toInt32 =
        some { g.saved with status := some label } := by
      rw [stored_statusSet h.clean hm, hk, Command.apply, Function.update_self, hr, Option.map_some]
    refine ⟨{ vc with buttonStatus := label }, _, hstep, ⟨rfl, hc, h.tapGesture, h.hasGameID, hst, h.loaded⟩,
      ?_, fun _ => ?_⟩
    · exact iff_of_true (by rw [Recorded, hr']; exact Option.some_ne_none _)
        (by rw [Recorded, hr]; exact Option.some_ne_none _)
    · rintro vc' hvc' k hkey
      cases hvc'
      simp only [DetailVC.key, h.hasGameID, Option.some_or, Option.map_some, Option.mem_some_iff] at hkey
      subst hkey
      rw [ShowsStatus, hr']
  | none =>
    rw [hf] at hstep hc
    have hr : ¬Recorded gameID s := not_not.mpr
      ((stored_eq_none_iff h.clean).mpr (firstWithID_eq_none_iff_notMem.mp hf))
    exact ⟨{ vc with buttonStatus := label }, _, hstep, ⟨rfl, hc, h.tapGesture, h.hasGameID, hst, h.loaded⟩,
      Iff.rfl, fun hr' => absurd hr' hr⟩

/-- What Delete leaves: the label as it was, and no record. -/
theorem changing_delete {gameID : Int64} {vc : DetailVC} {s : Session} (h : Changing gameID vc s) {item : ℕ}
    {title : String} (hi : DetailVC.changeActions[item]? = some (.delete title)) :
    ∃ s', s.step .none (.detailChoose item) = .ok s' ∧ Changing gameID vc s' ∧ ¬Recorded gameID s' := by
  -- the context without the record, whether or not there was one
  have hd : ∃ app : App, ({ s.app with context :=
        CoredataController.deleteGameFromCoreData gameID false false s.app.context } : App) = app ∧
      Clean app ∧ app.profile = s.app.profile ∧ stored app.context gameID.toInt32 = none := by
    rw [delete_eq]
    cases hf : firstWithID gameID s.app.context with
    | some i =>
      obtain ⟨g, hm, hk⟩ := mem_view_of_firstWithID hf
      refine ⟨_, rfl, clean_deleted h.clean i, rfl, ?_⟩
      rw [stored_deleted h.clean hm, hk, Command.apply, Function.update_self]
    | none =>
      exact ⟨_, rfl, h.clean, rfl, (stored_eq_none_iff h.clean).mpr (firstWithID_eq_none_iff_notMem.mp hf)⟩
  obtain ⟨app, hd, hc, hp, hr⟩ := hd
  cases hrd : vc.reloadDelegate with
  | true =>
    have hl : app.profile.collectionView ≠ none := hp ▸ h.loaded hrd
    have hstep : s.step .none (.detailChoose item) = .ok ⟨app.listing fun _ => true, some vc⟩ := by
      refine h.step ?_
      rw [DetailVC.changeButtonTapped_delete h.hasGameID hi, hrd, if_pos rfl, Faults.none, hd]
      exact bind_eq_ok_iff.mpr ⟨_, ProfileController.reloadData_eq hl, rfl⟩
    refine ⟨_, hstep, ⟨rfl, clean_action h.clean hstep, h.tapGesture, h.hasGameID, h.label, ?_⟩, not_not.mpr hr⟩
    intro _
    exact Option.some_ne_none _
  | false =>
    have hstep : s.step .none (.detailChoose item) = .ok ⟨app, some vc⟩ := by
      refine h.step ?_
      rw [DetailVC.changeButtonTapped_delete h.hasGameID hi, hrd, if_neg Bool.false_ne_true, Faults.none, hd]
      rfl
    refine ⟨_, hstep, ⟨rfl, hc, h.tapGesture, h.hasGameID, h.label, ?_⟩, not_not.mpr hr⟩
    intro hrd'
    rw [hrd] at hrd'
    cases hrd'

/-- **A choice on the screen opened to change**: it leaves the label right exactly when there
was a record and the choice is not Delete, and a record exactly then. -/
theorem changing_choose {gameID : Int64} {vc : DetailVC} {s : Session} (h : Changing gameID vc s) {item : ℕ}
    (hi : item < DetailVC.changeActions.length) :
    ∃ vc' s', s.step .none (.detailChoose item) = .ok s' ∧ Changing gameID vc' s' ∧
      (LabelRight s' ↔ Recorded gameID s ∧ isDelete item = false) ∧
      (Recorded gameID s' ↔ Recorded gameID s ∧ isDelete item = false) := by
  have ha : DetailVC.changeActions[item]? = some DetailVC.changeActions[item] := List.getElem?_eq_getElem hi
  cases hc : DetailVC.changeActions[item] with
  | update title status label =>
    rw [hc] at ha
    obtain ⟨vc', s', hs, h', hr, hl⟩ := changing_update h ha
    have hd : isDelete item = false := by rw [isDelete, ha]
    refine ⟨vc', s', hs, h', ?_, by rw [hr, hd]; simp⟩
    constructor
    · intro hlr
      exact ⟨hr.mp (not_not.mp fun hn => not_labelRight_of_not_recorded h' hn hlr), hd⟩
    · rintro ⟨hrec, -⟩
      exact hl hrec
  | delete title =>
    rw [hc] at ha
    obtain ⟨s', hs, h', hr⟩ := changing_delete h ha
    have hd : isDelete item = true := by rw [isDelete, ha]
    exact ⟨vc, s', hs, h', iff_of_false (not_labelRight_of_not_recorded h' hr) (by simp [hd]),
      iff_of_false hr (by simp [hd])⟩

/-! ### Opening a screen -/

/-- A session in which nothing fails keeps every record's status one of the four. -/
theorem statused_session {as : List Action} {s : Session}
    (h : run (Session.step .none) as Session.launch = .ok s) : s.app.context.Everywhere Statused :=
  run_inv (I := fun s : Session => s.app.context.Everywhere Statused) (fun _ _ _ _ hi hs => statused_action hi hs)
    (Context.everywhere_empty Statused) h

theorem mem_statuses_of_statused {g : GameSave} (h : Statused g) : ∃ status ∈ statuses, g.status = some status := by
  obtain ⟨status, hs, he⟩ := List.mem_map.mp h
  exact ⟨status, hs, he.symm⟩

/-- A screen opened from Home is opened to add a game without a record, or to change. -/
theorem opened_home {s s' : Session} (hc : Clean s.app) (hs : s.app.context.Everywhere Statused) {game : Game}
    (h : s.step .none (.homeOpen game) = .ok s') {vc : DetailVC} (hv : s'.detail = some vc) :
    (∃ gameId, Adding game gameId vc s') ∨ ∃ gameID, Changing gameID vc s' := by
  obtain ⟨vc', hvc, he⟩ := bind_eq_ok_iff.mp h
  cases he
  obtain rfl : vc' = vc := Option.some.inj hv
  obtain ⟨gameId, hg, hvc⟩ := bind_eq_ok_iff.mp hvc
  have hg := force_eq_ok_iff.mp hg
  simp only [Faults.none, Bool.false_eq_true, if_false] at hvc
  split at hvc
  next i l hf =>
    obtain ⟨g, hm, -⟩ := s.app.context.mem_fetch.mp (hf ▸ List.mem_cons_self : i ∈ s.app.context.fetch _)
    obtain ⟨status, hst, hgs⟩ := mem_statuses_of_statused (hs.view _ hm)
    rw [s.app.context.memory_of_mem_view hm, Option.bind_some, hgs, force_some] at hvc
    replace hvc : DetailVC.viewDidLoad
      { gameID := some g.gameId.toInt64, status := status, game := some game } = .ok vc' := hvc
    obtain ⟨hid, htap, hlabel, hdel⟩ := DetailVC.viewDidLoad_of_gameID rfl hvc
    refine .inr ⟨g.gameId.toInt64, rfl, hc, htap, hid, ?_, fun hd => ?_⟩
    · rw [hlabel]
      exact hst
    · rw [hdel] at hd
      cases hd
  next hf =>
    obtain ⟨hid, hgame, htap, -⟩ := DetailVC.viewDidLoad_of_game rfl rfl hvc
    exact .inl ⟨gameId, rfl, hc, htap, hid, hgame, hg⟩

/-- A screen opened from a Profile row is opened to change. -/
theorem opened_profile {s s' : Session} (hc : Clean s.app) (hs : s.app.context.Everywhere Statused) {row : ℕ}
    (h : s.step .none (.profileOpen row) = .ok s') {vc : DetailVC} (hv : s'.detail = some vc) :
    ∃ gameID, Changing gameID vc s' := by
  obtain ⟨vc', hvc, he⟩ := bind_eq_ok_iff.mp h
  cases he
  obtain rfl : vc' = vc := Option.some.inj hv
  obtain ⟨i, hr, hvc⟩ := bind_eq_ok_iff.mp hvc
  have hr := subscript_eq_ok_iff.mp hr
  obtain ⟨g, hm, -⟩ := hc.listed i (List.mem_of_getElem? hr)
  obtain ⟨status, hst, hgs⟩ := mem_statuses_of_statused (hs.memory i g hm)
  simp only [hm, Option.map_some, force_some, Option.bind_some, hgs, bind, Except.bind] at hvc
  obtain ⟨hid, htap, hlabel, -⟩ := DetailVC.viewDidLoad_of_gameID rfl hvc
  refine ⟨g.gameId.toInt64, rfl, hc, htap, hid, ?_, fun _ => hc.loaded hr⟩
  rw [hlabel]
  exact hst

/-! ### Any sequence of choices -/

/-- A choice of an item of the menu, when nothing fails. -/
def choose : ℕ → Session → Except Trap Session := fun item => Session.step .none (.detailChoose item)

theorem adding_run {game : Game} {gameId : Int64} {vc : DetailVC} {s : Session} (h : Adding game gameId vc s)
    {items : List ℕ} (hi : ∀ item ∈ items, item < vc.menuLength) :
    (∃ t, run choose items s = .ok t) ∧ Throughout choose LabelRight items s := by
  have hlen : ∀ item ∈ items, ∀ s, (∃ vc, Adding game gameId vc s) →
      ∃ s', choose item s = .ok s' ∧ (∃ vc, Adding game gameId vc s') ∧ LabelRight s' := by
    rintro item hmem s ⟨vc', h'⟩
    have hlt : item < vc'.menuLength := by
      rw [DetailVC.menuLength, h'.tapGesture, ← h.tapGesture]
      exact hi item hmem
    obtain ⟨vc'', s', hs, ha, hl⟩ := adding_choose h' hlt
    exact ⟨s', hs, ⟨vc'', ha⟩, hl⟩
  constructor
  · refine run_of_inv (I := fun s => ∃ vc, Adding game gameId vc s) (fun item hmem s hs => ?_) ⟨vc, h⟩
    obtain ⟨s', hs', ha, -⟩ := hlen item hmem s hs
    exact ⟨s', hs', ha⟩
  · refine throughout_of_inv (I := fun s => ∃ vc, Adding game gameId vc s) (fun item hmem s t hs ht => ?_) ⟨vc, h⟩
    obtain ⟨s', hs', ha⟩ := hlen item hmem s hs
    rw [hs', Except.ok.injEq] at ht
    exact ht ▸ ha

theorem changing_run {gameID : Int64} {items : List ℕ} (hi : ∀ item ∈ items, item < DetailVC.changeActions.length)
    {vc : DetailVC} {s : Session} (h : Changing gameID vc s) : ∃ t, run choose items s = .ok t := by
  refine run_of_inv (I := fun s => ∃ vc, Changing gameID vc s) (fun item hmem s hs => ?_) ⟨vc, h⟩
  obtain ⟨vc', h'⟩ := hs
  obtain ⟨vc'', s', hs', hc, -⟩ := changing_choose h' (hi item hmem)
  exact ⟨s', hs', vc'', hc⟩

/-- From a state with a record, the label is right throughout choices none of which is Delete. -/
theorem changing_throughout {gameID : Int64} {items : List ℕ} {vc : DetailVC} {s : Session}
    (hi : ∀ item ∈ items, item < DetailVC.changeActions.length) (h : Changing gameID vc s) :
    items = [] ∨ Recorded gameID s ∧ (∀ item ∈ items, isDelete item = false) ↔
      Throughout choose LabelRight items s := by
  induction items generalizing vc s with
  | nil => exact iff_of_true (.inl rfl) trivial
  | cons item items ih =>
    obtain ⟨vc', s', hs, h', hl, hr⟩ := changing_choose h (hi item List.mem_cons_self)
    rw [throughout_cons (show choose item s = .ok s' from hs), hl,
      ← ih (fun it hm => hi it (List.mem_cons_of_mem _ hm)) h', hr]
    simp only [reduceCtorEq, false_or, List.forall_mem_cons]
    constructor
    · rintro ⟨hrec, hd, hds⟩
      exact ⟨⟨hrec, hd⟩, .inr ⟨⟨hrec, hd⟩, hds⟩⟩
    · rintro ⟨⟨hrec, hd⟩, rfl | ⟨-, hds⟩⟩
      · exact ⟨hrec, hd, fun _ hm => by cases hm⟩
      · exact ⟨hrec, hd, hds⟩

/-- A game saved, opened from Home, and deleted there. -/
def deleteOnScreen (game : Game) : List Action := [.homeAdd game 2, .homeOpen game, .detailChoose 4]

/-- A game with all it takes to be shown. -/
def sampleGame : Game :=
  { Game.bare 7 with
    genres := some [⟨"Basic Genres", 1, 1, "Action"⟩]
    platforms := some [⟨"1990", 1, "Linux"⟩]
    sampleCover := some ⟨1, "cover", [], "thumbnail", 1⟩
    sampleScreenshots := some [] }

/-- The label goes on showing the status then, and there is no record. -/
theorem deleteOnScreen_not_labelRight :
    ∃ s vc, run (Session.step .none) (deleteOnScreen sampleGame) Session.launch = .ok s ∧ s.detail = some vc ∧
      vc.buttonStatus = "Played" ∧ stored s.app.context 7 = none ∧ ¬LabelRight s :=
  ⟨_, _, rfl, rfl, rfl, rfl, fun h => absurd (h _ rfl 7 rfl) (show "Played" ≠ "Add" by decide)⟩

/-- **The label is right after every choice** on a screen opened from Home or from a Profile
row, in a session in which nothing fails, exactly when the screen was opened to add, or its
game has a record and Delete is not among the choices; no choice traps. -/
theorem label_throughout_iff (before : List Action) (a : Action) (items : List ℕ) {s s' : Session} {vc : DetailVC}
    (hb : run (Session.step .none) before Session.launch = .ok s)
    (ha : (∃ game, a = .homeOpen game) ∨ ∃ row, a = .profileOpen row) (ho : s.step .none a = .ok s')
    (hv : s'.detail = some vc) (hi : ∀ item ∈ items, item < vc.menuLength) :
    (∃ t, run choose items s' = .ok t) ∧
    (Throughout choose LabelRight items s' ↔
      items = [] ∨ vc.tapGesture = some .addButtonTapped ∨
        (∃ gameID ∈ vc.gameID, Recorded gameID s') ∧ ∀ item ∈ items, isDelete item = false) := by
  have hopen : (∃ game gameId, Adding game gameId vc s') ∨ ∃ gameID, Changing gameID vc s' := by
    rcases ha with ⟨game, rfl⟩ | ⟨row, rfl⟩
    · rcases opened_home (clean_session hb) (statused_session hb) ho hv with ⟨gameId, h⟩ | h
      · exact .inl ⟨game, gameId, h⟩
      · exact .inr h
    · exact .inr (opened_profile (clean_session hb) (statused_session hb) ho hv)
  rcases hopen with ⟨game, gameId, h⟩ | ⟨gameID, h⟩
  · obtain ⟨hrun, hall⟩ := adding_run h hi
    exact ⟨hrun, iff_of_true hall (.inr (.inl h.tapGesture))⟩
  · rw [DetailVC.menuLength, h.tapGesture] at hi
    refine ⟨changing_run hi h, ?_⟩
    rw [← changing_throughout hi h, h.tapGesture, h.hasGameID]
    simp

theorem label_throughout_iff_deleteOnScreen :
    ∃ s s' vc, run (Session.step .none) [.homeAdd sampleGame 2] Session.launch = .ok s ∧
      s.step .none (.homeOpen sampleGame) = .ok s' ∧ s'.detail = some vc ∧
      (∃ t, run choose [1, 4] s' = .ok t) ∧
      (Throughout choose LabelRight [1, 4] s' ↔
        [1, 4] = [] ∨ vc.tapGesture = some .addButtonTapped ∨
          (∃ gameID ∈ vc.gameID, Recorded gameID s') ∧ ∀ item ∈ [1, 4], isDelete item = false) :=
  ⟨_, _, _, rfl, rfl, rfl,
    label_throughout_iff [.homeAdd sampleGame 2] (.homeOpen sampleGame) [1, 4] rfl (.inl ⟨_, rfl⟩) rfl rfl (by decide)⟩

end Booster
