import Booster.Models.Decoding
import Booster.Session.Progress

/-!
# The Home list

`MyRootViewController` fetches its games once, when its view is loaded, and lists them. The
completion sets `games` and leaves the `reloadData` to the main queue, so that the collection view counts the
games some time later; until then, and when the layout is toggled, it may ask for cells. A tap on a cell that was
configured is an action of the session on a game of the list, and leaves the list as it is. The
response is a parameter of the machine: whether it is there yet is the state's.

In every run a row that the view offers is one of `games`, and a cell shows the title of the game that a tap
on it opens or saves (`Right`, `cell_right`). What can trap is what a game lacks: `never_traps_iff` says for which
responses no run does, and `fetched_showable_iff` which games of a response those are.
-/

namespace Booster

open Theory

namespace MobyGamesService

variable {ν ε α : Type} (numbers : Numbers ν)

/-! ### Which documents make a game that can be shown -/

/-- The document has a value that is not `null`. -/
def Present (v : Json ν) (key : String) : Prop := ∃ w, v.valueAt [.key key] = some w ∧ w ≠ .null

/-- The document has an array that is not empty. -/
def NonEmpty (v : Json ν) (key : String) : Prop := ∃ w ws, v.valueAt [.key key] = some (.array (w :: ws))

/-- What the document of a game must have for the screens to show it. -/
structure Shown (v : Json ν) : Prop where
  gameId : Present v "game_id"
  sampleCover : Present v "sample_cover"
  sampleScreenshots : Present v "sample_screenshots"
  genres : NonEmpty v "genres"
  platforms : NonEmpty v "platforms"

theorem valueAt_key (members : List (String × Json ν)) (key : String) :
    (Json.object members).valueAt [.key key] = members.lookup key := by
  show (members.lookup key).bind some = members.lookup key
  exact Option.bind_fun_some _

theorem ne_none_iff_present {R : Json ν → α → Prop} {members : List (String × Json ν)} {key : String} {o : Option α}
    (h : MayHave R key members o) : o ≠ none ↔ Present (.object members) key := by
  rw [Present, valueAt_key]
  cases o with
  | none =>
    refine iff_of_false (fun hn => hn rfl) ?_
    rintro ⟨w, hw, hn⟩
    rcases h with h | h
    · rw [h] at hw
      cases hw
    · rw [h, Option.some.injEq] at hw
      exact hn hw.symm
  | some a =>
    obtain ⟨w, hw, hn, -⟩ := h
    exact iff_of_true (Option.some_ne_none a) ⟨w, hw, hn⟩

theorem exists_cons_iff_nonEmpty {R : Json ν → α → Prop} {members : List (String × Json ν)} {key : String}
    {o : Option (List α)} (h : MayHave (IsArray R) key members o) :
    (∃ a as, o = some (a :: as)) ↔ NonEmpty (.object members) key := by
  rw [NonEmpty, valueAt_key]
  cases o with
  | none =>
    refine iff_of_false (fun ⟨a, as, ha⟩ => nomatch ha) ?_
    rintro ⟨w, ws, hw⟩
    rcases h with h | h
    · rw [h] at hw
      cases hw
    · rw [h] at hw
      cases hw
  | some as =>
    obtain ⟨w, hw, -, elements, rfl, hel⟩ := h
    rw [hw]
    cases hel with
    | nil => exact iff_of_false (fun ⟨a, as, ha⟩ => nomatch ha) (fun ⟨w, ws, hw⟩ => nomatch hw)
    | cons ha has => exact iff_of_true ⟨_, _, rfl⟩ ⟨_, _, rfl⟩

theorem showable_iff_shown {v : Json ν} {game : Game} (h : IsObject (Game.In numbers) v game) :
    game.Showable ↔ Shown v := by
  obtain ⟨members, rfl, h⟩ := h
  constructor
  · intro hg
    exact {
      gameId := (ne_none_iff_present h.gameId).mp hg.gameId
      sampleCover := (ne_none_iff_present h.sampleCover).mp hg.sampleCover
      sampleScreenshots := (ne_none_iff_present h.sampleScreenshots).mp hg.sampleScreenshots
      genres := (exists_cons_iff_nonEmpty h.genres).mp hg.genres
      platforms := (exists_cons_iff_nonEmpty h.platforms).mp hg.platforms }
  · intro hs
    exact {
      gameId := (ne_none_iff_present h.gameId).mpr hs.gameId
      sampleCover := (ne_none_iff_present h.sampleCover).mpr hs.sampleCover
      sampleScreenshots := (ne_none_iff_present h.sampleScreenshots).mpr hs.sampleScreenshots
      genres := (exists_cons_iff_nonEmpty h.genres).mpr hs.genres
      platforms := (exists_cons_iff_nonEmpty h.platforms).mpr hs.platforms }

/-- **Which games of a response can be shown** is in the document: those with an id, a cover and screenshots that are
not `null`, and at least one genre and one platform. -/
theorem fetched_showable_iff {v : Json ν} {games : List Game}
    (h : Completion.fetchGames numbers (.ok v : Except ε (Json ν)) = .ok games) :
    ∃ elements, v.valueAt [.key "games"] = some (.array elements) ∧
      List.Forall₂ (fun w (game : Game) => game.Showable ↔ Shown w) elements games := by
  obtain ⟨v', hv', members, rfl, w, hw, elements, rfl, hel⟩ := (fetchGames_eq_ok_iff numbers).mp h
  obtain rfl : v = .object members := Except.ok.inj hv'
  exact ⟨elements, (valueAt_key members "games").trans hw, hel.imp fun _ _ hg => showable_iff_shown numbers hg⟩

theorem fetched_showable_iff_twoGames : ∃ games elements,
    Completion.fetchGames integers (.ok (twoGames (.number 8)) : Except Unit (Json ℤ)) = .ok games ∧
      (twoGames (.number 8)).valueAt [.key "games"] = some (.array elements) ∧
      List.Forall₂ (fun w (game : Game) => game.Showable ↔ Shown w) elements games := by
  obtain ⟨games, hgames⟩ : ∃ games,
      Completion.fetchGames integers (.ok (twoGames (.number 8)) : Except Unit (Json ℤ)) = .ok games := ⟨_, rfl⟩
  obtain ⟨elements, hv, hel⟩ := fetched_showable_iff integers hgames
  exact ⟨games, elements, hgames, hv, hel⟩

end MobyGamesService

/-! ### The list -/

/-- The Home list: `MyRootViewController`'s fields, and its collection view. -/
structure HomeList where
  /-- `games`. -/
  games : List Game := []
  /-- `isGridLayout`. -/
  isGridLayout : Bool := true
  /-- The number of items that the collection view has read, if it has read one. -/
  collectionView : Option ℕ := none
  /-- Whether the fetch of `fetchGameAndUpDateCollectionView` is still to be answered. -/
  fetching : Bool := false
  /-- The blocks on the main queue, each a `reloadData`. -/
  reloads : ℕ := 0
  /-- The cells of the collection view. -/
  cells : ℕ → CollectionItemGame := fun _ => {}

/-- What happens to the Home list. -/
inductive HomeEvent where
  /-- The fetch is answered. -/
  | completion
  /-- The next block on the main queue is run. -/
  | mainQueue
  /-- The collection view is laid out. -/
  | layout
  /-- `toggleLayout`. -/
  | toggleLayout
  /-- The collection view asks for a row, and has a cell for it. -/
  | cellForItemAt (cell row : ℕ)
  /-- A tap on the image of a cell, in the session of `es`. -/
  | imageTapped (cell : ℕ) (es : List Session.Event) (f : Faults)
  /-- A tap on the button of a cell and the choice of an item in its menu, in the session of `es`. -/
  | addButtonTapped (cell item : ℕ) (es : List Session.Event) (f : Faults)

namespace HomeList

variable {ν ε : Type} (numbers : Numbers ν) (response : Except ε (Json ν))

/-- `gameCollectionView.reloadData()`. -/
def reloadData (s : HomeList) : HomeList := { s with collectionView := some s.games.length }

/-- `viewDidLoad`. -/
def viewDidLoad : HomeList := { fetching := true }

/-- The game that a tap on a cell opens or saves. -/
def tapped (cell : ℕ) (s : HomeList) : Except Trap Game := do
  let rowOfIndexPath ← force "rowOfIndexPath" (s.cells cell).rowOfIndexPath
  subscript "self.games[rowOfIndexPath.row]" s.games rowOfIndexPath

/-- A tap on a cell: the session takes an action on its game. Before it is configured a cell has no recognizer. -/
def tap (cell : ℕ) (action : Game → Action) (f : Faults) (session : Session) (s : HomeList) : Except Trap HomeList :=
  if (s.cells cell).rowOfIndexPath = none then .ok s
  else do
    let game ← s.tapped cell
    let _ ← session.step f (action game)
    return s

/-- The list after an event, the fetch being answered with `response`. -/
def step : HomeEvent → HomeList → Except Trap HomeList
  | .completion, s =>
    if s.fetching then
      let s := { s with fetching := false }
      match MobyGamesService.Completion.fetchGames numbers response with
      | .ok fetchedGames => .ok { s with games := fetchedGames, reloads := s.reloads + 1 }
      | .error _ => .ok s
    else .ok s
  | .mainQueue, s =>
    match s.reloads with
    | 0 => .ok s
    | reloads + 1 => .ok { s.reloadData with reloads := reloads }
  | .layout, s => .ok { s with collectionView := some (s.collectionView.getD s.games.length) }
  | .toggleLayout, s => .ok { s.reloadData with isGridLayout := !s.isGridLayout }
  | .cellForItemAt cell row, s =>
    -- the view asks for the rows that it has read
    if row < s.collectionView.getD 0 then do
      let game ← subscript "games[indexPath.row]" s.games row
      let (content, _) ← MyRootViewController.cellForItemAt row game (s.cells cell)
      return { s with cells := Function.update s.cells cell content }
    else .ok s
  | .imageTapped cell es f, s => s.tap cell .homeOpen f (reach Session.next es Session.launch)
  | .addButtonTapped cell item es f, s => s.tap cell (.homeAdd · item) f (reach Session.next es Session.launch)

/-- What every run of the list keeps. -/
structure Right (s : HomeList) : Prop where
  /-- The rows read are rows. -/
  rows : ∀ n ∈ s.collectionView, n ≤ s.games.length
  /-- A cell has the title of the game at its row. -/
  cell : ∀ cell row, (s.cells cell).rowOfIndexPath = some row →
    ∃ game, s.games[row]? = some game ∧ (s.cells cell).nameGame = game.title
  /-- There are no games before the fetch is answered. -/
  fetching : s.fetching = true → s.games = []
  /-- The games are those of the response. -/
  fetched : s.games ≠ [] → MobyGamesService.Completion.fetchGames numbers response = .ok s.games

theorem right_viewDidLoad : Right numbers response viewDidLoad where
  rows _ hn := by cases hn
  cell _ _ hr := by cases hr
  fetching _ := rfl
  fetched hn := absurd rfl hn

/-- What the configuration of a cell for a game leaves, if the game has a cover. -/
theorem cellForItemAt_eq_ok_iff {row : ℕ} {game : Game} {cell : CollectionItemGame}
    {r : CollectionItemGame × Option String} : MyRootViewController.cellForItemAt row game cell = .ok r ↔
      ∃ cover, game.sampleCover = some cover ∧
        r = ({ cell with rowOfIndexPath := some row, nameGame := game.title }, some cover.thumbnailImageURL) := by
  unfold MyRootViewController.cellForItemAt
  cases game.sampleCover with
  | none => simp [bind, Except.bind]
  | some cover => simp [bind, Except.bind, pure, Except.pure, eq_comm]

variable {numbers response}

/-- What the configuration of a cell for a row offered leaves. -/
theorem step_cellForItemAt {cell row : ℕ} {s s' : HomeList} (hlt : row < s.collectionView.getD 0)
    (hs : step numbers response (.cellForItemAt cell row) s = .ok s') : ∃ game cover, s.games[row]? = some game ∧
      game.sampleCover = some cover ∧ s' = { s with
        cells := Function.update s.cells cell
          { s.cells cell with rowOfIndexPath := some row, nameGame := game.title } } := by
  rw [step, if_pos hlt] at hs
  obtain ⟨game, hgame, hs⟩ := bind_eq_ok_iff.mp hs
  obtain ⟨r, hc, hs⟩ := bind_eq_ok_iff.mp hs
  obtain ⟨cover, hcover, rfl⟩ := cellForItemAt_eq_ok_iff.mp hc
  exact ⟨game, cover, subscript_eq_ok_iff.mp hgame, hcover, (Except.ok.inj hs).symm⟩

/-- A tap leaves the list as it is. -/
theorem eq_of_tap {cell : ℕ} {action : Game → Action} {f : Faults} {session : Session} {s s' : HomeList}
    (h : s.tap cell action f session = .ok s') : s' = s := by
  unfold tap at h
  split at h
  · exact (Except.ok.inj h).symm
  · obtain ⟨game, -, h⟩ := bind_eq_ok_iff.mp h
    obtain ⟨session', -, h⟩ := bind_eq_ok_iff.mp h
    exact (Except.ok.inj h).symm

theorem Right.reloadData {s : HomeList} (h : Right numbers response s) : Right numbers response s.reloadData :=
  ⟨fun _ hn => Nat.le_of_eq (Option.some.inj hn).symm, h.cell, h.fetching, h.fetched⟩

/-- **An event keeps the list right.** -/
theorem right_step {e : HomeEvent} {s s' : HomeList} (h : Right numbers response s)
    (hs : step numbers response e s = .ok s') : Right numbers response s' := by
  cases e with
  | completion =>
    simp only [step] at hs
    split at hs
    next hf =>
      have hg := h.fetching hf
      split at hs
      next fetchedGames hok =>
        cases hs
        -- nothing was listed before
        refine ⟨fun n hn => ?_, fun cell row hr => ?_, nofun, fun _ => hok⟩
        · have := h.rows n hn
          rw [hg, List.length_nil] at this
          omega
        · obtain ⟨game, hgame, -⟩ := h.cell cell row hr
          rw [hg] at hgame
          cases hgame
      next error herr =>
        cases hs
        exact ⟨h.rows, h.cell, nofun, h.fetched⟩
    next hf =>
      cases hs
      exact h
  | mainQueue =>
    simp only [step] at hs
    split at hs
    · cases hs
      exact h
    · cases hs
      exact ⟨h.reloadData.rows, h.cell, h.fetching, h.fetched⟩
  | layout =>
    cases hs
    refine ⟨fun n hn => ?_, h.cell, h.fetching, h.fetched⟩
    obtain rfl := Option.some.inj hn
    cases hc : s.collectionView with
    | none => exact Nat.le_refl _
    | some m => exact h.rows m hc
  | toggleLayout =>
    cases hs
    exact ⟨h.reloadData.rows, h.cell, h.fetching, h.fetched⟩
  | cellForItemAt c row =>
    by_cases hlt : row < s.collectionView.getD 0
    · obtain ⟨game, cover, hgame, -, rfl⟩ := step_cellForItemAt hlt hs
      refine ⟨h.rows, fun cell r hr => ?_, h.fetching, h.fetched⟩
      by_cases hcell : cell = c
      · subst hcell
        simp only [Function.update_self, Option.some.injEq] at hr ⊢
        subst hr
        exact ⟨game, hgame, rfl⟩
      · simp only [Function.update_of_ne hcell] at hr ⊢
        exact h.cell cell r hr
    · simp only [step, if_neg hlt] at hs
      cases hs
      exact h
  | imageTapped c es f =>
    obtain rfl := eq_of_tap hs
    exact h
  | addButtonTapped c item es f =>
    obtain rfl := eq_of_tap hs
    exact h

theorem right_run {es : List HomeEvent} {s : HomeList} (hr : run (step numbers response) es viewDidLoad = .ok s) :
    Right numbers response s :=
  run_inv (I := Right numbers response) (fun _ _ _ _ h hs => right_step h hs) (right_viewDidLoad numbers response) hr

/-- A row that the view offers is a row. -/
theorem Right.lt_length {s : HomeList} (h : Right numbers response s) {row : ℕ}
    (hrow : row < s.collectionView.getD 0) : row < s.games.length := by
  cases hn : s.collectionView with
  | none => simp [hn] at hrow
  | some n =>
    rw [hn, Option.getD_some] at hrow
    exact Nat.lt_of_lt_of_le hrow (h.rows n hn)

/-- A configured cell finds its game. -/
theorem Right.tapped_ok {s : HomeList} (h : Right numbers response s) {cell : ℕ}
    (hc : (s.cells cell).rowOfIndexPath ≠ none) :
    ∃ game ∈ s.games, s.tapped cell = .ok game ∧ (s.cells cell).nameGame = game.title := by
  obtain ⟨row, hrow⟩ := Option.ne_none_iff_exists'.mp hc
  obtain ⟨game, hgame, ht⟩ := h.cell cell row hrow
  refine ⟨game, List.mem_of_getElem? hgame, ?_, ht⟩
  rw [tapped, hrow]
  exact subscript_eq_ok_iff.mpr hgame

/-- **What a cell shows is what a tap on it acts on.** In every run of the Home list, whenever the fetch is answered,
the queue runs, the layout is toggled and cells are tapped: each row the view offers is a row, and a tap on a cell that
was configured finds a game, the one whose title the cell shows. -/
theorem cell_right {es : List HomeEvent} {s : HomeList} (hr : run (step numbers response) es viewDidLoad = .ok s) :
    (∀ row < s.collectionView.getD 0, row < s.games.length) ∧
    ∀ cell, (s.cells cell).rowOfIndexPath ≠ none →
      ∃ game ∈ s.games, s.tapped cell = .ok game ∧ (s.cells cell).nameGame = game.title := by
  have h := right_run hr
  exact ⟨fun row hrow => h.lt_length hrow, fun cell hc => h.tapped_ok hc⟩

/-- Ask for the cell at a row, once the games are fetched and counted. -/
def showRow (row : ℕ) : List HomeEvent := [.completion, .mainQueue, .cellForItemAt 0 row]

/-- A response with one game, which has a cover and a title. -/
def oneGame : Json ℤ :=
  .object [("games", .array [.object [("title", .string "Tetris"), ("sample_cover", .object [("height", .number 800),
    ("image", .string "https://a/cover"), ("platforms", .array []), ("thumbnail_image", .string "https://a/small"),
    ("width", .number 600)])]])]

theorem cell_right_oneGame : ∃ s,
    run (step MobyGamesService.integers (.ok oneGame : Except Unit (Json ℤ))) (showRow 0) viewDidLoad = .ok s ∧
      ∃ game ∈ s.games, s.tapped 0 = .ok game ∧ (s.cells 0).nameGame = game.title := by
  obtain ⟨s, hs⟩ : ∃ s, run (step MobyGamesService.integers (.ok oneGame : Except Unit (Json ℤ))) (showRow 0)
      viewDidLoad = .ok s := ⟨_, rfl⟩
  have hc : (s.cells 0).rowOfIndexPath ≠ none := by
    cases hs
    exact Option.some_ne_none 0
  exact ⟨s, hs, (cell_right hs).2 0 hc⟩

/-- Each element of `games` is the document of a game fetched. -/
theorem isObject_of_fetched {v : Json ν} {elements : List (Json ν)} {games : List Game}
    (hf : MobyGamesService.Completion.fetchGames numbers (.ok v : Except ε (Json ν)) = .ok games)
    (hv : v.valueAt [.key "games"] = some (.array elements)) :
    List.Forall₂ (IsObject (Game.In numbers)) elements games := by
  obtain ⟨v', hv', members, rfl, w, hw, elements', rfl, hel⟩ := (MobyGamesService.fetchGames_eq_ok_iff numbers).mp hf
  obtain rfl : v = .object members := Except.ok.inj hv'
  rw [MobyGamesService.valueAt_key, hw, Option.some.injEq, Json.array.injEq] at hv
  exact hv ▸ hel

/-- A tap on a cell does not trap, if the action it takes does not on any game of the list. -/
theorem tap_ok {cell : ℕ} {action : Game → Action} {f : Faults} {session : Session} {s : HomeList}
    (h : Right numbers response s) (ha : ∀ game ∈ s.games, ∃ session', session.step f (action game) = .ok session') :
    ∃ s', s.tap cell action f session = .ok s' := by
  unfold tap
  split
  next => exact ⟨s, rfl⟩
  next hrow =>
    obtain ⟨game, hgame, ht, -⟩ := h.tapped_ok hrow
    obtain ⟨session', hs⟩ := ha game hgame
    exact ⟨s, bind_eq_ok_iff.mpr ⟨game, ht, bind_eq_ok_iff.mpr ⟨session', hs, rfl⟩⟩⟩

/-- What a session does with a game that can be shown does not trap. -/
theorem session_ok {game : Game} (hg : game.Showable) (es : List Session.Event) (f : Faults) :
    (∃ session, (reach Session.next es Session.launch).step f (.homeOpen game) = .ok session) ∧
      ∀ item, ∃ session, (reach Session.next es Session.launch).step f (.homeAdd game item) = .ok session :=
  ⟨(step_ok_iff (intact_reach es)).mpr ⟨hg.gameId, fun _ => (loads_iff rfl rfl).mpr
      ⟨hg.sampleCover, hg.sampleScreenshots, hg.genres, hg.platforms⟩⟩,
    fun _ => (step_ok_iff (intact_reach es)).mpr fun _ => hg.gameId⟩

/-- An event is carried out, if the games of the response can be shown. -/
theorem step_ok {s : HomeList} (h : Right numbers response s)
    (hc : ∀ games, MobyGamesService.Completion.fetchGames numbers response = .ok games →
      ∀ game ∈ games, game.Showable) (e : HomeEvent) : ∃ s', step numbers response e s = .ok s' := by
  have hshow : ∀ game ∈ s.games, game.Showable := fun game hgame =>
    hc _ (h.fetched (List.ne_nil_of_mem hgame)) game hgame
  cases e with
  | completion =>
    simp only [step]
    split
    · split <;> exact ⟨_, rfl⟩
    · exact ⟨_, rfl⟩
  | mainQueue =>
    simp only [step]
    split <;> exact ⟨_, rfl⟩
  | layout => exact ⟨_, rfl⟩
  | toggleLayout => exact ⟨_, rfl⟩
  | cellForItemAt cell row =>
    by_cases hlt : row < s.collectionView.getD 0
    · have hrow := h.lt_length hlt
      have hgame := List.getElem?_eq_getElem hrow
      obtain ⟨cover, hcover⟩ := Option.ne_none_iff_exists'.mp (hshow _ (List.getElem_mem hrow)).sampleCover
      simp only [step, if_pos hlt]
      exact ⟨_, bind_eq_ok_iff.mpr ⟨_, subscript_eq_ok_iff.mpr hgame,
        bind_eq_ok_iff.mpr ⟨_, cellForItemAt_eq_ok_iff.mpr ⟨cover, hcover, rfl⟩, rfl⟩⟩⟩
    · exact ⟨s, by simp only [step, if_neg hlt]⟩
  | imageTapped cell es f => exact tap_ok h fun game hgame => (session_ok (hshow game hgame) es f).1
  | addButtonTapped cell item es f => exact tap_ok h fun game hgame => (session_ok (hshow game hgame) es f).2 item

/-- Show a row and tap its image, in a session in which nothing has happened and nothing fails. -/
def openRow (row : ℕ) : List HomeEvent := showRow row ++ [.imageTapped 0 [] .none]

/-- A row opened can be shown. -/
theorem showable_of_openRow {games : List Game} {row : ℕ} {s : HomeList}
    (hf : MobyGamesService.Completion.fetchGames numbers response = .ok games) (hrow : row < games.length)
    (hr : run (step numbers response) (openRow row) viewDidLoad = .ok s) : games[row].Showable := by
  obtain ⟨s₁, h₁, hr⟩ := run_cons_ok.mp hr
  obtain ⟨s₂, h₂, hr⟩ := run_cons_ok.mp hr
  obtain ⟨s₃, h₃, hr⟩ := run_cons_ok.mp hr
  obtain ⟨s₄, h₄, -⟩ := run_cons_ok.mp hr
  simp only [step, viewDidLoad, if_true, hf, Except.ok.injEq] at h₁
  subst h₁
  cases h₂
  obtain ⟨game, cover, hgame, -, rfl⟩ := step_cellForItemAt (show row < (some games.length).getD 0 from hrow) h₃
  obtain rfl : games[row] = game := Option.some.inj ((List.getElem?_eq_getElem hrow).symm.trans hgame)
  simp only [step, tap, tapped, Function.update_self, reduceCtorEq, if_false] at h₄
  obtain ⟨game, ht, h₄⟩ := bind_eq_ok_iff.mp h₄
  obtain ⟨session, hs, -⟩ := bind_eq_ok_iff.mp h₄
  obtain rfl : games[row] = game := Option.some.inj (hgame.symm.trans (subscript_eq_ok_iff.mp ht))
  obtain ⟨hid, hl⟩ := (step_ok_iff (intact_reach [])).mp ⟨session, hs⟩
  obtain ⟨hc, hss, hgen, hp⟩ := (loads_iff rfl rfl).mp (hl rfl)
  exact ⟨hid, hc, hss, hgen, hp⟩

variable (numbers response)

/-- **For which responses the Home list never traps**: no run does, whatever the session of a tap has done and
whatever throws, exactly when, if the response decodes, each game of its document has an id, a cover and screenshots
that are not `null`, and at least one genre and one platform. -/
theorem never_traps_iff :
    (∀ es, ∃ s, run (step numbers response) es viewDidLoad = .ok s) ↔
      ∀ v elements games, response = .ok v →
        MobyGamesService.Completion.fetchGames numbers (.ok v : Except ε (Json ν)) = .ok games →
        v.valueAt [.key "games"] = some (.array elements) → ∀ w ∈ elements, MobyGamesService.Shown w := by
  constructor
  · rintro h v elements games rfl hf hv w hw
    have hel := isObject_of_fetched hf hv
    obtain ⟨i, hi, rfl⟩ := List.mem_iff_getElem.mp hw
    have hi' : i < games.length := hel.length_eq ▸ hi
    obtain ⟨s, hs⟩ := h (openRow i)
    exact (MobyGamesService.showable_iff_shown numbers (hel.get hi hi')).mp (showable_of_openRow hf hi' hs)
  · intro h es
    have hc : ∀ games, MobyGamesService.Completion.fetchGames numbers response = .ok games →
        ∀ game ∈ games, game.Showable := by
      intro games hf game hgame
      obtain ⟨v, rfl, members, rfl, w, hw, elements, rfl, hel⟩ :=
        (MobyGamesService.fetchGames_eq_ok_iff numbers).mp hf
      obtain ⟨i, hi, rfl⟩ := List.mem_iff_getElem.mp hgame
      have hi' : i < elements.length := hel.length_eq ▸ hi
      have hv := (MobyGamesService.valueAt_key members "games").trans hw
      exact (MobyGamesService.showable_iff_shown numbers (hel.get hi' hi)).mpr
        (h _ elements games rfl hf hv _ (List.getElem_mem hi'))
    refine run_of_inv (I := Right numbers response) (fun e _ s hs => ?_) (right_viewDidLoad numbers response)
    obtain ⟨s', hs'⟩ := step_ok hs hc e
    exact ⟨s', hs', right_step hs hs'⟩

end HomeList

end Booster
