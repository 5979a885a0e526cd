import Booster.Session.Statuses
import Booster.Collection.NoFaults

/-!
# Which games can be shown and saved

Every field of a decoded `Game` is optional, and the functions a game goes through
unwrap different ones of them: the cell its cover, the tap and the two saves its
`gameId`, the detail screen the cover, the screenshots, the genres and the
platforms, of the last two indexing the first tag. What all of them need together is
`Game.Showable`, and `showable_iff` says that none of them traps exactly on such a
game, in every state of every session and whatever in Core Data throws.
-/

namespace Booster

open Theory

/-- What a game must have to go through the app without a trap. -/
structure Game.Showable (game : Game) : Prop where
  /-- A `gameId`. -/
  gameId : game.gameId ≠ none
  /-- A cover. -/
  sampleCover : game.sampleCover ≠ none
  /-- Screenshots, if only an empty list of them. -/
  sampleScreenshots : game.sampleScreenshots ≠ none
  /-- A genre. -/
  genres : ∃ genre genres, game.genres = some (genre :: genres)
  /-- A platform. -/
  platforms : ∃ platform platforms, game.platforms = some (platform :: platforms)

/-! ### What each function needs -/

theorem cellForItemAt_ok_iff {row : ℕ} {game : Game} {cell : CollectionItemGame} :
    (∃ r, MyRootViewController.cellForItemAt row game cell = .ok r) ↔ game.sampleCover ≠ none := by
  unfold MyRootViewController.cellForItemAt
  cases game.sampleCover with
  | none => simp [bind, Except.bind]
  | some sampleCover => simp [bind, Except.bind, pure, Except.pure]

theorem exists_map_ne_nil_iff {α β : Type} {f : α → β} {o : Option (List α)} :
    (∃ l, o = some l ∧ l.map f ≠ []) ↔ ∃ a l, o = some (a :: l) := by
  constructor
  · rintro ⟨l, rfl, hl⟩
    obtain ⟨a, l', rfl⟩ := List.exists_cons_of_ne_nil (fun h : l = [] => hl (h ▸ rfl))
    exact ⟨a, l', rfl⟩
  · rintro ⟨a, l, rfl⟩
    exact ⟨_, rfl, by simp⟩

/-- What a game must have to be shown on a screen with no tags yet. -/
theorem loads_iff {vc : DetailVC} {game : Game} (hg : vc.tagListView = []) (hp : vc.tagListViewPlatform = []) :
    vc.Loads game ↔ game.sampleCover ≠ none ∧ game.sampleScreenshots ≠ none ∧
      (∃ genre genres, game.genres = some (genre :: genres)) ∧
      ∃ platform platforms, game.platforms = some (platform :: platforms) := by
  rw [← exists_map_ne_nil_iff (f := Genre.genreName), ← exists_map_ne_nil_iff (f := Platform.platformName)]
  constructor
  · intro h
    obtain ⟨genres, hgenres, hne⟩ := h.genres
    obtain ⟨platforms, hplatforms, hne'⟩ := h.platforms
    rw [hg, List.nil_append] at hne
    rw [hp, List.nil_append] at hne'
    exact ⟨h.sampleCover, h.sampleScreenshots, ⟨genres, hgenres, hne⟩, ⟨platforms, hplatforms, hne'⟩⟩
  · rintro ⟨hc, hs, ⟨genres, hgenres, hne⟩, ⟨platforms, hplatforms, hne'⟩⟩
    exact {
      sampleCover := hc
      sampleScreenshots := hs
      genres := ⟨genres, hgenres, by rw [hg, List.nil_append]; exact hne⟩
      platforms := ⟨platforms, hplatforms, by rw [hp, List.nil_append]; exact hne'⟩ }

/-- A screen with no tags yet opens on a game exactly when it can load it. -/
theorem viewDidLoad_ok_of_loads {vc : DetailVC} {game : Game} (hg : vc.game = some game) (h : vc.Loads game) :
    ∃ vc', vc.viewDidLoad = .ok vc' := by
  unfold DetailVC.viewDidLoad
  cases vc.gameID with
  | some gameID =>
    obtain ⟨v, hv⟩ := DetailVC.loadGameToView_ok_iff.mpr h
    simp only [hg, hv]
    exact ⟨_, rfl⟩
  | none =>
    simp only [hg]
    exact DetailVC.loadGameToView_ok_iff.mpr ⟨h.sampleCover, h.sampleScreenshots, h.genres, h.platforms⟩

/-- A tap on a game that has what it takes opens its screen. -/
theorem imageTapped_ok {s : App} (hs : s.context.Everywhere Statused) {game : Game} (h : game.Showable)
    (throws : Bool) : ∃ vc, MyRootViewController.imageTapped game throws s = .ok vc := by
  obtain ⟨gameId, hid⟩ := Option.ne_none_iff_exists'.mp h.gameId
  have hl : ∀ vc : DetailVC, vc.tagListView = [] → vc.tagListViewPlatform = [] → vc.Loads game := fun vc hg hp =>
    (loads_iff hg hp).mpr ⟨h.sampleCover, h.sampleScreenshots, h.genres, h.platforms⟩
  unfold MyRootViewController.imageTapped
  simp only [hid, force_some, bind, Except.bind]
  cases throws with
  | true => exact ⟨_, rfl⟩
  | false =>
    simp only [Bool.false_eq_true, if_false]
    split
    next i l hf =>
      obtain ⟨g, hm, -⟩ := s.context.mem_fetch.mp (hf ▸ List.mem_cons_self : i ∈ s.context.fetch _)
      obtain ⟨title, -, ht⟩ := List.mem_map.mp (hs.view _ hm)
      rw [s.context.memory_of_mem_view hm, Option.bind_some, ← ht, force_some]
      exact viewDidLoad_ok_of_loads rfl (hl _ rfl rfl)
    next hf => exact viewDidLoad_ok_of_loads rfl (hl _ rfl rfl)

/-! ### All of them -/

/-- None of the functions a game goes through traps on it. -/
structure NoTrap (game : Game) (f : Faults) (s : App) : Prop where
  /-- Its Home cell, wherever it stands and whichever cell is reused for it. -/
  cellForItemAt : ∀ row cell, ∃ r, MyRootViewController.cellForItemAt row game cell = .ok r
  /-- The tap on it. -/
  imageTapped : ∃ vc, MyRootViewController.imageTapped game f.fetch s = .ok vc
  /-- Its detail screen, new. -/
  loadGameToView : ∃ vc, ({} : DetailVC).loadGameToView game = .ok vc
  /-- The Home save. -/
  homeSave : ∀ status, ∃ s', MyRootViewController.saveGameToCoreData game status f s = .ok s'
  /-- `CoredataController`'s save. -/
  save : ∀ status, ∃ r, CoredataController.saveGameToCoreData game status f s = .ok r

/-- A game with nothing but a `game_id` traps in the cell that is to show it. -/
theorem bare_game_traps :
    MyRootViewController.cellForItemAt 0 (.bare 7) {} = .error (.unwrapNil "games[indexPath.row].sampleCover") ∧
      ¬NoTrap (.bare 7) .none App.launch :=
  ⟨rfl, fun h => cellForItemAt_ok_iff.mp (h.cellForItemAt 0 {}) rfl⟩

/-- **A game goes through the app without a trap exactly when it is showable**, in every
state of every session and whatever throws. -/
theorem showable_iff (game : Game) (f : Faults) (es : List Session.Event) :
    NoTrap game f (reach Session.next es Session.launch).app ↔ game.Showable := by
  constructor
  · intro h
    obtain ⟨hc, hs, hg, hp⟩ := (loads_iff rfl rfl).mp (DetailVC.loadGameToView_ok_iff.mp h.loadGameToView)
    exact ⟨homeSave_ok_iff.mp (h.homeSave ""), hc, hs, hg, hp⟩
  · intro h
    exact {
      cellForItemAt := fun _ _ => cellForItemAt_ok_iff.mpr h.sampleCover
      imageTapped := imageTapped_ok (statused_reach es) h f.fetch
      loadGameToView := DetailVC.loadGameToView_ok_iff.mpr
        ((loads_iff rfl rfl).mpr ⟨h.sampleCover, h.sampleScreenshots, h.genres, h.platforms⟩)
      homeSave := fun _ => homeSave_ok_iff.mpr h.gameId
      save := fun _ => save_ok_iff.mpr h.gameId }

end Booster
