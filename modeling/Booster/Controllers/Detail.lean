import Booster.Models.CoredataController
import Booster.Theory.Run
import Mathlib.Data.Rat.Init

/-!
# The detail screen

`DetailVC` shows one game. Whether it adds the game or changes its status is fixed when
`viewDidLoad` chooses what a tap on the status label does: with a `gameID` it
changes (`changeButtonTapped`), with only a `game` it adds (`addButtonTapped`).
Both callers present it with no navigation controller, and call `viewDidLoad` once
more after setting its fields; the call UIKit makes before that finds neither
field set and does nothing.

The two menus are nine handlers written out one by one in the source. Here they
are two lists of what each handler says (`addActions`, `changeActions`) and one
function for each list that runs a handler.

Images are requested and drawn later, so of an image the model keeps the URL
requested. The sizes of tags are UIKit's to measure: a height that depends on them is
kept as a function of them. The recommendations fetched at the end are not part of this module.
-/

namespace Booster

open Theory

/-- What a tap on `buttonStatus` runs. -/
inductive TapAction where
  /-- `addButtonTapped`. -/
  | addButtonTapped
  /-- `changeButtonTapped`. -/
  | changeButtonTapped
  deriving DecidableEq

/-- `intrinsicContentSize` of a tag. -/
structure TagSize where
  width : ℚ
  height : ℚ

/-- The sizes of the tags, by title. -/
abbrev TagSizes := String → TagSize

/-- `DetailVC`: its fields and what its outlets show. -/
structure DetailVC where
  /-- `gameID`. -/
  gameID : Option Int64 := none
  /-- `status`. -/
  status : String := ""
  /-- `game`. -/
  game : Option Game := none
  /-- Whether `reloadDelegate` is set; it is the Profile screen when it is. -/
  reloadDelegate : Bool := false
  /-- `buttonStatus.text`. -/
  buttonStatus : String := ""
  /-- The action of the tap gesture on `buttonStatus`. -/
  tapGesture : Option TapAction := none
  /-- The URL requested for `background`. -/
  background : Option String := none
  /-- The URL requested for `iconImage`. -/
  iconImage : Option String := none
  /-- `titleLable.text`. -/
  titleLable : Option String := none
  /-- `descriptionLable.text`. -/
  descriptionLable : Option String := none
  /-- The URLs requested for the screenshots, first view first. -/
  screenshots : List String := []
  /-- The number `scroceRating` shows and `starRatingView` is set to. -/
  scroceRating : Float := 0
  /-- `tagListView.tagViews`, by title. -/
  tagListView : List String := []
  /-- `tagListViewPlatform.tagViews`, by title. -/
  tagListViewPlatform : List String := []
  /-- `genresViewHeightConstraint.constant`, once it is set. -/
  genresViewHeight : Option (TagSizes → ℚ) := none
  /-- `platformViewHeightConstraint.constant`, once it is set. -/
  platformViewHeight : Option (TagSizes → ℚ) := none
  /-- The `gameID` asked of `getGameByID`. -/
  requested : Option Int64 := none

namespace DetailVC

/-- The height of a view of tags: a row for each 398 points of tags, and the margins.
`expr` is the indexing of the first tag. -/
def tagsHeight (expr : String) (tagViews : List String) : Except Trap (TagSizes → ℚ) := do
  let first ← subscript expr tagViews 0
  return fun size =>
    let width := tagViews.foldl (fun width tag => width + (size tag).width) 0
    (width / 398).ceil * (size first).height + (15 + 27 + 8)

/-- `loadGameToView`. -/
def loadGameToView (game : Game) (vc : DetailVC) : Except Trap DetailVC := do
  let sampleCover ← force "game.sampleCover" game.sampleCover
  let sampleScreenshots ← force "game.sampleScreenshots" game.sampleScreenshots
  let genres ← force "game.genres" game.genres
  let tagListView := vc.tagListView ++ genres.map Genre.genreName
  let genresHeight ← tagsHeight "tagListView.tagViews[0]" tagListView
  let platforms ← force "game.platforms" game.platforms
  let tagListViewPlatform := vc.tagListViewPlatform ++ platforms.map Platform.platformName
  let platformHeight ← tagsHeight "tagListViewPlatform.tagViews[0]" tagListViewPlatform
  return { vc with
    game := some game
    background := some sampleCover.imageURL
    iconImage := some sampleCover.thumbnailImageURL
    titleLable := game.title
    descriptionLable := game.description.or vc.descriptionLable
    -- there are five image views
    screenshots := (sampleScreenshots.take 5).map Screenshot.imageURL
    scroceRating := (game.mobyScore.map (· / 2)).getD 0
    tagListView := tagListView
    tagListViewPlatform := tagListViewPlatform
    genresViewHeight := some genresHeight
    platformViewHeight := some platformHeight }

/-- `viewDidLoad`. -/
def viewDidLoad (vc : DetailVC) : Except Trap DetailVC :=
  match vc.gameID, vc.game with
  | some _, some game => do
    let vc ← vc.loadGameToView game
    return { vc with buttonStatus := vc.status, tapGesture := some .changeButtonTapped }
  | some gameID, none =>
    .ok { vc with
      requested := some gameID
      buttonStatus := vc.status
      tapGesture := some .changeButtonTapped }
  | none, some game =>
    { vc with buttonStatus := "Add", tapGesture := some .addButtonTapped : DetailVC }.loadGameToView game
  | none, none => .ok vc

/-- An action of the menu of `addButtonTapped`. -/
structure AddAction where
  /-- The title shown. -/
  title : String
  /-- The status saved. -/
  status : String
  /-- The label's text when the save succeeds. -/
  label : String
  /-- The label's text when it fails, if it is set then. -/
  failureLabel : Option String

/-- The actions of the menu of `addButtonTapped`. -/
def addActions : List AddAction :=
  [⟨"Uncategorized", "Uncategorized", "Uncategorized", none⟩,
    ⟨"Currently playing", "Currently playing", "Currently playing", some "Currently playing"⟩,
    ⟨"Played", "Played", "Played", none⟩,
    ⟨"To Play", "To Play", "To Play", none⟩]

/-- `buttonStatus.text` after the completion of a save is called with `success`. -/
def AddAction.completion (action : AddAction) (text : String) (success : Bool) : String :=
  if success then action.label else action.failureLabel.getD text

/-- `addButtonTapped`, and the choice of an item in its menu. -/
def addButtonTapped (item : ℕ) (f : Faults) (vc : DetailVC) (s : App) : Except Trap (DetailVC × App) :=
  match vc.game, addActions[item]? with
  | some game, some action => do
    let (s, calls) ← CoredataController.saveGameToCoreData game action.status f s
    return ({ vc with buttonStatus := calls.foldl action.completion vc.buttonStatus }, s)
  | _, _ => .ok (vc, s)

/-- An action of the menu of `changeButtonTapped`. -/
inductive ChangeAction where
  /-- Update to a status, and set the label. -/
  | update (title status label : String)
  /-- Delete the game. -/
  | delete (title : String)

/-- The actions of the menu of `changeButtonTapped`. -/
def changeActions : List ChangeAction :=
  [.update "Uncategorized" "Uncategorized" "Uncategorized",
    .update "Currently playing" "Currently playing" "Currently playing",
    .update "Played" "Played" "Played",
    .update "To Play" "To Play" "To Play",
    .delete "Delete"]

/-- `changeButtonTapped`, and the choice of an item in its menu. -/
def changeButtonTapped (item : ℕ) (f : Faults) (vc : DetailVC) (s : App) : Except Trap (DetailVC × App) :=
  match vc.gameID, changeActions[item]? with
  | some gameID, some (.update _ status label) =>
    let context := CoredataController.updateGameToCoreDataByGameID gameID status f.fetch f.save s.context
    .ok ({ vc with buttonStatus := label }, { s with context := context })
  | some gameID, some (.delete _) => do
    let context := CoredataController.deleteGameFromCoreData gameID f.fetch f.save s.context
    let s := { s with context := context }
    let s ← if vc.reloadDelegate then ProfileController.reloadData f.reloadFetch s else .ok s
    -- `navigationController?.popViewController`: there is none, and the screen stays
    return (vc, s)
  | _, _ => .ok (vc, s)

/-- A tap on `buttonStatus`, and the choice of an item in the menu it presents. -/
def choose (item : ℕ) (f : Faults) (vc : DetailVC) (s : App) : Except Trap (DetailVC × App) :=
  match vc.tapGesture with
  | some .addButtonTapped => vc.addButtonTapped item f s
  | some .changeButtonTapped => vc.changeButtonTapped item f s
  | none => .ok (vc, s)

/-! ### The menus -/

/-- What a choice in the menu of `addButtonTapped` can do. -/
theorem addButtonTapped_cases {item : ℕ} {f : Faults} {vc vc' : DetailVC} {s s' : App}
    (h : vc.addButtonTapped item f s = .ok (vc', s')) :
    (∃ game action calls, vc.game = some game ∧ addActions[item]? = some action ∧
      CoredataController.saveGameToCoreData game action.status f s = .ok (s', calls)) ∨
    (∀ game action, vc.game = some game → addActions[item]? ≠ some action) ∧ s' = s := by
  unfold addButtonTapped at h
  split at h
  next game action hgame haction =>
    obtain ⟨⟨t, calls⟩, ht, h⟩ := bind_eq_ok_iff.mp h
    obtain ⟨-, rfl⟩ := Prod.mk.inj (Except.ok.inj h)
    exact .inl ⟨game, action, calls, hgame, haction, ht⟩
  next hn => exact .inr ⟨hn, (Prod.mk.inj (Except.ok.inj h)).2.symm⟩

/-- An update of the menu of `changeButtonTapped` sets the label, whatever comes of the update. -/
theorem changeButtonTapped_update {item : ℕ} {f : Faults} {vc : DetailVC} {s : App} {gameID : Int64}
    {title status label : String} (hid : vc.gameID = some gameID)
    (hi : changeActions[item]? = some (.update title status label)) :
    vc.changeButtonTapped item f s = .ok ({ vc with buttonStatus := label }, { s with
      context := CoredataController.updateGameToCoreDataByGameID gameID status f.fetch f.save s.context }) := by
  rw [changeButtonTapped, hid, hi]

/-- Delete leaves the screen as it is, and reloads the Profile screen if that is its delegate. -/
theorem changeButtonTapped_delete {item : ℕ} {f : Faults} {vc : DetailVC} {s : App} {gameID : Int64}
    {title : String} (hid : vc.gameID = some gameID) (hi : changeActions[item]? = some (.delete title)) :
    vc.changeButtonTapped item f s = (do
      let s := { s with context := CoredataController.deleteGameFromCoreData gameID f.fetch f.save s.context }
      let s ← if vc.reloadDelegate then ProfileController.reloadData f.reloadFetch s else .ok s
      return (vc, s)) := by
  rw [changeButtonTapped, hid, hi]

/-- What a choice in the menu of `changeButtonTapped` can do. -/
theorem changeButtonTapped_cases {item : ℕ} {f : Faults} {vc vc' : DetailVC} {s s' : App}
    (h : vc.changeButtonTapped item f s = .ok (vc', s')) :
    (∃ gameID title status label, vc.gameID = some gameID ∧
      changeActions[item]? = some (.update title status label) ∧ s' = { s with
        context := CoredataController.updateGameToCoreDataByGameID gameID status f.fetch f.save s.context }) ∨
    (∃ gameID title, vc.gameID = some gameID ∧ changeActions[item]? = some (.delete title) ∧
      (if vc.reloadDelegate then ProfileController.reloadData f.reloadFetch else .ok)
        { s with context := CoredataController.deleteGameFromCoreData gameID f.fetch f.save s.context } = .ok s') ∨
    (∀ gameID action, vc.gameID = some gameID → changeActions[item]? ≠ some action) ∧ s' = s := by
  cases hid : vc.gameID with
  | none =>
    rw [changeButtonTapped, hid] at h
    exact .inr (.inr ⟨nofun, (Prod.mk.inj (Except.ok.inj h)).2.symm⟩)
  | some gameID =>
    cases hi : changeActions[item]? with
    | none =>
      rw [changeButtonTapped, hid, hi] at h
      exact .inr (.inr ⟨nofun, (Prod.mk.inj (Except.ok.inj h)).2.symm⟩)
    | some action =>
      cases action with
      | update title status label =>
        rw [changeButtonTapped_update hid hi] at h
        exact .inl ⟨gameID, title, status, label, rfl, rfl, (Prod.mk.inj (Except.ok.inj h)).2.symm⟩
      | delete title =>
        rw [changeButtonTapped_delete hid hi] at h
        refine .inr (.inl ⟨gameID, title, rfl, rfl, ?_⟩)
        by_cases hd : vc.reloadDelegate = true
        · rw [if_pos hd] at h ⊢
          obtain ⟨t, ht, h⟩ := bind_eq_ok_iff.mp h
          obtain ⟨-, rfl⟩ := Prod.mk.inj (Except.ok.inj h)
          exact ht
        · rw [if_neg hd] at h ⊢
          obtain ⟨-, rfl⟩ := Prod.mk.inj (Except.ok.inj h)
          rfl

/-! ### Loading a game -/

theorem tagsHeight_nil (expr : String) : tagsHeight expr [] = .error (.outOfRange expr) := rfl

theorem tagsHeight_cons (expr tag : String) (tags : List String) :
    ∃ height, tagsHeight expr (tag :: tags) = .ok height := ⟨_, rfl⟩

/-- What a game must have for `loadGameToView` to show it in `vc`. -/
structure Loads (vc : DetailVC) (game : Game) : Prop where
  /-- A cover. -/
  sampleCover : game.sampleCover ≠ none
  /-- Screenshots, if only an empty list of them. -/
  sampleScreenshots : game.sampleScreenshots ≠ none
  /-- Genres, and one of them unless a tag is there already. -/
  genres : ∃ genres, game.genres = some genres ∧ vc.tagListView ++ genres.map Genre.genreName ≠ []
  /-- Platforms, and one of them unless a tag is there already. -/
  platforms : ∃ platforms, game.platforms = some platforms ∧
    vc.tagListViewPlatform ++ platforms.map Platform.platformName ≠ []

/-- The traps of `loadGameToView`, each with the expression that traps. -/
def loadGameToViewTraps : List Trap :=
  [.unwrapNil "game.sampleCover", .unwrapNil "game.sampleScreenshots", .unwrapNil "game.genres",
    .outOfRange "tagListView.tagViews[0]", .unwrapNil "game.platforms",
    .outOfRange "tagListViewPlatform.tagViews[0]"]

/-- What loading a game leaves of the fields it does not set. -/
structure Loaded (vc vc' : DetailVC) (game : Game) : Prop where
  gameID : vc'.gameID = vc.gameID
  status : vc'.status = vc.status
  game : vc'.game = some game
  reloadDelegate : vc'.reloadDelegate = vc.reloadDelegate
  buttonStatus : vc'.buttonStatus = vc.buttonStatus
  tapGesture : vc'.tapGesture = vc.tapGesture

/-- **What `loadGameToView` does**: it traps at one of six expressions, and only when the
game lacks something, or shows the game. -/
theorem loadGameToView_cases (vc : DetailVC) (game : Game) :
    (∃ t ∈ loadGameToViewTraps, vc.loadGameToView game = .error t ∧ ¬vc.Loads game) ∨
      ∃ vc', vc.loadGameToView game = .ok vc' ∧ vc.Loads game ∧ vc.Loaded vc' game := by
  unfold loadGameToView
  cases hc : game.sampleCover with
  | none => exact .inl ⟨_, by decide, rfl, fun h => h.sampleCover hc⟩
  | some sampleCover =>
  cases hs : game.sampleScreenshots with
  | none => exact .inl ⟨_, by decide, rfl, fun h => h.sampleScreenshots hs⟩
  | some sampleScreenshots =>
  cases hg : game.genres with
  | none =>
    refine .inl ⟨.unwrapNil "game.genres", by decide, rfl, fun h => ?_⟩
    obtain ⟨genres, hg', -⟩ := h.genres
    rw [hg] at hg'
    cases hg'
  | some genres =>
  cases ht : vc.tagListView ++ genres.map Genre.genreName with
  | nil =>
    refine .inl ⟨.outOfRange "tagListView.tagViews[0]", by decide, ?_, fun h => ?_⟩
    · simp only [force_some, bind, Except.bind, ht, tagsHeight_nil]
    · obtain ⟨genres', hg', hne⟩ := h.genres
      rw [hg, Option.some.injEq] at hg'
      exact hne (hg' ▸ ht)
  | cons tag tags =>
  obtain ⟨genresHeight, hgh⟩ := tagsHeight_cons "tagListView.tagViews[0]" tag tags
  cases hp : game.platforms with
  | none =>
    refine .inl ⟨.unwrapNil "game.platforms", by decide, ?_, fun h => ?_⟩
    · simp only [force_some, bind, Except.bind, ht, hgh, force_none]
    · obtain ⟨platforms, hp', -⟩ := h.platforms
      rw [hp] at hp'
      cases hp'
  | some platforms =>
  cases hu : vc.tagListViewPlatform ++ platforms.map Platform.platformName with
  | nil =>
    refine .inl ⟨.outOfRange "tagListViewPlatform.tagViews[0]", by decide, ?_, fun h => ?_⟩
    · simp only [force_some, bind, Except.bind, ht, hgh, hu, tagsHeight_nil]
    · obtain ⟨platforms', hp', hne⟩ := h.platforms
      rw [hp, Option.some.injEq] at hp'
      exact hne (hp' ▸ hu)
  | cons platform rest =>
  obtain ⟨platformHeight, hph⟩ := tagsHeight_cons "tagListViewPlatform.tagViews[0]" platform rest
  refine .inr ⟨_, by simp only [force_some, bind, Except.bind, ht, hgh, hu, hph]; rfl, ?_, ?_⟩
  · exact {
      sampleCover := by simp [hc]
      sampleScreenshots := by simp [hs]
      genres := ⟨genres, hg, by simp [ht]⟩
      platforms := ⟨platforms, hp, by simp [hu]⟩ }
  · exact ⟨rfl, rfl, rfl, rfl, rfl, rfl⟩

theorem loadGameToView_ok_iff {vc : DetailVC} {game : Game} :
    (∃ vc', vc.loadGameToView game = .ok vc') ↔ vc.Loads game := by
  rcases vc.loadGameToView_cases game with ⟨t, -, ht, hn⟩ | ⟨vc', hv, hl, -⟩
  · simp [ht, hn]
  · simp [hv, hl]

theorem loaded_of_loadGameToView {vc vc' : DetailVC} {game : Game} (h : vc.loadGameToView game = .ok vc') :
    vc.Loaded vc' game := by
  rcases vc.loadGameToView_cases game with ⟨t, -, ht, -⟩ | ⟨v, hv, -, hl⟩
  · rw [ht] at h
    cases h
  · rw [hv, Except.ok.injEq] at h
    exact h ▸ hl

theorem mem_traps_of_loadGameToView {vc : DetailVC} {game : Game} {t : Trap}
    (h : vc.loadGameToView game = .error t) : t ∈ loadGameToViewTraps := by
  rcases vc.loadGameToView_cases game with ⟨u, hu, ht, -⟩ | ⟨v, hv, -, -⟩
  · rw [ht, Except.error.injEq] at h
    exact h ▸ hu
  · rw [hv] at h
    cases h

/-! ### Opening the screen -/

theorem mem_traps_of_viewDidLoad {vc : DetailVC} {t : Trap} (h : vc.viewDidLoad = .error t) :
    t ∈ loadGameToViewTraps := by
  unfold viewDidLoad at h
  split at h
  next gameID game hid hg =>
    cases hl : vc.loadGameToView game with
    | ok vc' =>
      rw [hl] at h
      cases h
    | error u =>
      rw [hl] at h
      obtain rfl : u = t := Except.error.inj h
      exact mem_traps_of_loadGameToView hl
  · cases h
  · exact mem_traps_of_loadGameToView h
  · cases h

/-- A screen with a `gameID` opens to change, showing its `status`. -/
theorem viewDidLoad_of_gameID {vc vc' : DetailVC} {gameID : Int64} (hid : vc.gameID = some gameID)
    (h : vc.viewDidLoad = .ok vc') :
    vc'.gameID = some gameID ∧ vc'.tapGesture = some .changeButtonTapped ∧ vc'.buttonStatus = vc.status ∧
      vc'.reloadDelegate = vc.reloadDelegate := by
  unfold viewDidLoad at h
  cases hg : vc.game with
  | none =>
    simp only [hid, hg] at h
    cases h
    exact ⟨rfl, rfl, rfl, rfl⟩
  | some game =>
    simp only [hid, hg] at h
    cases hl : vc.loadGameToView game with
    | error t =>
      rw [hl] at h
      cases h
    | ok v =>
      rw [hl] at h
      cases h
      have hv := loaded_of_loadGameToView hl
      exact ⟨hv.gameID.trans hid, rfl, hv.status, hv.reloadDelegate⟩

/-- A screen with a `game` and no `gameID` opens to add it, showing "Add". -/
theorem viewDidLoad_of_game {vc vc' : DetailVC} {game : Game} (hid : vc.gameID = none)
    (hg : vc.game = some game) (h : vc.viewDidLoad = .ok vc') :
    vc'.gameID = none ∧ vc'.game = some game ∧ vc'.tapGesture = some .addButtonTapped ∧
      vc'.buttonStatus = "Add" := by
  simp only [viewDidLoad, hid, hg] at h
  have hv := loaded_of_loadGameToView h
  exact ⟨hv.gameID, hv.game, hv.tapGesture, hv.buttonStatus⟩

end DetailVC

end Booster
