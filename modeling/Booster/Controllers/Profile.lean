import Booster.Models.GameSave

/-!
# The Profile screen

`ProfileController` lists saved games in `results`, an array of object
references, under a segment of five titles; the app's state is the shared context, this
controller, and the badge of the Profile tab, which several functions write.

The collection view, and with it the observer of `reloadProfileData`, exists
once the view is loaded (`collectionView`): it re-reads the number of items only
on `reloadData`, so the model keeps the number it read last. The array `games`,
filled by one fetch and read by nothing, is left out.
-/

namespace Booster

open Theory

/-- `ProfileController`. -/
structure ProfileController where
  /-- `results`. -/
  results : List ObjectID
  /-- `collectionView`: `nil` until the view is loaded, then the number of items it
  read at the last `reloadData`. -/
  collectionView : Option ℕ
  /-- The segment's `selectIndex`. -/
  selectIndex : ℕ
  deriving DecidableEq

/-- The state the screens share. -/
structure App where
  /-- `persistentContainer.viewContext`. -/
  context : Context GameSave
  /-- The Profile tab's controller. -/
  profile : ProfileController
  /-- `tabBar.items[1].badgeValue`. -/
  badgeValue : Option String

/-- The app installed and started for the first time. -/
def App.launch : App := ⟨Context.empty, ⟨[], none, 0⟩, none⟩

/-- The process ends and is started again. -/
def App.restart (s : App) : App := ⟨s.context.restart, ⟨[], none, 0⟩, none⟩

namespace ProfileController

/-- The titles of the segment. -/
def titles : List String := ["All", "Uncategorized", "Currently playing", "Played", "To Play"]

/-- `collectionView.reloadData()`. -/
def reloadCollectionView (s : App) : Except Trap App := do
  let _ ← force "collectionView" s.profile.collectionView
  return { s with profile.collectionView := some s.profile.results.length }

/-- The body that `fetchGamesFromCoreData` and `fetchGamesWithStatus` share: empty
`results`, then fetch with predicate `p`, count in the badge and reload. -/
def fetchResults (p : GameSave → Bool) (throws : Bool) (s : App) : Except Trap App :=
  let s := { s with profile.results := [] }
  if throws then .ok s
  else
    let s := { s with profile.results := s.context.fetch p }
    reloadCollectionView { s with badgeValue := some (toString s.profile.results.length) }

/-- `fetchGamesFromCoreData`. -/
def fetchGamesFromCoreData : Bool → App → Except Trap App := fetchResults fun _ => true

/-- `fetchGamesWithStatus`. -/
def fetchGamesWithStatus (status : String) : Bool → App → Except Trap App :=
  fetchResults (hasStatus status)

/-- `NotificationCenter.default.post(name: "reloadProfileData")`: the observer, when there
is one, is `fetchGamesFromCoreData`. -/
def postReloadProfileData (throws : Bool) (s : App) : Except Trap App :=
  match s.profile.collectionView with
  | none => .ok s
  | some _ => fetchGamesFromCoreData throws s

/-- `viewDidLoad`, run on the first visit to the tab. The collection view has read no
items yet, and the segment stands at its first title. -/
def viewDidLoad (throws : Bool) (s : App) : Except Trap App := do
  let s := { s with profile := { s.profile with collectionView := some 0, selectIndex := 0 } }
  let s ← fetchGamesFromCoreData throws s
  -- `updateTabBarItemBadge()`
  return { s with badgeValue := some (toString s.profile.results.length) }

/-- `reloadData`, the delegate's method. -/
def reloadData (throws : Bool) (s : App) : Except Trap App := do
  let s ← fetchGamesFromCoreData throws s
  reloadCollectionView s

/-- A tap on segment `index`: `PinterestSegment.setSelectIndex`, which calls
`valueChange` only when the index changes and there is such a title. -/
def setSelectIndex (index : ℕ) (throws : Bool) (s : App) : Except Trap App :=
  if s.profile.collectionView = none then .ok s
  else if index = s.profile.selectIndex then .ok s
  else
    match titles[index]? with
    | none => .ok s
    | some title =>
      let s := { s with profile.selectIndex := index }
      if index = 0 then fetchGamesFromCoreData throws s else fetchGamesWithStatus title throws s

/-- `updateGameInCoreData(at:withNewStatus:)`. -/
def updateGameInCoreData (row : ℕ) (status : String) (saveThrows : Bool) (s : App) : Except Trap App := do
  let gameToUpdate ← subscript "results[indexPath.row]" s.profile.results row
  let context := s.context.setValue gameToUpdate (GameSave.setStatus status)
  if saveThrows then
    reloadCollectionView { s with context := context }
  else
    -- the status is set once more after the save, so an update stays pending
    let context := context.save.setValue gameToUpdate (GameSave.setStatus status)
    reloadCollectionView { s with context := context }

/-- `deleteGameFromCoreData(at:)`. -/
def deleteGameFromCoreData (row : ℕ) (saveThrows : Bool) (s : App) : Except Trap App := do
  let gameToDelete ← subscript "results[indexPath.row]" s.profile.results row
  let context := s.context.delete gameToDelete
  if saveThrows then
    return { s with context := context }
  else
    let results := s.profile.results.eraseIdx row
    reloadCollectionView { s with
      context := context.save
      profile.results := results
      badgeValue := some (toString results.length) }

end ProfileController

end Booster
