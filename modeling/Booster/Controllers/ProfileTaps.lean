import Booster.Controllers.Detail
import Booster.View.CollectionItemGame

/-!
# The rows of the Profile screen

What a row of `ProfileController` shows, opens and offers: its cell, the detail
screen a tap on its image presents, and the menu of its button. A row is an
index into `results`, whose objects may be older than the store; an object's values are those it
holds in memory.
-/

namespace Booster.ProfileController

open Theory

/-- `collectionView(_:cellForItemAt:)`: the cell, and the URL it requests an image from,
if any. A value that is `nil` leaves the cell's text as it was. -/
def cellForItemAt (row : ℕ) (cell : CollectionItemGame) (s : App) :
    Except Trap (CollectionItemGame × Option String) := do
  let result ← subscript "results[indexPath.row]" s.profile.results row
  let g := s.context.memory result
  let cell := { cell with
    rowOfIndexPath := some row
    buttonAdd := (g.bind GameSave.status).or cell.buttonAdd
    nameGame := (g.bind GameSave.title).or cell.nameGame }
  return (cell, g.bind GameSave.thumbnailImage)

/-- `imageTapped(at:)`: the detail screen it presents. -/
def imageTapped (row : ℕ) (s : App) : Except Trap DetailVC := do
  let result ← subscript "results[rowOfIndexPath.row]" s.profile.results row
  let g := s.context.memory result
  let gameID ← force "value(forKey: game_id) as? Int" (g.map fun g => g.gameId.toInt64)
  let detailVC : DetailVC := { gameID := some gameID }
  match g.bind GameSave.status with
  | some title => DetailVC.viewDidLoad { detailVC with status := title, reloadDelegate := true }
  | none => return detailVC

/-- An action of the menu of `addButtonTapped(at:)`. -/
inductive RowAction where
  /-- Update the row to a status. -/
  | update (title status : String)
  /-- Delete the row. -/
  | delete (title : String)

/-- The actions of the menu of `addButtonTapped(at:)`. -/
def rowActions : List RowAction :=
  [.update "Uncategorized" "Uncategorized",
    .update "Currently playing" "Currently playing",
    .update "Played" "Played",
    .update "To Play" "To Play",
    .delete "Delete"]

/-- `addButtonTapped(at:)`, and the choice of an item in its menu. -/
def addButtonTapped (row item : ℕ) (f : Faults) (s : App) : Except Trap App :=
  match rowActions[item]? with
  | some (.update _ status) => updateGameInCoreData row status f.save s
  | some (.delete _) => deleteGameFromCoreData row f.save s
  | none => .ok s

end Booster.ProfileController
