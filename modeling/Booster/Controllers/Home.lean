import Booster.Controllers.Detail
import Booster.View.CollectionItemGame

/-!
# The Home screen

`MyRootViewController` shows the games of a response, one cell a game. A tap on a
cell's image opens the game's detail screen, in the mode that a fetch by
`game_id` decides; a tap on its button offers the four statuses to save it under.
A row is one of `games`, so the model passes the game.
-/

namespace Booster.MyRootViewController

open Theory

/-- `collectionView(_:cellForItemAt:)`: the cell, and the URL it requests an image from. -/
def cellForItemAt (row : ℕ) (game : Game) (cell : CollectionItemGame) :
    Except Trap (CollectionItemGame × Option String) := do
  let sampleCover ← force "games[indexPath.row].sampleCover" game.sampleCover
  let imageUrl := sampleCover.thumbnailImageURL
  return ({ cell with rowOfIndexPath := some row, nameGame := game.title }, some imageUrl)

/-- `imageTapped`: the detail screen it presents. -/
def imageTapped (game : Game) (fetchThrows : Bool) (s : App) : Except Trap DetailVC := do
  let gameId ← force "self.games[rowOfIndexPath.row].gameId" game.gameId
  let detailVC : DetailVC := {}
  if fetchThrows then
    return detailVC
  else
    match s.context.fetch (hasGameID gameId) with
    | gameToUpdate :: _ =>
      let status ← force "gameToUpdate.status" ((s.context.memory gameToUpdate).bind GameSave.status)
      let gameID := (s.context.memory gameToUpdate).map fun g => g.gameId.toInt64
      DetailVC.viewDidLoad { detailVC with status := status, gameID := gameID, game := some game }
    | [] => DetailVC.viewDidLoad { detailVC with game := some game }

/-- The titles of the menu of `addButtonTapped(at:)`; each action saves its title. -/
def addActions : List String := ["Uncategorized", "Currently playing", "Played", "To Play"]

/-- `addButtonTapped(at:)`, and the choice of an item in its menu. -/
def addButtonTapped (game : Game) (item : ℕ) (f : Faults) (s : App) : Except Trap App :=
  match addActions[item]? with
  | some title => saveGameToCoreData game title f s
  | none => .ok s

end Booster.MyRootViewController
