import Booster.Controllers.Profile

/-!
# Saving a game

The two `saveGameToCoreData`s: the Home screen's, which leaves a game already in
the collection as it is, and `CoredataController`'s, which gives it the new status
and reports back through `completion`. Both insert a `GameSave` when the fetch by
`game_id` finds none, and post `reloadProfileData` once the insertion is saved.
-/

namespace Booster

open Theory

/-- `MyRootViewController.saveGameToCoreData`. -/
def MyRootViewController.saveGameToCoreData (game : Game) (status : String) (f : Faults) (s : App) :
    Except Trap App := do
  let gameId ← force "game.gameId" game.gameId
  if f.fetch then
    return s
  else
    match s.context.fetch (hasGameID gameId) with
    | _ :: _ => return s  -- "This game is already in your collection."
    | [] =>
      let context := s.context.insertNewObject (game.toGameSave gameId status)
      if f.save then
        return { s with context := context }
      else
        ProfileController.postReloadProfileData f.reloadFetch { s with context := context.save }

/-- `CoredataController.saveGameToCoreData`: the state it leaves, and the arguments
`completion` is called with, first call first. -/
def CoredataController.saveGameToCoreData (game : Game) (status : String) (f : Faults) (s : App) :
    Except Trap (App × List Bool) := do
  let gameId ← force "game.gameId" game.gameId
  if f.fetch then
    return (s, [false])
  else
    match s.context.fetch (hasGameID gameId) with
    | _ :: _ =>
      let context := updateGameToCoreDataByGameID gameId status f.updateFetch f.updateSave s.context
      return ({ s with context := context }, [true])
    | [] =>
      let context := s.context.insertNewObject (game.toGameSave gameId status)
      if f.save then
        return ({ s with context := context }, [false])
      else
        let s ← ProfileController.postReloadProfileData f.reloadFetch { s with context := context.save }
        return (s, [true])

end Booster
