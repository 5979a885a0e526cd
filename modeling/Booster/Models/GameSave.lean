import Booster.Theory.Context
import Booster.Models.Game

/-!
# The saved game and its context

`GameSave` is the one entity of `CoreData.xcdatamodeld`, and `viewContext` the
one context every screen edits it through. Of Core Data the model takes that a
fetch includes pending changes, that a save writes all pending changes or throws
and leaves them pending, and that the `Integer 32` attribute `game_id` keeps,
and the predicate `game_id == %d` compares, the low 32 bits of the number given.

Which calls into Core Data throw is not the code's choice: an operation is given
a `Faults`, one flag for each fetch or save it may make.
-/

namespace Booster

open Theory

/-- An object of entity `GameSave`. -/
structure GameSave where
  /-- `game_id`, an `Integer 32`. -/
  gameId : Int32
  /-- `status`. -/
  status : Option String
  /-- `thumbnail_image`. -/
  thumbnailImage : Option String
  /-- `title`. -/
  title : Option String
  deriving DecidableEq

/-- `setValue(status, forKey: "status")`. -/
def GameSave.setStatus (status : String) (g : GameSave) : GameSave := { g with status := some status }

@[simp] theorem GameSave.gameId_setStatus (status : String) (g : GameSave) :
    (g.setStatus status).gameId = g.gameId := rfl

@[simp] theorem GameSave.setStatus_setStatus (status : String) (g : GameSave) :
    (g.setStatus status).setStatus status = g.setStatus status := rfl

/-- What both `saveGameToCoreData`s set on a new object. -/
def Game.toGameSave (game : Game) (gameId : Int64) (status : String) : GameSave where
  gameId := gameId.toInt32
  status := some status
  thumbnailImage := game.sampleCover.map Cover.thumbnailImageURL
  title := game.title

/-- `NSPredicate(format: "game_id == %d", gameID)`. -/
def hasGameID (gameID : Int64) (g : GameSave) : Bool := g.gameId = gameID.toInt32

/-- `NSPredicate(format: "status == %@", status)`. -/
def hasStatus (status : String) (g : GameSave) : Bool := g.status = some status

/-- Which of the calls into Core Data that an operation makes throw. -/
structure Faults where
  /-- Its own fetch. -/
  fetch : Bool := false
  /-- Its own save. -/
  save : Bool := false
  /-- The fetch of an `updateGameToCoreDataByGameID` it calls. -/
  updateFetch : Bool := false
  /-- The save of an `updateGameToCoreDataByGameID` it calls. -/
  updateSave : Bool := false
  /-- The fetch of a Profile reload it causes. -/
  reloadFetch : Bool := false

/-- Nothing throws. -/
def Faults.none : Faults := {}

/-- `AppDelegate.saveContext`, when its save throws or not. -/
def AppDelegate.saveContext (throws : Bool) (context : Context GameSave) :
    Except Trap (Context GameSave) :=
  if context.hasChanges then
    if throws then .error (.fatalError "Unresolved error") else .ok context.save
  else .ok context

namespace CoredataController

/-- `updateGameToCoreDataByGameID`; `fetchThrows` and `saveThrows` say which of its two
calls throw. A throw is caught and printed. -/
def updateGameToCoreDataByGameID (gameID : Int64) (status : String) (fetchThrows saveThrows : Bool)
    (context : Context GameSave) : Context GameSave :=
  if fetchThrows then context
  else
    match context.fetch (hasGameID gameID) with
    | gameToUpdate :: _ =>
      let context := context.setValue gameToUpdate (GameSave.setStatus status)
      if saveThrows then context else context.save
    | [] => context

/-- `deleteGameFromCoreData(gameID:)`. -/
def deleteGameFromCoreData (gameID : Int64) (fetchThrows saveThrows : Bool)
    (context : Context GameSave) : Context GameSave :=
  if fetchThrows then context
  else
    match context.fetch (hasGameID gameID) with
    | gameToDelete :: _ =>
      let context := context.delete gameToDelete
      if saveThrows then context else context.save
    | [] => context

end CoredataController

end Booster
