import Mathlib.Data.List.Basic

/-!
# The decoded game

`Game` and its parts as the app decodes them from a games response, and the two
ways the code can trap on a value it decoded: a force-unwrap of `nil` and an
index out of range. Every field of `Game` is optional, as in `GameModel.swift`;
the fields of its parts are not.
-/

namespace Booster

universe u

/-- Why the process stops. -/
inductive Trap where
  /-- `expr!` on `nil`. -/
  | unwrapNil (expr : String)
  /-- `expr` indexes past the end. -/
  | outOfRange (expr : String)
  /-- `fatalError(message)`. -/
  | fatalError (message : String)
  deriving DecidableEq

/-- `expr!`. -/
def force {α : Type u} (expr : String) : Option α → Except Trap α
  | some a => .ok a
  | none => .error (.unwrapNil expr)

/-- `expr`, an indexing of `xs` at `i`. -/
def subscript {α : Type u} (expr : String) (xs : List α) (i : ℕ) : Except Trap α :=
  match xs[i]? with
  | some a => .ok a
  | none => .error (.outOfRange expr)

@[simp] theorem force_some {α : Type u} (expr : String) (a : α) : force expr (some a) = .ok a := rfl

@[simp] theorem force_none {α : Type u} (expr : String) :
    force expr (none : Option α) = .error (.unwrapNil expr) := rfl

theorem force_eq_ok_iff {α : Type u} {expr : String} {x : Option α} {a : α} :
    force expr x = .ok a ↔ x = some a := by
  cases x <;> simp

theorem subscript_eq_ok_iff {α : Type u} {expr : String} {xs : List α} {i : ℕ} {a : α} :
    subscript expr xs i = .ok a ↔ xs[i]? = some a := by
  unfold subscript
  cases xs[i]? <;> simp

theorem subscript_eq_error_iff {α : Type u} {expr : String} {xs : List α} {i : ℕ} :
    subscript expr xs i = .error (.outOfRange expr) ↔ xs.length ≤ i := by
  unfold subscript
  cases h : xs[i]? with
  | none => simpa using h
  | some a => simpa using (List.getElem?_eq_some_iff.mp h).1

/-- `AlternateTitles`. -/
structure AlternateTitles where
  description : Option String
  title : Option String

/-- `Genre`. -/
structure Genre where
  genreCategory : String
  genreCategoryId : Int64
  genreId : Int64
  genreName : String

/-- `Platform`. -/
structure Platform where
  firstReleaseDate : String
  platformId : Int64
  platformName : String

/-- `Cover`. -/
structure Cover where
  height : Int64
  imageURL : String
  platforms : List String
  thumbnailImageURL : String
  width : Int64

/-- `Screenshot`. -/
structure Screenshot where
  caption : String
  height : Int64
  imageURL : String
  thumbnailImageURL : String
  width : Int64

/-- `Game`. -/
structure Game where
  alternateTitles : Option (List AlternateTitles)
  description : Option String
  gameId : Option Int64
  genres : Option (List Genre)
  mobyScore : Option Float
  mobyURL : Option String
  numVotes : Option Int64
  officialURL : Option String
  platforms : Option (List Platform)
  sampleCover : Option Cover
  sampleScreenshots : Option (List Screenshot)
  title : Option String

/-- What a game with only `game_id` decodes to. -/
def Game.bare (gameId : Int64) : Game where
  alternateTitles := none
  description := none
  gameId := some gameId
  genres := none
  mobyScore := none
  mobyURL := none
  numVotes := none
  officialURL := none
  platforms := none
  sampleCover := none
  sampleScreenshots := none
  title := none

end Booster
