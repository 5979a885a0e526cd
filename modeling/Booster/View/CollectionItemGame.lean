import Booster.Models.GameSave

/-!
# The cell of a game

`CollectionItemGame`, the cell both collection views reuse. Of its image the model
keeps the URL it was loaded from.
-/

namespace Booster

/-- `CollectionItemGame`. -/
structure CollectionItemGame where
  /-- `rowOfIndexPath`. -/
  rowOfIndexPath : Option ℕ := none
  /-- The URL `imageGame.image` was loaded from. -/
  imageGame : Option String := none
  /-- `nameGame.text`. -/
  nameGame : Option String := none
  /-- `buttonAdd.text`. -/
  buttonAdd : Option String := none
  deriving DecidableEq

end Booster
