import Booster.Controllers.Profile

/-!
# The badge of the Profile tab

`SceneDelegate` counts the collection into the badge each time it makes the tab bar
the root screen. The tab bar is made once and kept, with its controllers; loading
the navigation controllers does not load the Profile view.
-/

namespace Booster.SceneDelegate

/-- `updateProfileBadgeValue`. -/
def updateProfileBadgeValue (fetchThrows : Bool) (s : App) : App :=
  if fetchThrows then s
  else { s with badgeValue := some (toString (s.context.fetch fun _ => true).length) }

/-- `setRootViewTabbar`, as the app's state sees it. -/
def setRootViewTabbar (fetchThrows : Bool) (s : App) : App := updateProfileBadgeValue fetchThrows s

end Booster.SceneDelegate
