import Booster.Theory.Rows
import Booster.Theory.Context
import Booster.Theory.Run
import Booster.Theory.Durable
import Booster.Theory.Json
import Booster.Theory.Lines
import Booster.Theory.Spans
import Booster.Theory.Percent
import Booster.Models.Game
import Booster.Models.GameSave
import Booster.Models.GameService
import Booster.Models.Decoding
import Booster.Models.CoredataController
import Booster.Controllers.Profile
import Booster.Collection.Calls
import Booster.Collection.Unique
import Booster.Collection.NoFaults
import Booster.Collection.Refinement
import Booster.Collection.FailedSave
import Booster.Collection.Survival
import Booster.Controllers.Detail
import Booster.Controllers.Recommend
import Booster.Controllers.RecommendTaps
import Booster.View.CollectionItemGame
import Booster.Controllers.Home
import Booster.Controllers.ProfileTaps
import Booster.Delegates.SceneDelegate
import Booster.Collection.OfferedRows
import Booster.Collection.SaveResult
import Booster.Collection.Separate
import Booster.Session.Actions
import Booster.Session.Statuses
import Booster.Session.Safety
import Booster.Session.Effects
import Booster.Session.Listing
import Booster.Session.Badge
import Booster.Session.Label
import Booster.Session.Progress
import Booster.Session.HomeList
import Booster.Session.ProfileRows
import Booster.View.Images
import Booster.View.TagListView
import Booster.View.TagRows
import Booster.View.PinterestSegment
import Booster.View.PopMenu
import Booster.View.StarRatingView
import Booster.Session.Touches
import Booster.Controllers.DetailScreen
import Booster.Controllers.OpenScreen
import Booster.Delegates.RootScreen
