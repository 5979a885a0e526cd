import Booster.Controllers.Detail
import Mathlib.Data.List.Nodup

/-!
# The detail screen, after it is opened

What `DetailVC` shows is requested when a game is loaded to the view: a background, an icon and up to five
screenshots, whose responses arrive in any order. A screen opened from Profile has
only a `gameID` and fetches the game first: `getGameByID` puts a work item on a global queue, which puts a
closure on the main queue, which requests the game, whose completion runs `callback` a second
later, which loads it. So one callback is pending at a time (`Loading`).

Nothing stops the callbacks when the screen is dismissed. But a game is loaded once (`Stage`), so each image view has
one request, and the order of the responses does not matter (`image_views_right`), as it does for the
cells of the collection views. A game fetched is loaded unseen, and lacking something it traps
(`run_ok_iff_not_lacking`). What a call of `fetchRecommendGame` comes to is the matter of another module.
-/

namespace Booster

open Theory

/-- An image view of the detail screen. -/
inductive ImageView where
  | background
  | iconImage
  /-- `stackImage[index]`. -/
  | screnShotImage (index : ℕ)
  deriving DecidableEq

/-- The callback of `getGameByID` that is to run next. -/
inductive Loading where
  /-- `asyncWorkItem`. -/
  | asyncWorkItem (gameID : Int64)
  /-- The closure it puts on the main queue. -/
  | main (gameID : Int64)
  /-- The completion of `fetchGameById`. -/
  | completion
  /-- `callback`. -/
  | callback

/-- A detail screen and what is to come. -/
structure DetailScreen where
  /-- The controller. -/
  vc : DetailVC
  /-- The URL of the image a view shows. -/
  image : ImageView → Option String
  /-- The image requests in flight. -/
  requests : List (ImageView × String)
  /-- The callback that is to run next, if any. -/
  loading : Option Loading
  /-- The ids given to `fetchGameById`. -/
  fetched : List Int64
  /-- How often `fetchRecommendGame` has been called. -/
  fetchRecommendGame : ℕ
  /-- The image requests made so far. -/
  requested : List (ImageView × String)
  /-- The views whose requests succeeded. -/
  succeeded : List ImageView

/-- The requests for two images and the screenshots. -/
def imageRequests (background iconImage : Option String) (screenshots : List String) : List (ImageView × String) :=
  (background.map fun url => (ImageView.background, url)).toList ++
  ((iconImage.map fun url => (ImageView.iconImage, url)).toList ++
    screenshots.zipIdx.map fun p => (.screnShotImage p.2, p.1))

/-- The images a load requested. -/
def DetailVC.imageRequests (vc : DetailVC) : List (ImageView × String) :=
  Booster.imageRequests vc.background vc.iconImage vc.screenshots

/-- The images of a game that the screen has views for. -/
def Game.imageRequests (game : Game) : List (ImageView × String) :=
  Booster.imageRequests (game.sampleCover.map Cover.imageURL) (game.sampleCover.map Cover.thumbnailImageURL)
    (((game.sampleScreenshots.getD []).take 5).map Screenshot.imageURL)

namespace DetailScreen

/-- The screen presented, its fields set. -/
def present (vc : DetailVC) : DetailScreen := ⟨vc, fun _ => none, [], none, [], 0, [], []⟩

/-- The images of a load are requested, and the recommendations. -/
def request (vc : DetailVC) (s : DetailScreen) : DetailScreen :=
  { s with
    vc := vc
    requests := s.requests ++ vc.imageRequests
    requested := s.requested ++ vc.imageRequests
    fetchRecommendGame := s.fetchRecommendGame + 1 }

/-- `viewDidLoad`. -/
def viewDidLoad (s : DetailScreen) : Except Trap DetailScreen := do
  let vc ← s.vc.viewDidLoad
  match s.vc.game with
  | some _ => return s.request vc
  | none => return { s with vc := vc, loading := s.vc.gameID.map .asyncWorkItem }

/-- What happens next. -/
inductive Event where
  /-- The pending callback of `getGameByID` runs; it is given the response, if it is the completion. -/
  | loading (response : Option Game)
  /-- The `k`-th image request in flight is answered. -/
  | image (k : ℕ) (success : Bool)

/-- The pending callback runs. -/
def runLoading (response : Option Game) (s : DetailScreen) : Except Trap DetailScreen :=
  match s.loading with
  | some (.asyncWorkItem gameID) => .ok { s with loading := some (.main gameID) }
  | some (.main gameID) => .ok { s with loading := some .completion, fetched := s.fetched ++ [gameID] }
  | some .completion =>
    match response with
    | some game => .ok { s with vc.game := some game, loading := game.title.map fun _ => .callback }
    | none => .ok { s with loading := none }
  | some .callback =>
    match s.vc.game with
    | some game => do
      let vc ← s.vc.loadGameToView game
      return { s with loading := none : DetailScreen }.request vc
    | none => .ok { s with loading := none }
  | none => .ok s

/-- The completion of an image request. -/
def complete (view : ImageView) (url : String) (success : Bool) (s : DetailScreen) : DetailScreen :=
  if success then
    { s with image := Function.update s.image view (some url), succeeded := s.succeeded ++ [view] }
  else s

/-- The state after an event. -/
def step : Event → DetailScreen → Except Trap DetailScreen
  | .loading response, s => s.runLoading response
  | .image k success, s =>
    match s.requests[k]? with
    | none => .ok s
    | some (view, url) => .ok ({ s with requests := s.requests.eraseIdx k : DetailScreen }.complete view url success)

/-- What the callbacks of a run are given. -/
def responses (es : List Event) : List (Option Game) :=
  es.filterMap fun
    | .loading response => some response
    | .image _ _ => none

/-! ### What a load requests -/

end DetailScreen

/-- A load requests the images of the game. -/
theorem DetailVC.imageRequests_loadGameToView {vc vc' : DetailVC} {game : Game} (h : vc.loadGameToView game = .ok vc') :
    vc'.imageRequests = game.imageRequests := by
  obtain ⟨cover, hc, h⟩ := bind_eq_ok_iff.mp h
  obtain ⟨screenshots, hs, h⟩ := bind_eq_ok_iff.mp h
  obtain ⟨genres, -, h⟩ := bind_eq_ok_iff.mp h
  obtain ⟨genresHeight, -, h⟩ := bind_eq_ok_iff.mp h
  obtain ⟨platforms, -, h⟩ := bind_eq_ok_iff.mp h
  obtain ⟨platformHeight, -, h⟩ := bind_eq_ok_iff.mp h
  cases h
  rw [Game.imageRequests, force_eq_ok_iff.mp hc, force_eq_ok_iff.mp hs]
  rfl

/-- Each view is asked for one image. -/
theorem nodup_imageRequests (background iconImage : Option String) (screenshots : List String) :
    ((imageRequests background iconImage screenshots).map Prod.fst).Nodup := by
  have hscreen : ((screenshots.zipIdx.map fun p : String × ℕ => (ImageView.screnShotImage p.2, p.1)).map
      Prod.fst) = (List.range' 0 screenshots.length).map ImageView.screnShotImage := by
    rw [← List.zipIdx_map_snd 0 screenshots, List.map_map, List.map_map]
    rfl
  have hnodup : ((List.range' 0 screenshots.length).map ImageView.screnShotImage).Nodup :=
    List.Nodup.map (fun _ _ h => ImageView.screnShotImage.inj h) List.nodup_range'
  rw [imageRequests, List.map_append, List.map_append, hscreen]
  cases background with
  | none => cases iconImage with
    | none => simpa using hnodup
    | some iconImage => simpa using hnodup
  | some background => cases iconImage with
    | none => simpa using hnodup
    | some iconImage => simpa using hnodup

namespace DetailScreen

/-! ### Where the loading stands -/

/-- Where the loading of a screen presented as `vc` stands, when the callbacks have been given `rs`: the callback
pending, the game on the screen, the images requested, the ids fetched, and the calls of
`fetchRecommendGame`. -/
inductive Stage (vc : DetailVC) (rs : List (Option Game)) :
    Option Loading → Option Game → List (ImageView × String) → List Int64 → ℕ → Prop
  /-- The game is there. -/
  | shown (game : Game) : vc.game = some game → Stage vc rs none (some game) game.imageRequests [] 1
  /-- There is nothing to show. -/
  | empty : vc.game = none → vc.gameID = none → Stage vc rs none none [] [] 0
  | asyncWorkItem (gameID : Int64) : vc.game = none → vc.gameID = some gameID → rs.length = 0 →
    Stage vc rs (some (.asyncWorkItem gameID)) none [] [] 0
  | main (gameID : Int64) : vc.game = none → vc.gameID = some gameID → rs.length = 1 →
    Stage vc rs (some (.main gameID)) none [] [] 0
  | completion (gameID : Int64) : vc.game = none → vc.gameID = some gameID → rs.length = 2 →
    Stage vc rs (some .completion) none [] [gameID] 0
  /-- The game could not be fetched. -/
  | failed (gameID : Int64) : vc.game = none → vc.gameID = some gameID → rs[2]? = some none →
    Stage vc rs none none [] [gameID] 0
  /-- The game fetched has no title. -/
  | untitled (gameID : Int64) (game : Game) : vc.game = none → vc.gameID = some gameID → rs[2]? = some (some game) →
    game.title = none → Stage vc rs none (some game) [] [gameID] 0
  | callback (gameID : Int64) (game : Game) : vc.game = none → vc.gameID = some gameID → rs[2]? = some (some game) →
    game.title ≠ none → rs.length = 3 → Stage vc rs (some .callback) (some game) [] [gameID] 0
  /-- The game fetched has been loaded. -/
  | loaded (gameID : Int64) (game : Game) : vc.game = none → vc.gameID = some gameID → rs[2]? = some (some game) →
    game.title ≠ none → 4 ≤ rs.length → Stage vc rs none (some game) game.imageRequests [gameID] 1

/-- What a run keeps, of a screen presented as `vc` and opened as `opened`. -/
structure Progress (vc opened : DetailVC) (es : List Event) (s : DetailScreen) : Prop where
  stage : Stage vc (responses es) s.loading s.vc.game s.requested s.fetched s.fetchRecommendGame
  /-- The tags are those of the screen opened, until a load. -/
  tags : s.loading ≠ none →
    s.vc.tagListView = opened.tagListView ∧ s.vc.tagListViewPlatform = opened.tagListViewPlatform
  gameID : s.vc.gameID = opened.gameID
  status : s.vc.status = opened.status
  reloadDelegate : s.vc.reloadDelegate = opened.reloadDelegate
  buttonStatus : s.vc.buttonStatus = opened.buttonStatus
  tapGesture : s.vc.tapGesture = opened.tapGesture
  /-- What is in flight has been requested. -/
  requests : ∀ p ∈ s.requests, p ∈ s.requested
  succeeded : ∀ view ∈ s.succeeded, view ∈ s.requested.map Prod.fst
  /-- A view shows the image requested for it, once that has arrived. -/
  image : ∀ view url, s.image view = some url ↔ (view, url) ∈ s.requested ∧ view ∈ s.succeeded

/-- What is requested is requested once for each view. -/
theorem Stage.nodup {vc : DetailVC} {rs : List (Option Game)} {loading : Option Loading} {game : Option Game}
    {requested : List (ImageView × String)} {fetched : List Int64} {n : ℕ}
    (h : Stage vc rs loading game requested fetched n) : (requested.map Prod.fst).Nodup := by
  cases h with
  | shown game => exact nodup_imageRequests ..
  | loaded gameID game => exact nodup_imageRequests ..
  | _ => exact List.nodup_nil

/-- The stage is not changed by an image. -/
theorem responses_image (es : List Event) (k : ℕ) (success : Bool) :
    responses (es ++ [.image k success]) = responses es := by
  simp [responses]

theorem responses_loading (es : List Event) (response : Option Game) :
    responses (es ++ [.loading response]) = responses es ++ [response] := by
  simp [responses]

variable {vc opened : DetailVC} {es : List Event} {s s' : DetailScreen}

/-- **An image keeps the progress.** -/
theorem Progress.image_step (h : Progress vc opened es s) {k : ℕ} {success : Bool}
    (hs : step (.image k success) s = .ok s') : Progress vc opened (es ++ [.image k success]) s' := by
  have hstage := h.stage
  rw [← responses_image es k success] at hstage
  simp only [step] at hs
  cases hk : s.requests[k]? with
  | none =>
    rw [hk] at hs
    cases hs
    exact { h with stage := hstage }
  | some p =>
    obtain ⟨view, url⟩ := p
    rw [hk] at hs
    cases hs
    have hp : (view, url) ∈ s.requested := h.requests _ (List.mem_of_getElem? hk)
    have herase : ∀ p ∈ s.requests.eraseIdx k, p ∈ s.requested := fun p hp =>
      h.requests p (List.mem_of_mem_eraseIdx hp)
    cases success with
    | false => exact { h with stage := hstage, requests := herase }
    | true =>
      refine { h with stage := hstage, requests := herase, succeeded := ?_, image := fun view' url' => ?_ }
      · intro view' hv
        rcases List.mem_append.mp hv with hv | hv
        · exact h.succeeded view' hv
        · rw [List.mem_singleton.mp hv]
          exact List.mem_map_of_mem hp
      · show Function.update s.image view (some url) view' = some url' ↔ (view', url') ∈ s.requested ∧
          view' ∈ s.succeeded ++ [view]
        by_cases hv : view' = view
        · subst hv
          rw [Function.update_self]
          constructor
          · intro hu
            cases hu
            exact ⟨hp, by simp⟩
          · rintro ⟨hp', -⟩
            -- there is one request for the view
            have := List.inj_on_of_nodup_map h.stage.nodup hp hp' rfl
            rw [(Prod.mk.inj this).2]
        · rw [Function.update_of_ne hv, h.image view' url']
          simp [hv]

/-- A callback that loads nothing keeps the progress. -/
theorem Progress.move (h : Progress vc opened es s) (game : Option Game) (fetched : List Int64)
    {response : Option Game} {loading : Option Loading} {requested : List (ImageView × String)} {n : ℕ}
    (hs : s' = { s with vc.game := game, loading, fetched }) (hr : s.requested = requested)
    (hn : s.fetchRecommendGame = n) (hl : loading ≠ none → s.loading ≠ none)
    (hstage : Stage vc (responses es ++ [response]) loading game requested fetched n) :
    Progress vc opened (es ++ [.loading response]) s' := by
  subst hs hr hn
  refine ⟨?_, fun hne => h.tags (hl hne), h.gameID, h.status, h.reloadDelegate, h.buttonStatus, h.tapGesture,
    h.requests, h.succeeded, h.image⟩
  rw [responses_loading]
  exact hstage

/-- The callback that loads the game keeps the progress: nothing was requested before. -/
theorem Progress.load (h : Progress vc opened es s) {response : Option Game} {game : Game} {vc' : DetailVC}
    (hreq : s.requested = []) (hload : s.vc.loadGameToView game = .ok vc')
    (hstage : Stage vc (responses es ++ [response]) none (some game) game.imageRequests s.fetched
      (s.fetchRecommendGame + 1)) :
    Progress vc opened (es ++ [.loading response]) ({ s with loading := none : DetailScreen }.request vc') := by
  have hloaded := DetailVC.loaded_of_loadGameToView hload
  have himages := DetailVC.imageRequests_loadGameToView hload
  have hflight : s.requests = [] := List.eq_nil_iff_forall_not_mem.mpr fun p hp => by
    have := h.requests p hp
    rw [hreq] at this
    cases this
  have hsucc : s.succeeded = [] := List.eq_nil_iff_forall_not_mem.mpr fun view hv => by
    have := h.succeeded view hv
    rw [hreq] at this
    cases this
  have hnone : ∀ view url, s.image view ≠ some url := fun view url hv => by
    have := ((h.image view url).mp hv).2
    rw [hsucc] at this
    cases this
  refine ⟨?_, fun hne => absurd rfl hne, hloaded.gameID.trans h.gameID, hloaded.status.trans h.status,
    hloaded.reloadDelegate.trans h.reloadDelegate, hloaded.buttonStatus.trans h.buttonStatus,
    hloaded.tapGesture.trans h.tapGesture, ?_, ?_, fun view url => ?_⟩
  · rw [responses_loading]
    show Stage vc _ none vc'.game (s.requested ++ vc'.imageRequests) s.fetched (s.fetchRecommendGame + 1)
    rw [hreq, List.nil_append, himages, hloaded.game]
    exact hstage
  · show ∀ p ∈ s.requests ++ vc'.imageRequests, p ∈ s.requested ++ vc'.imageRequests
    rw [hflight, hreq]
    exact fun p hp => hp
  · show ∀ view ∈ s.succeeded, view ∈ (s.requested ++ vc'.imageRequests).map Prod.fst
    rw [hsucc]
    exact fun view hv => by cases hv
  · show s.image view = some url ↔ _ ∧ view ∈ s.succeeded
    rw [hsucc]
    exact iff_of_false (hnone view url) fun hv => by cases hv.2

/-- What a callback finds is what the ones before were given. -/
theorem getElem?_responses {rs : List (Option Game)} {a : Option Game} (h : rs[2]? = some a) (response : Option Game) :
    (rs ++ [response])[2]? = some a :=
  (List.getElem?_append_left (List.getElem?_eq_some_iff.mp h).1).trans h

/-- **A callback keeps the progress.** -/
theorem Progress.loading_step (h : Progress vc opened es s) {response : Option Game}
    (hs : step (.loading response) s = .ok s') : Progress vc opened (es ++ [.loading response]) s' := by
  have hst := h.stage
  simp only [step, runLoading] at hs
  generalize hl : s.loading = loading at hst hs
  generalize hg : s.vc.game = game at hst hs
  generalize hf : s.fetched = fetched at hst
  generalize hr : s.requested = requested at hst
  generalize hn : s.fetchRecommendGame = n at hst
  have hlen : (responses es ++ [response]).length = (responses es).length + 1 := by simp
  -- when nothing is pending, the state stays
  have hstay : loading = none → s = { s with vc.game := game, loading, fetched } := fun hnone => by
    subst hl hg hf
    rfl
  cases hst with
  | shown game hgame =>
    cases hs
    exact h.move _ _ (hstay rfl) hr hn (absurd rfl) (.shown game hgame)
  | empty hgame hid =>
    cases hs
    exact h.move _ _ (hstay rfl) hr hn (absurd rfl) (.empty hgame hid)
  | asyncWorkItem gameID hgame hid hzero =>
    cases hs
    refine h.move none [] ?_ hr hn (fun _ => hl ▸ Option.some_ne_none _)
      (.main gameID hgame hid (by omega))
    rw [← hg, ← hf]
  | main gameID hgame hid hone =>
    cases hs
    refine h.move none [gameID] ?_ hr hn (fun _ => hl ▸ Option.some_ne_none _)
      (.completion gameID hgame hid (by omega))
    rw [← hg, hf]
    rfl
  | completion gameID hgame hid htwo =>
    have hresp : (responses es ++ [response])[2]? = some response := by
      rw [List.getElem?_append_right (by omega), htwo]
      rfl
    cases response with
    | none =>
      cases hs
      refine h.move none [gameID] ?_ hr hn (absurd rfl) (.failed gameID hgame hid hresp)
      rw [← hg, ← hf]
    | some game =>
      cases hs
      cases htitle : game.title with
      | none =>
        refine h.move (some game) [gameID] ?_ hr hn (absurd rfl) (.untitled gameID game hgame hid hresp htitle)
        rw [← hf]
        rfl
      | some title =>
        refine h.move (some game) [gameID] ?_ hr hn (fun _ => hl ▸ Option.some_ne_none _)
          (.callback gameID game hgame hid hresp (htitle ▸ Option.some_ne_none _) (by omega))
        rw [← hf]
        rfl
  | failed gameID hgame hid hfail =>
    cases hs
    exact h.move _ _ (hstay rfl) hr hn (absurd rfl) (.failed gameID hgame hid (getElem?_responses hfail response))
  | untitled gameID game hgame hid hresp htitle =>
    cases hs
    exact h.move _ _ (hstay rfl) hr hn (absurd rfl)
      (.untitled gameID game hgame hid (getElem?_responses hresp response) htitle)
  | callback gameID game hgame hid hresp htitle hthree =>
    obtain ⟨vc', hload, hs⟩ := bind_eq_ok_iff.mp hs
    cases hs
    refine h.load hr hload ?_
    rw [hf, hn]
    exact .loaded gameID game hgame hid (getElem?_responses hresp response) htitle (by omega)
  | loaded gameID game hgame hid hresp htitle hfour =>
    cases hs
    exact h.move _ _ (hstay rfl) hr hn (absurd rfl)
      (.loaded gameID game hgame hid (getElem?_responses hresp response) htitle (by omega))

/-- A screen just opened. -/
theorem progress_viewDidLoad {s₀ : DetailScreen} (h : (present vc).viewDidLoad = .ok s₀) :
    Progress vc s₀.vc [] s₀ := by
  obtain ⟨vc', hvc, h⟩ := bind_eq_ok_iff.mp h
  have hvc : vc.viewDidLoad = .ok vc' := hvc
  cases hg : vc.game with
  | some game =>
    simp only [present, hg] at h
    cases h
    have himages : vc'.imageRequests = game.imageRequests ∧ vc'.game = some game := by
      unfold DetailVC.viewDidLoad at hvc
      cases hid : vc.gameID with
      | none =>
        simp only [hid, hg] at hvc
        exact ⟨DetailVC.imageRequests_loadGameToView hvc, (DetailVC.loaded_of_loadGameToView hvc).game⟩
      | some gameID =>
        simp only [hid, hg] at hvc
        obtain ⟨v, hv, hvc⟩ := bind_eq_ok_iff.mp hvc
        cases hvc
        have hload := DetailVC.imageRequests_loadGameToView hv
        exact ⟨hload, (DetailVC.loaded_of_loadGameToView hv).game⟩
    refine ⟨?_, absurd rfl, rfl, rfl, rfl, rfl, rfl, fun _ hp => hp, (fun _ hv => by cases hv), fun view url => ?_⟩
    · show Stage vc [] none vc'.game ([] ++ vc'.imageRequests) [] 1
      rw [List.nil_append, himages.1, himages.2]
      exact .shown game hg
    · exact iff_of_false (fun hv => by cases hv) fun hv => by cases hv.2
  | none =>
    simp only [present, hg] at h
    cases h
    have hgame : vc'.game = none := by
      unfold DetailVC.viewDidLoad at hvc
      cases hid : vc.gameID with
      | none =>
        simp only [hid, hg] at hvc
        cases hvc
        exact hg
      | some gameID =>
        simp only [hid, hg] at hvc
        cases hvc
        rfl
    refine ⟨?_, fun _ => ⟨rfl, rfl⟩, rfl, rfl, rfl, rfl, rfl, fun _ hp => hp, (fun _ hv => by cases hv),
      fun view url => iff_of_false (fun hv => by cases hv) fun hv => by cases hv.2⟩
    show Stage vc [] (vc.gameID.map .asyncWorkItem) vc'.game [] [] 0
    rw [hgame]
    cases hid : vc.gameID with
    | none => exact .empty hg hid
    | some gameID => exact .asyncWorkItem gameID hg hid rfl

theorem Progress.step (h : Progress vc opened es s) {e : Event} (hs : step e s = .ok s') :
    Progress vc opened (es ++ [e]) s' := by
  cases e with
  | loading response => exact h.loading_step hs
  | image k success => exact h.image_step hs

theorem progress_run {s₀ : DetailScreen} (h₀ : (present vc).viewDidLoad = .ok s₀)
    (h : run DetailScreen.step es s₀ = .ok s) :
    Progress vc s₀.vc es s :=
  run_history (progress_viewDidLoad h₀) (fun _ _ _ _ hp hs => hp.step hs) h

/-- What is requested is for the game on the screen. -/
theorem Stage.requested {rs : List (Option Game)} {loading : Option Loading} {game : Option Game}
    {requested : List (ImageView × String)} {fetched : List Int64} {n : ℕ}
    (h : Stage vc rs loading game requested fetched n) {p : ImageView × String} (hp : p ∈ requested) :
    ∃ g, game = some g ∧ p ∈ g.imageRequests := by
  cases h with
  | shown game => exact ⟨game, rfl, hp⟩
  | loaded gameID game => exact ⟨game, rfl, hp⟩
  | _ => cases hp

/-- What a run leaves of a screen presented as `vc` and opened as `s₀`. -/
structure ViewsRight (vc : DetailVC) (s₀ s : DetailScreen) : Prop where
  /-- A view shows an image of the game on the screen, the one it is for. -/
  own : ∀ view url, s.image view = some url → ∃ game, s.vc.game = some game ∧ (view, url) ∈ game.imageRequests
  /-- It shows the image requested for it exactly when that request has succeeded. -/
  arrived : ∀ view url, s.image view = some url ↔ (view, url) ∈ s.requested ∧ view ∈ s.succeeded
  /-- Each view is asked for one image. -/
  once : (s.requested.map Prod.fst).Nodup
  /-- The game is fetched once at most, and so are the recommendations. -/
  fetched : s.fetched <+: vc.gameID.toList
  recommended : s.fetchRecommendGame ≤ 1
  /-- The label, and what a tap on it does, are those of the screen opened. -/
  label : s.vc.buttonStatus = s₀.vc.buttonStatus ∧ s.vc.tapGesture = s₀.vc.tapGesture ∧ s.vc.gameID = s₀.vc.gameID

theorem Stage.fetched {rs : List (Option Game)} {loading : Option Loading} {game : Option Game}
    {requested : List (ImageView × String)} {fetched : List Int64} {n : ℕ}
    (h : Stage vc rs loading game requested fetched n) : fetched <+: vc.gameID.toList ∧ n ≤ 1 := by
  cases h with
  | shown game hg => exact ⟨List.nil_prefix, Nat.le_refl 1⟩
  | empty hg hid => exact ⟨List.nil_prefix, Nat.zero_le 1⟩
  | asyncWorkItem gameID hg hid => exact ⟨List.nil_prefix, Nat.zero_le 1⟩
  | main gameID hg hid => exact ⟨List.nil_prefix, Nat.zero_le 1⟩
  | completion gameID hg hid => exact ⟨by rw [hid]; exact List.prefix_rfl, Nat.zero_le 1⟩
  | failed gameID hg hid => exact ⟨by rw [hid]; exact List.prefix_rfl, Nat.zero_le 1⟩
  | untitled gameID game hg hid => exact ⟨by rw [hid]; exact List.prefix_rfl, Nat.zero_le 1⟩
  | callback gameID game hg hid => exact ⟨by rw [hid]; exact List.prefix_rfl, Nat.zero_le 1⟩
  | loaded gameID game hg hid => exact ⟨by rw [hid]; exact List.prefix_rfl, Nat.le_refl 1⟩

/-- **No image view of the detail screen shows another's image**, however the screen is opened, in whatever order its
callbacks run and its image requests are answered, each with a success or a failure: a view shows nothing or
the image of the game on the screen that is for it, and which views show one depends only on which
requests succeeded. -/
theorem image_views_right {s₀ : DetailScreen} (h₀ : (present vc).viewDidLoad = .ok s₀)
    (h : run DetailScreen.step es s₀ = .ok s) : ViewsRight vc s₀ s := by
  have hp := progress_run h₀ h
  obtain ⟨hfetched, hn⟩ := hp.stage.fetched
  exact {
    own := fun view url hv => hp.stage.requested ((hp.image view url).mp hv).1
    arrived := hp.image
    once := hp.stage.nodup
    fetched := hfetched
    recommended := hn
    label := ⟨hp.buttonStatus, hp.tapGesture, hp.gameID⟩ }

/-- A game with a cover, a screenshot, a genre and a platform. -/
def pictured : Game :=
  { Game.bare 7 with
    title := some "t"
    sampleCover := some ⟨1, "cover", [], "thumbnail", 1⟩
    sampleScreenshots := some [⟨"", 1, "shot", "", 1⟩]
    genres := some [⟨"c", 1, 1, "g"⟩]
    platforms := some [⟨"", 1, "p"⟩] }

/-- The game is fetched, and its icon and screenshot arrive before its background. -/
def outOfOrder : List Event :=
  [.loading none, .loading none, .loading (some pictured), .loading none, .image 2 true, .image 1 true, .image 0 false]

theorem image_views_right_outOfOrder : ∃ s₀ s, (present { gameID := some 7 }).viewDidLoad = .ok s₀ ∧
    run DetailScreen.step outOfOrder s₀ = .ok s ∧ s.succeeded = [.screnShotImage 0, .iconImage] ∧
    ViewsRight { gameID := some 7 } s₀ s :=
  ⟨_, _, rfl, rfl, rfl, @image_views_right { gameID := some 7 } outOfOrder _ _ rfl rfl⟩

/-! ### When a fetched game traps -/

/-- The screen has only a `gameID`, and the game fetched for it, with a title, cannot be loaded; and `callback`, the
fourth to run, was to load it. -/
def Lacking (vc opened : DetailVC) (rs : List (Option Game)) : Prop :=
  (vc.game = none ∧ vc.gameID ≠ none) ∧
    4 ≤ rs.length ∧ ∃ game, rs[2]? = some (some game) ∧ game.title ≠ none ∧ ¬opened.Loads game

theorem Lacking.concat {rs : List (Option Game)} (h : Lacking vc opened rs) (response : Option Game) :
    Lacking vc opened (rs ++ [response]) := by
  obtain ⟨hfetches, hlen, game, hresp, htitle, hloads⟩ := h
  refine ⟨hfetches, ?_, game, getElem?_responses hresp response, htitle, hloads⟩
  rw [List.length_append]
  omega

/-- Whether a game can be loaded depends on the tags there are. -/
theorem loads_congr {a b : DetailVC} (ht : a.tagListView = b.tagListView)
    (hp : a.tagListViewPlatform = b.tagListViewPlatform) (game : Game) : a.Loads game ↔ b.Loads game :=
  ⟨fun h => ⟨h.sampleCover, h.sampleScreenshots, ht ▸ h.genres, hp ▸ h.platforms⟩,
    fun h => ⟨h.sampleCover, h.sampleScreenshots, ht ▸ h.genres, hp ▸ h.platforms⟩⟩

/-- The next callback runs exactly when the game it loads, if any, can be loaded. -/
theorem Progress.ok_iff (h : Progress vc opened es s) (hl : ¬Lacking vc opened (responses es))
    (response : Option Game) :
    (∃ s', DetailScreen.step (.loading response) s = .ok s') ↔ ¬Lacking vc opened (responses es ++ [response]) := by
  have hst := h.stage
  have htags := h.tags
  simp only [DetailScreen.step, runLoading]
  generalize s.loading = loading at hst htags
  generalize s.vc.game = game at hst
  generalize s.fetched = fetched at hst
  generalize s.requested = requested at hst
  generalize s.fetchRecommendGame = n at hst
  have hlen : (responses es ++ [response]).length = (responses es).length + 1 := by simp
  have hshort : (responses es).length < 3 → ¬Lacking vc opened (responses es ++ [response]) := fun hlt hlack => by
    have := hlack.2.1
    omega
  cases hst with
  | shown game hg =>
    refine iff_of_true ⟨_, rfl⟩ fun hlack => ?_
    rw [hlack.1.1] at hg
    cases hg
  | empty hg hnone => exact iff_of_true ⟨_, rfl⟩ fun hlack => hlack.1.2 hnone
  | asyncWorkItem gameID hg hid hzero => exact iff_of_true ⟨_, rfl⟩ (hshort (by omega))
  | main gameID hg hid hone => exact iff_of_true ⟨_, rfl⟩ (hshort (by omega))
  | completion gameID hg hid htwo =>
    refine iff_of_true ?_ (hshort (by omega))
    cases response with
    | none => exact ⟨_, rfl⟩
    | some game => exact ⟨_, rfl⟩
  | failed gameID hg hid hfail =>
    refine iff_of_true ⟨_, rfl⟩ fun hlack => ?_
    obtain ⟨-, -, game, hresp, -⟩ := hlack
    rw [getElem?_responses hfail response] at hresp
    cases hresp
  | untitled gameID game hg hid hresp htitle =>
    refine iff_of_true ⟨_, rfl⟩ fun hlack => ?_
    obtain ⟨-, -, game', hresp', htitle', -⟩ := hlack
    rw [getElem?_responses hresp response] at hresp'
    cases hresp'
    exact htitle' htitle
  | callback gameID game hg hid hresp htitle hthree =>
    obtain ⟨ht, hp⟩ := htags (Option.some_ne_none _)
    have hload : (∃ vc', s.vc.loadGameToView game = .ok vc') ↔ opened.Loads game :=
      DetailVC.loadGameToView_ok_iff.trans (loads_congr ht hp game)
    constructor
    · rintro ⟨s', hs⟩ ⟨-, -, game', hresp', -, hno⟩
      obtain ⟨vc', hv, -⟩ := bind_eq_ok_iff.mp hs
      rw [getElem?_responses hresp response] at hresp'
      cases hresp'
      exact hno (hload.mp ⟨vc', hv⟩)
    · intro hlack
      have hloads : opened.Loads game := by
        by_contra hno
        exact hlack ⟨⟨hg, hid ▸ Option.some_ne_none gameID⟩, by omega, game, getElem?_responses hresp response, htitle,
          hno⟩
      obtain ⟨vc', hv⟩ := hload.mpr hloads
      exact ⟨_, bind_eq_ok_iff.mpr ⟨vc', hv, rfl⟩⟩
  | loaded gameID game hg hid hresp htitle hfour =>
    refine iff_of_true ⟨_, rfl⟩ fun hlack => hl ⟨hlack.1, hfour, ?_⟩
    obtain ⟨-, -, game', hresp', htitle', hno⟩ := hlack
    rw [getElem?_responses hresp response] at hresp'
    cases hresp'
    exact ⟨game, hresp, htitle, hno⟩

/-- **The loading and the images trap exactly when the game fetched, unseen, lacks something**: in every run from an
opening, nothing traps if and only if the screen was opened with a game, or `callback` has not run, or the response was
a failure, or a game without a title, or one that `loadGameToView` can show. -/
theorem run_ok_iff_not_lacking {s₀ : DetailScreen} (h₀ : (present vc).viewDidLoad = .ok s₀) (es : List Event) :
    (∃ s, run DetailScreen.step es s₀ = .ok s) ↔ ¬Lacking vc s₀.vc (responses es) := by
  refine run_ok_iff (H := Progress vc s₀.vc) (G := fun es => ¬Lacking vc s₀.vc (responses es))
    (progress_viewDidLoad h₀) (fun _ _ _ _ hp hs => hp.step hs) ?_ ?_ ?_ es
  · rintro ⟨-, hlen, -⟩
    exact absurd hlen (by decide)
  · intro es e hl hlack
    cases e with
    | loading response => exact hl (responses_loading es response ▸ hlack.concat response)
    | image k success => exact hl (responses_image es k success ▸ hlack)
  · intro es e t hp hl
    cases e with
    | loading response =>
      rw [responses_loading]
      exact hp.ok_iff hl response
    | image k success =>
      rw [responses_image]
      refine iff_of_true ?_ hl
      simp only [DetailScreen.step]
      split
      · exact ⟨_, rfl⟩
      · exact ⟨_, rfl⟩

end DetailScreen

end Booster
