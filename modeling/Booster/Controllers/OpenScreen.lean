import Booster.Controllers.DetailScreen
import Booster.Controllers.Recommend

/-!
# The detail screen and its recommendations

A game loaded to the view has its recommendations fetched: `fetchRecommendGame` puts a work item on a global
queue, which requests the ids, whose completion is the first call of the chain (`Recommending`). Meanwhile the
images of the game arrive, and the screen may have been dismissed. `OpenScreen` is the screen
with both, and its events those of either in any order; the recommendations have none until
`fetchRecommendGame` has been called, which happens once at most.

A run of the whole is a run of the screen and one of the recommendations, each on its own events
(`run_iff_runs`). So what can trap is what can trap in one of them: a game fetched that cannot be loaded, and a chain
with fewer ids than slots (`opened_ok_iff`).
-/

namespace Booster

open Theory

/-- Where the recommendations of a screen stand, from the call of `fetchRecommendGame` on. -/
inductive Recommending where
  /-- `asyncWorkItem` is to run. -/
  | asyncWorkItem
  /-- `fetchGameId` is to be answered. -/
  | fetchGameId
  /-- It was, with these ids. -/
  | chain (gameIdArray : List Int64) (s : Recommend)

namespace Recommending

/-- What happens to the recommendations. -/
inductive Event where
  /-- `asyncWorkItem` runs, or the completion of `fetchGameId`, which is given the response. -/
  | fetchGameId (response : Option (List Int64))
  /-- Something happens to the chain. -/
  | chain (e : Recommend.Event)

variable (slots : List ItemGame) (response : ℕ → Option Game)

/-- The state after an event. -/
def step : Event → Recommending → Except Trap Recommending
  | .fetchGameId _, .asyncWorkItem => .ok .fetchGameId
  | .fetchGameId (some gameIdArray), .fetchGameId => do
    -- the completion makes the first call of the chain itself
    let s ← (Recommend.fetchRecommendGame true slots).callback gameIdArray response true
    return .chain gameIdArray s
  | .fetchGameId none, .fetchGameId => .ok (.chain [] (Recommend.fetchRecommendGame false slots))
  | .chain e, .chain gameIdArray s => do
    let s ← Recommend.step gameIdArray response e s
    return .chain gameIdArray s
  | _, s => .ok s

/-- What happens to the chain. -/
def chainEvents (es : List Event) : List Recommend.Event :=
  es.filterMap fun
    | .chain e => some e
    | .fetchGameId _ => none

/-- The ids that the completion is given, if any, and what happens to the chain, from the call in the completion on. -/
def answered : List Event → Option (List Int64 × List Recommend.Event)
  | [] => none
  | .fetchGameId none :: _ => none
  | .fetchGameId (some gameIdArray) :: es => some (gameIdArray, .callback true :: chainEvents es)
  | .chain _ :: es => answered es

/-- The same, before the work item has run. -/
def told : List Event → Option (List Int64 × List Recommend.Event)
  | [] => none
  | .fetchGameId _ :: es => answered es
  | .chain _ :: es => told es

variable {slots response} {es : List Event}

/-- The ids answered, the recommendations are their chain. -/
theorem run_chain_ok_iff {gameIdArray : List Int64} {s : Recommend} :
    (∃ t, run (step slots response) es (.chain gameIdArray s) = .ok t) ↔
      ∃ s', run (Recommend.step gameIdArray response) (chainEvents es) s = .ok s' := by
  induction es generalizing s with
  | nil => exact iff_of_true ⟨_, rfl⟩ ⟨_, rfl⟩
  | cons e es ih =>
    cases e with
    | fetchGameId r => exact ih
    | chain e =>
      constructor
      · rintro ⟨t, h⟩
        obtain ⟨u, hu, h⟩ := run_cons_ok.mp h
        obtain ⟨s', hs', hu⟩ := bind_eq_ok_iff.mp hu
        cases hu
        obtain ⟨s'', hs''⟩ := ih.mp ⟨t, h⟩
        exact ⟨s'', run_cons_ok.mpr ⟨s', hs', hs''⟩⟩
      · rintro ⟨s'', h⟩
        obtain ⟨s', hs', h⟩ := run_cons_ok.mp h
        obtain ⟨t, ht⟩ := ih.mpr ⟨s'', h⟩
        exact ⟨t, run_cons_ok.mpr ⟨_, bind_eq_ok_iff.mpr ⟨s', hs', rfl⟩, ht⟩⟩

/-- A chain without a first call does nothing. -/
theorem run_failed_ok (es : List Recommend.Event) :
    ∃ s, run (Recommend.step [] response) es (Recommend.fetchRecommendGame false slots) = .ok s :=
  run_of_inv (I := fun s => s = Recommend.fetchRecommendGame false slots)
    (fun e _ s hs => ⟨s, by subst hs; cases e <;> rfl, hs⟩) rfl

theorem run_fetchGameId_ok_iff : (∃ t, run (step slots response) es .fetchGameId = .ok t) ↔
    ∀ gameIdArray ces, answered es = some (gameIdArray, ces) →
      ∃ s, run (Recommend.step gameIdArray response) ces (Recommend.fetchRecommendGame true slots) = .ok s := by
  induction es with
  | nil => exact iff_of_true ⟨_, rfl⟩ nofun
  | cons e es ih =>
    cases e with
    | chain e => exact ih
    | fetchGameId r =>
      cases r with
      | none => exact iff_of_true (run_chain_ok_iff.mpr (run_failed_ok _)) nofun
      | some gameIdArray =>
        constructor
        · rintro ⟨t, h⟩ gameIdArray' ces hces
          cases hces
          obtain ⟨u, hu, h⟩ := run_cons_ok.mp h
          obtain ⟨s, hs, hu⟩ := bind_eq_ok_iff.mp hu
          cases hu
          obtain ⟨s', hs'⟩ := run_chain_ok_iff.mp ⟨t, h⟩
          exact ⟨s', run_cons_ok.mpr ⟨s, hs, hs'⟩⟩
        · intro h
          obtain ⟨s', hs'⟩ := h gameIdArray _ rfl
          obtain ⟨s, hs, hs'⟩ := run_cons_ok.mp hs'
          obtain ⟨t, ht⟩ := run_chain_ok_iff.mpr ⟨s', hs'⟩
          exact ⟨t, run_cons_ok.mpr ⟨_, bind_eq_ok_iff.mpr ⟨s, hs, rfl⟩, ht⟩⟩

/-- **The recommendations trap exactly when the chain does**, on the ids that the completion was given. -/
theorem run_ok_iff_told : (∃ t, run (step slots response) es .asyncWorkItem = .ok t) ↔
    ∀ gameIdArray ces, told es = some (gameIdArray, ces) →
      ∃ s, run (Recommend.step gameIdArray response) ces (Recommend.fetchRecommendGame true slots) = .ok s := by
  induction es with
  | nil => exact iff_of_true ⟨_, rfl⟩ nofun
  | cons e es ih =>
    cases e with
    | chain e => exact ih
    | fetchGameId r => exact run_fetchGameId_ok_iff

end Recommending

/-- A detail screen with its recommendations. -/
structure OpenScreen where
  screen : DetailScreen
  /-- Where the recommendations stand, if `fetchRecommendGame` has been called. -/
  recommending : Recommending

namespace OpenScreen

/-- The screen just opened. -/
def opened (screen : DetailScreen) : OpenScreen := ⟨screen, .asyncWorkItem⟩

/-- What happens next. -/
inductive Event where
  /-- A callback of `getGameByID` runs, or an image of the game arrives. -/
  | screen (e : DetailScreen.Event)
  /-- Something happens to the recommendations. -/
  | recommending (e : Recommending.Event)

variable (slots : List ItemGame) (response : ℕ → Option Game)

/-- The state after an event. -/
def step : Event → OpenScreen → Except Trap OpenScreen
  | .screen e, s => do
    let screen ← s.screen.step e
    return { s with screen }
  | .recommending e, s =>
    if s.screen.fetchRecommendGame = 0 then .ok s
    else do
      let recommending ← s.recommending.step slots response e
      return { s with recommending }

/-- What happens to the screen. -/
def screenEvents (es : List Event) : List DetailScreen.Event :=
  es.filterMap fun
    | .screen e => some e
    | .recommending _ => none

/-- What happens to the recommendations, once `fetchRecommendGame` has been called on the screen. -/
def recommendingEvents : List Event → DetailScreen → List Recommending.Event
  | [], _ => []
  | .screen e :: es, screen =>
    match screen.step e with
    | .ok screen => recommendingEvents es screen
    | .error _ => []
  | .recommending e :: es, screen =>
    if screen.fetchRecommendGame = 0 then recommendingEvents es screen
    else e :: recommendingEvents es screen

variable {slots response} {es : List Event}

/-- **A run is one of the screen and one of the recommendations**, each on its own events. -/
theorem run_iff_runs {s s' : OpenScreen} : run (step slots response) es s = .ok s' ↔
    run DetailScreen.step (screenEvents es) s.screen = .ok s'.screen ∧
      run (Recommending.step slots response) (recommendingEvents es s.screen) s.recommending =
        .ok s'.recommending := by
  induction es generalizing s with
  | nil =>
    obtain ⟨screen, recommending⟩ := s
    obtain ⟨screen', recommending'⟩ := s'
    simp [screenEvents, recommendingEvents]
  | cons e es ih =>
    rw [run_cons_ok]
    cases e with
    | screen e =>
      show _ ↔ run DetailScreen.step (e :: screenEvents es) s.screen = _ ∧ _
      rw [run_cons_ok]
      constructor
      · rintro ⟨t, ht, h⟩
        obtain ⟨screen, hscreen, ht⟩ := bind_eq_ok_iff.mp ht
        cases ht
        obtain ⟨hs, hr⟩ := ih.mp h
        refine ⟨⟨screen, hscreen, hs⟩, ?_⟩
        rwa [recommendingEvents, hscreen]
      · rintro ⟨⟨screen, hscreen, hs⟩, hr⟩
        rw [recommendingEvents, hscreen] at hr
        exact ⟨{ s with screen }, bind_eq_ok_iff.mpr ⟨screen, hscreen, rfl⟩, ih.mpr ⟨hs, hr⟩⟩
    | recommending e =>
      show _ ↔ run DetailScreen.step (screenEvents es) s.screen = _ ∧ _
      by_cases hn : s.screen.fetchRecommendGame = 0
      · simp only [step, recommendingEvents, if_pos hn, Except.ok.injEq, exists_eq_left']
        exact ih
      · simp only [step, recommendingEvents, if_neg hn]
        constructor
        · rintro ⟨t, ht, h⟩
          obtain ⟨recommending, hrecommending, ht⟩ := bind_eq_ok_iff.mp ht
          cases ht
          obtain ⟨hs, hr⟩ := ih.mp h
          exact ⟨hs, run_cons_ok.mpr ⟨recommending, hrecommending, hr⟩⟩
        · rintro ⟨hs, hr⟩
          obtain ⟨recommending, hrecommending, hr⟩ := run_cons_ok.mp hr
          exact ⟨{ s with recommending }, bind_eq_ok_iff.mpr ⟨recommending, hrecommending, rfl⟩, ih.mpr ⟨hs, hr⟩⟩

/-- **What traps in an open detail screen**, however it was opened, in whatever order its callbacks run and its images
arrive, and whether the screen is dismissed or not: a run does not trap exactly when the game fetched, if one was and
it has been loaded unseen, is one that `loadGameToView` can show, and there are ids enough for the run of the
chain, if ids have been received. -/
theorem opened_ok_iff {vc : DetailVC} {s₀ : DetailScreen} (h₀ : (DetailScreen.present vc).viewDidLoad = .ok s₀)
    (slots : List ItemGame) (response : ℕ → Option Game) (es : List Event) :
    (∃ s, run (step slots response) es (opened s₀) = .ok s) ↔
      ¬DetailScreen.Lacking vc s₀.vc (DetailScreen.responses (screenEvents es)) ∧
      ∀ gameIdArray ces, Recommending.told (recommendingEvents es s₀) = some (gameIdArray, ces) →
        Recommend.EnoughIds slots.length gameIdArray.length (Recommend.callbacks ces) := by
  have hchain : (∃ t, run (Recommending.step slots response) (recommendingEvents es s₀) .asyncWorkItem = .ok t) ↔
      ∀ gameIdArray ces, Recommending.told (recommendingEvents es s₀) = some (gameIdArray, ces) →
        Recommend.EnoughIds slots.length gameIdArray.length (Recommend.callbacks ces) :=
    Recommending.run_ok_iff_told.trans
      (forall₂_congr fun _ _ => imp_congr_right fun _ => Recommend.run_ok_iff_enoughIds)
  rw [← DetailScreen.run_ok_iff_not_lacking h₀, ← hchain]
  constructor
  · rintro ⟨s, h⟩
    obtain ⟨hs, hr⟩ := run_iff_runs.mp h
    exact ⟨⟨_, hs⟩, _, hr⟩
  · rintro ⟨⟨screen, hs⟩, recommending, hr⟩
    exact ⟨⟨screen, recommending⟩, run_iff_runs.mpr ⟨hs, hr⟩⟩

/-- The game is fetched and loaded, and then the ids are. -/
def fetchedAndAnswered (gameIdArray : List Int64) : List Event :=
  [.recommending (.fetchGameId none), .screen (.loading none), .screen (.loading none),
    .screen (.loading (some DetailScreen.pictured)), .screen (.loading none),
    .recommending (.fetchGameId none), .recommending (.fetchGameId (some gameIdArray))]

theorem opened_ok_iff_fetchedAndAnswered :
    ∃ s₀, (DetailScreen.present { gameID := some 7 }).viewDidLoad = .ok s₀ ∧
      Recommending.told (recommendingEvents (fetchedAndAnswered []) s₀) = some ([], [.callback true]) ∧
      ((∃ s, run (step (List.replicate 10 {}) fun _ => none) (fetchedAndAnswered []) (opened s₀) = .ok s) ↔
        ¬DetailScreen.Lacking { gameID := some 7 } s₀.vc
            (DetailScreen.responses (screenEvents (fetchedAndAnswered []))) ∧
          ∀ gameIdArray ces,
            Recommending.told (recommendingEvents (fetchedAndAnswered []) s₀) = some (gameIdArray, ces) →
              Recommend.EnoughIds 10 gameIdArray.length (Recommend.callbacks ces)) :=
  ⟨_, rfl, rfl, @opened_ok_iff { gameID := some 7 } _ rfl (List.replicate 10 {}) (fun _ => none) _⟩

end OpenScreen

end Booster
