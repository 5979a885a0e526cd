import Booster.Theory.Run

/-!
# The root screen and the sign-in state

`SceneDelegate` shows the tab bar to a user who is signed in, and otherwise the
welcome screen, from which the login and the sign-up screens are pushed. Each makes its
controller once and keeps it, with its stack of screens. A sign-in and a sign-up
are requests: FirebaseAuth sets `currentUser` when it accepts one, and calls back later. Any number may be
outstanding, and anything may happen before they are answered.

The callback of a sign-up sets the root whatever has happened. That of a sign-in does so
through a weak reference to its login screen, so not when the screen has been popped and released,
although the user is signed in then. Nor does either look at `currentUser`, which a logout
may have cleared since. `Scene.Answers` is the condition under which neither
matters: along runs whose steps meet it the root follows the sign-in state, and
after the first step that does not, the responses outstanding leave the wrong root, in whatever order
they come (`root_follows_signIn`).
-/

namespace Booster

open Theory

/-- The window's root view controller. -/
inductive Root where
  /-- `navWelcomeController`. -/
  | welcome
  /-- `tabbarController`. -/
  | tabbar
  deriving DecidableEq

/-- A screen pushed on the welcome screen. -/
inductive Screen where
  /-- A `LoginControllerViewController`. -/
  | login (id : ℕ)
  /-- A `Signup_VC`. -/
  | signup (id : ℕ)
  deriving DecidableEq

/-- Who waits for a response. -/
inductive Waiting where
  /-- `signinButton` of a login screen, held weakly. -/
  | signinButton (screen : ℕ)
  /-- `signUpButton`, which holds no screen. -/
  | signUpButton
  deriving DecidableEq

/-- A request to FirebaseAuth. -/
structure AuthRequest where
  /-- Who waits for its response. -/
  waiting : Waiting
  /-- Whether FirebaseAuth has accepted it. -/
  accepted : Bool
  deriving DecidableEq

/-- What `SceneDelegate`, the welcome screens and FirebaseAuth know. -/
structure Scene where
  /-- `Auth.auth().currentUser` is not `nil`. -/
  currentUser : Bool
  /-- `window.rootViewController`. -/
  root : Root
  /-- `navWelcomeController`, once it is made: the screens pushed, the top one first. -/
  navWelcomeController : Option (List Screen)
  /-- Whether `tabbarController` is made. -/
  tabbarController : Bool
  /-- The requests not yet answered. -/
  requests : List AuthRequest
  /-- The identity of the next screen pushed. -/
  next : ℕ

/-- What happens to the scene. -/
inductive SceneEvent where
  /-- The login screen is pushed. -/
  | openLogin
  /-- The sign-up screen is pushed. -/
  | openSignup
  /-- The top screen is popped. -/
  | back
  /-- The button of the login screen. -/
  | signinButton
  /-- The button of the sign-up screen. -/
  | signUpButton
  /-- FirebaseAuth accepts the `k`-th request, and sets `currentUser`. -/
  | accept (k : ℕ)
  /-- FirebaseAuth calls back for the `k`-th request: with a user, if it has accepted it, and
  otherwise with an error. -/
  | respond (k : ℕ)
  /-- The logout button of the Home screen, when `signOut` throws or not. -/
  | logoutTapped (signOutThrows : Bool)

/-- What `login` and `signup` pass to `completion`: whether it is a success. -/
def AuthViewModel.completion (error user : Bool) : Bool := if error then false else user

namespace Scene

/-- `setRootViewWelcome`. -/
def setRootViewWelcome (s : Scene) : Scene :=
  match s.navWelcomeController with
  | some _ => { s with root := .welcome }
  | none => { s with navWelcomeController := some [], root := .welcome }

/-- `setRootViewTabbar`. -/
def setRootViewTabbar (s : Scene) : Scene := { s with tabbarController := true, root := .tabbar }

/-- `scene(_:willConnectTo:options:)`, of a user who is signed in or not. -/
def willConnectTo (isLoggedIn : Bool) : Scene :=
  let s : Scene := ⟨isLoggedIn, .welcome, none, false, [], 0⟩
  if isLoggedIn then s.setRootViewTabbar else s.setRootViewWelcome

/-- The screens on the stack: those not released. -/
def screens (s : Scene) : List Screen := s.navWelcomeController.getD []

/-- The top screen, when the welcome screens are shown. -/
def top (s : Scene) : Option Screen := if s.root = .welcome then s.screens.head? else none

/-- The screens after one is pushed, when the welcome screens are shown. -/
def push (screen : ℕ → Screen) (s : Scene) : Scene :=
  if s.root = .welcome then
    { s with navWelcomeController := some (screen s.next :: s.screens), next := s.next + 1 }
  else s

/-- Whether the callback of a request sets the root when it is a success. -/
def setsRoot (s : Scene) (r : AuthRequest) : Bool :=
  match r.waiting with
  | .signinButton screen => .login screen ∈ s.screens
  | .signUpButton => true

/-- The callback of `signinButton` or `signUpButton`. -/
def callback (r : AuthRequest) (s : Scene) : Scene :=
  if AuthViewModel.completion (!r.accepted) r.accepted then
    if s.setsRoot r then s.setRootViewTabbar else s
  else s

/-- The scene after an event. -/
def step : SceneEvent → Scene → Scene
  | .openLogin, s => s.push .login
  | .openSignup, s => s.push .signup
  | .back, s =>
    if s.root = .welcome then { s with navWelcomeController := some s.screens.tail } else s
  | .signinButton, s =>
    match s.top with
    | some (.login screen) => { s with requests := s.requests ++ [⟨.signinButton screen, false⟩] }
    | _ => s
  | .signUpButton, s =>
    match s.top with
    | some (.signup _) => { s with requests := s.requests ++ [⟨.signUpButton, false⟩] }
    | _ => s
  | .accept k, s =>
    match s.requests[k]? with
    | some r =>
      if r.accepted then s
      else { s with requests := s.requests.set k { r with accepted := true }, currentUser := true }
    | none => s
  | .respond k, s =>
    match s.requests[k]? with
    | some r => { s with requests := s.requests.eraseIdx k : Scene }.callback r
    | none => s
  | .logoutTapped signOutThrows, s =>
    if s.root = .tabbar then
      if signOutThrows then s else { s with currentUser := false : Scene }.setRootViewWelcome
    else s

/-- With no response outstanding, the root is the tab bar exactly for a user who is signed in. -/
def RootRight (s : Scene) : Prop := s.requests = [] → (s.root = .tabbar ↔ s.currentUser = true)

/-- A success comes in time: one that sets the root comes while the user is signed in, and one
that does not, its login screen released, comes when the user is not, or the root is the tab bar, or
another success is outstanding. -/
def Answers : SceneEvent → Scene → Prop
  | .respond k, s => ∀ r, s.requests[k]? = some r → r.accepted = true →
    if s.setsRoot r then s.currentUser = true
    else s.currentUser = true → s.root = .tabbar ∨ ∃ r' ∈ s.requests.eraseIdx k, r'.accepted = true
  | _, _ => True

/-! ### What an event can do -/

@[simp] theorem currentUser_setRootViewWelcome (s : Scene) :
    s.setRootViewWelcome.currentUser = s.currentUser := by
  unfold setRootViewWelcome
  split <;> rfl

@[simp] theorem root_setRootViewWelcome (s : Scene) : s.setRootViewWelcome.root = .welcome := by
  unfold setRootViewWelcome
  split <;> rfl

/-- What the root, the user and the requests tell of a scene. -/
structure SameAuth (s t : Scene) : Prop where
  currentUser : t.currentUser = s.currentUser
  root : t.root = s.root
  requests : t.requests = s.requests

theorem sameAuth_push (screen : ℕ → Screen) (s : Scene) : SameAuth s (s.push screen) := by
  unfold push
  split <;> exact ⟨rfl, rfl, rfl⟩

/-- The callback of a request that was not accepted does nothing. -/
theorem callback_of_not_accepted {r : AuthRequest} (h : r.accepted = false) (s : Scene) : s.callback r = s := by
  simp [callback, AuthViewModel.completion, h]

theorem callback_of_accepted {r : AuthRequest} (h : r.accepted = true) (s : Scene) :
    s.callback r = if s.setsRoot r then s.setRootViewTabbar else s := by
  simp [callback, AuthViewModel.completion, h]

/-! ### The invariant -/

/-- The root follows the sign-in state, but for successes outstanding. -/
structure Sound (s : Scene) : Prop where
  /-- The tab bar is shown to a user who is signed in. -/
  tabbar : s.root = .tabbar → s.currentUser = true
  /-- A user who is signed in is shown the tab bar, or will be. -/
  currentUser : s.currentUser = true → s.root = .tabbar ∨ ∃ r ∈ s.requests, r.accepted = true

theorem sound_willConnectTo (isLoggedIn : Bool) : Sound (willConnectTo isLoggedIn) := by
  cases isLoggedIn with
  | true => exact ⟨fun _ => rfl, fun _ => .inl rfl⟩
  | false => exact ⟨fun h => absurd h (by decide), fun h => absurd h (by decide)⟩

theorem Sound.congr {s t : Scene} (h : Sound s) (hst : SameAuth s t) : Sound t where
  tabbar hr := by
    rw [hst.currentUser]
    exact h.tabbar (hst.root ▸ hr)
  currentUser hc := by
    rw [hst.root, hst.requests]
    exact h.currentUser (hst.currentUser ▸ hc)

/-- Another request does no harm. -/
theorem Sound.request {s : Scene} (h : Sound s) (r : AuthRequest) :
    Sound { s with requests := s.requests ++ [r] } where
  tabbar := h.tabbar
  currentUser hc := by
    rcases h.currentUser hc with hr | ⟨r', hr', ha⟩
    · exact .inl hr
    · exact .inr ⟨r', List.mem_append_left _ hr', ha⟩

/-- A response keeps the invariant, if it comes in time when it is a success. -/
theorem sound_respond {s : Scene} (h : Sound s) {k : ℕ} {r : AuthRequest} (hr : s.requests[k]? = some r)
    (ha : Answers (.respond k) s) :
    Sound ({ s with requests := s.requests.eraseIdx k : Scene }.callback r) := by
  cases hacc : r.accepted with
  | false =>
    rw [callback_of_not_accepted hacc]
    refine ⟨h.tabbar, fun hc => (h.currentUser hc).imp_right ?_⟩
    rintro ⟨r', hr', ha'⟩
    -- the request answered is not the one accepted
    obtain ⟨j, hj⟩ := List.mem_iff_getElem?.mp hr'
    have hjk : j ≠ k := by
      rintro rfl
      rw [hr, Option.some.injEq] at hj
      rw [hj, ha'] at hacc
      cases hacc
    exact ⟨r', List.mem_eraseIdx_iff_getElem?.mpr ⟨j, hjk, hj⟩, ha'⟩
  | true =>
    rw [callback_of_accepted hacc]
    have ha := ha r hr hacc
    by_cases hs : s.setsRoot r = true
    · rw [if_pos hs] at ha
      rw [if_pos (show ({ s with requests := s.requests.eraseIdx k } : Scene).setsRoot r = true from hs)]
      exact ⟨fun _ => ha, fun _ => .inl rfl⟩
    · rw [if_neg hs] at ha
      rw [if_neg (show ¬({ s with requests := s.requests.eraseIdx k } : Scene).setsRoot r = true from hs)]
      exact ⟨h.tabbar, ha⟩

/-- **An event keeps the invariant**, if it is no success or one that comes in time. -/
theorem sound_step {e : SceneEvent} {s : Scene} (h : Sound s) (ha : Answers e s) : Sound (s.step e) := by
  cases e with
  | openLogin => exact h.congr (sameAuth_push .login s)
  | openSignup => exact h.congr (sameAuth_push .signup s)
  | back =>
    simp only [step]
    split
    · exact h.congr ⟨rfl, rfl, rfl⟩
    · exact h
  | signinButton =>
    simp only [step]
    split
    · exact h.request _
    · exact h
  | signUpButton =>
    simp only [step]
    split
    · exact h.request _
    · exact h
  | accept k =>
    simp only [step]
    split
    next r hr =>
      split
      · exact h
      · refine ⟨fun _ => rfl, fun _ => .inr ⟨{ r with accepted := true }, ?_, rfl⟩⟩
        exact List.mem_set ((List.getElem?_eq_some_iff.mp hr).1) _
    · exact h
  | respond k =>
    simp only [step]
    split
    next r hr => exact sound_respond h hr ha
    · exact h
  | logoutTapped signOutThrows =>
    simp only [step]
    split
    · split
      · exact h
      · refine ⟨fun hr => ?_, fun hc => ?_⟩
        · rw [root_setRootViewWelcome] at hr
          cases hr
        · rw [currentUser_setRootViewWelcome] at hc
          cases hc
    · exact h

theorem rootRight_of_sound {s : Scene} (h : Sound s) : RootRight s := by
  intro hn
  refine ⟨h.tabbar, fun hc => (h.currentUser hc).resolve_right ?_⟩
  rintro ⟨r, hr, -⟩
  rw [hn] at hr
  cases hr

/-! ### A success that does not come in time -/

/-- The root is wrong, and no success outstanding will set it right. -/
def Wrong (s : Scene) : Prop :=
  (s.root = .tabbar ∧ s.currentUser = false) ∨
    (s.root = .welcome ∧ s.currentUser = true ∧ ∀ r ∈ s.requests, r.accepted = false)

theorem not_rootRight_of_wrong {s : Scene} (h : Wrong s) (hn : s.requests = []) : ¬RootRight s := by
  intro hr
  have hr := hr hn
  rcases h with ⟨ht, hc⟩ | ⟨hw, hc, -⟩
  · rw [hr.mp ht] at hc
    cases hc
  · rw [hr.mpr hc] at hw
    cases hw

/-- A success that does not come in time leaves the root wrong. -/
theorem wrong_of_not_answers {e : SceneEvent} {s : Scene} (ha : ¬Answers e s) : Wrong (s.step e) := by
  cases e with
  | respond k =>
    simp only [Answers, not_forall] at ha
    obtain ⟨r, hr, hacc, ha⟩ := ha
    simp only [step, hr, callback_of_accepted hacc]
    by_cases hs : s.setsRoot r = true
    · rw [if_pos hs, Bool.not_eq_true] at ha
      rw [if_pos (show ({ s with requests := s.requests.eraseIdx k } : Scene).setsRoot r = true from hs)]
      exact .inl ⟨rfl, ha⟩
    · rw [if_neg hs, Classical.not_imp, not_or] at ha
      rw [if_neg (show ¬({ s with requests := s.requests.eraseIdx k } : Scene).setsRoot r = true from hs)]
      obtain ⟨hc, hroot, hn⟩ := ha
      refine .inr ⟨?_, hc, fun r' hr' => Bool.eq_false_iff.mpr fun hacc' => hn ⟨r', hr', hacc'⟩⟩
      show s.root = .welcome
      cases hroot' : s.root with
      | welcome => rfl
      | tabbar => exact absurd hroot' hroot
  | _ => exact absurd trivial ha

/-- A response does not set the root right again. -/
theorem wrong_respond {s : Scene} (h : Wrong s) (k : ℕ) : Wrong (s.step (.respond k)) := by
  simp only [step]
  cases hk : s.requests[k]? with
  | none => exact h
  | some r =>
    dsimp only
    rcases h with ⟨ht, hc⟩ | ⟨hw, hc, hn⟩
    · cases hacc : r.accepted with
      | false =>
        rw [callback_of_not_accepted hacc]
        exact .inl ⟨ht, hc⟩
      | true =>
        rw [callback_of_accepted hacc]
        split
        · exact .inl ⟨rfl, hc⟩
        · exact .inl ⟨ht, hc⟩
    · rw [callback_of_not_accepted (hn r (List.mem_of_getElem? hk))]
      exact .inr ⟨hw, hc, fun r' hr' => hn r' (List.mem_of_mem_eraseIdx hr')⟩

/-- Nor do the responses outstanding, in whatever order they come. -/
theorem wrong_of_responses {s : Scene} (h : Wrong s) (ks : List ℕ) : Wrong (reach step (ks.map .respond) s) := by
  refine reach_inv_of_mem (fun e he t ht => ?_) h
  obtain ⟨k, -, rfl⟩ := List.mem_map.mp he
  exact wrong_respond ht k

theorem requests_callback (r : AuthRequest) (s : Scene) : (s.callback r).requests = s.requests := by
  unfold callback
  split
  · split <;> rfl
  · rfl

/-- The responses outstanding can all come. -/
theorem exists_responses (rs : List AuthRequest) {s : Scene} (hs : s.requests = rs) :
    ∃ ks, (reach step (List.map SceneEvent.respond ks) s).requests = [] := by
  induction rs generalizing s with
  | nil => exact ⟨[], hs⟩
  | cons r rs ih =>
    have hnext : (s.step (.respond 0)).requests = rs := by
      simp only [step, hs, List.getElem?_cons_zero, List.eraseIdx_cons_zero]
      exact requests_callback r _
    obtain ⟨ks, hks⟩ := ih hnext
    exact ⟨0 :: ks, hks⟩

/-- A sign-in, and the login screen left before it is answered. -/
def leftEarly : List SceneEvent := [.openLogin, .signinButton, .back, .accept 0, .respond 0]

/-- The user is signed in then, and is shown the welcome screen. -/
theorem leftEarly_not_rootRight :
    (reach step leftEarly (willConnectTo false)).requests = [] ∧
      (reach step leftEarly (willConnectTo false)).currentUser = true ∧
      (reach step leftEarly (willConnectTo false)).root = .welcome ∧
      ¬RootRight (reach step leftEarly (willConnectTo false)) :=
  ⟨rfl, rfl, rfl, fun h => absurd ((h rfl).mpr rfl) (by decide)⟩

/-- **The root follows the sign-in state along the runs whose successes come in time**: from
the scene's connection, of a user who is signed in or not, a run each step of which meets
`Answers` leaves the root right. After the first step that does not, the responses still outstanding can all
come, and in whatever order they do, they leave the root wrong. -/
theorem root_follows_signIn (isLoggedIn : Bool) :
    (∀ es, ReachMeets step Answers es (willConnectTo isLoggedIn) →
      RootRight (reach step es (willConnectTo isLoggedIn))) ∧
    ∀ es e, ¬Answers e (reach step es (willConnectTo isLoggedIn)) →
      (∃ ks, (reach step (es ++ e :: List.map SceneEvent.respond ks) (willConnectTo isLoggedIn)).requests = []) ∧
      ∀ ks, (reach step (es ++ e :: List.map SceneEvent.respond ks) (willConnectTo isLoggedIn)).requests = [] →
        ¬RootRight (reach step (es ++ e :: List.map SceneEvent.respond ks) (willConnectTo isLoggedIn)) := by
  refine ⟨fun es h => rootRight_of_sound ?_, fun es e ha => ⟨?_, fun ks hn => ?_⟩⟩
  · exact reach_inv_of_meets (I := Sound) (fun _ _ hi ha => sound_step hi ha) es (sound_willConnectTo isLoggedIn) h
  · obtain ⟨ks, hks⟩ := exists_responses _ (rfl : (step e (reach step es (willConnectTo isLoggedIn))).requests = _)
    exact ⟨ks, by rwa [reach_append, reach_cons]⟩
  · refine not_rootRight_of_wrong ?_ hn
    rw [reach_append, reach_cons]
    exact wrong_of_responses (wrong_of_not_answers ha) ks

end Scene

end Booster
