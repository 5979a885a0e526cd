import Booster.Controllers.Home
import Booster.Controllers.ProfileTaps
import Booster.Theory.Run

/-!
# Which image a cell shows

A cell is configured again and again, for one row after another, and each time may
request an image; the completion of a request writes to the cell it was made for,
whatever row the cell has been given since, and no configuration clears the image before.
Responses arrive in any order, each a success or a failure.

The pool of cells keeps, for the statements only, each cell's last configuration and the requests
that succeeded. A cell shows the image of the last of its requests to succeed
(`Coherent.image`), so it shows no other game's image exactly when that request
was for the URL of its last configuration (`imageRight_iff`). Nothing makes it
so: an earlier request may be answered later, and a row without a URL requests nothing.
-/

namespace Booster

open Theory

/-- A request for a cell's image. -/
structure ImageRequest where
  /-- Its number: the configuration's that made it. -/
  serial : ℕ
  /-- The cell its completion writes to. -/
  cell : ℕ
  /-- The URL requested. -/
  url : String
  deriving DecidableEq

/-- The cells, dequeued and configured, and the requests made for them. -/
structure CellPool where
  /-- The cells. -/
  cells : ℕ → CollectionItemGame
  /-- The requests in flight. -/
  requests : List ImageRequest
  /-- The number the next configuration gets. -/
  serial : ℕ
  /-- Each cell's last configuration: its number, and the URL it requested, if any. -/
  configured : ℕ → Option (ℕ × Option String)
  /-- The requests that have succeeded, the latest first. -/
  succeeded : List ImageRequest

/-- What happens to the cells. -/
inductive CellEvent where
  /-- The Home screen configures a cell for the game at a row. -/
  | home (cell row : ℕ) (game : Game)
  /-- The Profile screen configures a cell for a row, in a state of the app. -/
  | profile (cell row : ℕ) (s : App)
  /-- The `k`-th request in flight is answered. -/
  | respond (k : ℕ) (success : Bool)

namespace CellPool

/-- New cells. -/
def empty : CellPool := ⟨fun _ => {}, [], 0, fun _ => none, []⟩

/-- The cell is configured, and requests an image, if it has a URL. -/
def configure (cell : ℕ) (content : CollectionItemGame) (url : Option String) (p : CellPool) : CellPool :=
  { p with
    cells := Function.update p.cells cell content
    requests := p.requests ++ (url.map fun url => ⟨p.serial, cell, url⟩).toList
    serial := p.serial + 1
    configured := Function.update p.configured cell (some (p.serial, url)) }

/-- The completion of a request: a success sets the image, a failure is printed. -/
def complete (r : ImageRequest) (success : Bool) (p : CellPool) : CellPool :=
  if success then
    { p with
      cells := Function.update p.cells r.cell { p.cells r.cell with imageGame := some r.url }
      succeeded := r :: p.succeeded }
  else p

/-- The pool after an event. -/
def step : CellEvent → CellPool → Except Trap CellPool
  | .home cell row game, p => do
    let (content, url) ← MyRootViewController.cellForItemAt row game (p.cells cell)
    return p.configure cell content url
  | .profile cell row s, p => do
    let (content, url) ← ProfileController.cellForItemAt row (p.cells cell) s
    return p.configure cell content url
  | .respond k success, p =>
    match p.requests[k]? with
    | none => .ok p
    | some r => .ok ({ p with requests := p.requests.eraseIdx k : CellPool }.complete r success)

/-- The last request of a cell to succeed. -/
def lastSuccess (p : CellPool) (cell : ℕ) : Option ImageRequest := p.succeeded.find? fun r => r.cell = cell

/-- The image of a cell is right: that of the URL it was last configured for, or none if the
request for it has not succeeded or there was none. -/
def ImageRight (p : CellPool) (cell : ℕ) : Prop :=
  match p.configured cell with
  | some (serial, some url) =>
    (p.cells cell).imageGame = some url ∨
      (p.cells cell).imageGame = none ∧ ∀ r ∈ p.succeeded, r.serial ≠ serial
  | _ => (p.cells cell).imageGame = none

/-! ### The invariant -/

/-- What every run of the pool keeps. -/
structure Coherent (p : CellPool) : Prop where
  /-- A cell shows the image of its last request to succeed. -/
  image : ∀ cell, (p.cells cell).imageGame = (p.lastSuccess cell).map ImageRequest.url
  /-- A request's number has been given out. -/
  request_lt : ∀ r ∈ p.requests ++ p.succeeded, r.serial < p.serial
  /-- A configuration's number has been given out. -/
  configured_lt : ∀ cell serial url, p.configured cell = some (serial, url) → serial < p.serial
  /-- A request with the number of a cell's last configuration is that cell's. -/
  request_cell : ∀ cell serial url, p.configured cell = some (serial, url) →
    ∀ r ∈ p.requests ++ p.succeeded, r.serial = serial → r.cell = cell

theorem coherent_empty : Coherent empty where
  image _ := rfl
  request_lt _ hr := by cases hr
  configured_lt _ _ _ hc := by cases hc
  request_cell _ _ _ hc := by cases hc

@[simp] theorem configured_configure (p : CellPool) (cell : ℕ) (content : CollectionItemGame)
    (url : Option String) : (p.configure cell content url).configured =
      Function.update p.configured cell (some (p.serial, url)) := rfl

/-- A configuration that leaves the cell's image keeps the invariant. -/
theorem coherent_configure {p : CellPool} (h : p.Coherent) {cell : ℕ} {content : CollectionItemGame}
    (hi : content.imageGame = (p.cells cell).imageGame) (url : Option String) :
    (p.configure cell content url).Coherent := by
  have hmem : ∀ r ∈ (p.configure cell content url).requests ++ p.succeeded,
      r ∈ p.requests ++ p.succeeded ∨ r.serial = p.serial ∧ r.cell = cell := by
    intro r hr
    simp only [configure, List.mem_append, Option.mem_toList, Option.map_eq_some_iff] at hr ⊢
    rcases hr with (hr | ⟨u, -, rfl⟩) | hr
    · exact .inl (.inl hr)
    · exact .inr ⟨rfl, rfl⟩
    · exact .inl (.inr hr)
  refine ⟨fun c => ?_, fun r hr => ?_, fun c serial u hc => ?_, fun c serial u hc r hr hs => ?_⟩
  · show (Function.update p.cells cell content c).imageGame = (p.lastSuccess c).map ImageRequest.url
    by_cases hcc : c = cell
    · subst hcc
      rw [Function.update_self, hi, h.image]
    · rw [Function.update_of_ne hcc, h.image]
  · show r.serial < p.serial + 1
    rcases hmem r hr with hr | ⟨hs, -⟩
    · have := h.request_lt r hr
      omega
    · omega
  · show serial < p.serial + 1
    by_cases hcc : c = cell
    · subst hcc
      rw [configured_configure, Function.update_self] at hc
      cases hc
      omega
    · rw [configured_configure, Function.update_of_ne hcc] at hc
      have := h.configured_lt c serial u hc
      omega
  · by_cases hcc : c = cell
    · subst hcc
      rw [configured_configure, Function.update_self] at hc
      cases hc
      rcases hmem r hr with hr | ⟨-, hrc⟩
      · have := h.request_lt r hr
        omega
      · exact hrc
    · rw [configured_configure, Function.update_of_ne hcc] at hc
      rcases hmem r hr with hr | ⟨hrs, -⟩
      · exact h.request_cell c serial u hc r hr hs
      · have := h.configured_lt c serial u hc
        omega

/-- A response keeps the invariant: a success is the last of its cell's. -/
theorem coherent_respond {p : CellPool} (h : p.Coherent) {k : ℕ} {r : ImageRequest}
    (hr : p.requests[k]? = some r) (success : Bool) :
    ({ p with requests := p.requests.eraseIdx k : CellPool }.complete r success).Coherent := by
  have hrm : r ∈ p.requests ++ p.succeeded := List.mem_append_left _ (List.mem_of_getElem? hr)
  have herase : ∀ r' ∈ p.requests.eraseIdx k ++ p.succeeded, r' ∈ p.requests ++ p.succeeded := by
    intro r' hr'
    rcases List.mem_append.mp hr' with hr' | hr'
    · exact List.mem_append_left _ ((List.eraseIdx_sublist ..).subset hr')
    · exact List.mem_append_right _ hr'
  cases success with
  | false =>
    exact ⟨h.image, fun r' hr' => h.request_lt r' (herase r' hr'), h.configured_lt,
      fun c serial url hc r' hr' => h.request_cell c serial url hc r' (herase r' hr')⟩
  | true =>
    have hmem : ∀ r' ∈ p.requests.eraseIdx k ++ r :: p.succeeded, r' ∈ p.requests ++ p.succeeded := by
      intro r' hr'
      rcases List.mem_append.mp hr' with hr' | hr'
      · exact herase r' (List.mem_append_left _ hr')
      · rcases List.mem_cons.mp hr' with rfl | hr'
        · exact hrm
        · exact List.mem_append_right _ hr'
    refine ⟨fun c => ?_, fun r' hr' => h.request_lt r' (hmem r' hr'), h.configured_lt,
      fun c serial url hc r' hr' => h.request_cell c serial url hc r' (hmem r' hr')⟩
    show (Function.update p.cells r.cell { p.cells r.cell with imageGame := some r.url } c).imageGame =
      ((r :: p.succeeded).find? fun r => r.cell = c).map ImageRequest.url
    by_cases hcc : c = r.cell
    · subst hcc
      simp
    · rw [Function.update_of_ne hcc, h.image c, lastSuccess, List.find?_cons_of_neg]
      simpa using Ne.symm hcc

/-- Configuring a Home cell leaves its image. -/
theorem imageGame_home {row : ℕ} {game : Game} {cell content : CollectionItemGame} {url : Option String}
    (h : MyRootViewController.cellForItemAt row game cell = .ok (content, url)) :
    content.imageGame = cell.imageGame := by
  obtain ⟨sampleCover, -, h⟩ := bind_eq_ok_iff.mp h
  cases h
  rfl

/-- Configuring a Profile cell leaves its image. -/
theorem imageGame_profile {row : ℕ} {s : App} {cell content : CollectionItemGame} {url : Option String}
    (h : ProfileController.cellForItemAt row cell s = .ok (content, url)) :
    content.imageGame = cell.imageGame := by
  obtain ⟨result, -, h⟩ := bind_eq_ok_iff.mp h
  cases h
  rfl

/-- An event keeps the invariant. -/
theorem coherent_step {e : CellEvent} {p p' : CellPool} (h : p.Coherent) (he : step e p = .ok p') :
    p'.Coherent := by
  cases e with
  | home cell row game =>
    obtain ⟨⟨content, url⟩, hc, he⟩ := bind_eq_ok_iff.mp he
    cases he
    exact coherent_configure h (imageGame_home hc) url
  | profile cell row s =>
    obtain ⟨⟨content, url⟩, hc, he⟩ := bind_eq_ok_iff.mp he
    cases he
    exact coherent_configure h (imageGame_profile hc) url
  | respond k success =>
    cases hr : p.requests[k]? with
    | none =>
      simp only [step, hr, Except.ok.injEq] at he
      exact he ▸ h
    | some r =>
      simp only [step, hr, Except.ok.injEq] at he
      exact he ▸ coherent_respond h hr success

/-! ### When the image is right -/

/-- A cell's image is right exactly when the last of its requests to succeed, if any has, was
for the URL of its last configuration. -/
theorem imageRight_iff {p : CellPool} (h : p.Coherent) (cell : ℕ) :
    p.ImageRight cell ↔
      ∀ r ∈ p.lastSuccess cell, ∃ serial, p.configured cell = some (serial, some r.url) := by
  unfold ImageRight
  rw [h.image]
  cases hl : p.lastSuccess cell with
  | none =>
    refine iff_of_true ?_ fun r hr => by cases hr
    split
    next serial url hc =>
      refine .inr ⟨rfl, fun r hr hs => ?_⟩
      have hrc := h.request_cell cell serial _ hc r (List.mem_append_right _ hr) hs
      exact List.find?_eq_none.mp hl r hr (by simpa using hrc)
    · rfl
  | some r =>
    simp only [Option.map_some, Option.mem_some_iff, forall_eq']
    split
    next serial url hc =>
      simp [hc, eq_comm]
    next hn =>
      refine iff_of_false (Option.some_ne_none _) ?_
      rintro ⟨serial, hc⟩
      exact hn serial r.url hc

/-- A cell reused for another row before its first request is answered. -/
def reuse : List CellEvent :=
  [.home 0 0 { Game.bare 7 with sampleCover := some ⟨1, "a", [], "a", 1⟩ },
    .home 0 1 { Game.bare 8 with sampleCover := some ⟨1, "b", [], "b", 1⟩ },
    .respond 1 true, .respond 0 true]

/-- The first row's image arrives last, and stays. -/
theorem reuse_not_imageRight :
    ∃ p, run step reuse empty = .ok p ∧ p.requests = [] ∧ (p.cells 0).imageGame = some "a" ∧
      p.configured 0 = some (1, some "b") ∧ ¬∀ cell, p.ImageRight cell := by
  refine ⟨_, rfl, rfl, rfl, rfl, fun h => ?_⟩
  rcases (h 0 : _ ∨ _) with h | ⟨h, -⟩
  · exact absurd h (show some "a" ≠ some "b" by decide)
  · cases h

/-- **Every cell shows its own row's image, or none, exactly when no other row's image
arrived last**: after any configurations of Home and Profile cells and any responses, and in particular once
no request is in flight, the images are right if and only if the last of each cell's requests to succeed
was for the URL of the cell's last configuration. -/
theorem images_right_iff (es : List CellEvent) {p : CellPool} (h : run step es empty = .ok p) :
    (∀ cell, p.ImageRight cell) ↔
      ∀ cell, ∀ r ∈ p.lastSuccess cell, ∃ serial, p.configured cell = some (serial, some r.url) :=
  forall_congr' fun cell =>
    imageRight_iff (run_inv (I := Coherent) (fun _ _ _ _ hi hs => coherent_step hi hs) coherent_empty h) cell

theorem images_right_iff_reuse : ∃ p, run step reuse empty = .ok p ∧
    ((∀ cell, p.ImageRight cell) ↔
      ∀ cell, ∀ r ∈ p.lastSuccess cell, ∃ serial, p.configured cell = some (serial, some r.url)) :=
  ⟨_, rfl, images_right_iff reuse rfl⟩

end CellPool

end Booster
