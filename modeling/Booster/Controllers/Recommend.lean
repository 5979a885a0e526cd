import Booster.Models.Game
import Booster.Theory.Run

/-!
# The recommendations of the detail screen

`fetchRecommendGame` asks for a list of ids and fills the slots under the
game, one request after the other: `fetchRecommendGamesRecursive` puts a work item on a global
queue, which puts a closure on the main queue a second later, which stops if the view is
off screen and else requests the game; the completion fills the slot and calls the function
again for the next index. So one callback of the chain is pending at a time (`Callback`), while the images of
the games received arrive whenever they do.

`Progress` is what holds after any of these events. The guard of the
recursion bounds the index by the number of slots, and the function then
indexes the ids: `chainRight_iff` says that this is all that goes wrong.

What `fetchGameById` answers for each index is a function `response`: the game, or `none` for a failure.
-/

namespace Booster

open Theory

/-- `ItemGame`: a slot. -/
structure ItemGame where
  /-- `game`. -/
  game : Option Game := none
  /-- `nameGame.text`. -/
  nameGame : Option String := none
  /-- The URL of the image in `imageGame`. -/
  imageGame : Option String := none
  /-- Whether `delegate` is set, and a tap on the image is recognised. -/
  delegate : Bool := false

/-- The callback of the chain that is to run next. -/
inductive Callback where
  /-- The call `fetchRecommendGamesRecursive(index:gameIdArray:recommendGame:)`. -/
  | call (index : ℕ)
  /-- `asyncWorkItem`. -/
  | asyncWorkItem (index : ℕ) (currentGameId : Int64)
  /-- The closure of `asyncAfter`. -/
  | asyncAfter (index : ℕ) (currentGameId : Int64)
  /-- The completion of `fetchGameById`. -/
  | completion (index : ℕ)

/-- The chain and the slots. -/
structure Recommend where
  /-- `recommnedGame`, the slots. -/
  recommnedGame : List ItemGame
  /-- The callback that is to run next, if the chain has not stopped. -/
  pending : Option Callback
  /-- The images requested and not received: the index of the slot, and the URL. -/
  images : List (ℕ × String)
  /-- The ids given to `fetchGameById` so far, first request first. -/
  requests : List Int64

namespace Recommend

/-- `fetchRecommendGame`, when `fetchGameId` has answered. -/
def fetchRecommendGame (success : Bool) (recommnedGame : List ItemGame) : Recommend :=
  ⟨recommnedGame, if success then some (.call 0) else none, [], []⟩

/-- `fetchRecommendGamesRecursive`, up to its work item. -/
def fetchRecommendGamesRecursive (index : ℕ) (gameIdArray : List Int64) (s : Recommend) : Except Trap Recommend :=
  if index < s.recommnedGame.length then do
    let currentGameId ← subscript "gameIdArray[index]" gameIdArray index
    return { s with pending := some (.asyncWorkItem index currentGameId) }
  else .ok { s with pending := none }

/-- The completion of `fetchGameById`, for a game received. -/
def success (index : ℕ) (game : Game) (s : Recommend) : Except Trap Recommend :=
  match game.title with
  | none => .ok s
  | some name => do
    let recomendGame ← subscript "recommendGame[index]" s.recommnedGame index
    return { s with
      recommnedGame := s.recommnedGame.set index { recomendGame with nameGame := some name, game := some game }
      images := s.images ++ (game.sampleCover.map fun cover => (index, cover.thumbnailImageURL)).toList }

/-- The completion of `fetchImage`, for an image received. -/
def showImage (index : ℕ) (url : String) (s : Recommend) : Except Trap Recommend := do
  let recomendGame ← subscript "strongSelf.recommnedGame[index]" s.recommnedGame index
  return { s with
    recommnedGame := s.recommnedGame.set index { recomendGame with delegate := true, imageGame := some url } }

/-- What happens next. -/
inductive Event where
  /-- The pending callback runs, the view being on screen or not. -/
  | callback (onScreen : Bool)
  /-- The `k`-th image requested arrives, or fails to. -/
  | image (k : ℕ) (success : Bool)

/-- The pending callback runs. -/
def callback (gameIdArray : List Int64) (response : ℕ → Option Game) (onScreen : Bool) (s : Recommend) :
    Except Trap Recommend :=
  match s.pending with
  | some (.call index) => s.fetchRecommendGamesRecursive index gameIdArray
  | some (.asyncWorkItem index currentGameId) => .ok { s with pending := some (.asyncAfter index currentGameId) }
  | some (.asyncAfter index currentGameId) =>
    if onScreen then
      .ok { s with pending := some (.completion index), requests := s.requests ++ [currentGameId] }
    else .ok { s with pending := none }
  | some (.completion index) => do
    let s ← (response index).elim (.ok s) fun game => s.success index game
    return { s with pending := some (.call (index + 1)) }
  | none => .ok s

/-- The `k`-th image requested arrives, or fails to. -/
def image (k : ℕ) (success : Bool) (s : Recommend) : Except Trap Recommend :=
  match s.images[k]? with
  | some (index, url) =>
    let s := { s with images := s.images.eraseIdx k }
    if success then s.showImage index url else .ok s
  | none => .ok s

/-- The state after an event. -/
def step (gameIdArray : List Int64) (response : ℕ → Option Game) : Event → Recommend → Except Trap Recommend
  | .callback onScreen, s => s.callback gameIdArray response onScreen
  | .image k success, s => s.image k success

/-- Whether the view was on screen at each callback of a run. -/
def callbacks (es : List Event) : List Bool :=
  es.filterMap fun
    | .callback onScreen => some onScreen
    | .image _ _ => none

end Recommend

/-- What a slot holds. -/
def ItemGame.held (slot : ItemGame) : Option Game × Option String := (slot.game, slot.nameGame)

/-- What a slot holds when the request for it is answered: the game, if there is one and it has a
title, and otherwise what it held. -/
def ItemGame.heldAfter (response : Option Game) (slot : ItemGame) : Option Game × Option String :=
  (response.bind fun game => game.title.map fun name => (some game, some name)).getD slot.held

namespace Recommend

/-- What the chain is to do, in the run `es` of it from index 0, on `slots`. -/
structure ChainRight (slots : List ItemGame) (gameIdArray : List Int64) (response : ℕ → Option Game)
    (es : List Event) : Prop where
  /-- It reads nothing out of range. -/
  ok : ∃ s, run (step gameIdArray response) es (fetchRecommendGame true slots) = .ok s
  /-- It requests one game for each index, in order, and for no index without an id or a slot. -/
  requests : ∀ s, run (step gameIdArray response) es (fetchRecommendGame true slots) = .ok s →
    s.requests <+: gameIdArray.take slots.length
  /-- While the view is on screen it goes on to the last, whatever is answered, and stops, each
  slot holding what it is to hold. -/
  complete : ∀ s, run (step gameIdArray response) es (fetchRecommendGame true slots) = .ok s →
    false ∉ callbacks es → 4 * slots.length < (callbacks es).length →
      s.pending = none ∧ s.requests = gameIdArray.take slots.length ∧
        ∀ i < gameIdArray.length, s.recommnedGame[i]?.map ItemGame.held =
          slots[i]?.map (ItemGame.heldAfter (response i))

/-- There are enough ids for a run whose callbacks found the view on screen or not as `cs` says: one
for each slot; or the run is over, or the chain was stopped with the view off screen, before it needs one more. -/
def EnoughIds (slots ids : ℕ) (cs : List Bool) : Prop :=
  slots ≤ ids ∨ cs.length ≤ 4 * ids ∨ ∃ i < ids, cs[4 * i + 2]? = some false

/-! ### What a completion fills -/

/-- The slots are filled by `f`, and the chain is where it was. -/
structure Fills (f : ℕ → ItemGame → Option Game × Option String) (s s' : Recommend) : Prop where
  pending : s'.pending = s.pending
  requests : s'.requests = s.requests
  length : s'.recommnedGame.length = s.recommnedGame.length
  held : ∀ i, s'.recommnedGame[i]?.map ItemGame.held = s.recommnedGame[i]?.map (f i)
  images : (∀ p ∈ s.images, p.1 < s.recommnedGame.length) → ∀ p ∈ s'.images, p.1 < s.recommnedGame.length

theorem Fills.refl (s : Recommend) : Fills (fun _ => ItemGame.held) s s :=
  ⟨rfl, rfl, rfl, fun _ => rfl, fun h => h⟩

/-- A slot that is set holds what it is set to. -/
theorem held_set {slots : List ItemGame} {index : ℕ} {slot : ItemGame} (h : index < slots.length) (i : ℕ) :
    (slots.set index slot)[i]?.map ItemGame.held =
      slots[i]?.map fun old => if i = index then slot.held else old.held := by
  rw [List.getElem?_set]
  by_cases hi : index = i
  · subst hi
    simp [h]
  · simp [hi, Ne.symm hi]

/-- The completion of `fetchGameById` fills the slot of its index. -/
theorem fills_completion {index : ℕ} {s : Recommend} (h : index < s.recommnedGame.length)
    (response : Option Game) : ∃ s', response.elim (.ok s) (fun game => s.success index game) = .ok s' ∧
      Fills (fun i slot => if i = index then slot.heldAfter response else slot.held) s s' := by
  cases response with
  | none => exact ⟨s, rfl, rfl, rfl, rfl, fun i => by simp [ItemGame.heldAfter], fun h => h⟩
  | some game =>
    simp only [Option.elim_some, success]
    cases ht : game.title with
    | none => exact ⟨s, rfl, rfl, rfl, rfl, fun i => by simp [ItemGame.heldAfter, ht], fun h => h⟩
    | some name =>
      rw [show subscript "recommendGame[index]" s.recommnedGame index = .ok s.recommnedGame[index] from
        subscript_eq_ok_iff.mpr (List.getElem?_eq_getElem h)]
      refine ⟨_, rfl, rfl, rfl, List.length_set, fun i => ?_, fun hi p hp => ?_⟩
      · rw [held_set h]
        simp [ItemGame.heldAfter, ht, ItemGame.held]
      · rcases List.mem_append.mp hp with hp | hp
        · exact hi p hp
        · obtain ⟨cover, -, rfl⟩ := Option.map_eq_some_iff.mp (Option.mem_toList.mp hp)
          exact h

/-- An image fills no slot with a game, and is read into a slot that is there. -/
theorem fills_image {s : Recommend} (h : ∀ p ∈ s.images, p.1 < s.recommnedGame.length) (k : ℕ) (success : Bool) :
    ∃ s', s.image k success = .ok s' ∧ Fills (fun _ => ItemGame.held) s s' := by
  unfold image
  cases hk : s.images[k]? with
  | none => exact ⟨s, rfl, Fills.refl s⟩
  | some p =>
    obtain ⟨index, url⟩ := p
    have hi : index < s.recommnedGame.length := h _ (List.mem_of_getElem? hk)
    cases success with
    | false => exact ⟨_, rfl, rfl, rfl, rfl, fun _ => rfl, fun hs p hp => hs p (List.mem_of_mem_eraseIdx hp)⟩
    | true =>
      simp only [if_true, showImage]
      rw [show subscript "strongSelf.recommnedGame[index]" s.recommnedGame index = .ok s.recommnedGame[index] from
        subscript_eq_ok_iff.mpr (List.getElem?_eq_getElem hi)]
      refine ⟨_, rfl, rfl, rfl, List.length_set, fun i => ?_, fun hs p hp => hs p (List.mem_of_mem_eraseIdx hp)⟩
      rw [held_set hi]
      by_cases hii : i = index
      · subst hii
        simp [ItemGame.held, hi]
      · simp [hii]

/-! ### Progress -/

/-- Where the chain stands when `r` requests have been answered, and what has been requested. -/
inductive Stage (n : ℕ) (gameIdArray : List Int64) (cs : List Bool) (r : ℕ) : Option Callback → List Int64 → Prop
  | call : cs.length = 4 * r → Stage n gameIdArray cs r (some (.call r)) (gameIdArray.take r)
  | asyncWorkItem (id : Int64) : cs.length = 4 * r + 1 → r < n → gameIdArray[r]? = some id →
    Stage n gameIdArray cs r (some (.asyncWorkItem r id)) (gameIdArray.take r)
  | asyncAfter (id : Int64) : cs.length = 4 * r + 2 → r < n → gameIdArray[r]? = some id →
    Stage n gameIdArray cs r (some (.asyncAfter r id)) (gameIdArray.take r)
  | completion : cs.length = 4 * r + 3 → r < n → r < gameIdArray.length → cs[4 * r + 2]? = some true →
    Stage n gameIdArray cs r (some (.completion r)) (gameIdArray.take (r + 1))
  /-- The last slot has been filled. -/
  | done : r = n → Stage n gameIdArray cs r none (gameIdArray.take r)
  /-- The view was off screen. -/
  | left : r < n → r < gameIdArray.length → cs[4 * r + 2]? = some false →
    Stage n gameIdArray cs r none (gameIdArray.take r)

/-- What holds after a run whose callbacks found the view on screen or not as `cs` says, `r` of the
requests being answered. -/
structure Progress (slots : List ItemGame) (gameIdArray : List Int64) (response : ℕ → Option Game)
    (cs : List Bool) (r : ℕ) (s : Recommend) : Prop where
  le_slots : r ≤ slots.length
  le_ids : r ≤ gameIdArray.length
  onScreen : ∀ i < r, cs[4 * i + 2]? = some true
  length : s.recommnedGame.length = slots.length
  held : ∀ i, s.recommnedGame[i]?.map ItemGame.held =
    slots[i]?.map fun slot => if i < r then slot.heldAfter (response i) else slot.held
  images : ∀ p ∈ s.images, p.1 < slots.length
  stage : Stage slots.length gameIdArray cs r s.pending s.requests

section Steps

variable {slots : List ItemGame} {gameIdArray : List Int64} {response : ℕ → Option Game} {cs : List Bool} {r : ℕ}
  {s s' : Recommend}

theorem progress_fetchRecommendGame :
    Progress slots gameIdArray response [] 0 (fetchRecommendGame true slots) where
  le_slots := Nat.zero_le _
  le_ids := Nat.zero_le _
  onScreen i hi := absurd hi (Nat.not_lt_zero i)
  length := rfl
  held i := by simp [fetchRecommendGame]
  images p hp := nomatch hp
  stage := .call rfl

/-- What was found at a callback stays so. -/
theorem getElem?_concat {i : ℕ} {a : Bool} (h : cs[i]? = some a) (b : Bool) : (cs ++ [b])[i]? = some a :=
  (List.getElem?_append_left (List.getElem?_eq_some_iff.mp h).1).trans h

/-- A callback that fills no slot moves the chain. -/
theorem Progress.move (h : Progress slots gameIdArray response cs r s) (b : Bool)
    (hslots : s'.recommnedGame = s.recommnedGame) (himages : s'.images = s.images)
    (hstage : Stage slots.length gameIdArray (cs ++ [b]) r s'.pending s'.requests) :
    Progress slots gameIdArray response (cs ++ [b]) r s' where
  le_slots := h.le_slots
  le_ids := h.le_ids
  onScreen i hi := getElem?_concat (h.onScreen i hi) b
  length := hslots ▸ h.length
  held := hslots ▸ h.held
  images := himages ▸ h.images
  stage := hstage

/-- The completion fills slot `r`, and there is one request more that is answered. -/
theorem Progress.complete (h : Progress slots gameIdArray response cs r s) (b : Bool)
    (hr : r < slots.length) (hid : r < gameIdArray.length) (hlen : cs.length = 4 * r + 3)
    (hon : cs[4 * r + 2]? = some true) (hreq : s.requests = gameIdArray.take (r + 1))
    (hf : Fills (fun i slot => if i = r then slot.heldAfter (response r) else slot.held) s s') :
    Progress slots gameIdArray response (cs ++ [b]) (r + 1) { s' with pending := some (.call (r + 1)) } where
  le_slots := hr
  le_ids := hid
  onScreen i hi := by
    rcases Nat.lt_succ_iff_lt_or_eq.mp hi with hi | rfl
    · exact getElem?_concat (h.onScreen i hi) b
    · exact getElem?_concat hon b
  length := hf.length.trans h.length
  held i := by
    rw [hf.held i]
    by_cases hi : i = r
    · subst hi
      have hs : i < s.recommnedGame.length := h.length ▸ hr
      have he : s.recommnedGame[i].held = slots[i].held := by simpa [hs, hr] using h.held i
      simp [hs, hr, ItemGame.heldAfter, he]
    · have hlt : i < r + 1 ↔ i < r := by omega
      simp only [hi, if_false, hlt]
      exact h.held i
  images p hp := h.length ▸ hf.images (fun q hq => h.length ▸ h.images q hq) p hp
  stage := by
    rw [hf.requests, hreq]
    refine .call ?_
    rw [List.length_append, hlen, List.length_singleton]
    omega

/-- An image leaves the chain where it is. -/
theorem Progress.image (h : Progress slots gameIdArray response cs r s)
    (hf : Fills (fun _ => ItemGame.held) s s') : Progress slots gameIdArray response cs r s' where
  le_slots := h.le_slots
  le_ids := h.le_ids
  onScreen := h.onScreen
  length := hf.length.trans h.length
  held i := (hf.held i).trans (h.held i)
  images p hp := h.length ▸ hf.images (fun q hq => h.length ▸ h.images q hq) p hp
  stage := hf.pending ▸ hf.requests ▸ h.stage

/-- **A callback makes progress.** -/
theorem progress_callback (h : Progress slots gameIdArray response cs r s) {b : Bool}
    (hs : s.callback gameIdArray response b = .ok s') :
    ∃ r', Progress slots gameIdArray response (cs ++ [b]) r' s' := by
  have hlen : (cs ++ [b]).length = cs.length + 1 := by simp
  have hst := h.stage
  unfold callback at hs
  generalize hp : s.pending = pending at hst hs
  generalize hq : s.requests = requests at hst
  cases hst with
  | call hc =>
    simp only [fetchRecommendGamesRecursive] at hs
    by_cases hr : r < s.recommnedGame.length
    · rw [if_pos hr] at hs
      obtain ⟨id, hid, hs⟩ := bind_eq_ok_iff.mp hs
      cases hs
      refine ⟨r, h.move b rfl rfl ?_⟩
      rw [hq]
      exact .asyncWorkItem id (by omega) (h.length ▸ hr) (subscript_eq_ok_iff.mp hid)
    · rw [if_neg hr] at hs
      cases hs
      refine ⟨r, h.move b rfl rfl ?_⟩
      rw [hq]
      have := h.le_slots
      have := h.length
      exact .done (by omega)
  | asyncWorkItem id hc hr hid =>
    cases hs
    refine ⟨r, h.move b rfl rfl ?_⟩
    rw [hq]
    exact .asyncAfter id (by omega) hr hid
  | asyncAfter id hc hr hid =>
    have hlt : r < gameIdArray.length := (List.getElem?_eq_some_iff.mp hid).1
    have hb : (cs ++ [b])[4 * r + 2]? = some b := by rw [← hc, List.getElem?_concat_length]
    cases b with
    | true =>
      cases hs
      refine ⟨r, h.move true rfl rfl ?_⟩
      dsimp only
      rw [hq, show gameIdArray.take r ++ [id] = gameIdArray.take (r + 1) by rw [List.take_add_one, hid]; rfl]
      exact .completion (by omega) hr hlt hb
    | false =>
      cases hs
      refine ⟨r, h.move false rfl rfl ?_⟩
      rw [hq]
      exact .left hr hlt hb
  | completion hc hr hid hon =>
    obtain ⟨t, ht, hs⟩ := bind_eq_ok_iff.mp hs
    cases hs
    obtain ⟨t', ht', hf⟩ := fills_completion (h.length ▸ hr : r < s.recommnedGame.length) (response r)
    obtain rfl : t = t' := Except.ok.inj (ht.symm.trans ht')
    exact ⟨r + 1, h.complete b hr hid hc hon hq hf⟩
  | done hn =>
    cases hs
    refine ⟨r, h.move b rfl rfl ?_⟩
    rw [hp, hq]
    exact .done hn
  | left hr hid hon =>
    cases hs
    refine ⟨r, h.move b rfl rfl ?_⟩
    rw [hp, hq]
    exact .left hr hid (getElem?_concat hon b)

/-- **The pending callback traps only when the ids run out.** -/
theorem callback_ok_iff (h : Progress slots gameIdArray response cs r s) (b : Bool) :
    (∃ s', s.callback gameIdArray response b = .ok s') ↔
      EnoughIds slots.length gameIdArray.length (cs ++ [b]) := by
  have hlen : (cs ++ [b]).length = cs.length + 1 := by simp
  have hst := h.stage
  have hids := h.le_ids
  have hslots := h.length
  unfold callback
  generalize s.pending = pending at hst
  generalize s.requests = requests at hst
  cases hst with
  | call hc =>
    simp only [fetchRecommendGamesRecursive]
    by_cases hr : r < s.recommnedGame.length
    · rw [if_pos hr]
      by_cases hid : r < gameIdArray.length
      · rw [subscript_eq_ok_iff.mpr (List.getElem?_eq_getElem hid)]
        exact iff_of_true ⟨_, rfl⟩ (.inr (.inl (by omega)))
      · rw [subscript_eq_error_iff.mpr (Nat.le_of_not_lt hid)]
        refine iff_of_false (fun ⟨s', hs'⟩ => nomatch hs') ?_
        rintro (hn | hl | ⟨i, hi, hoff⟩)
        · omega
        · omega
        · rw [getElem?_concat (h.onScreen i (by omega)) b] at hoff
          cases hoff
    · rw [if_neg hr]
      have := h.le_slots
      exact iff_of_true ⟨_, rfl⟩ (.inl (by omega))
  | asyncWorkItem id hc hr hid =>
    have := (List.getElem?_eq_some_iff.mp hid).1
    exact iff_of_true ⟨_, rfl⟩ (.inr (.inl (by omega)))
  | asyncAfter id hc hr hid =>
    have := (List.getElem?_eq_some_iff.mp hid).1
    refine iff_of_true ?_ (.inr (.inl (by omega)))
    cases b with
    | true => exact ⟨_, rfl⟩
    | false => exact ⟨_, rfl⟩
  | completion hc hr hid hon =>
    obtain ⟨t, ht, -⟩ := fills_completion (hslots ▸ hr : r < s.recommnedGame.length) (response r)
    refine iff_of_true ?_ (.inr (.inl (by omega)))
    simp only [ht]
    exact ⟨_, rfl⟩
  | done hn => exact iff_of_true ⟨_, rfl⟩ (.inl (by omega))
  | left hr hid hon => exact iff_of_true ⟨_, rfl⟩ (.inr (.inr ⟨r, hid, getElem?_concat hon b⟩))

end Steps

/-! ### Runs -/

@[simp] theorem callbacks_concat_callback (es : List Event) (b : Bool) :
    callbacks (es ++ [.callback b]) = callbacks es ++ [b] := by
  simp [callbacks]

@[simp] theorem callbacks_concat_image (es : List Event) (k : ℕ) (success : Bool) :
    callbacks (es ++ [.image k success]) = callbacks es := by
  simp [callbacks]

section Runs

variable {slots : List ItemGame} {gameIdArray : List Int64} {response : ℕ → Option Game} {es : List Event}
  {s : Recommend}

/-- An event keeps the progress. -/
theorem progress_step (es : List Event) (e : Event) (t t' : Recommend)
    (h : ∃ r, Progress slots gameIdArray response (callbacks es) r t) (ht : step gameIdArray response e t = .ok t') :
    ∃ r, Progress slots gameIdArray response (callbacks (es ++ [e])) r t' := by
  obtain ⟨r, h⟩ := h
  cases e with
  | callback b =>
    rw [callbacks_concat_callback]
    exact progress_callback h ht
  | image k success =>
    rw [callbacks_concat_image]
    obtain ⟨u, hu, hf⟩ := fills_image (fun p hp => h.length.symm ▸ h.images p hp) k success
    obtain rfl : t' = u := Except.ok.inj (ht.symm.trans hu)
    exact ⟨r, h.image hf⟩

/-- The progress of a run. -/
theorem progress_run (hr : run (step gameIdArray response) es (fetchRecommendGame true slots) = .ok s) :
    ∃ r, Progress slots gameIdArray response (callbacks es) r s :=
  run_history (H := fun es s => ∃ r, Progress slots gameIdArray response (callbacks es) r s)
    ⟨0, progress_fetchRecommendGame⟩ progress_step hr

/-- The ids that were enough for a run were enough before its last event. -/
theorem EnoughIds.of_concat {n m : ℕ} {cs : List Bool} {b : Bool} (h : EnoughIds n m (cs ++ [b])) :
    EnoughIds n m cs := by
  rcases h with h | h | ⟨i, hi, hoff⟩
  · exact .inl h
  · rw [List.length_append] at h
    exact .inr (.inl (by omega))
  · by_cases hlt : 4 * i + 2 < cs.length
    · rw [List.getElem?_append_left hlt] at hoff
      exact .inr (.inr ⟨i, hi, hoff⟩)
    · exact .inr (.inl (by omega))

/-- **A run reads nothing out of range exactly when there are enough ids for it.** -/
theorem run_ok_iff_enoughIds :
    (∃ s, run (step gameIdArray response) es (fetchRecommendGame true slots) = .ok s) ↔
      EnoughIds slots.length gameIdArray.length (callbacks es) := by
  refine run_ok_iff (H := fun es s => ∃ r, Progress slots gameIdArray response (callbacks es) r s)
    (G := fun es => EnoughIds slots.length gameIdArray.length (callbacks es))
    ⟨0, progress_fetchRecommendGame⟩ progress_step (.inr (.inl (Nat.zero_le _))) ?_ ?_ es
  · intro es e h
    cases e with
    | callback b =>
      rw [callbacks_concat_callback] at h
      exact h.of_concat
    | image k success => rwa [callbacks_concat_image] at h
  · intro es e t h hg
    obtain ⟨r, h⟩ := h
    cases e with
    | callback b =>
      rw [callbacks_concat_callback]
      exact callback_ok_iff h b
    | image k success =>
      rw [callbacks_concat_image]
      obtain ⟨u, hu, -⟩ := fills_image (fun p hp => h.length.symm ▸ h.images p hp) k success
      exact iff_of_true ⟨u, hu⟩ hg

/-- The requests made are for the first ids, each once and in order. -/
theorem Progress.requests_prefix {cs : List Bool} {r : ℕ} (h : Progress slots gameIdArray response cs r s) :
    s.requests <+: gameIdArray.take slots.length := by
  have hst := h.stage
  generalize s.pending = pending at hst
  generalize s.requests = requests at hst
  cases hst with
  | completion hc hr => exact List.take_prefix_take_left hr
  | _ => exact List.take_prefix_take_left h.le_slots

/-- After enough callbacks with the view on screen, the chain is done. -/
theorem Progress.done {cs : List Bool} {r : ℕ} (h : Progress slots gameIdArray response cs r s)
    (hon : false ∉ cs) (hlen : 4 * slots.length < cs.length) :
    r = slots.length ∧ s.pending = none ∧ s.requests = gameIdArray.take slots.length := by
  have hst := h.stage
  have hle := h.le_slots
  generalize s.pending = pending at hst
  generalize s.requests = requests at hst
  cases hst with
  | call hc => omega
  | asyncWorkItem id hc hr hid => omega
  | asyncAfter id hc hr hid => omega
  | completion hc hr hid htrue => omega
  | done hr => exact ⟨hr, rfl, by rw [hr]⟩
  | left hr hid hoff => exact absurd (List.mem_of_getElem? hoff) hon

/-- Without an id, the first of the ten slots of the storyboard is too many. -/
theorem noIds_not_chainRight :
    run (step [] fun _ => none) [.callback true] (fetchRecommendGame true (List.replicate 10 {})) =
      .error (.outOfRange "gameIdArray[index]") ∧
    ¬ChainRight (List.replicate 10 {}) [] (fun _ => none) [.callback true] :=
  ⟨rfl, fun h => by
    obtain ⟨s, hs⟩ := h.ok
    cases hs⟩

/-- **The chain is right exactly while there are enough ids**: for every list of ids, any slots, whatever
is answered, and in every run of it. -/
theorem chainRight_iff (slots : List ItemGame) (gameIdArray : List Int64) (response : ℕ → Option Game)
    (es : List Event) : ChainRight slots gameIdArray response es ↔
      EnoughIds slots.length gameIdArray.length (callbacks es) := by
  constructor
  · intro h
    exact run_ok_iff_enoughIds.mp h.ok
  · intro h
    refine ⟨run_ok_iff_enoughIds.mpr h, fun s hs => ?_, fun s hs hon hlen => ?_⟩
    · obtain ⟨r, hp⟩ := progress_run hs
      exact hp.requests_prefix
    · obtain ⟨r, hp⟩ := progress_run hs
      obtain ⟨rfl, hpending, hrequests⟩ := hp.done hon hlen
      refine ⟨hpending, hrequests, fun i hi => ?_⟩
      rw [hp.held i]
      by_cases hn : i < slots.length
      · simp [hn]
      · simp [List.getElem?_eq_none (Nat.le_of_not_lt hn)]

end Runs

end Recommend

end Booster
