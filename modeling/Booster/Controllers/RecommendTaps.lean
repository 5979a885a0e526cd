import Booster.Controllers.Recommend

/-!
# Tapping a recommendation

A slot's picture is requested when its game is received, and arrives whenever it does; only then is the slot given
its delegate and does it recognise taps, which hand over `game!`. In the meantime the chain has
gone on to other slots.

What a slot shows and what a tap on it hands over are of one game, the one received for its index
(`taps_right`): the request is made after the game is set, and no other game is received for the index.
-/

namespace Booster

open Theory

/-- `imageTapp`, and what it hands to the delegate, if there is one. -/
def ItemGame.imageTapp (slot : ItemGame) : Except Trap (Option Game) :=
  if slot.delegate then do
    let game ← force "game!" slot.game
    return some game
  else .ok none

namespace Recommend

/-- The slot holds the game received, whose cover has the URL given. -/
def Ready (response : Option Game) (url : String) (slot : ItemGame) : Prop :=
  ∃ game cover, response = some game ∧ game.sampleCover = some cover ∧ cover.thumbnailImageURL = url ∧
    slot.game = some game ∧ slot.nameGame = game.title

/-- A slot that shows nothing recognises no taps, and one that shows a picture holds its game. -/
structure SlotRight (response : Option Game) (slot : ItemGame) : Prop where
  bare : slot.imageGame = none → slot.delegate = false
  pictured : ∀ url, slot.imageGame = some url → slot.delegate = true ∧ Ready response url slot

/-- What every event keeps: the slots are right, and those whose pictures are to come are ready for them. -/
structure Pictured (response : ℕ → Option Game) (s : Recommend) : Prop where
  slots : ∀ i slot, s.recommnedGame[i]? = some slot → SlotRight (response i) slot
  images : ∀ p ∈ s.images, ∀ slot, s.recommnedGame[p.1]? = some slot → Ready (response p.1) p.2 slot

variable {gameIdArray : List Int64} {response : ℕ → Option Game} {s s' : Recommend}

/-- A game received is the one its slot is ready for, if it is ready. -/
theorem Ready.receive {game : Game} {name url : String} {slot : ItemGame} (h : Ready (some game) url slot)
    (ht : game.title = some name) : Ready (some game) url { slot with nameGame := some name, game := some game } := by
  obtain ⟨game', cover, hgame, hcover, hurl, -, -⟩ := h
  cases hgame
  exact ⟨game, cover, rfl, hcover, hurl, rfl, ht.symm⟩

/-- A slot of a list in which one slot is set. -/
theorem slot_of_set {slots : List ItemGame} {index i : ℕ} {slot slot' : ItemGame}
    (h : (slots.set index slot')[i]? = some slot) : (i = index ∧ slot = slot') ∨ i ≠ index ∧ slots[i]? = some slot := by
  rw [List.getElem?_set] at h
  by_cases hi : index = i
  · rw [if_pos hi] at h
    split at h
    · exact .inl ⟨hi.symm, (Option.some.inj h).symm⟩
    · cases h
  · rw [if_neg hi] at h
    exact .inr ⟨Ne.symm hi, h⟩

/-- **A game received keeps the slots right.** -/
theorem Pictured.success (h : Pictured response s) {index : ℕ} {game : Game} (hgame : response index = some game)
    (hs : s.success index game = .ok s') : Pictured response s' := by
  unfold Recommend.success at hs
  cases ht : game.title with
  | none =>
    rw [ht] at hs
    cases hs
    exact h
  | some name =>
    simp only [ht] at hs
    obtain ⟨old, hold, hs⟩ := bind_eq_ok_iff.mp hs
    have hold := subscript_eq_ok_iff.mp hold
    cases hs
    refine ⟨fun i slot hi => ?_, fun p hp slot hi => ?_⟩
    · rcases slot_of_set hi with ⟨rfl, rfl⟩ | ⟨-, hi⟩
      · have hslot := h.slots i old hold
        refine ⟨hslot.bare, fun url hurl => ⟨(hslot.pictured url hurl).1, ?_⟩⟩
        rw [hgame]
        exact (hgame ▸ (hslot.pictured url hurl).2).receive ht
      · exact h.slots i slot hi
    · rcases slot_of_set hi with ⟨hp1, rfl⟩ | ⟨hne, hi⟩
      · rcases List.mem_append.mp hp with hp | hp
        · rw [hp1, hgame]
          have hready := h.images p hp old (hp1 ▸ hold)
          rw [hp1, hgame] at hready
          exact hready.receive ht
        · obtain ⟨cover, hcover, rfl⟩ := Option.map_eq_some_iff.mp (Option.mem_toList.mp hp)
          exact ⟨game, cover, hgame, hcover, rfl, rfl, ht.symm⟩
      · rcases List.mem_append.mp hp with hp | hp
        · exact h.images p hp slot hi
        · obtain ⟨cover, -, rfl⟩ := Option.map_eq_some_iff.mp (Option.mem_toList.mp hp)
          exact absurd rfl hne

/-- **A picture keeps the slots right**, as its slot is ready for it. -/
theorem Pictured.image (h : Pictured response s) {k : ℕ} {success : Bool} (hs : s.image k success = .ok s') :
    Pictured response s' := by
  unfold Recommend.image at hs
  cases hk : s.images[k]? with
  | none =>
    rw [hk] at hs
    cases hs
    exact h
  | some p =>
    obtain ⟨index, url⟩ := p
    simp only [hk] at hs
    have herase : ∀ p ∈ s.images.eraseIdx k, p ∈ s.images := fun p hp => List.mem_of_mem_eraseIdx hp
    cases success with
    | false =>
      cases hs
      exact ⟨h.slots, fun p hp => h.images p (herase p hp)⟩
    | true =>
      obtain ⟨old, hold, hs⟩ := bind_eq_ok_iff.mp hs
      have hold : s.recommnedGame[index]? = some old := subscript_eq_ok_iff.mp hold
      cases hs
      refine ⟨fun i slot hi => ?_, fun p hp slot hi => ?_⟩
      · rcases slot_of_set hi with ⟨rfl, rfl⟩ | ⟨-, hi⟩
        · refine ⟨(fun hn => by cases hn), fun url' hurl => ?_⟩
          cases hurl
          exact ⟨rfl, h.images (i, url) (List.mem_of_getElem? hk) old hold⟩
        · exact h.slots i slot hi
      · rcases slot_of_set hi with ⟨hp1, rfl⟩ | ⟨-, hi⟩
        · exact h.images p (herase p hp) old (hp1 ▸ hold)
        · exact h.images p (herase p hp) slot hi

/-- **Every event keeps the slots right.** -/
theorem Pictured.step (h : Pictured response s) {e : Event} (hs : step gameIdArray response e s = .ok s') :
    Pictured response s' := by
  cases e with
  | image k success => exact h.image hs
  | callback onScreen =>
    simp only [Recommend.step, callback] at hs
    split at hs
    next index hpending =>
      unfold fetchRecommendGamesRecursive at hs
      split at hs
      · obtain ⟨currentGameId, -, hs⟩ := bind_eq_ok_iff.mp hs
        cases hs
        exact ⟨h.slots, h.images⟩
      · cases hs
        exact ⟨h.slots, h.images⟩
    next index currentGameId hpending =>
      cases hs
      exact ⟨h.slots, h.images⟩
    next index currentGameId hpending =>
      split at hs
      · cases hs
        exact ⟨h.slots, h.images⟩
      · cases hs
        exact ⟨h.slots, h.images⟩
    next index hpending =>
      obtain ⟨t, ht, hs⟩ := bind_eq_ok_iff.mp hs
      cases hs
      have hpictured : Pictured response t := by
        cases hr : response index with
        | none =>
          rw [hr] at ht
          cases ht
          exact h
        | some game =>
          rw [hr] at ht
          exact h.success hr ht
      exact ⟨hpictured.slots, hpictured.images⟩
    next hpending =>
      cases hs
      exact h

/-- What a slot shows, and what a tap on it does: nothing, or the picture, the name and the game
received for its index. -/
def TapRight (response : Option Game) (slot : ItemGame) : Prop :=
  (slot.imageGame = none ∧ slot.imageTapp = .ok none) ∨
    ∃ game cover, response = some game ∧ game.sampleCover = some cover ∧
      slot.imageGame = some cover.thumbnailImageURL ∧ slot.nameGame = game.title ∧ slot.imageTapp = .ok (some game)

theorem SlotRight.tapRight {response : Option Game} {slot : ItemGame} (h : SlotRight response slot) :
    TapRight response slot := by
  cases hi : slot.imageGame with
  | none => exact .inl ⟨hi, by rw [ItemGame.imageTapp, h.bare hi]; rfl⟩
  | some url =>
    obtain ⟨hd, game, cover, hgame, hcover, rfl, hslot, hname⟩ := h.pictured url hi
    refine .inr ⟨game, cover, hgame, hcover, hi, hname, ?_⟩
    rw [ItemGame.imageTapp, if_pos hd, hslot]
    rfl

/-- **A tap on a recommendation hands over the game whose picture and name the slot shows**, in every run of the chain
from empty slots, whatever the ids, the responses, and the order in which the pictures arrive: each slot
shows no picture and a tap on it does nothing, or shows the picture and the name of the game received for its index, and
a tap on it hands that over; so `game!` never traps. -/
theorem taps_right {n : ℕ} {es : List Event}
    (h : run (step gameIdArray response) es (fetchRecommendGame true (List.replicate n {})) = .ok s) :
    ∀ i slot, s.recommnedGame[i]? = some slot → TapRight (response i) slot := by
  have hempty : Pictured response (fetchRecommendGame true (List.replicate n {})) := by
    refine ⟨fun i slot hi => ?_, fun p hp => by cases hp⟩
    obtain rfl : slot = {} := List.eq_of_mem_replicate (List.mem_of_getElem? hi)
    exact ⟨fun _ => rfl, fun url hurl => by cases hurl⟩
  have hs : Pictured response s := run_inv (fun _ _ _ _ ht he => ht.step he) hempty h
  exact fun i slot hi => (hs.slots i slot hi).tapRight

/-- Two games are received before the picture of the first arrives. -/
def latePicture : List Event := List.replicate 8 (.callback true) ++ [.image 0 true]

/-- Each request is answered with a game that has a cover. -/
def covered (i : ℕ) : Option Game :=
  some { Game.bare i.toInt64 with title := some "t", sampleCover := some ⟨1, "u", [], "v", 1⟩ }

theorem taps_right_latePicture :
    ∃ s, run (step [5, 6] covered) latePicture (fetchRecommendGame true (List.replicate 2 {})) = .ok s ∧
      s.recommnedGame.map ItemGame.imageGame = [some "v", none] ∧
      ∀ i slot, s.recommnedGame[i]? = some slot → TapRight (covered i) slot :=
  ⟨_, rfl, rfl, @taps_right [5, 6] covered _ 2 latePicture rfl⟩

end Recommend

end Booster
