import Booster.Collection.Calls

/-!
# What a save reports

`CoredataController.saveGameToCoreData` reports back through `completion`, once on every
path. A game it finds it hands to `updateGameToCoreDataByGameID`, which catches what its fetch
and its save throw and returns nothing, so the report is a success whatever came of
the update. `tellsTruth_iff` says when the report agrees with the store all the same: a save
that throws reports the truth exactly when the store already is, or already is not, what the report says.
-/

namespace Booster

open Theory

/-- The persistent store holds a record with the `game_id` and the status. -/
def App.Holds (s : App) (gameId : Int64) (status : String) : Prop :=
  ∃ r ∈ s.context.store, r.2.gameId = gameId.toInt32 ∧ r.2.status = some status

/-- `completion` is called once, and with `true` exactly when the store then holds the record. -/
def TellsTruth (game : Game) (gameId : Int64) (status : String) (f : Faults) (s : App) : Prop :=
  ∃ s' success, CoredataController.saveGameToCoreData game status f s = .ok (s', [success]) ∧
    (success = true ↔ s'.Holds gameId status)

/-- What the store must be before a save some of whose calls throw, for the report to be true. -/
structure Truthful (f : Faults) (gameId : Int64) (status : String) (s : App) : Prop where
  /-- The fetch throws, and a failure is reported. -/
  fetch : f.fetch = true → ¬s.Holds gameId status
  /-- The game is found and its update throws, and a success is reported. -/
  update : f.fetch = false → firstWithID gameId s.context ≠ none →
    f.updateFetch = true ∨ f.updateSave = true → s.Holds gameId status
  /-- The game is not found and its save throws, and a failure is reported. -/
  save : f.fetch = false → firstWithID gameId s.context = none → f.save = true → ¬s.Holds gameId status

/-! ### What must hold on each path -/

section Paths

variable {f : Faults} {gameId : Int64} {status : String} {s : App}

theorem truthful_of_fetch (hf : f.fetch = true) : Truthful f gameId status s ↔ ¬s.Holds gameId status := by
  constructor
  · intro h
    exact h.fetch hf
  · intro h
    exact ⟨fun _ => h, fun hf' => by simp [hf] at hf', fun hf' => by simp [hf] at hf'⟩

theorem truthful_of_found (hf : f.fetch = false) (hi : firstWithID gameId s.context ≠ none) :
    Truthful f gameId status s ↔ (f.updateFetch = true ∨ f.updateSave = true → s.Holds gameId status) := by
  constructor
  · intro h
    exact h.update hf hi
  · intro h
    exact ⟨fun hf' => by simp [hf] at hf', fun _ _ => h, fun _ hn => absurd hn hi⟩

theorem truthful_of_absent (hf : f.fetch = false) (hn : firstWithID gameId s.context = none) :
    Truthful f gameId status s ↔ (f.save = true → ¬s.Holds gameId status) := by
  constructor
  · intro h
    exact h.save hf hn
  · intro h
    exact ⟨fun hf' => by simp [hf] at hf', fun _ hi => absurd hn hi, fun _ _ => h⟩

/-! ### The store left on each path -/

/-- An update that throws leaves the store as it was. -/
theorem store_update_of_throws {c : Context GameSave} (h : f.updateFetch = true ∨ f.updateSave = true) :
    (CoredataController.updateGameToCoreDataByGameID gameId status f.updateFetch f.updateSave c).store =
      c.store := by
  unfold CoredataController.updateGameToCoreDataByGameID
  rcases h with h | h
  · rw [if_pos h]
  · by_cases hf : f.updateFetch = true
    · rw [if_pos hf]
    · rw [if_neg hf]
      cases c.fetch (hasGameID gameId) with
      | nil => rfl
      | cons i l => simp [h]

/-- An update that finds its game and does not throw writes it. -/
theorem holds_update {i : ObjectID} (h : firstWithID gameId s.context = some i) :
    App.Holds { s with
      context := CoredataController.updateGameToCoreDataByGameID gameId status false false s.context }
      gameId status := by
  obtain ⟨g, hm, hk⟩ := mem_view_of_firstWithID h
  obtain ⟨l, hl⟩ := List.head?_eq_some_iff.mp h
  refine ⟨(i, g.setStatus status), ?_, hk, rfl⟩
  simp only [CoredataController.updateGameToCoreDataByGameID, hl, Bool.false_eq_true, if_false,
    Context.store_save, Context.view_setValue]
  exact mem_update.mpr ⟨g, hm, (if_pos rfl).symm⟩

/-- An insertion that is saved is written, and the notification after it writes nothing. -/
theorem holds_inserted {game : Game} {s' : App}
    (h : ProfileController.postReloadProfileData f.reloadFetch { s with
      context := (s.context.insertNewObject (game.toGameSave gameId status)).save } = .ok s') :
    s'.Holds gameId status := by
  refine ⟨(s.context.next, game.toGameSave gameId status), ?_, rfl, rfl⟩
  rw [ProfileController.postReloadProfileData_context h, Context.store_save, Context.view_insertNewObject]
  exact mem_insert.mpr (.inr rfl)

end Paths

/-! ### The report -/

theorem tellsTruth_of_ok {game : Game} {gameId : Int64} {status : String} {f : Faults} {s s' : App}
    {success : Bool} (h : CoredataController.saveGameToCoreData game status f s = .ok (s', [success])) :
    TellsTruth game gameId status f s ↔ (success = true ↔ s'.Holds gameId status) := by
  constructor
  · rintro ⟨t, b, ht, hb⟩
    rw [h, Except.ok.injEq, Prod.mk.injEq, List.cons.injEq] at ht
    obtain ⟨rfl, rfl, -⟩ := ht
    exact hb
  · intro hb
    exact ⟨s', success, h, hb⟩

/-- A game (id 7) is "Played" in the store. -/
def playedStore : App := reach App.step [.op (.homeSave (.bare 7) "Played") .none] App.launch

/-- It is saved as "To Play", the update's save throws, and a success is reported. -/
theorem playedStore_not_tellsTruth : ¬TellsTruth (.bare 7) 7 "To Play" { updateSave := true } playedStore := by
  rintro ⟨s', success, hc, hb⟩
  cases hc
  obtain ⟨r, hr, -, hs⟩ := hb.mp rfl
  have hr : r ∈ [(0, (Game.bare 7).toGameSave 7 "Played")] := hr
  rw [List.mem_singleton.mp hr] at hs
  exact absurd hs (by decide)

/-- **A save tells the truth exactly when what throws in it changes nothing it speaks of**: for
every state, every game with a `gameId`, every status, and whatever throws, `completion`
is called once, with `true` exactly when the store then holds the record, if and only if the store was
`Truthful` before. -/
theorem tellsTruth_iff {game : Game} {gameId : Int64} (hg : game.gameId = some gameId) (status : String)
    (f : Faults) (s : App) : TellsTruth game gameId status f s ↔ Truthful f gameId status s := by
  have hid : game.gameId ≠ none := hg ▸ Option.some_ne_none gameId
  obtain ⟨⟨s', calls⟩, h⟩ : ∃ r, CoredataController.saveGameToCoreData game status f s = .ok r := save_ok_iff.mpr hid
  obtain ⟨gameId', hg', hc⟩ := save_cases h
  obtain rfl : gameId = gameId' := Option.some.inj (hg.symm.trans hg')
  obtain ⟨hff, rfl, rfl⟩ | ⟨hff, ⟨i, hi, rfl, rfl⟩ | ⟨hn, ⟨hs, rfl, rfl⟩ | ⟨hs, rfl, hp⟩⟩⟩ := hc
  · rw [tellsTruth_of_ok h, truthful_of_fetch hff]
    simp
  · rw [tellsTruth_of_ok h, truthful_of_found hff (hi ▸ Option.some_ne_none i)]
    by_cases hu : f.updateFetch = true ∨ f.updateSave = true
    · rw [forall_prop_of_true hu, iff_true_left rfl]
      unfold App.Holds
      rw [store_update_of_throws hu]
    · refine iff_of_true (iff_of_true rfl ?_) fun h => absurd h hu
      simp only [not_or, Bool.not_eq_true] at hu
      rw [hu.1, hu.2]
      exact holds_update hi
  · rw [tellsTruth_of_ok h, truthful_of_absent hff hn]
    simp [hs, App.Holds]
  · rw [tellsTruth_of_ok h, truthful_of_absent hff hn]
    exact iff_of_true (iff_of_true rfl (holds_inserted hp)) fun hs' => by simp [hs] at hs'

theorem tellsTruth_iff_playedStore :
    TellsTruth (.bare 7) 7 "Played" { updateSave := true } playedStore ↔
      Truthful { updateSave := true } 7 "Played" playedStore :=
  tellsTruth_iff rfl _ _ _

end Booster
