import Booster.Session.Effects

/-!
# When the Profile list is right

`results` should be the records of the selected segment (`Listed`). Three mechanisms
refill it: choosing a segment lists that segment, but `reloadProfileData` and
`reloadDelegate` list everything, whichever segment is selected; and the functions
that give a status, and the deletion from a detail screen without a delegate, leave the list as it is.
`Effect.KeepsList` says for each effect when the list is right after it, if it was
right before (`listed_apply`); so along a run from the first start, the list
is right after every action exactly when every action's effect keeps it
(`listed_throughout_iff`).
-/

namespace Booster

open Theory ProfileController

/-- Once the Profile view is loaded, it lists the stored records of the selected segment. -/
def Listed (s : App) : Prop :=
  s.profile.collectionView ≠ none →
    Lists s.profile.results s.context.store (segmentShows s.profile.selectIndex)

/-- When an effect keeps the list right. `segmentShows s.profile.selectIndex` is what the
selected segment denotes. -/
def Effect.KeepsList (s : App) : Effect → Prop
  | .idle | .load | .segment _ | .rowDelete _ _ | .count | .restart => True
  -- everything is listed afterwards, and the new record is one of everything
  | .insert game gameId status => s.profile.collectionView ≠ none →
    (∀ r ∈ s.context.view, segmentShows s.profile.selectIndex r.2 = true) ∧
      segmentShows s.profile.selectIndex (game.toGameSave gameId status) = true
  -- nothing is listed afresh
  | .setStatus i status => s.profile.collectionView ≠ none → ∀ g, (i, g) ∈ s.context.view →
    segmentShows s.profile.selectIndex (g.setStatus status) = segmentShows s.profile.selectIndex g
  | .delete i => s.profile.collectionView ≠ none → ∀ g, (i, g) ∈ s.context.view →
    segmentShows s.profile.selectIndex g = false
  | .deleteReload i => ∀ r ∈ s.context.view, r.1 ≠ i → segmentShows s.profile.selectIndex r.2 = true
  | .reload => ∀ r ∈ s.context.view, segmentShows s.profile.selectIndex r.2 = true
  | .rowStatus i status => ∀ g, (i, g) ∈ s.context.view →
    segmentShows s.profile.selectIndex (g.setStatus status) = true

/-- A list just fetched is right when what it fetched is the selected segment. -/
theorem listed_listing {s : App} (hw : s.context.store = s.context.view) {p : GameSave → Bool} :
    Listed (s.listing p) ↔ ∀ r ∈ s.context.view, p r.2 = segmentShows s.profile.selectIndex r.2 := by
  rw [← lists_filter_iff s.context.view_nodup, ← hw]
  constructor
  · intro h
    have := h (Option.some_ne_none _)
    rwa [show (s.listing p).profile.results = ids (s.context.view.filter fun r => p r.2) from rfl, ← hw] at this
  · intro h _
    rwa [show (s.listing p).profile.results = ids (s.context.view.filter fun r => p r.2) from rfl, ← hw]

theorem listed_listing_all {s : App} (hw : s.context.store = s.context.view) :
    Listed (s.listing fun _ => true) ↔ ∀ r ∈ s.context.view, segmentShows s.profile.selectIndex r.2 = true := by
  rw [listed_listing hw]
  exact forall₂_congr fun r _ => eq_comm

theorem listed_inserted {s : App} {game : Game} {gameId : Int64} {status : String} :
    Listed (s.inserted game gameId status) ↔ (Effect.insert game gameId status).KeepsList s := by
  unfold App.inserted App.notified
  cases hc : s.profile.collectionView with
  | none =>
    simp only
    exact iff_of_true (fun hl => absurd hc hl) fun hl => absurd hc hl
  | some n =>
    simp only
    rw [listed_listing_all (s := { s with context := (s.context.insertNewObject _).save }) rfl]
    simp only [Context.view_save, Context.view_insertNewObject]
    constructor
    · intro hr _
      exact ⟨fun r hv => hr r (mem_insert.mpr (.inl hv)), hr _ (mem_insert.mpr (.inr rfl))⟩
    · intro hk r hr
      obtain ⟨hv, hn⟩ := hk (by simp [hc])
      rcases mem_insert.mp hr with hr | rfl
      · exact hv r hr
      · exact hn

/-- The list of a state whose records alone have changed. -/
theorem listed_of_store {s s' : App} {ch : Change GameSave} (hc : s'.context.store = ch.apply s.context.store)
    (hp : s'.profile.results = s.profile.results) (hi : s'.profile.selectIndex = s.profile.selectIndex)
    (hl : s'.profile.collectionView ≠ none ↔ s.profile.collectionView ≠ none) :
    Listed s' ↔ (s.profile.collectionView ≠ none →
      Lists s.profile.results (ch.apply s.context.store) (segmentShows s.profile.selectIndex)) := by
  unfold Listed
  rw [hl, hp, hi, hc]

/-- **The list after an effect** is right exactly when the effect keeps it. -/
theorem listed_apply {e : Effect} {s : App} (h : Clean s) (hp : Listed s) (hf : e.Fits s) :
    Listed (e.apply s) ↔ e.KeepsList s := by
  have hn : (ids s.context.store).Nodup := h.written ▸ s.context.view_nodup
  cases e with
  | idle => exact iff_of_true hp trivial
  | load =>
    refine iff_of_true ((listed_listing (s := s.opened) h.written).mpr fun r _ => ?_) trivial
    rw [show s.opened.profile.selectIndex = 0 from rfl, segmentShows_zero]
  | segment index => exact iff_of_true ((listed_listing (s := s.atSegment index) h.written).mpr fun _ _ => rfl) trivial
  | insert game gameId status => exact listed_inserted
  | setStatus i status =>
    obtain ⟨g, hg⟩ := hf
    have hs : (s.statusSet i status).context.store =
        (Change.update i (GameSave.setStatus status)).apply s.context.store := by
      simp [App.statusSet, h.written]
    rw [Effect.apply, listed_of_store hs rfl rfl Iff.rfl]
    refine forall_congr' fun hl => ?_
    rw [(hp hl).update_iff hn (h.written ▸ hg), forall_mem_iff s.context.view_nodup hg]
  | delete i =>
    obtain ⟨g, hg⟩ := hf
    have hs : (s.deleted i).context.store = (Change.delete i).apply s.context.store := by
      simp [App.deleted, h.written]
    rw [Effect.apply, listed_of_store hs rfl rfl Iff.rfl]
    refine forall_congr' fun hl => ?_
    rw [(hp hl).delete_iff hn (h.written ▸ hg), forall_mem_iff s.context.view_nodup hg]
  | deleteReload i =>
    rw [Effect.apply, listed_listing_all (s := s.deleted i) rfl]
    constructor
    · intro hr r hv hne
      refine hr r ?_
      simp only [App.deleted, Context.view_save, Context.view_delete]
      exact mem_delete.mpr ⟨hv, hne⟩
    · intro hk r hr
      simp only [App.deleted, Context.view_save, Context.view_delete] at hr
      obtain ⟨hv, hne⟩ := mem_delete.mp hr
      exact hk r hv hne
  | reload => exact listed_listing_all h.written
  | rowStatus i status =>
    obtain ⟨hl, hi⟩ := hf
    obtain ⟨g, hg, hq⟩ := ((hp hl).mem_iff i).mp hi
    have hs : (s.rowStatusSet i status).context.store =
        (Change.update i (GameSave.setStatus status)).apply s.context.store := by
      simp [App.rowStatusSet, h.written]
    rw [Effect.apply, listed_of_store hs rfl rfl (by simp [App.rowStatusSet, hl])]
    rw [forall_prop_of_true hl, (hp hl).update_iff hn hg, hq, Effect.KeepsList, ← h.written, forall_mem_iff hn hg]
  | rowDelete row i =>
    obtain ⟨hl, hr⟩ := hf
    refine iff_of_true (fun _ => ?_) trivial
    have hs : (s.rowDeleted row i).context.store = (Change.delete i).apply s.context.store := by
      simp [App.rowDeleted, h.written]
    rw [Effect.apply, hs]
    exact (hp hl).eraseIdx hr
  | count => exact iff_of_true hp trivial
  | restart => exact iff_of_true (fun hl => absurd rfl hl) trivial

/-- A game saved from Home while the segment "Played" is selected. -/
def staleRun : List Action :=
  [.visitProfile, .homeAdd (.bare 7) 2, .chooseSegment 3, .homeAdd (.bare 8) 3]

/-- Every game is listed then, under "Played", whatever its status. -/
theorem staleRun_not_listed :
    ∃ s, run (Session.step .none) staleRun Session.launch = .ok s ∧ ¬Listed s.app := by
  refine ⟨_, rfl, fun h => ?_⟩
  obtain ⟨g, hg, hq⟩ := ((h (Option.some_ne_none _)).mem_iff 1).mp (by decide)
  have hg' : (1, g) ∈ [(0, (Game.bare 7).toGameSave 7 "Played"), (1, (Game.bare 8).toGameSave 8 "To Play")] := hg
  rcases List.mem_pair.mp hg' with hg' | hg'
  · cases hg'
  · cases hg'
    exact absurd hq (by decide)

/-- **The Profile list is right exactly along the runs whose effects keep it**: from the first
start, in a session in which nothing fails, the list is right after every action if and
only if every action has an effect that keeps it. -/
theorem listed_throughout_iff (as : List Action) :
    Throughout (Session.step .none) (fun s => Listed s.app) as Session.launch ↔
      Meets (Session.step .none) (fun a s => (a.effect s).KeepsList s.app) as Session.launch := by
  refine throughout_iff_meets (I := fun s : Session => Clean s.app) (fun _ _ _ hi hs => clean_action hi hs) ?_
    as clean_launch fun hl => absurd rfl hl
  intro a s s' hi hp hs
  obtain ⟨he, hf⟩ := step_effect hs
  rw [he]
  exact listed_apply hi hp hf

end Booster
