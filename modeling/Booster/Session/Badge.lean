import Booster.Session.Effects

/-!
# When the badge is right

The badge of the Profile tab should be the number of stored records (`BadgeRight`),
which is what `updateProfileBadgeValue` writes when the tab bar becomes the root
screen. Afterwards it is written by whoever fills the Profile list, from the
length of that list: right for a list of everything, short for a segment's. An
insertion reaches the badge through the notification alone, so not before the
Profile view is loaded; a deletion from a detail screen reaches it through
the delegate alone; and a deletion from a row counts the rows left.
`Effect.KeepsBadge` says for each effect when the badge is right after it, if it was right before
(`badgeRight_apply`), and `badge_throughout_iff` says it of a whole run.
-/

namespace Booster

open Theory ProfileController

/-- The badge is the number of stored records. -/
def BadgeRight (s : App) : Prop := s.badgeValue = some (toString s.context.store.length)

instance (s : App) : Decidable (BadgeRight s) :=
  inferInstanceAs (Decidable (s.badgeValue = some (toString s.context.store.length)))

/-- When an effect keeps the badge right. -/
def Effect.KeepsBadge (s : App) : Effect → Prop
  | .idle | .load | .setStatus _ _ | .deleteReload _ | .reload | .rowStatus _ _ | .count | .restart => True
  -- the records of a segment are counted
  | .segment index => ∀ r ∈ s.context.view, segmentShows index r.2 = true
  -- only a loaded Profile hears of an insertion
  | .insert _ _ _ => s.profile.collectionView ≠ none
  -- nobody hears of this deletion
  | .delete _ => False
  -- the rows left are counted
  | .rowDelete _ i => s.profile.results.length = s.context.view.length + if i ∈ ids s.context.view then 0 else 1

/-- A count written in the badge is right when it is the number of stored records. -/
theorem badgeRight_iff {s : App} {n : ℕ} (h : s.badgeValue = some (toString n)) :
    BadgeRight s ↔ n = s.context.store.length := by
  rw [BadgeRight, h, Option.some.injEq]
  constructor
  · intro ht
    have hd := congrArg (fun text : String => Nat.ofDigitChars 10 text.toList 0) ht
    simpa only [Nat.toString_eq_repr, Nat.toList_repr, Nat.ofDigitChars_ten_toDigits] using hd
  · intro hn
    rw [hn]

theorem length_fetch (c : Context GameSave) (p : GameSave → Bool) :
    (c.fetch p).length = (c.view.filter fun r => p r.2).length := by
  rw [Context.fetch, ids, List.length_map]

/-- The badge after a listing is right when everything was listed. -/
theorem badgeRight_listing {s : App} (hw : s.context.store = s.context.view) {p : GameSave → Bool} :
    BadgeRight (s.listing p) ↔ ∀ r ∈ s.context.view, p r.2 = true := by
  rw [badgeRight_iff rfl, length_fetch, show (s.listing p).context.store = s.context.view from hw,
    List.length_filter_eq_length_iff]

theorem badgeRight_listing_all {s : App} (hw : s.context.store = s.context.view) :
    BadgeRight (s.listing fun _ => true) :=
  (badgeRight_listing hw).mpr fun _ _ => rfl

theorem badgeRight_counted {s : App} (hw : s.context.store = s.context.view) : BadgeRight s.counted := by
  rw [badgeRight_iff rfl, length_fetch, show s.counted.context.store = s.context.view from hw, List.filter_true]

/-- The number of rows a deletion leaves. -/
theorem length_delete {α : Type} {rs : Rows α} (hn : (ids rs).Nodup) (i : ObjectID) :
    rs.length = ((Change.delete i).apply rs).length + if i ∈ ids rs then 1 else 0 := by
  have hl : ∀ rs : Rows α, rs.length = (ids rs).length := fun rs => (List.length_map _).symm
  have he : (ids rs).filter (· ≠ i) = (ids rs).erase i :=
    (List.filter_congr fun j _ => Bool.eq_iff_iff.mpr (by simp)).trans (hn.erase_eq_filter i).symm
  rw [hl rs, hl ((Change.delete i).apply rs), ids_delete, he]
  split
  next hi =>
    have := List.length_pos_of_mem hi
    rw [List.length_erase_of_mem hi]
    omega
  next hi => rw [List.erase_of_not_mem hi, Nat.add_zero]

/-- **The badge after an effect** is right exactly when the effect keeps it. -/
theorem badgeRight_apply {e : Effect} {s : App} (h : Clean s) (hp : BadgeRight s) (hf : e.Fits s) :
    BadgeRight (e.apply s) ↔ e.KeepsBadge s := by
  cases e with
  | idle => exact iff_of_true hp trivial
  | load => exact iff_of_true (badgeRight_listing_all (s := s.opened) h.written) trivial
  | segment index => exact badgeRight_listing (s := s.atSegment index) h.written
  | insert game gameId status =>
    simp only [Effect.apply, App.inserted, App.notified, Effect.KeepsBadge]
    cases hc : s.profile.collectionView with
    | none =>
      refine iff_of_false (fun hb => ?_) (fun hl => hl rfl)
      have hl := (badgeRight_iff (s := { s with context := (s.context.insertNewObject _).save }) hp).mp hb
      simp only [Context.store_save, Context.view_insertNewObject, Change.apply, List.length_append,
        List.length_singleton, h.written] at hl
      omega
    | some n =>
      exact iff_of_true
        (badgeRight_listing_all (s := { s with context := (s.context.insertNewObject _).save }) rfl)
        (Option.some_ne_none n)
  | setStatus i status =>
    refine iff_of_true ?_ trivial
    rw [Effect.apply, badgeRight_iff (s := s.statusSet i status) hp]
    simp [App.statusSet, Change.apply, h.written]
  | delete i =>
    obtain ⟨g, hg⟩ := hf
    refine iff_of_false (fun hb => ?_) id
    have hl := (badgeRight_iff (s := s.deleted i) hp).mp hb
    have hd := length_delete s.context.view_nodup i
    rw [if_pos (mem_ids_of_mem hg)] at hd
    simp only [App.deleted, Context.store_save, Context.view_delete, h.written] at hl
    omega
  | deleteReload i => exact iff_of_true (badgeRight_listing_all (s := s.deleted i) rfl) trivial
  | reload => exact iff_of_true (badgeRight_listing_all h.written) trivial
  | rowStatus i status =>
    refine iff_of_true ?_ trivial
    rw [Effect.apply, badgeRight_iff (s := s.rowStatusSet i status) hp]
    simp [App.rowStatusSet, Change.apply, h.written]
  | rowDelete row i =>
    obtain ⟨-, hr⟩ := hf
    have hlt : row < s.profile.results.length := (List.getElem?_eq_some_iff.mp hr).1
    have hd := length_delete s.context.view_nodup i
    rw [Effect.apply, badgeRight_iff (s := s.rowDeleted row i) rfl, List.length_eraseIdx_of_lt hlt]
    simp only [App.rowDeleted, Context.store_save, Context.view_delete, Effect.KeepsBadge]
    by_cases hi : i ∈ ids s.context.view
    · rw [if_pos hi] at hd ⊢
      omega
    · rw [if_neg hi] at hd ⊢
      omega
  | count => exact iff_of_true (badgeRight_counted h.written) trivial
  | restart => exact iff_of_true (badgeRight_counted (s := s.restart) rfl) trivial

/-- A game saved from Home before the Profile tab is visited. -/
def unheardRun : List Action := [.login, .homeAdd (.bare 7) 2]

/-- The badge counts no game then. -/
theorem unheardRun_not_badgeRight :
    ∃ s, run (Session.step .none) unheardRun Session.launch = .ok s ∧ ¬BadgeRight s.app :=
  ⟨_, rfl, by decide⟩

/-- **The badge is right exactly along the runs whose effects keep it**: once the tab bar is
the root screen, in a session in which nothing fails, the badge is right after every
action if and only if every action has an effect that keeps it. The first run is any the
user may have made before. -/
theorem badge_throughout_iff (before as : List Action) {s s' : Session}
    (hb : run (Session.step .none) before Session.launch = .ok s) (hl : s.step .none .login = .ok s') :
    Throughout (Session.step .none) (fun s => BadgeRight s.app) as s' ↔
      Meets (Session.step .none) (fun a s => (a.effect s).KeepsBadge s.app) as s' := by
  have hs := clean_session hb
  refine throughout_iff_meets (I := fun s : Session => Clean s.app) (fun _ _ _ hi hs => clean_action hi hs) ?_
    as (clean_action hs hl) ?_
  · intro a s s' hi hp hs
    obtain ⟨he, hf⟩ := step_effect hs
    rw [he]
    exact badgeRight_apply hi hp hf
  · cases hl
    exact badgeRight_counted hs.written

theorem badge_throughout_iff_unheardRun :
    ∃ s', Session.step .none .login Session.launch = .ok s' ∧
      (Throughout (Session.step .none) (fun s => BadgeRight s.app) [.homeAdd (.bare 7) 2] s' ↔
        Meets (Session.step .none) (fun a s => (a.effect s).KeepsBadge s.app) [.homeAdd (.bare 7) 2] s') :=
  ⟨_, rfl, badge_throughout_iff [] _ rfl rfl⟩

end Booster
