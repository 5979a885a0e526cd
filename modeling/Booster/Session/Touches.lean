import Booster.Session.Progress
import Booster.View.PinterestSegment

/-!
# Choosing a segment by touch

A session's user chooses a segment by its index. On the screen there is a `PinterestSegment`, made with the
Profile view by `setUISegment`, which the user scrolls and taps, and whose `valueChange` fetches what the
title selected shows. Here the two are put together: `Touches.next` runs the segment on a tap, and then
`valueChange` if it is called.

The sessions that touches reach are those that choices reach (`touched_iff`): a tap is the choice of the title whose
label it is on, or nothing, and there is a place to scroll to and to tap for each title.
-/

namespace Booster

open Theory

/-- The screen the app runs on. -/
structure Display where
  /-- `view.frame.width`. -/
  width : ℚ
  /-- `UIFont.boldSystemFont(ofSize: 14)`. -/
  boldSystemFont : TitleFont
  /-- `UIFont.systemFont(ofSize: 14, weight:)`. -/
  systemFont : TitleFont
  /-- There is room for the segment. -/
  room : 40 ≤ width

namespace ProfileController

/-- `setUISegment`, up to `valueChange`. -/
def setUISegment (d : Display) : PinterestSegment :=
  let s := PinterestSegment.init (d.width - 40) 40 { titleFont := d.boldSystemFont } titles
  (s.step (.setStyle { s.style with titleFont := d.systemFont })).1

/-- The `valueChange` of the segment, `titles` being those of the segment. -/
def valueChange (titles : List String) (index : ℕ) (throws : Bool) (s : App) : Except Trap App :=
  if index = 0 then fetchGamesFromCoreData throws s
  else do
    let status ← subscript "s.titles[index]" titles index
    fetchGamesWithStatus status throws s

end ProfileController

/-- A session, and the segment of the Profile view, once that is loaded. -/
structure Touches where
  session : Session
  segment : Option PinterestSegment

/-- The choice of a segment, which on the screen takes a tap. -/
def Session.Event.ChoosesSegment : Session.Event → Prop
  | .act (.chooseSegment _) _ => True
  | _ => False

/-- What happens on the screen. -/
inductive TouchEvent where
  /-- The user taps the segment's view, at `x`; a fetch may throw. -/
  | tap (x : ℚ) (throws : Bool)
  /-- The user scrolls the segment. -/
  | scroll (contentOffset : ℚ)
  /-- The segment's frame is set. -/
  | setFrame (width height : ℚ) (h : 0 ≤ width)
  /-- Anything else that happens in a session. -/
  | other (e : Session.Event) (h : ¬e.ChoosesSegment)

namespace Touches

/-- The app started for the first time. -/
def launch : Touches := ⟨Session.launch, none⟩

/-- The segment is there while the Profile view is: it is made with the view. -/
def withView (d : Display) (segment : Option PinterestSegment) (session : Session) : Touches :=
  ⟨session, session.app.profile.collectionView.map fun _ => segment.getD (ProfileController.setUISegment d)⟩

/-- What a step of the segment leaves: `valueChange` is called, if it is. -/
def change (throws : Bool) (r : PinterestSegment × Option ℕ) (s : Touches) : Touches :=
  match r.2 with
  | none => { s with segment := some r.1 }
  | some index =>
    match ProfileController.valueChange r.1.titles index throws
      { s.session.app with profile.selectIndex := r.1.selectIndex } with
    | .ok app => ⟨{ s.session with app }, some r.1⟩
    | .error _ => ⟨s.session.restart, none⟩

/-- The state after an event. A tap outside the segment's view is not the segment's, and it scrolls
no further than its content. -/
def next (d : Display) : TouchEvent → Touches → Touches
  | .other e _, s => withView d s.segment (s.session.next e)
  | .tap x throws, s =>
    match s.segment with
    | none => s
    | some segment =>
      if 0 ≤ x ∧ x ≤ segment.width then s.change throws (segment.step (.tap x)) else s
  | .scroll contentOffset, s =>
    match s.segment with
    | none => s
    | some segment =>
      if 0 ≤ contentOffset ∧ contentOffset ≤ max 0 (segment.contentSize - segment.width) then
        { s with segment := some (segment.step (.scroll contentOffset)).1 }
      else s
  | .setFrame width height _, s =>
    match s.segment with
    | none => s
    | some segment => { s with segment := some (segment.step (.setBounds width height)).1 }

end Touches

/-! ### What leaves the segment alone -/

/-- The view is there or not as it was, and the segment is where it was. -/
structure App.SameSegment (s s' : App) : Prop where
  collectionView : s'.profile.collectionView = none ↔ s.profile.collectionView = none
  selectIndex : s'.profile.selectIndex = s.profile.selectIndex

theorem App.SameSegment.of_profile_eq {s s' : App} (h : s'.profile = s.profile) : s.SameSegment s' :=
  ⟨by rw [h], by rw [h]⟩

theorem App.SameSegment.trans {s t u : App} (h : s.SameSegment t) (h' : t.SameSegment u) : s.SameSegment u :=
  ⟨h'.collectionView.trans h.collectionView, h'.selectIndex.trans h.selectIndex⟩

namespace ProfileController

theorem sameSegment_reloadCollectionView {s s' : App} (h : reloadCollectionView s = .ok s') : s.SameSegment s' := by
  obtain ⟨hc, rfl⟩ := reloadCollectionView_eq_ok_iff.mp h
  exact ⟨iff_of_false (Option.some_ne_none _) hc, rfl⟩

theorem sameSegment_fetchResults {p : GameSave → Bool} {throws : Bool} {s s' : App}
    (h : fetchResults p throws s = .ok s') : s.SameSegment s' := by
  cases throws with
  | true =>
    simp only [fetchResults, if_true, Except.ok.injEq] at h
    subst h
    exact ⟨Iff.rfl, rfl⟩
  | false =>
    simp only [fetchResults, Bool.false_eq_true, if_false] at h
    have hr := sameSegment_reloadCollectionView h
    exact ⟨hr.collectionView, hr.selectIndex⟩

theorem sameSegment_postReloadProfileData {throws : Bool} {s s' : App}
    (h : postReloadProfileData throws s = .ok s') : s.SameSegment s' := by
  unfold postReloadProfileData at h
  cases hc : s.profile.collectionView with
  | none =>
    simp only [hc, Except.ok.injEq] at h
    exact .of_profile_eq (h ▸ rfl)
  | some n =>
    simp only [hc] at h
    exact sameSegment_fetchResults h

theorem sameSegment_reloadData {throws : Bool} {s s' : App} (h : reloadData throws s = .ok s') : s.SameSegment s' := by
  obtain ⟨t, ht, h⟩ := bind_eq_ok_iff.mp h
  exact (sameSegment_fetchResults ht).trans (sameSegment_reloadCollectionView h)

end ProfileController

/-- An operation moves the segment only by choosing, or with the view. -/
def Op.MovesSegment : Op → Prop
  | .loadProfile | .selectSegment _ => True
  | _ => False

theorem sameSegment_exec {o : Op} {f : Faults} {s s' : App} (ho : ¬o.MovesSegment) (h : o.exec f s = .ok s') :
    s.SameSegment s' := by
  cases o with
  | homeSave game status =>
    obtain ⟨gameId, -, ⟨-, rfl⟩ | ⟨-, ⟨i, -, rfl⟩ | ⟨-, ⟨-, rfl⟩ | ⟨-, h⟩⟩⟩⟩ := homeSave_cases h
    · exact .of_profile_eq rfl
    · exact .of_profile_eq rfl
    · exact .of_profile_eq rfl
    · have hr := ProfileController.sameSegment_postReloadProfileData h
      exact ⟨hr.collectionView, hr.selectIndex⟩
  | save game status =>
    obtain ⟨⟨t, calls⟩, ht, h⟩ := bind_eq_ok_iff.mp h
    cases h
    obtain ⟨gameId, -, ⟨-, rfl, -⟩ | ⟨-, ⟨i, -, -, rfl⟩ | ⟨-, ⟨-, -, rfl⟩ | ⟨-, -, h⟩⟩⟩⟩ := save_cases ht
    · exact .of_profile_eq rfl
    · exact .of_profile_eq rfl
    · exact .of_profile_eq rfl
    · have hr := ProfileController.sameSegment_postReloadProfileData h
      exact ⟨hr.collectionView, hr.selectIndex⟩
  | update gameID status =>
    cases h
    exact .of_profile_eq rfl
  | delete gameID =>
    cases h
    exact .of_profile_eq rfl
  | updateRow row status =>
    obtain ⟨i, -, hc, rfl⟩ := ProfileController.updateGameInCoreData_cases h
    exact ⟨iff_of_false (Option.some_ne_none _) hc, rfl⟩
  | deleteRow row =>
    obtain ⟨i, -, ⟨-, rfl⟩ | ⟨-, hc, rfl⟩⟩ := ProfileController.deleteGameFromCoreData_cases h
    · exact .of_profile_eq rfl
    · exact ⟨iff_of_false (Option.some_ne_none _) hc, rfl⟩
  | loadProfile => exact absurd trivial ho
  | fetchAll => exact ProfileController.sameSegment_fetchResults h
  | fetchStatus status => exact ProfileController.sameSegment_fetchResults h
  | selectSegment index => exact absurd trivial ho
  | reload => exact ProfileController.sameSegment_reloadData h

/-- The operations of an action that is neither the choice of a segment nor a visit to the tab. -/
theorem not_movesSegment {f : Faults} {s : Session} {a : Action} (ha : ¬Session.Event.ChoosesSegment (.act a f))
    (hv : a ≠ .visitProfile) {p : Op × Faults} (hp : p ∈ a.ops f s) : ¬p.1.MovesSegment := by
  cases a with
  | visitProfile => exact absurd rfl hv
  | chooseSegment index => exact absurd trivial ha
  | homeAdd game item =>
    simp only [Action.ops, Option.mem_toList, Option.map_eq_some_iff] at hp
    obtain ⟨title, -, rfl⟩ := hp
    exact id
  | detailChoose item =>
    simp only [Action.ops] at hp
    cases hd : s.detail with
    | none => simp [hd] at hp
    | some vc =>
      simp only [hd, Option.map_some, Option.getD_some] at hp
      rcases DetailVC.ops_cases hp with ⟨_, _, -, rfl⟩ | ⟨_, _, _, _, -, rfl⟩ | ⟨_, rfl⟩ | rfl
      · exact id
      · exact id
      · exact id
      · exact id
  | rowMenu row item =>
    simp only [Action.ops] at hp
    split at hp
    · rw [List.mem_singleton.mp hp]
      exact id
    · rw [List.mem_singleton.mp hp]
      exact id
    · cases hp
  | homeOpen game => cases hp
  | profileOpen row => cases hp
  | detailDismiss => cases hp
  | logout => cases hp
  | login => cases hp
  | relaunch => cases hp

/-- A visit to the tab loads the view, if it is not loaded, with the segment at its first title. -/
theorem segment_visitProfile {f : Faults} {s s' : Session} (h : s.step f .visitProfile = .ok s') :
    s.app.profile.collectionView = none ∧ s'.app.profile.selectIndex = 0 ∨ s' = s := by
  cases hc : s.app.profile.collectionView with
  | some n =>
    simp only [Session.step, hc, Except.ok.injEq] at h
    exact .inr h.symm
  | none =>
    simp only [Session.step, hc] at h
    obtain ⟨app, happ, h⟩ := bind_eq_ok_iff.mp h
    cases h
    obtain ⟨t, ht, happ⟩ := bind_eq_ok_iff.mp happ
    cases happ
    exact .inl ⟨rfl, (ProfileController.sameSegment_fetchResults ht).selectIndex⟩

/-- **What an event other than a choice does to the segment**: the view, and the segment with it, is gone; or is
new, or as it was. -/
theorem segment_next {e : Session.Event} (he : ¬e.ChoosesSegment) (s : Session) :
    (s.next e).app.profile.collectionView = none ∨
      (s.app.profile.collectionView = none ∧ (s.next e).app.profile.selectIndex = 0) ∨
      s.app.SameSegment (s.next e).app := by
  cases e with
  | kill => exact .inl rfl
  | enterBackground saveThrows =>
    simp only [Session.next]
    split
    · exact .inr (.inr (.of_profile_eq rfl))
    · exact .inl rfl
  | act a f =>
    cases ha : s.step f a with
    | error t =>
      simp only [Session.next, ha]
      exact .inl rfl
    | ok s' =>
      simp only [Session.next, ha]
      have hrefl : s.app.SameSegment s.app := .of_profile_eq rfl
      by_cases hv : a = .visitProfile
      · subst hv
        rcases segment_visitProfile ha with h | rfl
        · exact .inr (.inl h)
        · exact .inr (.inr hrefl)
      by_cases hroot : Session.setsRoot a = true
      · cases a with
        | login =>
          cases ha
          refine .inr (.inr (.of_profile_eq ?_))
          unfold SceneDelegate.setRootViewTabbar SceneDelegate.updateProfileBadgeValue
          split <;> rfl
        | relaunch =>
          cases ha
          refine .inl ?_
          unfold SceneDelegate.setRootViewTabbar SceneDelegate.updateProfileBadgeValue
          split <;> rfl
        | _ => cases hroot
      · refine .inr (.inr ?_)
        exact run_inv (fun p hp t t' ht ho => ht.trans (sameSegment_exec (not_movesSegment he hv hp) ho)) hrefl
          (Session.step_ops (Bool.eq_false_iff.mpr hroot) ha)

/-! ### The segment and the session -/

namespace Touches

/-- The segment is there with the view, laid out, with the titles of the source, and where the session has it. -/
structure Agrees (s : Touches) : Prop where
  none_iff : s.segment = none ↔ s.session.app.profile.collectionView = none
  laid : ∀ segment ∈ s.segment, segment.Laid
  titles : ∀ segment ∈ s.segment, segment.titles = ProfileController.titles
  selectIndex : ∀ segment ∈ s.segment, segment.selectIndex = s.session.app.profile.selectIndex
  width : ∀ segment ∈ s.segment, 0 ≤ segment.width

theorem agrees_launch : launch.Agrees where
  none_iff := iff_of_true rfl rfl
  laid _ h := by cases h
  titles _ h := by cases h
  selectIndex _ h := by cases h
  width _ h := by cases h

theorem agrees_none {session : Session} (h : session.app.profile.collectionView = none) : Agrees ⟨session, none⟩ where
  none_iff := iff_of_true rfl h
  laid _ h := by cases h
  titles _ h := by cases h
  selectIndex _ h := by cases h
  width _ h := by cases h

theorem agrees_some {session : Session} {segment : PinterestSegment}
    (hc : session.app.profile.collectionView ≠ none) (hl : segment.Laid)
    (ht : segment.titles = ProfileController.titles) (hi : segment.selectIndex = session.app.profile.selectIndex)
    (hw : 0 ≤ segment.width) : Agrees ⟨session, some segment⟩ where
  none_iff := iff_of_false (Option.some_ne_none _) hc
  laid _ h := Option.mem_some_iff.mp h ▸ hl
  titles _ h := Option.mem_some_iff.mp h ▸ ht
  selectIndex _ h := Option.mem_some_iff.mp h ▸ hi
  width _ h := Option.mem_some_iff.mp h ▸ hw

variable {d : Display} {s : Touches}

theorem Agrees.loaded (h : s.Agrees) {segment : PinterestSegment} (hs : s.segment = some segment) :
    s.session.app.profile.collectionView ≠ none := fun hc => by
  rw [h.none_iff.mpr hc] at hs
  cases hs

end Touches

/-- The segment the Profile view is made with. -/
theorem ProfileController.setUISegment_spec (d : Display) : (setUISegment d).Laid ∧ (setUISegment d).titles = titles ∧
    (setUISegment d).selectIndex = 0 ∧ 0 ≤ (setUISegment d).width := by
  -- as `init` leaves it, and then with the other font
  have hmade := PinterestSegment.kept_reloadData
    { style := { titleFont := d.boldSystemFont }, width := d.width - 40, height := 40,
      titleElements := titles.map fun title => { title } } true
  have hl := PinterestSegment.laid_init (PinterestSegment.spaced_of_font d.boldSystemFont) (d.width - 40) 40 titles
  have hi : (PinterestSegment.init (d.width - 40) 40 { titleFont := d.boldSystemFont } titles).selectIndex = 0 :=
    PinterestSegment.selectIndex_reloadData _ true
  have hk : (PinterestSegment.init (d.width - 40) 40 { titleFont := d.boldSystemFont } titles).Kept (setUISegment d) :=
    have hr := PinterestSegment.kept_reloadData { PinterestSegment.init (d.width - 40) 40
      { titleFont := d.boldSystemFont } titles with style := _ } false
    ⟨hr.titleElements, hr.width⟩
  refine ⟨hl.step (e := .setStyle _) ⟨hl.spaced.titleMargin, hl.spaced.titlePendingHorizontal⟩, ?_, ?_, ?_⟩
  · exact congrArg (List.map TitleElement.title) (hk.titleElements.trans hmade.titleElements)
  · exact (PinterestSegment.selectIndex_reloadData _ false).trans hi
  · have hw : (setUISegment d).width = d.width - 40 := hk.width.trans hmade.width
    have := d.room
    linarith

namespace Touches

variable {d : Display} {s : Touches}

/-- Anything but a choice keeps the two in agreement. -/
theorem Agrees.other (h : s.Agrees) {e : Session.Event} (he : ¬e.ChoosesSegment) :
    (withView d s.segment (s.session.next e)).Agrees := by
  unfold withView
  obtain hn | ⟨hc, hi⟩ | hsame := segment_next he s.session
  · rw [hn]
    exact agrees_none hn
  · rw [h.none_iff.mpr hc]
    cases hc' : (s.session.next e).app.profile.collectionView with
    | none => exact agrees_none hc'
    | some n =>
      obtain ⟨hl, ht, h0, hw⟩ := ProfileController.setUISegment_spec d
      exact agrees_some (hc' ▸ Option.some_ne_none n) hl ht (h0.trans hi.symm) hw
  · cases hc' : (s.session.next e).app.profile.collectionView with
    | none => exact agrees_none hc'
    | some n =>
      have hloaded : s.session.app.profile.collectionView ≠ none := fun hc => by
        rw [hsame.collectionView.mpr hc] at hc'
        cases hc'
      cases hs : s.segment with
      | none => exact absurd (h.none_iff.mp hs) hloaded
      | some segment =>
        exact agrees_some (hc' ▸ Option.some_ne_none n) (h.laid segment hs) (h.titles segment hs)
          ((h.selectIndex segment hs).trans hsame.selectIndex.symm) (h.width segment hs)

/-- **What `valueChange` does is what the session does for the choice.** -/
theorem valueChange_eq {index : ℕ} {throws : Bool} {app : App} (hc : app.profile.collectionView ≠ none)
    (hi : index ≠ app.profile.selectIndex) (ht : index < ProfileController.titles.length) :
    ProfileController.valueChange ProfileController.titles index throws { app with profile.selectIndex := index } =
      ProfileController.setSelectIndex index throws app := by
  have htitle := List.getElem?_eq_getElem ht
  rw [ProfileController.setSelectIndex, if_neg hc, if_neg hi, htitle, ProfileController.valueChange,
    subscript_eq_ok_iff.mpr htitle]
  rfl

theorem change_eq (h : s.Agrees) {segment : PinterestSegment} (hs : s.segment = some segment)
    {r : PinterestSegment × Option ℕ} (hf : PinterestSegment.Follows segment.selectIndex r)
    (ht : r.1.titles = segment.titles) (throws : Bool) :
    s.change throws r =
      ⟨r.2.elim s.session fun index => s.session.next (.act (.chooseSegment index) { fetch := throws }), some r.1⟩ := by
  obtain ⟨segment', call⟩ := r
  cases call with
  | none => rfl
  | some index =>
    have hsel : segment'.selectIndex = index := hf.selectIndex
    have hne : index ≠ s.session.app.profile.selectIndex := h.selectIndex segment hs ▸ hf.changed index rfl
    have htitles : segment'.titles = ProfileController.titles := ht.trans (h.titles segment hs)
    have hlt : index < ProfileController.titles.length := htitles ▸ hf.title index rfl
    obtain ⟨app, happ⟩ := ProfileController.setSelectIndex_ok index throws s.session.app
    have hnext : s.session.next (.act (.chooseSegment index) { fetch := throws }) = { s.session with app } := by
      have hstep : s.session.step { fetch := throws } (.chooseSegment index) = .ok { s.session with app } :=
        bind_eq_ok_iff.mpr ⟨app, happ, rfl⟩
      rw [Session.next, hstep]
    simp only [change, hsel, htitles, valueChange_eq (h.loaded hs) hne hlt, happ, Option.elim_some, hnext]

/-- A choice of a title there is leaves the segment at it. -/
theorem selectIndex_choose {index : ℕ} (throws : Bool) {session : Session}
    (hc : session.app.profile.collectionView ≠ none) (ht : index < ProfileController.titles.length) :
    let session' := session.next (.act (.chooseSegment index) { fetch := throws })
    session'.app.profile.collectionView ≠ none ∧ session'.app.profile.selectIndex = index := by
  obtain ⟨app, happ⟩ := ProfileController.setSelectIndex_ok index throws session.app
  have hstep : session.step { fetch := throws } (.chooseSegment index) = .ok { session with app } :=
    bind_eq_ok_iff.mpr ⟨app, happ, rfl⟩
  simp only [Session.next, hstep]
  obtain ⟨hnone | hi | htitle, rfl⟩ | ⟨title, -, -, -, hf⟩ := ProfileController.setSelectIndex_cases happ
  · exact absurd hnone hc
  · exact ⟨hc, hi.symm⟩
  · exact absurd (List.getElem?_eq_none_iff.mp htitle) (Nat.not_le.mpr ht)
  · have hsame := ProfileController.sameSegment_fetchResults hf
    exact ⟨fun hn => hc (hsame.collectionView.mp hn), hsame.selectIndex⟩

/-- A step of the segment, with the choice it comes to. -/
theorem Agrees.change (h : s.Agrees) {segment : PinterestSegment} (hs : s.segment = some segment) {e : SegmentEvent}
    (he : PinterestSegment.SpacedStyle e) (htitles : (segment.step e).1.titleElements = segment.titleElements)
    (hw : 0 ≤ (segment.step e).1.width) (throws : Bool) : (s.change throws (segment.step e)).Agrees := by
  have hl := h.laid segment hs
  have hf := hl.labelled.follows_step e
  have htitles : (segment.step e).1.titles = segment.titles := congrArg (List.map TitleElement.title) htitles
  rw [change_eq h hs hf htitles]
  have hl' : (segment.step e).1.Laid := hl.step he
  generalize segment.step e = r at hf htitles hl' hw
  obtain ⟨segment', call⟩ := r
  have htitles' : segment'.titles = ProfileController.titles := htitles.trans (h.titles segment hs)
  have hsel : segment'.selectIndex = call.getD segment.selectIndex := hf.selectIndex
  cases call with
  | none => exact agrees_some (h.loaded hs) hl' htitles' (hsel.trans (h.selectIndex segment hs)) hw
  | some index =>
    obtain ⟨hc, hi⟩ := selectIndex_choose throws (h.loaded hs) (htitles' ▸ hf.title index rfl)
    exact agrees_some hc hl' htitles' (hsel.trans hi.symm) hw

/-- A new size, or an offset, is no choice. -/
theorem change_none {segment : PinterestSegment} {e : SegmentEvent} (h : (segment.step e).2 = none) (throws : Bool) :
    s.change throws (segment.step e) = { s with segment := some (segment.step e).1 } := by
  rw [Touches.change, h]

/-- **Every event keeps the two in agreement.** -/
theorem Agrees.next (h : s.Agrees) (e : TouchEvent) : (next d e s).Agrees := by
  cases e with
  | other e he => exact h.other he
  | tap x throws =>
    cases hs : s.segment with
    | none => simpa only [Touches.next, hs] using h
    | some segment =>
      simp only [Touches.next, hs]
      split
      · have hk := PinterestSegment.kept_tap x segment
        exact h.change hs (e := .tap x) trivial hk.titleElements (hk.width ▸ h.width segment hs) throws
      · exact h
  | scroll contentOffset =>
    cases hs : s.segment with
    | none => simpa only [Touches.next, hs] using h
    | some segment =>
      simp only [Touches.next, hs]
      split
      · exact h.change hs (e := .scroll contentOffset) trivial rfl (h.width segment hs) false
      · exact h
  | setFrame width height hw =>
    cases hs : s.segment with
    | none => simpa only [Touches.next, hs] using h
    | some segment =>
      have hk := PinterestSegment.kept_setBounds width height segment
      simp only [Touches.next, hs]
      rw [← change_none (PinterestSegment.call_setBounds width height segment) false]
      exact h.change hs (e := .setBounds width height) trivial hk.titleElements (hk.width ▸ hw) false

/-! ### Touches are choices -/

/-- What an event is to the session: a tap is the choice of the title `valueChange` is called with. -/
def said (e : TouchEvent) (s : Touches) : List Session.Event :=
  match e with
  | .other e _ => [e]
  | .tap x throws =>
    match s.segment with
    | none => []
    | some segment =>
      if 0 ≤ x ∧ x ≤ segment.width then
        ((segment.step (.tap x)).2.map fun index => .act (.chooseSegment index) { fetch := throws }).toList
      else []
  | .scroll _ => []
  | .setFrame _ _ _ => []

theorem session_next (h : s.Agrees) (e : TouchEvent) :
    (next d e s).session = reach Session.next (said e s) s.session := by
  cases e with
  | other e he => rfl
  | tap x throws =>
    cases hs : s.segment with
    | none => simp only [next, said, hs, reach_nil]
    | some segment =>
      simp only [next, said, hs]
      split
      · have htitles : (segment.step (.tap x)).1.titles = segment.titles :=
          congrArg (List.map TitleElement.title) (PinterestSegment.kept_tap x segment).titleElements
        rw [change_eq h hs ((h.laid segment hs).labelled.follows_step _) htitles]
        cases (segment.step (.tap x)).2 <;> rfl
      · rfl
  | scroll contentOffset =>
    simp only [next, said, reach_nil]
    split
    · rfl
    · split <;> rfl
  | setFrame width height hw =>
    simp only [next, said, reach_nil]
    split <;> rfl

/-- What a run is to the session. -/
theorem exists_said (h : s.Agrees) (es : List TouchEvent) :
    ∃ evs, (reach (next d) es s).session = reach Session.next evs s.session := by
  induction es generalizing s with
  | nil => exact ⟨[], rfl⟩
  | cons e es ih =>
    obtain ⟨evs, hevs⟩ := ih (h.next (d := d) e)
    refine ⟨said e s ++ evs, ?_⟩
    rw [reach_cons, hevs, session_next h, reach_append]

/-! ### Each choice can be touched -/

/-- The middle of a label is in the view scrolled to it. -/
theorem middle_in_view {segment : PinterestSegment} (hl : segment.Laid) (hw : 0 ≤ segment.width) {i : ℕ}
    {label : CGRect} (hi : segment.titleLabels[i]? = some label) :
    let middle := (label.span.lo + label.span.hi) / 2
    let offset := centred middle segment.width segment.contentSize
    label.span.Contains middle ∧ 0 ≤ middle - offset ∧ middle - offset ≤ segment.width := by
  obtain ⟨hlo, hwidth, hhi⟩ := hl.label_bounds hi
  have hmargin := hl.spaced.titleMargin
  have hspan : label.span.hi = label.x + label.width := rfl
  have hspan' : label.span.lo = label.x := rfl
  have hmax : label.maxX = label.x + label.width := rfl
  refine ⟨⟨by linarith, by linarith⟩, ?_, ?_⟩
  · have hle : centred ((label.span.lo + label.span.hi) / 2) segment.width segment.contentSize ≤
        (label.span.lo + label.span.hi) / 2 :=
      (min_le_left _ _).trans (max_le (by linarith) (by linarith))
    linarith
  · have hle : (label.span.lo + label.span.hi) / 2 - segment.width ≤
        centred ((label.span.lo + label.span.hi) / 2) segment.width segment.contentSize :=
      le_min (le_max_of_le_right (by linarith)) (le_max_of_le_right (by linarith))
    linarith

/-- A title other than that selected is chosen by scrolling to it and tapping it. -/
theorem touch_title (h : s.Agrees) {segment : PinterestSegment} (hs : s.segment = some segment) {index : ℕ}
    (hne : index ≠ segment.selectIndex) (hlt : index < ProfileController.titles.length) (throws : Bool) :
    ∃ es, (reach (next d) es s).session = s.session.next (.act (.chooseSegment index) { fetch := throws }) := by
  have hl := h.laid segment hs
  have hlt : index < segment.titleLabels.length := by
    have hlen := congrArg List.length (h.titles segment hs)
    rw [PinterestSegment.titles, List.length_map, ← hl.labelled] at hlen
    omega
  have hlabel := List.getElem?_eq_getElem hlt
  obtain ⟨hmem, h0, h1⟩ := middle_in_view hl (h.width segment hs) hlabel
  generalize segment.titleLabels[index] = label at hlabel hmem h0 h1
  have hbounds := centred_bounds ((label.span.lo + label.span.hi) / 2) segment.width segment.contentSize
  generalize hm : (label.span.lo + label.span.hi) / 2 = middle at hmem h0 h1 hbounds
  generalize centred middle segment.width segment.contentSize = offset at h0 h1 hbounds
  refine ⟨[.scroll offset, .tap (middle - offset) throws], ?_⟩
  have hscroll : next d (.scroll offset) s = { s with segment := some { segment with contentOffset := offset } } := by
    simp only [next, hs]
    rw [if_pos hbounds]
    rfl
  have ha : Agrees { s with segment := some { segment with contentOffset := offset } } := hscroll ▸ h.next _
  have hcall : (PinterestSegment.step (.tap (middle - offset)) { segment with contentOffset := offset }).2 =
      some index := by
    refine ((ha.laid _ rfl).tapped (middle - offset)).called index |>.mpr ⟨hne, label, hlabel, ?_⟩
    show label.span.Contains (middle - offset + offset)
    rwa [sub_add_cancel]
  rw [reach_cons, hscroll, reach_cons, reach_nil, session_next ha]
  simp only [said]
  rw [if_pos ⟨h0, h1⟩, hcall]
  rfl

/-- **Each choice is reached by touches.** -/
theorem exists_touches (h : s.Agrees) (e : Session.Event) :
    ∃ es, (reach (next d) es s).session = s.session.next e := by
  by_cases he : e.ChoosesSegment
  · cases e with
    | act a f =>
      cases a with
      | chooseSegment index =>
        have hsame : s.session.next (.act (.chooseSegment index) f) =
            s.session.next (.act (.chooseSegment index) { fetch := f.fetch }) := rfl
        rw [hsame]
        obtain ⟨app, happ⟩ := ProfileController.setSelectIndex_ok index f.fetch s.session.app
        obtain ⟨hnothing, rfl⟩ | ⟨title, hc, hne, htitle, -⟩ := ProfileController.setSelectIndex_cases happ
        · -- the choice does nothing
          have hstep : s.session.step { fetch := f.fetch } (.chooseSegment index) = .ok s.session :=
            bind_eq_ok_iff.mpr ⟨_, happ, rfl⟩
          exact ⟨[], by rw [Session.next, hstep]; rfl⟩
        · cases hs : s.segment with
          | none => exact absurd (h.none_iff.mp hs) hc
          | some segment =>
            exact touch_title h hs (h.selectIndex segment hs ▸ hne) (List.getElem?_eq_some_iff.mp htitle).1 f.fetch
      | _ => exact he.elim
    | _ => exact he.elim
  · exact ⟨[.other e he], rfl⟩

theorem agrees_reach (d : Display) (es : List TouchEvent) : (reach (next d) es launch).Agrees :=
  reach_inv (fun e _ h => h.next e) es agrees_launch

/-- **The sessions that touches reach are those that choices reach.** On any display, the states of a session in which
the user scrolls and taps the segment, and its frame is set, are those of a session in which the user
chooses segments by index: so what holds in every state of a session holds in every state of the screen. -/
theorem touched_iff (d : Display) (s : Session) :
    (∃ es, (reach (next d) es launch).session = s) ↔ ∃ es, reach Session.next es Session.launch = s := by
  constructor
  · rintro ⟨es, rfl⟩
    obtain ⟨evs, hevs⟩ := exists_said (d := d) agrees_launch es
    exact ⟨evs, hevs.symm⟩
  · rintro ⟨evs, rfl⟩
    induction evs using List.reverseRecOn with
    | nil => exact ⟨[], rfl⟩
    | append_singleton evs e ih =>
      obtain ⟨es, hes⟩ := ih
      obtain ⟨es', hes'⟩ := exists_touches (d := d) (agrees_reach d es) e
      refine ⟨es ++ es', ?_⟩
      rw [reach_append, hes', hes, reach_append]
      rfl

end Touches

end Booster
