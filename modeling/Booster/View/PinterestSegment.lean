import Booster.Theory.Run
import Booster.Theory.Spans
import Mathlib.Algebra.Order.Ring.Rat
import Mathlib.Data.List.Chain
import Mathlib.Tactic.Positivity
import Mathlib.Tactic.Ring

/-!
# The segment

`PinterestSegment` lays its titles out as labels in a scroll view, `titleMargin` between neighbours, and
a tap selects the title whose label it is on: the view scrolls to it, the indicator moves to
it, and `valueChange` is called. Setting the style, the size or the titles lays the labels
out again.

There is always a label for each title (`Labelled`), so `valueChange` is called when the selected index
changes, and only then (`calls_follow`). The index is not changed with the titles, so it can be past the last.
When the styles keep the labels apart, `Laid` is what any of these keeps; so a tap, of which only the `x` is
read, is on one label at most, and selects it and shows it whole (`tap_selects`).

The looks of the labels are left out. What a text measures is read off the font.
-/

namespace Booster

open Theory

/-- A `UIFont`. -/
structure TitleFont where
  /-- `lineHeight`. -/
  lineHeight : ℚ
  /-- The width of `boundingRect` for a text. -/
  width : String → ℚ
  lineHeight_nonneg : 0 ≤ lineHeight
  width_nonneg (text : String) : 0 ≤ width text

/-- `PinterestSegmentStyle`. -/
structure PinterestSegmentStyle where
  titleMargin : ℚ := 16
  titlePendingHorizontal : ℚ := 14
  titlePendingVertical : ℚ := 14
  titleFont : TitleFont
  minimumWidth : Option ℚ := none

/-- `TitleElement`. -/
structure TitleElement where
  title : String
  /-- Whether there is a `selectedImage`. -/
  selectedImage : Bool := false
  /-- Whether there is a `normalImage`. -/
  normalImage : Bool := false

/-- A `CGRect`. One of a negative size is not standardized, as no label of a `Spaced` style has one. -/
structure CGRect where
  x : ℚ
  y : ℚ
  width : ℚ
  height : ℚ

/-- `maxX`. -/
def CGRect.maxX (r : CGRect) : ℚ := r.x + r.width

/-- What is between `minX` and `maxX`. -/
def CGRect.span (r : CGRect) : Span ℚ := ⟨r.x, r.maxX⟩

/-- `PinterestSegment`. -/
structure PinterestSegment where
  /-- `style`. -/
  style : PinterestSegmentStyle
  /-- `bounds.width`. -/
  width : ℚ
  /-- `bounds.height`. -/
  height : ℚ
  /-- `_titleElements`. -/
  titleElements : List TitleElement
  /-- The frames of `titleLabels`. -/
  titleLabels : List CGRect := []
  /-- `selectIndex`. -/
  selectIndex : ℕ := 0
  /-- `scrollView.contentOffset.x`. -/
  contentOffset : ℚ := 0
  /-- `scrollView.contentSize.width`. -/
  contentSize : ℚ := 0
  /-- The frame of `indicator`, and of `selectedLabelsMaskView`. -/
  indicator : CGRect := ⟨0, 0, 0, 0⟩
  /-- Whether there is a gesture recogniser for taps. -/
  tapGesture : Bool := false

/-- What happens to a segment. -/
inductive SegmentEvent where
  /-- A tap, at `gesture.location(in: self).x`. -/
  | tap (x : ℚ)
  /-- The user scrolls. -/
  | scroll (contentOffset : ℚ)
  /-- `style` is set. -/
  | setStyle (style : PinterestSegmentStyle)
  /-- `frame` or `bounds` is set. -/
  | setBounds (width height : ℚ)
  /-- `titles` is set, or `setRichTextTitles` called. -/
  | setTitles (titles : List TitleElement)
  /-- `setSelectIndex(index:animated:)` is called. -/
  | setSelectIndex (index : ℤ)

namespace PinterestSegmentStyle

/-- `toToSize`. -/
def toToSize (style : PinterestSegmentStyle) (text : String) : ℚ :=
  let result := style.titleFont.width text
  match style.minimumWidth with
  | some minWidth => if result < minWidth then minWidth else result
  | none => result

/-- `titleW`. -/
def titleW (style : PinterestSegmentStyle) (item : TitleElement) : ℚ :=
  let titlePendingHorizontal :=
    if item.normalImage || item.selectedImage then style.titlePendingHorizontal + style.titleFont.lineHeight
    else style.titlePendingHorizontal
  style.toToSize item.title + titlePendingHorizontal * 2

/-- `titleH`. -/
def titleH (style : PinterestSegmentStyle) (titleElements : List TitleElement) : ℚ :=
  if titleElements.any TitleElement.normalImage || titleElements.any TitleElement.selectedImage then
    style.titleFont.lineHeight + style.titlePendingVertical
  else style.titleFont.lineHeight

/-- A turn of the loop of `reloadData`: the label of a title, after the last. -/
def addLabel (style : PinterestSegmentStyle) (titleY titleH : ℚ) (titleLabels : List CGRect) (item : TitleElement) :
    List CGRect :=
  let titleX := (titleLabels.getLast?.map CGRect.maxX).getD 0 + style.titleMargin
  titleLabels ++ [⟨titleX, titleY, style.titleW item, titleH⟩]

end PinterestSegmentStyle

namespace PinterestSegment

/-- `titles`. -/
def titles (s : PinterestSegment) : List String := s.titleElements.map TitleElement.title

/-- `clearData`. -/
def clearData (s : PinterestSegment) : PinterestSegment := { s with titleLabels := [], tapGesture := false }

/-- `setSelectIndex(index:animated:sendAction:forceUpdate:)`, and what `valueChange` is called with,
if it is. -/
def setSelectIndex (index : ℤ) (sendAction forceUpdate : Bool) (s : PinterestSegment) : PinterestSegment × Option ℕ :=
  if (index ≠ s.selectIndex ∨ forceUpdate) ∧ 0 ≤ index then
    match s.titleLabels[index.toNat]? with
    | none => (s, none)
    | some currentLabel =>
      let offSetX := min (max 0 (currentLabel.x + currentLabel.width / 2 - s.width / 2))
        (max 0 (s.contentSize - s.width))
      ({ s with
        contentOffset := offSetX
        indicator := { s.indicator with x := currentLabel.x, width := currentLabel.width }
        selectIndex := index.toNat }, if sendAction then some index.toNat else none)
  else (s, none)

/-- `reloadData`. -/
def reloadData (sendAction : Bool) (s : PinterestSegment) : PinterestSegment × Option ℕ :=
  let s := s.clearData
  let titleH := s.style.titleH s.titleElements
  let titleY := (s.height - titleH) / 2
  let coverH := s.style.titleFont.lineHeight + s.style.titlePendingVertical
  match s.titleElements.foldl (s.style.addLabel titleY titleH) [] with
  -- `guard titles.count > 0`
  | [] => (s, none)
  | first :: rest =>
    { s with
      titleLabels := first :: rest
      contentSize := ((first :: rest).getLast?.map CGRect.maxX).getD 0 + s.style.titleMargin
      indicator := ⟨first.x, (s.height - coverH) / 2, first.width, coverH⟩
      tapGesture := true : PinterestSegment }.setSelectIndex s.selectIndex sendAction true

/-- `handleTapGesture`. -/
def handleTapGesture (x : ℚ) (s : PinterestSegment) : PinterestSegment × Option ℕ :=
  let x := x + s.contentOffset
  match s.titleLabels.findIdx? fun label => label.x ≤ x ∧ x ≤ label.maxX with
  | some i => s.setSelectIndex i true false
  | none => (s, none)

/-- `init(frame:segmentStyle:titles:)`. There is no `valueChange` yet to call. -/
def init (width height : ℚ) (style : PinterestSegmentStyle) (titles : List String) : PinterestSegment :=
  (reloadData true { style, width, height, titleElements := titles.map fun title => { title } }).1

/-- The state after an event, and what `valueChange` is called with. -/
def step : SegmentEvent → PinterestSegment → PinterestSegment × Option ℕ
  | .tap x, s => if s.tapGesture then s.handleTapGesture x else (s, none)
  | .scroll contentOffset, s => ({ s with contentOffset }, none)
  | .setStyle style, s => { s with style }.reloadData false
  | .setBounds width height, s =>
    if width = s.width ∧ height = s.height then (s, none) else { s with width, height }.reloadData false
  | .setTitles titles, s => { s with titleElements := titles }.reloadData false
  | .setSelectIndex index, s => s.setSelectIndex index true false

/-! ### One step -/

/-- **What `setSelectIndex` can do**: select a title there is, or nothing. -/
theorem setSelectIndex_cases (index : ℤ) (sendAction forceUpdate : Bool) (s : PinterestSegment) :
    (∃ (i : ℕ) (label : CGRect), index = i ∧ (i ≠ s.selectIndex ∨ forceUpdate = true) ∧ s.titleLabels[i]? = some label ∧
      s.setSelectIndex index sendAction forceUpdate =
        ({ s with
          contentOffset := centred ((label.span.lo + label.span.hi) / 2) s.width s.contentSize
          indicator := { s.indicator with x := label.x, width := label.width }
          selectIndex := i }, if sendAction then some i else none)) ∨
    ((index = s.selectIndex ∧ forceUpdate = false ∨ ∀ i : ℕ, index = i → s.titleLabels[i]? = none) ∧
      s.setSelectIndex index sendAction forceUpdate = (s, none)) := by
  unfold setSelectIndex
  by_cases hg : (index ≠ s.selectIndex ∨ forceUpdate = true) ∧ 0 ≤ index
  · obtain ⟨i, rfl⟩ := Int.eq_ofNat_of_zero_le hg.2
    rw [if_pos hg, Int.toNat_natCast]
    cases hl : s.titleLabels[i]? with
    | none =>
      refine .inr ⟨.inr fun j hj => ?_, rfl⟩
      rwa [← Int.ofNat_inj.mp hj]
    | some label =>
      refine .inl ⟨i, label, rfl, hg.1.imp_left fun h hi => h (congrArg Nat.cast hi), hl, ?_⟩
      have hmiddle : (label.span.lo + label.span.hi) / 2 = label.x + label.width / 2 := by
        simp only [CGRect.span, CGRect.maxX]
        ring
      rw [hmiddle]
      rfl
  · refine .inr ⟨?_, if_neg hg⟩
    rcases not_and_or.mp hg with h | h
    · obtain ⟨hi, hf⟩ := not_or.mp h
      exact .inl ⟨not_not.mp hi, Bool.eq_false_iff.mpr hf⟩
    · refine .inr fun i hi => absurd (hi ▸ Int.natCast_nonneg i) h

/-- The labels of the loop are placed one after another. -/
theorem spans_foldl (style : PinterestSegmentStyle) (titleY titleH : ℚ) (items : List TitleElement)
    (titleLabels : List CGRect) :
    (items.foldl (style.addLabel titleY titleH) titleLabels).map CGRect.span = titleLabels.map CGRect.span ++
      place style.titleMargin ((titleLabels.getLast?.map CGRect.maxX).getD 0) (items.map style.titleW) := by
  induction items generalizing titleLabels with
  | nil => simp [place]
  | cons item items ih =>
    rw [List.foldl_cons, ih]
    simp [PinterestSegmentStyle.addLabel, place, CGRect.span, CGRect.maxX]

end PinterestSegment

/-- Labels of the style are apart, and not narrower than their titles. -/
structure PinterestSegmentStyle.Spaced (style : PinterestSegmentStyle) : Prop where
  titleMargin : 0 < style.titleMargin
  titlePendingHorizontal : 0 ≤ style.titlePendingHorizontal

/-- A label of such a style has no negative width. -/
theorem PinterestSegmentStyle.Spaced.titleW {style : PinterestSegmentStyle} (h : style.Spaced) (item : TitleElement) :
    0 ≤ style.titleW item := by
  have hsize : 0 ≤ style.toToSize item.title := by
    have hw := style.titleFont.width_nonneg item.title
    unfold toToSize
    dsimp only
    split
    · split
      · linarith
      · exact hw
    · exact hw
  have hp := h.titlePendingHorizontal
  have hl := style.titleFont.lineHeight_nonneg
  unfold PinterestSegmentStyle.titleW
  dsimp only
  split
  · linarith
  · linarith

namespace PinterestSegment

/-! ### What every event keeps -/

/-- The widths of the labels. -/
def widths (s : PinterestSegment) : List ℚ := s.titleElements.map s.style.titleW

/-- There is a label for each title. -/
def Labelled (s : PinterestSegment) : Prop := s.titleLabels.length = s.titleElements.length

/-- The labels are laid out. -/
structure Placed (s : PinterestSegment) : Prop where
  spaced : s.style.Spaced
  /-- The labels are placed one after another. -/
  labels : s.titleLabels.map CGRect.span = place s.style.titleMargin 0 s.widths
  /-- The content ends a margin after the last. -/
  contentSize : s.titleElements ≠ [] → s.contentSize = finish s.style.titleMargin 0 s.widths + s.style.titleMargin
  /-- Taps are recognised. -/
  tapGesture : s.titleElements ≠ [] → s.tapGesture = true

/-- The labels are laid out, and the indicator is on that of the selected title; or on the first, when there
are fewer titles. -/
structure Laid (s : PinterestSegment) : Prop extends Placed s where
  indicator : ∀ label ∈ s.titleLabels[s.selectIndex]?.or s.titleLabels.head?,
    s.indicator.x = label.x ∧ s.indicator.width = label.width

variable {s : PinterestSegment}

/-- Selecting a title puts the indicator on it. -/
theorem Placed.select (h : s.Placed) {i : ℕ} {label : CGRect} (hl : s.titleLabels[i]? = some label)
    (contentOffset : ℚ) :
    Laid { s with
      contentOffset
      indicator := { s.indicator with x := label.x, width := label.width }
      selectIndex := i } where
  toPlaced := ⟨h.spaced, h.labels, h.contentSize, h.tapGesture⟩
  indicator label' hl' := by
    have hl' : label' ∈ s.titleLabels[i]?.or s.titleLabels.head? := hl'
    rw [hl, Option.some_or, Option.mem_some_iff] at hl'
    rw [← hl']
    exact ⟨rfl, rfl⟩

theorem Laid.setSelectIndex (h : s.Laid) (index : ℤ) (sendAction forceUpdate : Bool) :
    (s.setSelectIndex index sendAction forceUpdate).1.Laid := by
  obtain ⟨i, label, -, -, hl, he⟩ | ⟨-, he⟩ := setSelectIndex_cases index sendAction forceUpdate s
  · rw [he]
    exact h.select hl _
  · rw [he]
    exact h

/-- Laying the labels out again, in whatever state. -/
theorem laid_reloadData (h : s.style.Spaced) (sendAction : Bool) : (s.reloadData sendAction).1.Laid := by
  have hspans := spans_foldl s.style ((s.height - s.style.titleH s.titleElements) / 2)
    (s.style.titleH s.titleElements) s.titleElements []
  unfold reloadData
  dsimp only [clearData]
  split
  next hnil =>
    rw [hnil] at hspans
    have hlen : 0 = s.titleElements.length := by simpa using congrArg List.length hspans
    have hempty : s.titleElements = [] := List.length_eq_zero_iff.mp hlen.symm
    exact ⟨⟨h, hspans, fun hne => absurd hempty hne, fun hne => absurd hempty hne⟩, fun label hl => by cases hl⟩
  next first rest hcons =>
    rw [hcons] at hspans
    have hfinish : ((first :: rest).getLast?.map CGRect.maxX).getD 0 = finish s.style.titleMargin 0 s.widths := by
      have hspans : (first :: rest).map CGRect.span = place s.style.titleMargin 0 s.widths := hspans
      rw [finish_eq, ← hspans, List.getLast?_map, Option.map_map]
      rfl
    generalize hr : ({ s with
      titleLabels := first :: rest
      contentSize := ((first :: rest).getLast?.map CGRect.maxX).getD 0 + s.style.titleMargin
      indicator := ⟨first.x, _, first.width, _⟩
      tapGesture := true : PinterestSegment }) = r
    have hplaced : r.Placed := by
      subst hr
      exact ⟨h, hspans, fun _ => by rw [hfinish]; rfl, fun _ => rfl⟩
    obtain ⟨i, label, -, -, hl, he⟩ | ⟨hout, he⟩ := setSelectIndex_cases s.selectIndex sendAction true r
    · rw [he]
      exact hplaced.select hl _
    · -- there are fewer titles
      rw [he]
      have hnone : r.titleLabels[s.selectIndex]? = none :=
        hout.resolve_left (fun hf => by cases hf.2) s.selectIndex rfl
      subst hr
      refine ⟨hplaced, fun label hl => ?_⟩
      rw [hnone, Option.none_or] at hl
      cases hl
      exact ⟨rfl, rfl⟩

/-- The styles given to a segment are spaced. -/
def SpacedStyle : SegmentEvent → Prop
  | .setStyle style => style.Spaced
  | _ => True

/-- **Every event keeps the labels laid out.** -/
theorem Laid.step (h : s.Laid) {e : SegmentEvent} (he : SpacedStyle e) : (step e s).1.Laid := by
  cases e with
  | tap x =>
    unfold PinterestSegment.step handleTapGesture
    dsimp only
    split
    · split
      · exact h.setSelectIndex _ _ _
      · exact h
    · exact h
  | scroll contentOffset => exact ⟨⟨h.spaced, h.labels, h.contentSize, h.tapGesture⟩, h.indicator⟩
  | setStyle style => exact laid_reloadData (s := { s with style }) he false
  | setBounds width height =>
    unfold PinterestSegment.step
    dsimp only
    split
    · exact h
    · exact laid_reloadData (s := { s with width, height }) h.spaced false
  | setTitles titles => exact laid_reloadData (s := { s with titleElements := titles }) h.spaced false
  | setSelectIndex index => exact h.setSelectIndex _ _ _

/-- The titles and the width are what they were. -/
structure Kept (s s' : PinterestSegment) : Prop where
  titleElements : s'.titleElements = s.titleElements
  width : s'.width = s.width

theorem kept_setSelectIndex (index : ℤ) (sendAction forceUpdate : Bool) (s : PinterestSegment) :
    s.Kept (s.setSelectIndex index sendAction forceUpdate).1 := by
  obtain ⟨i, label, -, -, -, he⟩ | ⟨-, he⟩ := setSelectIndex_cases index sendAction forceUpdate s
  · rw [he]
    exact ⟨rfl, rfl⟩
  · rw [he]
    exact ⟨rfl, rfl⟩

theorem kept_reloadData (s : PinterestSegment) (sendAction : Bool) : s.Kept (s.reloadData sendAction).1 := by
  unfold reloadData
  dsimp only
  split
  · exact ⟨rfl, rfl⟩
  · have hk := kept_setSelectIndex s.clearData.selectIndex sendAction true
    exact ⟨(hk _).titleElements, (hk _).width⟩

/-- What a touch or a program's choice leaves of the titles and the width. -/
theorem kept_tap (x : ℚ) (s : PinterestSegment) : s.Kept (step (.tap x) s).1 := by
  unfold step handleTapGesture
  dsimp only
  split
  · split
    · exact kept_setSelectIndex ..
    · exact ⟨rfl, rfl⟩
  · exact ⟨rfl, rfl⟩

/-- A new size leaves the titles. -/
theorem kept_setBounds (width height : ℚ) (s : PinterestSegment) :
    Kept { s with width } (step (.setBounds width height) s).1 := by
  unfold step
  dsimp only
  split
  next h => exact ⟨rfl, h.1.symm⟩
  · have hk := kept_reloadData { s with width, height } false
    exact ⟨hk.titleElements, hk.width⟩

theorem laid_init {style : PinterestSegmentStyle} (h : style.Spaced) (width height : ℚ) (titles : List String) :
    (init width height style titles).Laid :=
  laid_reloadData h true

theorem Placed.labelled (h : s.Placed) : s.Labelled := by
  simpa [Labelled, widths] using congrArg List.length h.labels

/-- The labels are apart. -/
theorem Placed.pairwise (h : s.Placed) :
    (s.titleLabels.map CGRect.span).Pairwise (Span.Before s.style.titleMargin) := by
  rw [h.labels]
  refine place_pairwise h.spaced.titleMargin.le (fun w hw => ?_) 0
  obtain ⟨item, -, rfl⟩ := List.mem_map.mp hw
  exact h.spaced.titleW item

/-- The labels are in the content, a margin from its ends. -/
theorem Placed.label_bounds (h : s.Placed) {i : ℕ} {label : CGRect} (hl : s.titleLabels[i]? = some label) :
    s.style.titleMargin ≤ label.x ∧ 0 ≤ label.width ∧ label.maxX + s.style.titleMargin ≤ s.contentSize := by
  have hlt : i < s.titleElements.length := by
    rw [← h.labelled]
    exact (List.getElem?_eq_some_iff.mp hl).1
  have hw : ∀ w ∈ s.widths, 0 ≤ w := fun w hw => by
    obtain ⟨item, -, rfl⟩ := List.mem_map.mp hw
    exact h.spaced.titleW item
  have hmem : label.span ∈ place s.style.titleMargin 0 s.widths := by
    rw [← h.labels]
    exact List.mem_map_of_mem (List.mem_of_getElem? hl)
  obtain ⟨hlo, hhi, hfin⟩ := (place_bounds h.spaced.titleMargin.le hw 0).2 _ hmem
  have hlo : 0 + s.style.titleMargin ≤ label.x := hlo
  have hhi : label.x ≤ label.x + label.width := hhi
  rw [h.contentSize (List.ne_nil_of_length_pos (Nat.zero_lt_of_lt hlt))]
  exact ⟨by linarith, by linarith, add_le_add_left hfin _⟩

/-- The view scrolled to a label shows it, if it is no wider. -/
theorem Placed.shows (h : s.Placed) {i : ℕ} {label : CGRect} (hl : s.titleLabels[i]? = some label)
    (hfit : label.width ≤ s.width) :
    centred ((label.span.lo + label.span.hi) / 2) s.width s.contentSize ≤ label.x ∧
      label.maxX ≤ centred ((label.span.lo + label.span.hi) / 2) s.width s.contentSize + s.width := by
  obtain ⟨hlo, -, hhi⟩ := h.label_bounds hl
  have hmargin := h.spaced.titleMargin
  refine centred_shows (s := label.span) (hmargin.le.trans hlo) ?_ ?_
  · show label.maxX ≤ s.contentSize
    linarith
  · show label.x + label.width - label.x ≤ s.width
    linarith

/-! ### A label for each title -/

theorem Labelled.setSelectIndex (h : s.Labelled) (index : ℤ) (sendAction forceUpdate : Bool) :
    (s.setSelectIndex index sendAction forceUpdate).1.Labelled := by
  obtain ⟨i, label, -, -, -, he⟩ | ⟨-, he⟩ := setSelectIndex_cases index sendAction forceUpdate s
  · rw [he]
    exact h
  · rw [he]
    exact h

/-- The labels are made anew, whatever they were. -/
theorem labelled_reloadData (s : PinterestSegment) (sendAction : Bool) : (s.reloadData sendAction).1.Labelled := by
  have hspans := spans_foldl s.style ((s.height - s.style.titleH s.titleElements) / 2)
    (s.style.titleH s.titleElements) s.titleElements []
  have hlen := congrArg List.length hspans
  simp only [List.length_map, List.length_append, List.length_nil, length_place, Nat.zero_add] at hlen
  unfold reloadData
  dsimp only [clearData]
  split
  next hnil =>
    rw [hnil] at hlen
    exact hlen
  next first rest hcons =>
    rw [hcons] at hlen
    exact Labelled.setSelectIndex (by exact hlen) _ _ _

/-- **Every event leaves a label for each title.** -/
theorem Labelled.step (h : s.Labelled) (e : SegmentEvent) : (step e s).1.Labelled := by
  cases e with
  | tap x =>
    unfold PinterestSegment.step handleTapGesture
    dsimp only
    split
    · split
      · exact h.setSelectIndex _ _ _
      · exact h
    · exact h
  | scroll contentOffset => exact h
  | setStyle style => exact labelled_reloadData _ false
  | setBounds width height =>
    unfold PinterestSegment.step
    dsimp only
    split
    · exact h
    · exact labelled_reloadData _ false
  | setTitles titles => exact labelled_reloadData _ false
  | setSelectIndex index => exact h.setSelectIndex _ _ _

/-! ### What `valueChange` is called with -/

/-- A step ends on the index it called `valueChange` with, a title's and not that before; or on that before. -/
structure Follows (before : ℕ) (r : PinterestSegment × Option ℕ) : Prop where
  selectIndex : r.1.selectIndex = r.2.getD before
  changed : ∀ i ∈ r.2, i ≠ before
  title : ∀ i ∈ r.2, i < r.1.titles.length

theorem follows_none {before : ℕ} (h : s.selectIndex = before) : Follows before (s, none) where
  selectIndex := h
  changed i hi := by cases hi
  title i hi := by cases hi

theorem Labelled.follows_setSelectIndex (h : s.Labelled) (index : ℤ) :
    Follows s.selectIndex (s.setSelectIndex index true false) := by
  obtain ⟨i, label, -, hne, hl, he⟩ | ⟨-, he⟩ := setSelectIndex_cases index true false s
  · rw [he]
    refine ⟨rfl, fun j hj => ?_, fun j hj => ?_⟩
    · cases hj
      exact hne.resolve_right Bool.false_ne_true
    · cases hj
      show i < (s.titleElements.map TitleElement.title).length
      rw [List.length_map, ← h]
      exact (List.getElem?_eq_some_iff.mp hl).1
  · rw [he]
    exact follows_none rfl

/-- Laying the labels out again leaves the selected index. -/
theorem selectIndex_reloadData (s : PinterestSegment) (sendAction : Bool) :
    (s.reloadData sendAction).1.selectIndex = s.selectIndex := by
  unfold reloadData
  dsimp only [clearData]
  split
  · rfl
  · obtain ⟨i, label, hi, -, -, he⟩ | ⟨-, he⟩ := setSelectIndex_cases s.selectIndex sendAction true _
    · rw [he]
      exact (Int.ofNat_inj.mp hi).symm
    · rw [he]

/-- Laying the labels out again calls nothing, when no action is to be sent. -/
theorem call_reloadData (s : PinterestSegment) : (s.reloadData false).2 = none := by
  unfold reloadData
  dsimp only
  split
  · rfl
  · obtain ⟨i, label, -, -, -, he⟩ | ⟨-, he⟩ := setSelectIndex_cases s.clearData.selectIndex false true _
    · rw [he]
      rfl
    · rw [he]

theorem follows_reloadData (s : PinterestSegment) : Follows s.selectIndex (s.reloadData false) := by
  have hs := selectIndex_reloadData s false
  have hc := call_reloadData s
  generalize s.reloadData false = r at hs hc
  obtain ⟨s', call⟩ := r
  cases hc
  exact follows_none hs

theorem Labelled.follows_step (h : s.Labelled) (e : SegmentEvent) : Follows s.selectIndex (s.step e) := by
  cases e with
  | tap x =>
    unfold PinterestSegment.step handleTapGesture
    dsimp only
    split
    · split
      · exact h.follows_setSelectIndex _
      · exact follows_none rfl
    · exact follows_none rfl
  | scroll contentOffset => exact follows_none rfl
  | setStyle style => exact follows_reloadData { s with style }
  | setBounds width height =>
    unfold PinterestSegment.step
    dsimp only
    split
    · exact follows_none rfl
    · exact follows_reloadData { s with width, height }
  | setTitles titles => exact follows_reloadData { s with titleElements := titles }
  | setSelectIndex index => exact h.follows_setSelectIndex index

/-- Nor does a new size. -/
theorem call_setBounds (width height : ℚ) (s : PinterestSegment) : (step (.setBounds width height) s).2 = none := by
  unfold step
  dsimp only
  split
  · rfl
  · exact call_reloadData _

/-- A segment, and the calls of `valueChange` so far: the index, and the title it has then. -/
abbrev Observed := PinterestSegment × List (ℕ × Option String)

/-- The state and the calls after an event. -/
def observe (e : SegmentEvent) (o : Observed) : Observed :=
  ((step e o.1).1, o.2 ++ ((step e o.1).2.map fun i => (i, (step e o.1).1.titles[i]?)).toList)

/-- What a run keeps of the calls, `first` being the index before it. -/
structure Called (first : ℕ) (o : Observed) : Prop where
  labelled : o.1.Labelled
  chain : (first :: o.2.map Prod.fst).IsChain (· ≠ ·)
  last : (first :: o.2.map Prod.fst).getLast? = some o.1.selectIndex
  title : ∀ p ∈ o.2, p.2 ≠ none

theorem Called.observe {first : ℕ} {o : Observed} (h : Called first o) (e : SegmentEvent) :
    Called first (observe e o) := by
  have hf := h.labelled.follows_step e
  have hlabelled : (step e o.1).1.Labelled := h.labelled.step e
  unfold PinterestSegment.observe
  generalize step e o.1 = r at hf hlabelled ⊢
  obtain ⟨s', call⟩ := r
  cases call with
  | none =>
    have hs : s'.selectIndex = o.1.selectIndex := hf.selectIndex
    simp only [Option.map_none, Option.toList_none, List.append_nil]
    exact ⟨hlabelled, h.chain, hs ▸ h.last, h.title⟩
  | some i =>
    have hs : s'.selectIndex = i := hf.selectIndex
    have hne : i ≠ o.1.selectIndex := hf.changed i rfl
    have ht : i < s'.titles.length := hf.title i rfl
    have hmap : first :: (o.2 ++ [(i, s'.titles[i]?)]).map Prod.fst = (first :: o.2.map Prod.fst) ++ [i] := by simp
    refine ⟨hlabelled, ?_, ?_, fun p hp => ?_⟩
    · simp only [Option.map_some, Option.toList_some]
      rw [hmap]
      refine List.isChain_append.mpr ⟨h.chain, List.isChain_singleton i, fun x hx y hy => ?_⟩
      rw [h.last] at hx
      cases hx
      cases hy
      exact hne.symm
    · simp only [Option.map_some, Option.toList_some]
      rw [hmap, List.getLast?_concat, hs]
    · rcases List.mem_append.mp hp with hp | hp
      · exact h.title p hp
      · rw [List.mem_singleton.mp hp]
        exact fun hnone => absurd ht (Nat.not_lt.mpr (List.getElem?_eq_none_iff.mp hnone))

/-- **`valueChange` follows the selected index.** In every run of a segment from its making (taps, scrolling, new
styles, sizes and titles, selections by the program, in any order), each call of `valueChange` is with an index other
than the one before it, the first call's other than 0; the last was with the index selected, which is 0 if there was
none; and at each there is a title of that index, as the handler that reads `titles[index]` needs. -/
theorem calls_follow (style : PinterestSegmentStyle) (width height : ℚ) (titles : List String)
    (es : List SegmentEvent) :
    let o := reach observe es (init width height style titles, [])
    (0 :: o.2.map Prod.fst).IsChain (· ≠ ·) ∧ (0 :: o.2.map Prod.fst).getLast? = some o.1.selectIndex ∧
      ∀ p ∈ o.2, p.2 ≠ none := by
  intro o
  have hinit : Called 0 (init width height style titles, []) := by
    refine ⟨labelled_reloadData _ true, List.isChain_singleton 0, ?_, fun p hp => by cases hp⟩
    have hs : (init width height style titles).selectIndex = 0 := selectIndex_reloadData _ true
    rw [hs]
    rfl
  have hcalled : Called 0 o := reach_inv (fun e _ ho => ho.observe e) es hinit
  exact ⟨hcalled.chain, hcalled.last, hcalled.title⟩

/-- A style as made is spaced. -/
theorem spaced_of_font (titleFont : TitleFont) : PinterestSegmentStyle.Spaced { titleFont } where
  titleMargin := show (0 : ℚ) < 16 by norm_num
  titlePendingHorizontal := show (0 : ℚ) ≤ 14 by norm_num

/-- A font whose letters are 8 points wide. -/
def eightPoint : TitleFont := ⟨17, fun text => 8 * text.length, by norm_num, fun _ => by positivity⟩

-- a title is tapped, and tapped again; the titles are cut to the first, and it is tapped
example : (reach observe [.tap 100, .tap 100, .setTitles [{ title := "All" }], .tap 30]
    (init 300 40 { titleFont := eightPoint } ["All", "Played"], [])).2 = [(1, some "Played"), (0, some "All")] := by
  decide +kernel

/-- The label a tap is on, is found by a scan. -/
theorem findIdx?_eq_scan (x : ℚ) (titleLabels : List CGRect) :
    titleLabels.findIdx? (fun label => label.x ≤ x ∧ x ≤ label.maxX) = scan x (titleLabels.map CGRect.span) := by
  rw [scan, List.findIdx?_map]
  rfl

/-- What a tap at `x` comes to. -/
structure Tapped (s : PinterestSegment) (x : ℚ) (r : PinterestSegment × Option ℕ) : Prop where
  /-- `valueChange` is called with the title whose label the tap is on, unless that is selected. -/
  called : ∀ i, r.2 = some i ↔ i ≠ s.selectIndex ∧
    ∃ label, s.titleLabels[i]? = some label ∧ label.span.Contains (x + s.contentOffset)
  /-- That title is selected, and otherwise the one that was. -/
  selectIndex : r.1.selectIndex = r.2.getD s.selectIndex
  /-- The indicator is on its label, which is in view, if it is no wider than the view. -/
  shown : ∀ i ∈ r.2, ∀ label ∈ r.1.titleLabels[i]?,
    (r.1.indicator.x = label.x ∧ r.1.indicator.width = label.width) ∧
      (label.width ≤ r.1.width → r.1.contentOffset ≤ label.x ∧ label.maxX ≤ r.1.contentOffset + r.1.width)

/-- A tap that does nothing. -/
theorem tapped_none {x : ℚ}
    (h : ∀ i label, s.titleLabels[i]? = some label → label.span.Contains (x + s.contentOffset) → i = s.selectIndex) :
    Tapped s x (s, none) where
  called i := by
    refine iff_of_false (fun hi => by cases hi) ?_
    rintro ⟨hne, label, hl, hx⟩
    exact hne (h i label hl hx)
  selectIndex := rfl
  shown i hi := by cases hi

theorem Laid.tapped (h : s.Laid) (x : ℚ) : Tapped s x (PinterestSegment.step (.tap x) s) := by
  have hscan (i : ℕ) : scan (x + s.contentOffset) (s.titleLabels.map CGRect.span) = some i ↔
      ∃ label, s.titleLabels[i]? = some label ∧ label.span.Contains (x + s.contentOffset) := by
    rw [scan_eq_some_iff h.pairwise h.spaced.titleMargin]
    simp
  simp only [PinterestSegment.step, handleTapGesture, findIdx?_eq_scan]
  cases hs : scan (x + s.contentOffset) (s.titleLabels.map CGRect.span) with
  | none =>
    have hnone : Tapped s x (s, none) := tapped_none fun i label hl hx => by
      have := (hscan i).mpr ⟨label, hl, hx⟩
      rw [hs] at this
      cases this
    split
    · exact hnone
    · exact hnone
  | some i =>
    obtain ⟨label, hl, hx⟩ := (hscan i).mp hs
    have honly : ∀ j label', s.titleLabels[j]? = some label' → label'.span.Contains (x + s.contentOffset) → j = i := by
      intro j label' hl' hx'
      have := (hscan j).mpr ⟨label', hl', hx'⟩
      rw [hs] at this
      exact (Option.some.inj this).symm
    have hlt : i < s.titleElements.length := h.labelled ▸ (List.getElem?_eq_some_iff.mp hl).1
    rw [if_pos (h.tapGesture (List.ne_nil_of_length_pos (Nat.zero_lt_of_lt hlt)))]
    dsimp only
    obtain ⟨j, label', hj, hne, hl', he⟩ | ⟨hsame, he⟩ := setSelectIndex_cases i true false s
    · rw [he]
      obtain rfl : i = j := Int.ofNat_inj.mp hj
      obtain rfl : label = label' := Option.some.inj (hl.symm.trans hl')
      refine ⟨fun j => ⟨fun hij => ?_, ?_⟩, rfl, fun j hij label' hl' => ?_⟩
      · cases hij
        exact ⟨hne.resolve_right Bool.false_ne_true, label, hl, hx⟩
      · rintro ⟨-, label', hl', hx'⟩
        rw [honly j label' hl' hx']
        rfl
      · cases hij
        have hl' : s.titleLabels[i]? = some label' := hl'
        obtain rfl : label = label' := Option.some.inj (hl.symm.trans hl')
        exact ⟨⟨rfl, rfl⟩, h.shows hl⟩
    · rw [he]
      have hi : i = s.selectIndex := by
        rcases hsame with ⟨hi, -⟩ | hnone
        · exact Int.ofNat_inj.mp hi
        · rw [hnone i rfl] at hl
          cases hl
      exact tapped_none fun j label' hl' hx' => (honly j label' hl' hx').trans hi

/-- **A tap selects the title under the finger, and shows it**, in every state a run of a segment reaches, however it
has been scrolled, given other titles, sizes and styles that keep the labels apart (`Spaced`). A tap is on a label if
its `x` is, however far above or below. `valueChange` is called with the one title whose label the tap is on, unless
that is selected or the tap is on none; that title is then selected, the indicator is on its label, and the label is in
view, if it is no wider than the view. -/
theorem tap_selects {style : PinterestSegmentStyle} (h : style.Spaced) (width height : ℚ) (titles : List String)
    {es : List SegmentEvent} (hes : ∀ e ∈ es, SpacedStyle e) (x : ℚ) :
    let s := reach (fun e s => (step e s).1) es (init width height style titles)
    Tapped s x (step (.tap x) s) :=
  Laid.tapped (reach_inv_of_mem (fun e he _ ht => ht.step (hes e he)) (laid_init h width height titles)) x

theorem tap_selects_scrolled :
    let s := reach (fun e s => (step e s).1) [.scroll 50] (init 100 40 { titleFont := eightPoint } ["All", "Played"])
    Tapped s 60 (step (.tap 60) s) :=
  tap_selects (spaced_of_font eightPoint) 100 40 ["All", "Played"] (by simp [SpacedStyle]) 60

end PinterestSegment

end Booster
