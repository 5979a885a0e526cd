import Booster.Controllers.Detail
import Booster.Theory.Lines
import Mathlib.Algebra.Order.Ring.Rat
import Mathlib.Tactic.NormNum

/-!
# The rows of tags

`TagListView` lays its tags out in rows: a tag goes on the current row if it fits there and
begins a row otherwise, and `marginX` is left between neighbours. The detail screen
reserves height for a row for each 398 points of tags, margins not counted
(`DetailVC.tagsHeight`). That is enough exactly when some breaking of the tags into rows has as few
(`enoughRows_iff`): the rows `rearrangeViews` makes are the greedy breaking, so no other has fewer.

Of a tag the loop reads the `intrinsicContentSize`. The alignment of the rows and the
looks of the tags are left out.
-/

namespace Booster

open Theory

namespace TagListView

/-- `marginX`. -/
def marginX : ℚ := 5

/-- `marginY`. -/
def marginY : ℚ := 2

/-- A row view: its frame, but for where it is aligned. -/
structure RowView where
  y : ℚ
  width : ℚ := 0
  height : ℚ := 0

/-- A tag's background view: the row it is in, and its frame there. -/
structure TagBackgroundView where
  row : ℕ
  x : ℚ
  width : ℚ
  height : ℚ

/-- The variables of the loop of `rearrangeViews`, and the views it has arranged. -/
structure Layout where
  /-- `currentRow`; `rows` when the loop ends. -/
  currentRow : ℕ := 0
  /-- `currentRowTagCount`. -/
  currentRowTagCount : ℕ := 0
  /-- `currentRowWidth`. -/
  currentRowWidth : ℚ := 0
  /-- `tagViewHeight`. -/
  tagViewHeight : ℚ := 0
  /-- `rowViews`. -/
  rowViews : List RowView := []
  /-- `tagBackgroundViews`. -/
  tagBackgroundViews : List TagBackgroundView := []

/-- A new row, for a tag of the height given. -/
def Layout.beginRow (height : ℚ) (s : Layout) : Layout :=
  { s with
    currentRow := s.currentRow + 1
    currentRowTagCount := 0
    currentRowWidth := 0
    rowViews := s.rowViews ++ [{ y := s.currentRow * (height + marginY) }] }

/-- A tag is put at the end of the current row. -/
def Layout.put (width height : ℚ) (s : Layout) : Layout :=
  { s with
    currentRowTagCount := s.currentRowTagCount + 1
    currentRowWidth := s.currentRowWidth + (width + marginX)
    tagViewHeight := height
    rowViews := s.rowViews.modify (s.currentRow - 1) fun row =>
      { row with width := s.currentRowWidth + (width + marginX), height := max height row.height }
    tagBackgroundViews := s.tagBackgroundViews ++ [⟨s.currentRow, s.currentRowWidth, width, height⟩] }

/-- A turn of the loop. -/
def Layout.add (frameWidth : ℚ) (s : Layout) (tagView : TagSize) : Layout :=
  if s.currentRowTagCount = 0 ∨ frameWidth < s.currentRowWidth + tagView.width then
    (s.beginRow tagView.height).put (min tagView.width frameWidth) tagView.height
  else s.put tagView.width tagView.height

/-- `rearrangeViews`. -/
def rearrangeViews (frameWidth : ℚ) (tagViews : List TagSize) : Layout :=
  tagViews.foldl (Layout.add frameWidth) {}

end TagListView

/-- The rows the detail screen reserves height for. -/
def DetailVC.rowsReserved (widths : List ℚ) : ℤ := (widths.sum / 398).ceil

/-- Height is reserved for the rows that the tags are laid out on. -/
def EnoughRows (tagViews : List TagSize) : Prop :=
  ((TagListView.rearrangeViews 398 tagViews).currentRow : ℤ) ≤ DetailVC.rowsReserved (tagViews.map TagSize.width)

instance (tagViews : List TagSize) : Decidable (EnoughRows tagViews) := inferInstanceAs (Decidable (_ ≤ _))

/-! ### The height reserved -/

/-- The height reserved is that of the rows reserved, and the margins. -/
theorem DetailVC.tagsHeight_eq {expr : String} {tagViews : List String} {height : TagSizes → ℚ}
    (h : tagsHeight expr tagViews = .ok height) : ∃ first, tagViews.head? = some first ∧
      ∀ size, height size =
        rowsReserved ((tagViews.map size).map TagSize.width) * (size first).height + (15 + 27 + 8) := by
  obtain ⟨first, hfirst, h⟩ := bind_eq_ok_iff.mp h
  cases h
  refine ⟨first, List.head?_eq_getElem? ▸ subscript_eq_ok_iff.mp hfirst, fun size => ?_⟩
  have hsum : ∀ (l : List String) (w : ℚ), l.foldl (fun width tag => width + (size tag).width) w =
      w + ((l.map size).map TagSize.width).sum := by
    intro l
    induction l with
    | nil => simp
    | cons tag l ih =>
      intro w
      rw [List.foldl_cons, ih]
      simp [add_assoc]
  simp only [hsum, zero_add, rowsReserved]

/-- Both heights that loading a game sets are of this kind, for the tags it leaves in the two views. -/
theorem DetailVC.heights_loadGameToView {vc vc' : DetailVC} {game : Game} (h : vc.loadGameToView game = .ok vc') :
    (∃ height, vc'.genresViewHeight = some height ∧
      tagsHeight "tagListView.tagViews[0]" vc'.tagListView = .ok height) ∧
    ∃ height, vc'.platformViewHeight = some height ∧
      tagsHeight "tagListViewPlatform.tagViews[0]" vc'.tagListViewPlatform = .ok height := by
  obtain ⟨sampleCover, -, h⟩ := bind_eq_ok_iff.mp h
  obtain ⟨sampleScreenshots, -, h⟩ := bind_eq_ok_iff.mp h
  obtain ⟨genres, -, h⟩ := bind_eq_ok_iff.mp h
  obtain ⟨genresHeight, hg, h⟩ := bind_eq_ok_iff.mp h
  obtain ⟨platforms, -, h⟩ := bind_eq_ok_iff.mp h
  obtain ⟨platformHeight, hp, h⟩ := bind_eq_ok_iff.mp h
  cases h
  exact ⟨⟨genresHeight, rfl, hg⟩, platformHeight, rfl, hp⟩

/-! ### The rows laid out -/

namespace TagListView

section Rows

variable {frameWidth : ℚ} {s : Layout} {tagView : TagSize}

theorem currentRow_add_of_lt (h : s.currentRowTagCount = 0 ∨ frameWidth < s.currentRowWidth + tagView.width)
    (hw : tagView.width ≤ frameWidth) :
    (s.add frameWidth tagView).currentRow = s.currentRow + 1 ∧
      (s.add frameWidth tagView).currentRowWidth = tagView.width + marginX := by
  rw [Layout.add, if_pos h]
  exact ⟨rfl, by simp [Layout.put, Layout.beginRow, min_eq_left hw]⟩

theorem currentRow_add_of_le (h : s.currentRowTagCount ≠ 0) (hw : s.currentRowWidth + tagView.width ≤ frameWidth) :
    (s.add frameWidth tagView).currentRow = s.currentRow ∧
      (s.add frameWidth tagView).currentRowWidth = s.currentRowWidth + tagView.width + marginX := by
  rw [Layout.add, if_neg (not_or.mpr ⟨h, not_lt.mpr hw⟩)]
  exact ⟨rfl, by simp [Layout.put, add_assoc]⟩

/-- The tag added is on the current row. -/
theorem currentRowTagCount_add (frameWidth : ℚ) (s : Layout) (tagView : TagSize) :
    (s.add frameWidth tagView).currentRowTagCount ≠ 0 := by
  unfold Layout.add
  split
  · exact Nat.succ_ne_zero _
  · exact Nat.succ_ne_zero _

/-- From a row with a tag on it, the loop begins the rows that are begun greedily. -/
theorem currentRow_foldl {tagViews : List TagSize} (hs : s.currentRowTagCount ≠ 0)
    (hw : ∀ t ∈ tagViews, t.width ≤ frameWidth) :
    (tagViews.foldl (Layout.add frameWidth) s).currentRow =
      s.currentRow + begun marginX frameWidth s.currentRowWidth (tagViews.map TagSize.width) := by
  induction tagViews generalizing s with
  | nil => rfl
  | cons t ts ih =>
    have ht : t.width ≤ frameWidth := hw t List.mem_cons_self
    rw [List.foldl_cons, ih (currentRowTagCount_add frameWidth s t) fun u hu => hw u (List.mem_cons_of_mem _ hu),
      List.map_cons]
    by_cases h : frameWidth < s.currentRowWidth + t.width
    · obtain ⟨hrow, hwidth⟩ := currentRow_add_of_lt (.inr h) ht
      rw [hrow, hwidth, begun_cons_of_lt h]
      omega
    · obtain ⟨hrow, hwidth⟩ := currentRow_add_of_le hs (not_lt.mp h)
      rw [hrow, hwidth, begun_cons_of_le (not_lt.mp h)]

/-- **The rows of the layout are those of the greedy breaking.** -/
theorem currentRow_rearrangeViews {tagViews : List TagSize} (h0 : ∀ t ∈ tagViews, 0 < t.width)
    (hw : ∀ t ∈ tagViews, t.width ≤ frameWidth) :
    (rearrangeViews frameWidth tagViews).currentRow =
      begun marginX frameWidth frameWidth (tagViews.map TagSize.width) := by
  cases tagViews with
  | nil => rfl
  | cons t ts =>
    have ht : t.width ≤ frameWidth := hw t List.mem_cons_self
    obtain ⟨hrow, hwidth⟩ := currentRow_add_of_lt (s := {}) (.inl rfl) ht
    rw [rearrangeViews, List.foldl_cons,
      currentRow_foldl (currentRowTagCount_add _ _ _) fun u hu => hw u (List.mem_cons_of_mem _ hu), hrow, hwidth,
      List.map_cons, begun_cons_of_lt (lt_add_of_pos_right frameWidth (h0 t List.mem_cons_self))]
    show 0 + 1 + _ = _ + 1
    omega

end Rows

end TagListView

/-- Two tags of 199 points: one row is reserved, and the margin makes them two. -/
theorem twoTags_not_enoughRows :
    (TagListView.rearrangeViews 398 [⟨199, 20⟩, ⟨199, 20⟩]).currentRow = 2 ∧
      DetailVC.rowsReserved [199, 199] = 1 ∧ ¬EnoughRows [⟨199, 20⟩, ⟨199, 20⟩] := by
  decide +kernel

/-- A number of rows is at most the number reserved exactly when one row less would not hold the tags
laid end to end. -/
theorem le_rowsReserved_iff {widths : List ℚ} {n : ℕ} :
    (n : ℤ) ≤ DetailVC.rowsReserved widths ↔ 398 * ((n : ℚ) - 1) < widths.sum := by
  have h398 : (0 : ℚ) < 398 := by norm_num
  rw [← Int.sub_one_lt_iff, DetailVC.rowsReserved, Rat.lt_ceil_iff, lt_div_iff₀ h398, mul_comm]
  push_cast
  rfl

/-- **Enough rows are reserved exactly when the tags can be broken into as few**: lines that
fit in 398 points with the margins, one of which less would not hold the tags laid end to end. -/
theorem enoughRows_iff {tagViews : List TagSize} (h0 : ∀ t ∈ tagViews, 0 < t.width)
    (hw : ∀ t ∈ tagViews, t.width ≤ 398) :
    EnoughRows tagViews ↔ ∃ lines, Breaking TagListView.marginX 398 (tagViews.map TagSize.width) lines ∧
      398 * ((lines.length : ℚ) - 1) < (tagViews.map TagSize.width).sum := by
  have hgap : (0 : ℚ) ≤ TagListView.marginX := by norm_num [TagListView.marginX]
  have h0' : ∀ w ∈ tagViews.map TagSize.width, 0 < w := by simpa using h0
  have hw' : ∀ w ∈ tagViews.map TagSize.width, w ≤ 398 := by simpa using hw
  rw [EnoughRows, TagListView.currentRow_rearrangeViews h0 hw]
  constructor
  · intro h
    obtain ⟨lines, hb, hlen⟩ := exists_breaking hgap h0' hw'
    exact ⟨lines, hb, le_rowsReserved_iff.mp (hlen ▸ h)⟩
  · rintro ⟨lines, hb, hlen⟩
    have hle := (begun_le_iff hgap h0' hw').mpr ⟨lines, hb, le_rfl⟩
    exact (Int.ofNat_le.mpr hle).trans (le_rowsReserved_iff.mpr hlen)

theorem enoughRows_iff_twoTags : EnoughRows [⟨199, 20⟩, ⟨199, 20⟩] ↔
    ∃ lines, Breaking TagListView.marginX 398 [199, 199] lines ∧ 398 * ((lines.length : ℚ) - 1) < [199, 199].sum :=
  have h0 : ∀ t ∈ [(⟨199, 20⟩ : TagSize), ⟨199, 20⟩], 0 < t.width := by simp
  have hw : ∀ t ∈ [(⟨199, 20⟩ : TagSize), ⟨199, 20⟩], t.width ≤ 398 := by
    simp
    norm_num
  enoughRows_iff h0 hw

end Booster
