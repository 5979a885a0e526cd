import Mathlib.Algebra.Order.Field.Basic
import Mathlib.Data.List.Induction
import Mathlib.Tactic.Linarith

/-!
# Spans on a line

Spans of given widths are placed one after another, each a gap after the one before
(`place`), so a point is in at most one of them and a scan finds it (`scan_eq_some_iff`). A window of a
limited width is scrolled so that a span is as near its middle as the ends of the content
allow (`centred`); then the span is in the window (`centred_shows`).
-/

namespace Booster.Theory

universe u

variable {K : Type u} [Field K] [LinearOrder K]

/-- A closed interval. -/
structure Span (K : Type u) where
  lo : K
  hi : K

/-- The point is in the span, or at an end of it. -/
def Span.Contains (x : K) (s : Span K) : Prop := s.lo ≤ x ∧ x ≤ s.hi

instance (x : K) (s : Span K) : Decidable (s.Contains x) := inferInstanceAs (Decidable (_ ∧ _))

/-- The span is before another, with more than `gap` between them or just that. -/
def Span.Before (gap : K) (s t : Span K) : Prop := s.hi + gap ≤ t.lo

/-- Spans of the given widths, the first a gap after `start`. -/
def place (gap : K) : K → List K → List (Span K)
  | _, [] => []
  | start, w :: ws => ⟨start + gap, start + gap + w⟩ :: place gap (start + gap + w) ws

/-- Where the last of them ends. -/
def finish (gap : K) : K → List K → K
  | start, [] => start
  | start, w :: ws => finish gap (start + gap + w) ws

/-! ### Scanning -/

/-- The first span with the point. -/
def scan (x : K) (spans : List (Span K)) : Option ℕ := spans.findIdx? fun s => s.Contains x

variable [IsStrictOrderedRing K] {gap : K}

theorem Span.Before.not_contains {s t : Span K} (h : s.Before gap t) (hgap : 0 < gap) {x : K} (hs : s.Contains x) :
    ¬t.Contains x := fun ht => by
  have hb : s.hi + gap ≤ t.lo := h
  have := hs.2
  have := ht.1
  linarith

/-- **A scan finds the span the point is in**, when the spans are apart. -/
theorem scan_eq_some_iff {x : K} {spans : List (Span K)} (h : spans.Pairwise (Span.Before gap)) (hgap : 0 < gap)
    {i : ℕ} :
    scan x spans = some i ↔ ∃ s, spans[i]? = some s ∧ s.Contains x := by
  rw [scan, List.findIdx?_eq_some_iff_getElem]
  constructor
  · rintro ⟨hi, hx, -⟩
    exact ⟨spans[i], List.getElem?_eq_getElem hi, of_decide_eq_true hx⟩
  · rintro ⟨s, hs, hx⟩
    obtain ⟨hi, rfl⟩ := List.getElem?_eq_some_iff.mp hs
    refine ⟨hi, decide_eq_true hx, fun j hj hjx => ?_⟩
    have hbefore := List.pairwise_iff_getElem.mp h j i (hj.trans hi) hi hj
    exact hbefore.not_contains hgap (of_decide_eq_true hjx) hx

/-! ### Placing -/

omit [LinearOrder K] [IsStrictOrderedRing K] in
@[simp] theorem length_place (start : K) (ws : List K) : (place gap start ws).length = ws.length := by
  induction ws generalizing start with
  | nil => rfl
  | cons w ws ih => simp [place, ih]

/-- The spans are between the start and the finish. -/
theorem place_bounds (hgap : 0 ≤ gap) {ws : List K} (hw : ∀ w ∈ ws, 0 ≤ w) (start : K) :
    start ≤ finish gap start ws ∧
      ∀ s ∈ place gap start ws, start + gap ≤ s.lo ∧ s.lo ≤ s.hi ∧ s.hi ≤ finish gap start ws := by
  induction ws generalizing start with
  | nil => exact ⟨le_rfl, fun s hs => by cases hs⟩
  | cons w ws ih =>
    have hw0 : 0 ≤ w := hw w List.mem_cons_self
    obtain ⟨hle, hmem⟩ := ih (fun v hv => hw v (List.mem_cons_of_mem _ hv)) (start + gap + w)
    refine ⟨le_trans (by linarith) hle, fun s hs => ?_⟩
    rcases List.mem_cons.mp hs with rfl | hs
    · exact ⟨le_rfl, by linarith, hle⟩
    · obtain ⟨hlo, hhi, hfin⟩ := hmem s hs
      exact ⟨by linarith, hhi, hfin⟩

/-- The spans are in order, a gap apart. -/
theorem place_pairwise (hgap : 0 ≤ gap) {ws : List K} (hw : ∀ w ∈ ws, 0 ≤ w) (start : K) :
    (place gap start ws).Pairwise (Span.Before gap) := by
  induction ws generalizing start with
  | nil => exact List.Pairwise.nil
  | cons w ws ih =>
    have hw' : ∀ v ∈ ws, 0 ≤ v := fun v hv => hw v (List.mem_cons_of_mem _ hv)
    refine List.pairwise_cons.mpr ⟨fun t ht => ?_, ih hw' _⟩
    exact ((place_bounds hgap hw' (start + gap + w)).2 t ht).1

omit [LinearOrder K] [IsStrictOrderedRing K] in
/-- The last span ends at the finish. -/
theorem finish_eq (start : K) (ws : List K) :
    finish gap start ws = ((place gap start ws).getLast?.map Span.hi).getD start := by
  induction ws generalizing start with
  | nil => rfl
  | cons w ws ih =>
    rw [finish, ih, place, List.getLast?_cons]
    cases (place gap (start + gap + w) ws).getLast? <;> rfl

/-! ### Scrolling -/

/-- Where a window begins whose middle is as near `middle` as the ends of the content allow. -/
def centred (middle window content : K) : K := min (max 0 (middle - window / 2)) (max 0 (content - window))

omit [IsStrictOrderedRing K] in
/-- The window is in the content, if that is not the narrower. -/
theorem centred_bounds (middle window content : K) :
    0 ≤ centred middle window content ∧ centred middle window content ≤ max 0 (content - window) :=
  ⟨le_min (le_max_left _ _) (le_max_left _ _), min_le_right _ _⟩

/-- **A span of the content is in the window centred on it**, if it is no wider. -/
theorem centred_shows {s : Span K} {window content : K} (h0 : 0 ≤ s.lo) (h1 : s.hi ≤ content)
    (hw : s.hi - s.lo ≤ window) :
    centred ((s.lo + s.hi) / 2) window content ≤ s.lo ∧
      s.hi ≤ centred ((s.lo + s.hi) / 2) window content + window := by
  constructor
  · refine (min_le_left _ _).trans (max_le h0 ?_)
    linarith
  · have hleft : s.hi - window ≤ max 0 ((s.lo + s.hi) / 2 - window / 2) := le_max_of_le_right (by linarith)
    have hright : s.hi - window ≤ max 0 (content - window) := le_max_of_le_right (by linarith)
    have := le_min hleft hright
    unfold centred
    linarith

end Booster.Theory
