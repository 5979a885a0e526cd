import Mathlib.Algebra.BigOperators.Group.List.Basic
import Mathlib.Algebra.Order.Ring.Defs
import Mathlib.Data.List.Basic
import Mathlib.Tactic.Linarith

/-!
# Breaking items into lines

Items of given widths are broken, in their order, into lines of a limited width,
with a gap between neighbours. The greedy way puts an item on the current line if it
fits there and begins a line with it otherwise; `begun` is the number of lines it begins.

No breaking has fewer lines than the greedy one (`begun_flatten_le`). The reason is that being further
along in the current line never saves a line and costs at most one
(`begun_mono_and_le_succ`). As the greedy way gives a breaking
(`exists_breaking`), it begins at most `n` lines exactly when some breaking has at
most `n` (`begun_le_iff`).
-/

namespace Booster.Theory

universe u

variable {K : Type u} [CommRing K]

/-- The width of a line: the widths of its items, with a gap between neighbours. -/
def lineWidth (gap : K) (l : List K) : K := (l.intersperse gap).sum

@[simp] theorem lineWidth_singleton (gap w : K) : lineWidth gap [w] = w := by simp [lineWidth]

theorem lineWidth_cons {gap : K} {l : List K} (h : l ≠ []) (w : K) :
    lineWidth gap (w :: l) = w + gap + lineWidth gap l := by
  cases l with
  | nil => exact absurd rfl h
  | cons v l => simp [lineWidth, add_assoc]

variable [LinearOrder K]

/-- The items `ws`, in their order, as lines of at most the limited width. -/
structure Breaking (gap limit : K) (ws : List K) (lines : List (List K)) : Prop where
  /-- The lines are the items. -/
  flatten : lines.flatten = ws
  /-- Each line fits. -/
  fits : ∀ l ∈ lines, lineWidth gap l ≤ limit

/-- The number of lines begun greedily, when `used` is the width used of the current line, with the gap
after it. -/
def begun (gap limit : K) : K → List K → ℕ
  | _, [] => 0
  | used, w :: ws =>
    if limit < used + w then begun gap limit (w + gap) ws + 1 else begun gap limit (used + w + gap) ws

variable {gap limit : K}

theorem begun_cons_of_lt {used w : K} (h : limit < used + w) (ws : List K) :
    begun gap limit used (w :: ws) = begun gap limit (w + gap) ws + 1 := if_pos h

theorem begun_cons_of_le {used w : K} (h : used + w ≤ limit) (ws : List K) :
    begun gap limit used (w :: ws) = begun gap limit (used + w + gap) ws := if_neg (not_lt.mpr h)

variable [IsStrictOrderedRing K]

/-! ### No breaking has fewer lines -/

/-- Being further along in the current line saves no line and costs at most one. -/
theorem begun_mono_and_le_succ (hgap : 0 ≤ gap) {ws : List K} (hws : ∀ w ∈ ws, 0 ≤ w) :
    (∀ a b, a ≤ b → begun gap limit a ws ≤ begun gap limit b ws) ∧
      ∀ a b, 0 ≤ b → begun gap limit a ws ≤ begun gap limit b ws + 1 := by
  induction ws with
  | nil => exact ⟨fun a b _ => le_rfl, fun a b _ => Nat.zero_le _⟩
  | cons w ws ih =>
    have hw : 0 ≤ w := hws w List.mem_cons_self
    obtain ⟨hmono, hsucc⟩ := ih fun v hv => hws v (List.mem_cons_of_mem _ hv)
    constructor
    · intro a b hab
      by_cases ha : limit < a + w
      · rw [begun_cons_of_lt ha, begun_cons_of_lt (by linarith)]
      · rw [begun_cons_of_le (not_lt.mp ha)]
        by_cases hb : limit < b + w
        · rw [begun_cons_of_lt hb]
          exact hsucc _ _ (by linarith)
        · rw [begun_cons_of_le (not_lt.mp hb)]
          exact hmono _ _ (by linarith)
    · intro a b hb0
      by_cases hb : limit < b + w
      · rw [begun_cons_of_lt hb]
        by_cases ha : limit < a + w
        · rw [begun_cons_of_lt ha]
          omega
        · rw [begun_cons_of_le (not_lt.mp ha)]
          have := hsucc (a + w + gap) (w + gap) (by linarith)
          omega
      · rw [begun_cons_of_le (not_lt.mp hb)]
        by_cases ha : limit < a + w
        · rw [begun_cons_of_lt ha]
          have := hmono (w + gap) (b + w + gap) (by linarith)
          omega
        · rw [begun_cons_of_le (not_lt.mp ha)]
          exact hsucc _ _ (by linarith)

/-- An item begins at most one line. -/
theorem begun_cons_le (hgap : 0 ≤ gap) {w : K} {ws : List K} (hw : 0 ≤ w) (hws : ∀ v ∈ ws, 0 ≤ v) (used : K) :
    begun gap limit used (w :: ws) ≤ begun gap limit (w + gap) ws + 1 := by
  by_cases h : limit < used + w
  · rw [begun_cons_of_lt h]
  · rw [begun_cons_of_le (not_lt.mp h)]
    exact (begun_mono_and_le_succ hgap hws).2 _ _ (by linarith)

theorem lineWidth_nonneg (hgap : 0 ≤ gap) {l : List K} (hl : ∀ w ∈ l, 0 ≤ w) : 0 ≤ lineWidth gap l := by
  induction l with
  | nil => exact le_rfl
  | cons w l ih =>
    have hw : 0 ≤ w := hl w List.mem_cons_self
    have := ih fun v hv => hl v (List.mem_cons_of_mem _ hv)
    by_cases h : l = []
    · rw [h, lineWidth_singleton]
      exact hw
    · rw [lineWidth_cons h]
      linarith

/-- Items that fit on the current line begin none. -/
theorem begun_append (hgap : 0 ≤ gap) {l ws : List K} (hl : ∀ w ∈ l, 0 ≤ w) {used : K}
    (h : l ≠ [] → used + lineWidth gap l ≤ limit) :
    ∃ used', begun gap limit used (l ++ ws) = begun gap limit used' ws := by
  induction l generalizing used with
  | nil => exact ⟨used, rfl⟩
  | cons w l ih =>
    have hl' : ∀ v ∈ l, 0 ≤ v := fun v hv => hl v (List.mem_cons_of_mem _ hv)
    have hfit := h (List.cons_ne_nil w l)
    by_cases hn : l = []
    · subst hn
      rw [lineWidth_singleton] at hfit
      exact ⟨used + w + gap, begun_cons_of_le hfit ws⟩
    · rw [lineWidth_cons hn] at hfit
      have := lineWidth_nonneg hgap hl'
      have hrest : l ≠ [] → used + w + gap + lineWidth gap l ≤ limit := fun _ => by linarith
      obtain ⟨used', hu⟩ := ih hl' hrest
      exact ⟨used', (begun_cons_of_le (by linarith) _).trans hu⟩

/-- **No breaking has fewer lines than are begun greedily.** -/
theorem begun_flatten_le (hgap : 0 ≤ gap) {lines : List (List K)} (h0 : ∀ l ∈ lines, ∀ w ∈ l, 0 ≤ w)
    (hl : ∀ l ∈ lines, lineWidth gap l ≤ limit) (used : K) :
    begun gap limit used lines.flatten ≤ lines.length := by
  induction lines generalizing used with
  | nil => exact Nat.zero_le _
  | cons l lines ih =>
    have hl' := ih (fun k hk => h0 k (List.mem_cons_of_mem _ hk)) fun k hk => hl k (List.mem_cons_of_mem _ hk)
    cases l with
    | nil => exact (hl' used).trans (Nat.le_succ _)
    | cons w l =>
      have hw : ∀ v ∈ w :: l, 0 ≤ v := h0 _ List.mem_cons_self
      have hfit : lineWidth gap (w :: l) ≤ limit := hl _ List.mem_cons_self
      have hrest : ∀ v ∈ l ++ lines.flatten, 0 ≤ v := by
        intro v hv
        rcases List.mem_append.mp hv with hv | hv
        · exact hw v (List.mem_cons_of_mem _ hv)
        · obtain ⟨k, hk, hv⟩ := List.mem_flatten.mp hv
          exact h0 k (List.mem_cons_of_mem _ hk) v hv
      have hon : l ≠ [] → w + gap + lineWidth gap l ≤ limit := fun hn => lineWidth_cons hn w ▸ hfit
      obtain ⟨used', hu⟩ : ∃ used',
          begun gap limit (w + gap) (l ++ lines.flatten) = begun gap limit used' lines.flatten :=
        begun_append hgap (fun v hv => hw v (List.mem_cons_of_mem _ hv)) hon
      calc begun gap limit used ((w :: l) ++ lines.flatten)
          ≤ begun gap limit (w + gap) (l ++ lines.flatten) + 1 :=
            begun_cons_le hgap (hw w List.mem_cons_self) hrest used
        _ = begun gap limit used' lines.flatten + 1 := by rw [hu]
        _ ≤ lines.length + 1 := Nat.succ_le_succ (hl' used')

/-! ### The greedy breaking -/

/-- The rest of a line that starts with `w`. -/
theorem add_lineWidth_cons_le {used w : K} {l : List K} (hw : used + w ≤ limit)
    (hl : l ≠ [] → used + w + gap + lineWidth gap l ≤ limit) : used + lineWidth gap (w :: l) ≤ limit := by
  by_cases hn : l = []
  · rwa [hn, lineWidth_singleton]
  · rw [lineWidth_cons hn]
    have := hl hn
    linarith

/-- The lines made greedily: the items put on the current line, and the lines begun. -/
theorem exists_greedy (gap : K) {ws : List K} (hws : ∀ w ∈ ws, w ≤ limit) (used : K) :
    ∃ (l : List K) (lines : List (List K)), l ++ lines.flatten = ws ∧ (l ≠ [] → used + lineWidth gap l ≤ limit) ∧
      (∀ k ∈ lines, lineWidth gap k ≤ limit) ∧ lines.length = begun gap limit used ws := by
  induction ws generalizing used with
  | nil => exact ⟨[], [], rfl, fun h => absurd rfl h, nofun, rfl⟩
  | cons w ws ih =>
    have hws' : ∀ v ∈ ws, v ≤ limit := fun v hv => hws v (List.mem_cons_of_mem _ hv)
    by_cases h : limit < used + w
    · obtain ⟨l, lines, hf, hl, hlines, hlen⟩ := ih hws' (w + gap)
      have hw : lineWidth gap (w :: l) ≤ limit := by
        have hfit : 0 + lineWidth gap (w :: l) ≤ limit :=
          add_lineWidth_cons_le (by simpa using hws w List.mem_cons_self) fun hn => by simpa using hl hn
        rwa [zero_add] at hfit
      refine ⟨[], (w :: l) :: lines, by simp [hf], fun hn => absurd rfl hn, ?_, ?_⟩
      · rintro k hk
        rcases List.mem_cons.mp hk with rfl | hk
        · exact hw
        · exact hlines k hk
      · rw [begun_cons_of_lt h, List.length_cons, hlen]
    · obtain ⟨l, lines, hf, hl, hlines, hlen⟩ := ih hws' (used + w + gap)
      refine ⟨w :: l, lines, by simp [hf], fun _ => add_lineWidth_cons_le (not_lt.mp h) hl, hlines, ?_⟩
      rw [begun_cons_of_le (not_lt.mp h), hlen]

/-- With no room on the current line, the greedy lines are a breaking. -/
theorem exists_breaking {ws : List K} (hgap : 0 ≤ gap) (h0 : ∀ w ∈ ws, 0 < w) (hws : ∀ w ∈ ws, w ≤ limit) :
    ∃ lines, Breaking gap limit ws lines ∧ lines.length = begun gap limit limit ws := by
  obtain ⟨l, lines, hf, hl, hlines, hlen⟩ := exists_greedy gap hws limit
  cases l with
  | nil => exact ⟨lines, ⟨hf, hlines⟩, hlen⟩
  | cons w l =>
    have hmem : ∀ v ∈ w :: l, 0 < v := fun v hv => h0 v (hf ▸ List.mem_append_left _ hv)
    have hw := hmem w List.mem_cons_self
    have hfit := hl (List.cons_ne_nil w l)
    by_cases hn : l = []
    · rw [hn, lineWidth_singleton] at hfit
      linarith
    · rw [lineWidth_cons hn] at hfit
      have := lineWidth_nonneg hgap fun v hv => (hmem v (List.mem_cons_of_mem _ hv)).le
      linarith

/-- **The greedy way begins at most `n` lines exactly when some breaking has at most `n`.** -/
theorem begun_le_iff {ws : List K} (hgap : 0 ≤ gap) (h0 : ∀ w ∈ ws, 0 < w) (hws : ∀ w ∈ ws, w ≤ limit) {n : ℕ} :
    begun gap limit limit ws ≤ n ↔ ∃ lines, Breaking gap limit ws lines ∧ lines.length ≤ n := by
  constructor
  · intro h
    obtain ⟨lines, hb, hlen⟩ := exists_breaking hgap h0 hws
    exact ⟨lines, hb, hlen ▸ h⟩
  · rintro ⟨lines, ⟨rfl, hl⟩, hlen⟩
    refine (begun_flatten_le hgap (fun l hl w hw => ?_) hl limit).trans hlen
    exact (h0 w (List.mem_flatten.mpr ⟨l, hl, hw⟩)).le

end Booster.Theory
