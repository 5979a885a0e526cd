import Booster.Theory.Run
import Mathlib.Algebra.Order.Floor.Ring
import Mathlib.Data.Rat.Floor
import Mathlib.Tactic.IntervalCases
import Mathlib.Tactic.Linarith
import Mathlib.Tactic.NormNum

/-!
# The stars

`StarRatingView` shows a rating on five stars, each full, half or empty, and repaints them when the
rating or the way of rounding is set. Each way of rounding is two comparisons for each star; together they come to
rounding the rating to a number of half stars (`halves`), which is shown from the left
(`stars_reach`).

A rating is a finite `Float`, here the number it is, and the numbers it is compared with are exact as `Float`s. The
view takes no touches in the storyboard, so what it does with them is left out.
-/

namespace Booster

open Theory

/-- `StarRounding`. -/
inductive StarRounding where
  | roundToHalfStar
  | ceilToHalfStar
  | floorToHalfStar
  | roundToFullStar
  | ceilToFullStar
  | floorToFullStar
  deriving DecidableEq

/-- `StarRounding(rawValue:)`. -/
def StarRounding.ofRawValue : ℤ → Option StarRounding
  | 0 => some .roundToHalfStar
  | 1 => some .ceilToHalfStar
  | 2 => some .floorToHalfStar
  | 3 => some .roundToFullStar
  | 4 => some .ceilToFullStar
  | 5 => some .floorToFullStar
  | _ => none

/-- The image of a star. -/
inductive StarImage where
  | fullStarImage
  | halfStarImage
  | emptyStarImage
  deriving DecidableEq

open StarImage

/-- `StarRatingView`. -/
structure StarRatingView where
  /-- `rating`. -/
  rating : ℚ
  /-- `starRounding`. -/
  starRounding : StarRounding
  /-- The images of the five views of `hstack`. -/
  hstack : List StarImage

/-- What is set. -/
inductive StarSetting where
  | rating (rating : ℚ)
  | starRounding (starRounding : StarRounding)
  | starRoundingRawValue (newValue : ℤ)

namespace StarRatingView

/-- The image of star `iFloat`. -/
def image (starRounding : StarRounding) (rating iFloat : ℚ) : StarImage :=
  match starRounding with
  | .roundToHalfStar =>
    if rating ≥ iFloat - 0.25 then fullStarImage else if rating ≥ iFloat - 0.75 then halfStarImage else emptyStarImage
  | .ceilToHalfStar =>
    if rating > iFloat - 0.5 then fullStarImage else if rating > iFloat - 1 then halfStarImage else emptyStarImage
  | .floorToHalfStar =>
    if rating ≥ iFloat then fullStarImage else if rating ≥ iFloat - 0.5 then halfStarImage else emptyStarImage
  | .roundToFullStar => if rating ≥ iFloat - 0.5 then fullStarImage else emptyStarImage
  | .ceilToFullStar => if rating > iFloat - 1 then fullStarImage else emptyStarImage
  | .floorToFullStar => if rating ≥ iFloat then fullStarImage else emptyStarImage

/-- `setStarsFor`. -/
def setStarsFor (rating : ℚ) (s : StarRatingView) : StarRatingView :=
  { s with hstack := (List.range' 1 5).map fun i : ℕ => image s.starRounding rating i }

/-- The state after a setting: what `didSet` does. -/
def set : StarSetting → StarRatingView → StarRatingView
  | .rating rating, s => { s with rating }.setStarsFor rating
  | .starRounding starRounding, s => { s with starRounding }.setStarsFor s.rating
  | .starRoundingRawValue newValue, s =>
    { s with starRounding := (StarRounding.ofRawValue newValue).getD .roundToHalfStar }.setStarsFor s.rating

/-- `setupView`, on the views of the nib. -/
def setupView (rating : ℚ) (starRounding : StarRounding) (hstack : List StarImage) : StarRatingView :=
  reach set [.rating rating, .starRounding starRounding] ⟨3.5, .roundToHalfStar, hstack⟩

/-! ### How many half stars -/

/-- The half stars a rating is rounded to. -/
def halves (rating : ℚ) : StarRounding → ℤ
  | .roundToHalfStar => ⌊2 * rating + 1 / 2⌋
  | .ceilToHalfStar => ⌈2 * rating⌉
  | .floorToHalfStar => ⌊2 * rating⌋
  | .roundToFullStar => 2 * ⌊rating + 1 / 2⌋
  | .ceilToFullStar => 2 * ⌈rating⌉
  | .floorToFullStar => 2 * ⌊rating⌋

/-- The image of star `i`, when `n` half stars are shown. -/
def imageOf (n i : ℤ) : StarImage :=
  if 2 * i ≤ n then fullStarImage else if 2 * i - 1 ≤ n then halfStarImage else emptyStarImage

/-- `n` half stars, of ten. -/
def stars (n : ℕ) : List StarImage :=
  List.replicate (n / 2) fullStarImage ++ List.replicate (n % 2) halfStarImage ++
    List.replicate (5 - n / 2 - n % 2) emptyStarImage

/-- Two comparisons that say whether the half stars reach the star, and its half. -/
theorem ite_eq_imageOf {n i : ℤ} {p q : Prop} [Decidable p] [Decidable q] (hp : p ↔ 2 * i ≤ n)
    (hq : q ↔ 2 * i - 1 ≤ n) :
    (if p then fullStarImage else if q then halfStarImage else emptyStarImage) = imageOf n i := by
  simp only [imageOf, hp, hq]

/-- One comparison does for an even number of half stars. -/
theorem ite_eq_imageOf_double {n i : ℤ} {p : Prop} [Decidable p] (hp : p ↔ i ≤ n) :
    (if p then fullStarImage else emptyStarImage) = imageOf (2 * n) i := by
  have hfull : 2 * i ≤ 2 * n ↔ i ≤ n := by omega
  have hhalf : 2 * i - 1 ≤ 2 * n ↔ i ≤ n := by omega
  simp only [imageOf, hp, hfull, hhalf]
  split <;> rfl

/-- **The comparisons of a way of rounding are with the half stars it rounds to.** -/
theorem image_eq (starRounding : StarRounding) (rating : ℚ) (i : ℤ) :
    image starRounding rating i = imageOf (halves rating starRounding) i := by
  cases starRounding with
  | roundToHalfStar =>
    refine ite_eq_imageOf ?_ ?_
    · rw [halves, Int.le_floor]
      push_cast
      constructor <;> intro h <;> linarith
    · rw [halves, Int.le_floor]
      push_cast
      constructor <;> intro h <;> linarith
  | ceilToHalfStar =>
    refine ite_eq_imageOf ?_ ?_
    · rw [halves, ← Int.sub_one_lt_iff, Int.lt_ceil]
      push_cast
      constructor <;> intro h <;> linarith
    · rw [halves, ← Int.sub_one_lt_iff, Int.lt_ceil]
      push_cast
      constructor <;> intro h <;> linarith
  | floorToHalfStar =>
    refine ite_eq_imageOf ?_ ?_
    · rw [halves, Int.le_floor]
      push_cast
      constructor <;> intro h <;> linarith
    · rw [halves, Int.le_floor]
      push_cast
      constructor <;> intro h <;> linarith
  | roundToFullStar =>
    refine ite_eq_imageOf_double ?_
    rw [Int.le_floor]
    constructor <;> intro h <;> linarith
  | ceilToFullStar =>
    refine ite_eq_imageOf_double ?_
    rw [← Int.sub_one_lt_iff, Int.lt_ceil]
    push_cast
    rfl
  | floorToFullStar =>
    refine ite_eq_imageOf_double ?_
    rw [Int.le_floor]

/-- Of ten half stars, none below 0 is shown, and none beyond 10. -/
theorem imageOf_clamp (n : ℤ) {i : ℤ} (h0 : 0 < i) (h5 : i ≤ 5) : imageOf n i = imageOf (max 0 (min 10 n)) i := by
  have hfull : 2 * i ≤ max 0 (min 10 n) ↔ 2 * i ≤ n := by omega
  have hhalf : 2 * i - 1 ≤ max 0 (min 10 n) ↔ 2 * i - 1 ≤ n := by omega
  simp only [imageOf, hfull, hhalf]

theorem imageOf_range (n : ℤ) :
    (List.range' 1 5).map (fun i : ℕ => imageOf n i) = stars (max 0 (min 10 n)).toNat := by
  obtain ⟨k, hk⟩ := Int.eq_ofNat_of_zero_le (le_max_left 0 (min 10 n))
  have hk10 : k ≤ 10 := by omega
  have hcut : (List.range' 1 5).map (fun i : ℕ => imageOf n i) = (List.range' 1 5).map fun i : ℕ => imageOf k i := by
    refine List.map_congr_left fun i hi => ?_
    obtain ⟨h1, h5⟩ := List.mem_range'_1.mp hi
    rw [imageOf_clamp n (by omega) (by omega), hk]
  rw [hcut, hk, Int.toNat_natCast]
  interval_cases k <;> rfl

/-- The view shows its rating. -/
def Shows (s : StarRatingView) : Prop := s.hstack = stars (max 0 (min 10 (halves s.rating s.starRounding))).toNat

theorem shows_setStarsFor (s : StarRatingView) : (s.setStarsFor s.rating).Shows := by
  unfold Shows setStarsFor
  rw [← imageOf_range]
  exact List.map_congr_left fun i _ => image_eq s.starRounding s.rating i

/-- **The stars shown are the rating, rounded**: in whatever order the rating and the way of rounding are set, the
view shows the rating it has, rounded the way it has to a number of half stars and kept between 0 and 10,
as full stars, then at most one half star, then empty ones. -/
theorem stars_reach (rating : ℚ) (starRounding : StarRounding) (hstack : List StarImage) (es : List StarSetting) :
    (reach set es (setupView rating starRounding hstack)).Shows := by
  refine reach_inv (fun e s _ => ?_) es (shows_setStarsFor _)
  cases e with
  | rating rating => exact shows_setStarsFor { s with rating }
  | starRounding starRounding => exact shows_setStarsFor { s with starRounding }
  | starRoundingRawValue newValue => exact shows_setStarsFor { s with starRounding := _ }

end StarRatingView

end Booster
