import Booster.Controllers.Home
import Booster.View.PinterestSegment
import Mathlib.Data.Rat.Floor
import Mathlib.Tactic.NormNum

/-!
# The menu

`PopMenuViewController` shows its actions as rows of one height. A finger that moves over the rows
highlights the one it is on, and lifting it selects one; a row can be tapped, too. A highlighted row's view is
scaled, but only when the main queue comes to it, and the row a finger is on is found by the frames of the views as
they are scaled by then: so which row that is depends on what has been highlighted before, and on
how far the queue is. A tap dismisses the menu and, when the queue comes to that, has the view of its row shrunk and
then set back, in two animations.

One row at most is highlighted, and its view alone is scaled, once the queue has come to it and unless the row was
tapped (`highlight_right`). A finger lifted where it was last seen selects the row that is highlighted, however many
turns the queue took in between (`pan_selects_highlighted`).

What a menu looks like is left out, but for the scales.
-/

namespace Booster

open Theory

/-- `contains(_:)`. -/
def CGRect.Contains (r : CGRect) (x y : ℚ) : Prop := (r.x ≤ x ∧ x < r.maxX) ∧ r.y ≤ y ∧ y < r.y + r.height

instance (r : CGRect) (x y : ℚ) : Decidable (r.Contains x y) := inferInstanceAs (Decidable ((_ ∧ _) ∧ _ ∧ _))

/-- The animations of `actionSelected`. -/
inductive SelectionAnimation where
  | first
  | second
  deriving DecidableEq

/-- The scale that an animation of `actionSelected` gives to `view.transform`. -/
def SelectionAnimation.scale : SelectionAnimation → ℚ
  | .first => 0.915
  | .second => 1

/-- `PopMenuDefaultAction`. -/
structure PopMenuAction where
  title : String
  highlighted : Bool := false
  /-- The scale of `view.transform`. -/
  scale : ℚ := 1
  /-- The animation of `actionSelected` that the view was last given. -/
  selection : Option SelectionAnimation := none

/-- The scale that `highlightActionView` gives to `view.transform`. -/
def PopMenuAction.transform (action : PopMenuAction) : ℚ := if action.highlighted then 1.09 else 1

/-- A block that an action leaves to the main queue. -/
inductive MenuBlock where
  /-- That of `highlightActionView`. -/
  | highlightActionView
  /-- That of `actionSelected(animated: true)`. -/
  | actionSelected
  deriving DecidableEq

/-- An animation of `actionSelected` is given to the view. -/
def PopMenuAction.animate (animation : SelectionAnimation) (action : PopMenuAction) : PopMenuAction :=
  { action with scale := animation.scale, selection := some animation }

/-- A block is run: `highlightActionView`'s reads what `highlighted` is by now. -/
def PopMenuAction.run (action : PopMenuAction) : MenuBlock → PopMenuAction
  | .highlightActionView => { action with scale := action.transform }
  | .actionSelected => action.animate .first

/-- `PopMenuAppearance`. -/
structure PopMenuAppearance where
  popMenuActionHeight : ℚ := 50
  popMenuActionCountForScrollable : ℕ := 6

/-- `PopMenuViewController`, shown. -/
structure PopMenuViewController where
  appearance : PopMenuAppearance := {}
  actions : List PopMenuAction
  /-- `contentFrame.size.width`. -/
  contentWidth : ℚ
  /-- The blocks on the main queue, each with its action. -/
  mainQueue : List (MenuBlock × ℕ) := []
  /-- Whether the menu has been dismissed: it gets no touches then. -/
  dismissed : Bool := false

/-- `UIGestureRecognizer.State`. -/
inductive PanState where
  | began
  | changed
  | ended
  /-- Any other. -/
  | cancelled

/-- What happens to a menu. -/
inductive MenuEvent where
  /-- A pan, at `gesture.location(in: containerView)`. -/
  | pan (state : PanState) (x y : ℚ)
  /-- A tap on the view of an action. -/
  | tap (index : ℕ)
  /-- A tap on the background, at the location in the container. -/
  | backgroundTap (x y : ℚ)
  /-- A turn of the main queue. -/
  | turn
  /-- The first animation of `actionSelected` ends, for the view of an action. -/
  | completion (index : ℕ)

namespace PopMenuViewController

variable (m : PopMenuViewController)

/-- Whether the actions are in a scroll view, and not in one that recognises pans. -/
def isScrollable : Bool := m.appearance.popMenuActionCountForScrollable ≤ m.actions.length

/-- `contentFrame.size.height`. -/
def contentHeight : ℚ :=
  if m.isScrollable then m.appearance.popMenuActionCountForScrollable * m.appearance.popMenuActionHeight - 20
  else m.actions.length * m.appearance.popMenuActionHeight

/-- The height of a row of `actionsView`, 4 below the top of the content and 4 above its bottom. -/
def rowHeight : ℚ := (m.contentHeight - 8) / m.actions.length

/-- The frame of an action's view in `actionsView`: its row, scaled about the centre. -/
def viewFrame (index : ℕ) (action : PopMenuAction) : CGRect where
  x := (1 - action.scale) * m.contentWidth / 2
  y := index * m.rowHeight + (1 - action.scale) * m.rowHeight / 2
  width := action.scale * m.contentWidth
  height := action.scale * m.rowHeight

/-- `touchedInsideContent`. -/
def TouchedInsideContent (x y : ℚ) : Prop := (⟨0, 0, m.contentWidth, m.contentHeight⟩ : CGRect).Contains x y

instance (x y : ℚ) : Decidable (m.TouchedInsideContent x y) := inferInstanceAs (Decidable (CGRect.Contains _ x y))

/-- `associatedActionIndex`. -/
def associatedActionIndex (x y : ℚ) : Option ℕ :=
  if m.TouchedInsideContent x y then
    (m.actions.mapIdx m.viewFrame).findIdx? fun frame => frame.Contains x (y - 4)
  else none

/-- `highlighted` of an action. -/
def isHighlighted (index : ℕ) : Bool := m.actions[index]?.any PopMenuAction.highlighted

/-- `actions.filter { return $0.highlighted }`. -/
def highlightedActions : List ℕ := (List.range m.actions.length).filter fun i => m.isHighlighted i

/-- A block waits on the main queue to scale the view of an action by whether it is highlighted. -/
def Waits (index : ℕ) : Prop := (MenuBlock.highlightActionView, index) ∈ m.mainQueue

/-- `highlighted` of an action is set. -/
def setHighlighted (highlighted : Bool) (index : ℕ) : PopMenuViewController :=
  if m.isHighlighted index = highlighted then m
  else { m with
    actions := m.actions.modify index fun action => { action with highlighted }
    mainQueue := m.mainQueue ++ [(.highlightActionView, index)] }

/-- `highlighted` of some actions is set. -/
def setAllHighlighted (highlighted : Bool) (indices : List ℕ) : PopMenuViewController :=
  indices.foldl (fun m index => m.setHighlighted highlighted index) m

/-- `actionDidSelect(at:animated:)`: the menu dismissed, and the index handed to the handler. -/
def actionDidSelect (index : ℕ) (animated : Bool) : PopMenuViewController × Option ℕ :=
  ({ m with
    mainQueue := if animated then m.mainQueue ++ [(.actionSelected, index)] else m.mainQueue
    dismissed := true }, some index)

/-- `menuDidPan`. -/
def menuDidPan (x y : ℚ) : PanState → PopMenuViewController × Option ℕ
  | .began | .changed =>
    match m.associatedActionIndex x y with
    | some index =>
      if m.isHighlighted index then (m, none)
      else
        let m := m.setHighlighted true index
        (m.setAllHighlighted false ((List.range m.actions.length).filter fun i => i ≠ index), none)
    | none => (m, none)
  | .ended =>
    let m := m.setAllHighlighted false m.highlightedActions
    match m.associatedActionIndex x y with
    | some index => m.actionDidSelect index false
    | none => (m, none)
  | .cancelled => (m, none)

/-- A turn of the main queue: its first block is run. -/
def turn : PopMenuViewController :=
  match m.mainQueue with
  | (block, index) :: mainQueue =>
    { m with
      actions := m.actions.modify index fun action => action.run block
      mainQueue }
  | [] => m

/-- The completion of the first animation of `actionSelected`. -/
def completion (index : ℕ) : PopMenuViewController :=
  { m with
    actions := m.actions.modify index fun action =>
      if action.selection = some .first then action.animate .second else action }

/-- The state after an event, and the index of the action selected, if one is. -/
def step : MenuEvent → PopMenuViewController → PopMenuViewController × Option ℕ
  | .pan state x y, m => if m.dismissed ∨ m.isScrollable then (m, none) else m.menuDidPan x y state
  | .tap index, m => if m.dismissed ∨ m.actions.length ≤ index then (m, none) else m.actionDidSelect index true
  | .backgroundTap x y, m =>
    if m.dismissed ∨ m.TouchedInsideContent x y then (m, none) else ({ m with dismissed := true }, none)
  | .turn, m => (m.turn, none)
  | .completion index, m => (m.completion index, none)

/-- `init(sourceView:actions:appearance:)`, with the titles of the actions, and the menu shown. -/
def shown (titles : List String) (contentWidth : ℚ) : PopMenuViewController :=
  { actions := titles.map fun title => { title }, contentWidth }

/-! ### Setting what is highlighted -/

variable {m : PopMenuViewController} {highlighted : Bool} {index i : ℕ}

theorem isHighlighted_eq_true_iff :
    m.isHighlighted i = true ↔ ∃ action, m.actions[i]? = some action ∧ action.highlighted = true := by
  rw [isHighlighted, Option.any_eq_true_iff_get]
  constructor
  · rintro ⟨h, ha⟩
    exact ⟨_, (Option.some_get h).symm, ha⟩
  · rintro ⟨action, h, ha⟩
    simp [h, ha]

theorem lt_length_of_isHighlighted (h : m.isHighlighted i = true) : i < m.actions.length := by
  obtain ⟨action, ha, -⟩ := isHighlighted_eq_true_iff.mp h
  exact (List.getElem?_eq_some_iff.mp ha).1

theorem getElem?_setHighlighted : (m.setHighlighted highlighted index).actions[i]? =
    m.actions[i]?.map fun action => if index = i then { action with highlighted } else action := by
  unfold setHighlighted
  split
  next h =>
    cases ha : m.actions[i]? with
    | none => rfl
    | some action =>
      rw [Option.map_some]
      split
      next hi =>
        rw [isHighlighted, hi, ha, Option.any_some] at h
        rw [← h]
      next => rfl
  next => exact List.getElem?_modify ..

theorem getElem?_setAllHighlighted (indices : List ℕ) : (m.setAllHighlighted highlighted indices).actions[i]? =
    m.actions[i]?.map fun action => if i ∈ indices then { action with highlighted } else action := by
  induction indices generalizing m with
  | nil => simp [setAllHighlighted]
  | cons index indices ih =>
    show ((m.setHighlighted highlighted index).setAllHighlighted highlighted indices).actions[i]? = _
    rw [ih, getElem?_setHighlighted, Option.map_map]
    congr 1
    funext action
    by_cases hi : index = i
    · subst hi
      simp
    · simp [hi, Ne.symm hi]

/-- The menus are of one size. -/
structure SameSize (m m' : PopMenuViewController) : Prop where
  length : m'.actions.length = m.actions.length
  appearance : m'.appearance = m.appearance
  contentWidth : m'.contentWidth = m.contentWidth

/-- What setting `highlighted` keeps. -/
structure Kept (m m' : PopMenuViewController) : Prop extends SameSize m m' where
  frames : m'.actions.mapIdx m'.viewFrame = m.actions.mapIdx m.viewFrame
  dismissed : m'.dismissed = m.dismissed

section Sizes

variable {m' m'' : PopMenuViewController}

theorem SameSize.refl (m : PopMenuViewController) : SameSize m m := ⟨rfl, rfl, rfl⟩

theorem SameSize.trans (h : SameSize m m') (h' : SameSize m' m'') : SameSize m m'' :=
  ⟨h'.length.trans h.length, h'.appearance.trans h.appearance, h'.contentWidth.trans h.contentWidth⟩

theorem SameSize.isScrollable (h : SameSize m m') : m'.isScrollable = m.isScrollable := by
  rw [PopMenuViewController.isScrollable, PopMenuViewController.isScrollable, h.length, h.appearance]

theorem SameSize.contentHeight (h : SameSize m m') : m'.contentHeight = m.contentHeight := by
  rw [PopMenuViewController.contentHeight, PopMenuViewController.contentHeight, h.isScrollable, h.length, h.appearance]

theorem SameSize.rowHeight (h : SameSize m m') : m'.rowHeight = m.rowHeight := by
  rw [PopMenuViewController.rowHeight, PopMenuViewController.rowHeight, h.contentHeight, h.length]

theorem SameSize.viewFrame (h : SameSize m m') : m'.viewFrame = m.viewFrame := by
  funext i action
  rw [PopMenuViewController.viewFrame, PopMenuViewController.viewFrame, h.rowHeight, h.contentWidth]

theorem SameSize.touchedInsideContent (h : SameSize m m') (x y : ℚ) :
    m'.TouchedInsideContent x y ↔ m.TouchedInsideContent x y := by
  rw [TouchedInsideContent, TouchedInsideContent, h.contentHeight, h.contentWidth]

theorem Kept.refl (m : PopMenuViewController) : Kept m m := { toSameSize := .refl m, frames := rfl, dismissed := rfl }

theorem Kept.trans (h : Kept m m') (h' : Kept m' m'') : Kept m m'' :=
  { toSameSize := h.toSameSize.trans h'.toSameSize
    frames := h'.frames.trans h.frames
    dismissed := h'.dismissed.trans h.dismissed }

end Sizes

theorem kept_setHighlighted : Kept m (m.setHighlighted highlighted index) := by
  unfold setHighlighted
  split
  · exact .refl m
  · have hsize : SameSize m { m with
        actions := m.actions.modify index fun action => { action with highlighted }
        mainQueue := m.mainQueue ++ [(.highlightActionView, index)] } := ⟨List.length_modify .., rfl, rfl⟩
    refine { toSameSize := hsize, frames := List.ext_getElem? fun i => ?_, dismissed := rfl }
    rw [hsize.viewFrame, List.getElem?_mapIdx, List.getElem?_mapIdx, List.getElem?_modify, Option.map_eq_map,
      Option.map_map]
    congr 1
    funext action
    simp only [Function.comp]
    split <;> rfl

theorem kept_setAllHighlighted (indices : List ℕ) : Kept m (m.setAllHighlighted highlighted indices) := by
  induction indices generalizing m with
  | nil => exact .refl m
  | cons index indices ih => exact kept_setHighlighted.trans ih

/-- The action under the finger is found by the frames. -/
theorem Kept.associatedActionIndex {m' : PopMenuViewController} (h : Kept m m') (x y : ℚ) :
    m'.associatedActionIndex x y = m.associatedActionIndex x y := by
  rw [PopMenuViewController.associatedActionIndex, PopMenuViewController.associatedActionIndex, h.frames]
  exact if_congr (h.touchedInsideContent x y) rfl rfl

theorem getElem?_turn : m.turn.actions[i]? = m.actions[i]?.map fun action =>
    match m.mainQueue.head? with
    | some (block, index) => if index = i then action.run block else action
    | none => action := by
  unfold turn
  cases hq : m.mainQueue with
  | nil => simp
  | cons b mainQueue => simp [List.getElem?_modify]

theorem getElem?_completion : (m.completion index).actions[i]? = m.actions[i]?.map fun action =>
    if index = i ∧ action.selection = some .first then action.animate .second else action := by
  rw [completion, List.getElem?_modify, Option.map_eq_map]
  congr 1
  funext action
  by_cases hi : index = i <;> simp [hi]

theorem highlighted_run (action : PopMenuAction) (block : MenuBlock) :
    (action.run block).highlighted = action.highlighted := by
  cases block <;> rfl

theorem dismissed_turn : m.turn.dismissed = m.dismissed := by
  unfold turn
  split <;> rfl

theorem isHighlighted_turn : m.turn.isHighlighted i = m.isHighlighted i := by
  rw [isHighlighted, isHighlighted, getElem?_turn, Option.any_map]
  congr 1
  funext action
  show PopMenuAction.highlighted (match m.mainQueue.head? with
    | some (block, index) => if index = i then action.run block else action
    | none => action) = action.highlighted
  split
  · split
    · exact highlighted_run action _
    · rfl
  · rfl

theorem isHighlighted_completion : (m.completion index).isHighlighted i = m.isHighlighted i := by
  rw [isHighlighted, isHighlighted, getElem?_completion, Option.any_map]
  congr 1
  funext action
  show PopMenuAction.highlighted (if _ then _ else _) = _
  split <;> rfl

/-! ### What a run keeps -/

/-- What the views show, and what is on the main queue. -/
structure Drawn (m : PopMenuViewController) : Prop where
  /-- Before its selection is animated, a view has one of two scales. -/
  scale : ∀ action ∈ m.actions, action.selection = none → action.scale = 1 ∨ action.scale = 1.09
  /-- That scale shows whether the action is highlighted, if no block waits to give it. -/
  shown : ∀ i action, m.actions[i]? = some action → action.selection = none → ¬m.Waits i →
    action.scale = action.transform
  /-- The animation of a selection gives the scale, and comes when the queue is empty. -/
  selected : ∀ action ∈ m.actions, ∀ animation ∈ action.selection,
    action.scale = animation.scale ∧ m.mainQueue = []
  /-- One at most is selected. -/
  single : ∀ (i j : ℕ) (a b : PopMenuAction), m.actions[i]? = some a → m.actions[j]? = some b → a.selection ≠ none →
    b.selection ≠ none → i = j
  /-- A selection is the last on the queue. -/
  last : ∀ b ∈ m.mainQueue.dropLast, b.1 = .highlightActionView
  /-- Before the menu is dismissed, nothing is selected. -/
  unselected : m.dismissed = false →
    (∀ action ∈ m.actions, action.selection = none) ∧ ∀ b ∈ m.mainQueue, b.1 = .highlightActionView

/-- A menu in which nothing is selected yet. -/
theorem drawn_of_unselected (hnone : ∀ action ∈ m.actions, action.selection = none)
    (hscale : ∀ action ∈ m.actions, action.scale = 1 ∨ action.scale = 1.09)
    (hshown : ∀ i action, m.actions[i]? = some action → ¬m.Waits i → action.scale = action.transform)
    (hlast : ∀ b ∈ m.mainQueue.dropLast, b.1 = .highlightActionView)
    (hqueue : m.dismissed = false → ∀ b ∈ m.mainQueue, b.1 = .highlightActionView) : m.Drawn where
  scale action ha _ := hscale action ha
  shown i action ha _ := hshown i action ha
  selected action ha animation hs := by
    rw [hnone action ha] at hs
    cases hs
  single _ _ a _ ha _ hsel := absurd (hnone a (List.mem_of_getElem? ha)) hsel
  last := hlast
  unselected hd := ⟨hnone, hqueue hd⟩

theorem Drawn.scale_bounds (h : m.Drawn) (hd : m.dismissed = false) {action : PopMenuAction}
    (ha : m.actions[i]? = some action) : 1 ≤ action.scale ∧ action.scale ≤ 1.09 := by
  have ha := List.mem_of_getElem? ha
  rcases h.scale action ha ((h.unselected hd).1 action ha) with hs | hs <;> rw [hs] <;> norm_num

theorem Drawn.setHighlighted (h : m.Drawn) (hd : m.dismissed = false) :
    (m.setHighlighted highlighted index).Drawn := by
  unfold PopMenuViewController.setHighlighted
  split
  · exact h
  · -- an action is an old one, but for `highlighted`
    have hold : ∀ i action, (m.actions.modify index fun action => { action with highlighted })[i]? = some action →
        ∃ old, m.actions[i]? = some old ∧ action.scale = old.scale ∧ action.selection = old.selection ∧
          (index ≠ i → action = old) := by
      intro i action ha
      rw [List.getElem?_modify, Option.map_eq_map, Option.map_eq_some_iff] at ha
      obtain ⟨old, hold, rfl⟩ := ha
      refine ⟨old, hold, ?_⟩
      split
      next hi => exact ⟨rfl, rfl, fun hne => absurd hi hne⟩
      next hi => exact ⟨rfl, rfl, fun _ => rfl⟩
    have hnone : ∀ action ∈ m.actions.modify index fun action => { action with highlighted },
        action.selection = none := by
      intro action ha
      obtain ⟨i, hi⟩ := List.mem_iff_getElem?.mp ha
      obtain ⟨old, ho, -, hsel, -⟩ := hold i action hi
      rw [hsel]
      exact (h.unselected hd).1 old (List.mem_of_getElem? ho)
    refine drawn_of_unselected hnone (fun action ha => ?_) (fun i action ha hi => ?_) ?_ fun _ b hb => ?_
    · obtain ⟨i, hi⟩ := List.mem_iff_getElem?.mp ha
      obtain ⟨old, ho, hscale, -, -⟩ := hold i action hi
      rw [hscale]
      exact h.scale old (List.mem_of_getElem? ho) ((h.unselected hd).1 old (List.mem_of_getElem? ho))
    · rw [Waits, List.mem_append, not_or, List.mem_singleton, Prod.mk.injEq, not_and] at hi
      obtain ⟨old, ho, -, -, hsame⟩ := hold i action ha
      obtain rfl := hsame (Ne.symm (hi.2 rfl))
      exact h.shown i action ho (hnone action (List.mem_of_getElem? ha)) hi.1
    · rw [List.dropLast_concat]
      exact (h.unselected hd).2
    · rcases List.mem_append.mp hb with hb | hb
      · exact (h.unselected hd).2 b hb
      · rw [List.mem_singleton.mp hb]

theorem Drawn.setAllHighlighted (h : m.Drawn) (hd : m.dismissed = false) (indices : List ℕ) :
    (m.setAllHighlighted highlighted indices).Drawn := by
  induction indices generalizing m with
  | nil => exact h
  | cons index indices ih => exact ih (h.setHighlighted hd) (kept_setHighlighted.dismissed.trans hd)

/-- Dismissing the menu leaves what its views show. -/
theorem Drawn.dismiss (h : m.Drawn) : Drawn { m with dismissed := true } :=
  { h with unselected := fun hd => by cases hd }

/-- A selecting tap leaves a block that the queue comes to last. -/
theorem Drawn.actionDidSelect (h : m.Drawn) (hd : m.dismissed = false) (animated : Bool) :
    (m.actionDidSelect index animated).1.Drawn := by
  cases animated with
  | false => exact h.dismiss
  | true =>
    have hnone := (h.unselected hd).1
    refine drawn_of_unselected hnone (fun action ha => h.scale action ha (hnone action ha))
      (fun i action ha hi => ?_) ?_ fun hd => by cases hd
    · exact h.shown i action ha (hnone action (List.mem_of_getElem? ha)) fun hmem => hi (List.mem_append_left _ hmem)
    · show ∀ b ∈ (m.mainQueue ++ [(MenuBlock.actionSelected, index)]).dropLast, b.1 = .highlightActionView
      rw [List.dropLast_concat]
      exact (h.unselected hd).2

/-- While a block is left, nothing has been selected. -/
theorem Drawn.selection_of_mainQueue (h : m.Drawn) (hq : m.mainQueue ≠ []) {action : PopMenuAction}
    (ha : action ∈ m.actions) : action.selection = none := by
  cases hs : action.selection with
  | none => rfl
  | some animation => exact absurd (h.selected action ha animation hs).2 hq

section Turn

variable {block : MenuBlock} {mainQueue : List (MenuBlock × ℕ)}

theorem mainQueue_turn (hq : m.mainQueue = (block, index) :: mainQueue) : m.turn.mainQueue = mainQueue := by
  unfold turn
  rw [hq]

/-- What a view was before a turn. -/
theorem exists_of_turn (hq : m.mainQueue = (block, index) :: mainQueue) {action : PopMenuAction}
    (ha : m.turn.actions[i]? = some action) :
    ∃ old, m.actions[i]? = some old ∧ action = if index = i then old.run block else old := by
  rw [getElem?_turn, hq, Option.map_eq_some_iff] at ha
  obtain ⟨old, ho, rfl⟩ := ha
  exact ⟨old, ho, rfl⟩

/-- A turn that scales a view. -/
theorem Drawn.turn_highlightActionView (h : m.Drawn)
    (hq : m.mainQueue = (.highlightActionView, index) :: mainQueue) : m.turn.Drawn := by
  have hnone : ∀ i old, m.actions[i]? = some old → PopMenuAction.selection old = none := fun i old ho =>
    h.selection_of_mainQueue (hq ▸ List.cons_ne_nil _ _) (List.mem_of_getElem? ho)
  have hnone' : ∀ action ∈ m.turn.actions, action.selection = none := by
    intro action ha
    obtain ⟨i, hi⟩ := List.mem_iff_getElem?.mp ha
    obtain ⟨old, ho, rfl⟩ := exists_of_turn hq hi
    split <;> exact hnone i old ho
  refine drawn_of_unselected hnone' (fun action ha => ?_) (fun i action ha hi => ?_) (fun b hb => ?_) fun hd b hb => ?_
  · obtain ⟨i, hi⟩ := List.mem_iff_getElem?.mp ha
    obtain ⟨old, ho, rfl⟩ := exists_of_turn hq hi
    split
    · show old.transform = 1 ∨ old.transform = 1.09
      unfold PopMenuAction.transform
      split <;> simp
    · exact h.scale old (List.mem_of_getElem? ho) (hnone i old ho)
  · obtain ⟨old, ho, rfl⟩ := exists_of_turn hq ha
    split
    next => rfl
    next hne =>
      refine h.shown i old ho (hnone i old ho) ?_
      rw [Waits, mainQueue_turn hq] at hi
      rw [Waits, hq, List.mem_cons, not_or, Prod.mk.injEq, not_and]
      exact ⟨fun _ => Ne.symm hne, hi⟩
  · rw [mainQueue_turn hq] at hb
    refine h.last b ?_
    rw [hq]
    cases mainQueue with
    | nil => cases hb
    | cons b' mainQueue => exact List.mem_cons_of_mem _ hb
  · rw [dismissed_turn] at hd
    rw [mainQueue_turn hq] at hb
    refine (h.unselected hd).2 b ?_
    rw [hq]
    exact List.mem_cons_of_mem _ hb

/-- A turn that selects a view. -/
theorem Drawn.turn_actionSelected (h : m.Drawn) (hq : m.mainQueue = (.actionSelected, index) :: mainQueue) :
    m.turn.Drawn := by
  have hnone : ∀ i old, m.actions[i]? = some old → PopMenuAction.selection old = none := fun i old ho =>
    h.selection_of_mainQueue (hq ▸ List.cons_ne_nil _ _) (List.mem_of_getElem? ho)
  obtain rfl : mainQueue = [] := by
    cases mainQueue with
    | nil => rfl
    | cons b mainQueue => cases h.last (.actionSelected, index) (hq ▸ List.mem_cons_self)
  have hd : m.dismissed = true := by
    rw [← Bool.not_eq_false]
    intro hd
    cases (h.unselected hd).2 (.actionSelected, index) (hq ▸ List.mem_cons_self)
  -- a view not selected is as it was
  have hsame : ∀ (i : ℕ) (action : PopMenuAction), m.turn.actions[i]? = some action → action.selection = none →
      m.actions[i]? = some action := by
    intro i action ha hsel
    obtain ⟨old, ho, rfl⟩ := exists_of_turn hq ha
    split at hsel
    · cases hsel
    next hne => rwa [if_neg hne]
  -- and only the first view on the queue is selected
  have hindex : ∀ (i : ℕ) (action : PopMenuAction), m.turn.actions[i]? = some action → action.selection ≠ none →
      index = i ∧ ∃ old : PopMenuAction, action = old.animate .first := by
    intro i action ha hsel
    obtain ⟨old, ho, rfl⟩ := exists_of_turn hq ha
    split at hsel
    next hi =>
      rw [if_pos hi]
      exact ⟨hi, old, rfl⟩
    next => exact absurd (hnone i old ho) hsel
  exact {
    scale := fun action ha hsel => by
      obtain ⟨i, hi⟩ := List.mem_iff_getElem?.mp ha
      exact h.scale action (List.mem_of_getElem? (hsame i action hi hsel)) hsel
    shown := fun i action ha hsel _ => h.shown i action (hsame i action ha hsel) hsel (by simp [Waits, hq])
    selected := fun action ha animation hs => by
      obtain ⟨i, hi⟩ := List.mem_iff_getElem?.mp ha
      obtain ⟨-, old, rfl⟩ := hindex i action hi (Option.ne_none_iff_exists'.mpr ⟨animation, hs⟩)
      cases hs
      exact ⟨rfl, mainQueue_turn hq⟩
    single := fun i j a b ha hb hsa hsb => (hindex i a ha hsa).1.symm.trans (hindex j b hb hsb).1
    last := fun b hb => by
      rw [mainQueue_turn hq] at hb
      cases hb
    unselected := fun hd' => by
      rw [dismissed_turn, hd] at hd'
      cases hd' }

end Turn

/-- **A turn of the main queue leaves the views drawn.** -/
theorem Drawn.turn (h : m.Drawn) : m.turn.Drawn := by
  cases hq : m.mainQueue with
  | nil =>
    have hm : m.turn = m := by
      unfold PopMenuViewController.turn
      rw [hq]
    rwa [hm]
  | cons b mainQueue =>
    obtain ⟨block, index⟩ := b
    cases block with
    | highlightActionView => exact h.turn_highlightActionView hq
    | actionSelected => exact h.turn_actionSelected hq

/-- The end of its first animation sets a selected view back. -/
theorem Drawn.completion (h : m.Drawn) : (m.completion index).Drawn := by
  have hold : ∀ i action, (m.completion index).actions[i]? = some action → ∃ old ∈ m.actions, m.actions[i]? = some old ∧
      action = if index = i ∧ PopMenuAction.selection old = some .first then old.animate .second else old := by
    intro i action ha
    rw [getElem?_completion, Option.map_eq_some_iff] at ha
    obtain ⟨old, ho, rfl⟩ := ha
    exact ⟨old, List.mem_of_getElem? ho, ho, rfl⟩
  -- a view not selected is as it was
  have hsame : ∀ (i : ℕ) (action : PopMenuAction), (m.completion index).actions[i]? = some action →
      action.selection = none → m.actions[i]? = some action := by
    intro i action ha hsel
    obtain ⟨old, -, ho, rfl⟩ := hold i action ha
    split at hsel
    · cases hsel
    next hne => rwa [if_neg hne]
  exact {
    scale := fun action ha hsel => by
      obtain ⟨i, hi⟩ := List.mem_iff_getElem?.mp ha
      exact h.scale action (List.mem_of_getElem? (hsame i action hi hsel)) hsel
    shown := fun i action ha hsel hi => h.shown i action (hsame i action ha hsel) hsel hi
    selected := fun action ha animation hs => by
      obtain ⟨i, hi⟩ := List.mem_iff_getElem?.mp ha
      obtain ⟨old, hmem, -, rfl⟩ := hold i action hi
      split at hs
      next he =>
        cases hs
        rw [if_pos he]
        exact ⟨rfl, (h.selected old hmem _ he.2).2⟩
      next hne =>
        rw [if_neg hne]
        exact h.selected old hmem animation hs
    single := by
      have hsel : ∀ (i : ℕ) (action : PopMenuAction), (m.completion index).actions[i]? = some action →
          action.selection ≠ none → ∃ old, m.actions[i]? = some old ∧ PopMenuAction.selection old ≠ none := by
        intro i action ha hsel
        obtain ⟨old, -, ho, rfl⟩ := hold i action ha
        refine ⟨old, ho, ?_⟩
        split at hsel
        next he => simp [he.2]
        next => exact hsel
      intro i j a b ha hb hsa hsb
      obtain ⟨a', ha', hsa'⟩ := hsel i a ha hsa
      obtain ⟨b', hb', hsb'⟩ := hsel j b hb hsb
      exact h.single i j a' b' ha' hb' hsa' hsb'
    last := h.last
    unselected := fun hd => by
      refine ⟨fun action ha => ?_, (h.unselected hd).2⟩
      obtain ⟨i, hi⟩ := List.mem_iff_getElem?.mp ha
      obtain ⟨old, hmem, -, rfl⟩ := hold i action hi
      have hnone := (h.unselected hd).1 old hmem
      rw [if_neg (by simp [hnone])]
      exact hnone }

/-- What a run keeps. -/
structure Right (m : PopMenuViewController) : Prop extends m.Drawn where
  one : ∀ i j, m.isHighlighted i = true → m.isHighlighted j = true → i = j

theorem isHighlighted_setAllHighlighted_false (indices : List ℕ) :
    (m.setAllHighlighted false indices).isHighlighted i = true ↔ m.isHighlighted i = true ∧ i ∉ indices := by
  rw [isHighlighted, isHighlighted, getElem?_setAllHighlighted, Option.any_map]
  by_cases hi : i ∈ indices <;> cases m.actions[i]? <;> simp [hi]

theorem isHighlighted_setHighlighted_true (hindex : index < m.actions.length) :
    (m.setHighlighted true index).isHighlighted i = true ↔ m.isHighlighted i = true ∨ i = index := by
  rw [isHighlighted, isHighlighted, getElem?_setHighlighted, Option.any_map]
  by_cases hi : index = i
  · subst hi
    simp [List.getElem?_eq_getElem hindex]
  · simp only [hi, if_false, Ne.symm hi, or_false]

variable {x y : ℚ}

/-- **Which action is under the finger**: the first with a frame that it is in. -/
theorem associatedActionIndex_eq_some_iff : m.associatedActionIndex x y = some index ↔
    m.TouchedInsideContent x y ∧
      (∃ action, m.actions[index]? = some action ∧ (m.viewFrame index action).Contains x (y - 4)) ∧
      ∀ j < index, ∀ action, m.actions[j]? = some action → ¬(m.viewFrame j action).Contains x (y - 4) := by
  unfold associatedActionIndex
  split
  next ht =>
    rw [List.findIdx?_eq_some_iff_getElem]
    constructor
    · rintro ⟨hlt, hc, hfirst⟩
      rw [List.length_mapIdx] at hlt
      simp only [List.getElem_mapIdx, decide_eq_true_eq] at hc hfirst
      refine ⟨ht, ⟨_, List.getElem?_eq_getElem hlt, hc⟩, fun j hj action ha => ?_⟩
      obtain ⟨hj', rfl⟩ := List.getElem?_eq_some_iff.mp ha
      exact hfirst j hj
    · rintro ⟨-, ⟨action, ha, hc⟩, hfirst⟩
      obtain ⟨hlt, rfl⟩ := List.getElem?_eq_some_iff.mp ha
      refine ⟨by rwa [List.length_mapIdx], ?_, fun j hj => ?_⟩
      · simpa only [List.getElem_mapIdx, decide_eq_true_eq] using hc
      · have hj' := hfirst j hj _ (List.getElem?_eq_getElem (hj.trans hlt))
        simpa only [List.getElem_mapIdx, decide_eq_true_eq] using hj'
  next ht => exact iff_of_false (fun hn => by cases hn) fun hn => ht hn.1

theorem lt_length_of_associatedActionIndex (h : m.associatedActionIndex x y = some index) :
    index < m.actions.length := by
  obtain ⟨-, ⟨action, ha, -⟩, -⟩ := associatedActionIndex_eq_some_iff.mp h
  exact (List.getElem?_eq_some_iff.mp ha).1

/-- **A finger on an action highlights it, and no other.** -/
theorem isHighlighted_menuDidPan (h : m.Right) (hindex : m.associatedActionIndex x y = some index) :
    (m.menuDidPan x y .changed).1.isHighlighted i = true ↔ i = index := by
  have hlt := lt_length_of_associatedActionIndex hindex
  simp only [menuDidPan, hindex]
  cases hh : m.isHighlighted index with
  | true =>
    rw [if_pos rfl]
    constructor
    · intro hi
      exact h.one i index hi hh
    · rintro rfl
      exact hh
  | false =>
    simp only [Bool.false_eq_true, if_false]
    rw [isHighlighted_setAllHighlighted_false, isHighlighted_setHighlighted_true hlt]
    constructor
    · rintro ⟨hi, hn⟩
      by_contra hne
      have hi := lt_length_of_isHighlighted ((or_iff_left hne).mp hi)
      rw [← kept_setHighlighted.length] at hi
      exact hn (List.mem_filter.mpr ⟨List.mem_range.mpr hi, decide_eq_true hne⟩)
    · rintro rfl
      exact ⟨.inr rfl, fun hn => of_decide_eq_true (List.mem_filter.mp hn).2 rfl⟩

/-- **What a moving finger can do**: nothing, or highlight an action and then unhighlight others. -/
theorem menuDidPan_changed_cases (m : PopMenuViewController) (x y : ℚ) :
    (m.menuDidPan x y .changed).1 = m ∨ ∃ index others,
      (m.menuDidPan x y .changed).1 = (m.setHighlighted true index).setAllHighlighted false others := by
  simp only [menuDidPan]
  split
  next index hindex =>
    split
    next => exact .inl rfl
    next => exact .inr ⟨index, _, rfl⟩
  next => exact .inl rfl

theorem kept_menuDidPan_changed : Kept m (m.menuDidPan x y .changed).1 := by
  rcases menuDidPan_changed_cases m x y with h | ⟨index, others, h⟩ <;> rw [h]
  · exact .refl m
  · exact kept_setHighlighted.trans (kept_setAllHighlighted _)

theorem Drawn.menuDidPan (h : m.Drawn) (hd : m.dismissed = false) (state : PanState) :
    (m.menuDidPan x y state).1.Drawn := by
  have hchanged : (m.menuDidPan x y .changed).1.Drawn := by
    rcases menuDidPan_changed_cases m x y with hm | ⟨index, others, hm⟩ <;> rw [hm]
    · exact h
    · exact (h.setHighlighted hd).setAllHighlighted (kept_setHighlighted.dismissed.trans hd) _
  cases state with
  | began => exact hchanged
  | changed => exact hchanged
  | ended =>
    simp only [PopMenuViewController.menuDidPan]
    have hset : (m.setAllHighlighted false m.highlightedActions).Drawn := h.setAllHighlighted hd _
    split
    next index hindex => exact hset.actionDidSelect ((kept_setAllHighlighted _).dismissed.trans hd) false
    next => exact hset
  | cancelled => exact h

theorem Right.menuDidPan_changed (h : m.Right) (hd : m.dismissed = false) :
    (m.menuDidPan x y .changed).1.Right := by
  refine { toDrawn := h.toDrawn.menuDidPan hd .changed, one := fun i j hi hj => ?_ }
  cases hf : m.associatedActionIndex x y with
  | none =>
    simp only [menuDidPan, hf] at hi hj
    exact h.one i j hi hj
  | some index => rw [(isHighlighted_menuDidPan h hf).mp hi, (isHighlighted_menuDidPan h hf).mp hj]

/-- A menu that takes a touch is not dismissed. -/
theorem dismissed_of_not {p : Prop} (h : ¬(m.dismissed = true ∨ p)) : m.dismissed = false :=
  Bool.eq_false_iff.mpr fun hd => h (.inl hd)

/-- **Every event keeps it.** -/
theorem Right.step (h : m.Right) (e : MenuEvent) : (step e m).1.Right := by
  cases e with
  | pan state x y =>
    simp only [PopMenuViewController.step]
    split
    next => exact h
    next hif =>
      have hd := dismissed_of_not hif
      cases state with
      | began => exact h.menuDidPan_changed hd
      | changed => exact h.menuDidPan_changed hd
      | ended =>
        refine { toDrawn := h.toDrawn.menuDidPan hd .ended, one := fun i j hi => ?_ }
        -- nothing is highlighted any more
        have hi : (m.setAllHighlighted false m.highlightedActions).isHighlighted i = true := by
          simp only [menuDidPan] at hi
          split at hi <;> exact hi
        obtain ⟨hi, hn⟩ := (isHighlighted_setAllHighlighted_false _).mp hi
        exact absurd (List.mem_filter.mpr ⟨List.mem_range.mpr (lt_length_of_isHighlighted hi), hi⟩) hn
      | cancelled => exact h
  | tap index =>
    simp only [PopMenuViewController.step]
    split
    next => exact h
    next hif => exact { toDrawn := h.toDrawn.actionDidSelect (dismissed_of_not hif) true, one := h.one }
  | backgroundTap x y =>
    simp only [PopMenuViewController.step]
    split
    next => exact h
    next => exact { toDrawn := h.toDrawn.dismiss, one := h.one }
  | turn =>
    refine { toDrawn := h.toDrawn.turn, one := fun i j hi hj => h.one i j ?_ ?_ }
    · rwa [← isHighlighted_turn]
    · rwa [← isHighlighted_turn]
  | completion index =>
    refine { toDrawn := h.toDrawn.completion, one := fun i j hi hj => h.one i j ?_ ?_ }
    · rwa [← isHighlighted_completion]
    · rwa [← isHighlighted_completion]

/-- The state after an event. -/
def next (e : MenuEvent) (m : PopMenuViewController) : PopMenuViewController := (step e m).1

theorem right_shown (titles : List String) (contentWidth : ℚ) : (shown titles contentWidth).Right := by
  have hmem : ∀ action ∈ (shown titles contentWidth).actions, ∃ title, action = { title } := by
    intro action ha
    obtain ⟨title, -, rfl⟩ := List.mem_map.mp ha
    exact ⟨title, rfl⟩
  refine { toDrawn := drawn_of_unselected ?_ ?_ ?_ ?_ ?_, one := fun i j hi => ?_ }
  · intro action ha
    obtain ⟨title, rfl⟩ := hmem action ha
    rfl
  · intro action ha
    obtain ⟨title, rfl⟩ := hmem action ha
    exact .inl rfl
  · intro i action ha _
    obtain ⟨title, rfl⟩ := hmem action (List.mem_of_getElem? ha)
    rfl
  · intro b hb
    cases hb
  · intro _ b hb
    cases hb
  · obtain ⟨action, ha, hh⟩ := isHighlighted_eq_true_iff.mp hi
    obtain ⟨title, rfl⟩ := hmem action (List.mem_of_getElem? ha)
    cases hh

/-- What is selected, or waits to be, was tapped. -/
structure Tapped (es : List MenuEvent) (m : PopMenuViewController) : Prop where
  waiting : ∀ i, (MenuBlock.actionSelected, i) ∈ m.mainQueue → .tap i ∈ es
  selected : ∀ i action, m.actions[i]? = some action → PopMenuAction.selection action ≠ none → .tap i ∈ es

/-- Nothing is selected before the menu is dismissed. -/
theorem Drawn.tapped (h : m.Drawn) (hd : m.dismissed = false) (es : List MenuEvent) : Tapped es m where
  waiting i hi := by cases (h.unselected hd).2 _ hi
  selected i action ha hsel := absurd ((h.unselected hd).1 action (List.mem_of_getElem? ha)) hsel

theorem Tapped.turn {es : List MenuEvent} (h : m.Tapped es) : m.turn.Tapped es where
  waiting i hi := by
    refine h.waiting i ?_
    unfold PopMenuViewController.turn at hi
    split at hi
    next block index mainQueue hq =>
      rw [hq]
      exact List.mem_cons_of_mem _ hi
    next => exact hi
  selected i action ha hsel := by
    rw [getElem?_turn, Option.map_eq_some_iff] at ha
    obtain ⟨old, ho, rfl⟩ := ha
    split at hsel
    next block index hq =>
      split at hsel
      next hi =>
        cases block with
        | highlightActionView => exact h.selected i old ho hsel
        | actionSelected => exact h.waiting i (hi ▸ List.mem_of_head? hq)
      next => exact h.selected i old ho hsel
    next => exact h.selected i old ho hsel

theorem Tapped.completion {es : List MenuEvent} (h : m.Tapped es) : (m.completion index).Tapped es where
  waiting := h.waiting
  selected i action ha hsel := by
    rw [getElem?_completion, Option.map_eq_some_iff] at ha
    obtain ⟨old, ho, rfl⟩ := ha
    refine h.selected i old ho ?_
    split at hsel
    next he => simp [he.2]
    next => exact hsel

/-- **Every event selects only what is tapped.** -/
theorem Tapped.step {es : List MenuEvent} (h : m.Tapped es) (hr : m.Right) {e : MenuEvent} (he : e ∈ es) :
    (step e m).1.Tapped es := by
  cases e with
  | pan state x y =>
    simp only [PopMenuViewController.step]
    split
    next => exact h
    next hif =>
      have hd := dismissed_of_not hif
      have hchanged : (m.menuDidPan x y .changed).1.Tapped es :=
        (hr.menuDidPan_changed hd).toDrawn.tapped (kept_menuDidPan_changed.dismissed.trans hd) es
      cases state with
      | began => exact hchanged
      | changed => exact hchanged
      | ended =>
        have hset : (m.setAllHighlighted false m.highlightedActions).Tapped es :=
          (hr.toDrawn.setAllHighlighted hd _).tapped ((kept_setAllHighlighted _).dismissed.trans hd) es
        simp only [menuDidPan]
        split
        next => exact ⟨hset.waiting, hset.selected⟩
        next => exact hset
      | cancelled => exact h
  | tap index =>
    simp only [PopMenuViewController.step]
    split
    next => exact h
    next =>
      refine ⟨fun i hi => ?_, h.selected⟩
      rcases List.mem_append.mp hi with hi | hi
      · exact h.waiting i hi
      · cases List.mem_singleton.mp hi
        exact he
  | backgroundTap x y =>
    simp only [PopMenuViewController.step]
    split
    next => exact h
    next => exact ⟨h.waiting, h.selected⟩
  | turn => exact h.turn
  | completion index => exact h.completion

theorem right_reach (titles : List String) (contentWidth : ℚ) (es : List MenuEvent) :
    (reach next es (shown titles contentWidth)).Right :=
  reach_inv (I := Right) (fun e _ h => h.step e) es (right_shown titles contentWidth)

/-- What a view shows at a scale, it shows at a larger one. -/
theorem contains_viewFrame_mono {a b : PopMenuAction} (ha : 0 < a.scale) (hab : a.scale ≤ b.scale)
    (h : (m.viewFrame i a).Contains x y) : (m.viewFrame i b).Contains x y := by
  obtain ⟨⟨hx, hx'⟩, hy, hy'⟩ := h
  simp only [viewFrame, CGRect.maxX] at hx hx' hy hy'
  have hw : 0 < m.contentWidth := (mul_pos_iff_of_pos_left ha).mp (by linarith)
  have hr : 0 < m.rowHeight := (mul_pos_iff_of_pos_left ha).mp (by linarith)
  have hw' := mul_le_mul_of_nonneg_right hab hw.le
  have hr' := mul_le_mul_of_nonneg_right hab hr.le
  refine ⟨⟨?_, ?_⟩, ?_, ?_⟩ <;> simp only [viewFrame, CGRect.maxX] <;> linarith

/-- The finger is on an action, which alone is highlighted. -/
structure Held (x y : ℚ) (index : ℕ) (m : PopMenuViewController) : Prop extends m.Right where
  dismissed : m.dismissed = false
  found : m.associatedActionIndex x y = some index
  alone : ∀ i, m.isHighlighted i = true ↔ i = index

theorem sameSize_turn : SameSize m m.turn := by
  unfold turn
  split
  next => exact ⟨List.length_modify .., rfl, rfl⟩
  next => exact .refl m

/-- Before the menu is dismissed, a turn of the queue shows whether an action is highlighted. -/
theorem Drawn.getElem?_turn (h : m.Drawn) (hd : m.dismissed = false) : m.turn.actions[i]? =
    m.actions[i]?.map fun action =>
      if m.mainQueue.head? = some (.highlightActionView, i) then { action with scale := action.transform }
      else action := by
  rw [PopMenuViewController.getElem?_turn]
  congr 1
  funext action
  cases hq : m.mainQueue.head? with
  | none => rfl
  | some b =>
    obtain ⟨block, index⟩ := b
    obtain rfl : block = .highlightActionView := (h.unselected hd).2 _ (List.mem_of_head? hq)
    by_cases hi : index = i
    · subst hi
      simp [PopMenuAction.run]
    · simp [hi]

/-- **A turn of the queue leaves a finger that stays on its action**: the view under the finger only grows, and those
before it only shrink. -/
theorem Held.turn (h : m.Held x y index) : m.turn.Held x y index := by
  obtain ⟨ht, ⟨action, ha, hc⟩, hfirst⟩ := associatedActionIndex_eq_some_iff.mp h.found
  refine {
    toRight := h.toRight.step .turn
    dismissed := dismissed_turn.trans h.dismissed
    found := ?_
    alone := fun i => by rw [isHighlighted_turn, h.alone] }
  have ha' := (h.toDrawn.getElem?_turn h.dismissed).trans (congrArg _ ha)
  refine associatedActionIndex_eq_some_iff.mpr ⟨?_, ⟨_, ha', ?_⟩, fun j hj b hb hbc => ?_⟩
  · exact (sameSize_turn.touchedInsideContent x y).mpr ht
  · rw [sameSize_turn.viewFrame]
    split
    next =>
      obtain ⟨action', ha', hh⟩ := isHighlighted_eq_true_iff.mp ((h.alone index).mpr rfl)
      obtain rfl : action = action' := Option.some.inj (ha.symm.trans ha')
      have hgrown : action.transform = 1.09 := if_pos hh
      obtain ⟨hlo, hhi⟩ := h.scale_bounds h.dismissed ha
      exact contains_viewFrame_mono (one_pos.trans_le hlo) (hhi.trans_eq hgrown.symm) hc
    next => exact hc
  · rw [h.toDrawn.getElem?_turn h.dismissed, Option.map_eq_some_iff] at hb
    obtain ⟨old, hold, rfl⟩ := hb
    rw [sameSize_turn.viewFrame] at hbc
    refine hfirst j hj old hold ?_
    split at hbc
    next =>
      have hh : old.highlighted = false := by
        rw [← Bool.not_eq_true]
        intro hh
        have := (h.alone j).mp (isHighlighted_eq_true_iff.mpr ⟨old, hold, hh⟩)
        omega
      have hshrunk : old.transform = 1 := by
        rw [PopMenuAction.transform, hh]
        rfl
      obtain ⟨hlo, -⟩ := h.scale_bounds h.dismissed hold
      exact contains_viewFrame_mono (one_pos.trans_eq hshrunk.symm) (hshrunk.trans_le hlo) hbc
    next => exact hbc

/-- **A finger on an action holds it.** -/
theorem held_menuDidPan (h : m.Right) (hd : m.dismissed = false) (hindex : m.associatedActionIndex x y = some index) :
    (m.menuDidPan x y .changed).1.Held x y index where
  toRight := h.menuDidPan_changed hd
  dismissed := kept_menuDidPan_changed.dismissed.trans hd
  found := (kept_menuDidPan_changed.associatedActionIndex x y).trans hindex
  alone _ := isHighlighted_menuDidPan h hindex

/-- Between the rows' ends, a finger is on an action. -/
theorem exists_associatedActionIndex (h : m.Drawn) (hd : m.dismissed = false) (hn : 0 < m.actions.length)
    (hx : 0 ≤ x ∧ x < m.contentWidth) (hy : 4 ≤ y ∧ y < m.contentHeight - 4) :
    ∃ index, m.associatedActionIndex x y = some index := by
  have hn' : (0 : ℚ) < m.actions.length := by exact_mod_cast hn
  have hrows : m.rowHeight * m.actions.length = m.contentHeight - 8 := div_mul_cancel₀ _ hn'.ne'
  have hr : 0 < m.rowHeight := div_pos (by linarith) hn'
  -- the row the finger is in
  have hlo : (⌊(y - 4) / m.rowHeight⌋₊ : ℚ) ≤ (y - 4) / m.rowHeight :=
    Nat.floor_le (div_nonneg (by linarith) hr.le)
  have hhi : (y - 4) / m.rowHeight < ⌊(y - 4) / m.rowHeight⌋₊ + 1 := Nat.lt_floor_add_one _
  rw [le_div_iff₀ hr] at hlo
  rw [div_lt_iff₀ hr] at hhi
  generalize ⌊(y - 4) / m.rowHeight⌋₊ = j at hlo hhi
  have hj : j < m.actions.length := by
    have : (j : ℚ) * m.rowHeight < m.actions.length * m.rowHeight := by linarith
    exact_mod_cast lt_of_mul_lt_mul_right this hr.le
  have hrow : (m.viewFrame j { m.actions[j] with scale := 1 }).Contains x (y - 4) := by
    refine ⟨⟨?_, ?_⟩, ?_, ?_⟩ <;> simp only [viewFrame, CGRect.maxX] <;> linarith
  have hview : (m.viewFrame j m.actions[j]).Contains x (y - 4) :=
    contains_viewFrame_mono one_pos (h.scale_bounds hd (List.getElem?_eq_getElem hj)).1 hrow
  have htouched : m.TouchedInsideContent x y := by
    refine ⟨⟨hx.1, ?_⟩, ?_, ?_⟩ <;> simp only [CGRect.maxX] <;> linarith
  refine Option.ne_none_iff_exists'.mp fun hnone => ?_
  rw [associatedActionIndex, if_pos htouched, List.findIdx?_eq_none_iff] at hnone
  have hmem : m.viewFrame j m.actions[j] ∈ m.actions.mapIdx m.viewFrame :=
    List.mem_mapIdx.mpr ⟨j, hj, rfl⟩
  exact absurd hview (of_decide_eq_false (hnone _ hmem))

theorem sameSize_step (e : MenuEvent) (m : PopMenuViewController) : SameSize m (step e m).1 := by
  cases e with
  | pan state x y =>
    simp only [step]
    split
    next => exact .refl m
    next =>
      cases state with
      | began => exact kept_menuDidPan_changed.toSameSize
      | changed => exact kept_menuDidPan_changed.toSameSize
      | ended =>
        simp only [menuDidPan]
        split
        next => exact (kept_setAllHighlighted _).toSameSize.trans ⟨rfl, rfl, rfl⟩
        next => exact (kept_setAllHighlighted _).toSameSize
      | cancelled => exact .refl m
  | tap index =>
    simp only [step]
    split <;> exact ⟨rfl, rfl, rfl⟩
  | backgroundTap x y =>
    simp only [step]
    split <;> exact ⟨rfl, rfl, rfl⟩
  | turn => exact sameSize_turn
  | completion index => exact ⟨List.length_modify .., rfl, rfl⟩

/-- What a finger that stays does: it is seen where it is, and the main queue takes turns. -/
def Stays (x y : ℚ) (e : MenuEvent) : Prop := e = .turn ∨ e = .pan .began x y ∨ e = .pan .changed x y

/-- **A finger that stays holds its action.** -/
theorem Held.stays (h : m.Held x y index) {e : MenuEvent} (he : Stays x y e) : (step e m).1.Held x y index := by
  have hpan : (if m.dismissed ∨ m.isScrollable then (m, none) else m.menuDidPan x y .changed).1.Held x y index := by
    split
    next => exact h
    next => exact held_menuDidPan h.toRight h.dismissed h.found
  rcases he with rfl | rfl | rfl
  · exact h.turn
  · exact hpan
  · exact hpan

/-- A finger lifted where it stays selects the action it is on. -/
theorem Held.selects (h : m.Held x y index) (hscroll : m.isScrollable = false) :
    (step (.pan .ended x y) m).2 = some index := by
  have hif : ¬(m.dismissed = true ∨ m.isScrollable = true) := by
    rw [h.dismissed, hscroll]
    simp
  have hkept : Kept m (m.setAllHighlighted false m.highlightedActions) := kept_setAllHighlighted _
  have hfound := (hkept.associatedActionIndex x y).trans h.found
  simp only [step, if_neg hif, menuDidPan, hfound]
  rfl

/-- Its view reaches the finger. -/
theorem Held.near (h : m.Held x y index) :
    |y - 4 - (index + 1 / 2) * m.rowHeight| ≤ 1.09 * m.rowHeight / 2 := by
  obtain ⟨-, ⟨action, ha, -, hlo, hhi⟩, -⟩ := associatedActionIndex_eq_some_iff.mp h.found
  simp only [viewFrame] at hlo hhi
  rw [abs_le]
  have hmem := List.mem_of_getElem? ha
  rcases h.scale action hmem ((h.unselected h.dismissed).1 action hmem) with hs | hs <;> rw [hs] at hlo hhi <;>
    constructor <;> linarith

/-- **What a pan selects is what it shows highlighted.** In every run of a menu of fewer than six actions that is not
yet dismissed: a finger that is seen in the rows and stays, whatever turns the main queue takes, has one
action alone highlighted, and selects it when it is lifted; and that action's row is the one the finger is in, or
one whose scaled view reaches it. -/
theorem pan_selects_highlighted {titles : List String} {contentWidth : ℚ} {es es' : List MenuEvent} {state : PanState}
    (hcount : titles.length < 6) (hd : (reach next es (shown titles contentWidth)).dismissed = false)
    (hx : 0 ≤ x ∧ x < contentWidth) (hy : 4 ≤ y ∧ y < titles.length * 50 - 4)
    (hstate : state = .began ∨ state = .changed) (hes : ∀ e ∈ es', Stays x y e) :
    let m := reach next (es ++ .pan state x y :: es') (shown titles contentWidth)
    ∃ index < titles.length, (∀ i, m.isHighlighted i = true ↔ i = index) ∧
      (step (.pan .ended x y) m).2 = some index ∧
      |y - 4 - (index + 1 / 2) * m.rowHeight| ≤ 1.09 * m.rowHeight / 2 := by
  intro m
  have hsize : ∀ es, SameSize (shown titles contentWidth) (reach next es (shown titles contentWidth)) := fun es =>
    reach_inv (I := SameSize (shown titles contentWidth)) (fun e m h => h.trans (sameSize_step e m)) es (.refl _)
  have hlength : (shown titles contentWidth).actions.length = titles.length := List.length_map ..
  have hscroll : (shown titles contentWidth).isScrollable = false := by
    rw [isScrollable, hlength]
    exact decide_eq_false (by show ¬6 ≤ titles.length; omega)
  have hheight : (shown titles contentWidth).contentHeight = titles.length * 50 := by
    rw [contentHeight, hscroll, hlength]
    rfl
  have hpos : 0 < titles.length := by
    rcases Nat.eq_zero_or_pos titles.length with h0 | hpos
    · rw [h0] at hy
      norm_num at hy
      linarith
    · exact hpos
  -- the finger is seen
  set s := reach next es (shown titles contentWidth) with hs
  obtain ⟨index, hindex⟩ := exists_associatedActionIndex (right_reach titles contentWidth es).toDrawn hd
    (by rw [(hsize es).length, hlength]; exact hpos) (by rw [(hsize es).contentWidth]; exact hx)
    (by rw [(hsize es).contentHeight, hheight]; exact hy)
  have hpan : next (.pan state x y) s = (s.menuDidPan x y .changed).1 := by
    have hif : ¬(s.dismissed = true ∨ s.isScrollable = true) := by
      rw [hd, (hsize es).isScrollable, hscroll]
      simp
    rcases hstate with rfl | rfl <;> exact congrArg Prod.fst (if_neg hif)
  -- and stays
  have hheld : m.Held x y index := by
    have hreach : m = reach next es' (next (.pan state x y) s) := by rw [hs, ← reach_cons, ← reach_append]
    rw [hreach]
    refine reach_inv_of_mem (I := Held x y index) (fun e he m h => h.stays (hes e he)) ?_
    rw [hpan]
    exact held_menuDidPan (right_reach titles contentWidth es) hd hindex
  have hlt := lt_length_of_associatedActionIndex hheld.found
  refine ⟨index, ?_, hheld.alone, ?_, hheld.near⟩
  · rwa [(hsize _).length, hlength] at hlt
  · exact hheld.selects ((hsize _).isScrollable.trans hscroll)

/-- The finger comes to the second row, whose view is scaled, and goes up into the first, which that view reaches. -/
def upAgain : List MenuEvent := [.pan .began 10 60, .turn, .pan .changed 10 53]

theorem pan_selects_highlighted_upAgain :
    let m := reach next (upAgain ++ .pan .changed 10 51 :: [.turn, .turn]) (shown MyRootViewController.addActions 200)
    ∃ index < MyRootViewController.addActions.length, (∀ i, m.isHighlighted i = true ↔ i = index) ∧
      (step (.pan .ended 10 51) m).2 = some index ∧
      |51 - 4 - (index + 1 / 2) * m.rowHeight| ≤ 1.09 * m.rowHeight / 2 :=
  pan_selects_highlighted (by decide) (by decide +kernel) (by norm_num) (by norm_num [MyRootViewController.addActions])
    (.inr rfl) (by simp [Stays])

end PopMenuViewController

end Booster
