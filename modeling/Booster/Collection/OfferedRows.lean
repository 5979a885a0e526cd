import Booster.Collection.Calls
import Booster.Controllers.ProfileTaps

/-!
# When a tapped row is a row

The Profile screen's collection view offers the rows it counted at the last
`reloadData`; a tap on one indexes `results`, which may have changed since. The two
agree after every `reloadData` (`fits_reloadCollectionView`), and a deletion that fails changes
neither. What parts them is a fetch that throws after `results` was emptied:
`fetchGamesFromCoreData` and `fetchGamesWithStatus` leave the view as it was then, and
nobody reloads it, unless the delegate's `reloadData` called the fetch.

`Op.KeepsRows` says when an operation leaves every offered row valid, and
`rows_throughout_iff` says it of a whole run of a process, whatever throws in it.
-/

namespace Booster

open Theory

/-- A row the collection view can hand back. -/
def App.Offers (s : App) (row : ℕ) : Prop := ∃ n ∈ s.profile.collectionView, row < n

/-- A row of `results`, on which none of the three functions a tap leads to indexes past the end. -/
structure RowValid (s : App) (row : ℕ) : Prop where
  /-- It is smaller than `results.count`. -/
  lt : row < s.profile.results.length
  /-- `imageTapped(at:)`. -/
  imageTapped : ProfileController.imageTapped row s ≠ .error (.outOfRange "results[rowOfIndexPath.row]")
  /-- `updateGameInCoreData(at:withNewStatus:)`. -/
  updateGameInCoreData : ∀ status saveThrows, ProfileController.updateGameInCoreData row status saveThrows s ≠
    .error (.outOfRange "results[indexPath.row]")
  /-- `deleteGameFromCoreData(at:)`. -/
  deleteGameFromCoreData : ∀ saveThrows, ProfileController.deleteGameFromCoreData row saveThrows s ≠
    .error (.outOfRange "results[indexPath.row]")

/-- Every row offered is valid. -/
def RowsValid (s : App) : Prop := ∀ row, s.Offers row → RowValid s row

/-- The view has counted no more rows than `results` has. -/
def App.Fits (s : App) : Prop := ∀ n ∈ s.profile.collectionView, n ≤ s.profile.results.length

/-- The view shows no row. -/
def App.Blank (s : App) : Prop := ∀ n ∈ s.profile.collectionView, n = 0

/-- When an operation leaves every row offered valid: a fetch into `results` with no `reloadData` after
it throws only while the view shows no row. -/
def Op.KeepsRows (f : Faults) (s : App) : Op → Prop
  | .homeSave game _ | .save game _ => Inserts f s game → f.reloadFetch = true → s.Blank
  | .fetchAll | .fetchStatus _ => f.fetch = true → s.Blank
  | .selectSegment index =>
    index ≠ s.profile.selectIndex → index < ProfileController.titles.length → f.fetch = true → s.Blank
  -- each of these reads the number of rows afresh after its fetch, or makes none
  | .reload | .loadProfile | .updateRow _ _ | .deleteRow _ => True
  | .update _ _ | .delete _ => True

/-! ### Rows and counts -/

theorem imageTapped_outOfRange_iff {row : ℕ} {s : App} :
    ProfileController.imageTapped row s = .error (.outOfRange "results[rowOfIndexPath.row]") ↔
      s.profile.results.length ≤ row := by
  refine Iff.trans ?_ (subscript_eq_error_iff : subscript "results[rowOfIndexPath.row]" _ row = _ ↔ _)
  unfold ProfileController.imageTapped
  cases h : subscript "results[rowOfIndexPath.row]" s.profile.results row with
  | error t => simp [bind, Except.bind]
  | ok i =>
    simp only [bind, Except.bind, reduceCtorEq, iff_false]
    cases s.context.memory i with
    | none => simp
    | some g => cases hs : g.status <;> simp [hs, DetailVC.viewDidLoad, pure, Except.pure]

theorem reloadCollectionView_ne_outOfRange (s : App) (expr : String) :
    ProfileController.reloadCollectionView s ≠ .error (.outOfRange expr) := by
  unfold ProfileController.reloadCollectionView
  cases s.profile.collectionView <;> simp [bind, Except.bind, pure, Except.pure]

/-- All that a row must be is an index. -/
theorem rowValid_iff {s : App} {row : ℕ} : RowValid s row ↔ row < s.profile.results.length := by
  refine ⟨RowValid.lt, fun h => ?_⟩
  have hr : s.profile.results[row]? = some s.profile.results[row] := List.getElem?_eq_getElem h
  refine ⟨h, fun ht => ?_, fun status saveThrows => ?_, fun saveThrows => ?_⟩
  · exact absurd (imageTapped_outOfRange_iff.mp ht) (Nat.not_le_of_lt h)
  · unfold ProfileController.updateGameInCoreData
    rw [subscript_eq_ok_iff.mpr hr]
    cases saveThrows <;> exact reloadCollectionView_ne_outOfRange _ _
  · unfold ProfileController.deleteGameFromCoreData
    rw [subscript_eq_ok_iff.mpr hr]
    cases saveThrows with
    | true => exact fun h => by cases h
    | false => exact reloadCollectionView_ne_outOfRange _ _

/-- Every row offered is valid exactly when the view has counted no more rows than there are. -/
theorem rowsValid_iff {s : App} : RowsValid s ↔ s.Fits := by
  constructor
  · intro h n hn
    by_contra hlt
    have := (h s.profile.results.length ⟨n, hn, Nat.lt_of_not_le hlt⟩).lt
    omega
  · rintro h row ⟨n, hn, hlt⟩
    exact rowValid_iff.mpr (Nat.lt_of_lt_of_le hlt (h n hn))

/-! ### Operations -/

namespace ProfileController

/-- What is counted afresh fits. -/
theorem fits_reloadCollectionView {s s' : App} (h : reloadCollectionView s = .ok s') : s'.Fits := by
  obtain ⟨-, rfl⟩ := reloadCollectionView_eq_ok_iff.mp h
  intro n hn
  exact Nat.le_of_eq (Option.some.inj hn).symm

/-- A fetch that throws leaves a count of none. -/
theorem fits_fetchResults {p : GameSave → Bool} {throws : Bool} {s s' : App}
    (h : fetchResults p throws s = .ok s') : s'.Fits ↔ (throws = true → s.Blank) := by
  cases throws with
  | true =>
    simp only [fetchResults, if_true, Except.ok.injEq] at h
    subst h
    simp [App.Fits, App.Blank]
  | false =>
    refine iff_of_true ?_ (by simp)
    simp only [fetchResults, Bool.false_eq_true, if_false] at h
    exact fits_reloadCollectionView h

/-- The notification is a fetch, once there is a view. -/
theorem fits_postReloadProfileData {throws : Bool} {s s' : App} (h : postReloadProfileData throws s = .ok s') :
    s'.Fits ↔ (throws = true → s.Blank) := by
  unfold postReloadProfileData at h
  cases hc : s.profile.collectionView with
  | none =>
    simp only [hc, Except.ok.injEq] at h
    subst h
    simp [App.Fits, App.Blank, hc]
  | some n =>
    simp only [hc] at h
    exact fits_fetchResults h

theorem fits_reloadData {throws : Bool} {s s' : App} (h : reloadData throws s = .ok s') : s'.Fits := by
  obtain ⟨t, -, h⟩ := bind_eq_ok_iff.mp h
  exact fits_reloadCollectionView h

theorem fits_viewDidLoad {throws : Bool} {s s' : App} (h : viewDidLoad throws s = .ok s') : s'.Fits := by
  obtain ⟨t, ht, h⟩ := bind_eq_ok_iff.mp h
  cases h
  have hb : App.Blank { s with profile := { s.profile with collectionView := some 0, selectIndex := 0 } } :=
    fun n hn => (Option.some.inj hn).symm
  exact (fits_fetchResults ht).mpr fun _ => hb

theorem fits_setSelectIndex {index : ℕ} {throws : Bool} {s s' : App} (hf : s.Fits)
    (h : setSelectIndex index throws s = .ok s') :
    s'.Fits ↔ (index ≠ s.profile.selectIndex → index < titles.length → throws = true → s.Blank) := by
  obtain ⟨hc | hi | ht, rfl⟩ | ⟨title, -, hi, ht, h⟩ := setSelectIndex_cases h
  · exact iff_of_true hf fun _ _ _ n hn => by simp [hc] at hn
  · exact iff_of_true hf fun hne => absurd hi hne
  · exact iff_of_true hf fun _ hlt => absurd hlt (Nat.not_lt_of_le (List.getElem?_eq_none_iff.mp ht))
  · have hlt : index < titles.length := (List.getElem?_eq_some_iff.mp ht).1
    rw [forall_prop_of_true hi, forall_prop_of_true hlt]
    exact (fits_fetchResults h :)

theorem fits_updateGameInCoreData {row : ℕ} {status : String} {saveThrows : Bool} {s s' : App}
    (h : updateGameInCoreData row status saveThrows s = .ok s') : s'.Fits := by
  obtain ⟨i, -, h⟩ := bind_eq_ok_iff.mp h
  cases saveThrows <;> exact fits_reloadCollectionView h

theorem fits_deleteGameFromCoreData {row : ℕ} {saveThrows : Bool} {s s' : App} (hf : s.Fits)
    (h : deleteGameFromCoreData row saveThrows s = .ok s') : s'.Fits := by
  obtain ⟨i, -, h⟩ := bind_eq_ok_iff.mp h
  cases saveThrows with
  | true =>
    cases h
    exact hf
  | false => exact fits_reloadCollectionView h

end ProfileController

theorem fits_homeSave {game : Game} {status : String} {f : Faults} {s s' : App} (hf : s.Fits)
    (h : MyRootViewController.saveGameToCoreData game status f s = .ok s') :
    s'.Fits ↔ (Inserts f s game → f.reloadFetch = true → s.Blank) := by
  obtain ⟨gameId, hg, ⟨hff, rfl⟩ | ⟨hff, ⟨i, hi, rfl⟩ | ⟨hn, ⟨hs, rfl⟩ | ⟨hs, h⟩⟩⟩⟩ := homeSave_cases h
  all_goals rw [inserts_iff hg]
  · exact iff_of_true hf (by simp [hff])
  · exact iff_of_true hf (by simp [hi])
  · exact iff_of_true hf (by simp [hs])
  · rw [forall_prop_of_true ⟨hn, hff, hs⟩]
    exact (ProfileController.fits_postReloadProfileData h :)

theorem fits_save {game : Game} {status : String} {f : Faults} {s s' : App} {calls : List Bool} (hf : s.Fits)
    (h : CoredataController.saveGameToCoreData game status f s = .ok (s', calls)) :
    s'.Fits ↔ (Inserts f s game → f.reloadFetch = true → s.Blank) := by
  obtain ⟨gameId, hg, ⟨hff, rfl, -⟩ | ⟨hff, ⟨i, hi, -, rfl⟩ | ⟨hn, ⟨hs, -, rfl⟩ | ⟨hs, -, h⟩⟩⟩⟩ := save_cases h
  all_goals rw [inserts_iff hg]
  · exact iff_of_true hf (by simp [hff])
  · exact iff_of_true hf (by simp [hi])
  · exact iff_of_true hf (by simp [hs])
  · rw [forall_prop_of_true ⟨hn, hff, hs⟩]
    exact (ProfileController.fits_postReloadProfileData h :)

/-- **An operation leaves every row offered valid exactly when it keeps them.** -/
theorem fits_exec {o : Op} {f : Faults} {s s' : App} (hf : s.Fits) (h : o.exec f s = .ok s') :
    s'.Fits ↔ o.KeepsRows f s := by
  cases o with
  | homeSave game status => exact fits_homeSave hf h
  | save game status =>
    obtain ⟨⟨t, calls⟩, ht, h⟩ := bind_eq_ok_iff.mp h
    cases h
    exact fits_save hf ht
  | update gameID status =>
    cases h
    exact iff_of_true hf trivial
  | delete gameID =>
    cases h
    exact iff_of_true hf trivial
  | updateRow row status => exact iff_of_true (ProfileController.fits_updateGameInCoreData h) trivial
  | deleteRow row => exact iff_of_true (ProfileController.fits_deleteGameFromCoreData hf h) trivial
  | loadProfile => exact iff_of_true (ProfileController.fits_viewDidLoad h) trivial
  | fetchAll => exact ProfileController.fits_fetchResults h
  | fetchStatus status => exact ProfileController.fits_fetchResults h
  | selectSegment index => exact ProfileController.fits_setSelectIndex hf h
  | reload => exact iff_of_true (ProfileController.fits_reloadData h) trivial

/-! ### A run -/

/-- Nothing is offered before the Profile view is loaded. -/
theorem App.fits_restart (s : App) : s.restart.Fits := fun _ hn => nomatch hn

/-- A run of the operations, each with its own faults, from a start of the process. -/
def rowsRun : List (Op × Faults) :=
  [(.homeSave (.bare 7) "Played", .none), (.loadProfile, .none), (.selectSegment 3, { fetch := true })]

/-- A segment is chosen and its fetch throws: the one row shown is offered still, and a tap on it
traps. -/
theorem rowsRun_not_rowsValid :
    (∃ s, run (fun p : Op × Faults => p.1.exec p.2) rowsRun App.launch = .ok s ∧ s.Offers 0 ∧
      ProfileController.imageTapped 0 s = .error (.outOfRange "results[rowOfIndexPath.row]")) ∧
    ¬Throughout (fun p : Op × Faults => p.1.exec p.2) RowsValid rowsRun App.launch := by
  refine ⟨⟨_, rfl, ⟨1, rfl, Nat.one_pos⟩, rfl⟩, fun h => ?_⟩
  have hv := (((h _ rfl).2 _ rfl).2 _ rfl).1
  exact absurd (hv 0 ⟨1, rfl, Nat.one_pos⟩).lt (Nat.not_lt_zero 0)

/-- **A row offered is a row exactly while no fetch that throws leaves the view behind**: in a run of
any operations, whatever throws, from a start of the process, every row the view
offers in any state is valid exactly when every operation keeps them so. -/
theorem rows_throughout_iff (s : App) (ops : List (Op × Faults)) :
    Throughout (fun p : Op × Faults => p.1.exec p.2) RowsValid ops s.restart ↔
      Meets (fun p : Op × Faults => p.1.exec p.2) (fun p t => p.1.KeepsRows p.2 t) ops s.restart :=
  throughout_iff_meets (I := fun _ => True) (fun _ _ _ _ _ => trivial)
    (fun _ _ _ _ hp h => rowsValid_iff.trans (fits_exec (rowsValid_iff.mp hp) h)) ops trivial
    (rowsValid_iff.mpr s.fits_restart)

end Booster
