import Booster.Session.Listing
import Booster.Session.Statuses

/-!
# What the rows of the Profile screen show

A cell of the Profile screen shows what its record said when the collection view last asked for it, and a tap
on it acts on what `results` has at its row by then. The view asks again for every row after a `reloadData`, which
most changes of `results` or of a status are followed by (`Effect.reloads`). Two are not: a status given, and a
record deleted, by its `game_id`, from a detail screen that does not reload the list.

`ProfileEvent.KeepsRows` says when an event leaves every cell on the screen showing the record a tap on it
acts on, and `rowsShown_throughout_iff` says it of a whole session, with rows shown and scrolled away in any
order.
-/

namespace Booster

open Theory

/-- Whether an effect is followed by a `collectionView.reloadData()`. -/
def Effect.reloads (s : App) : Effect → Bool
  | .load | .segment _ | .deleteReload _ | .reload | .rowStatus _ _ | .rowDelete _ _ => true
  -- the notification has an observer once the view is loaded
  | .insert _ _ _ => s.profile.collectionView.isSome
  | .idle | .setStatus _ _ | .delete _ | .count | .restart => false

/-- A cell as `CollectionItemGame.xib` makes it. -/
def CollectionItemGame.nib : CollectionItemGame := { nameGame := some "Mir Tankov", buttonAdd := some "+ Add" }

/-- The Profile screen in a session. -/
structure ProfileScreen where
  /-- The session. -/
  session : Session
  /-- The cells of the collection view. -/
  cells : ℕ → CollectionItemGame := fun _ => .nib
  /-- Whether a cell is on the screen; else it waits to be used again. -/
  visible : ℕ → Bool := fun _ => false

/-- What happens to the Profile screen in a session in which nothing fails. -/
inductive ProfileEvent where
  /-- An action. -/
  | act (a : Action)
  /-- The collection view asks for a row, and has a cell for it. -/
  | cellForItemAt (cell row : ℕ)
  /-- A cell is scrolled off the screen. -/
  | didEndDisplaying (cell : ℕ)

namespace ProfileScreen

/-- The app started for the first time. -/
def launch : ProfileScreen := { session := Session.launch }

/-- The cells after an effect has led to `session`: a reload takes them all off the screen, and a process started again
has new ones. -/
def after (session : Session) (s : ProfileScreen) : Effect → ProfileScreen
  | .restart => { session := session }
  | e => { s with session := session, visible := fun cell => s.visible cell && !e.reloads s.session.app }

/-- A row the view has read, and a cell that shows none. -/
def Asks (cell row : ℕ) (s : ProfileScreen) : Prop :=
  row < s.session.app.profile.collectionView.getD 0 ∧ s.visible cell = false

instance (cell row : ℕ) (s : ProfileScreen) : Decidable (s.Asks cell row) :=
  inferInstanceAs (Decidable (_ ∧ _))

/-- The screen after an event. -/
def step : ProfileEvent → ProfileScreen → Except Trap ProfileScreen
  | .act a, s => do
    let session ← s.session.step .none a
    return s.after session (a.effect s.session)
  | .cellForItemAt cell row, s =>
    if s.Asks cell row then do
      let (content, _) ← ProfileController.cellForItemAt row (s.cells cell) s.session.app
      return { s with
        cells := Function.update s.cells cell content
        visible := Function.update s.visible cell true }
    else .ok s
  | .didEndDisplaying cell, s => .ok { s with visible := Function.update s.visible cell false }

/-- The object that a tap on a cell opens, and the menu of its button edits: `results[rowOfIndexPath.row]`. -/
def object (s : ProfileScreen) (cell : ℕ) : Option ObjectID :=
  (s.cells cell).rowOfIndexPath.bind fun row => s.session.app.profile.results[row]?

/-- A cell has the title and the status of the stored record that a tap on it acts on. -/
def RowShown (s : ProfileScreen) (cell : ℕ) : Prop :=
  ∃ i g, s.object cell = some i ∧ (i, g) ∈ s.session.app.context.store ∧
    (s.cells cell).nameGame = g.title ∧ (s.cells cell).buttonAdd = g.status

end ProfileScreen

/-- When an effect leaves every cell on the screen right, if they were right before. -/
def Effect.KeepsRows (s : ProfileScreen) : Effect → Prop
  -- the cells of the record have the status already
  | .setStatus i status => ∀ cell, s.visible cell = true → s.object cell = some i →
    (s.cells cell).buttonAdd = some status
  | .delete i => ∀ cell, s.visible cell = true → s.object cell ≠ some i
  -- the rest reload, or change no record listed
  | .idle | .load | .segment _ | .insert _ _ _ | .deleteReload _ | .reload | .rowStatus _ _ | .rowDelete _ _
  | .count | .restart => True

/-- When an event leaves every cell on the screen right, if they were right before. -/
def ProfileEvent.KeepsRows (s : ProfileScreen) : ProfileEvent → Prop
  | .act a => (a.effect s.session).KeepsRows s
  -- the record listed is stored still, and has a title: `nil` leaves the cell the text it had
  | .cellForItemAt cell row => s.Asks cell row → ∃ i g, s.session.app.profile.results[row]? = some i ∧
    (i, g) ∈ s.session.app.context.store ∧ g.title ≠ none
  | .didEndDisplaying _ => True

/-! ### Reloads -/

/-- With a view that has counted `n` rows. -/
def App.counting (n : ℕ) (s : App) : App := { s with profile.collectionView := some n }

/-- An effect on a loaded Profile reloads when the count it leaves does not depend on the count before. -/
theorem Effect.reloads_iff {e : Effect} {s : App} (he : e ≠ .restart) (hl : s.profile.collectionView ≠ none) :
    e.reloads s = true ↔ ∃ m, ∀ n, (e.apply (s.counting n)).profile.collectionView = some m := by
  have hread : (∀ n, (e.apply (s.counting n)).profile.collectionView =
        some (e.apply (s.counting 0)).profile.results.length) →
      ∃ m, ∀ n, (e.apply (s.counting n)).profile.collectionView = some m := fun h => ⟨_, h⟩
  have hkept : (∀ n, (e.apply (s.counting n)).profile.collectionView = some n) →
      ¬∃ m, ∀ n, (e.apply (s.counting n)).profile.collectionView = some m := by
    rintro h ⟨m, hm⟩
    have := Option.some.inj ((h (m + 1)).symm.trans (hm (m + 1)))
    omega
  cases e with
  | restart => exact absurd rfl he
  | load => exact iff_of_true rfl (hread fun _ => rfl)
  | segment index => exact iff_of_true rfl (hread fun _ => rfl)
  | insert game gameId status => exact iff_of_true (Option.isSome_iff_ne_none.mpr hl) (hread fun _ => rfl)
  | deleteReload i => exact iff_of_true rfl (hread fun _ => rfl)
  | reload => exact iff_of_true rfl (hread fun _ => rfl)
  | rowStatus i status => exact iff_of_true rfl (hread fun _ => rfl)
  | rowDelete row i => exact iff_of_true rfl (hread fun _ => rfl)
  | idle => exact iff_of_false Bool.false_ne_true (hkept fun _ => rfl)
  | setStatus i status => exact iff_of_false Bool.false_ne_true (hkept fun _ => rfl)
  | delete i => exact iff_of_false Bool.false_ne_true (hkept fun _ => rfl)
  | count => exact iff_of_false Bool.false_ne_true (hkept fun _ => rfl)

namespace ProfileScreen

variable {s : ProfileScreen} {session : Session}

/-- A cell is as right as before when the list and the stored records are. -/
theorem RowShown.congr {cell : ℕ} (h : s.RowShown cell)
    (hr : session.app.profile.results = s.session.app.profile.results)
    (hs : session.app.context.store = s.session.app.context.store) :
    RowShown { s with session := session } cell := by
  obtain ⟨i, g, ho, hg, ht⟩ := h
  refine ⟨i, g, ?_, hs ▸ hg, ht⟩
  simpa only [object, hr] using ho

/-- A cell after a record is deleted. -/
theorem RowShown.delete_iff {cell : ℕ} (h : s.RowShown cell) {i : ObjectID}
    (hr : session.app.profile.results = s.session.app.profile.results)
    (hs : session.app.context.store = (Change.delete i).apply s.session.app.context.store) :
    RowShown { s with session := session } cell ↔ s.object cell ≠ some i := by
  obtain ⟨j, g, ho, hg, ht⟩ := h
  have ho' : object { s with session := session } cell = s.object cell := by simp only [object, hr]
  constructor
  · rintro ⟨j', g', hj', hg', -⟩ hi
    obtain rfl : j' = i := Option.some.inj ((ho'.symm.trans hj').symm.trans hi)
    rw [hs] at hg'
    exact (mem_delete.mp hg').2 rfl
  · intro hne
    refine ⟨j, g, ho'.trans ho, ?_, ht⟩
    rw [hs]
    exact mem_delete.mpr ⟨hg, fun hj => hne (hj ▸ ho)⟩

/-- What every event keeps when nothing fails. -/
structure Kept (s : ProfileScreen) : Prop where
  clean : Clean s.session.app
  statused : s.session.app.context.Everywhere Statused
  /-- A cell has some text from the start. -/
  named : ∀ cell, (s.cells cell).nameGame ≠ none

/-- What a configured cell has. -/
theorem cellForItemAt_cases {row : ℕ} {cell content : CollectionItemGame} {url : Option String} {s : App}
    (h : ProfileController.cellForItemAt row cell s = .ok (content, url)) :
    ∃ i, s.profile.results[row]? = some i ∧ content = { cell with
      rowOfIndexPath := some row
      buttonAdd := ((s.context.memory i).bind GameSave.status).or cell.buttonAdd
      nameGame := ((s.context.memory i).bind GameSave.title).or cell.nameGame } := by
  obtain ⟨i, hi, h⟩ := bind_eq_ok_iff.mp h
  cases h
  exact ⟨i, subscript_eq_ok_iff.mp hi, rfl⟩

/-- What the configuration of a cell leaves. -/
theorem step_cellForItemAt {cell row : ℕ} {s' : ProfileScreen} (ha : s.Asks cell row)
    (hs : s.step (.cellForItemAt cell row) = .ok s') :
    ∃ i, s.session.app.profile.results[row]? = some i ∧ s' = { s with
      cells := Function.update s.cells cell { s.cells cell with
        rowOfIndexPath := some row
        buttonAdd := ((s.session.app.context.memory i).bind GameSave.status).or (s.cells cell).buttonAdd
        nameGame := ((s.session.app.context.memory i).bind GameSave.title).or (s.cells cell).nameGame }
      visible := Function.update s.visible cell true } := by
  rw [step, if_pos ha] at hs
  obtain ⟨⟨content, url⟩, hc, hs⟩ := bind_eq_ok_iff.mp hs
  obtain ⟨i, hi, rfl⟩ := cellForItemAt_cases hc
  cases hs
  exact ⟨i, hi, rfl⟩

/-- A game is saved, and its status changed in the detail screen opened from its row. -/
def staleLabel : List ProfileEvent :=
  [.act (.homeAdd { Game.bare 7 with title := some "Tetris" } 0), .act .visitProfile, .cellForItemAt 0 0,
    .act (.profileOpen 0), .act (.detailChoose 2)]

/-- The row has the old status then. -/
example : ∃ s, run step staleLabel launch = .ok s ∧ s.visible 0 = true ∧
    (s.cells 0).buttonAdd = some "Uncategorized" ∧
    s.session.app.context.store.map (fun r => r.2.status) = [some "Played"] := ⟨_, rfl, rfl, rfl, rfl⟩

/-- A tap on the image of a cell that is right opens the record the cell shows, with the status of the cell. -/
theorem RowShown.imageTapped {cell : ℕ} (h : s.Kept) (hp : s.RowShown cell) :
    ∃ row i g vc, (s.cells cell).rowOfIndexPath = some row ∧ (i, g) ∈ s.session.app.context.store ∧
      (s.cells cell).nameGame = g.title ∧ ProfileController.imageTapped row s.session.app = .ok vc ∧
      vc.gameID = some g.gameId.toInt64 ∧ (s.cells cell).buttonAdd = some vc.buttonStatus := by
  obtain ⟨i, g, ho, hg, hn, hb⟩ := hp
  obtain ⟨row, hrow, hr⟩ := Option.bind_eq_some_iff.mp ho
  obtain ⟨status, -, hst⟩ := List.mem_map.mp (h.statused.store _ hg)
  have hst : g.status = some status := hst.symm
  have hm := s.session.app.context.memory_of_mem_view (h.clean.written ▸ hg)
  have ht : ProfileController.imageTapped row s.session.app =
      DetailVC.viewDidLoad { gameID := some g.gameId.toInt64, status := status, reloadDelegate := true } := by
    unfold ProfileController.imageTapped
    simp only [subscript_eq_ok_iff.mpr hr, bind, Except.bind, hm, Option.map_some, force_some, Option.bind_some, hst]
  exact ⟨row, i, g, _, hrow, hg, hn, ht, rfl, hb.trans hst⟩

end ProfileScreen

end Booster
