import Booster.Collection.Unique

/-!
# When nothing throws

What each operation leaves when no call into Core Data throws, one equation a
function, and the invariant of such runs (`Clean`): the store is what a fetch
sees, an unloaded Profile lists nothing, the collection view has counted the
list, and every object the list holds — however long ago it was fetched — is
either the record of its `game_id` or has a `game_id` no record has. The last
holds because both insertions that could bring a `game_id` back refresh the
list, if there is one.
-/

namespace Booster

open Theory

/-- After a fetch with predicate `p` into the Profile list. -/
def App.listing (p : GameSave → Bool) (s : App) : App :=
  { s with
    profile := { s.profile with
      results := s.context.fetch p
      collectionView := some (s.context.fetch p).length }
    badgeValue := some (toString (s.context.fetch p).length) }

/-- With the Profile view loaded and nothing fetched into it yet. -/
def App.opened (s : App) : App :=
  { s with profile := { s.profile with collectionView := some 0, selectIndex := 0 } }

/-- With segment `index` selected. -/
def App.atSegment (index : ℕ) (s : App) : App := { s with profile.selectIndex := index }

/-- After `reloadProfileData` is posted. -/
def App.notified (s : App) : App :=
  match s.profile.collectionView with
  | none => s
  | some _ => s.listing fun _ => true

/-- After a game with no record is saved. -/
def App.inserted (game : Game) (gameId : Int64) (status : String) (s : App) : App :=
  { s with context := (s.context.insertNewObject (game.toGameSave gameId status)).save : App }.notified

/-- After object `i` is given a status. -/
def App.statusSet (i : ObjectID) (status : String) (s : App) : App :=
  { s with context := (s.context.setValue i (GameSave.setStatus status)).save }

/-- After object `i` is deleted. -/
def App.deleted (i : ObjectID) (s : App) : App := { s with context := (s.context.delete i).save }

/-! ### What the functions leave -/

namespace ProfileController

theorem fetchResults_eq {s : App} (h : s.profile.collectionView ≠ none) (p : GameSave → Bool) :
    fetchResults p false s = .ok (s.listing p) :=
  reloadCollectionView_eq_ok_iff.mpr ⟨h, rfl⟩

theorem postReloadProfileData_eq (s : App) : postReloadProfileData false s = .ok s.notified := by
  unfold postReloadProfileData App.notified
  cases hc : s.profile.collectionView with
  | none => rfl
  | some n => exact fetchResults_eq (by simp [hc]) _

theorem viewDidLoad_eq (s : App) : viewDidLoad false s = .ok (s.opened.listing fun _ => true) := by
  have h : fetchGamesFromCoreData false s.opened = .ok (s.opened.listing fun _ => true) :=
    fetchResults_eq (Option.some_ne_none _) _
  show (do
    let s ← fetchGamesFromCoreData false s.opened
    return { s with badgeValue := some (toString s.profile.results.length) } : Except Trap App) = _
  rw [h]
  rfl

theorem reloadData_eq {s : App} (h : s.profile.collectionView ≠ none) :
    reloadData false s = .ok (s.listing fun _ => true) := by
  unfold reloadData fetchGamesFromCoreData
  rw [fetchResults_eq h]
  exact (reloadCollectionView_eq_ok_iff (s := s.listing fun _ => true)).mpr ⟨Option.some_ne_none _, rfl⟩

/-- A list is reloaded only where there is one. -/
theorem reloadData_loaded {s s' : App} (h : reloadData false s = .ok s') :
    s.profile.collectionView ≠ none ∧ s' = s.listing fun _ => true := by
  obtain ⟨t, ht, -⟩ := bind_eq_ok_iff.mp h
  have hl : s.profile.collectionView ≠ none := (reloadCollectionView_eq_ok_iff.mp ht).1
  rw [reloadData_eq hl, Except.ok.injEq] at h
  exact ⟨hl, h.symm⟩

/-- The records a segment denotes: all of them for the first, "All", and for another
those whose status is its title. -/
def segmentShows (index : ℕ) (g : GameSave) : Bool :=
  index = 0 || titles[index]?.any fun title => hasStatus title g

theorem segmentShows_zero : segmentShows 0 = fun _ => true := by
  funext g
  rfl

theorem segmentShows_of_ne_zero {index : ℕ} {title : String} (h0 : index ≠ 0)
    (ht : titles[index]? = some title) : segmentShows index = hasStatus title := by
  funext g
  simp [segmentShows, h0, ht]

/-- Choosing another segment lists what it denotes. -/
theorem setSelectIndex_eq {s : App} (h : s.profile.collectionView ≠ none) {index : ℕ} {title : String}
    (hi : index ≠ s.profile.selectIndex) (ht : titles[index]? = some title) :
    setSelectIndex index false s = .ok ((s.atSegment index).listing (segmentShows index)) := by
  unfold setSelectIndex
  rw [if_neg h, if_neg hi, ht]
  by_cases h0 : index = 0
  · subst h0
    rw [segmentShows_zero]
    exact fetchResults_eq (s := s.atSegment 0) h _
  · rw [segmentShows_of_ne_zero h0 ht]
    simp only [h0, if_false]
    exact fetchResults_eq (s := s.atSegment index) h _

/-- Choosing the segment already chosen, or none, does nothing. -/
theorem setSelectIndex_eq_self {s : App} {index : ℕ}
    (h : s.profile.collectionView = none ∨ index = s.profile.selectIndex ∨ titles[index]? = none)
    (throws : Bool) : setSelectIndex index throws s = .ok s := by
  unfold setSelectIndex
  rcases h with h | h | h
  · rw [if_pos h]
  · by_cases hc : s.profile.collectionView = none
    · rw [if_pos hc]
    · rw [if_neg hc, if_pos h]
  · rw [h]
    split
    · rfl
    split <;> rfl

theorem updateGameInCoreData_eq {s : App} (h : s.profile.collectionView ≠ none) {row : ℕ} {i : ObjectID}
    (hr : s.profile.results[row]? = some i) (status : String) :
    updateGameInCoreData row status false s =
      .ok { s with
        context := (s.context.setValue i (GameSave.setStatus status)).save.setValue i (GameSave.setStatus status)
        profile.collectionView := some s.profile.results.length } := by
  unfold updateGameInCoreData
  simp only [subscript, hr, bind, Except.bind, Bool.false_eq_true, if_false]
  exact reloadCollectionView_eq_ok_iff.mpr ⟨h, rfl⟩

theorem deleteGameFromCoreData_eq {s : App} (h : s.profile.collectionView ≠ none) {row : ℕ} {i : ObjectID}
    (hr : s.profile.results[row]? = some i) :
    deleteGameFromCoreData row false s =
      .ok { s with
        context := (s.context.delete i).save
        profile := { s.profile with
          results := s.profile.results.eraseIdx row
          collectionView := some (s.profile.results.eraseIdx row).length }
        badgeValue := some (toString (s.profile.results.eraseIdx row).length) } := by
  unfold deleteGameFromCoreData
  simp only [subscript, hr, bind, Except.bind, Bool.false_eq_true, if_false]
  exact reloadCollectionView_eq_ok_iff.mpr ⟨h, rfl⟩

end ProfileController

theorem homeSave_eq {game : Game} {gameId : Int64} (hg : game.gameId = some gameId) (status : String) (s : App) :
    MyRootViewController.saveGameToCoreData game status .none s =
      .ok (match firstWithID gameId s.context with
        | some _ => s
        | none => s.inserted game gameId status) := by
  obtain ⟨s', h⟩ : ∃ s', MyRootViewController.saveGameToCoreData game status .none s = .ok s' :=
    homeSave_ok_iff.mpr (hg ▸ Option.some_ne_none gameId)
  obtain ⟨gameId', hg', hc⟩ := homeSave_cases h
  obtain rfl : gameId = gameId' := Option.some.inj (hg.symm.trans hg')
  rw [h]
  obtain ⟨hff, -⟩ | ⟨-, ⟨i, hi, rfl⟩ | ⟨hn, ⟨hs, -⟩ | ⟨-, hp⟩⟩⟩ := hc
  · cases hff
  · rw [hi]
  · cases hs
  · rw [hn]
    exact hp.symm.trans (ProfileController.postReloadProfileData_eq _)

theorem update_eq (gameID : Int64) (status : String) (s : App) :
    ({ s with context := CoredataController.updateGameToCoreDataByGameID gameID status false false s.context } : App) =
      match firstWithID gameID s.context with
      | some i => s.statusSet i status
      | none => s := by
  unfold CoredataController.updateGameToCoreDataByGameID
  cases hf : s.context.fetch (hasGameID gameID) with
  | cons i l => simp [firstWithID, hf, App.statusSet]
  | nil => simp [firstWithID, hf]

theorem delete_eq (gameID : Int64) (s : App) :
    ({ s with context := CoredataController.deleteGameFromCoreData gameID false false s.context } : App) =
      match firstWithID gameID s.context with
      | some i => s.deleted i
      | none => s := by
  unfold CoredataController.deleteGameFromCoreData
  cases hf : s.context.fetch (hasGameID gameID) with
  | cons i l => simp [firstWithID, hf, App.deleted]
  | nil => simp [firstWithID, hf]

/-- `CoredataController`'s save reports success, once. -/
theorem save_eq {game : Game} {gameId : Int64} (hg : game.gameId = some gameId) (status : String) (s : App) :
    CoredataController.saveGameToCoreData game status .none s =
      .ok (match firstWithID gameId s.context with
        | some i => s.statusSet i status
        | none => s.inserted game gameId status, [true]) := by
  obtain ⟨⟨s', calls⟩, h⟩ : ∃ r, CoredataController.saveGameToCoreData game status .none s = .ok r :=
    save_ok_iff.mpr (hg ▸ Option.some_ne_none gameId)
  obtain ⟨gameId', hg', hc⟩ := save_cases h
  obtain rfl : gameId = gameId' := Option.some.inj (hg.symm.trans hg')
  rw [h]
  obtain ⟨hff, -⟩ | ⟨-, ⟨i, hi, rfl, rfl⟩ | ⟨hn, ⟨hs, -⟩ | ⟨-, rfl, hp⟩⟩⟩ := hc
  · cases hff
  · have hu := update_eq gameId status s
    rw [hi] at hu ⊢
    rw [Except.ok.injEq, Prod.mk.injEq]
    exact ⟨hu, rfl⟩
  · cases hs
  · rw [hn]
    rw [Except.ok.injEq, Prod.mk.injEq]
    exact ⟨Except.ok.inj (hp.symm.trans (ProfileController.postReloadProfileData_eq _)), rfl⟩

/-! ### The invariant -/

/-- The invariant of runs in which nothing throws. -/
structure Clean (s : App) : Prop where
  /-- Everything a fetch sees is written. -/
  written : s.context.store = s.context.view
  /-- At most one record per `game_id`. -/
  nodup : (keys GameSave.gameId s.context.view).Nodup
  /-- A Profile not loaded lists nothing. -/
  unloaded : s.profile.collectionView = none → s.profile.results = []
  /-- The collection view has counted the list. -/
  counted : ∀ n, s.profile.collectionView = some n → n = s.profile.results.length
  /-- No object is listed twice. -/
  distinct : s.profile.results.Nodup
  /-- The segment selected is one of the segments. -/
  segment : s.profile.selectIndex < ProfileController.titles.length
  /-- What is listed is the record of its `game_id`, or no record has its `game_id`. -/
  listed : ∀ i ∈ s.profile.results, ∃ g, s.context.memory i = some g ∧
    ((i, g) ∈ s.context.view ∨ g.gameId ∉ keys GameSave.gameId s.context.view)

theorem clean_launch : Clean App.launch where
  written := rfl
  nodup := List.nodup_nil
  unloaded _ := rfl
  counted _ h := by cases h
  distinct := List.nodup_nil
  segment := by decide
  listed i hi := by cases hi

/-- A listing that is part of the one before, of a context that is the same. -/
theorem Clean.congr {s s' : App} (h : Clean s) (hc : Context.Same s'.context s.context)
    (hr : s'.profile.results.Sublist s.profile.results) (hi : s'.profile.selectIndex = s.profile.selectIndex)
    (hv : s'.profile.collectionView = s'.profile.results.length ∨
      s'.profile.collectionView = none ∧ s'.profile.results = []) : Clean s' where
  written := by rw [hc.store, hc.view, h.written]
  nodup := hc.view ▸ h.nodup
  unloaded hn := by
    rcases hv with hv | hv
    · rw [hv] at hn; cases hn
    · exact hv.2
  counted n hn := by
    rcases hv with hv | hv
    · rw [hv] at hn; exact (Option.some.inj hn).symm
    · rw [hv.1] at hn; cases hn
  distinct := hr.nodup h.distinct
  segment := hi ▸ h.segment
  listed i hi' := by
    obtain ⟨g, hm, hg⟩ := h.listed i (hr.subset hi')
    exact ⟨g, hc.memory ▸ hm, hc.view ▸ hg⟩

/-- The list just fetched is clean, whatever was listed before. -/
theorem clean_listing {s : App} (hw : s.context.store = s.context.view)
    (hn : (keys GameSave.gameId s.context.view).Nodup)
    (hi : s.profile.selectIndex < ProfileController.titles.length) (p : GameSave → Bool) :
    Clean (s.listing p) where
  written := hw
  nodup := hn
  unloaded h := by cases h
  counted n h := (Option.some.inj h).symm
  distinct := s.context.fetch_nodup p
  segment := hi
  listed i hi := by
    obtain ⟨g, hg, -⟩ := s.context.mem_fetch.mp hi
    exact ⟨g, s.context.memory_of_mem_view hg, .inl hg⟩

theorem clean_statusSet {s : App} (h : Clean s) (i : ObjectID) (status : String) :
    Clean (s.statusSet i status) where
  written := rfl
  nodup := by
    have hk : keys GameSave.gameId (s.statusSet i status).context.view = keys GameSave.gameId s.context.view := by
      simp [App.statusSet, keys_update (GameSave.gameId_setStatus status)]
    rw [hk]
    exact h.nodup
  unloaded := h.unloaded
  counted := h.counted
  distinct := h.distinct
  segment := h.segment
  listed j hj := by
    obtain ⟨g, hm, hg⟩ := h.listed j hj
    simp only [App.statusSet, Context.memory_save, Context.memory_setValue, Context.view_save,
      Context.view_setValue, keys_update (GameSave.gameId_setStatus status)]
    by_cases hji : j = i
    · subst hji
      refine ⟨g.setStatus status, by simp [hm], ?_⟩
      rcases hg with hg | hg
      · exact .inl (mem_update.mpr ⟨g, hg, by simp⟩)
      · exact .inr hg
    · refine ⟨g, by simp [hji, hm], ?_⟩
      rcases hg with hg | hg
      · exact .inl (mem_update.mpr ⟨g, hg, by simp [hji]⟩)
      · exact .inr hg

/-- The object deleted takes its `game_id` with it, so it may stay listed. -/
theorem clean_deleted {s : App} (h : Clean s) (i : ObjectID) : Clean (s.deleted i) where
  written := rfl
  nodup := by
    simp only [App.deleted, Context.view_save, Context.view_delete]
    exact (keys_delete_sublist _ _ _).nodup h.nodup
  unloaded := h.unloaded
  counted := h.counted
  distinct := h.distinct
  segment := h.segment
  listed j hj := by
    obtain ⟨g, hm, hg⟩ := h.listed j hj
    refine ⟨g, hm, ?_⟩
    simp only [App.deleted, Context.view_save, Context.view_delete]
    rcases hg with hg | hg
    · by_cases hji : j = i
      · subst hji
        exact .inr (key_notMem_keys_delete h.nodup hg)
      · exact .inl (mem_delete.mpr ⟨hg, hji⟩)
    · exact .inr fun hk => hg ((keys_delete_sublist _ _ _).subset hk)

/-- An insertion refreshes the list, if there is one: nothing listed is stale after it. -/
theorem clean_inserted {s : App} (h : Clean s) {game : Game} {gameId : Int64} {status : String}
    (hf : firstWithID gameId s.context = none) : Clean (s.inserted game gameId status) := by
  have hn : (keys GameSave.gameId (s.context.insertNewObject (game.toGameSave gameId status)).save.view).Nodup := by
    rw [Context.view_save, Context.view_insertNewObject]
    refine nodup_keys_apply h.nodup (fun i g hi => ?_) fun i u hu => by cases hu
    cases hi
    exact firstWithID_eq_none_iff_notMem.mp hf
  unfold App.inserted App.notified
  cases hc : s.profile.collectionView with
  | some n =>
    simp only
    exact clean_listing (s := { s with context := (s.context.insertNewObject _).save }) rfl hn h.segment _
  | none =>
    simp only
    exact {
      written := rfl
      nodup := hn
      unloaded := h.unloaded
      counted := h.counted
      distinct := h.distinct
      segment := h.segment
      listed := fun i hi => by
        have : s.profile.results = [] := h.unloaded hc
        simp [this] at hi }

theorem clean_fetchResults {s s' : App} (h : Clean s) {p : GameSave → Bool}
    (hs : ProfileController.fetchResults p false s = .ok s') : Clean s' := by
  have hl : s.profile.collectionView ≠ none := (ProfileController.reloadCollectionView_eq_ok_iff.mp hs).1
  rw [ProfileController.fetchResults_eq hl, Except.ok.injEq] at hs
  exact hs ▸ clean_listing h.written h.nodup h.segment p

/-- A row handed back has a list, so the collection view is there. -/
theorem Clean.loaded {s : App} (h : Clean s) {row : ℕ} {i : ObjectID} (hr : s.profile.results[row]? = some i) :
    s.profile.collectionView ≠ none := by
  intro hn
  rw [h.unloaded hn] at hr
  cases hr

/-- When nothing throws, an operation keeps the invariant. -/
theorem clean_exec {o : Op} {s s' : App} (h : Clean s) (ho : o.exec .none s = .ok s') : Clean s' := by
  cases o with
  | homeSave game status =>
    obtain ⟨gameId, hg, -⟩ := homeSave_cases ho
    rw [Op.exec, homeSave_eq hg, Except.ok.injEq] at ho
    subst ho
    cases hf : firstWithID gameId s.context with
    | some i => exact h
    | none => exact clean_inserted h hf
  | save game status =>
    obtain ⟨⟨t, calls⟩, ht, ho⟩ := bind_eq_ok_iff.mp ho
    cases ho
    obtain ⟨gameId, hg, -⟩ := save_cases ht
    rw [save_eq hg, Except.ok.injEq, Prod.mk.injEq] at ht
    obtain ⟨rfl, -⟩ := ht
    cases hf : firstWithID gameId s.context with
    | some i => exact clean_statusSet h i status
    | none => exact clean_inserted h hf
  | update gameID status =>
    rw [Op.exec, Except.ok.injEq] at ho
    rw [← ho, Faults.none, update_eq]
    cases firstWithID gameID s.context with
    | some i => exact clean_statusSet h i status
    | none => exact h
  | delete gameID =>
    rw [Op.exec, Except.ok.injEq] at ho
    rw [← ho, Faults.none, delete_eq]
    cases firstWithID gameID s.context with
    | some i => exact clean_deleted h i
    | none => exact h
  | updateRow row status =>
    obtain ⟨i, hr, -, rfl⟩ := ProfileController.updateGameInCoreData_cases ho
    refine (clean_statusSet h i status).congr ?_ (List.Sublist.refl _) rfl (.inl rfl)
    exact Context.same_setValue_save_setValue (GameSave.setStatus_setStatus status) _ _
  | deleteRow row =>
    obtain ⟨i, hr, ⟨hs, -⟩ | ⟨-, -, rfl⟩⟩ := ProfileController.deleteGameFromCoreData_cases ho
    · cases hs
    · exact (clean_deleted h i).congr (Context.Same.refl _) (List.eraseIdx_sublist ..) rfl (.inl rfl)
  | loadProfile =>
    rw [Op.exec, Faults.none, ProfileController.viewDidLoad_eq, Except.ok.injEq] at ho
    exact ho ▸ clean_listing (s := s.opened) h.written h.nodup (Nat.zero_lt_succ _) _
  | fetchAll => exact clean_fetchResults h ho
  | fetchStatus status => exact clean_fetchResults h ho
  | selectSegment index =>
    obtain ⟨-, rfl⟩ | ⟨title, hc, hi, ht, -⟩ := ProfileController.setSelectIndex_cases ho
    · exact h
    · rw [Op.exec, Faults.none, ProfileController.setSelectIndex_eq hc hi ht, Except.ok.injEq] at ho
      exact ho ▸ clean_listing (s := s.atSegment index) h.written h.nodup
        (List.getElem?_eq_some_iff.mp ht).1 _
  | reload =>
    obtain ⟨-, rfl⟩ := ProfileController.reloadData_loaded ho
    exact clean_listing h.written h.nodup h.segment _

end Booster
