import KeywordCatalog.Proofs.Store.Listing
import KeywordCatalog.Proofs.Table.Name
import KeywordCatalog.Table.Build

/-!
# Databases

A database is a folder of files that are no code (`Store.HoldsData`); tables are such files. Stores
that differ in such files only are alike for everything else (`Store.AlikeButData`): the same paths
lead to the same places, and the same files of code are there. Writing a table leads to such a store
(`Store.storesData_of_writeDocument`), and so does emptying a database
(`Store.alikeButData_of_emptied`).
-/

namespace KeywordCatalog

theorem endsWith_iff {text ending : String} :
    endsWith text ending = true ↔ ending.toList <:+ text.toList := List.isSuffixOf_iff_suffix

/-- Whether a name is not that of a file of code. -/
def IsDataName (name : String) : Prop := endsWith name ".py" = false

instance (name : String) : Decidable (IsDataName name) := inferInstanceAs (Decidable (_ = _))

theorem isDataName_of_json {name : String} (h : endsWith name ".json" = true) : IsDataName name := by
  rw [IsDataName, Bool.eq_false_iff]
  intro hcode
  obtain ⟨front, hfront⟩ := endsWith_iff.1 h
  obtain ⟨front', hfront'⟩ := endsWith_iff.1 hcode
  have hlast := congrArg List.getLast? (hfront.trans hfront'.symm)
  simp at hlast

theorem Table.endsWith_fileName {t : Table} {name : String} (h : t.fileName = .ok name) :
    endsWith name ".json" = true := by
  obtain ⟨shown, whole, rfl⟩ : ∃ shown whole, TableName.compose shown whole = name := by
    cases t with
    | robot t => exact ⟨_, _, (TableName.ofPath_eq_ok.1 h).2⟩
    | variableFile t => exact ⟨_, _, (TableName.ofPath_eq_ok.1 h).2⟩
    | library t => exact ⟨_, _, TableName.compose_of_ofLibrary h⟩
  rw [endsWith_iff, TableName.compose, String.toList_append]
  exact List.suffix_append _ _

namespace Store

variable {s s' s'' : Store} {place other : Location} {path name : String} {v : Value}

theorem hasFile_iff : s.hasFile path = true ↔
    ∃ place text, s.locate path = .ok place ∧ s.entry? place = some (.file text) := by
  have hfile : s.hasFile path = true ↔ ∃ text, s.find path = .ok (.file text) := by
    unfold hasFile
    split <;> simp_all
  simp only [hfile, find_eq_ok]
  exact exists_comm

theorem has_iff : s.has path = true ↔ ∃ entry, s.find path = .ok entry := by
  unfold has
  cases s.find path <;> simp [Except.toOption]

/-! ### Stores that differ in data only -/

/-- Whether a place is one for a file that is no code. -/
def IsDataPlace (place : Location) : Prop :=
  ∃ folder name, place = folder ++ [name] ∧ IsDataName name

/-- Stores that differ in files only that are no code. -/
structure AlikeButData (s s' : Store) : Prop where
  cwd : s'.cwd = s.cwd
  entry : ∀ place, s'.entry? place = s.entry? place ∨
    IsDataPlace place ∧ s.entry? place ≠ some .folder ∧ s'.entry? place ≠ some .folder

theorem AlikeButData.refl (s : Store) : AlikeButData s s := ⟨rfl, fun _ => Or.inl rfl⟩

theorem AlikeButData.symm (h : AlikeButData s s') : AlikeButData s' s :=
  ⟨h.cwd.symm, fun place => (h.entry place).imp Eq.symm fun ⟨hdata, hs, hs'⟩ => ⟨hdata, hs', hs⟩⟩

theorem AlikeButData.trans (h : AlikeButData s s') (h' : AlikeButData s' s'') :
    AlikeButData s s'' := by
  refine ⟨h'.cwd.trans h.cwd, fun place => ?_⟩
  rcases h.entry place with hsame | ⟨hdata, hs, hs'⟩ <;>
    rcases h'.entry place with hsame' | ⟨hdata', hs₁, hs''⟩
  · exact Or.inl (hsame'.trans hsame)
  · exact Or.inr ⟨hdata', hsame ▸ hs₁, hs''⟩
  · exact Or.inr ⟨hdata, hs, hsame'.symm ▸ hs'⟩
  · exact Or.inr ⟨hdata, hs, hs''⟩

theorem AlikeButData.entry?_ne_folder (h : AlikeButData s s')
    (hplace : s'.entry? place ≠ some .folder) : s.entry? place ≠ some .folder := by
  rcases h.entry place with hsame | ⟨-, hs, -⟩
  · rwa [← hsame]
  · exact hs

theorem AlikeButData.keepsFolders (h : AlikeButData s s') : KeepsFolders s s' :=
  ⟨h.cwd, fun _ hfolder => by_contra fun hplace => h.entry?_ne_folder hplace hfolder⟩

/-- Paths lead to the same places. -/
theorem AlikeButData.locate_iff (h : AlikeButData s s') :
    s'.locate path = .ok place ↔ s.locate path = .ok place :=
  ⟨locate_of_keepsFolders h.symm.keepsFolders, locate_of_keepsFolders h.keepsFolders⟩

/-- The last name of a path has the ending of the path, and is a plain name. -/
theorem isPlain_name_of_endsWith {ending : String} {c : Char} (hslash : '/' ∉ ending.toList)
    (hc : c ∈ ending.toList) (hdot : c ≠ '.') (h : endsWith path ending = true) :
    Path.IsPlain (Path.name path).toList ∧ endsWith (Path.name path) ending = true := by
  have hname : ending.toList <:+ (Path.name path).toList := by
    simpa [Path.name] using Path.suffix_nameChars hslash (endsWith_iff.1 h)
  have hmem := hname.subset hc
  refine ⟨⟨List.ne_nil_of_mem hmem, ?_, ?_, ?_⟩, endsWith_iff.2 hname⟩
  · intro e
    simp [e, hdot] at hmem
  · intro e
    simp [e, Path.above, hdot] at hmem
  · simpa [Path.name] using Path.not_mem_nameChars path.toList

/-- The files of code are the same. -/
theorem AlikeButData.hasFile_code (h : AlikeButData s s') (hcode : endsWith path ".py" = true) :
    s'.hasFile path = s.hasFile path := by
  obtain ⟨hplain, hname⟩ := isPlain_name_of_endsWith (c := 'y') (by decide) (by decide) (by decide) hcode
  have hentry {place : Location} (hplace : s.locate path = .ok place) :
      s'.entry? place = s.entry? place := by
    rcases h.entry place with hsame | ⟨⟨folder', name, hconcat, hdata⟩, -⟩
    · exact hsame
    · obtain ⟨folder, rfl⟩ := locate_concat hplain hplace
      obtain rfl : Path.name path = name := by simpa using (List.append_inj' hconcat rfl).2
      rw [hdata] at hname
      cases hname
  rw [Bool.eq_iff_iff, hasFile_iff, hasFile_iff]
  constructor
  · rintro ⟨place, text, hplace, htext⟩
    have hplace := h.locate_iff.1 hplace
    exact ⟨place, text, hplace, hentry hplace ▸ htext⟩
  · rintro ⟨place, text, hplace, htext⟩
    exact ⟨place, text, h.locate_iff.2 hplace, (hentry hplace).trans htext⟩

/-! ### Writing data -/

/-- A store into which files were written that are no code. -/
structure StoresData (s s' : Store) : Prop where
  alike : AlikeButData s s'
  keeps : ∀ place, s.entry? place ≠ none → s'.entry? place ≠ none

theorem StoresData.refl (s : Store) : StoresData s s := ⟨.refl s, fun _ => id⟩

theorem StoresData.trans (h : StoresData s s') (h' : StoresData s' s'') : StoresData s s'' :=
  ⟨h.alike.trans h'.alike, fun place hplace => h'.keeps place (h.keeps place hplace)⟩

/-- What was there is still there. -/
theorem StoresData.has (h : StoresData s s') (hhas : s.has path = true) : s'.has path = true := by
  obtain ⟨entry, hfind⟩ := has_iff.1 hhas
  obtain ⟨place, hplace, hentry⟩ := find_eq_ok.1 hfind
  obtain ⟨entry', hentry'⟩ := Option.ne_none_iff_exists'.1 (h.keeps place (by simp [hentry]))
  exact has_iff.2 ⟨entry', find_eq_ok.2 ⟨place, h.alike.locate_iff.2 hplace, hentry'⟩⟩

theorem isPlain_name_of_json {folder : String} (h : endsWith name ".json" = true) :
    Path.IsPlain (Path.name (Path.join folder name)).toList ∧
      IsDataName (Path.name (Path.join folder name)) := by
  obtain ⟨hplain, hjson⟩ :=
    isPlain_name_of_endsWith (c := 'n') (by decide) (by decide) (by decide) h
  rw [name_join]
  exact ⟨hplain, isDataName_of_json hjson⟩

theorem storesData_of_writeDocument {folder : String} (hname : endsWith name ".json" = true)
    (h : s.writeDocument (Path.join folder name) v = .ok s') : StoresData s s' := by
  obtain ⟨hplain, hdata⟩ := isPlain_name_of_json hname
  obtain ⟨place, hplace, hfolder, rfl⟩ := (write_eq_ok hplain).1 (writeDocument_eq_ok.1 h).1
  obtain ⟨front, rfl⟩ := locate_concat hplain hplace
  have hself : entry? (s.put (front ++ [Path.name (Path.join folder name)]) (.file v.render))
      (front ++ [Path.name (Path.join folder name)]) = some (.file v.render) :=
    entry?_put_self (by simp)
  refine ⟨⟨rfl, fun other => ?_⟩, fun other hother => ?_⟩
  · by_cases hsame : other = front ++ [Path.name (Path.join folder name)]
    · subst hsame
      exact Or.inr ⟨⟨_, _, rfl, hdata⟩, hfolder, by rw [hself]; nofun⟩
    · exact Or.inl (entry?_put_of_ne hsame)
  · by_cases hsame : other = front ++ [Path.name (Path.join folder name)]
    · subst hsame
      rw [hself]
      nofun
    · rwa [entry?_put_of_ne hsame]

/-- Whether two stores have the same files. -/
def SameFiles (s s' : Store) : Prop :=
  ∀ place text, s'.entry? place = some (.file text) ↔ s.entry? place = some (.file text)

/-- Whether a document was written under a path, and every other file is as it was. -/
structure Writes (s s' : Store) (path : String) (v : Value) : Prop where
  read : s'.readRaw path = .ok v.render
  others : ∀ place text, s'.locate path ≠ .ok place →
    ( s'.entry? place = some (.file text) ↔ s.entry? place = some (.file text))

theorem SameFiles.refl (s : Store) : SameFiles s s := fun _ _ => Iff.rfl

theorem Founds.sameFiles (h : Founds s s') : SameFiles s s' := by
  intro place text
  rcases h.entry place with hsame | ⟨hnone, hfolder⟩
  · rw [hsame]
  · simp [hnone, hfolder]

theorem SameFiles.writes (h : SameFiles s s') (h' : Writes s' s'' path v) : Writes s s'' path v :=
  ⟨h'.read, fun place text hplace => (h'.others place text hplace).trans (h place text)⟩

theorem writes_of_writeDocument (hname : Path.IsPlain (Path.name path).toList)
    (h : s.writeDocument path v = .ok s') : Writes s s' path v := by
  have hwrite := (writeDocument_eq_ok.1 h).1
  obtain ⟨place, hplace, hfolder, rfl⟩ := (write_eq_ok hname).1 hwrite
  have hkeeps : KeepsFolders s (s.put place (.file v.render)) := keepsFolders_put hfolder
  refine ⟨readRaw_write hname hwrite, fun other text hother => ?_⟩
  rw [entry?_put_of_ne]
  rintro rfl
  exact hother (locate_of_keepsFolders hkeeps hplace)

/-- A document can be written in every store that is alike but for data. -/
theorem AlikeButData.exists_writeDocument {t : Store} (halike : AlikeButData s t)
    (hname : Path.IsPlain (Path.name path).toList) (h : t.writeDocument path v = .ok s') :
    ∃ s'', s.writeDocument path v = .ok s'' := by
  obtain ⟨hwrite, hlevels⟩ := writeDocument_eq_ok.1 h
  obtain ⟨place, hplace, hfolder, -⟩ := (write_eq_ok hname).1 hwrite
  exact ⟨_, writeDocument_eq_ok.2 ⟨(write_eq_ok hname).2
    ⟨place, halike.locate_iff.1 hplace, halike.entry?_ne_folder hfolder, rfl⟩, hlevels⟩⟩

theorem writeDocument_of_locate {fault : Fault} (hname : Path.IsPlain (Path.name path).toList)
    (h : s.locate path = .error fault) (v : Value) : s.writeDocument path v = .error fault := by
  rw [writeDocument, write, locateFile_of_isPlain hname, h]
  rfl

/-! ### Emptying a database -/

/-- Whether there are only files in a folder, and none of them is code. -/
def HoldsData (s : Store) (folder : String) : Prop :=
  ∀ place, s.locate folder = .ok place → ∀ below entry, below ≠ [] →
    s.entry? (place ++ below) = some entry →
    ∃ name text, below = [name] ∧ IsDataName name ∧ entry = .file text

theorem lookup_filter_fst (keep : Location → Bool) (entries : List (Location × Entry))
    (place : Location) : (entries.filter fun e => keep e.1).lookup place =
      if keep place then entries.lookup place else none := by
  induction entries with
  | nil => simp
  | cons e rest ih =>
    obtain ⟨first, entry⟩ := e
    rw [List.filter_cons, List.lookup_cons]
    by_cases hfirst : place = first
    · subst hfirst
      split
      · simp
      · rename_i hkeep
        rw [ih, if_neg hkeep]
    · have hne : (place == first) = false := beq_false_of_ne hfirst
      split
      · rw [List.lookup_cons, hne, ih]
      · rw [hne, ih]

/-- The store without the folder at a place. -/
abbrev without (s : Store) (place : Location) : Store := (s.clear place).drop place

theorem entry?_without (hother : other ≠ []) :
    Store.entry? (s.without place) other = if place <+: other then none else s.entry? other := by
  obtain ⟨first, rest, rfl⟩ := List.exists_cons_of_ne_nil hother
  change (List.filter _ (List.filter _ _)).lookup _ = _
  rw [lookup_filter_fst (fun p => p != place),
    lookup_filter_fst (fun p => !(place.isPrefixOf p && p != place))]
  by_cases hbegins : place <+: first :: rest
  · rw [if_pos hbegins]
    simp only [List.isPrefixOf_iff_prefix.2 hbegins, Bool.true_and]
    split
    · rename_i hne
      rw [hne]
      rfl
    · rfl
  · have hne : first :: rest ≠ place := fun e => hbegins (e ▸ List.prefix_refl _)
    have hkept : place.isPrefixOf (first :: rest) = false := by
      rw [Bool.eq_false_iff]
      exact fun h => hbegins (List.isPrefixOf_iff_prefix.1 h)
    rw [if_neg hbegins, if_pos (by simpa using hne), if_pos (by simp [hkept])]
    rfl

theorem keeps_without (s : Store) (place : Location) : Keeps (s.without place) s := by
  refine ⟨rfl, fun other entry hentry => ?_⟩
  by_cases hroot : other = []
  · subst hroot
    exact hentry
  · rw [entry?_without hroot] at hentry
    split at hentry
    · cases hentry
    · exact hentry

/-- A folder that is removed is not addressed by dots. -/
theorem run_removeFolder_eq_ok (h : (removeFolder path).run s = (.ok (), s')) :
    ∃ place, s.locate path = .ok place ∧ s.entry? place = some .folder ∧
      (splitLast path).2 ≠ "." ∧ s' = s.without place := by
  obtain ⟨_, _, ⟨⟩, h⟩ := run_bind_eq_ok.1 h
  obtain ⟨entry, _, hfind, h⟩ := run_bind_eq_ok.1 h
  obtain ⟨hfind, rfl⟩ := run_lift_eq_ok.1 hfind
  cases entry with
  | file text => cases h
  | folder =>
    obtain ⟨place, _, hplace, h⟩ := run_bind_eq_ok.1 h
    obtain ⟨hplace, rfl⟩ := run_lift_eq_ok.1 hplace
    obtain ⟨_, hplace', hentry⟩ := find_eq_ok.1 hfind
    rw [hplace] at hplace'
    cases hplace'
    obtain ⟨_, _, ⟨⟩, h⟩ := run_bind_eq_ok.1 h
    obtain ⟨_, _, hagain, h⟩ := run_bind_eq_ok.1 h
    obtain ⟨-, rfl⟩ := run_lift_eq_ok.1 hagain
    split at h
    · cases h
    · rename_i hdots
      cases h
      simp only [Bool.or_eq_true, beq_iff_eq, not_or] at hdots
      exact ⟨place, hplace, hentry, hdots.1, rfl⟩

/-- The last thing that is done to make a folder is to put it into an empty place, unless it was
asked for by a dot. What is done before is to make other folders. -/
theorem exists_put_of_makeFolder {R : Store → Store → Prop} (hrefl : ∀ s, R s s)
    (htrans : ∀ s s' s'', R s s' → R s' s'' → R s s'') (P : String → Prop)
    (hhead : ∀ path, P path → (splitLast path).1 ≠ "" → P (splitLast path).1)
    (hadd : ∀ path, P path → Moves R (update (·.addFolder path))) (hpath : P path)
    (h : (makeFolder path false).run s = (.ok (), s')) (htail : (splitLast path).2 ≠ ".") :
    ∃ t place, R s t ∧ t.locate (bare path) = .ok place ∧ t.entry? place = none ∧
      s' = t.put place .folder := by
  have hlast {t : Store} {done : Bool} (hdone : done = false) (ht : R s t)
      (h : (if done = true then pure () else
        tryCatch (update (·.addFolder path)) fun fault => do
          if fault.isStorage && false && (← get).hasFolder path then pure () else throw fault :
          Storing Unit).run t = (.ok (), s')) :
      ∃ t place, R s t ∧ t.locate (bare path) = .ok place ∧ t.entry? place = none ∧
        s' = t.put place .folder := by
    subst hdone
    rcases run_tryCatch_eq_ok.1 h with h | ⟨fault, s₂, -, h⟩
    · rw [run_update] at h
      cases hadd : t.addFolder path with
      | error fault =>
        rw [hadd] at h
        cases h
      | ok s₂ =>
        rw [hadd] at h
        cases h
        obtain ⟨place, hplace, hnone, rfl⟩ := addFolder_eq_ok.1 hadd
        exact ⟨t, place, ht, hplace, hnone, rfl⟩
    · obtain ⟨_, _, ⟨⟩, h⟩ := run_bind_eq_ok.1 h
      rw [Bool.and_false, Bool.false_and] at h
      cases h
  have hpath' := hhead path hpath
  rw [makeFolder, addFolders] at h
  generalize splitLast path = split at h htail hpath'
  obtain ⟨head, tail⟩ := split
  have hdot : (tail == ".") = false := beq_false_of_ne htail
  obtain ⟨_, _, ⟨⟩, h⟩ := run_bind_eq_ok.1 h
  dsimp only at h hpath'
  split at h
  · rename_i hmissing
    obtain ⟨_, t, habove, h⟩ := run_bind_eq_ok.1 h
    refine hlast (by rw [hdot, Bool.and_false]) ?_ h
    have hmoves : Moves R (tryCatch (addFolders false path.length head) fun fault =>
        if fault == .storage .occupied then pure () else throw fault) := by
      refine Moves.rescue htrans (moves_addFolders hrefl htrans P hhead hadd false _ head ?_)
        fun fault => Moves.ite (fun _ => moves_pure hrefl ()) (moves_throw hrefl fault)
      refine hpath' ?_
      rintro rfl
      simp at hmissing
    have hmoved := hmoves s
    rwa [habove] at hmoved
  · exact hlast (by rw [hdot, Bool.and_false]) (hrefl s) h

/-- After a folder was made it is there, unless it was asked for by a dot. -/
theorem find_bare_of_makeFolder (h : (makeFolder path false).run s = (.ok (), s'))
    (htail : (splitLast path).2 ≠ ".") : s'.find (bare path) = .ok .folder := by
  obtain ⟨t, place, -, hplace, hnone, rfl⟩ := exists_put_of_makeFolder (R := fun _ _ => True)
    (fun _ => trivial) (fun _ _ _ _ _ => trivial) (fun _ => True) (fun _ _ _ => trivial)
    (fun _ _ _ => trivial) trivial h htail
  have hne : place ≠ [] := by
    rintro rfl
    cases hnone
  exact find_eq_ok.2 ⟨place, locate_of_keepsFolders (founds_put hnone).keeps.keepsFolders hplace,
    entry?_put_self hne⟩

/-- The folder above a folder that is there is there too. -/
theorem find_splitLast (h : s.find path = .ok .folder) (hne : (splitLast path).1 ≠ "") :
    s.find (splitLast path).1 = .ok .folder := by
  obtain ⟨place, hplace, -⟩ := find_eq_ok.1 h
  revert hne
  unfold splitLast
  dsimp only
  split
  · intro hne
    have hparent : Path.parent path ≠ "" := by
      intro e
      rw [e] at hne
      exact hne rfl
    obtain ⟨above, habove, -⟩ := find_eq_ok.1 (find_parent hplace hparent)
    exact find_parent habove hne
  · exact find_parent hplace

theorem Keeps.put_folder (h : Keeps s' s) (hplace : s.entry? place = some .folder) :
    Keeps (s'.put place .folder) s := by
  refine ⟨h.cwd, fun other entry hother => ?_⟩
  by_cases hsame : other = place
  · subst hsame
    by_cases hroot : other = []
    · subst hroot
      exact hother
    · rw [entry?_put_self hroot] at hother
      cases hother
      exact hplace
  · rw [entry?_put_of_ne hsame] at hother
    exact h.entry other entry hother

/-- Making a folder that a larger store has makes nothing that this store does not have. -/
theorem keeps_of_makeFolder (hkeeps : Keeps s' s) (hfind : s.find path = .ok .folder) :
    Keeps ((makeFolder path false).run s').2 s := by
  refine moves_addFolders (R := fun t t' => Keeps t s → Keeps t' s) (fun _ => id)
    (fun _ _ _ h h' hkeeps => h' (h hkeeps)) (fun path => s.find path = .ok .folder)
    (fun _ => find_splitLast) (fun path hfind => moves_update (fun _ => id) fun t t' hadd hkeeps => ?_)
    false _ path hfind s' hkeeps
  obtain ⟨place, hplace, -, rfl⟩ := addFolder_eq_ok.1 hadd
  obtain ⟨place', hplace', hentry⟩ := find_eq_ok.1 hfind
  have hbare := locate_of_keepsFolders hkeeps.keepsFolders hplace
  rw [locate_bare hplace'] at hbare
  cases hbare
  exact hkeeps.put_folder hentry

/-- **A database that was removed and made again lost its tables and nothing else.** -/
theorem alikeButData_of_emptied {s₁ : Store} (hdata : s.HoldsData path)
    (hremove : (removeFolder path).run s = (.ok (), s₁))
    (hmake : (makeFolder path false).run s₁ = (.ok (), s')) : AlikeButData s s' := by
  obtain ⟨place, hplace, hentry, hdot, rfl⟩ := run_removeFolder_eq_ok hremove
  have hfind : s.find path = .ok .folder := find_eq_ok.2 ⟨place, hplace, hentry⟩
  have hless : Keeps s' s := by
    have hmade := keeps_of_makeFolder (keeps_without s place) hfind
    rwa [hmake] at hmade
  have hmore : Keeps (s.without place) s' := by
    have hmade := (founds_makeFolder path false (s.without place)).keeps
    rwa [hmake] at hmade
  have hthere : s'.entry? place = some .folder := by
    obtain ⟨place', hplace', hentry'⟩ := find_eq_ok.1 (find_bare_of_makeFolder hmake hdot)
    have hbare := locate_of_keepsFolders hless.keepsFolders hplace'
    rw [locate_bare hplace] at hbare
    cases hbare
    exact hentry'
  refine ⟨hless.cwd.symm, fun other => ?_⟩
  cases hother' : s'.entry? other with
  | some entry => exact Or.inl (hless.entry other entry hother').symm
  | none =>
    cases hother : s.entry? other with
    | none => exact Or.inl rfl
    | some entry =>
      have hroot : other ≠ [] := by
        rintro rfl
        cases hother'
      have hbelow : place <+: other := by
        by_contra habove
        have hkept : Store.entry? (s.without place) other = some entry := by
          rw [entry?_without hroot, if_neg habove, hother]
        rw [hmore.entry other entry hkept] at hother'
        cases hother'
      obtain ⟨below, rfl⟩ := hbelow
      have hne : below ≠ [] := by
        rintro rfl
        rw [List.append_nil, hthere] at hother'
        cases hother'
      obtain ⟨name, text, rfl, hname, rfl⟩ := hdata place hplace below entry hne hother
      exact Or.inr ⟨⟨place, name, rfl, hname⟩, nofun, nofun⟩

end Store

end KeywordCatalog
