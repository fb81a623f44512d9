import KeywordCatalog.Finder
import KeywordCatalog.Proofs.Store.Database

/-!
# What lies outside of a folder

Work that only reads what is outside of a folder does not notice what the folder holds. A path leads
to the same place whether a folder holds files or nothing (`HoldsFiles.locate_clear_iff`), and if it
does not lead to one of these files it finds the same (`HoldsFiles.find_clear`). Listings are the same
for all folders but the one (`HoldsFiles.names_clear`).
-/

namespace KeywordCatalog

namespace Store

open Outcome

variable {s s' : Store} {place other : Location} {names : List String} {path : String}
  {fault : Fault}

/-! ### Places in a folder -/

/-- Whether a place lies in a folder, at any depth. -/
def Inside (place other : Location) : Prop := place <+: other ∧ other ≠ place

instance (place other : Location) : Decidable (Inside place other) :=
  inferInstanceAs (Decidable (_ ∧ _))

theorem inside_append {below : Location} : Inside place (place ++ below) ↔ below ≠ [] := by
  simp [Inside]

theorem Inside.exists_append (h : Inside place other) :
    ∃ below, below ≠ [] ∧ other = place ++ below := by
  obtain ⟨⟨below, rfl⟩, hne⟩ := h
  exact ⟨below, by simpa using hne, rfl⟩

theorem Inside.exists_cons (h : Inside place other) : ∃ first rest, other = first :: rest := by
  obtain ⟨below, hne, rfl⟩ := h.exists_append
  exact List.exists_cons_of_ne_nil (by simp [hne])

/-- What is above a place in a folder is the folder or in it. -/
theorem Inside.prefix_dropLast (h : Inside place other) : place <+: other.dropLast := by
  obtain ⟨below, hne, rfl⟩ := h.exists_append
  rw [List.dropLast_append_of_ne_nil hne]
  exact List.prefix_append _ _

/-- Whether neither of two places is the other one or lies in it. -/
def Apart (place other : Location) : Prop := ¬place <+: other ∧ ¬other <+: place

instance (place other : Location) : Decidable (Apart place other) :=
  inferInstanceAs (Decidable (_ ∧ _))

theorem Apart.append (h : Apart place other) (below : Location) : Apart place (other ++ below) := by
  refine ⟨fun hp => ?_, fun hp => h.2 ((List.prefix_append _ _).trans hp)⟩
  rcases List.prefix_or_prefix_of_prefix hp (List.prefix_append other below) with hp' | hp'
  · exact h.1 hp'
  · exact h.2 hp'

/-- Whether a folder holds files only. -/
def HoldsFiles (s : Store) (place : Location) : Prop :=
  ∀ other, Inside place other → s.entry? other ≠ some .folder

/-! ### Clearing a folder -/

theorem isKept_iff {other : Location} :
    (!(place.isPrefixOf other && other != place)) = true ↔ ¬Inside place other := by
  rw [Inside, ← List.isPrefixOf_iff_prefix]
  cases place.isPrefixOf other <;> simp

theorem mem_clear {e : Location × Entry} :
    e ∈ (s.clear place).entries ↔ e ∈ s.entries ∧ ¬Inside place e.1 := by
  rw [clear, List.mem_filter, isKept_iff]

theorem entry?_clear_of_inside (h : Inside place other) :
    Store.entry? (s.clear place) other = none := by
  obtain ⟨first, rest, rfl⟩ := h.exists_cons
  change (List.filter _ s.entries).lookup _ = _
  rw [lookup_filter_fst (fun p => !(place.isPrefixOf p && p != place)), if_neg]
  rwa [isKept_iff, not_not]

theorem entry?_clear_of_not_inside (h : ¬Inside place other) :
    Store.entry? (s.clear place) other = s.entry? other := by
  cases other with
  | nil => rfl
  | cons first rest =>
    change (List.filter _ s.entries).lookup _ = _
    rw [lookup_filter_fst (fun p => !(place.isPrefixOf p && p != place)), if_pos (isKept_iff.2 h)]
    rfl

theorem clear_eq_self (h : ∀ other, Inside place other → s.entry? other = none) :
    s.clear place = s := by
  refine congrArg (Store.mk s.cwd) (List.filter_eq_self.2 fun e he => isKept_iff.2 fun hinside => ?_)
  obtain ⟨first, rest, hcons⟩ := hinside.exists_cons
  have hnone := h e.1 hinside
  rw [hcons] at hnone
  have hlookup : s.entries.lookup (first :: rest) = none := hnone
  have hne := List.lookup_eq_none_iff.1 hlookup e he
  simp [hcons] at hne

/-- What is put into a folder is cleared with it. -/
theorem clear_put {entry : Entry} (h : Inside place other) :
    (s.put other entry).clear place = s.clear place := by
  have hgone : (!(place.isPrefixOf other && other != place)) = false := by
    rw [Bool.eq_false_iff, ne_eq, isKept_iff, not_not]
    exact h
  exact congrArg (Store.mk s.cwd) (Ordered.filter_put
    (fun p => !(place.isPrefixOf p && p != place)) hgone entry s.entries)

theorem childNames_clear (h : ¬place <+: other) :
    (s.clear place).childNames other = s.childNames other := by
  rw [childNames, clear, List.filterMap_filter]
  refine List.filterMap_congr fun e _ => ?_
  split
  · rfl
  · rename_i hkept
    rw [isKept_iff, not_not] at hkept
    rw [if_neg]
    exact fun heq => h (beq_iff_eq.1 heq ▸ hkept.prefix_dropLast)

theorem childNames_clear_self : (s.clear place).childNames place = [] := by
  rw [childNames, List.filterMap_eq_nil_iff]
  intro e he
  obtain ⟨-, hout⟩ := mem_clear.1 he
  split
  · rename_i heq
    rcases List.eq_nil_or_concat e.1 with hnil | ⟨front, last, hlast⟩
    · rw [hnil]
      rfl
    · rw [hlast, List.concat_eq_append, List.dropLast_concat, beq_iff_eq] at heq
      rw [hlast, List.concat_eq_append, heq, inside_append] at hout
      exact absurd (List.cons_ne_nil _ _) hout
  · rfl

/-- A whole folder is listed alike if the cleared folder is neither above nor below it. -/
theorem filesUnder_clear (h : Apart place other) :
    (s.clear place).filesUnder other = s.filesUnder other := by
  rw [filesUnder, clear, List.filterMap_filter]
  refine congrArg (List.mergeSort · walkedBefore) (List.filterMap_congr fun e _ => ?_)
  split
  · rfl
  · rename_i hkept
    rw [isKept_iff, not_not] at hkept
    split
    · rw [if_neg]
      intro hbegins
      obtain ⟨below, hbelow⟩ := List.isPrefixOf_iff_prefix.1 hbegins
      exact (h.append below).1 (hbelow ▸ hkept.1)
    · rfl

/-! ### Paths that lead to the same -/

theorem family_of_walk (h : s.walk place names = .error fault) :
    fault.isData = false ∧ fault.isStorage = true := by
  induction names generalizing place with
  | nil => cases h
  | cons name rest ih =>
    rw [walk] at h
    split at h
    · rename_i hneed
      unfold needFolder at hneed
      split at hneed <;> cases hneed <;> cases h <;> exact ⟨rfl, rfl⟩
    split at h
    · exact ih h
    split at h
    · exact ih h
    split at h
    · cases h
      exact ⟨rfl, rfl⟩
    · exact ih h

/-- A path that leads nowhere is at fault itself, or the store is. -/
theorem family_of_locate (h : s.locate path = .error fault) : fault.isStorage = !fault.isData := by
  have hwalk {names : List String} (h : s.walk [] names = .error fault) :
      fault.isStorage = !fault.isData := by
    obtain ⟨hdata, hstorage⟩ := family_of_walk h
    rw [hdata, hstorage]
    rfl
  unfold locate at h
  split at h
  · cases h
    rfl
  split at h
  · cases h
    rfl
  split at h
  · cases h
    rfl
  split at h
  · cases h
    rfl
  split at h
  · exact hwalk h
  · exact hwalk h

theorem locate_alike (h : ∀ other, s.locate path = .ok other ↔ s'.locate path = .ok other) :
    Alike (s.locate path) (s'.locate path) := by
  cases hs : s.locate path with
  | ok other =>
    rw [(h other).1 hs]
    exact .ok other
  | error f =>
    cases hs' : s'.locate path with
    | ok other =>
      rw [(h other).2 hs'] at hs
      cases hs
    | error g =>
      -- a fault of the data is one of the path alone, so both stores meet it
      have hdata : f.isData = g.isData := by
        rw [Bool.eq_iff_iff]
        constructor
        · intro hf
          have hg := locate_eq_error_of_isData hs hf s'
          rw [hs'] at hg
          rwa [← Except.error.inj hg] at hf
        · intro hg
          have hf := locate_eq_error_of_isData hs' hg s
          rw [hs] at hf
          rwa [← Except.error.inj hf] at hg
      exact .error hdata (by rw [family_of_locate hs, family_of_locate hs', hdata])

theorem find_alike (h : ∀ other, s.locate path = .ok other ↔ s'.locate path = .ok other)
    (hentry : ∀ other, s.locate path = .ok other → s.entry? other = s'.entry? other) :
    Alike (s.find path) (s'.find path) := by
  have hlocate := locate_alike h
  unfold find
  cases hs : s.locate path with
  | ok other =>
    rw [(h other).1 hs]
    dsimp only
    rw [hentry other hs]
    exact .refl _
  | error f =>
    rw [hs] at hlocate
    generalize s'.locate path = located at hlocate
    cases hlocate with
    | error hdata hstorage => exact .error hdata hstorage

section Alike

variable (h : Alike (s.find path) (s'.find path))
include h

theorem has_of_alike : s.has path = s'.has path := by
  unfold has
  generalize s.find path = x at h
  generalize s'.find path = y at h
  cases h <;> rfl

theorem hasFile_of_alike : s.hasFile path = s'.hasFile path := by
  unfold hasFile
  generalize s.find path = x at h
  generalize s'.find path = y at h
  cases h <;> rfl

theorem readRaw_alike : Alike (s.readRaw path) (s'.readRaw path) := by
  unfold readRaw
  generalize s.find path = x at h
  generalize s'.find path = y at h
  cases h with
  | ok entry => exact .refl _
  | error hdata hstorage => exact .error hdata hstorage

theorem read_alike : Alike (s.read path) (s'.read path) := (readRaw_alike h).map _

theorem readDocument_alike : Alike (s.readDocument path) (s'.readDocument path) :=
  (read_alike h).bind fun _ _ => .refl _

theorem names_alike (hlocate : ∀ other, s.locate path = .ok other ↔ s'.locate path = .ok other)
    (hchildren : ∀ other, s.locate path = .ok other → s.childNames other = s'.childNames other) :
    Alike (s.names path) (s'.names path) := by
  unfold names
  generalize s.find path = x at h
  generalize s'.find path = y at h
  cases h with
  | error hdata hstorage => exact .error hdata hstorage
  | ok entry =>
    cases entry with
    | file text => exact .refl _
    | folder =>
      have hplaces := locate_alike hlocate
      cases hs : s.locate path with
      | error f =>
        rw [hs] at hplaces
        generalize s'.locate path = located at hplaces
        cases hplaces with
        | error hdata hstorage => exact .error hdata hstorage
      | ok other =>
        rw [(hlocate other).1 hs]
        simp only [Except.map, hchildren other hs]
        exact .refl _

theorem filesBelow_of_alike
    (hlocate : ∀ other, s.locate path = .ok other ↔ s'.locate path = .ok other)
    (hfiles : ∀ other, s.locate path = .ok other → s.filesUnder other = s'.filesUnder other) :
    s.filesBelow path = s'.filesBelow path := by
  unfold filesBelow
  cases hs : s.locate path with
  | error f =>
    have hfail : s.find path = .error f := by rw [find, hs]
    rw [hfail] at h ⊢
    generalize s'.find path = found at h
    cases h
    rfl
  | ok other =>
    rw [(hlocate other).1 hs]
    generalize s.find path = x at h
    generalize s'.find path = y at h
    cases h with
    | error => rfl
    | ok entry =>
      cases entry with
      | file text => rfl
      | folder => exact hfiles other hs

end Alike

/-! ### Paths in a store and without what a folder holds -/

/-- Whether a path leads to a file in a folder. -/
def Meets (s : Store) (place : Location) (path : String) : Prop :=
  ∃ other text, Inside place other ∧ s.locate path = .ok other ∧ s.entry? other = some (.file text)

theorem HoldsFiles.locate_clear_iff (h : s.HoldsFiles place) :
    s.locate path = .ok other ↔ (s.clear place).locate path = .ok other := by
  have hmore : KeepsFolders (s.clear place) s := by
    refine ⟨rfl, fun p hp => ?_⟩
    by_cases hinside : Inside place p
    · rw [entry?_clear_of_inside hinside] at hp
      cases hp
    · rwa [entry?_clear_of_not_inside hinside] at hp
  have hless : KeepsFolders s (s.clear place) := by
    refine ⟨rfl, fun p hp => ?_⟩
    rwa [entry?_clear_of_not_inside fun hinside => h p hinside hp]
  exact ⟨locate_of_keepsFolders hless, locate_of_keepsFolders hmore⟩

/-- A path that leads to no file in a folder finds the same without what the folder holds. -/
theorem HoldsFiles.find_clear (h : s.HoldsFiles place) (hpath : ¬s.Meets place path) :
    Alike (s.find path) ((s.clear place).find path) := by
  refine find_alike (fun _ => h.locate_clear_iff) fun other hother => ?_
  by_cases hinside : Inside place other
  · rw [entry?_clear_of_inside hinside]
    cases hentry : s.entry? other with
    | none => rfl
    | some entry =>
      cases entry with
      | folder => exact absurd hentry (h other hinside)
      | file text => exact absurd ⟨other, text, hinside, hother, hentry⟩ hpath
  · rw [entry?_clear_of_not_inside hinside]

/-- A folder that is neither cleared nor in the cleared one is listed alike. -/
theorem HoldsFiles.names_clear (h : s.HoldsFiles place)
    (hpath : ∀ other, s.locate path = .ok other → ¬place <+: other) :
    Alike (s.names path) ((s.clear place).names path) := by
  have hmeets : ¬s.Meets place path := by
    rintro ⟨other, text, hinside, hother, -⟩
    exact hpath other hother hinside.1
  exact names_alike (h.find_clear hmeets) (fun _ => h.locate_clear_iff) fun other hother =>
    (childNames_clear (hpath other hother)).symm

/-- The cleared folder has no names in it. -/
theorem HoldsFiles.names_clear_self (h : s.HoldsFiles place) (hlocate : s.locate path = .ok place)
    (hfolder : s.entry? place = some .folder) : (s.clear place).names path = .ok [] := by
  have hentry : Store.entry? (s.clear place) place = some .folder := by
    rw [entry?_clear_of_not_inside fun hinside => hinside.2 rfl, hfolder]
  have hnames := names_of_childNames (h.locate_clear_iff.1 hlocate) hentry childNames_clear_self
  rwa [List.mergeSort_nil] at hnames

/-- Nothing is there in the cleared folder. -/
theorem HoldsFiles.has_clear_of_inside (h : s.HoldsFiles place) (hlocate : s.locate path = .ok other)
    (hinside : Inside place other) : (s.clear place).has path = false := by
  rw [Bool.eq_false_iff]
  intro hhas
  obtain ⟨entry, hfind⟩ := has_iff.1 hhas
  obtain ⟨l, hl, hentry⟩ := find_eq_ok.1 hfind
  rw [h.locate_clear_iff.1 hlocate] at hl
  cases hl
  rw [entry?_clear_of_inside hinside] at hentry
  cases hentry

theorem HoldsFiles.findFiles_clear (h : s.HoldsFiles place) (extension : String)
    (hpath : ∀ other, s.locate (Path.absolute s.cwd path) = .ok other → Apart place other) :
    s.findFiles path extension = (s.clear place).findFiles path extension := by
  have hmeets : ¬s.Meets place (Path.absolute s.cwd path) := by
    rintro ⟨other, text, hinside, hother, -⟩
    exact (hpath other hother).1 hinside.1
  have hbelow : s.filesBelow (Path.absolute s.cwd path) =
      (s.clear place).filesBelow (Path.absolute s.cwd path) :=
    filesBelow_of_alike (h.find_clear hmeets) (fun _ => h.locate_clear_iff) fun other hother =>
      (filesUnder_clear (hpath other hother)).symm
  simp only [findFiles, hbelow]
  rfl

/-! ### Files that are found -/

/-- Whether the names of places are plain. -/
def WellNamed (s : Store) : Prop := ∀ e ∈ s.entries, ∀ name ∈ e.1, Path.IsPlain name.toList

theorem join_ne_empty {name : String} (hname : Path.IsPlain name.toList) (folder : String) :
    Path.join folder name ≠ "" := by
  intro hempty
  have hlast := name_join_of_isPlain hname folder
  rw [hempty] at hlast
  exact hname.1 (by rw [← hlast]; rfl)

theorem absolute_ne_empty (cwd path : String) : Path.absolute cwd path ≠ "" := by
  have hne : Path.absoluteChars cwd.toList path.toList ≠ [] := by
    unfold Path.absoluteChars Path.normalizeChars
    dsimp only
    split
    · simp
    · rename_i hempty
      simpa using hempty
  simpa [Path.absolute] using hne

/-- A path with plain names after it leads to where the names lead from the path. -/
theorem exists_locate_of_joinNames (hpath : path ≠ "")
    (hnames : ∀ name ∈ names, Path.IsPlain name.toList)
    (h : s.locate (joinNames path names) = .ok place) :
    ∃ above, s.locate path = .ok above ∧ place = above ++ names := by
  induction names generalizing path with
  | nil => exact ⟨place, h, by simp⟩
  | cons name rest ih =>
    obtain ⟨hname, hrest⟩ := List.forall_mem_cons.1 hnames
    obtain ⟨l, hl, rfl⟩ := ih (join_ne_empty hname path) hrest h
    obtain ⟨above, habove, -, rfl⟩ := exists_locate_of_join hpath hname hl
    exact ⟨above, habove, by simp⟩

/-- A file that is found is named by plain names below the folder that is searched. -/
theorem mem_findFiles {extension file : String} {files : List String} (hnamed : s.WellNamed)
    (h : s.findFiles path extension = .ok files) (hfile : file ∈ files) :
    ∃ names, file = joinNames (Path.absolute s.cwd path) names ∧
      ∀ name ∈ names, Path.IsPlain name.toList := by
  unfold findFiles at h
  dsimp only at h
  split at h
  · cases h
  split at h
  · cases h
  cases h
  obtain ⟨names, hnames, rfl⟩ := List.mem_map.1 hfile
  refine ⟨names, rfl, fun name hname => ?_⟩
  have hbelow := List.mem_of_mem_filter hnames
  unfold filesBelow at hbelow
  split at hbelow
  · rw [filesUnder, List.mem_mergeSort, List.mem_filterMap] at hbelow
    obtain ⟨e, he, hkept⟩ := hbelow
    split at hkept
    · split at hkept
      · cases hkept
        exact hnamed e he name (List.mem_of_mem_drop hname)
      · cases hkept
    · cases hkept
  · cases hbelow

/-- The files that are found below a folder do not lie in a folder apart from it. -/
theorem not_meets_of_mem_findFiles {extension file : String} {files : List String}
    (hnamed : s.WellNamed)
    (hpath : ∀ other, s.locate (Path.absolute s.cwd path) = .ok other → Apart place other)
    (h : s.findFiles path extension = .ok files) (hfile : file ∈ files) : ¬s.Meets place file := by
  rintro ⟨other, text, hinside, hother, -⟩
  obtain ⟨names, rfl, hplain⟩ := mem_findFiles hnamed h hfile
  obtain ⟨above, habove, rfl⟩ := exists_locate_of_joinNames (absolute_ne_empty _ _) hplain hother
  exact ((hpath above habove).append names).1 hinside.1

/-! ### Paths that never step back -/

/-- Whether a path never steps back to the folder above. -/
def Straight (cwd path : String) : Prop := ".." ∉ namesOf (Path.join cwd path)

instance (cwd path : String) : Decidable (Straight cwd path) :=
  inferInstanceAs (Decidable (_ ∉ _))

/-- The place that some names lead to from the root. -/
def placeOf (names : List String) : Location :=
  names.filter fun name => !(name.isEmpty || name == ".")

theorem eq_append_placeOf (hnames : ".." ∉ names) (h : s.walk place names = .ok other) :
    other = place ++ placeOf names := by
  induction names generalizing place with
  | nil =>
    cases h
    simp [placeOf]
  | cons name rest ih =>
    obtain ⟨hname, hrest⟩ := not_or.1 (mt List.mem_cons.2 hnames)
    have hback : (name == "..") = false := beq_false_of_ne fun e => hname e.symm
    rw [walk] at h
    split at h
    · cases h
    split at h
    · rename_i hskip
      rw [ih hrest h, placeOf, placeOf, List.filter_cons_of_neg (by simp [hskip])]
    · rename_i hskip
      rw [hback, if_neg Bool.false_ne_true] at h
      split at h
      · cases h
      · rw [ih hrest h, placeOf, placeOf, List.filter_cons_of_pos (by simp [hskip]),
          List.append_assoc, List.singleton_append]

theorem eq_placeOf_of_walk (hnames : ".." ∉ names) (h : s.walk [] names = .ok other) :
    other = placeOf names := by
  rw [eq_append_placeOf hnames h, List.nil_append]

/-- Names without steps back lead to the same place as long as the folders above it are there. -/
theorem walk_of_straight (hnames : ".." ∉ names)
    (hfolders : ∀ above, above <+: other → s.entry? above = some .folder →
      s'.entry? above = some .folder)
    (h : s.walk place names = .ok other) : s'.walk place names = .ok other := by
  -- without steps back, each folder that the walk comes through is above its end
  induction names generalizing place with
  | nil => exact h
  | cons name rest ih =>
    have hplace : place <+: other := eq_append_placeOf hnames h ▸ List.prefix_append _ _
    obtain ⟨hname, hrest⟩ := not_or.1 (mt List.mem_cons.2 hnames)
    have hback : (name == "..") = false := beq_false_of_ne fun e => hname e.symm
    have hfolder := entry?_of_walk_cons h
    rw [walk, needFolder_eq_ok.2 hfolder] at h
    rw [walk, needFolder_eq_ok.2 (hfolders place hplace hfolder)]
    dsimp only at h ⊢
    rw [hback, if_neg Bool.false_ne_true] at h ⊢
    split at h
    · rename_i hskip
      rw [if_pos hskip]
      exact ih hrest h
    · rename_i hskip
      rw [if_neg hskip]
      split at h
      · cases h
      · rename_i hshort
        rw [if_neg hshort]
        exact ih hrest h

theorem locate_of_straight (hcwd : s'.cwd = s.cwd) (hpath : Straight s.cwd path)
    (hfolders : ∀ above, above <+: other → s.entry? above = some .folder →
      s'.entry? above = some .folder)
    (h : s.locate path = .ok other) : s'.locate path = .ok other := by
  obtain ⟨haddress, hwalk⟩ := locate_eq_ok.1 h
  refine locate_eq_ok.2 ⟨haddress, ?_⟩
  rw [hcwd]
  exact walk_of_straight hpath hfolders hwalk

theorem join_absolute {cwd : String} (hcwd : Path.isAbsolute cwd = true) (path : String) :
    Path.join cwd (Path.absolute cwd path) = Path.absolute cwd path := by
  have hnormal := Path.isNormal_absoluteChars (p := path.toList) hcwd
  rw [Path.join, Path.absolute, String.toList_ofList,
    Path.joinChars_absolute _ (Path.isAbsoluteChars_of_isNormal hnormal)]

theorem straight_absolute {cwd : String} (hcwd : Path.isAbsolute cwd = true) (path : String) :
    Straight cwd (Path.absolute cwd path) := by
  rw [Straight, join_absolute hcwd, namesOf, List.mem_map]
  rintro ⟨part, hpart, hback⟩
  rw [Path.absolute, String.toList_ofList] at hpart
  obtain rfl : part = Path.above := by
    rw [← String.toList_ofList (l := part), hback]
    rfl
  rcases Path.isPlain_of_mem_parts (Path.isNormal_absoluteChars hcwd) hpart with hempty | hplain
  · cases hempty
  · exact hplain.2.2.1 rfl

/-- An absolute path leads to the place that it names. -/
theorem eq_placeOf_of_locate (hcwd : Path.isAbsolute s.cwd = true)
    (h : s.locate (Path.absolute s.cwd path) = .ok other) :
    other = placeOf (namesOf (Path.absolute s.cwd path)) := by
  have hwalk := (locate_eq_ok.1 h).2
  have heq := eq_placeOf_of_walk (straight_absolute hcwd path) hwalk
  rwa [join_absolute hcwd] at heq

theorem straight_join {cwd folder name : String} (hfolder : folder ≠ "")
    (hname : Path.IsPlain name.toList) (h : Straight cwd folder) :
    Straight cwd (Path.join folder name) := by
  obtain ⟨way, k, m, hway, hjoin, -⟩ := exists_way hfolder cwd
  rw [Straight, hway, List.mem_append, not_or] at h
  have hback : ".." ≠ name := fun e => hname.2.2.1 (by rw [← e]; rfl)
  rw [Straight, (hjoin name hname.2.2.2).1]
  simp [h.1, hback]

theorem straight_joinNames {cwd : String} (hpath : path ≠ "")
    (hnames : ∀ name ∈ names, Path.IsPlain name.toList) (h : Straight cwd path) :
    Straight cwd (joinNames path names) := by
  induction names generalizing path with
  | nil => exact h
  | cons name rest ih =>
    obtain ⟨hname, hrest⟩ := List.forall_mem_cons.1 hnames
    exact ih (join_ne_empty hname path) hrest (straight_join hpath hname h)

end Store

end KeywordCatalog
