import KeywordCatalog.Proofs.Path.Folder
import KeywordCatalog.Proofs.Store

/-!
# Files of a folder

A path can be spelled in many ways. Whatever the spelling of the path of a folder, that path and a
name without slashes lead to what has this name in the folder (`Store.walk_join`), so a document
that is read under them is one that the folder holds (`Store.holdsDocument_of_readDocument`); and
the path above them leads to the folder itself (`Store.locate_parent_join`).
-/

namespace KeywordCatalog

namespace Store

variable {s : Store} {place place' : Location} {names names' : List String} {path name : String}

/-! ### Paths that lead to a folder -/

theorem walk_append (place : Location) (names names' : List String) :
    s.walk place (names ++ names') = s.walk place names >>= fun other => s.walk other names' := by
  induction names generalizing place with
  | nil => rfl
  | cons name rest ih =>
    rw [List.cons_append, walk, walk]
    cases s.needFolder place with
    | error fault => rfl
    | ok _ =>
      dsimp only
      split
      · exact ih place
      split
      · exact ih _
      split
      · rfl
      · exact ih _

theorem walk_slashes (h : s.entry? place = some .folder) (k : Nat) :
    s.walk place (List.replicate k "") = .ok place := by
  induction k with
  | zero => rfl
  | succ k ih =>
    rw [List.replicate_succ, walk, needFolder_eq_ok.2 h]
    exact ih

theorem eq_of_walk_slashes {k : Nat} (h : s.walk place (List.replicate k "") = .ok place') :
    place' = place := by
  induction k with
  | zero => exact (Except.ok.inj h).symm
  | succ k ih =>
    rw [List.replicate_succ, walk] at h
    split at h
    · cases h
    · exact ih h

theorem entry?_of_walk_cons {name : String} (h : s.walk place (name :: names) = .ok place') :
    s.entry? place = some .folder := by
  rw [walk] at h
  split at h
  · cases h
  · rename_i hfolder
    exact needFolder_eq_ok.1 hfolder

/-- The folders on the way to a place that a path leads to. -/
theorem entry?_take_of_walk (hplace : ∀ n < place.length, s.entry? (place.take n) = some .folder)
    (h : s.walk place names = .ok place') :
    ∀ n < place'.length, s.entry? (place'.take n) = some .folder := by
  induction names generalizing place with
  | nil =>
    cases h
    exact hplace
  | cons name rest ih =>
    rw [walk] at h
    split at h
    · cases h
    rename_i hfolder
    split at h
    · exact ih hplace h
    split at h
    · refine ih (fun n hn => ?_) h
      rw [List.length_dropLast] at hn
      rw [List.dropLast_eq_take, List.take_take, Nat.min_eq_left (by omega)]
      exact hplace n (by omega)
    split at h
    · cases h
    · refine ih (fun n hn => ?_) h
      rw [List.length_append, List.length_singleton] at hn
      rw [List.take_append_of_le_length (by omega)]
      rcases Nat.lt_or_ge n place.length with hn' | hn'
      · exact hplace n hn'
      · rw [List.take_of_length_le hn']
        exact needFolder_eq_ok.1 hfolder

/-- Whether a text can be the path of anything. -/
def Addressable (path : String) : Prop :=
  Text.isPathText path.toList = true ∧ '\x00' ∉ path.toList ∧ path ≠ "" ∧
    path.utf8ByteSize < pathLimit

theorem locate_eq_ok : s.locate path = .ok place ↔
    Addressable path ∧ s.walk [] (namesOf (Path.join s.cwd path)) = .ok place := by
  have hjoin (h : Path.isAbsolute path = true) : Path.join s.cwd path = path := by
    rw [Path.join, Path.joinChars_absolute _ h, String.ofList_toList]
  constructor
  · intro h
    unfold locate at h
    split at h
    · cases h
    rename_i htext
    split at h
    · cases h
    rename_i hnull
    split at h
    · cases h
    rename_i hempty
    split at h
    · cases h
    rename_i hlimit
    refine ⟨⟨by simpa using htext, by simpa using hnull, by simpa using hempty,
      Nat.lt_of_not_le hlimit⟩, ?_⟩
    split at h
    · rename_i habsolute
      rwa [hjoin habsolute]
    · exact h
  · rintro ⟨⟨htext, hnull, hempty, hlimit⟩, hwalk⟩
    rw [locate, if_neg (by simp [htext]), if_neg (by simpa using hnull),
      if_neg (by simpa using hempty), if_neg (Nat.not_le.2 hlimit)]
    split
    · rename_i habsolute
      rwa [hjoin habsolute] at hwalk
    · exact hwalk

theorem Addressable.of_prefix {start : String} (h : Addressable path)
    (hbegins : start.toList <+: path.toList) (hne : start ≠ "") : Addressable start := by
  obtain ⟨rest, hrest⟩ := hbegins
  obtain rfl : start ++ String.ofList rest = path := String.toList_injective (by simpa using hrest)
  obtain ⟨htext, hnull, -, hlimit⟩ := h
  refine ⟨?_, ?_, hne, ?_⟩
  · simp only [Text.isPathText, String.toList_append, List.all_append, Bool.and_eq_true] at htext ⊢
    exact htext.1
  · rw [String.toList_append] at hnull
    exact fun hmem => hnull (List.mem_append_left _ hmem)
  · rw [String.utf8ByteSize_append] at hlimit
    exact Nat.lt_of_le_of_lt (Nat.le_add_right _ _) hlimit

/-- The names on the way to a folder and to what is in it: the way to the folder without its slashes,
and then an empty name for each slash. -/
theorem exists_way {folder : String} (hne : folder ≠ "") (cwd : String) : ∃ way k m,
    namesOf (Path.join cwd folder) = way ++ List.replicate k "" ∧
    (∀ name : String, '/' ∉ name.toList →
      namesOf (Path.join cwd (Path.join folder name)) = way ++ List.replicate m "" ++ [name] ∧
      Path.parent (Path.join folder name) = bare folder) ∧
    (bare folder = folder ∨ bare folder ≠ "" ∧ (bare folder).toList <+: folder.toList ∧
      namesOf (Path.join cwd (bare folder)) = way) := by
  obtain ⟨k, m, hfolder, hjoin⟩ := Path.exists_folder (a := folder.toList) (by simpa using hne)
  have hbare : bare folder = if (Text.dropTrailing (· == '/') folder.toList).isEmpty then folder
      else String.ofList (Text.dropTrailing (· == '/') folder.toList) := rfl
  generalize Text.dropTrailing (· == '/') folder.toList = base at hfolder hjoin hbare
  generalize hway : (if base = [] then [] else Path.joinChars cwd.toList base) = way
  have hplace : Path.joinChars cwd.toList folder.toList = way ++ List.replicate k '/' := by
    cases k with
    | zero =>
      have hbase : base ≠ [] := fun hempty => hne (by simpa [hempty] using hfolder)
      rw [hfolder, ← hway, if_neg hbase]
      simp
    | succ k => rw [hfolder, Path.joinChars_append_absolute _ _ rfl, hway]
  refine ⟨(Path.parts way).map String.ofList, k, m, ?_, fun name hname => ?_, ?_⟩
  · rw [namesOf, Path.join, String.toList_ofList, hplace, Path.parts_append_slashes,
      List.map_append, List.map_replicate]
  · obtain ⟨hname', hparent⟩ := hjoin name.toList hname
    constructor
    · have habsolute : Path.isAbsoluteChars (List.replicate m '/' ++ '/' :: name.toList) = true := by
        cases m <;> rfl
      rw [namesOf, Path.join, Path.join, String.toList_ofList, String.toList_ofList, hname',
        List.append_assoc, Path.joinChars_append_absolute _ _ habsolute, hway, ← List.append_assoc,
        Path.parts_append_name hname, Path.parts_append_slashes]
      simp
    · rw [Path.parent, Path.join, String.toList_ofList, hparent, hbare]
      split <;> simp
  · by_cases hempty : base = []
    · exact Or.inl (by simp [hbare, hempty])
    · refine Or.inr ⟨by simp [hbare, hempty], ?_, ?_⟩
      · simp [hbare, hempty, hfolder]
      · simp [hbare, hempty, namesOf, Path.join, ← hway]

/-- A path leads to the same place without the slashes at its end. -/
theorem locate_bare (h : s.locate path = .ok place) : s.locate (bare path) = .ok place := by
  obtain ⟨haddress, hwalk⟩ := locate_eq_ok.1 h
  obtain ⟨way, k, m, hway, -, hbare⟩ := exists_way haddress.2.2.1 s.cwd
  rcases hbare with hsame | ⟨hne, hbegins, hbare⟩
  · rw [hsame, h]
  · rw [hway, walk_append, Outcome.bind_eq_ok] at hwalk
    obtain ⟨other, hother, hslashes⟩ := hwalk
    exact locate_eq_ok.2 ⟨haddress.of_prefix hbegins hne, by
      rw [hbare, hother, eq_of_walk_slashes hslashes]⟩

/-- What is on a path below a folder is reached from the folder. -/
theorem walk_join {folder : String} (hlocate : s.locate folder = .ok place)
    (hentry : s.entry? place = some .folder) (hname : '/' ∉ name.toList) :
    s.walk [] (namesOf (Path.join s.cwd (Path.join folder name))) = s.walk place [name] := by
  obtain ⟨haddress, hwalk⟩ := locate_eq_ok.1 hlocate
  obtain ⟨way, k, m, hway, hjoin, -⟩ := exists_way haddress.2.2.1 s.cwd
  rw [hway, walk_append, Outcome.bind_eq_ok] at hwalk
  obtain ⟨other, hother, hslashes⟩ := hwalk
  obtain rfl := eq_of_walk_slashes hslashes
  rw [(hjoin name hname).1, walk_append, walk_append, hother, Outcome.ok_bind,
    walk_slashes hentry, Outcome.ok_bind]

/-- A file of a folder lies at the place of the folder. -/
theorem exists_locate_of_join {folder : String} (hne : folder ≠ "") (hname : Path.IsPlain name.toList)
    (h : s.locate (Path.join folder name) = .ok place) :
    ∃ above, s.locate folder = .ok above ∧ s.entry? above = some .folder ∧
      place = above ++ [name] := by
  obtain ⟨haddress, hwalk⟩ := locate_eq_ok.1 h
  obtain ⟨way, k, m, hway, hjoin, -⟩ := exists_way hne s.cwd
  rw [(hjoin name hname.2.2.2).1, walk_append, Outcome.bind_eq_ok] at hwalk
  obtain ⟨above, habove, hlast⟩ := hwalk
  rw [walk_append, Outcome.bind_eq_ok] at habove
  obtain ⟨other, hother, hslashes⟩ := habove
  obtain rfl := eq_of_walk_slashes hslashes
  have hentry := entry?_of_walk_cons hlast
  have hbegins : folder.toList <+: (Path.join folder name).toList := by
    rw [Path.join, String.toList_ofList, Path.joinChars,
      if_neg (by simp [Path.isAbsoluteChars_of_not_mem hname.2.2.2])]
    split <;> exact List.prefix_append _ _
  refine ⟨above, locate_eq_ok.2 ⟨haddress.of_prefix hbegins hne, ?_⟩, hentry,
    walk_singleton_of_isPlain hname hlast⟩
  rw [hway, walk_append, hother, Outcome.ok_bind, walk_slashes hentry]

/-- The path above a file of a folder leads to the folder. -/
theorem locate_parent_join {folder : String} (hlocate : s.locate folder = .ok place)
    (hname : '/' ∉ name.toList) :
    s.locate (Path.parent (Path.join folder name)) = .ok place := by
  obtain ⟨way, k, m, -, hjoin, -⟩ := exists_way (locate_eq_ok.1 hlocate).1.2.2.1 s.cwd
  rw [(hjoin name hname).2]
  exact locate_bare hlocate

theorem find_eq_ok {entry : Entry} :
    s.find path = .ok entry ↔ ∃ place, s.locate path = .ok place ∧ s.entry? place = some entry := by
  unfold find
  cases s.locate path with
  | error fault => simp
  | ok place => cases hentry : s.entry? place <;> simp [hentry]

theorem names_of_childNames (hlocate : s.locate path = .ok place)
    (hfolder : s.entry? place = some .folder) (h : s.childNames place = names) :
    s.names path = .ok (names.mergeSort listedBefore) := by
  have hfind : s.find path = .ok .folder := find_eq_ok.2 ⟨place, hlocate, hfolder⟩
  simp only [Store.names, hfind, hlocate, Except.map, h]

theorem names_of_sorted (hlocate : s.locate path = .ok place)
    (hfolder : s.entry? place = some .folder) (h : s.childNames place = names)
    (hsorted : names.Pairwise (listedBefore · ·)) : s.names path = .ok names := by
  rw [names_of_childNames hlocate hfolder h, List.mergeSort_of_pairwise hsorted]

/-- The names on the way to the folder of a path and to the path itself. -/
theorem exists_way_parent (hne : Path.parent path ≠ "") (cwd : String) : ∃ way k m,
    namesOf (Path.join cwd (Path.parent path)) = way ++ List.replicate k "" ∧
    namesOf (Path.join cwd path) = way ++ List.replicate m "" ++ [Path.name path] := by
  obtain ⟨front, hends, hfront⟩ := Path.exists_append_nameChars path.toList
  obtain ⟨folder, rfl⟩ : ∃ folder : String, front = folder.toList := ⟨String.ofList front, by simp⟩
  have hname : '/' ∉ (Path.name path).toList := by
    simpa [Path.name] using Path.not_mem_nameChars path.toList
  have hjoined : Path.join folder (Path.name path) = path := by
    refine String.toList_injective ?_
    rw [Path.join, String.toList_ofList, Path.joinChars_eq_append (Path.isAbsoluteChars_of_not_mem hname),
      Path.joinChars_nil_of_endsFolder hends, hfront]
    simp [Path.name]
  have hfolder : folder ≠ "" := by
    rintro rfl
    refine hne ?_
    rw [Path.parent, hfront, Path.parentChars_append hends (Path.not_mem_nameChars _)]
    rfl
  obtain ⟨way, k, m, hway, hjoin, hbare⟩ := exists_way hfolder cwd
  obtain ⟨hnames, hparent⟩ := hjoin _ hname
  rw [hjoined] at hnames hparent
  rcases hbare with hsame | ⟨-, -, hbare⟩
  · exact ⟨way, k, m, by rw [hparent, hsame, hway], hnames⟩
  · exact ⟨way, 0, m, by rw [hparent, hbare, List.replicate_zero, List.append_nil], hnames⟩

/-- Above what a path leads to there is a folder. -/
theorem find_parent (h : s.locate path = .ok place) (hne : Path.parent path ≠ "") :
    s.find (Path.parent path) = .ok .folder := by
  obtain ⟨haddress, hwalk⟩ := locate_eq_ok.1 h
  obtain ⟨way, k, m, hparent, hpath⟩ := exists_way_parent hne s.cwd
  rw [hpath, List.append_assoc, walk_append, Outcome.bind_eq_ok] at hwalk
  obtain ⟨above, habove, hrest⟩ := hwalk
  have hentry : s.entry? above = some .folder := by
    cases m with
    | zero => exact entry?_of_walk_cons hrest
    | succ m => exact entry?_of_walk_cons hrest
  have hbegins : (Path.parent path).toList <+: path.toList := by
    rw [Path.parent, String.toList_ofList]
    exact Path.parentChars_isPrefix
  refine find_eq_ok.2 ⟨above, locate_eq_ok.2 ⟨haddress.of_prefix hbegins hne, ?_⟩, hentry⟩
  rw [hparent, walk_append, habove, Outcome.ok_bind, walk_slashes hentry]

/-! ### The documents of a folder -/

/-- Whether a document is the content of a file that lies in a folder. -/
def HoldsDocument (s : Store) (folder : String) (v : Value) : Prop :=
  ∃ place name text, s.locate folder = .ok place ∧ s.entry? (place ++ [name]) = some (.file text) ∧
    Value.parse (String.ofList (unifyBreaks text.toList)) = .ok v

theorem readDocument_eq_ok {v : Value} : s.readDocument path = .ok v ↔
    ∃ place text, s.locate path = .ok place ∧ s.entry? place = some (.file text) ∧
      Value.parse (String.ofList (unifyBreaks text.toList)) = .ok v := by
  rw [readDocument, Outcome.bind_eq_ok, read]
  constructor
  · rintro ⟨shown, hshown, hparse⟩
    cases hraw : s.readRaw path with
    | error fault => rw [hraw] at hshown; cases hshown
    | ok text =>
      rw [hraw] at hshown
      cases hshown
      obtain ⟨place, hplace, hentry⟩ := readRaw_eq_ok.1 hraw
      exact ⟨place, text, hplace, hentry, hparse⟩
  · rintro ⟨place, text, hplace, hentry, hparse⟩
    exact ⟨_, by rw [readRaw_eq_ok.2 ⟨place, hplace, hentry⟩]; rfl, hparse⟩

/-- One name leads from a folder to what is in it, or stays among the folders. -/
theorem walk_singleton_cases (h : s.walk place [name] = .ok place') :
    place' = place ++ [name] ∨ place' = place ∨ place' = place.dropLast := by
  rw [walk] at h
  split at h
  · cases h
  split at h
  · cases h
    exact Or.inr (Or.inl rfl)
  split at h
  · cases h
    exact Or.inr (Or.inr rfl)
  split at h
  · cases h
  · cases h
    exact Or.inl rfl

theorem entry?_take_of_locate (h : s.locate path = .ok place) :
    ∀ n < place.length, s.entry? (place.take n) = some .folder := by
  have hroot : ∀ n < ([] : Location).length, s.entry? (([] : Location).take n) = some .folder := by
    simp
  exact entry?_take_of_walk hroot (locate_eq_ok.1 h).2

theorem entry?_dropLast_of_locate (h : s.locate path = .ok place) :
    place ≠ [] → s.entry? place.dropLast = some .folder := by
  intro hne
  rw [List.dropLast_eq_take]
  refine entry?_take_of_locate h _ ?_
  have := List.length_pos_iff.2 hne
  omega

/-- A file under the path of a folder and a name without slashes has this name in the folder. -/
theorem eq_concat_of_locate_join {folder text : String} (hlocate : s.locate folder = .ok place)
    (hentry : s.entry? place = some .folder) (hname : '/' ∉ name.toList)
    (hplace' : s.locate (Path.join folder name) = .ok place')
    (hentry' : s.entry? place' = some (.file text)) : place' = place ++ [name] := by
  have hwalk := (locate_eq_ok.1 hplace').2
  rw [walk_join hlocate hentry hname] at hwalk
  rcases walk_singleton_cases hwalk with rfl | rfl | rfl
  · rfl
  · rw [hentry] at hentry'
    cases hentry'
  · by_cases hroot : place = []
    · subst hroot
      cases hentry'
    · rw [entry?_dropLast_of_locate hlocate hroot] at hentry'
      cases hentry'

/-- A document that is read under the path of a folder and a name without slashes is one that the
folder holds. -/
theorem holdsDocument_of_readDocument {folder : String} {v : Value}
    (hlocate : s.locate folder = .ok place) (hentry : s.entry? place = some .folder)
    (hname : '/' ∉ name.toList) (h : s.readDocument (Path.join folder name) = .ok v) :
    s.HoldsDocument folder v := by
  obtain ⟨place', text, hplace', hentry', hparse⟩ := readDocument_eq_ok.1 h
  obtain rfl := eq_concat_of_locate_join hlocate hentry hname hplace' hentry'
  exact ⟨place, name, text, hlocate, hentry', hparse⟩

end Store

end KeywordCatalog
