import KeywordCatalog.Editor.Database
import KeywordCatalog.Proofs.Pattern.Reading
import KeywordCatalog.Proofs.Store.Renewal

/-!
# The files of a workspace

A scan of the workspace finds the files below its folder whose names end with a dot and the extension
(`Store.mem_findFiles_iff`). The scan of the open file asks for less: that its path starts with the
path of the workspace and ends with the extension. So the open file is scanned whenever a scan of the
workspace finds it, but also if it is in another folder whose name only starts with that of the
workspace, or if no dot stands before the extension (`Editor.fileToScan?_iff`).
-/

namespace KeywordCatalog

namespace Glob

open Pattern Text

variable {text rest : List Char}

/-- Whether a character stands for itself in a mask. -/
def isLiteral (c : Char) : Bool := c != '*' && c != '?' && c != '['

theorem mem_tails : rest ∈ tails text ↔ rest <:+ text := by
  induction text with
  | nil => simp [tails]
  | cons c text ih => rw [tails, List.mem_cons, ih, List.suffix_cons_iff]

/-- The piece of a character that stands for itself. -/
def letter (c : Char) : Piece := .one (.letter .exact false (codeOf c))

theorem read_literal {fuel : Nat} (h : ∀ c ∈ text, isLiteral c = true) (hfuel : text.length ≤ fuel) :
    read fuel text = text.map letter := by
  induction text generalizing fuel with
  | nil => cases fuel <;> rfl
  | cons c text ih =>
    obtain ⟨hc, h⟩ := List.forall_mem_cons.1 h
    have hc : (c ≠ '*' ∧ c ≠ '?') ∧ c ≠ '[' := by simpa [isLiteral] using hc
    cases fuel with
    | zero => cases hfuel
    | succ fuel => simp [read, hc, ih h (Nat.le_of_succ_le_succ hfuel), letter]

theorem accepts_letters (text rest : List Char) :
    accepts (text.map letter) rest = true ↔ rest = text := by
  induction text generalizing rest with
  | nil => simp [accepts]
  | cons c text ih =>
    cases rest with
    | nil => simp [accepts, letter]
    | cons d rest =>
      rw [List.map_cons, letter, accepts, Bool.and_eq_true, accepts_letter_exact, ih, List.cons.injEq,
        eq_comm (a := c)]

/-- A mask of a star and literal characters fits the names that end with them. -/
theorem fits_star {ending : List Char} (h : ∀ c ∈ ending, isLiteral c = true) (name : String) :
    fits (String.ofList ('*' :: ending)) name = true ↔ ending <:+ name.toList := by
  have hparse : parse ('*' :: ending) = .many :: ending.map letter := by
    rw [parse, List.length_cons, read, if_pos (by decide), read_literal h (Nat.le_refl _)]
  rw [fits_eq, String.toList_ofList, hparse, accepts, List.any_eq_true]
  simp only [accepts_letters, mem_tails]
  constructor
  · rintro ⟨_, hsuffix, rfl⟩
    exact hsuffix
  · intro hsuffix
    exact ⟨ending, hsuffix, rfl⟩

end Glob

namespace Store

variable {s : Store} {place : Location} {folder file extension : String} {names : List String}

/-! ### Below a folder -/

/-- Whether a path leads below a folder by plain names. -/
def IsBelow (folder file : String) : Prop :=
  ∃ names, names ≠ [] ∧ (∀ name ∈ names, Path.IsPlain name.toList) ∧ file = joinNames folder names

theorem toList_join_plain {name : String} (hname : Path.IsPlain name.toList) :
    (Path.join folder name).toList = Path.joinChars folder.toList [] ++ name.toList := by
  rw [Path.join, String.toList_ofList,
    Path.joinChars_eq_append (Path.isAbsoluteChars_of_not_mem hname.2.2.2)]

theorem prefix_joinChars_nil (p : List Char) : p <+: Path.joinChars p [] := by
  rw [Path.joinChars, if_neg (by decide)]
  split <;> exact List.prefix_append _ _

theorem prefix_joinNames (hplain : ∀ name ∈ names, Path.IsPlain name.toList) :
    folder.toList <+: (joinNames folder names).toList := by
  induction names generalizing folder with
  | nil => exact List.prefix_refl _
  | cons name names ih =>
    obtain ⟨hname, hplain⟩ := List.forall_mem_cons.1 hplain
    have hjoin : folder.toList <+: (Path.join folder name).toList := by
      rw [toList_join_plain hname]
      exact (prefix_joinChars_nil _).trans (List.prefix_append _ _)
    exact hjoin.trans (ih hplain)

/-- A path that leads below a folder starts with the path of the folder and a slash. -/
theorem IsBelow.begins (h : IsBelow folder file) :
    Path.joinChars folder.toList [] <+: file.toList := by
  obtain ⟨names, hnames, hplain, rfl⟩ := h
  obtain ⟨first, rest, rfl⟩ := List.exists_cons_of_ne_nil hnames
  obtain ⟨hfirst, hrest⟩ := List.forall_mem_cons.1 hplain
  have hstart : Path.joinChars folder.toList [] <+: (Path.join folder first).toList := by
    rw [toList_join_plain hfirst]
    exact List.prefix_append _ _
  exact hstart.trans (prefix_joinNames hrest)

/-- The last name on the way to a file is the name of the file. -/
theorem nameChars_joinNames {last : String} (hlast : Path.IsPlain last.toList)
    (h : names.getLast? = some last) :
    Path.nameChars (joinNames folder names).toList = last.toList := by
  obtain ⟨before, rfl⟩ := List.getLast?_eq_some_iff.1 h
  rw [joinNames, List.foldl_concat, Path.join, String.toList_ofList, Path.nameChars_joinChars,
    Path.nameChars_of_not_mem hlast.2.2.2]

theorem mem_filesUnder :
    names ∈ s.filesUnder place ↔ ∃ text, (place ++ names, Entry.file text) ∈ s.entries := by
  rw [filesUnder, List.mem_mergeSort, List.mem_filterMap]
  constructor
  · rintro ⟨⟨other, entry⟩, he, hkept⟩
    cases entry with
    | folder => cases hkept
    | file text =>
      obtain ⟨hplace, hnames⟩ := Option.ite_none_right_eq_some.1 hkept
      obtain ⟨below, rfl⟩ := List.isPrefixOf_iff_prefix.1 hplace
      obtain rfl : below = names := by simpa using hnames
      exact ⟨text, he⟩
  · rintro ⟨text, he⟩
    exact ⟨_, he, by simp⟩

/-- A file below a folder is listed from there by its names. -/
theorem mem_filesBelow (hne : folder ≠ "") (hnames : names ≠ [])
    (hplain : ∀ name ∈ names, Path.IsPlain name.toList)
    (h : s.hasFile (joinNames folder names) = true) : names ∈ s.filesBelow folder := by
  obtain ⟨place, text, hplace, hentry⟩ := hasFile_iff.1 h
  obtain ⟨first, rest, rfl⟩ := List.exists_cons_of_ne_nil hnames
  obtain ⟨hfirst, hrest⟩ := List.forall_mem_cons.1 hplain
  obtain ⟨below, hbelow, rfl⟩ := exists_locate_of_joinNames (join_ne_empty hfirst folder) hrest hplace
  obtain ⟨above, habove, hfolder, rfl⟩ := exists_locate_of_join hne hfirst hbelow
  have hfind : s.find folder = .ok .folder := find_eq_ok.2 ⟨above, habove, hfolder⟩
  rw [filesBelow, hfind, habove]
  refine mem_filesUnder.2 ⟨text, ?_⟩
  rcases mem_entries_of_entry? hentry with hroot | hmem
  · exact absurd hroot (by simp)
  · simpa using hmem

theorem maskOf_eq (h : ∀ c ∈ extension.toList, c.isAlphanum = true) :
    maskOf extension = String.ofList ('*' :: '.' :: extension.toList) := by
  have hstar : ¬"*.".toList.isPrefixOf extension.toList = true := by
    intro hmask
    obtain ⟨rest, hrest⟩ := List.isPrefixOf_iff_prefix.1 hmask
    exact absurd (h '*' (hrest ▸ by simp)) (by decide)
  rw [maskOf, if_neg hstar, ← String.toList_inj]
  simp

theorem isPlain_of_mem_filesBelow (hnamed : s.WellNamed) (h : names ∈ s.filesBelow folder) :
    ∀ name ∈ names, Path.IsPlain name.toList := by
  unfold filesBelow at h
  split at h
  · obtain ⟨text, he⟩ := mem_filesUnder.1 h
    exact fun name hname => hnamed _ he name (List.mem_append_right _ hname)
  · cases h

/-- An ending without a slash is the ending of a path if it is that of its last name. -/
theorem suffix_joinNames_iff {ending : List Char} (hslash : '/' ∉ ending) {last : String}
    (hlast : Path.IsPlain last.toList) (h : names.getLast? = some last) :
    ending <:+ (joinNames folder names).toList ↔ ending <:+ last.toList := by
  have hname : Path.nameChars (joinNames folder names).toList = last.toList :=
    nameChars_joinNames hlast h
  rw [← hname]
  constructor
  · exact Path.suffix_nameChars hslash
  · obtain ⟨front, -, hfront⟩ := Path.exists_append_nameChars (joinNames folder names).toList
    exact fun hending => hending.trans ⟨front, hfront.symm⟩

/-- **A scan of the workspace finds the files below its folder that end with a dot and the
extension.** -/
theorem mem_findFiles_iff (hnamed : s.WellNamed) (hfolder : Path.IsNormal folder.toList)
    (htext : Text.isPathText folder.toList = true) (hnull : '\x00' ∉ folder.toList)
    (hextension : ∀ c ∈ extension.toList, c.isAlphanum = true) (hfile : s.hasFile file = true) :
    ∃ found, s.findFiles folder extension = .ok found ∧
      (file ∈ found ↔ IsBelow folder file ∧ '.' :: extension.toList <:+ file.toList) := by
  have htop : Path.absolute s.cwd folder = folder := by
    rw [Path.absolute, Path.absoluteChars_of_isNormal hfolder, String.ofList_toList]
  have hne : folder ≠ "" := htop ▸ absolute_ne_empty _ _
  have hother {c d : Char} (hc : c ∈ '.' :: extension.toList) (hd : d ≠ '.')
      (hsign : d.isAlphanum = false) : c ≠ d := by
    rintro rfl
    rcases List.mem_cons.1 hc with rfl | hc
    · exact hd rfl
    · rw [hextension c hc] at hsign
      cases hsign
  have hliteral : ∀ c ∈ '.' :: extension.toList, Glob.isLiteral c = true := fun c hc => by
    simp [Glob.isLiteral, hother hc (d := '*') (by decide) (by decide),
      hother hc (d := '?') (by decide) (by decide), hother hc (d := '[') (by decide) (by decide)]
  have hslash : '/' ∉ '.' :: extension.toList :=
    fun hc => hother hc (by decide) (by decide) rfl
  have hfind : s.findFiles folder extension = .ok (((s.filesBelow folder).filter fun names =>
      names.getLast?.any (Glob.fits (maskOf extension))).map (joinNames folder)) := by
    rw [findFiles, htop, if_neg (by simp [htext]), if_neg (by simpa using hnull)]
  refine ⟨_, hfind, ?_⟩
  rw [maskOf_eq hextension, List.mem_map]
  simp only [List.mem_filter, Option.any_eq_true, Glob.fits_star hliteral]
  constructor
  · rintro ⟨names, ⟨hbelow, last, hlast, hfits⟩, rfl⟩
    have hplain := isPlain_of_mem_filesBelow hnamed hbelow
    have hlastPlain := hplain last (List.mem_of_getLast? hlast)
    refine ⟨⟨names, ?_, hplain, rfl⟩, (suffix_joinNames_iff hslash hlastPlain hlast).2 hfits⟩
    rintro rfl
    cases hlast
  · rintro ⟨⟨names, hnames, hplain, rfl⟩, hending⟩
    have hlast := List.getLast?_eq_some_getLast hnames
    have hlastPlain := hplain _ (List.getLast_mem hnames)
    exact ⟨names, ⟨mem_filesBelow hne hnames hplain hfile, _, hlast,
      (suffix_joinNames_iff hslash hlastPlain hlast).1 hending⟩, rfl⟩

end Store

/-- **The open file is scanned if a scan of the workspace finds it, and also if its path starts with
that of the workspace and ends with the extension although it is not below the workspace or no dot
stands before the extension.** -/
theorem Editor.fileToScan?_iff {s : Store} {e : Editor} {workspace extension file : String}
    (hnamed : s.WellNamed) (hworkspace : e.settings.get .workspace = .ok (.text workspace))
    (hnormal : Path.IsNormal workspace.toList) (htext : Text.isPathText workspace.toList = true)
    (hnull : '\x00' ∉ workspace.toList)
    (hsetting : e.settings.get .extension = .ok (.text extension))
    (hextension : ∀ c ∈ extension.toList, c.isAlphanum = true) (hopen : e.view.file = some file)
    (hfile : s.hasFile file = true) :
    ∃ found scanned, s.findFiles workspace extension = .ok found ∧ e.fileToScan? = .ok scanned ∧
      (file ∈ found ↔ Store.IsBelow workspace file ∧ '.' :: extension.toList <:+ file.toList) ∧
      (scanned = some file ↔ file ∈ found ∨
        workspace.toList <+: file.toList ∧ extension.toList <:+ file.toList ∧
          (¬Store.IsBelow workspace file ∨ ¬ '.' :: extension.toList <:+ file.toList)) := by
  obtain ⟨found, hfound, hmem⟩ :=
    Store.mem_findFiles_iff hnamed hnormal htext hnull hextension hfile
  refine ⟨found, if inWorkspace file workspace extension then some file else none, hfound, ?_, hmem,
    ?_⟩
  · rw [fileToScan?, hworkspace, hopen, hsetting]
    rfl
  · have hscanned : (if inWorkspace file workspace extension then some file else none) = some file ↔
        workspace.toList <+: file.toList ∧ extension.toList <:+ file.toList := by
      simp [inWorkspace, and_comm]
    have hfound : file ∈ found → workspace.toList <+: file.toList ∧
        extension.toList <:+ file.toList := fun h =>
      ⟨(Store.prefix_joinChars_nil _).trans (hmem.1 h).1.begins,
        (List.suffix_cons _ _).trans (hmem.1 h).2⟩
    rw [hscanned]
    constructor
    · rintro ⟨hbegins, hends⟩
      by_cases h : Store.IsBelow workspace file ∧ '.' :: extension.toList <:+ file.toList
      · exact Or.inl (hmem.2 h)
      · exact Or.inr ⟨hbegins, hends, not_and_or.1 h⟩
    · rintro (h | ⟨hbegins, hends, -⟩)
      · exact hfound h
      · exact ⟨hbegins, hends⟩

/-! ### A folder beside the workspace -/

/-- A workspace, and a folder whose name starts with that of the workspace. -/
def siblingStore : Store where
  cwd := "/"
  entries := [(["ws"], .folder), (["ws", "a.robot"], .file ""), (["ws2"], .folder),
    (["ws2", "b.robot"], .file "")]

/-- The editor with a file of these folders open. -/
def siblingEditor (file : String) : Editor where
  settings :=
    { package := ⟨"/assistant"⟩
      preferences := [(Preference.workspace.name, .text "/ws"),
        (Preference.extension.name, .text "robot")] }
  view := { file := some file }

theorem wellNamed_siblingStore : siblingStore.WellNamed := by
  simp [Store.WellNamed, siblingStore, Path.IsPlain, Path.above]

/-- Of the file in the workspace both scans take notice, of the file beside it only the scan of the
open file. -/
theorem fileToScan?_sibling :
    ∃ found, siblingStore.findFiles "/ws" "robot" = .ok found ∧
      "/ws/a.robot" ∈ found ∧ "/ws2/b.robot" ∉ found ∧
      (siblingEditor "/ws2/b.robot").fileToScan? = .ok (some "/ws2/b.robot") := by
  have hnormal : Path.IsNormal "/ws".toList :=
    ⟨1, ["ws".toList], Or.inl rfl, by simp [Path.IsPlain, Path.above], rfl⟩
  obtain ⟨found, scanned, hfound, hscanned, hmem, hiff⟩ :=
    Editor.fileToScan?_iff (e := siblingEditor "/ws2/b.robot") wellNamed_siblingStore rfl hnormal
      (by decide) (by decide) rfl (List.all_eq_true.1 (by decide)) rfl (by decide)
  obtain ⟨found', -, hfound', -, hmem', -⟩ :=
    Editor.fileToScan?_iff (e := siblingEditor "/ws/a.robot") wellNamed_siblingStore rfl hnormal
      (by decide) (by decide) rfl (List.all_eq_true.1 (by decide)) rfl (by decide)
  obtain rfl := Except.ok.inj (hfound.symm.trans hfound')
  have hbeside : ¬Store.IsBelow "/ws" "/ws2/b.robot" := fun h => absurd h.begins (by decide)
  refine ⟨found, hfound, hmem'.2 ⟨⟨["a.robot"], by simp, ?_, rfl⟩, by decide⟩,
    fun h => hbeside (hmem.1 h).1, ?_⟩
  · simp [Path.IsPlain, Path.above]
  · rw [hscanned, hiff.2 (Or.inr ⟨by decide, by decide, Or.inl hbeside⟩)]

end KeywordCatalog
