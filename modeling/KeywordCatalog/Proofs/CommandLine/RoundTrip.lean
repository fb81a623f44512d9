import KeywordCatalog.CommandLine.Arguments
import KeywordCatalog.Proofs.Outcome
import KeywordCatalog.Proofs.Queue

/-!
# Command lines that are written and read back

The command lines that the settings ask for consist of a mode and of options with their values. Such
a command line is read back by every grammar in which the options have names of their own, as long
as no value starts with a dash (`Grammar.WellNamed.read_texts`). An option that takes many values
takes all that follow it, and the next option ends them; so it does not matter where it stands and
how many values it has.

From this it follows that the programs which work on the database are asked for what is set
(`Settings.task_of_settings`).
-/

namespace KeywordCatalog

open Outcome

/-! ### Maps with a last pair -/

namespace Ordered

variable {α β : Type} [BEq α] [LawfulBEq α] {key : α} {pairs : List (α × β)}

theorem lookup_concat (h : key ∉ pairs.map Prod.fst) (value : β) :
    (pairs ++ [(key, value)]).lookup key = some value := by
  rw [← put_of_notMem h]
  exact lookup_put_self key value pairs

theorem put_concat (h : key ∉ pairs.map Prod.fst) (old value : β) :
    put key value (pairs ++ [(key, old)]) = pairs ++ [(key, value)] := by
  induction pairs with
  | nil => simp [put]
  | cons pair rest ih =>
    simp only [List.map_cons, List.mem_cons, not_or] at h
    simp [put, Ne.symm h.1, ih h.2]

end Ordered

namespace CommandLine

variable {g : Grammar} {modes others : List String} {text mode : String} {w : Word}

/-! ### Words -/

/-- Whether a text does not start like an option. -/
def IsValue (text : String) : Prop := text.toList.head? ≠ some '-'

instance (text : String) : Decidable (IsValue text) :=
  inferInstanceAs (Decidable (text.toList.head? ≠ some '-'))

/-- Whether the options of a grammar have names of their own: they start with a dash, and none is
the divider, a request for help or the name of another option. -/
structure Grammar.WellNamed (g : Grammar) : Prop where
  dashed : ∀ f ∈ g, f.name.toList.head? = some '-'
  own : ∀ f ∈ g, f.name ∉ ["-", dividerText, shortHelp, "--help"]
  apart : (g.map Flag.name).Nodup

/-- An option is recognised by its name. -/
theorem Grammar.WellNamed.word_eq (h : g.WellNamed) {f : Flag} (hf : f ∈ g) :
    g.word f.name = .ok (.option f.name (.flag f) none) := by
  have hown := h.own f hf
  simp only [List.mem_cons, List.not_mem_nil, or_false, not_or] at hown
  obtain ⟨hdash, -, hshort, hlong⟩ := hown
  obtain ⟨c, rest, hname⟩ : ∃ c rest, f.name.toList = '-' :: c :: rest := by
    have hhead := h.dashed f hf
    match hlist : f.name.toList with
    | [] => simp [hlist] at hhead
    | [a] =>
      obtain rfl : a = '-' := by simpa [hlist] using hhead
      exact absurd (String.ext hlist) hdash
    | a :: c :: rest =>
      obtain rfl : a = '-' := by simpa [hlist] using hhead
      exact ⟨c, rest, rfl⟩
  have hmeaning : g.meanings.lookup f.name = some (.flag f) := by
    have hmem : (f.name, Meaning.flag f) ∈ g.map fun f => (f.name, Meaning.flag f) :=
      List.mem_map_of_mem hf
    have hapart : ((g.map fun f => (f.name, Meaning.flag f)).map Prod.fst).Nodup := by
      rw [List.map_map]
      exact h.apart
    have hshort' : (f.name == shortHelp) = false := by simpa using hshort
    have hlong' : (f.name == "--help") = false := by simpa using hlong
    rw [meanings, List.lookup_cons, hshort', List.lookup_cons, hlong']
    exact Ordered.lookup_of_mem hapart hmem
  unfold word
  simp only [hname, hmeaning]

theorem ne_divider_of_isValue (h : IsValue text) : text ≠ dividerText := by
  rintro rfl
  exact h rfl

theorem Grammar.words_cons (hne : text ≠ dividerText) (hw : g.word text = .ok w) :
    g.words (text :: others) = (g.words others).map (w :: ·) := by
  rw [words, if_neg (by simpa using hne), hw]
  cases g.words others <;> rfl

theorem Grammar.words_append_values {values : List String} (h : ∀ text ∈ values, IsValue text) :
    g.words (values ++ others) = (g.words others).map (values.map .plain ++ ·) := by
  induction values with
  | nil => cases hwords : g.words others <;> simp [Except.map, hwords]
  | cons value rest ih =>
    have hvalue := h value List.mem_cons_self
    rw [List.cons_append, words_cons (ne_divider_of_isValue hvalue) (g.word_of_head_ne hvalue),
      ih fun text htext => h text (List.mem_cons_of_mem _ htext)]
    cases g.words others <;> rfl

/-! ### Options -/

/-- An option that is given on a command line, with its values. -/
structure Given where
  flag : Flag
  values : List String
deriving DecidableEq, Repr

namespace Given

/-- The option as it is written. -/
def texts (o : Given) : List String := o.flag.name :: o.values

/-- The words that the option is read as. -/
def words (o : Given) : List Word := .option o.flag.name (.flag o.flag) none :: o.values.map .plain

/-- What is kept of the option. -/
def entry (o : Given) : String × List String := (o.flag.name, o.values)

/-- Whether an option has as many values as it takes, and none that starts like an option. -/
structure Fits (o : Given) : Prop where
  isValue : ∀ text ∈ o.values, IsValue text
  arity : o.flag.arity = .one → ∃ value, o.values = [value]

end Given

variable {o : Given} {given : List Given}

theorem Grammar.WellNamed.words_texts (h : g.WellNamed)
    (hgiven : ∀ o ∈ given, o.flag ∈ g ∧ o.Fits) :
    g.words (given.flatMap Given.texts) = .ok (given.flatMap Given.words) := by
  induction given with
  | nil => rfl
  | cons o rest ih =>
    obtain ⟨⟨hflag, hfits⟩, hrest⟩ := List.forall_mem_cons.1 hgiven
    have hne : o.flag.name ≠ dividerText := by
      intro he
      exact h.own o.flag hflag (by simp [he])
    rw [List.flatMap_cons, List.flatMap_cons, Given.texts, List.cons_append,
      words_cons hne (h.word_eq hflag), words_append_values hfits.isValue, ih hrest]
    rfl

namespace Arguments

variable {a : Arguments} {name : String} {pairs : List (String × List String)}

/-- Whether an option may come next. -/
def IsOpen (a : Arguments) : Prop := ∀ name, a.pending ≠ .value name

theorem take_option (h : a.IsOpen) (name : String) (meaning : Meaning) :
    a.take modes (.option name meaning none) = a.takeOption name meaning none := by
  unfold take
  split <;> simp_all [IsOpen]

/-- An option that takes many values takes the plain words that come next. -/
theorem foldlM_take_values (hnew : name ∉ pairs.map Prod.fst) (before more : List String)
    (ha : a.values = pairs ++ [(name, before)]) (hpending : a.pending = .values name) :
    (more.map Word.plain).foldlM (take modes) a =
      .ok { a with values := pairs ++ [(name, before ++ more)] } := by
  induction more generalizing a before with
  | nil =>
    rw [List.append_nil, ← ha]
    rfl
  | cons value rest ih =>
    have htake : a.take modes (.plain value) =
        .ok { a with values := pairs ++ [(name, before ++ [value])] } := by
      simp only [take, hpending, append, put, ha, Ordered.lookup_concat hnew, Option.getD_some,
        Ordered.put_concat hnew]
    rw [List.map_cons, List.foldlM_cons, htake, ok_bind]
    refine (ih (a := { a with values := pairs ++ [(name, before ++ [value])] }) (before ++ [value])
      rfl hpending).trans ?_
    simp

/-- **What one option does:** it is kept with its values, and another option may come next. -/
theorem foldlM_take_option (ha : a.IsOpen) (ho : o.Fits)
    (hnew : o.flag.name ∉ a.values.map Prod.fst) :
    ∃ a' : Arguments, o.words.foldlM (take modes) a = .ok a' ∧ a'.IsOpen ∧ a'.mode = a.mode ∧
      a'.excess = a.excess ∧ a'.values = a.values ++ [o.entry] := by
  rw [Given.words, List.foldlM_cons, take_option ha]
  cases harity : o.flag.arity with
  | one =>
    obtain ⟨value, hvalue⟩ := ho.arity harity
    refine ⟨{ a.put o.flag.name [value] with pending := .none }, ?_, nofun, rfl, rfl, ?_⟩
    · rw [takeOption, harity, hvalue]
      rfl
    · rw [Given.entry, hvalue]
      exact Ordered.put_of_notMem hnew _
  | many =>
    -- the option is kept without values at first, and each plain word adds one
    refine ⟨{ a with values := a.values ++ [o.entry], pending := .values o.flag.name }, ?_, nofun,
      rfl, rfl, rfl⟩
    have hput : (a.put o.flag.name []).values = a.values ++ [(o.flag.name, [])] :=
      Ordered.put_of_notMem hnew _
    rw [takeOption, harity]
    exact foldlM_take_values hnew [] o.values hput rfl

/-- **What all options do:** they are kept in the order in which they come. -/
theorem foldlM_take_options (modes : List String) (ha : a.IsOpen) (hgiven : ∀ o ∈ given, o.Fits)
    (hnew : (a.values.map Prod.fst ++ given.map (·.flag.name)).Nodup) :
    ∃ a' : Arguments, (given.flatMap Given.words).foldlM (take modes) a = .ok a' ∧ a'.IsOpen ∧
      a'.mode = a.mode ∧ a'.excess = a.excess ∧ a'.values = a.values ++ given.map Given.entry := by
  induction given generalizing a with
  | nil => exact ⟨a, rfl, ha, rfl, rfl, by simp⟩
  | cons o rest ih =>
    obtain ⟨ho, hrest⟩ := List.forall_mem_cons.1 hgiven
    have hfirst : o.flag.name ∉ a.values.map Prod.fst := by
      intro hmem
      exact (List.nodup_append.1 hnew).2.2 _ hmem _ List.mem_cons_self rfl
    obtain ⟨a₁, hrun, hopen, hmode, hexcess, hvalues⟩ := foldlM_take_option ha ho hfirst
    have hnext : (a₁.values.map Prod.fst ++ rest.map (·.flag.name)).Nodup := by
      rw [hvalues]
      simpa [Given.entry] using hnew
    obtain ⟨a₂, hrun', hopen', hmode', hexcess', hvalues'⟩ := ih hopen hrest hnext
    refine ⟨a₂, ?_, hopen', hmode'.trans hmode, hexcess'.trans hexcess, ?_⟩
    · rw [List.flatMap_cons, List.foldlM_append, hrun]
      exact hrun'
    · rw [hvalues', hvalues, List.append_assoc]
      rfl

theorem completeMode_eq_ok (ha : a.IsOpen) (hmode : a.mode = some mode) (hexcess : a.excess = false)
    (hrequired : ∀ f ∈ g, f.required = true → f.name ∈ a.values.map Prod.fst) :
    a.completeMode g = .ok mode := by
  have hcomplete : a.lacks g = false := by
    rw [lacks, List.any_eq_false]
    intro f hf hlacks
    obtain ⟨hneeded, hmissing⟩ := Bool.and_eq_true_iff.1 hlacks
    obtain ⟨values, hvalues⟩ := Ordered.exists_lookup (hrequired f hf hneeded)
    simp [hvalues] at hmissing
  unfold completeMode
  split
  · rename_i name hpending
    exact absurd hpending (ha name)
  · rename_i hnone _
    rw [hmode] at hnone
    cases hnone
  · rename_i hsome _
    rw [hmode] at hsome
    cases hsome
    simp [hexcess, hcomplete]

end Arguments

/-- Whether some options are a full choice of the options of a grammar: each is given once, and none
that is required is left out. -/
structure Grammar.Takes (g : Grammar) (flags : List Flag) : Prop where
  known : ∀ f ∈ flags, f ∈ g
  once : (flags.map Flag.name).Nodup
  complete : ∀ f ∈ g, f.required = true → f ∈ flags

/-- **A command line is read back.** The mode and the values of all options are read as they were
written. -/
theorem Grammar.WellNamed.read_texts (h : g.WellNamed) (hmode : mode ∈ modes)
    (hvalue : IsValue mode) (hflags : g.Takes (given.map Given.flag))
    (hfits : ∀ o ∈ given, o.Fits) :
    ∃ a : Arguments, g.read modes (mode :: given.flatMap Given.texts) = .ok (mode, a) ∧
      ∀ o ∈ given, a.values.lookup o.flag.name = some o.values := by
  have hgiven : ∀ o ∈ given, o.flag ∈ g ∧ o.Fits := fun o ho =>
    ⟨hflags.known o.flag (List.mem_map_of_mem ho), hfits o ho⟩
  have hwords : g.words (mode :: given.flatMap Given.texts) =
      .ok (.plain mode :: given.flatMap Given.words) := by
    rw [words_cons (ne_divider_of_isValue hvalue) (g.word_of_head_ne hvalue), h.words_texts hgiven]
    rfl
  -- the mode is taken first, and then the options are taken from a state without values
  have hfirst : ({} : Arguments).take modes (.plain mode) =
      .ok { mode := some mode, pending := .divider } := by
    simp [Arguments.take, Arguments.takePlain, hmode]
  have honce : (given.map (·.flag.name)).Nodup := by
    have honce := hflags.once
    rwa [List.map_map] at honce
  obtain ⟨a, hrun, hopen, hmode', hexcess, hvalues⟩ := Arguments.foldlM_take_options modes
    (a := { mode := some mode, pending := .divider }) nofun hfits honce
  have hkept : a.values = given.map Given.entry := hvalues
  have hcomplete : a.completeMode g = .ok mode := by
    refine Arguments.completeMode_eq_ok hopen hmode' hexcess fun f hf hneeded => ?_
    obtain ⟨o, ho, rfl⟩ := List.mem_map.1 (hflags.complete f hf hneeded)
    rw [hkept, List.map_map]
    exact List.mem_map_of_mem ho
  refine ⟨a, ?_, fun o ho => ?_⟩
  · rw [read, hwords, ok_bind, List.foldlM_cons, hfirst, ok_bind, hrun, ok_bind, hcomplete]
    rfl
  · rw [hkept]
    refine Ordered.lookup_of_mem ?_ (List.mem_map_of_mem ho)
    rwa [List.map_map]

end CommandLine

/-! ### Settings -/

open CommandLine

namespace CommandLine

theorem scanGrammar_wellNamed : scanGrammar.WellNamed := ⟨by decide, by decide, by decide⟩

theorem indexGrammar_wellNamed : indexGrammar.WellNamed := ⟨by decide, by decide, by decide⟩

/-- An option with one value. -/
def Given.one (name value : String) (required : Bool) : Given := ⟨{ name, required }, [value]⟩

theorem Given.fits_one {name value : String} (h : IsValue value) (required : Bool) :
    (Given.one name value required).Fits :=
  ⟨by simpa [Given.one] using h, fun _ => ⟨value, rfl⟩⟩

theorem Arguments.first?_eq {a : Arguments} {name value : String}
    (h : a.values.lookup name = some [value]) : a.first? name = some value := by
  rw [first?, all, h]
  rfl

theorem Arguments.need_eq {a : Arguments} {name value : String}
    (h : a.values.lookup name = some [value]) (hne : value ≠ "") (otherwise : Refusal) :
    a.need name otherwise = .ok value := by
  rw [need, first?_eq h]
  simp [hne]

theorem Arguments.path_eq {a : Arguments} {name value : String}
    (h : a.values.lookup name = some [value]) : a.path name = .ok value := by
  rw [path, first?_eq h]

end CommandLine

theorem Mode.name_mem_names (mode : Mode) : mode.name ∈ Mode.names := by
  cases mode <;> decide

theorem Mode.isValue_name (mode : Mode) : IsValue mode.name := by
  cases mode <;> decide

theorem Mode.ofName_name (mode : Mode) : Mode.ofName mode.name = mode := by
  cases mode <;> decide

/-- What is set for the programs that work on the database. -/
structure Configuration where
  interpreter : Value
  tables : String
  indexes : String
  extension : String
  workspace : String
  markup : String
  modules : List String

namespace Configuration

/-- Whether no text that is set starts like an option. -/
structure IsPlain (c : Configuration) : Prop where
  tables : IsValue c.tables
  indexes : IsValue c.indexes
  extension : IsValue c.extension
  workspace : IsValue c.workspace
  markup : IsValue c.markup
  modules : ∀ path ∈ c.modules, IsValue path

variable {c : Configuration}

/-- The options that the two programs have in common at their end. -/
def sharedOptions (c : Configuration) : List Given :=
  [.one markupFlag c.markup false, ⟨{ name := modulesFlag, arity := .many }, c.modules⟩]

/-- The options for the program that scans. -/
def scanOptions (c : Configuration) : List Given :=
  .one databaseFlag c.tables true :: .one extensionFlag c.extension false :: c.sharedOptions

/-- The options for the program that indexes. -/
def indexOptions (c : Configuration) : List Given :=
  .one databaseFlag c.tables true :: .one indexesFlag c.indexes true :: c.sharedOptions

theorem IsPlain.sharedOptions_fit (h : c.IsPlain) : ∀ o ∈ c.sharedOptions, o.Fits := by
  simp only [sharedOptions, List.forall_mem_cons]
  exact ⟨Given.fits_one h.markup _, ⟨h.modules, nofun⟩, nofun⟩

theorem IsPlain.scanOptions_fit (h : c.IsPlain) : ∀ o ∈ c.scanOptions, o.Fits := by
  simp only [scanOptions, List.forall_mem_cons]
  exact ⟨Given.fits_one h.tables _, Given.fits_one h.extension _, h.sharedOptions_fit⟩

theorem IsPlain.indexOptions_fit (h : c.IsPlain) : ∀ o ∈ c.indexOptions, o.Fits := by
  simp only [indexOptions, List.forall_mem_cons]
  exact ⟨Given.fits_one h.tables _, Given.fits_one h.indexes _, h.sharedOptions_fit⟩

end Configuration

namespace Settings

variable {s : Settings} {c : Configuration} {mode : Mode}

/-- Whether the settings are those of a configuration. -/
structure Sets (s : Settings) (c : Configuration) : Prop where
  interpreter : s.get .interpreter = .ok c.interpreter
  tables : s.tables = .ok c.tables
  indexes : s.indexes = .ok c.indexes
  extension : s.get .extension = .ok (.text c.extension)
  workspace : s.get .workspace = .ok (.text c.workspace)
  markup : s.get .markupLibraries = .ok (.text c.markup)
  modules : s.get .moduleSearchPath = .ok (.texts c.modules)

theorem Sets.sharedWords_eq (h : s.Sets c) :
    s.sharedWords = .ok ((c.sharedOptions.flatMap Given.texts).map .text) := by
  rw [sharedWords, h.markup, ok_bind, h.modules, ok_bind]
  simp [Value.texts, Value.elements, Configuration.sharedOptions, Given.one, Given.texts, option,
    pure, Except.pure]

theorem Sets.scanWords_eq (h : s.Sets c) : s.scanWords mode =
    .ok ((mode.name :: c.scanOptions.flatMap Given.texts).map .text) := by
  rw [scanWords, h.tables, ok_bind, h.extension, ok_bind, h.sharedWords_eq]
  rfl

theorem Sets.indexWords_eq (h : s.Sets c) : s.indexWords mode =
    .ok ((mode.name :: c.indexOptions.flatMap Given.texts).map .text) := by
  rw [indexWords, h.tables, ok_bind, h.indexes, ok_bind, h.sharedWords_eq]
  rfl

end Settings

namespace Configuration

variable {c : Configuration} {value : String}

/-- What is written for the program that scans is read back. -/
theorem IsPlain.read_scanOptions (h : c.IsPlain) (mode : Mode) (flag : String)
    (hflag : flag ∈ [workspaceFlag, fileFlag]) (hvalue : IsValue value) :
    ∃ a : Arguments, scanGrammar.read Mode.names
        (mode.name :: (c.scanOptions ++ [Given.one flag value false]).flatMap Given.texts) =
          .ok (mode.name, a) ∧
      ∀ o ∈ c.scanOptions ++ [Given.one flag value false],
        a.values.lookup o.flag.name = some o.values := by
  have htakes : ∀ flag ∈ [workspaceFlag, fileFlag],
      scanGrammar.Takes [{ name := databaseFlag, required := true }, { name := extensionFlag },
        { name := markupFlag }, { name := modulesFlag, arity := .many }, { name := flag }] := by
    simp only [List.forall_mem_cons]
    exact ⟨⟨by decide, by decide, by decide⟩, ⟨by decide, by decide, by decide⟩, nofun⟩
  refine scanGrammar_wellNamed.read_texts mode.name_mem_names mode.isValue_name
    (htakes flag hflag) ?_
  exact List.forall_mem_append.2 ⟨h.scanOptions_fit, by simpa using Given.fits_one hvalue _⟩

/-- What is written for the program that indexes is read back. -/
theorem IsPlain.read_indexOptions (h : c.IsPlain) (mode : Mode) :
    (∃ a : Arguments, indexGrammar.read Mode.names
        (mode.name :: c.indexOptions.flatMap Given.texts) = .ok (mode.name, a) ∧
      ∀ o ∈ c.indexOptions, a.values.lookup o.flag.name = some o.values) ∧
    ∀ table, IsValue table → ∃ a : Arguments, indexGrammar.read Mode.names
        (mode.name :: (c.indexOptions ++ [Given.one tableFlag table false]).flatMap Given.texts) =
          .ok (mode.name, a) ∧
      ∀ o ∈ c.indexOptions ++ [Given.one tableFlag table false],
        a.values.lookup o.flag.name = some o.values := by
  have htakes : indexGrammar.Takes [{ name := databaseFlag, required := true },
      { name := indexesFlag, required := true }, { name := markupFlag },
      { name := modulesFlag, arity := .many }] := ⟨by decide, by decide, by decide⟩
  have htakes' : indexGrammar.Takes [{ name := databaseFlag, required := true },
      { name := indexesFlag, required := true }, { name := markupFlag },
      { name := modulesFlag, arity := .many }, { name := tableFlag }] :=
    ⟨by decide, by decide, by decide⟩
  constructor
  · exact indexGrammar_wellNamed.read_texts mode.name_mem_names mode.isValue_name htakes
      h.indexOptions_fit
  · intro table htable
    refine indexGrammar_wellNamed.read_texts mode.name_mem_names mode.isValue_name htakes' ?_
    exact List.forall_mem_append.2 ⟨h.indexOptions_fit, by simpa using Given.fits_one htable _⟩

end Configuration

namespace Task

variable {c : Configuration}

theorem scan_all (h : c.IsPlain) (hextension : c.extension ≠ "") (hworkspace : c.workspace ≠ "") :
    scan (Mode.all.name :: (c.scanOptions ++ [Given.one workspaceFlag c.workspace false]).flatMap
        Given.texts) =
      .ok (.scanAll c.workspace c.extension c.tables c.modules (some c.markup)) := by
  obtain ⟨a, hread, hvalues⟩ :=
    h.read_scanOptions .all workspaceFlag (by decide) h.workspace
  simp only [Configuration.scanOptions, Configuration.sharedOptions, Given.one, List.cons_append,
    List.nil_append, List.forall_mem_cons] at hvalues
  obtain ⟨htables, hextensions, hmarkup, hmodules, hworkspaces, -⟩ := hvalues
  rw [scan, hread, ok_bind]
  simp only [Mode.ofName_name]
  rw [Arguments.need_eq hworkspaces hworkspace, ok_bind,
    Arguments.need_eq hextensions hextension, ok_bind, Arguments.first?_eq htables,
    Arguments.first?_eq hmarkup, Arguments.all, hmodules]
  rfl

theorem scan_single (h : c.IsPlain) {file : String} (hfile : IsValue file) (hne : file ≠ "") :
    scan (Mode.single.name ::
        (c.scanOptions ++ [Given.one fileFlag file false]).flatMap Given.texts) =
      .ok (.scanFile file c.tables (some c.markup)) := by
  obtain ⟨a, hread, hvalues⟩ := h.read_scanOptions .single fileFlag (by decide) hfile
  simp only [Configuration.scanOptions, Configuration.sharedOptions, Given.one, List.cons_append,
    List.nil_append, List.forall_mem_cons] at hvalues
  obtain ⟨htables, -, hmarkup, -, hfiles, -⟩ := hvalues
  rw [scan, hread, ok_bind]
  simp only [Mode.ofName_name]
  rw [Arguments.need_eq hfiles hne, ok_bind, Arguments.path_eq htables, ok_bind,
    Arguments.first?_eq hmarkup]
  rfl

theorem index_all (h : c.IsPlain) :
    index (Mode.all.name :: c.indexOptions.flatMap Given.texts) =
      .ok (.indexAll c.tables c.indexes c.modules (some c.markup)) := by
  obtain ⟨a, hread, hvalues⟩ := (h.read_indexOptions .all).1
  simp only [Configuration.indexOptions, Configuration.sharedOptions, Given.one,
    List.forall_mem_cons] at hvalues
  obtain ⟨htables, hindexes, hmarkup, hmodules, -⟩ := hvalues
  rw [index, hread, ok_bind]
  simp only [Mode.ofName_name]
  rw [Arguments.path_eq htables, ok_bind, Arguments.first?_eq hindexes, Arguments.first?_eq hmarkup,
    Arguments.all, hmodules]
  rfl

theorem index_single (h : c.IsPlain) {table : String} (htable : IsValue table) :
    index (Mode.single.name ::
        (c.indexOptions ++ [Given.one tableFlag table false]).flatMap Given.texts) =
      .ok (.indexOne c.tables (some table) c.indexes c.modules (some c.markup)) := by
  obtain ⟨a, hread, hvalues⟩ := (h.read_indexOptions .single).2 table htable
  simp only [Configuration.indexOptions, Configuration.sharedOptions, Given.one, List.cons_append,
    List.nil_append, List.forall_mem_cons] at hvalues
  obtain ⟨htables, hindexes, hmarkup, hmodules, hnamed, -⟩ := hvalues
  have hbare : a.isBare tableFlag = false := by
    rw [Arguments.isBare, hnamed]
    rfl
  rw [index, hread, ok_bind]
  simp only [Mode.ofName_name]
  rw [Arguments.path_eq hindexes, ok_bind, Arguments.first?_eq htables, hbare,
    Arguments.first?_eq hnamed, Arguments.first?_eq hmarkup, Arguments.all, hmodules]
  rfl

end Task

namespace Settings

variable {s : Settings} {c : Configuration}

theorem Sets.launch_eq (h : s.Sets c) (program : String) (words : List Value) :
    s.launch program words = .ok (c.interpreter :: .text program :: words) := by
  rw [launch, h.interpreter]
  rfl

/-- **The programs are asked for what is set.** Each command line that the settings ask for is made,
and the program that it runs reads from it the task with the folders, the extension, the module
search path and the file or table that were set. -/
theorem task_of_settings (s : Settings) (c : Configuration) (hsets : s.Sets c) (hplain : c.IsPlain)
    (hextension : c.extension ≠ "") (hworkspace : c.workspace ≠ "") :
    (∃ texts, s.scanAll =
        .ok (c.interpreter :: .text s.package.scanProgram :: texts.map Value.text) ∧
      Task.scan texts =
        .ok (.scanAll c.workspace c.extension c.tables c.modules (some c.markup))) ∧
    (∀ file, IsValue file → file ≠ "" → ∃ texts, s.scanFile file =
        .ok (c.interpreter :: .text s.package.scanProgram :: texts.map Value.text) ∧
      Task.scan texts = .ok (.scanFile file c.tables (some c.markup))) ∧
    (∃ texts, s.indexAll =
        .ok (c.interpreter :: .text s.package.indexProgram :: texts.map Value.text) ∧
      Task.index texts = .ok (.indexAll c.tables c.indexes c.modules (some c.markup))) ∧
    ∀ table, IsValue table → ∃ texts, s.indexOne table =
        .ok (c.interpreter :: .text s.package.indexProgram :: texts.map Value.text) ∧
      Task.index texts =
        .ok (.indexOne c.tables (some table) c.indexes c.modules (some c.markup)) := by
  refine ⟨⟨_, ?_, Task.scan_all hplain hextension hworkspace⟩, fun file hfile hne =>
    ⟨_, ?_, Task.scan_single hplain hfile hne⟩, ⟨_, ?_, Task.index_all hplain⟩, fun table htable =>
    ⟨_, ?_, Task.index_single hplain htable⟩⟩
  · rw [scanAll, hsets.scanWords_eq, ok_bind, hsets.workspace, ok_bind, hsets.launch_eq]
    simp [option, Given.one, Given.texts]
  · rw [scanFile, hsets.scanWords_eq, ok_bind, hsets.launch_eq]
    simp [option, Given.one, Given.texts]
  · rw [indexAll, hsets.indexWords_eq, ok_bind, hsets.launch_eq]
  · rw [indexOne, hsets.indexWords_eq, ok_bind, hsets.launch_eq]
    simp [option, Given.one, Given.texts]

/-- Settings with a database of the project, no libraries in markup, and a folder of modules that is
called like a mode. -/
def sharedSettings : Settings where
  package := ⟨"/packages/assistant"⟩
  project := .object [(projectKey, .object [(Preference.database.name, .text "/db")])]
  preferences := [(Preference.interpreter.name, .text "python"),
    (Preference.extension.name, .text "robot"), (Preference.workspace.name, .text "/ws"),
    (Preference.markupLibraries.name, .text ""),
    (Preference.moduleSearchPath.name, .texts ["single", "/lib"])]

/-- What `sharedSettings` are set to. -/
def sharedConfiguration : Configuration where
  interpreter := .text "python"
  tables := "/db/scanner"
  indexes := "/db/index"
  extension := "robot"
  workspace := "/ws"
  markup := ""
  modules := ["single", "/lib"]

/-- The folder that is called like a mode is read as a folder, and the table after it as the
table. -/
theorem task_of_settings_shared :
    sharedSettings.Sets sharedConfiguration ∧ sharedConfiguration.IsPlain ∧
    sharedConfiguration.extension ≠ "" ∧ sharedConfiguration.workspace ≠ "" ∧
    (∃ texts, sharedSettings.scanAll = .ok (.text "python" ::
        .text "/packages/assistant/dataparser/run_scanner.py" :: texts.map Value.text) ∧
      Task.scan texts =
        .ok (.scanAll "/ws" "robot" "/db/scanner" ["single", "/lib"] (some ""))) ∧
    ∃ texts, sharedSettings.indexOne "all" = .ok (.text "python" ::
        .text "/packages/assistant/dataparser/run_index.py" :: texts.map Value.text) ∧
      Task.index texts =
        .ok (.indexOne "/db/scanner" (some "all") "/db/index" ["single", "/lib"] (some "")) := by
  have hsets : sharedSettings.Sets sharedConfiguration := ⟨rfl, rfl, rfl, rfl, rfl, rfl, rfl⟩
  have hplain : sharedConfiguration.IsPlain :=
    ⟨by decide, by decide, by decide, by decide, by decide, by decide⟩
  obtain ⟨hall, -, -, hone⟩ := task_of_settings sharedSettings sharedConfiguration hsets hplain
    (by decide) (by decide)
  exact ⟨hsets, hplain, by decide, by decide, hall, hone "all" (by decide)⟩

end Settings

end KeywordCatalog
