import KeywordCatalog.Catalog
import KeywordCatalog.Proofs.Document.RoundTrip
import KeywordCatalog.Proofs.Path

/-!
# Stored documents

What a store still holds after a file was written or a folder was made. A path leads to the same
place as long as the folders on its way are there (`locate_of_keepsFolders`), and paths with
different last names lead to different places. So a document that was written is there to be read,
and writing another one under another name does not change it.
-/

namespace KeywordCatalog.Store

variable {s s' : Store} {place other : Location} {entry : Entry} {names : List String}
  {path text name : String} {v : Value} {fault : Fault}

/-! ### Places -/

theorem entry?_put_self (hplace : place ≠ []) :
    Store.entry? (s.put place entry) place = some entry := by
  obtain ⟨first, rest, rfl⟩ := List.exists_cons_of_ne_nil hplace
  exact Ordered.lookup_put_self _ _ _

theorem entry?_put_of_ne (h : other ≠ place) :
    Store.entry? (s.put place entry) other = s.entry? other := by
  cases other with
  | nil => rfl
  | cons first rest => exact Ordered.lookup_put_of_ne h _ _

/-- A store in which every folder of another one is still a folder. -/
structure KeepsFolders (s s' : Store) : Prop where
  cwd : s'.cwd = s.cwd
  folder : ∀ place, s.entry? place = some .folder → s'.entry? place = some .folder

/-- A store in which everything of another one is still there. -/
structure Keeps (s s' : Store) : Prop where
  cwd : s'.cwd = s.cwd
  entry : ∀ place entry, s.entry? place = some entry → s'.entry? place = some entry

theorem Keeps.keepsFolders (h : Keeps s s') : KeepsFolders s s' :=
  ⟨h.cwd, fun place => h.entry place .folder⟩

theorem Keeps.refl (s : Store) : Keeps s s := ⟨rfl, fun _ _ h => h⟩

theorem Keeps.trans {s'' : Store} (h : Keeps s s') (h' : Keeps s' s'') : Keeps s s'' :=
  ⟨h'.cwd.trans h.cwd, fun place entry he => h'.entry place entry (h.entry place entry he)⟩

theorem needFolder_eq_ok : s.needFolder place = .ok () ↔ s.entry? place = some .folder := by
  unfold needFolder
  split <;> simp_all

theorem walk_of_keepsFolders (hkeeps : KeepsFolders s s') (h : s.walk place names = .ok other) :
    s'.walk place names = .ok other := by
  induction names generalizing place with
  | nil => exact h
  | cons name rest ih =>
    rw [walk] at h ⊢
    cases hfolder : s.needFolder place with
    | error fault => simp [hfolder] at h
    | ok _ =>
      have hfolder' : s'.needFolder place = .ok () :=
        needFolder_eq_ok.2 (hkeeps.folder place (needFolder_eq_ok.1 hfolder))
      rw [hfolder] at h
      rw [hfolder']
      revert h
      dsimp only
      split
      · exact ih
      split
      · exact ih
      split
      · exact id
      · exact ih

/-- A path leads to the same place as long as the folders on its way are there. -/
theorem locate_of_keepsFolders (hkeeps : KeepsFolders s s') (h : s.locate path = .ok place) :
    s'.locate path = .ok place := by
  revert h
  unfold locate
  rw [hkeeps.cwd]
  split
  · exact id
  split
  · exact id
  split
  · exact id
  split
  · exact id
  split <;> exact walk_of_keepsFolders hkeeps

theorem find_of_keeps (hkeeps : Keeps s s') (h : s.find path = .ok entry) :
    s'.find path = .ok entry := by
  unfold find at h ⊢
  cases hplace : s.locate path with
  | error fault => simp [hplace] at h
  | ok place =>
    rw [locate_of_keepsFolders hkeeps.keepsFolders hplace]
    rw [hplace] at h
    dsimp only at h ⊢
    cases hentry : s.entry? place with
    | none => simp [hentry] at h
    | some found =>
      rw [hentry] at h
      rw [hkeeps.entry place found hentry]
      exact h

theorem has_of_keeps (hkeeps : Keeps s s') (h : s.has path = true) : s'.has path = true := by
  unfold has at h ⊢
  cases hfind : s.find path with
  | error fault => simp [hfind, Except.toOption] at h
  | ok entry => simp [find_of_keeps hkeeps hfind, Except.toOption]

/-! ### Last names -/

theorem walk_singleton_of_isPlain (hname : Path.IsPlain name.toList)
    (h : s.walk place [name] = .ok other) : other = place ++ [name] := by
  have hempty : name ≠ "" := fun e => hname.1 (by simp [e])
  have hdot : name ≠ "." := fun e => hname.2.1 (by rw [e]; rfl)
  have hdots : name ≠ ".." := fun e => hname.2.2.1 (by rw [e]; rfl)
  rw [walk] at h
  split at h
  · cases h
  · simp only [String.isEmpty_iff, hempty, beq_iff_eq, hdot, hdots, Bool.or_eq_true, or_self,
      if_false] at h
    split at h
    · cases h
    · exact (Except.ok.inj h).symm

theorem walk_concat (hname : Path.IsPlain name.toList)
    (h : s.walk place (names ++ [name]) = .ok other) : ∃ folder, other = folder ++ [name] := by
  induction names generalizing place with
  | nil => exact ⟨place, walk_singleton_of_isPlain hname h⟩
  | cons first rest ih =>
    simp only [List.cons_append, walk] at h
    split at h
    · cases h
    split at h
    · exact ih h
    split at h
    · exact ih h
    split at h
    · cases h
    · exact ih h

theorem exists_namesOf_concat (path : String) :
    ∃ others, namesOf path = others ++ [Path.name path] := by
  obtain ⟨others, hparts⟩ := Path.exists_parts_concat path.toList
  exact ⟨others.map String.ofList, by simp [namesOf, hparts, Path.name]⟩

theorem name_join (folder path : String) : Path.name (Path.join folder path) = Path.name path := by
  simp only [Path.name, Path.join, String.toList_ofList, Path.nameChars_joinChars]

theorem name_join_of_isPlain (hname : Path.IsPlain name.toList) (folder : String) :
    Path.name (Path.join folder name) = name := by
  rw [name_join, Path.name, Path.nameChars_of_not_mem hname.2.2.2, String.ofList_toList]

theorem isPlain_name_join (hname : Path.IsPlain name.toList) (folder : String) :
    Path.IsPlain (Path.name (Path.join folder name)).toList := by
  rwa [name_join_of_isPlain hname]

/-- A path leads to a place with its own last name. -/
theorem locate_concat (hname : Path.IsPlain (Path.name path).toList)
    (h : s.locate path = .ok place) : ∃ folder, place = folder ++ [Path.name path] := by
  unfold locate at h
  split at h
  · cases h
  split at h
  · cases h
  split at h
  · cases h
  split at h
  · cases h
  split at h
  · obtain ⟨others, hnames⟩ := exists_namesOf_concat path
    rw [hnames] at h
    exact walk_concat hname h
  · obtain ⟨others, hnames⟩ := exists_namesOf_concat (Path.join s.cwd path)
    rw [hnames, name_join] at h
    exact walk_concat hname h

/-! ### Files -/

theorem nameChars_of_getLast? {p : List Char} (h : p.getLast? = some '/') :
    Path.nameChars p = [] := by
  simpa using Path.nameChars_append (Or.inr h) (List.not_mem_nil (a := '/'))

theorem locateFile_of_isPlain (hname : Path.IsPlain (Path.name path).toList) :
    s.locateFile path = s.locate path := by
  refine if_neg fun hlast => hname.1 ?_
  rw [Path.name, String.toList_ofList]
  exact nameChars_of_getLast? (beq_iff_eq.1 hlast)

/-- Writing a file changes nothing but the place that its path leads to, which is no folder. -/
theorem write_eq_ok (hname : Path.IsPlain (Path.name path).toList) :
    s.write path text = .ok s' ↔ ∃ place, s.locate path = .ok place ∧
      s.entry? place ≠ some .folder ∧ s' = s.put place (.file text) := by
  rw [write, locateFile_of_isPlain hname]
  cases s.locate path with
  | error fault => simp
  | ok place =>
    dsimp only
    split
    · rename_i hfolder
      simp [hfolder]
    · rename_i hfolder
      constructor
      · rintro ⟨⟩
        exact ⟨place, rfl, hfolder, rfl⟩
      · rintro ⟨_, ⟨⟩, -, rfl⟩
        rfl

theorem keepsFolders_put (h : s.entry? place ≠ some .folder) : KeepsFolders s (s.put place entry) := by
  refine ⟨rfl, fun other hother => ?_⟩
  have hne : other ≠ place := fun e => h (e ▸ hother)
  rw [entry?_put_of_ne hne, hother]

theorem readRaw_eq_ok : s.readRaw path = .ok text ↔
    ∃ place, s.locate path = .ok place ∧ s.entry? place = some (.file text) := by
  unfold readRaw find
  cases s.locate path with
  | error fault => simp
  | ok place =>
    cases hentry : s.entry? place with
    | none => simp [hentry]
    | some entry => cases entry <;> simp [hentry]

theorem readRaw_write (hname : Path.IsPlain (Path.name path).toList)
    (h : s.write path text = .ok s') : s'.readRaw path = .ok text := by
  obtain ⟨place, hplace, hfolder, rfl⟩ := (write_eq_ok hname).1 h
  obtain ⟨folder, hlast⟩ := locate_concat hname hplace
  have hkeeps : KeepsFolders s (s.put place (.file text)) := keepsFolders_put hfolder
  exact readRaw_eq_ok.2 ⟨place, locate_of_keepsFolders hkeeps hplace,
    entry?_put_self (by simp [hlast])⟩

/-- Writing a file leaves the files with other names as they are. -/
theorem readRaw_write_of_name_ne {path' text' : String}
    (hname : Path.IsPlain (Path.name path).toList) (hname' : Path.IsPlain (Path.name path').toList)
    (hne : Path.name path' ≠ Path.name path) (h : s.write path text = .ok s')
    (hread : s.readRaw path' = .ok text') : s'.readRaw path' = .ok text' := by
  obtain ⟨place, hplace, hfolder, rfl⟩ := (write_eq_ok hname).1 h
  obtain ⟨place', hplace', hentry⟩ := readRaw_eq_ok.1 hread
  obtain ⟨folder, rfl⟩ := locate_concat hname hplace
  obtain ⟨folder', rfl⟩ := locate_concat hname' hplace'
  have hplaces : folder' ++ [Path.name path'] ≠ folder ++ [Path.name path] :=
    fun e => hne (by simpa using (List.append_inj' e rfl).2)
  refine readRaw_eq_ok.2 ⟨_, locate_of_keepsFolders (keepsFolders_put hfolder) hplace', ?_⟩
  rw [entry?_put_of_ne hplaces, hentry]

theorem unifyBreaks_of_notMem {text : List Char} (h : '\r' ∉ text) : unifyBreaks text = text := by
  induction text with
  | nil => rfl
  | cons c rest ih =>
    obtain ⟨hc, hrest⟩ : '\r' ≠ c ∧ '\r' ∉ rest := by simpa using h
    rw [unifyBreaks]
    · simp [Ne.symm hc, ih hrest]
    · rintro tail rfl
      exact absurd rfl hc

theorem unifyBreaks_render (hv : v.Faithful) :
    String.ofList (unifyBreaks v.render.toList) = v.render := by
  rw [Value.render, String.toList_ofList, unifyBreaks_of_notMem (Document.return_notMem_write hv)]

theorem readDocument_of_readRaw (hv : v.Faithful) (hlevels : v.levels ≤ Document.levelLimit)
    (h : s.readRaw path = .ok v.render) : s.readDocument path = .ok v := by
  have hread : s.read path = .ok v.render := by
    rw [read, h, Except.map, unifyBreaks_render hv]
  rw [readDocument, hread]
  exact Value.parse_render hv hlevels

theorem writeDocument_eq_ok : s.writeDocument path v = .ok s' ↔
    s.write path v.render = .ok s' ∧ v.levels ≤ Document.levelLimit := by
  rw [writeDocument, Outcome.bind_eq_ok]
  constructor
  · rintro ⟨written, hwrite, h⟩
    split at h
    · cases h
    · rename_i hlevels
      cases h
      exact ⟨hwrite, Nat.not_lt.1 hlevels⟩
  · rintro ⟨hwrite, hlevels⟩
    exact ⟨s', hwrite, by rw [if_neg (Nat.not_lt.2 hlevels)]; rfl⟩

theorem cwd_writeDocument (hname : Path.IsPlain (Path.name path).toList)
    (h : s.writeDocument path v = .ok s') : s'.cwd = s.cwd := by
  obtain ⟨place, -, -, rfl⟩ := (write_eq_ok hname).1 (writeDocument_eq_ok.1 h).1
  rfl

/-- **A faithful document is there to be read after it was written.** -/
theorem readDocument_writeDocument (hv : v.Faithful) (hname : Path.IsPlain (Path.name path).toList)
    (h : s.writeDocument path v = .ok s') : s'.readDocument path = .ok v := by
  obtain ⟨hwrite, hlevels⟩ := writeDocument_eq_ok.1 h
  exact readDocument_of_readRaw hv hlevels (readRaw_write hname hwrite)

theorem readDocument_of_readRaw_eq {path' : String}
    (hread : ∀ text, s.readRaw path' = .ok text → s'.readRaw path' = .ok text)
    (h : s.readDocument path' = .ok v) : s'.readDocument path' = .ok v := by
  unfold readDocument read at h ⊢
  cases hraw : s.readRaw path' with
  | error fault => simp [hraw, Except.map] at h
  | ok text =>
    rw [hread text hraw]
    rwa [hraw] at h

/-- Writing a document leaves the documents with other names as they are. -/
theorem readDocument_writeDocument_of_name_ne {path' : String} {v' : Value}
    (hname : Path.IsPlain (Path.name path).toList) (hname' : Path.IsPlain (Path.name path').toList)
    (hne : Path.name path' ≠ Path.name path) (h : s.writeDocument path v = .ok s')
    (hread : s.readDocument path' = .ok v') : s'.readDocument path' = .ok v' :=
  readDocument_of_readRaw_eq (fun _ => readRaw_write_of_name_ne hname hname' hne
    (writeDocument_eq_ok.1 h).1) hread

/-- Whether a path can lead anywhere is told from its text alone. -/
theorem locate_eq_error_of_isData (h : s.locate path = .error fault) (hdata : fault.isData = true)
    (s' : Store) : s'.locate path = .error fault := by
  have hwalk {place : Location} {names : List String} (h : s.walk place names = .error fault) :
      fault.isData = false := by
    induction names generalizing place with
    | nil => cases h
    | cons name rest ih =>
      rw [walk] at h
      split at h
      · rename_i hneed
        unfold needFolder at hneed
        split at hneed <;> cases hneed <;> cases h <;> rfl
      split at h
      · exact ih h
      split at h
      · exact ih h
      split at h
      · cases h
        rfl
      · exact ih h
  revert h
  unfold locate
  split
  · exact id
  split
  · exact id
  split
  · exact id
  split
  · exact id
  split <;> intro h <;> rw [hwalk h] at hdata <;> cases hdata

theorem locate_eq_error_of_writeDocument (hname : Path.IsPlain (Path.name path).toList)
    (h : s.writeDocument path v = .error fault) (hdata : fault.isData = true) (s' : Store) :
    s'.locate path = .error fault := by
  rw [writeDocument] at h
  cases hwrite : s.write path v.render with
  | ok written =>
    simp only [hwrite, Outcome.ok_bind] at h
    split at h
    · cases h
      cases hdata
    · cases h
  | error fault' =>
    obtain rfl : fault' = fault := by simpa [hwrite] using h
    rw [write, locateFile_of_isPlain hname] at hwrite
    cases hplace : s.locate path with
    | error fault =>
      rw [hplace] at hwrite
      cases hwrite
      exact locate_eq_error_of_isData hplace hdata s'
    | ok place =>
      rw [hplace] at hwrite
      dsimp only at hwrite
      split at hwrite
      · cases hwrite
        cases hdata
      · cases hwrite

/-! ### Folders -/

theorem run_update (f : Store → Except Fault Store) (s : Store) :
    (update f).run s =
      match f s with
      | .ok s' => (.ok (), s')
      | .error fault => (.error fault, s) := by
  have hrun : (update f).run s = (liftM (f s) >>= fun s' => set s' : Storing Unit).run s := rfl
  rw [hrun]
  cases f s <;> rfl

theorem run_bind_eq_ok {α β : Type} {work : Storing α} {after : α → Storing β} {b : β} :
    (work >>= after).run s = (.ok b, s') ↔
      ∃ a s₁, work.run s = (.ok a, s₁) ∧ (after a).run s₁ = (.ok b, s') := by
  have hrun := Outcome.run_bind work after s
  change ((work >>= after).run.run s).run = _ ↔ ∃ a s₁, (work.run.run s).run = _ ∧ _
  rw [hrun]
  generalize (work.run.run s).run = outcome
  obtain ⟨fault | a, s₁⟩ := outcome
  · simp
  · constructor
    · exact fun h => ⟨a, s₁, rfl, h⟩
    · rintro ⟨_, _, ⟨⟩, h⟩
      exact h

theorem run_tryCatch_eq_ok {α : Type} {work : Storing α} {rescue : Fault → Storing α} {a : α} :
    (tryCatch work rescue : Storing α).run s = (.ok a, s') ↔ work.run s = (.ok a, s') ∨
      ∃ fault s₁, work.run s = (.error fault, s₁) ∧ (rescue fault).run s₁ = (.ok a, s') := by
  have hrun := Outcome.run_tryCatch work rescue s
  change ((tryCatch work rescue : Storing α).run.run s).run = _ ↔
    (work.run.run s).run = _ ∨ ∃ fault s₁, (work.run.run s).run = _ ∧ _
  rw [hrun]
  generalize (work.run.run s).run = outcome
  obtain ⟨fault | a, s₁⟩ := outcome
  · constructor
    · exact fun h => Or.inr ⟨fault, s₁, rfl, h⟩
    · rintro (h | ⟨_, _, ⟨⟩, h⟩)
      · cases h
      · exact h
  · simp

theorem run_lift_eq_ok {α : Type} {x : Except Fault α} {a : α} :
    (liftM x : Storing α).run s = (.ok a, s') ↔ x = .ok a ∧ s' = s := by
  cases x with
  | error fault => exact ⟨nofun, nofun⟩
  | ok b =>
    constructor
    · rintro ⟨⟩
      exact ⟨rfl, rfl⟩
    · rintro ⟨⟨⟩, rfl⟩
      rfl

/-- Work that leaves every store in a relation to what it was. -/
def Moves {α : Type} (R : Store → Store → Prop) (work : Storing α) : Prop :=
  ∀ s : Store, R s (work.run s).2

section

variable {α β : Type} {work : Storing α} {R : Store → Store → Prop} (hrefl : ∀ s, R s s)
  (htrans : ∀ s s' s'', R s s' → R s' s'' → R s s'')

include hrefl in
theorem moves_pure (a : α) : Moves R (pure a) := hrefl

include hrefl in
theorem moves_throw (fault : Fault) : Moves R (throw fault : Storing α) := hrefl

include hrefl in
theorem moves_get : Moves R get := hrefl

include htrans in
theorem Moves.bind {after : α → Storing β} (h : Moves R work) (hafter : ∀ a, Moves R (after a)) :
    Moves R (work >>= after) := by
  intro s
  have hwork := h s
  have hrun := Outcome.run_bind work after s
  change R s ((work >>= after).run.run s).run.2
  rw [hrun]
  change R s (work.run.run s).run.2 at hwork
  generalize (work.run.run s).run = outcome at hwork ⊢
  obtain ⟨_ | a, s₁⟩ := outcome
  · exact hwork
  · exact htrans _ _ _ hwork (hafter a s₁)

include htrans in
theorem Moves.rescue {rescue : Fault → Storing α} (h : Moves R work)
    (hrescue : ∀ fault, Moves R (rescue fault)) : Moves R (tryCatch work rescue) := by
  intro s
  have hwork := h s
  have hrun := Outcome.run_tryCatch work rescue s
  change R s ((tryCatch work rescue : Storing α).run.run s).run.2
  rw [hrun]
  change R s (work.run.run s).run.2 at hwork
  generalize (work.run.run s).run = outcome at hwork ⊢
  obtain ⟨fault | a, s₁⟩ := outcome
  · exact htrans _ _ _ hwork (hrescue fault s₁)
  · exact hwork

theorem Moves.ite {c : Prop} [Decidable c] {other : Storing α} (h : c → Moves R work)
    (h' : Moves R other) : Moves R (if c then work else other) := by
  split
  · exact h ‹c›
  · exact h'

include hrefl in
theorem moves_update {f : Store → Except Fault Store} (h : ∀ s s', f s = .ok s' → R s s') :
    Moves R (update f) := by
  intro s
  rw [run_update]
  cases hf : f s with
  | error fault => exact hrefl s
  | ok s' => exact h s s' hf

include hrefl htrans in
/-- What making one folder does to a store is what making all that are missing above it does. -/
theorem moves_addFolders (P : String → Prop)
    (hhead : ∀ path, P path → (splitLast path).1 ≠ "" → P (splitLast path).1)
    (hadd : ∀ path, P path → Moves R (update (·.addFolder path))) (reuse : Bool) (fuel : Nat)
    (path : String) (hpath : P path) : Moves R (addFolders reuse fuel path) := by
  induction fuel generalizing path with
  | zero => exact moves_pure hrefl ()
  | succ fuel ih =>
    have hpath' := hhead path hpath
    rw [addFolders]
    generalize splitLast path = split at hpath' ⊢
    obtain ⟨head, tail⟩ := split
    refine Moves.bind htrans (moves_get hrefl) fun s => ?_
    dsimp only at hpath' ⊢
    have hlast (done : Bool) : Moves R (if done = true then pure () else
        tryCatch (update (·.addFolder path)) fun fault => do
          if fault.isStorage && reuse && (← get).hasFolder path then pure () else throw fault) := by
      refine Moves.ite (fun _ => moves_pure hrefl ()) ?_
      refine Moves.rescue htrans (hadd path hpath) fun fault => Moves.bind htrans (moves_get hrefl)
        fun s => ?_
      exact Moves.ite (fun _ => moves_pure hrefl ()) (moves_throw hrefl fault)
    refine Moves.ite (fun hmissing => Moves.bind htrans (Moves.rescue htrans (ih head ?_)
      fun fault => ?_) fun _ => hlast _) (hlast _)
    · refine hpath' ?_
      rintro rfl
      simp at hmissing
    · exact Moves.ite (fun _ => moves_pure hrefl ()) (moves_throw hrefl fault)

end

/-- A store with some more folders than another one. -/
structure Founds (s s' : Store) : Prop where
  cwd : s'.cwd = s.cwd
  entry : ∀ place, s'.entry? place = s.entry? place ∨
    s.entry? place = none ∧ s'.entry? place = some .folder

theorem Founds.refl (s : Store) : Founds s s := ⟨rfl, fun _ => Or.inl rfl⟩

theorem Founds.trans {s'' : Store} (h : Founds s s') (h' : Founds s' s'') : Founds s s'' := by
  refine ⟨h'.cwd.trans h.cwd, fun place => ?_⟩
  rcases h.entry place with hsame | ⟨hnone, hfolder⟩ <;>
    rcases h'.entry place with hsame' | ⟨hnone', hfolder'⟩
  · exact Or.inl (hsame'.trans hsame)
  · exact Or.inr ⟨hsame ▸ hnone', hfolder'⟩
  · exact Or.inr ⟨hnone, hsame'.trans hfolder⟩
  · exact Or.inr ⟨hnone, hfolder'⟩

theorem Founds.keeps (h : Founds s s') : Keeps s s' := by
  refine ⟨h.cwd, fun place entry hentry => ?_⟩
  rcases h.entry place with hsame | ⟨hnone, -⟩
  · rw [hsame, hentry]
  · rw [hnone] at hentry
    cases hentry

/-- Making a folder puts one into an empty place. -/
theorem addFolder_eq_ok : s.addFolder path = .ok s' ↔ ∃ place, s.locate (bare path) = .ok place ∧
    s.entry? place = none ∧ s' = s.put place .folder := by
  unfold addFolder
  cases s.locate (bare path) with
  | error fault => simp
  | ok place => cases hentry : s.entry? place <;> simp [hentry, eq_comm]

theorem founds_put (h : s.entry? place = none) : Founds s (s.put place .folder) := by
  refine ⟨rfl, fun other => ?_⟩
  by_cases hother : other = place
  · subst hother
    refine Or.inr ⟨h, entry?_put_self ?_⟩
    rintro rfl
    cases h
  · exact Or.inl (entry?_put_of_ne hother)

/-- Making folders changes nothing else. -/
theorem founds_makeFolder (path : String) (reuse : Bool) (s : Store) :
    Founds s ((makeFolder path reuse).run s).2 := by
  refine moves_addFolders Founds.refl (fun _ _ _ => Founds.trans) (fun _ => True)
    (fun _ _ _ => trivial) (fun path _ => moves_update Founds.refl fun s s' h => ?_) reuse _ path
    trivial s
  obtain ⟨place, -, hnone, rfl⟩ := addFolder_eq_ok.1 h
  exact founds_put hnone

end KeywordCatalog.Store
