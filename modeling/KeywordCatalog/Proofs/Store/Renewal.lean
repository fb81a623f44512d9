import KeywordCatalog.Proofs.Store.Outside

/-!
# Folders that are made anew

A folder is made anew by removing it, if it is there, and making it again. Afterwards nothing is in
it (`Store.Sound.makeFolder`). What is apart from it is as it was if it was there
(`Store.agreeApart_of_emptied`); if not, folders were made on the way to it, and these are above it as
long as its path does not step back (`Store.entry?_of_straight`).

So who reads only what is apart from a folder does not notice that it was emptied: the same files are
found (`Store.Emptied.findFiles`), and folders hold the same (`Store.Emptied.sharesFolder`).
-/

namespace KeywordCatalog

namespace Store

open Outcome

variable {s s' s'' : Store} {place other : Location} {entry : Entry}
  {path name folder extension file : String}

/-! ### Sound stores -/

/-- A store as it is found: relative paths start at an absolute one, names are plain, and everything
is in a folder. -/
structure Sound (s : Store) : Prop where
  cwd : Path.isAbsolute s.cwd = true
  named : s.WellNamed
  rooted : ∀ e ∈ s.entries, s.entry? e.1.dropLast = some .folder

theorem mem_entries_of_entry? (h : s.entry? place = some entry) :
    place = [] ∨ (place, entry) ∈ s.entries := by
  cases place with
  | nil => exact Or.inl rfl
  | cons first rest =>
    obtain ⟨before, after, hentries, -⟩ := List.lookup_eq_some_iff.1 h
    exact Or.inr (by rw [hentries]; simp)

/-- Where nothing is, nothing is inside. -/
theorem Sound.entry?_of_inside (h : s.Sound) (hplace : s.entry? place ≠ some .folder)
    (hother : Inside place other) : s.entry? other = none := by
  obtain ⟨below, hne, rfl⟩ := hother.exists_append
  -- the folders above what is there are there, up to the place
  induction below using List.reverseRecOn with
  | nil => exact absurd rfl hne
  | append_singleton front last ih =>
    cases hentry : s.entry? (place ++ (front ++ [last])) with
    | none => rfl
    | some entry =>
      rcases mem_entries_of_entry? hentry with hroot | hmem
      · simp at hroot
      · have hfolder := h.rooted _ hmem
        rw [← List.append_assoc, List.dropLast_concat] at hfolder
        by_cases hfront : front = []
        · rw [hfront, List.append_nil] at hfolder
          exact absurd hfolder hplace
        · rw [ih hfront (inside_append.2 hfront)] at hfolder
          cases hfolder

theorem mem_put {e : Location × Entry} (h : e ∈ (s.put place entry).entries) :
    e ∈ s.entries ∨ e.1 = place := by
  have hput : ∀ entries : List (Location × Entry), e ∈ Ordered.put place entry entries →
      e ∈ entries ∨ e.1 = place := by
    intro entries he
    induction entries with
    | nil => exact Or.inr (congrArg Prod.fst (List.mem_singleton.1 he))
    | cons first rest ih =>
      rw [Ordered.put] at he
      split at he
      · rename_i hsame
        rcases List.mem_cons.1 he with rfl | he
        · exact Or.inr (beq_iff_eq.1 hsame)
        · exact Or.inl (List.mem_cons_of_mem _ he)
      · rcases List.mem_cons.1 he with rfl | he
        · exact Or.inl List.mem_cons_self
        · exact (ih he).imp_left (List.mem_cons_of_mem _)
  exact hput s.entries h

theorem isPlain_of_walk {names : List String} (hplace : ∀ name ∈ place, Path.IsPlain name.toList)
    (hnames : ∀ name ∈ names, '/' ∉ name.toList) (h : s.walk place names = .ok other) :
    ∀ name ∈ other, Path.IsPlain name.toList := by
  induction names generalizing place with
  | nil =>
    cases h
    exact hplace
  | cons name rest ih =>
    obtain ⟨hslash, hrest⟩ := List.forall_mem_cons.1 hnames
    rw [walk] at h
    split at h
    · cases h
    split at h
    · exact ih hplace hrest h
    rename_i hskip
    split at h
    · exact ih (fun name hname => hplace name (List.dropLast_subset _ hname)) hrest h
    rename_i hback
    split at h
    · cases h
    · refine ih (fun other hother => ?_) hrest h
      rcases List.mem_append.1 hother with hother | hother
      · exact hplace other hother
      · rw [List.mem_singleton.1 hother]
        simp only [Bool.or_eq_true, String.isEmpty_iff, beq_iff_eq, not_or] at hskip hback
        refine ⟨fun e => hskip.1 ?_, fun e => hskip.2 ?_, fun e => hback ?_, hslash⟩
        · exact String.toList_injective e
        · exact String.toList_injective e
        · exact String.toList_injective e

/-- The names of what a path leads to are plain. -/
theorem isPlain_of_locate (h : s.locate path = .ok place) :
    ∀ name ∈ place, Path.IsPlain name.toList := by
  have hroot : ∀ name ∈ ([] : Location), Path.IsPlain name.toList := nofun
  refine isPlain_of_walk hroot (fun name hname => ?_) (locate_eq_ok.1 h).2
  obtain ⟨part, hpart, rfl⟩ := List.mem_map.1 hname
  rw [String.toList_ofList]
  exact Path.not_mem_of_mem_parts hpart

/-- A store stays sound if something is put where a path leads, which is no folder. -/
theorem Sound.put (h : s.Sound) (hlocate : s.locate path = .ok place)
    (hplace : s.entry? place ≠ some .folder) : (s.put place entry).Sound := by
  have hroot : place ≠ [] := by
    rintro rfl
    exact hplace rfl
  have hkept {other : Location} (hother : s.entry? other = some .folder) :
      Store.entry? (s.put place entry) other = some .folder := by
    have hne : other ≠ place := fun e => hplace (e ▸ hother)
    rw [entry?_put_of_ne hne, hother]
  refine ⟨h.cwd, fun e he => ?_, fun e he => ?_⟩
  · rcases mem_put he with he | he
    · exact h.named e he
    · rw [he]
      exact isPlain_of_locate hlocate
  · rcases mem_put he with he | he
    · exact hkept (h.rooted e he)
    · rw [he]
      exact hkept (entry?_dropLast_of_locate hlocate hroot)

theorem Sound.without (h : s.Sound) (place : Location) : (s.without place).Sound := by
  have hmem {e : Location × Entry} (he : e ∈ (s.without place).entries) :
      e ∈ s.entries ∧ ¬place <+: e.1 := by
    obtain ⟨he, hne⟩ := List.mem_filter.1 he
    obtain ⟨he, hout⟩ := mem_clear.1 he
    exact ⟨he, fun hp => hout ⟨hp, by simpa using hne⟩⟩
  refine ⟨h.cwd, fun e he => h.named e (hmem he).1, fun e he => ?_⟩
  obtain ⟨he, hout⟩ := hmem he
  by_cases hroot : e.1.dropLast = []
  · rw [hroot]
    rfl
  · rw [entry?_without hroot, if_neg fun hp => hout (hp.trans (List.dropLast_prefix _))]
    exact h.rooted e he

/-! ### Stores that agree apart from a place -/

/-- Whether two stores have the same at all places that are apart from one. -/
structure AgreeApart (place : Location) (s s' : Store) : Prop where
  cwd : s'.cwd = s.cwd
  entries : (s'.entries.filter fun e => decide (Apart place e.1)) =
    s.entries.filter fun e => decide (Apart place e.1)

namespace AgreeApart

theorem refl (place : Location) (s : Store) : AgreeApart place s s := ⟨rfl, rfl⟩

theorem trans (h : AgreeApart place s s') (h' : AgreeApart place s' s'') :
    AgreeApart place s s'' := ⟨h'.cwd.trans h.cwd, h'.entries.trans h.entries⟩

theorem put (s : Store) (h : ¬Apart place other) : AgreeApart place s (s.put other entry) :=
  ⟨rfl, Ordered.filter_put (fun p => decide (Apart place p)) (decide_eq_false h) entry s.entries⟩

theorem entry_eq (h : AgreeApart place s s') (hother : Apart place other) :
    s'.entry? other = s.entry? other := by
  obtain ⟨first, rest, rfl⟩ : ∃ first rest, other = first :: rest :=
    List.exists_cons_of_ne_nil fun e => hother.2 (e ▸ List.nil_prefix)
  have hlookup := congrArg (List.lookup (first :: rest)) h.entries
  rwa [lookup_filter_fst (fun p => decide (Apart place p)),
    lookup_filter_fst (fun p => decide (Apart place p)), if_pos (decide_eq_true hother),
    if_pos (decide_eq_true hother)] at hlookup

/-- What is read off the entries that are apart from a place is the same. -/
theorem filterMap_eq {α : Type} {f : Location × Entry → Option α} (h : AgreeApart place s s')
    (hf : ∀ e, ¬Apart place e.1 → f e = none) :
    s'.entries.filterMap f = s.entries.filterMap f := by
  have hkept (entries : List (Location × Entry)) : entries.filterMap f =
      (entries.filter fun e => decide (Apart place e.1)).filterMap f := by
    rw [List.filterMap_filter]
    refine List.filterMap_congr fun e _ => ?_
    split
    · rfl
    · rename_i hapart
      exact hf e (by simpa using hapart)
  rw [hkept, h.entries, ← hkept]

theorem childNames (h : AgreeApart place s s') (hother : Apart place other) :
    s'.childNames other = s.childNames other := by
  refine h.filterMap_eq fun e hcommon => if_neg fun hchild => hcommon ?_
  rw [beq_iff_eq] at hchild
  have hbelow := List.dropLast_prefix e.1
  rw [hchild] at hbelow
  obtain ⟨below, hbelow⟩ := hbelow
  exact hbelow ▸ hother.append below

theorem filesUnder (h : AgreeApart place s s') (hother : Apart place other) :
    s'.filesUnder other = s.filesUnder other := by
  refine congrArg (List.mergeSort · walkedBefore) (h.filterMap_eq fun e hcommon => ?_)
  split
  · refine if_neg fun hbegins => hcommon ?_
    obtain ⟨below, hbelow⟩ := List.isPrefixOf_iff_prefix.1 hbegins
    exact hbelow ▸ hother.append below
  · rfl

end AgreeApart

/-! ### Making a folder anew -/

theorem Sound.addFolder (h : s.Sound) (hadd : s.addFolder path = .ok s') : s'.Sound := by
  obtain ⟨place, hplace, hnone, rfl⟩ := addFolder_eq_ok.1 hadd
  exact h.put hplace (by rw [hnone]; nofun)

theorem AgreeApart.without (s : Store) (place : Location) : AgreeApart place s (s.without place) := by
  refine ⟨rfl, ?_⟩
  change List.filter _ (List.filter _ (List.filter _ _)) = _
  rw [List.filter_filter, List.filter_filter]
  refine List.filter_congr fun e _ => ?_
  by_cases hapart : Apart place e.1
  · have hne : e.1 ≠ place := fun e' => hapart.1 (e' ▸ List.prefix_refl _)
    have hkept : (!(place.isPrefixOf e.1 && e.1 != place)) = true :=
      isKept_iff.2 fun hinside => hapart.1 hinside.1
    simp [hapart, hne, hkept]
  · simp [hapart]

/-- While a removed folder is made again, a folder that is still missing is this one or in it. -/
theorem prefix_of_missing {t : Store} (hless : Keeps t s) (hmore : Keeps (s.without place) t)
    (hfind : s.find path = .ok .folder) (hother : t.locate (bare path) = .ok other)
    (hnone : t.entry? other = none) : s.entry? other = some .folder ∧ place <+: other := by
  obtain ⟨other', hother', hfolder⟩ := find_eq_ok.1 hfind
  have hbare := locate_of_keepsFolders hless.keepsFolders hother
  rw [locate_bare hother'] at hbare
  cases hbare
  refine ⟨hfolder, by_contra fun hout => ?_⟩
  have hroot : other ≠ [] := by
    rintro rfl
    cases hnone
  have hkept : Store.entry? (s.without place) other = some .folder := by
    rw [entry?_without hroot, if_neg hout, hfolder]
  rw [hmore.entry other _ hkept] at hnone
  cases hnone

/-- If a folder is removed and made again, nothing is made that was not there, and what is apart from
it stays. -/
theorem agreeApart_of_emptied {s₁ : Store} (hremove : (removeFolder path).run s = (.ok (), s₁))
    (hmake : (makeFolder path false).run s₁ = (.ok (), s')) (hplace : s.locate path = .ok place) :
    Keeps s' s ∧ AgreeApart place s s' := by
  obtain ⟨_, hplace', hentry, -, rfl⟩ := run_removeFolder_eq_ok hremove
  rw [hplace] at hplace'
  cases hplace'
  -- all stores on the way lie between the one without the folder and the one with it
  have hmade : (Keeps ((makeFolder path false).run (s.without place)).2 s ∧
      Keeps (s.without place) ((makeFolder path false).run (s.without place)).2) ∧
      AgreeApart place (s.without place) ((makeFolder path false).run (s.without place)).2 := by
    refine moves_addFolders (R := fun t t' => Keeps t s ∧ Keeps (s.without place) t →
        (Keeps t' s ∧ Keeps (s.without place) t') ∧ AgreeApart place t t')
      (fun t h => ⟨h, .refl place t⟩)
      (fun _ _ _ h h' ht => ⟨(h' (h ht).1).1, (h ht).2.trans (h' (h ht).1).2⟩)
      (fun path => s.find path = .ok .folder) (fun _ => find_splitLast)
      (fun path hfind => moves_update (fun t h => ⟨h, .refl place t⟩) fun t t' hadd ⟨hless, hmore⟩ => ?_)
      false _ path (find_eq_ok.2 ⟨place, hplace, hentry⟩) (s.without place)
      ⟨keeps_without s place, .refl _⟩
    obtain ⟨l, hl, hnone, rfl⟩ := addFolder_eq_ok.1 hadd
    obtain ⟨hfolder, hbelow⟩ := prefix_of_missing hless hmore hfind hl hnone
    exact ⟨⟨hless.put_folder hfolder, hmore.trans (founds_put hnone).keeps⟩,
      .put t fun hapart => hapart.1 hbelow⟩
  rw [hmake] at hmade
  exact ⟨hmade.1.1, (AgreeApart.without s place).trans hmade.2⟩

@[simp] theorem placeOf_append (names names' : List String) :
    placeOf (names ++ names') = placeOf names ++ placeOf names' := List.filter_append _ _

@[simp] theorem placeOf_slashes (k : Nat) : placeOf (List.replicate k "") = [] := by
  rw [placeOf, List.filter_eq_nil_iff]
  intro name hname
  rw [List.eq_of_mem_replicate hname]
  decide

/-- Whether a path names a place or one above it without steps back. -/
structure LeadsUpTo (cwd : String) (place : Location) (path : String) : Prop where
  straight : Straight cwd path
  above : placeOf (namesOf (Path.join cwd path)) <+: place

theorem LeadsUpTo.parent {cwd : String} (h : LeadsUpTo cwd place path) (hne : Path.parent path ≠ "") :
    LeadsUpTo cwd place (Path.parent path) := by
  obtain ⟨way, k, m, hparent, hpath⟩ := exists_way_parent hne cwd
  obtain ⟨hstraight, habove⟩ := h
  rw [Straight, hpath, List.mem_append, List.mem_append, not_or, not_or] at hstraight
  rw [hpath, placeOf_append, placeOf_append, List.append_assoc] at habove
  constructor
  · rw [Straight, hparent]
    simp [hstraight.1.1]
  · rw [hparent, placeOf_append, placeOf_slashes, List.append_nil]
    exact (List.prefix_append _ _).trans habove

theorem LeadsUpTo.splitLast {cwd : String} (h : LeadsUpTo cwd place path)
    (hne : (splitLast path).1 ≠ "") : LeadsUpTo cwd place (splitLast path).1 := by
  revert hne
  unfold Store.splitLast
  dsimp only
  split
  · intro hne
    have hparent : Path.parent path ≠ "" := by
      intro e
      rw [e] at hne
      exact hne rfl
    exact (h.parent hparent).parent hne
  · exact h.parent

theorem LeadsUpTo.of_locate_bare (h : LeadsUpTo s.cwd place path)
    (hother : s.locate (bare path) = .ok other) : other <+: place := by
  obtain ⟨haddress, hwalk⟩ := locate_eq_ok.1 hother
  have hne : path ≠ "" := by
    rintro rfl
    exact haddress.2.2.1 rfl
  obtain ⟨way, k, m, hway, -, hbare⟩ := exists_way hne s.cwd
  obtain ⟨hstraight, habove⟩ := h
  rcases hbare with hsame | ⟨-, -, hbare⟩
  · rw [hsame] at hwalk
    rwa [eq_placeOf_of_walk hstraight hwalk]
  · rw [hbare] at hwalk
    rw [Straight, hway, List.mem_append, not_or] at hstraight
    rw [hway, placeOf_append, placeOf_slashes, List.append_nil] at habove
    rwa [eq_placeOf_of_walk hstraight.1 hwalk]

/-- If a folder is made by a path that never steps back, only folders above it are made with it. -/
theorem entry?_of_straight (hpath : Straight s.cwd path)
    (hmake : (makeFolder path false).run s = (.ok (), s')) (hplace : s'.locate path = .ok place)
    (hother : ¬other <+: place) : s'.entry? other = s.entry? other := by
  have hcwd : s'.cwd = s.cwd := by
    have hfounds := founds_makeFolder path false s
    rw [hmake] at hfounds
    exact hfounds.cwd
  have hleads : LeadsUpTo s.cwd place path := by
    have hwalk := (locate_eq_ok.1 hplace).2
    rw [hcwd] at hwalk
    exact ⟨hpath, eq_placeOf_of_walk hpath hwalk ▸ List.prefix_refl _⟩
  have hadd (path : String) (hpath : LeadsUpTo s.cwd place path) :
      Moves (fun t t' => t.cwd = s.cwd → t'.cwd = s.cwd ∧ t'.entry? other = t.entry? other)
        (update (·.addFolder path)) := by
    refine moves_update (fun t ht => ⟨ht, rfl⟩) fun t t' hadd ht => ?_
    obtain ⟨l, hl, -, rfl⟩ := addFolder_eq_ok.1 hadd
    rw [← ht] at hpath
    refine ⟨ht, entry?_put_of_ne ?_⟩
    rintro rfl
    exact hother (hpath.of_locate_bare hl)
  have hmade := moves_addFolders (fun t ht => ⟨ht, rfl⟩)
    (fun _ _ _ h h' ht => ⟨(h' (h ht).1).1, (h' (h ht).1).2.trans (h ht).2⟩)
    (LeadsUpTo s.cwd place) (fun _ => LeadsUpTo.splitLast) hadd false (path.length + 1) path hleads s rfl
  rw [show (addFolders false (path.length + 1) path).run s = _ from hmake] at hmade
  exact hmade.2

/-- A path that ends in a dot or in a slash leads to a folder. -/
theorem entry?_of_locate_dot (htail : (splitLast path).2 = ".") (h : s.locate path = .ok place) :
    s.entry? place = some .folder := by
  have hname : (Path.name path).isEmpty || Path.name path == "." := by
    unfold splitLast at htail
    dsimp only at htail
    split at htail
    · rename_i hempty
      rw [hempty, Bool.true_or]
    · rw [show Path.name path = "." from htail]
      rfl
  obtain ⟨others, hnames⟩ := exists_namesOf_concat (Path.join s.cwd path)
  have hwalk := (locate_eq_ok.1 h).2
  rw [hnames, name_join, walk_append, bind_eq_ok] at hwalk
  obtain ⟨above, -, hlast⟩ := hwalk
  have hfolder := entry?_of_walk_cons hlast
  rw [walk, needFolder_eq_ok.2 hfolder] at hlast
  dsimp only at hlast
  rw [if_pos hname, walk_nil] at hlast
  rwa [← Except.ok.inj hlast]

/-- A path that never steps back leads to a folder that is there. -/
theorem Sound.has_of_straight (h : s.Sound) (hcwd : s'.cwd = s.cwd) (hpath : Straight s.cwd path)
    (hplace : s'.locate path = .ok place) (hfolder : s.entry? place = some .folder) :
    s.has path = true := by
  refine has_iff.2 ⟨_, find_eq_ok.2 ⟨place, ?_, hfolder⟩⟩
  refine locate_of_straight hcwd.symm (hcwd ▸ hpath) (fun above habove _ => ?_) hplace
  by_contra hnone
  by_cases hsame : place = above
  · exact hnone (hsame ▸ hfolder)
  · rw [h.entry?_of_inside hnone ⟨habove, hsame⟩] at hfolder
    cases hfolder

/-- A folder that was made has nothing in it. -/
theorem Sound.makeFolder (h : s.Sound) (hmake : (makeFolder path false).run s = (.ok (), s'))
    (htail : (splitLast path).2 = "." → Straight s.cwd path ∧ s.has path = false)
    (hplace : s'.locate path = .ok place) :
    s'.Sound ∧ s'.entry? place = some .folder ∧
      ∀ other, Inside place other → s'.entry? other = none := by
  have hmoves (path : String) (_ : True) : Moves (fun t t' => t.Sound → t'.Sound)
      (update (·.addFolder path)) := moves_update (fun _ => id) fun _ _ hadd hs => hs.addFolder hadd
  by_cases hdot : (splitLast path).2 = "."
  · -- the folder was made as one above the path
    obtain ⟨hstraight, hhas⟩ := htail hdot
    have hsound := moves_addFolders (fun _ => id) (fun _ _ _ h h' hs => h' (h hs))
      (fun _ => True) (fun _ _ _ => trivial) hmoves false (path.length + 1) path trivial s h
    have hfounds := founds_makeFolder path false s
    rw [hmake] at hfounds
    rw [show (addFolders false (path.length + 1) path).run s = _ from hmake] at hsound
    refine ⟨hsound, entry?_of_locate_dot hdot hplace, fun other hother => ?_⟩
    have hnone : s.entry? place ≠ some .folder := fun hfolder => by
      rw [h.has_of_straight hfounds.cwd hstraight hplace hfolder] at hhas
      cases hhas
    rw [entry?_of_straight hstraight hmake hplace fun hp => hother.2 (hp.eq_of_length_le
      hother.1.length_le), h.entry?_of_inside hnone hother]
  · obtain ⟨t, other, ht, hother, hnone, rfl⟩ := exists_put_of_makeFolder (fun _ => id)
      (fun _ _ _ h h' hs => h' (h hs)) (fun _ => True) (fun _ _ _ => trivial) hmoves trivial hmake hdot
    have hsound := ht h
    have hempty : t.entry? other ≠ some .folder := by rw [hnone]; nofun
    have hsame := locate_of_keepsFolders (founds_put hnone).keeps.keepsFolders hother
    rw [locate_bare hplace] at hsame
    cases hsame
    have hroot : place ≠ [] := by
      rintro rfl
      cases hnone
    refine ⟨hsound.put hother hempty, entry?_put_self hroot, fun below hbelow => ?_⟩
    rw [entry?_put_of_ne hbelow.2]
    exact hsound.entry?_of_inside hempty hbelow

/-! ### Emptied folders -/

/-- Whether a store is another one in which a folder was emptied. -/
structure Emptied (place : Location) (s s' : Store) : Prop where
  keeps : Keeps s' s
  agree : AgreeApart place s s'
  above : ∀ above, above <+: place → s'.entry? above = some .folder

theorem entry?_of_prefix {above : Location} (h : s.locate path = .ok place)
    (hfolder : s.entry? place = some .folder) (habove : above <+: place) :
    s.entry? above = some .folder := by
  rcases Nat.lt_or_ge above.length place.length with hlt | hge
  · rw [List.prefix_iff_eq_take.1 habove]
    exact entry?_take_of_locate h _ hlt
  · rwa [habove.eq_of_length_le hge]

namespace Emptied

theorem folder_of_prefix {above : Location} (h : Emptied place s s') (hother : Apart place other)
    (habove : above <+: other) (hfolder : s.entry? above = some .folder) :
    s'.entry? above = some .folder := by
  by_cases hup : above <+: place
  · exact h.above above hup
  · have hapart : Apart place above := ⟨fun hp => hother.1 (hp.trans habove), hup⟩
    rw [h.agree.entry_eq hapart, hfolder]

/-- A path that never steps back and leads to a place apart leads to it after a folder was emptied. -/
theorem locate_iff (h : Emptied place s s') (hpath : Straight s.cwd path)
    (hapart : ∀ other, s.locate path = .ok other → Apart place other) :
    s'.locate path = .ok other ↔ s.locate path = .ok other := by
  refine ⟨locate_of_keepsFolders h.keeps.keepsFolders, fun hother => ?_⟩
  exact locate_of_straight h.agree.cwd hpath
    (fun _ => h.folder_of_prefix (hapart other hother)) hother

theorem find_alike (h : Emptied place s s') (hpath : Straight s.cwd path)
    (hapart : ∀ other, s.locate path = .ok other → Apart place other) :
    Alike (s'.find path) (s.find path) := by
  refine Store.find_alike (fun _ => h.locate_iff hpath hapart) fun other hother => ?_
  exact h.agree.entry_eq (hapart other ((h.locate_iff hpath hapart).1 hother))

theorem findFiles (h : Emptied place s s') (hcwd : Path.isAbsolute s.cwd = true)
    (hpath : ∀ other, s.locate (Path.absolute s.cwd path) = .ok other → Apart place other)
    (extension : String) : s'.findFiles path extension = s.findFiles path extension := by
  have hstraight := straight_absolute hcwd path
  have hbelow : s'.filesBelow (Path.absolute s.cwd path) = s.filesBelow (Path.absolute s.cwd path) :=
    filesBelow_of_alike (h.find_alike hstraight hpath) (fun _ => h.locate_iff hstraight hpath)
      fun other hother => h.agree.filesUnder (hpath other ((h.locate_iff hstraight hpath).1 hother))
  simp only [Store.findFiles, h.agree.cwd, hbelow]

/-- The files that are found below a folder apart are found alike. -/
theorem find_alike_of_mem {files : List String} (h : Emptied place s s') (hsound : s.Sound)
    (hpath : ∀ other, s.locate (Path.absolute s.cwd path) = .ok other → Apart place other)
    (hfiles : s.findFiles path extension = .ok files) (hfile : file ∈ files) :
    Alike (s'.find file) (s.find file) := by
  obtain ⟨names, rfl, hplain⟩ := mem_findFiles hsound.named hfiles hfile
  have hne := absolute_ne_empty s.cwd path
  refine h.find_alike (straight_joinNames hne hplain (straight_absolute hsound.cwd path)) ?_
  intro other hother
  obtain ⟨above, habove, rfl⟩ := exists_locate_of_joinNames hne hplain hother
  exact (hpath above habove).append names

end Emptied

/-! ### Shared folders -/

/-- Whether a path leads to the same folder in two stores, with the same in it. -/
structure SharesFolder (s s' : Store) (folder : String) (place : Location) : Prop where
  cwd : s'.cwd = s.cwd
  locate : s.locate folder = .ok place
  locate' : s'.locate folder = .ok place
  entry : s.entry? place = some .folder
  entry' : s'.entry? place = some .folder
  childNames : s'.childNames place = s.childNames place
  children : ∀ name, s'.entry? (place ++ [name]) = s.entry? (place ++ [name])

namespace SharesFolder

theorem names (h : SharesFolder s s' folder place) : s'.names folder = s.names folder := by
  rw [names_of_childNames h.locate h.entry rfl, names_of_childNames h.locate' h.entry' rfl,
    h.childNames]

theorem locate_join_iff (h : SharesFolder s s' folder place) (hname : '/' ∉ name.toList) :
    s.locate (Path.join folder name) = .ok other ↔ s'.locate (Path.join folder name) = .ok other := by
  have hstep : s.walk place [name] = s'.walk place [name] := by
    unfold walk
    rw [needFolder_eq_ok.2 h.entry, needFolder_eq_ok.2 h.entry']
    simp only [walk_nil]
  rw [locate_eq_ok, locate_eq_ok, walk_join h.locate h.entry hname, hstep,
    walk_join h.locate' h.entry' hname]

/-- What has a plain name in a shared folder is found alike. -/
theorem find_join_alike (h : SharesFolder s s' folder place) (hname : Path.IsPlain name.toList) :
    Alike (s.find (Path.join folder name)) (s'.find (Path.join folder name)) := by
  refine Store.find_alike (fun _ => h.locate_join_iff hname.2.2.2) fun other hother => ?_
  have hwalk := (locate_eq_ok.1 hother).2
  rw [walk_join h.locate h.entry hname.2.2.2] at hwalk
  rw [walk_singleton_of_isPlain hname hwalk, h.children]

theorem parent_join (h : SharesFolder s s' folder place) (hname : '/' ∉ name.toList) :
    SharesFolder s s' (Path.parent (Path.join folder name)) place :=
  ⟨h.cwd, locate_parent_join h.locate hname, locate_parent_join h.locate' hname, h.entry, h.entry',
    h.childNames, h.children⟩

end SharesFolder

/-- A folder apart from an emptied one is shared. -/
theorem Emptied.sharesFolder (h : Emptied place s s') (hother : Apart place other)
    (hlocate : s'.locate folder = .ok other) (hentry : s'.entry? other = some .folder) :
    SharesFolder s' s folder other where
  cwd := h.keeps.cwd
  locate := hlocate
  locate' := locate_of_keepsFolders h.keeps.keepsFolders hlocate
  entry := hentry
  entry' := h.keeps.entry other _ hentry
  childNames := (h.agree.childNames hother).symm
  children name := (h.agree.entry_eq (hother.append [name])).symm

end Store

end KeywordCatalog
