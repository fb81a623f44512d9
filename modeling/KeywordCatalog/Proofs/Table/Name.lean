import KeywordCatalog.Proofs.Path
import KeywordCatalog.Table.Name

/-!
# The names of tables

A table's name is put together from a part that is shown and the digest of a whole text, so two names
are the same exactly if the shown parts and the digests are. The name of a file's table can be the
last name of a path, and so can the name of its index, which is another one.
-/

namespace KeywordCatalog

theorem length_digest (text : String) : (digest text).toList.length = 32 := by
  simp [digest, Digest.Words.bytes, Digest.bytesOf, Digest.byteDigits]

theorem slash_notMem_digest (text : String) : '/' ∉ (digest text).toList := by
  have hdigit (k : Nat) : '/' ≠ Nat.digitChar k := by grind [Nat.digitChar]
  simp [digest, Digest.byteDigits, hdigit]

namespace TableName

variable {shown shown' : List Char} {whole whole' path name table : String}

theorem compose_eq_iff :
    compose shown whole = compose shown' whole' ↔ shown = shown' ∧ digest whole = digest whole' := by
  constructor
  · intro h
    have hchars := congrArg String.toList h
    simp only [compose, String.toList_append, String.toList_ofList, List.append_assoc] at hchars
    have hlength : ("-".toList ++ ((digest whole).toList ++ ".json".toList)).length =
        ("-".toList ++ ((digest whole').toList ++ ".json".toList)).length := by
      simp [length_digest]
    obtain ⟨hshown, hrest⟩ := List.append_inj' hchars hlength
    exact ⟨hshown, String.toList_inj.1 (List.append_cancel_right (List.append_cancel_left hrest))⟩
  · rintro ⟨rfl, hdigest⟩
    rw [compose, compose, hdigest]

theorem ofPath_eq_ok :
    ofPath path = .ok table ↔
      Text.hasBytes path.toList = true ∧ compose (tail (Path.nameChars path.toList)) path = table := by
  unfold ofPath ofFile
  split <;> simp_all

theorem compose_of_ofLibrary (h : ofLibrary name = .ok table) :
    compose (tail name.toList) name = table := by
  unfold ofLibrary at h
  split at h
  · cases h
  dsimp only at h
  split at h
  · exact Except.ok.inj h
  · cases h

theorem ofLibrary_eq_ok : ofLibrary name = .ok table ↔
    (∃ given, ofLibrary name = .ok given) ∧ compose (tail name.toList) name = table := by
  constructor
  · exact fun h => ⟨⟨table, h⟩, compose_of_ofLibrary h⟩
  · rintro ⟨⟨given, h⟩, rfl⟩
    rw [h, compose_of_ofLibrary h]

theorem isPlain_ofPath (h : ofPath path = .ok table) : Path.IsPlain table.toList := by
  have hdash : '-' ∈ table.toList := by simp [← (ofPath_eq_ok.1 h).2, compose]
  refine ⟨List.ne_nil_of_mem hdash, ?_, ?_, ?_⟩
  · intro e
    simp [e] at hdash
  · intro e
    simp [e, Path.above] at hdash
  · have hshown : '/' ∉ tail (Path.nameChars path.toList) :=
      fun hmem => Path.not_mem_nameChars path.toList (List.mem_of_mem_drop hmem)
    simp [← (ofPath_eq_ok.1 h).2, compose, hshown, slash_notMem_digest]

theorem isPlain_index (h : Path.IsPlain table.toList) : Path.IsPlain (index table).toList := by
  have hdash : '-' ∈ (index table).toList := by simp [index]
  refine ⟨List.ne_nil_of_mem hdash, ?_, ?_, ?_⟩
  · intro e
    simp [e] at hdash
  · intro e
    simp [e, Path.above] at hdash
  · simp [index, h.2.2.2]

theorem index_ne (table : String) : index table ≠ table := by
  intro h
  have hlength := congrArg (fun name => name.toList.length) h
  simp only [index, String.toList_append, List.length_append] at hlength
  have hword : "index-".toList.length = 6 := rfl
  omega

theorem index_injective : Function.Injective index := by
  intro a b h
  have hlists := congrArg String.toList h
  rw [index, index, String.toList_append, String.toList_append] at hlists
  exact String.toList_injective (List.append_cancel_left hlists)

end TableName

end KeywordCatalog
