import KeywordCatalog.Proofs.Cell.Split
import KeywordCatalog.Proofs.Keyword.Comparable

/-!
# The longest object of a cell

A cell is split at the longest object under which a record of the index matches, and among records
that match under objects of the same length the last one counts; without a match nothing is known of
the cell (`split_eq_lastLongest`). The keywords of the records may have embedded arguments.
-/

namespace KeywordCatalog.Cell

open Text Keyword Pattern

/-- Whether a cell is split by the last one of the records that match under the longest object. -/
def IsSplitByLast (records : List NamedRecord) (cell : String) (found : Split) : Prop :=
  ∃ before r after, records = before ++ r :: after ∧ r.Matches cell found ∧
    (∀ q ∈ before, ∀ other, q.Matches cell other → other.object.length ≤ found.object.length) ∧
    ∀ q ∈ after, ∀ other, q.Matches cell other → other.object.length < found.object.length

theorem IsSplitByLast.length_le {records : List NamedRecord} {cell : String} {found other : Split}
    (h : IsSplitByLast records cell found) {q : NamedRecord} (hq : q ∈ records)
    (hmatch : q.Matches cell other) : other.object.length ≤ found.object.length := by
  obtain ⟨before, r, after, rfl, hr, hbefore, hafter⟩ := h
  rcases List.mem_append.1 hq with hq | hq
  · exact hbefore q hq other hmatch
  · rcases List.mem_cons.1 hq with rfl | hq
    · rw [Option.some.inj (hmatch.object.symm.trans hr.object)]
    · exact Nat.le_of_lt (hafter q hq other hmatch)

theorem IsLastLongest.isSplitByLast {found : Split} {records : List NamedRecord} {cell : String}
    (h : IsLastLongest found (records.map (·.split? cell))) : IsSplitByLast records cell found := by
  obtain ⟨before, after, hsplits, hbefore, hafter⟩ := h
  obtain ⟨first, rest, rfl, rfl, hrest⟩ := List.map_eq_append_iff.1 hsplits
  obtain ⟨r, last, rfl, hr, rfl⟩ := List.map_eq_cons_iff.1 hrest
  have hmem {records : List NamedRecord} {q : NamedRecord} (hq : q ∈ records) {other : Split}
      (hmatch : q.Matches cell other) : some other ∈ records.map (·.split? cell) :=
    List.mem_map.2 ⟨q, hq, NamedRecord.split?_eq_some.2 hmatch⟩
  refine ⟨first, r, last, rfl, NamedRecord.split?_eq_some.1 hr, ?_, ?_⟩
  · intro q hq other hmatch
    exact hbefore other (hmem hq hmatch)
  · intro q hq other hmatch
    exact hafter other (hmem hq hmatch)

/-- **A cell is split by the last one of the records that match under the longest object, and nothing
is known of it exactly if no record matches.** The names of objects have no signs of a pattern besides
dots, and the keywords have none outside of their arguments, or can be compared for another reason. -/
theorem split_eq_lastLongest {s : Store} {index cell : String} {records : List NamedRecord}
    (hindex : s.indexedKeywords index = .ok (records.map fun r => r.toRecord.document))
    (hobjects : ∀ r ∈ records, ∀ name ∈ r.names, ∀ c ∈ name.toList, isSpellable c = true)
    (hkeywords : ∀ r ∈ records, IsPlainOutside r.keyword.toList ∨
      ∀ text, ∃ named, isNamed text r.keyword = .ok named)
    (hcell : '\n' ∉ cell.toList) :
    ∃ found, split s index cell = .ok found ∧
      (found = ⟨"", ""⟩ ↔ ∀ r ∈ records, ∀ other, ¬r.Matches cell other) ∧
      ((∃ r ∈ records, ∃ other, r.Matches cell other) → IsSplitByLast records cell found) := by
  have husable : ∀ r ∈ records, r.IsUsable := by
    intro r hr
    refine ⟨hobjects r hr r.object List.mem_cons_self, fun name hname c hc => ?_, fun text => ?_⟩
    · by_cases hempty : name = ""
      · subst hempty
        cases hc
      · refine hobjects r hr name (List.mem_cons_of_mem _ (List.mem_filter.2 ⟨?_, ?_⟩)) c hc
        · exact Option.mem_toList.2 hname
        · simpa using hempty
    · rcases hkeywords r hr with hplain | hcomparable
      · exact hplain.exists_isNamed text
      · exact hcomparable text
  obtain ⟨found, hsplit, hfound⟩ := exists_split_eq hindex husable hcell
  refine ⟨found, hsplit, ?_⟩
  rcases hfound with ⟨rfl, hnone⟩ | hlast
  · refine ⟨⟨fun _ => hnone, fun _ => rfl⟩, ?_⟩
    rintro ⟨r, hr, other, hmatch⟩
    exact absurd hmatch (hnone r hr other)
  · obtain ⟨⟨r, hr, hmatch⟩, -⟩ := hlast.exists_matches
    refine ⟨⟨?_, fun hnone => absurd hmatch (hnone r hr found)⟩, fun _ => hlast.isSplitByLast⟩
    -- a match has a keyword
    rintro rfl
    exact absurd rfl hmatch.nonempty

/-! ### An object inside of another one -/

/-- Keywords of a library and of a library whose name starts with the name of the first one, once
under its own name and once under a byname. -/
def nestedRecords : List NamedRecord :=
  [⟨"Do $\x7bx\x7d", .list [], "Lib", "Lib.json", none⟩,
    ⟨"Do It", .list [], "Lib.Sub", "Sub.json", none⟩,
    ⟨"do_it", .list [], "Other", "Other.json", some "Lib.Sub"⟩,
    ⟨"Log", .list [], "Lib.Sub", "Sub.json", some ""⟩]

def nestedIndex : Value := IndexPart.document ⟨nestedRecords.map NamedRecord.toRecord, []⟩

def nestedStore : Store where
  cwd := "/"
  entries := [(["index.json"], .file nestedIndex.render)]

theorem indexedKeywords_nestedStore : nestedStore.indexedKeywords "/index.json" =
    .ok (nestedRecords.map fun r => r.toRecord.document) := by
  have hfaithful : nestedIndex.Faithful := by
    refine IndexPart.faithful_document (List.forall_mem_map.2 fun r hr => ?_) nofun
    have harguments : ∀ r ∈ nestedRecords, r.arguments = .list [] := by decide
    exact r.faithful_document (harguments r hr ▸ .list nofun)
  exact (Store.indexedKeywords_of_readRaw hfaithful (by decide)
    (Store.readRaw_eq_ok.2 ⟨["index.json"], rfl, rfl⟩)).trans rfl

/-- The keyword with an argument matches under the shorter object; the split is the one at the longer
object. -/
theorem split_eq_lastLongest_nested :
    (∀ r ∈ nestedRecords, ∀ name ∈ r.names, ∀ c ∈ name.toList, isSpellable c = true) ∧
      (∀ r ∈ nestedRecords, IsPlainOutside r.keyword.toList) ∧
      (∃ r ∈ nestedRecords, r.Matches "Lib.Sub.Do It" ⟨"Lib", "Sub.Do It"⟩) ∧
      split nestedStore "/index.json" "Lib.Sub.Do It" = .ok ⟨"Lib.Sub", "Do It"⟩ := by
  have hsplits : nestedRecords.map (·.split? "Lib.Sub.Do It") = [some ⟨"Lib", "Sub.Do It"⟩,
      some ⟨"Lib.Sub", "Do It"⟩, some ⟨"Lib.Sub", "Do It"⟩, none] := by
    decide +kernel
  have hmatches (found : Split) (h : some found ∈ nestedRecords.map (·.split? "Lib.Sub.Do It")) :
      ∃ r ∈ nestedRecords, r.Matches "Lib.Sub.Do It" found := by
    obtain ⟨r, hr, hsplit⟩ := List.mem_map.1 h
    exact ⟨r, hr, NamedRecord.split?_eq_some.1 hsplit⟩
  have hobjects : ∀ r ∈ nestedRecords, ∀ name ∈ r.names, ∀ c ∈ name.toList,
      isSpellable c = true := by
    have hall : (nestedRecords.all fun r => r.names.all fun name => name.toList.all isSpellable) := by
      decide
    simpa only [List.all_eq_true] using hall
  have hplain : ∀ r ∈ nestedRecords, IsPlainOutside r.keyword.toList := by
    simp only [nestedRecords, List.forall_mem_cons]
    refine ⟨⟨[.word "Do ".toList, .argument "x".toList], by decide, ?_⟩, ⟨[.word "Do It".toList],
      by decide, ?_⟩, ⟨[.word "do_it".toList], by decide, ?_⟩, ⟨[.word "Log".toList], by decide, ?_⟩,
      nofun⟩ <;> simp only [List.forall_mem_cons]
    · exact ⟨List.all_eq_true.1 (by decide), List.all_eq_true.1 (by decide), nofun⟩
    · exact ⟨List.all_eq_true.1 (by decide), nofun⟩
    · exact ⟨List.all_eq_true.1 (by decide), nofun⟩
    · exact ⟨List.all_eq_true.1 (by decide), nofun⟩
  have hcell : '\n' ∉ "Lib.Sub.Do It".toList := by decide
  obtain ⟨found, hsplit, -, hlast⟩ := split_eq_lastLongest indexedKeywords_nestedStore hobjects
    (fun r hr => Or.inl (hplain r hr)) hcell
  obtain ⟨shorter, hshorter, hmatchShorter⟩ := hmatches ⟨"Lib", "Sub.Do It"⟩ (hsplits ▸ by simp)
  obtain ⟨longer, hlonger, hmatchLonger⟩ := hmatches ⟨"Lib.Sub", "Do It"⟩ (hsplits ▸ by simp)
  have hfound := hlast ⟨longer, hlonger, _, hmatchLonger⟩
  have hlength := hfound.length_le hlonger hmatchLonger
  obtain ⟨before, r, after, hrecords, hmatch, -⟩ := hfound
  have hmem : some found ∈ nestedRecords.map (·.split? "Lib.Sub.Do It") :=
    List.mem_map.2 ⟨r, by simp [hrecords], NamedRecord.split?_eq_some.2 hmatch⟩
  rw [hsplits] at hmem
  refine ⟨hobjects, hplain, ⟨shorter, hshorter, hmatchShorter⟩, hsplit.trans (congrArg _ ?_)⟩
  simp only [List.mem_cons, Option.some.injEq, List.not_mem_nil, or_false, reduceCtorEq] at hmem
  rcases hmem with rfl | rfl | rfl
  · exact absurd hlength (by decide)
  · rfl
  · rfl

end KeywordCatalog.Cell
