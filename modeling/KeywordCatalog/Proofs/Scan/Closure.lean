import KeywordCatalog.Proofs.Exploration
import KeywordCatalog.Proofs.Scan.Round
import Mathlib.Data.Set.Card

/-!
# A scan goes through the import closure

A scan starts from the library that every suite uses, from the libraries described in markup and
from the files that it finds in the workspace (`Scanning.IsRoot`), and each item leads to what the
table built from it imports (`Scanning.Leads`). Whatever way of building tables is used, a scan that
no fault ends goes through exactly what can be reached that way, each item once; it comes to its end
if only finitely many items can be reached, and leaves every item of the queue done but the one that
was looked at last.
-/

namespace KeywordCatalog

open Routine

namespace Scanning

variable {source : TableSource} {workspace extension database : String} {markup : Option String}
  {s s₁ s₂ s' : Scan} {item : Value × Work} {built : Except Fault Table}

/-! ### Where a scan starts -/

/-- Whether a file below a folder describes a library in markup. -/
def InMarkup (w : World) (markup : Option String) (file : String) : Prop :=
  ∃ path files, markup = some path ∧ path ≠ "" ∧ w.store.findFiles path "xml" = .ok files ∧
    file ∈ files ∧ describesLibrary w file = .ok true

/-- Whether a scan starts from an item: the library that every suite uses, a library described in
markup, or a file of the workspace. -/
def IsRoot (w : World) (workspace extension : String) (markup : Option String) (key : Value) :
    Prop :=
  key = .text "BuiltIn" ∨ (∃ file, InMarkup w markup file ∧ key = .text file) ∨
    ∃ files file, w.store.findFiles workspace extension = .ok files ∧ file ∈ files ∧
      key = .text (w.tidy file)

/-- The requests for the libraries that files describe. -/
def libraryRequests (w : World) (files : List String) : List Request :=
  (files.filter fun file => describesLibrary w file = .ok true).map fun file =>
    ⟨.text file, .library, .list []⟩

/-- Going through files of markup asks for the libraries that they describe. -/
theorem exec_addMarkupFiles_eq_ok (files : List String)
    (h : (files.forM fun file => do
      if ← describesLibrary (← get).world file then
        onQueue fun q => q.add (.text file) .library (.list []) : Scanning Unit).exec s =
        some (.ok (), s')) :
    s' = { s with queue := s.queue.addAll (libraryRequests s.world files) } := by
  induction files generalizing s with
  | nil =>
    cases h
    rfl
  | cons file rest ih =>
    obtain ⟨⟨⟩, s₁, hfile, hrest⟩ := exec_bind_eq_ok.1 h
    rw [exec_bind, exec_get, Option.bind_some] at hfile
    simp only [exec_lift_bind] at hfile
    rcases hd : describesLibrary s.world file with fault | _ | _ <;> rw [hd] at hfile <;>
      cases hfile
    · rw [libraryRequests, List.filter_cons_of_neg (by simp [hd])]
      exact ih hrest
    · rw [libraryRequests, List.filter_cons_of_pos (by simp [hd]), ih hrest]
      rfl

theorem exec_addMarkupLibraries_eq_ok {path : String}
    (h : (addMarkupLibraries path).exec s = some (.ok (), s')) :
    ∃ files, s.world.store.findFiles path "xml" = .ok files ∧
      s' = { s with queue := s.queue.addAll (libraryRequests s.world files) } := by
  unfold addMarkupLibraries at h
  rw [exec_bind, exec_get, Option.bind_some] at h
  simp only [exec_lift_bind] at h
  cases hf : s.world.store.findFiles path "xml" with
  | error fault => rw [hf] at h; cases h
  | ok files =>
    rw [hf] at h
    exact ⟨files, rfl, exec_addMarkupFiles_eq_ok files h⟩

theorem exec_addMarkup_eq_ok (h : (addMarkup markup).exec s = some (.ok (), s')) :
    ∃ requests : List Request,
      (∀ key, key ∈ requests.map Request.key ↔
        ∃ file, InMarkup s.world markup file ∧ key = .text file) ∧
      s' = { s with queue := s.queue.addAll requests } := by
  cases markup with
  | none =>
    cases h
    exact ⟨[], by simp [InMarkup], rfl⟩
  | some path =>
    by_cases hp : path = ""
    · subst hp
      cases h
      exact ⟨[], by simp [InMarkup], rfl⟩
    · have hempty : path.isEmpty = false := by simpa using hp
      simp only [addMarkup, hempty, Bool.false_eq_true, if_false] at h
      obtain ⟨files, hfiles, rfl⟩ := exec_addMarkupLibraries_eq_ok h
      refine ⟨_, fun key => ?_, rfl⟩
      simp [InMarkup, hp, hfiles, libraryRequests, eq_comm]

theorem exec_addFiles_eq_ok (h : (addFiles workspace extension).exec s = some (.ok (), s')) :
    ∃ requests : List Request,
      (∀ key, key ∈ requests.map Request.key ↔
        ∃ files file, s.world.store.findFiles workspace extension = .ok files ∧ file ∈ files ∧
          key = .text (s.world.tidy file)) ∧
      (∀ r ∈ requests, r.kind = .unknown) ∧
      s' = { s with queue := s.queue.addAll requests } := by
  unfold addFiles at h
  rw [exec_bind, exec_get, Option.bind_some] at h
  simp only [exec_lift_bind] at h
  cases hf : s.world.store.findFiles workspace extension with
  | error fault => rw [hf] at h; cases h
  | ok files =>
    rw [hf] at h
    cases h
    refine ⟨_, fun key => ?_, fun r hr => ?_, rfl⟩
    · simp [eq_comm]
    · obtain ⟨file, -, rfl⟩ := List.mem_map.1 hr
      rfl

/-- The queue is filled with the items that a scan starts from. All that are not libraries are of
unknown kind. -/
theorem exec_addRoots_eq_ok
    (h : (addRoots workspace extension markup).exec s = some (.ok (), s')) :
    ∃ requests : List Request,
      (∀ key, key ∈ requests.map Request.key ↔ IsRoot s.world workspace extension markup key) ∧
      (∀ r ∈ requests, r.kind = .unknown ∨ r.key = .text "BuiltIn" ∨
        ∃ file, InMarkup s.world markup file ∧ r.key = .text file) ∧
      s' = { s with queue := s.queue.addAll requests } := by
  obtain ⟨⟨⟩, s₁, ⟨⟩, h⟩ := exec_bind_eq_ok.1 h
  obtain ⟨⟨⟩, s₂, hmarkup, hfiles⟩ := exec_bind_eq_ok.1 h
  obtain ⟨libraries, hlibraries, rfl⟩ := exec_addMarkup_eq_ok hmarkup
  obtain ⟨found, hfound, hkind, rfl⟩ := exec_addFiles_eq_ok hfiles
  refine ⟨⟨.text "BuiltIn", .library, .list []⟩ :: libraries ++ found, fun key => ?_, fun r hr => ?_,
    ?_⟩
  · rw [List.map_append, List.mem_append, List.map_cons, List.mem_cons, hlibraries, hfound,
      or_assoc]
    rfl
  · rcases List.mem_append.1 hr with hr | hr
    · rcases List.mem_cons.1 hr with rfl | hr
      · exact Or.inr (Or.inl rfl)
      · exact Or.inr (Or.inr ((hlibraries _).1 (List.mem_map_of_mem hr)))
    · exact Or.inl (hkind r hr)
  · rw [WorkQueue.addAll_append]
    rfl

theorem ends_addRoots : Ends (addRoots workspace extension markup) := by
  have hget : Ends (get : Scanning Scan) := fun _ => ⟨_, rfl⟩
  have hqueue (f : WorkQueue → WorkQueue) : Ends (onQueue f) := fun _ => ⟨_, rfl⟩
  have hlibraries (path : String) : Ends (addMarkupLibraries path) := by
    refine hget.bind fun s => (Ends.lift _).bind fun files => Ends.forM (fun file => ?_) files
    refine hget.bind fun s => (Ends.lift _).bind fun yes => ?_
    split
    · exact hqueue _
    · exact .pure _
  have hmarkup : Ends (addMarkup markup) := by
    unfold addMarkup
    split
    · split
      · exact .pure _
      · exact hlibraries _
    · exact .pure _
  exact (hqueue _).bind fun _ => hmarkup.bind fun _ =>
    hget.bind fun _ => (Ends.lift _).bind fun _ => hqueue _

/-! ### Round after round -/

/-- An item that was gone through, with the items that were asked for. -/
def visitOf (e : (Value × Work) × Except Fault Table) : Value × List Value :=
  (e.1.1, (requestsOf e.2).map Request.key)

/-- What is true when some items were gone through, starting from roots. -/
structure Scanned (source : TableSource) (roots : List Value)
    (log : List ((Value × Work) × Except Fault Table)) (s : Scan) : Prop where
  explored : WorkQueue.Explored roots (log.map visitOf) s.queue
  settled : s.queue.Settled
  built : ∀ e ∈ log, ∃ w, e.2 = source w e.1.1 e.1.2

variable {roots : List Value} {log : List ((Value × Work) × Except Fault Table)} {w v : World}

theorem scanned_start (requests : List Request) (h : s.queue = WorkQueue.empty.addAll requests) :
    Scanned source (requests.map Request.key) [] s where
  explored := h ▸ WorkQueue.explored_start requests
  settled := h ▸ WorkQueue.settled_empty.addAll requests
  built := by simp

/-- A round goes through one more item. -/
theorem Scanned.round (h : Scanned source roots log s)
    (hn : takeItem.exec s = some (.ok (some item), s₁))
    (hw : (scanItem source database item).exec s₁ = some (.ok built, s₂)) :
    Scanned source roots (log ++ [(item, built)]) s₂ := by
  obtain ⟨htake, -⟩ := exec_takeItem_eq_ok.1 hn
  obtain ⟨hbuilt, hfinish⟩ := exec_scanItem_eq_ok hw
  have horder := h.explored.inOrder.of_take htake
  refine ⟨?_, ?_, ?_⟩
  · rw [List.map_append]
    exact h.explored.visit htake ((horder.grownBy_addAll _).finish hfinish
      (WorkQueue.mem_keys_of_take htake)
      (WorkQueue.not_mem_waiting_of_take h.explored.inOrder htake))
  · exact ((h.settled.of_take htake).addAll _).settled (horder.addAll _).nodup hfinish
  · intro e he
    rcases List.mem_append.1 he with he | he
    · exact h.built e he
    · rw [List.mem_singleton] at he
      subst he
      exact ⟨_, hbuilt⟩

theorem scanned_of_rounds {requests : List Request}
    (hq : s.queue = WorkQueue.empty.addAll requests)
    (h : Rounds takeItem (scanItem source database) s log s') :
    Scanned source (requests.map Request.key) log s' :=
  h.preserves (fun log s => Scanned source (requests.map Request.key) log s)
    (scanned_start requests hq) fun _ _ _ _ _ _ hs hn hw => hs.round hn hw

/-- Whether an item leads to another one in a scan that starts in a world: at some time the scan
builds a table from the one, and that table imports the other. -/
def Leads (source : TableSource) (workspace extension database : String) (markup : Option String)
    (w : World) (key other : Value) : Prop :=
  ∃ s log s' work table, (addRoots workspace extension markup).exec ⟨w, {}⟩ = some (.ok (), s) ∧
    Rounds takeItem (scanItem source database) s log s' ∧ ((key, work), .ok table) ∈ log ∧
    other ∈ table.requests.map Request.key

/-- What can be reached in a scan that starts in a world. -/
abbrev InClosure (source : TableSource) (workspace extension database : String)
    (markup : Option String) (w : World) (key : Value) : Prop :=
  Reached (IsRoot w workspace extension markup) (Leads source workspace extension database markup w)
    key

theorem askedIn_visits_iff {key other : Value} :
    AskedIn (log.map visitOf) key other ↔
      ∃ work table, ((key, work), .ok table) ∈ log ∧ other ∈ table.requests.map Request.key := by
  constructor
  · rintro ⟨asked, hvisit, hother⟩
    obtain ⟨⟨⟨key, work⟩, built⟩, he, ⟨⟩⟩ := List.mem_map.1 hvisit
    cases built with
    | error fault => cases hother
    | ok table => exact ⟨work, table, he, hother⟩
  · rintro ⟨work, table, he, hother⟩
    exact ⟨_, List.mem_map_of_mem he, hother⟩

theorem visits_keys : (log.map visitOf).map Prod.fst = log.map fun e => e.1.1 := by
  rw [List.map_map]
  rfl

section Run

variable (hroots : (addRoots workspace extension markup).exec ⟨v, {}⟩ = some (.ok (), s))
include hroots

theorem scanned_of_addRoots (h : Rounds takeItem (scanItem source database) s log s') :
    ∃ roots, (∀ key, key ∈ roots ↔ IsRoot v workspace extension markup key) ∧
      Scanned source roots log s' := by
  obtain ⟨requests, hmem, -, rfl⟩ := exec_addRoots_eq_ok hroots
  exact ⟨_, hmem, scanned_of_rounds rfl h⟩

/-- Whatever a scan has gone through can be reached. -/
theorem inClosure_of_rounds (h : Rounds takeItem (scanItem source database) s log s') {key : Value}
    (hk : key ∈ log.map fun e => e.1.1) :
    InClosure source workspace extension database markup v key := by
  obtain ⟨roots, hmem, hscanned⟩ := scanned_of_addRoots hroots h
  rw [← visits_keys, hscanned.explored.visited] at hk
  refine (hscanned.explored.reached key hk.1).mono (fun a => (hmem a).1) fun a b hab => ?_
  obtain ⟨work, table, he, hb⟩ := askedIn_visits_iff.1 hab
  exact ⟨s, log, s', work, table, hroots, h, he, hb⟩

theorem length_le_of_rounds (h : Rounds takeItem (scanItem source database) s log s')
    (hfinite : {key | InClosure source workspace extension database markup v key}.Finite) :
    log.length ≤ hfinite.toFinset.card := by
  obtain ⟨roots, -, hscanned⟩ := scanned_of_addRoots hroots h
  have hnodup := hscanned.explored.nodup
  rw [visits_keys] at hnodup
  have hsub : (log.map fun e => e.1.1).toFinset ⊆ hfinite.toFinset := by
    intro key hk
    rw [hfinite.mem_toFinset]
    exact inClosure_of_rounds hroots h (List.mem_toFinset.1 hk)
  have hcard := Finset.card_le_card hsub
  rwa [List.toFinset_card_of_nodup hnodup, List.length_map] at hcard

/-- When a scan is through, it has gone through all that can be reached. -/
theorem mem_log_iff_of_ended (h : Rounds takeItem (scanItem source database) s log s₁)
    (hend : takeItem.exec s₁ = some (.ok none, s')) (key : Value) :
    key ∈ log.map (fun e => e.1.1) ↔ InClosure source workspace extension database markup v key := by
  refine ⟨inClosure_of_rounds hroots h, fun hr => ?_⟩
  obtain ⟨roots, hmem, hscanned⟩ := scanned_of_addRoots hroots h
  have hwaiting := hscanned.explored.inOrder.waiting_eq_nil (exec_takeItem_eq_ok.1 hend).1
  rw [← visits_keys, hscanned.explored.mem_visited_iff_asked hwaiting]
  refine hr.mono (fun a => (hmem a).2) ?_
  rintro a b ⟨s₂, log₂, s₃, work, table, hroots₂, h₂, he, hb⟩
  rw [hroots] at hroots₂
  cases hroots₂
  have hprefix := h.prefix_of_ended hend h₂
  exact askedIn_visits_iff.2 ⟨work, table, hprefix.subset he, hb⟩

end Run

theorem exec_needWorkspace (workspace : String) (s : Scan) :
    ∃ result, (needWorkspace workspace).exec s = some (result, s) := by
  unfold needWorkspace
  rw [exec_bind, exec_get, Option.bind_some]
  dsimp only
  split
  · exact ⟨_, rfl⟩
  · split <;> exact ⟨_, rfl⟩

theorem exec_needWorkspace_of_has (hhas : s.world.store.has workspace = true)
    (hparent : Path.parent workspace ≠ "") : (needWorkspace workspace).exec s = some (.ok (), s) := by
  have hempty : (Path.parent workspace).isEmpty = false := by simpa using hparent
  unfold needWorkspace
  rw [exec_bind, exec_get, Option.bind_some]
  simp only [hhas, hempty]
  rfl

/-- A scan without libraries in markup starts from the library that every suite uses and from the
files that it finds. -/
theorem exec_addRoots_of_found {files : List String}
    (h : w.store.findFiles workspace extension = .ok files) :
    (addRoots workspace extension none).exec ⟨w, {}⟩ =
      some (.ok (), ⟨w, (WorkQueue.add {} (.text "BuiltIn") .library (.list [])).addAll
        (files.map fun file => ⟨.text (w.tidy file), .unknown, .null⟩)⟩) := by
  refine exec_bind_eq_ok.2 ⟨(), _, rfl, exec_bind_eq_ok.2 ⟨(), _, rfl, ?_⟩⟩
  unfold addFiles
  rw [exec_bind, exec_get, Option.bind_some]
  simp only [exec_lift_bind, h]
  rfl

/-- A scan goes well if its rounds come to an end. -/
theorem exec_scanWith_of_rounds (hneed : (needWorkspace workspace).exec ⟨w, {}⟩ = some (.ok (), ⟨w, {}⟩))
    (hfresh : (freshDatabase database).exec ⟨w, {}⟩ = some (.ok (), ⟨v, {}⟩))
    (hroots : (addRoots workspace extension markup).exec ⟨v, {}⟩ = some (.ok (), s))
    (hrounds : Rounds takeItem (scanItem source database) s log s₁)
    (hend : takeItem.exec s₁ = some (.ok none, s')) :
    (scanWith source workspace extension database markup).exec ⟨w, {}⟩ = some (.ok log, s') :=
  exec_bind_eq_ok.2 ⟨(), _, hneed, exec_bind_eq_ok.2 ⟨(), _, hfresh,
    exec_bind_eq_ok.2 ⟨(), _, hroots, exec_drain_eq_ok_iff.2 ⟨s₁, hrounds, hend⟩⟩⟩⟩

/-- A scan that no fault ends gets to its rounds. -/
theorem exec_scanWith_eq_scanItems
    (hfresh : (freshDatabase database).exec ⟨w, {}⟩ = some (.ok (), ⟨v, {}⟩))
    (hok : ∀ fault s', (scanWith source workspace extension database markup).exec ⟨w, {}⟩ ≠
      some (.error fault, s')) :
    ∃ s, (addRoots workspace extension markup).exec ⟨v, {}⟩ = some (.ok (), s) ∧
      (scanWith source workspace extension database markup).exec ⟨w, {}⟩ =
        (scanItems source database).exec s := by
  have hneed : Ends (needWorkspace workspace) := fun s => by
    obtain ⟨result, h⟩ := exec_needWorkspace workspace s
    exact ⟨_, h⟩
  obtain ⟨⟨⟩, s₀, hneeded, hscan⟩ := hneed.exists_ok hok
  obtain ⟨result, hsame⟩ := exec_needWorkspace workspace ⟨w, {}⟩
  rw [hneeded] at hsame
  cases hsame
  have hfreshed : (freshDatabase database >>= fun _ =>
      addRoots workspace extension markup >>= fun _ => scanItems source database).exec ⟨w, {}⟩ =
      (addRoots workspace extension markup >>= fun _ => scanItems source database).exec ⟨v, {}⟩ := by
    rw [exec_bind, hfresh]
    rfl
  have hscan : (scanWith source workspace extension database markup).exec ⟨w, {}⟩ = _ :=
    hscan.trans hfreshed
  rw [hscan] at hok ⊢
  obtain ⟨⟨⟩, s, hroots, hitems⟩ := ends_addRoots.exists_ok hok
  exact ⟨s, hroots, hitems⟩

/-- A scan that goes well has queued its roots and gone through rounds until nothing waited. -/
theorem exists_rounds_of_exec_scanWith
    (hfresh : (freshDatabase database).exec ⟨w, {}⟩ = some (.ok (), ⟨v, {}⟩))
    (hscan : (scanWith source workspace extension database markup).exec ⟨w, {}⟩ =
      some (.ok log, s')) :
    ∃ s s₁, (addRoots workspace extension markup).exec ⟨v, {}⟩ = some (.ok (), s) ∧
      Rounds takeItem (scanItem source database) s log s₁ ∧
      takeItem.exec s₁ = some (.ok none, s') := by
  have hok (fault : Fault) (s' : Scan) : (scanWith source workspace extension database markup).exec
      ⟨w, {}⟩ ≠ some (.error fault, s') := by simp [hscan]
  obtain ⟨s, hroots, hitems⟩ := exec_scanWith_eq_scanItems hfresh hok
  rw [hscan] at hitems
  obtain ⟨s₁, hrounds, hend⟩ := exists_rounds_of_exec_drain hitems.symm
  exact ⟨s, s₁, hroots, hrounds, hend⟩

/-- **A scan goes through its import closure once and ends.** Let `v` be the world with the emptied
database, and let no fault end the scan. If finitely many items can be reached, the scan ends; it
has built a table from each item that can be reached, once, and from nothing else. The queue then
holds the same items, all done but the last one, which is marked as taken. -/
theorem scanWith_eq_closure
    (hfresh : (freshDatabase database).exec ⟨w, {}⟩ = some (.ok (), ⟨v, {}⟩))
    (hok : ∀ fault s', (scanWith source workspace extension database markup).exec ⟨w, {}⟩ ≠
      some (.error fault, s'))
    (hfinite : {key | InClosure source workspace extension database markup v key}.Finite) :
    ∃ log s', (scanWith source workspace extension database markup).exec ⟨w, {}⟩ =
        some (.ok log, s') ∧
      (log.map fun e => e.1.1).Nodup ∧
      (∀ key, key ∈ log.map (fun e => e.1.1) ↔
        InClosure source workspace extension database markup v key) ∧
      (∀ e ∈ log, ∃ w, e.2 = source w e.1.1 e.1.2) ∧
      s'.queue.keys.Nodup ∧
      (∀ key, key ∈ s'.queue.keys ↔
        InClosure source workspace extension database markup v key) ∧
      ∃ items last, s'.queue.items = items ++ [last] ∧ (∀ item ∈ items, item.2.progress = .done) ∧
        last.2.progress = .taken := by
  obtain ⟨s, hroots, hscan⟩ := exec_scanWith_eq_scanItems hfresh hok
  rw [hscan] at hok ⊢
  obtain ⟨log, s', hdrain⟩ := exists_exec_drain_of_bounded ends_takeItem
    (fun item => ends_scanItem) (hfinite.toFinset.card + 1) hok fun log s' h =>
      Nat.lt_succ_of_le (length_le_of_rounds hroots h hfinite)
  obtain ⟨s₁, hrounds, hend⟩ := exists_rounds_of_exec_drain hdrain
  obtain ⟨roots, hmem, hscanned⟩ := scanned_of_addRoots hroots hrounds
  have hlog := mem_log_iff_of_ended hroots hrounds hend
  obtain ⟨htake, -⟩ := exec_takeItem_eq_ok.1 hend
  have hwaiting := hscanned.explored.inOrder.waiting_eq_nil htake
  have hperm := WorkQueue.keys_perm_of_take_none htake
  have hkeys (key : Value) : key ∈ s'.queue.keys ↔
      InClosure source workspace extension database markup v key := by
    rw [hperm.mem_iff, ← hscanned.explored.mem_visited hwaiting, visits_keys, hlog]
  have hne : s₁.queue.items ≠ [] := by
    intro hnil
    have hbuiltin : .text "BuiltIn" ∈ s₁.queue.keys :=
      (hscanned.explored.known _).2 (Or.inl ((hmem _).2 (Or.inl rfl)))
    rw [WorkQueue.keys, hnil] at hbuiltin
    cases hbuiltin
  refine ⟨log, s', hdrain, visits_keys ▸ hscanned.explored.nodup, hlog, hscanned.built,
    hperm.nodup_iff.2 hscanned.explored.inOrder.nodup, hkeys,
    hscanned.settled.of_take_none hscanned.explored.inOrder hne htake⟩

/-- A workspace with one file. -/
def smallStore : Store where
  cwd := "/"
  entries := [(["ws"], .folder), (["ws", "a.robot"], .file "")]

/-- The workspace next to an empty database. -/
def smallDatabase : Store := { smallStore with entries := smallStore.entries ++ [(["db"], .folder)] }

/-- A suite that imports itself and a resource. -/
def selfImporting : RobotTable :=
  { fileName := "a.robot", filePath := "/ws/a.robot", keywords := [], varNames := [],
    resources := ["/ws/a.robot", "/ws/b.robot"], libraries := [], variableFiles := [] }

/-- A way to build tables that knows this suite only. -/
def oneSuite : TableSource := fun _ key _ =>
  if key = .text "/ws/a.robot" then .ok (.robot selfImporting) else .error (.refused .unknownLibrary)

/-- What is found in a workspace with one file. -/
theorem findFiles_of_single {s : Store} (hcwd : s.cwd = "/") (hfind : s.find "/ws" = .ok .folder)
    (hlocate : s.locate "/ws" = .ok ["ws"]) (hunder : s.entries.filterMap (fun e =>
      match e.2 with
      | .file _ => if ["ws"].isPrefixOf e.1 then some (e.1.drop 1) else none
      | .folder => none) = [["a.robot"]]) :
    s.findFiles "/ws" "robot" = .ok ["/ws/a.robot"] := by
  have hbelow : s.filesBelow "/ws" = [["a.robot"]] := by
    simp only [Store.filesBelow, hfind, hlocate, Store.filesUnder]
    exact (congrArg (List.mergeSort · walkedBefore) hunder).trans (List.mergeSort_singleton _)
  unfold Store.findFiles
  rw [hcwd, show Path.absolute "/" "/ws" = "/ws" by decide +kernel]
  simp only [hbelow]
  decide +kernel

theorem findFiles_smallDatabase : smallDatabase.findFiles "/ws" "robot" = .ok ["/ws/a.robot"] :=
  findFiles_of_single rfl (by decide +kernel) (by decide +kernel) (by decide +kernel)

theorem run_makeFolder_small :
    (Store.makeFolder "/db" false).run smallStore = (.ok (), smallDatabase) := by
  have hmade : ((Store.makeFolder "/db" false).run smallStore).1 = .ok () := by decide +kernel
  have hstore : ((Store.makeFolder "/db" false).run smallStore).2 = smallDatabase := by
    decide +kernel
  exact Prod.ext hmade hstore

theorem exec_freshDatabase_small (f : Framework) :
    (freshDatabase "/db").exec ⟨⟨smallStore, f⟩, {}⟩ = some (.ok (), ⟨⟨smallDatabase, f⟩, {}⟩) := by
  have hhas : smallStore.has "/db" = false := by decide +kernel
  unfold freshDatabase
  rw [exec_bind, exec_get, Option.bind_some]
  simp only [hhas, Bool.false_eq_true, if_false, exec_onStore, run_makeFolder_small]

/-- The files of the workspace and the library that every suite uses. -/
theorem exec_addRoots_small (f : Framework) :
    (addRoots "/ws" "robot" none).exec ⟨⟨smallDatabase, f⟩, {}⟩ =
      some (.ok (), ⟨⟨smallDatabase, f⟩,
        ⟨[(.text "/ws/a.robot", ⟨.waiting, .unknown, .null⟩),
          (.text "BuiltIn", ⟨.waiting, .library, .list []⟩)]⟩⟩) := by
  have htidy : Path.tidy smallDatabase.cwd "/ws/a.robot" = "/ws/a.robot" := by decide +kernel
  rw [exec_addRoots_of_found (w := ⟨smallDatabase, f⟩) findFiles_smallDatabase]
  simp only [List.map_cons, List.map_nil, World.tidy, htidy]
  rfl

/-- The table of the suite. -/
def smallTable : String := "a.robot-d953a49a215d74a053f4c96c6ac04059.json"

/-- The suite is recorded. -/
theorem exec_recordTable_small (queue : WorkQueue) :
    ∃ world, (recordTable "/db" (.ok (.robot selfImporting))).exec ⟨⟨smallDatabase, {}⟩, queue⟩ =
      some (.ok (), ⟨world, queue.addAll selfImporting.requests⟩) := by
  have hname : Table.fileName (.robot selfImporting) =
      .ok smallTable := by
    decide +kernel
  have hwrite : smallDatabase.writeDocument (Path.join "/db" smallTable)
      (Table.document (.robot selfImporting)) =
        .ok (smallDatabase.put ["db", smallTable]
          (.file (Table.document (.robot selfImporting)).render)) := by
    decide +kernel
  refine ⟨⟨smallDatabase.put ["db", smallTable] (.file (Table.document (.robot selfImporting)).render),
    {}⟩, exec_bind_eq_ok.2 ⟨.robot selfImporting, _, rfl, exec_bind_eq_ok.2 ⟨(), _, rfl, ?_⟩⟩⟩
  unfold storeTable
  rw [hname, exec_lift_bind]
  simp only [exec_writeTable, hwrite]
  rfl

/-- The scan of the workspace goes through the suite, the resource and the library. -/
theorem rounds_small :
    ∃ s s₁ s' log, (addRoots "/ws" "robot" none).exec ⟨⟨smallDatabase, {}⟩, {}⟩ = some (.ok (), s) ∧
      Rounds takeItem (scanItem oneSuite "/db") s log s₁ ∧ takeItem.exec s₁ = some (.ok none, s') ∧
      log.map (fun e => e.1.1) = [.text "/ws/a.robot", .text "/ws/b.robot", .text "BuiltIn"] := by
  obtain ⟨world, hrecord⟩ := exec_recordTable_small ⟨[
    (.text "BuiltIn", ⟨.waiting, .library, .list []⟩), (.text "/ws/a.robot", ⟨.taken, .unknown, .null⟩)]⟩
  have hspared (s : Scan) : (forgiving () (recordTable "/db" (.error (.refused .unknownLibrary)))).exec s =
      some (.ok (), s) :=
    exec_forgiving_eq_ok.2 (Or.inr ⟨.refused .unknownLibrary, rfl, rfl, rfl⟩)
  exact ⟨_, _, _, [_, _, _], exec_addRoots_small {},
    .round rfl (exec_scanItem_of_record rfl (exec_forgiving_eq_ok.2 (Or.inl hrecord)) rfl)
      (.round rfl (exec_scanItem_of_record rfl (hspared _) rfl)
        (.round rfl (exec_scanItem_of_record rfl (hspared _) rfl) (.start _))), rfl, rfl⟩

/-- The scan of a workspace with a suite that imports itself and a resource that is faulty. -/
theorem scanWith_eq_closure_small :
    ∃ log s', (scanWith oneSuite "/ws" "robot" "/db" none).exec ⟨⟨smallStore, {}⟩, {}⟩ =
        some (.ok log, s') ∧
      log.map (fun e => e.1.1) = [.text "/ws/a.robot", .text "/ws/b.robot", .text "BuiltIn"] ∧
      ∀ key, key ∈ s'.queue.keys ↔
        InClosure oneSuite "/ws" "robot" "/db" none ⟨smallDatabase, {}⟩ key := by
  obtain ⟨s, s₁, s', log, hroots, hrounds, hend, hkeys⟩ := rounds_small
  have hfinite :
      {key | InClosure oneSuite "/ws" "robot" "/db" none ⟨smallDatabase, {}⟩ key}.Finite := by
    refine (List.finite_toSet (log.map fun e => e.1.1)).subset fun key hk => ?_
    exact (mem_log_iff_of_ended hroots hrounds hend key).2 hk
  have hneed : (needWorkspace "/ws").exec ⟨⟨smallStore, {}⟩, {}⟩ =
      some (.ok (), ⟨⟨smallStore, {}⟩, {}⟩) :=
    exec_needWorkspace_of_has (by decide +kernel) (by decide +kernel)
  have hscan : (scanWith oneSuite "/ws" "robot" "/db" none).exec ⟨⟨smallStore, {}⟩, {}⟩ =
      some (.ok log, s') :=
    exec_scanWith_of_rounds hneed (exec_freshDatabase_small {}) hroots hrounds hend
  obtain ⟨log', s'', hscan', -, -, -, -, hmem, -⟩ :=
    scanWith_eq_closure (exec_freshDatabase_small {}) (by simp [hscan]) hfinite
  rw [hscan] at hscan'
  cases hscan'
  exact ⟨log, s', hscan, hkeys, hmem⟩

end Scanning

end KeywordCatalog
