import KeywordCatalog.Document.Display
import KeywordCatalog.Fault
import KeywordCatalog.Ordered

/-!
# The work queue

The items that a scan or an index still has to look at, each once. New items go to the front;
`WorkQueue.take` looks at the front item and moves it to the back, marked as taken, so that all
items which wait stand before all others. Whoever took an item marks it as done.

An item is known by a document, for the most part a text. `WorkQueue.keyOf` looks for what a
document of unknown kind names.
-/

namespace KeywordCatalog

/-- How far an item has come. -/
inductive Progress
  | waiting
  | taken
  | done
deriving DecidableEq, Repr

/-- What an item is. -/
inductive ItemKind
  /-- A suite or a resource, it is not known which. -/
  | unknown
  | suite
  | resource
  | library
  | variableFile
deriving DecidableEq, Repr

namespace ItemKind

/-- The kinds by their written names. -/
def names : List (Value × ItemKind) :=
  [(.text "library", .library), (.text "test_suite", .suite), (.text "resource", .resource),
   (.null, .unknown), (.text "variable_file", .variableFile)]

/-- The kind with a written name. -/
def ofValue? (v : Value) : Option ItemKind := names.lookup v

/-- The written name of a kind. -/
def value : ItemKind → Value
  | .unknown => .null
  | .suite => .text "test_suite"
  | .resource => .text "resource"
  | .library => .text "library"
  | .variableFile => .text "variable_file"

@[simp] theorem ofValue?_value (kind : ItemKind) : ofValue? kind.value = some kind := by
  cases kind <;> decide

end ItemKind

/-- What the queue knows of an item. -/
structure Work where
  progress : Progress
  kind : ItemKind
  arguments : Value
deriving DecidableEq, Repr

/-- Items from the first to the last. -/
structure WorkQueue where
  items : List (Value × Work) := []
deriving DecidableEq, Repr

namespace WorkQueue

/-- The queue without items. -/
def empty : WorkQueue := {}

/-- Whether an item is in the queue. -/
def has (q : WorkQueue) (key : Value) : Bool := Ordered.has key q.items

/-- The key under which the queue knows what a document names; the document itself if it is not in
the queue. A truth value names what its number names, and lists and objects name nothing. -/
def keyOf (q : WorkQueue) (v : Value) : Except Fault Value :=
  match v with
  | .list _ | .object _ => .error .wrongKind
  | _ => .ok (((q.items.find? fun item => item.1.same v).map Prod.fst).getD v)

/-- Puts a waiting item at the front, unless it is in the queue. -/
def add (q : WorkQueue) (key : Value) (kind : ItemKind) (arguments : Value) : WorkQueue :=
  if q.has key then q else ⟨(key, ⟨.waiting, kind, arguments⟩) :: q.items⟩

/-- Puts a waiting item at the front whose kind is given by its written name. -/
def addNamed (q : WorkQueue) (key kind arguments : Value) : Except Fault WorkQueue :=
  match ItemKind.ofValue? kind with
  | some kind => (q.keyOf key).map fun key => q.add key kind arguments
  | none => .error (.refused (.queueType kind.shown))

/-- The front item, and the queue with that item at the back and marked as taken. -/
def take (q : WorkQueue) : Option (Value × Work) × WorkQueue :=
  match q.items with
  | [] => (none, q)
  | (key, work) :: rest =>
    (some (key, work), ⟨rest ++ [(key, { work with progress := .taken })]⟩)

/-- The front item if it waits. The front item is moved to the back in any case. -/
def takeWaiting (q : WorkQueue) : Option (Value × Work) × WorkQueue :=
  match q.take with
  | (some (key, work), q') => (if work.progress == .waiting then some (key, work) else none, q')
  | (none, q') => (none, q')

/-- Marks an item as done where it stands. -/
def finish (q : WorkQueue) (key : Value) : Except Fault WorkQueue :=
  match q.items.lookup key with
  | some work => .ok ⟨Ordered.put key { work with progress := .done } q.items⟩
  | none => .error (.missingKey key)

/-- Puts an item at the back that is done, whatever the queue knew of it. -/
def force (q : WorkQueue) (key : Value) : WorkQueue :=
  ⟨Ordered.remove key q.items ++ [(key, ⟨.done, .unknown, .null⟩)]⟩

/-- Marks what a document names as done where it stands. -/
def finishNamed (q : WorkQueue) (v : Value) : Except Fault WorkQueue := do
  q.finish (← q.keyOf v)

/-- Puts what a document names at the back as done, under that document. -/
def forceNamed (q : WorkQueue) (v : Value) : Except Fault WorkQueue := do
  return (WorkQueue.mk (Ordered.remove (← q.keyOf v) q.items)).force v

@[simp] theorem take_empty : empty.take = (none, empty) := rfl

theorem add_of_has {q : WorkQueue} {key : Value} (h : q.has key = true) (kind : ItemKind)
    (arguments : Value) : q.add key kind arguments = q := by
  simp [add, h]

end WorkQueue

end KeywordCatalog
