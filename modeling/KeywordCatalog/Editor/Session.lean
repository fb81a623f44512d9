import KeywordCatalog.Editor.View
import KeywordCatalog.Settings
import KeywordCatalog.Store

/-!
# Editor sessions

What a command sees of the editor, and what it asks of it. The requests are `Event`s, kept in the
order in which they were made; a command that fails keeps those it made before.
-/

namespace KeywordCatalog

/-- What runs a command of the editor. -/
inductive Target
  | view
  | window
  | panel (name : String)
deriving DecidableEq, Repr

/-- A request to the editor. -/
inductive Event
  | status (text : String)
  | logCommands (on : Bool)
  | openFile (path : Value)
  | run (target : Target) (command : String) (arguments : Value)
  | choose (items : List Value)
  | insert (point text : Value)
  | clearSelection
  | select (a b : Nat)
  /-- Scrolls to a region. -/
  | reveal (a b : Nat)
  /-- Starts a program, without a window of its own if so asked. -/
  | launch (arguments : List Value) (windowless : Bool)
deriving DecidableEq, Repr

/-- What a command sees of the editor. -/
structure Editor where
  settings : Settings
  view : View := {}
  platform : String := "Linux"
  /-- The code that a started program ends with. -/
  exitCode : Int := 0
  /-- The number of the item that is chosen from a list. -/
  choice : Option Int := none

/-- The files and the requests made so far. -/
structure Session where
  store : Store
  events : List Event := []

/-- Work of a command, which may fail and still leaves its traces. -/
abbrev Editing := ExceptT Fault (StateM Session)

namespace Editing

/-- Makes a request. -/
def ask (e : Event) : Editing Unit := modify fun s => { s with events := s.events ++ [e] }

/-- Puts a text into the status bar. -/
def status (text : String) : Editing Unit := ask (.status text)

@[simp] theorem run_ask (e : Event) (s : Session) :
    (ask e).run s = (.ok (), { s with events := s.events ++ [e] }) := rfl

/-- Works on the store. -/
def onStore {α : Type} (work : Store.Storing α) : Editing α := do
  let s ← get
  let (result, store) := work.run s.store
  set { s with store }
  result

end Editing

/-- Whether programs are started without a window. -/
def Editor.windowless (e : Editor) : Bool := e.platform == "Windows"

end KeywordCatalog
