import KeywordCatalog.Cell
import KeywordCatalog.Completion.Offer
import KeywordCatalog.Editor.Session
import KeywordCatalog.Import.Line
import KeywordCatalog.Import.Target
import KeywordCatalog.Lookup

/-!
# Keywords under the cursor

The commands that look at the cell of the cursor: completing what is typed, showing the
documentation of a keyword, and jumping to where a keyword is defined or to the file that a line
imports. All of them need the index of the open file.
-/

namespace KeywordCatalog.Editor

open Editing

/-- The open file, which must have a name. -/
def openFile (e : Editor) : Except Fault String :=
  match e.view.file with
  | some file => .ok file
  | none => .error .wrongKind

/-- The index of the open file, if there is one. -/
def index? (e : Editor) : Editing (Option String) := do
  let file ← e.openFile
  let store := (← get).store
  let table ← TableName.ofPath (Path.tidy store.cwd file)
  let path := Path.join (← e.settings.indexes) (TableName.index table)
  return if store.has path then some path else none

/-- The line of the cursor. -/
def line (e : Editor) : String := String.ofList e.view.line

/-- The keyword under the cursor and the object that it is asked from. -/
def keyword (e : Editor) (index : String) : Editing (String × Option String) := do
  Cell.keywordAt (← get).store index e.line e.view.column

/-- The texts before the cursor that start a snippet. -/
def snippetStarts : List String := [":f", "*", ":"]

/-- Whether a snippet is being typed. -/
def inSnippet (e : Editor) : Bool :=
  let column : Int := e.view.column
  let typed := Text.trim Text.isBlank (Text.between (column - 2) column e.view.line)
  snippetStarts.contains (String.ofList typed)

/-- Whether the place of the cursor is one to complete keywords at. -/
def isCompletable (e : Editor) : Bool :=
  e.view.isTestData && !e.view.fits "comment" && !e.view.fits "keyword.control.robot"

/-- What is offered for the text that is typed, by an index. -/
def offer (e : Editor) (index typed : String) : Editing (List Completion.Item) := do
  let column : Int := e.view.column
  let (word, _) ← Completion.query e.line column typed
  let separator ← e.view.separator
  let object ← Line.objectBefore e.line typed column
  let format ← e.settings.get .argumentFormat
  Completion.offer (← get).store index word object ⟨separator, format.truthy⟩

/-- What is offered for the text that is typed; nothing where nothing can be completed. -/
def complete (e : Editor) (typed : String) : Editing (Option (List Completion.Item)) := do
  if !e.isCompletable then return none
  match ← e.index? with
  | none => return none
  | some index => if e.inSnippet then return none else return some (← e.offer index typed)

/-- Shows the documentation of the keyword under the cursor. -/
def showDocumentation (e : Editor) : Editing Unit := do
  let file ← e.openFile
  let index ← e.index?
  let indexes ← e.settings.indexes
  let _ ← e.view.separator
  let tables ← e.settings.tables
  match index with
  | none => pure ()
  | some index =>
    let (keyword, object) ← e.keyword index
    let found ← (Lookup.mk (← get).store tables indexes file).documentation object keyword
    let missing := "No documentation found for keyword: \"" ++ keyword ++ "\""
    let text := if found.truthy then found else .text missing
    ask (.run (.panel "kw_documentation") "append" (.object [("characters", text)]))
    ask (.run .window "show_panel" (.object [("panel", .text "output.kw_documentation")]))

/-- Selects what a pattern finds first in a text. -/
def selectFirst (pattern text : String) : Editing Unit := do
  match ← (← Pattern.compile pattern).find text.toList with
  | none => throw .missingMember
  | some found =>
    ask .clearSelection
    ask (.select found.stop.pos found.start.pos)
    ask (.reveal found.stop.pos found.start.pos)

/-- The text of a file that is opened, empty if there is no such file. -/
def openedText (s : Store) (path : Value) : String :=
  match path with
  | .text p => (s.readRaw p).toOption.getD ""
  | _ => ""

/-- Opens a file and selects what a pattern finds in it. -/
def openAt (place : Place) : Editing Unit := do
  ask (.openFile place.file)
  match place.pattern with
  | some pattern => selectFirst pattern (openedText (← get).store place.file)
  | none => pure ()

/-- Opens the file that the line of the cursor imports. -/
def openImport (e : Editor) (file tables : String) : Editing Unit := do
  match Import.name? e.view.line with
  | none => throw .missingMember
  | some name =>
    ask (.openFile (← Import.target (← get).store (String.ofList name) file tables))

/-- Opens the file with the keyword under the cursor. -/
def openKeyword (e : Editor) (l : Lookup) (extension : Value) (index : String) :
    Editing Unit := do
  let (keyword, object) ← e.keyword index
  if keyword.isEmpty then
    status "Cursor location did not contain keyword or keyword was not found from index."
  else
    let place ← l.place extension object keyword
    if place.file.truthy then openAt place
    else status ("Keyword: \"" ++ keyword ++ "\" is not found from db")

/-- Goes to the imported file or to the definition of the keyword under the cursor. -/
def jump (e : Editor) : Editing Unit := do
  let tables ← e.settings.tables
  let indexes ← e.settings.indexes
  let _ ← e.view.separator
  let extension ← e.settings.get .extension
  let file ← e.openFile
  let index ← e.index?
  if Import.isImport e.view.line then e.openImport file tables
  else
    match index with
    | some index => e.openKeyword ⟨(← get).store, tables, indexes, file⟩ extension index
    | none => status ("File: \"" ++ file ++ "\" is not found from db")

end KeywordCatalog.Editor
