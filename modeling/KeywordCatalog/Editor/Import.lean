import KeywordCatalog.Editor.Session
import KeywordCatalog.Import.Suggestion
import KeywordCatalog.Import.Target

/-!
# Completing imports

The command that offers what can be imported for an import line that is waiting for its name, and
the command that inserts what was chosen: the path from the folder of the open file if there is such
a file, else the name itself.
-/

namespace KeywordCatalog.Editor

open Editing

/-- Hands the chosen item of a list on to be inserted at the cursor. -/
def insertChosen (e : Editor) (items : List Value) (choice : Int) : Editing Unit := do
  let item ← (Value.list items).item choice
  ask (.run .view "insert_import"
    (.object [("args", .object [("select", item), ("point", .int e.view.cursor)])]))

/-- Offers what can be imported on the line of the cursor. -/
def suggestImports (e : Editor) : Editing Unit := do
  let tables ← e.settings.tables
  match Import.openKind? e.view.line with
  | none =>
    status ("Cursor should have been in settings table Resource, Library or Variables import, "
      ++ "but it was not")
  | some kind =>
    let items ← Import.suggestions (← get).store tables kind
    ask (.choose items)
    match e.choice with
    | some choice => e.insertChosen items choice
    | none => pure ()

/-- The text to insert for the import of a file that is there. -/
def importText (e : Editor) (s : Store) (path : Value) : Except Fault Value :=
  match e.view.file with
  | none => .error .wrongKind
  | some file => path.textOnly.map fun p => .text (Import.relativeName s p file)

/-- Inserts an import that was chosen. -/
def insertImport (e : Editor) (arguments : Value) : Editing Unit := do
  let path ← (← arguments.field "select").item 1
  let store := (← get).store
  let text ← if ← store.hasNamed path then e.importText store path else pure path
  ask (.insert (← arguments.field "point") text)

end KeywordCatalog.Editor
