import KeywordCatalog.CommandLine.Arguments
import KeywordCatalog.Editor.Session

/-!
# Keeping the database up to date

The commands that start the programs which scan and index, for the whole workspace or for the open
file. Each of them makes the folder of the log first. A program that ends with another code than
zero makes the command fail. Before an index is made, the table of the library that every suite uses
gets the variables that are always there.
-/

namespace KeywordCatalog

/-- Whether a file belongs to a workspace: its path starts with that of the workspace and ends with
the extension. -/
def inWorkspace (file workspace extension : String) : Bool :=
  extension.toList.isSuffixOf file.toList && workspace.toList.isPrefixOf file.toList

namespace Editing

/-- Makes the folder of a log. -/
def makeLogFolder (log : String) : Editing Unit :=
  onStore (Store.makeFolder (Path.parent log) true)

/-- Opens a log to write at its end. -/
def openLog (log : String) : Editing Unit := onStore (Store.update (·.touch log))

/-- Empties a log. -/
def clearLog (log : String) : Editing Unit := onStore (Store.update (·.write log ""))

/-- A table with variables. -/
def withVariables (table varNames : Value) : Except Fault Value :=
  match table with
  | .object fields => .ok (.object (Ordered.put "variables" varNames fields))
  | _ => .error .wrongKind

end Editing

namespace Editor

open Editing

/-- Puts the variables that are always there into the table of the library that every suite
uses. -/
def addBuiltinVariables (e : Editor) (tables : String) : Editing Unit := do
  let path := Path.join tables (← TableName.ofLibrary "BuiltIn")
  let table ← (← get).store.readDocument path
  let varNames ← e.settings.get .builtinVariables
  let changed ← withVariables table varNames
  onStore (Store.update (·.write path changed.renderIndented))

/-- Starts a program and waits for it. -/
def launch (e : Editor) (arguments : List Value) : Editing Unit :=
  ask (.launch arguments e.windowless)

/-- The code that a program ended with, as a text. -/
def exitText (e : Editor) : String := (Value.int e.exitCode).shown

/-- Reports the end of a scan. -/
def endScan (e : Editor) : Editing Unit := do
  if e.exitCode != 0 then throw (.refused (.scanFailed e.exitText))
  status ("Scaning done with rc: " ++ e.exitText)

/-- Reports the end of an index. -/
def endIndex (e : Editor) : Editing Unit := do
  if e.exitCode != 0 then throw (.refused (.indexFailed e.exitText))
  status ("Indexing done with rc: " ++ e.exitText)

/-- Scans the workspace. -/
def scan (e : Editor) : Editing Unit := do
  let log ← e.settings.log
  makeLogFolder log
  openLog log
  e.launch (← e.settings.scanAll)
  e.endScan

/-- Scans the workspace and makes all indexes. -/
def scanAndIndex (e : Editor) : Editing Unit := do
  let log ← e.settings.log
  let tables ← e.settings.tables
  makeLogFolder log
  ask (.run .view "scan" .null)
  clearLog log
  e.addBuiltinVariables tables
  e.launch (← e.settings.indexAll)
  e.endIndex

/-- The open file, if it belongs to the workspace. -/
def fileToScan? (e : Editor) : Except Fault (Option String) := do
  let workspace ← (← e.settings.get .workspace).textOnly
  match e.view.file with
  | none => throw .wrongKind
  | some file =>
    let extension ← (← e.settings.get .extension).textOnly
    return if inWorkspace file workspace extension then some file else none

/-- Scans the open file. -/
def scanOpenFile (e : Editor) : Editing Unit := do
  let log ← e.settings.log
  makeLogFolder log
  match ← e.fileToScan? with
  | some file =>
    openLog log
    e.launch (← e.settings.scanFile file)
    e.endScan
  | none => status ("Not able to scan file: " ++ (Value.ofText? e.view.file).shown)

/-- Puts a failed index into the status bar. -/
def showIndexFailure (e : Editor) : Editing Unit := do
  if e.exitCode != 0 then
    match (Refusal.indexFailed e.exitText).message? with
    | some message => status message
    | none => pure ()

/-- Makes the index of the open file. -/
def indexOpenFile (e : Editor) : Editing Unit := do
  let log ← e.settings.log
  makeLogFolder log
  match e.view.file with
  | none | some "" => status "Not able to index because no tabs are active"
  | some file =>
    let table ← TableName.ofPath (Path.tidy (← get).store.cwd file)
    e.addBuiltinVariables (← e.settings.tables)
    openLog log
    e.launch (← e.settings.indexOne table)
    e.showIndexFailure
    e.endIndex

/-- Scans and indexes the open file, by commands of their own. -/
def updateOpenFile (_ : Editor) : Editing Unit := do
  ask (.run .view "scan_open_tab" .null)
  ask (.run .view "index_open_tab" .null)

/-- Updates the database after the open file was saved, if the settings ask for it. -/
def saved (e : Editor) : Editing Unit := do
  if (← e.settings.get .automaticUpdate).truthy then e.updateOpenFile

/-- Opens the log. -/
def openLogFile (e : Editor) : Editing Unit := do
  ask (.openFile (.text (← e.settings.log)))

/-- Lets the editor log its commands, or not. -/
def setCommandLog (e : Editor) : Editing Unit := do
  let on := (← e.settings.get .logCommands).truthy
  ask (.logCommands on)
  status (if on then "log_commands is enabled" else "log_commands is disabled")

end Editor

end KeywordCatalog
