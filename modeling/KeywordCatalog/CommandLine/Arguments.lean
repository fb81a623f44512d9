import KeywordCatalog.CommandLine.Task
import KeywordCatalog.Settings

/-!
# Command lines from settings

The command lines that run the programs which work on the database, as the settings ask for them:
the interpreter, the program, and the words that the program reads.
-/

namespace KeywordCatalog.Settings

open CommandLine

/-- An option with its value. -/
def option (flag : String) (value : Value) : List Value := [.text flag, value]

/-- The words that the two programs have in common at their end. -/
def sharedWords (s : Settings) : Except Fault (List Value) := do
  let markup ← s.get .markupLibraries
  let modules ← (← s.get .moduleSearchPath).elements
  return option markupFlag markup ++ .text modulesFlag :: modules

/-- The words for the program that scans. -/
def scanWords (s : Settings) (mode : Mode) : Except Fault (List Value) := do
  let tables ← s.tables
  let extension ← s.get .extension
  return .text mode.name :: option databaseFlag (.text tables)
    ++ option extensionFlag extension ++ (← s.sharedWords)

/-- The words for the program that indexes. -/
def indexWords (s : Settings) (mode : Mode) : Except Fault (List Value) := do
  let tables ← s.tables
  let indexes ← s.indexes
  return .text mode.name :: option databaseFlag (.text tables)
    ++ option indexesFlag (.text indexes) ++ (← s.sharedWords)

/-- The command line that runs a program with some words. -/
def launch (s : Settings) (program : String) (words : List Value) : Except Fault (List Value) := do
  return (← s.get .interpreter) :: .text program :: words

/-- The command line that scans the workspace. -/
def scanAll (s : Settings) : Except Fault (List Value) := do
  let words ← s.scanWords .all
  s.launch s.package.scanProgram (words ++ option workspaceFlag (← s.get .workspace))

/-- The command line that scans a file. -/
def scanFile (s : Settings) (file : String) : Except Fault (List Value) := do
  let words ← s.scanWords .single
  s.launch s.package.scanProgram (words ++ option fileFlag (.text file))

/-- The command line that makes all indexes. -/
def indexAll (s : Settings) : Except Fault (List Value) := do
  s.launch s.package.indexProgram (← s.indexWords .all)

/-- The command line that makes the index of a table. -/
def indexOne (s : Settings) (table : String) : Except Fault (List Value) := do
  let words ← s.indexWords .single
  s.launch s.package.indexProgram (words ++ option tableFlag (.text table))

end KeywordCatalog.Settings
