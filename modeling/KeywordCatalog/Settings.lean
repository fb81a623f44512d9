import KeywordCatalog.Document.Access
import KeywordCatalog.Path
import KeywordCatalog.Text.Case

/-!
# Settings

What can be set for the assistant. A project may have settings of its own, which count before the
preferences of the user. The database of a project is in the folder that the project names, or else
in the folder that the assistant is installed in; tables, indexes and the log have fixed names in
the folder of the database.
-/

namespace KeywordCatalog

/-- The folder that the assistant is installed in. -/
structure Package where
  folder : String
deriving DecidableEq, Repr

namespace Package

/-- The folder of the database if no project names one. -/
def database (p : Package) : String := Path.join p.folder "database"

/-- The folder of the programs that work on the database. -/
def programs (p : Package) : String := Path.join p.folder "dataparser"

/-- The program that scans. -/
def scanProgram (p : Package) : String := Path.join p.programs "run_scanner.py"

/-- The program that indexes. -/
def indexProgram (p : Package) : String := Path.join p.programs "run_index.py"

/-- The folder of the settings. -/
def settings (p : Package) : String := Path.join p.folder "setting"

end Package

namespace Database

/-- The name of the folder of tables. -/
def tablesName : String := "scanner"

/-- The name of the folder of indexes. -/
def indexesName : String := "index"

/-- The name of the log. -/
def logName : String := "scan_index.log"

end Database

/-- What can be set by name. -/
inductive Preference
  | database
  | interpreter
  | workspace
  | extension
  | builtinVariables
  | moduleSearchPath
  | argumentFormat
  | markupLibraries
  | logCommands
  | automaticUpdate
deriving DecidableEq, Repr

/-- The name that a preference is set under. -/
def Preference.name : Preference → String
  | .database => "robot_framework_database_path"
  | .interpreter => "path_to_python"
  | .workspace => "robot_framework_workspace"
  | .extension => "robot_framework_extension"
  | .builtinVariables => "robot_framework_builtin_variables"
  | .moduleSearchPath => "robot_framework_module_search_path"
  | .argumentFormat => "robot_framework_keyword_argument_format"
  | .markupLibraries => "robot_framework_libraries_in_xml"
  | .logCommands => "robot_framework_log_commands"
  | .automaticUpdate => "robot_framework_automatic_database_update"

/-- The settings of a project and the preferences of the user. -/
structure Settings where
  package : Package
  project : Value := .null
  preferences : List (String × Value) := []

namespace Settings

/-- The part of a project's data that is for the assistant. -/
def projectKey : String := "robot_framework_assistant"

/-- What a project sets under a name, null if it sets nothing. -/
def inProject (s : Settings) (name : String) : Except Fault Value := do
  if !s.project.truthy then return .null
  if ← s.project.has projectKey then
    let own ← s.project.field projectKey
    if ← own.has name then own.field name else return .null
  else return .null

/-- What is set under a name: in the project if that is anything, else in the preferences. -/
def value (s : Settings) (name : String) : Except Fault Value := do
  let own ← s.inProject name
  if own.truthy then return own else return (s.preferences.lookup name).getD .null

/-- What is set for a preference. -/
def get (s : Settings) (p : Preference) : Except Fault Value := s.value p.name

/-- A place in the database of the project. -/
def inDatabase (s : Settings) (name : String) : Except Fault String := do
  let own ← s.inProject Preference.database.name
  if own.truthy then return Path.join (← own.textOnly) name
  else return Path.join s.package.database name

/-- The folder of tables. -/
def tables (s : Settings) : Except Fault String := s.inDatabase Database.tablesName

/-- The folder of indexes. -/
def indexes (s : Settings) : Except Fault String := s.inDatabase Database.indexesName

/-- The log of the programs that work on the database. -/
def log (s : Settings) : Except Fault String := s.inDatabase Database.logName

/-- The folder of views. A database has none, so this fails after the project has been asked. -/
def views (s : Settings) : Except Fault String := do
  let _ ← s.inProject Preference.database.name
  throw .missingMember

/-- What a name stands for: a place of the database or a program, in upper or lower case, or what is
set under that name. -/
def named (s : Settings) (name : String) : Except Fault Value :=
  match String.ofList (Text.lower name.toList) with
  | "table_dir" => s.tables.map .text
  | "index_dir" => s.indexes.map .text
  | "scanner_runner" => .ok (.text s.package.scanProgram)
  | "index_runner" => .ok (.text s.package.indexProgram)
  | "log_file" => s.log.map .text
  | _ => s.value name

end Settings

end KeywordCatalog
