import KeywordCatalog.Document.Access
import KeywordCatalog.Framework
import KeywordCatalog.Markup.Reader
import KeywordCatalog.Store
import KeywordCatalog.Table.Content

/-!
# Building tables

The table of a suite or resource, of a variable file and of a library, from what is stored and what
the test framework says of it. Import names are resolved against the folder of the importing file.

A builder remembers the path of the last suite, resource or variable file that it was asked for, and
collects a notice for every resource import that leads to no file.
-/

namespace KeywordCatalog

/-- What is stored, and what the test framework says of it. -/
structure World where
  store : Store
  framework : Framework

/-- What a builder keeps between tables. -/
structure Builder where
  lastPath : Option String := none
  /-- The notices given, the latest last. -/
  notices : List String := []
deriving DecidableEq, Repr

/-- Work of a builder, which may fail and still leaves its traces. -/
abbrev Building := ExceptT Fault (StateM Builder)

namespace Building

/-- Remembers the path that is worked on. -/
def visit (path : String) : Building Unit := modify fun b => { b with lastPath := some path }

/-- Gives a notice. -/
def notify (notice : String) : Building Unit :=
  modify fun b => { b with notices := b.notices ++ [notice] }

end Building

/-- Whether a text ends with another one. -/
def endsWith (text ending : String) : Bool := ending.toList.isSuffixOf text.toList

namespace World

/-- The spelling under which a file is known. -/
def tidy (w : World) (path : String) : String := Path.tidy w.store.cwd path

/-- The keywords of a suite or resource by their keys. -/
def userKeywords (all : List KeywordInfo) : Except Fault (List (String × UserKeyword)) :=
  all.foldlM (fun found k => do
    let name ← k.name.asText
    let key := String.ofList (keywordKey name.toList)
    return Ordered.put key ⟨name, k.arguments, k.documentation, k.tags⟩ found) []

/-- The import of a library by a file in the folder `folder`. A library that is named by a file of
code lies in that folder unless the name itself leads to a file. -/
def libraryImport (w : World) (folder : String) (i : ImportInfo) : Except Fault LibraryImport := do
  let name ← i.name.asText
  if endsWith name ".py" then
    if w.store.hasFile name then
      return ⟨Path.name name, i.byname, i.arguments, some (w.tidy name)⟩
    else
      let path := Path.absolute w.store.cwd (Path.join folder name)
      return ⟨Path.name path, i.byname, i.arguments, some path⟩
  else return ⟨name, i.byname, i.arguments, none⟩

/-- The path of a resource that is imported by the file at `path`. -/
def resourcePath (w : World) (path name : String) : String :=
  if Path.isAbsolute name then name else w.tidy (Path.join (Path.parent path) name)

/-- The notice that an imported resource is not there. -/
def missingNotice (path name : String) : String :=
  "Import failure on file: " ++ path ++ ", could not locate: " ++ name ++ "\n"

/-- The resource that is imported by the file at `path`. -/
def resourceImport (w : World) (path : String) (i : ImportInfo) : Building String := do
  let name ← i.name.textOnly
  let found := w.resourcePath path name
  if !Path.isAbsolute name && !w.store.hasFile found then
    Building.notify (missingNotice path name)
  return found

/-- The variable file that is imported by the file at `path`. -/
def variableImport (w : World) (path : String) (i : ImportInfo) : Except Fault VariableImport := do
  let name ← i.name.textOnly
  return ⟨w.tidy (Path.join (Path.parent path) name), i.arguments⟩

/-- A table with one more import of the file at `path`. Imports of other kinds are passed over. -/
def addImport (w : World) (path : String) (t : RobotTable) (i : ImportInfo) :
    Building RobotTable := do
  if i.kind == .text "Library" then
    let found ← w.libraryImport (Path.parent (w.tidy path)) i
    return { t with libraries := t.libraries ++ [found] }
  else if i.kind == .text "Resource" then
    let found ← w.resourceImport path i
    return { t with resources := t.resources ++ [found] }
  else if i.kind == .text "Variables" then
    let found ← w.variableImport path i
    return { t with variableFiles := t.variableFiles ++ [found] }
  else return t

/-- The table of the suite or resource at `path` with a model. -/
def robotTable (w : World) (path : String) (model : Model) : Building RobotTable := do
  let keywords ← userKeywords model.keywords
  let start : RobotTable :=
    { fileName := Path.name path, filePath := w.tidy path, keywords,
      varNames := model.varNames.filter (· != .null), resources := [], libraries := [],
      variableFiles := [] }
  model.imports.foldlM (w.addImport path) start

/-- The mark of a file that stands for its folder. -/
def folderMark : String := "__init__."

/-- Fails unless something is at a path. -/
def needPath (w : World) (path : String) : Except Fault Unit :=
  if w.store.has path then .ok () else .error (.refused (.noFile path))

/-- The model of a resource. A file that stands for its folder has the folder's model. -/
def resourceModel (w : World) (path : String) : Except Fault Model :=
  if Text.contains folderMark.toList path.toList then
    Framework.answer w.framework.folders (Path.parent path)
  else Framework.answer w.framework.resources path

/-- The table of a resource. -/
def buildResource (w : World) (path : String) : Building RobotTable := do
  Building.visit path
  w.needPath path
  w.robotTable path (← w.resourceModel path)

/-- The table of a suite. -/
def buildSuite (w : World) (path : String) : Building RobotTable := do
  Building.visit path
  w.needPath path
  w.robotTable path (← Framework.answer w.framework.suites path)

/-- The table of a file that may be a resource or a suite: a suite if the framework does not take it
for a resource. -/
def buildRobot (w : World) (path : String) : Building RobotTable :=
  tryCatch (w.buildResource path) fun fault =>
    if fault == .framework then w.buildSuite path else throw fault

/-- The table of a suite or resource that is named by a document. Only a text leads to one. -/
def buildRobotNamed (w : World) (v : Value) : Except Fault RobotTable := do
  match v with
  | .text path => ((w.buildRobot path).run {}).1
  | _ => if ← w.store.hasNamed v then throw .wrongKind else throw (.refused (.noFile v.shown))

/-- The number that a document counts as. -/
def number? : Value → Option Int
  | .int n => some n
  | .bool b => some (Value.ofTruth b)
  | _ => none

/-- Whether a text comes before another one by its code points, or is the same. -/
def codesBefore (a b : String) : Bool :=
  !decide (b.toList.map Text.codeOf < a.toList.map Text.codeOf)

/-- The names of variables in order. Several names can be put in order if all are texts or all are
numbers. -/
def sortNames (names : List Value) : Except Fault (List Value) :=
  match names with
  | [] | [_] => .ok names
  | _ =>
    if names.all fun v => (number? v).isSome then
      .ok (names.mergeSort fun a b => (number? a).getD 0 ≤ (number? b).getD 0)
    else do
      let texts ← names.mapM Value.textOnly
      return (texts.mergeSort codesBefore).map .text

/-- The table of a variable file. A file that the framework cannot evaluate has no variables. -/
def buildVariables (w : World) (path : String) : Building VariableTable := do
  Building.visit path
  let names := (w.framework.variableFiles.lookup path).getD []
  return ⟨Path.name path, w.tidy path, ← sortNames names⟩

/-- The table of a variable file that is named by a document. Only a text is a path. -/
def buildVariablesNamed (w : World) (v : Value) : Except Fault VariableTable := do
  ((w.buildVariables (← v.textOnly)).run {}).1

/-- The folder that stands for folders of a test run. -/
def scratchFolder : String := "/tmp/TMPDIR"

/-- The variables that stand for folders of a test run. -/
def runFolders : List String := ["$\x7b/\x7d", "$\x7bOUTPUT_DIR\x7d", "$\x7bEXECDIR\x7d"]

/-- Whether one of some texts is part of a document, looked for in turn. -/
def hasOneOf (v : Value) : List String → Except Fault Bool
  | [] => .ok false
  | part :: rest => do if ← v.has part then return true else hasOneOf v rest

/-- The arguments of a library with a real folder in place of those of a test run. -/
def concreteArguments (arguments : List Value) : Except Fault (List Value) :=
  arguments.mapM fun a => do
    return if ← hasOneOf a runFolders then .text scratchFolder else a

/-- The name by which the framework documents a library with arguments. -/
def libraryQuery (library : String) (arguments : List Value) : Except Fault String := do
  return (← concreteArguments arguments).foldl (fun query a => query ++ "::" ++ a.shown) library

/-- The name by which the framework imports the code of a library. -/
def codeName (library : String) : String :=
  if standardLibraries.contains library then "robot.libraries." ++ library else library

/-- A document as a key to look something up by. Lists and objects cannot be keys. -/
def lookupKey (v : Value) : Except Fault Value :=
  match v with
  | .list _ | .object _ => .error .wrongKind
  | _ => .ok v

/-- The functions to which code gives keyword names, by those names. -/
def namedFunctions (code : List (String × Attribute)) : Except Fault (List (Value × String)) :=
  code.foldlM (fun found (name, member) =>
    match member with
    | .function _ (some keyword) _ => do return Ordered.put (← lookupKey keyword) name found
    | _ => .ok found) []

/-- The file with the source of what a file of code holds: a compiled file has its source beside it,
a file of machine code has none. -/
def sourceOf (file : String) : Option String :=
  if endsWith file ".pyc" then some (Path.withoutExtension file ++ ".py")
  else if endsWith file ".so" then none
  else some file

/-- The source of a file of code, if it is there. -/
def sourceFile (w : World) (file : String) : Option String :=
  ((sourceOf file).filter w.store.has).map w.tidy

/-- The source file of the attribute with a name: that of the first class that defines it, or its
own. What every class knows has no source, nor has a class without a file. -/
def attributeFile (w : World) (name : String) : Attribute → Except Fault (Option String)
  | .function file _ none => .ok (w.sourceFile file)
  | .function file _ (some classes) =>
    match definingClass? name classes with
    | some c => if c.file.isEmpty then .error .wrongKind else .ok (w.sourceFile c.file)
    | none => if commonMembers.contains name then .error .wrongKind else .ok (w.sourceFile file)
  | .outside file => .ok (some file)
  | .value | .builtin => .error .wrongKind

/-- The source file of the function that a keyword is made from. -/
def keywordFile (w : World) (code : List (String × Attribute)) (function : String) :
    Except Fault (Option String) :=
  let name := String.ofList (keywordKey function.toList)
  match codeAttribute? code name with
  | some found => w.attributeFile name found
  | none => .ok none

/-- A library keyword with its source, the functions with keyword names being known. -/
def libraryKeyword (w : World) (code : List (String × Attribute)) (named : List (Value × String))
    (k : KeywordInfo) : Except Fault LibraryKeyword := do
  let tags ← k.tags.elements
  let file (function : String) : Except Fault (Option String) := w.keywordFile code function
  match named.lookup (← lookupKey k.name) with
  | some function =>
    let source ← file function
    return ⟨← k.name.asText, k.arguments, k.documentation, tags, source⟩
  | none =>
    let name ← k.name.asText
    return ⟨name, k.arguments, k.documentation, tags, ← file name⟩

/-- The keywords of a library that the framework documents. -/
def codeKeywords (w : World) (library : String) (arguments : List Value) :
    Except Fault (List (String × LibraryKeyword)) := do
  let query ← libraryQuery library arguments
  match w.framework.libraries.lookup query with
  | none => throw (.refused (.noLibrary library))
  | some all =>
    let code := w.framework.attributesOf (codeName library)
    let named ← namedFunctions code
    all.foldlM (fun found k => do
      let keyword ← w.libraryKeyword code named k
      return Ordered.put (String.ofList (keywordKey keyword.name.toList)) keyword found) []

/-- The value of an attribute that must be there. -/
def needAttribute (e : Markup.Element) (name : String) : Except Fault String :=
  match e.attribute? name with
  | some value => .ok value
  | none => .error (.missingKey (.text name))

/-- The keyword that an element describes. -/
def markupKeyword (e : Markup.Element) : Except Fault LibraryKeyword := do
  let name ← needAttribute e "name"
  match e.child? "doc" with
  | none => throw .missingMember
  | some doc =>
    let texts (parent child : String) : List Value :=
      (e.grandchildren parent child).map fun d => Value.ofText? d.text
    return ⟨name, .list (texts "arguments" "arg"), Value.ofText? doc.text, texts "tags" "tag", none⟩

/-- The markup document in the file at a path. -/
def readMarkup (w : World) (path : String) : Except Fault Markup.Element := do
  Markup.Element.parse (← w.store.readRaw path)

/-- The name and the keywords of a library that is described in markup. -/
def markupLibrary (w : World) (path : String) :
    Except Fault (String × List (String × LibraryKeyword)) := do
  let root ← w.readMarkup path
  if root.attribute? "type" == some "library" then
    let name ← needAttribute root "name"
    let keywords ← (root.childrenNamed "kw").foldlM (fun found e => do
      let keyword ← markupKeyword e
      return Ordered.put (String.ofList (keywordKey keyword.name.toList)) keyword found) []
    return (name, keywords)
  else throw (.refused (.notLibrary (← needAttribute root "name")))

/-- The arguments of a library as a list; anything that does not count as true stands for none. -/
def argumentList (arguments : Value) : Except Fault (List Value) :=
  if arguments.truthy then arguments.elements else .ok []

/-- The table of a library, which is a file with its description, a file with its code, or a module
that the framework finds by its name. -/
def buildLibrary (w : World) (library : String) (arguments : Value) :
    Except Fault LibraryTable := do
  let arguments ← argumentList arguments
  if w.store.hasFile library then
    let filePath := some (w.tidy library)
    if endsWith library ".xml" then
      let (moduleName, keywords) ← w.markupLibrary library
      return { moduleName, arguments, filePath, fileName := none, keywords }
    else if endsWith library ".py" then
      let fileName := Path.name library
      let keywords ← w.codeKeywords library arguments
      return { moduleName := Path.stem fileName, arguments, filePath, fileName := some fileName,
               keywords }
    else throw (.refused .unknownLibrary)
  else
    let keywords ← w.codeKeywords library arguments
    return { moduleName := library, arguments, filePath := none, fileName := none, keywords }

/-- The table of a library whose name is a document. Only texts lead to files and libraries. -/
def buildLibraryNamed (w : World) (library arguments : Value) : Except Fault LibraryTable := do
  match library with
  | .text name => w.buildLibrary name arguments
  | _ =>
    let _ ← argumentList arguments
    let _ ← w.store.hasNamed library
    throw (.refused (.noLibrary library.shown))

end World

end KeywordCatalog
