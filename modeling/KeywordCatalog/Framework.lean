import KeywordCatalog.Fault

/-!
# What the test framework knows

The test framework reads suites and resources, documents libraries, evaluates variable files and
imports library code. Its answers are taken as given here: each of them is looked up by the path or
name that is asked for, and a look-up without an answer is the framework's own fault.
-/

namespace KeywordCatalog

/-- A keyword as the framework reports it. -/
structure KeywordInfo where
  name : Value
  arguments : Value
  documentation : Value
  tags : Value
deriving DecidableEq, Repr

/-- An import setting of a suite or resource. -/
structure ImportInfo where
  kind : Value
  name : Value
  byname : Value
  arguments : Value
deriving DecidableEq, Repr

/-- What a suite, resource or folder holds. A variable without a name is null. -/
structure Model where
  keywords : List KeywordInfo := []
  varNames : List Value := []
  imports : List ImportInfo := []
deriving DecidableEq, Repr

/-- A class in which a function may be defined: its source file, and whether it defines a function
of that name itself. -/
structure ClassInfo where
  file : String
  defines : Bool
deriving DecidableEq, Repr

/-- An attribute of library code. -/
inductive Attribute
  /-- A function with its source file, the keyword name given to it, and the classes in which it is
  looked up, the most derived first. -/
  | function (file : String) (keywordName : Option Value) (classes : Option (List ClassInfo))
  /-- Something that cannot be called. -/
  | value
  /-- Something that can be called and has no source. -/
  | builtin
  /-- Something with a source file outside the store. -/
  | outside (file : String)
deriving DecidableEq, Repr

/-- The answers of the test framework. -/
structure Framework where
  resources : List (String × Model) := []
  suites : List (String × Model) := []
  folders : List (String × Model) := []
  libraries : List (String × List KeywordInfo) := []
  variableFiles : List (String × List Value) := []
  code : List (String × List (String × Attribute)) := []
deriving Repr

namespace Framework

/-- An answer, or the framework's fault if there is none. -/
def answer {α : Type} (answers : List (String × α)) (asked : String) : Except Fault α :=
  match answers.lookup asked with
  | some found => .ok found
  | none => .error .framework

/-- The attributes of library code; unknown code has none of its own. -/
def attributesOf (f : Framework) (name : String) : List (String × Attribute) :=
  (f.code.lookup name).getD []

end Framework

/-- The names that every class knows, whatever it is made for. -/
def commonMembers : List String :=
  ["__class__", "__delattr__", "__dir__", "__doc__", "__eq__", "__format__", "__ge__",
   "__getattribute__", "__getstate__", "__gt__", "__hash__", "__init__", "__init_subclass__",
   "__le__", "__lt__", "__ne__", "__new__", "__reduce__", "__reduce_ex__", "__repr__",
   "__setattr__", "__sizeof__", "__str__", "__subclasshook__"]

/-- The file that defines what imported code is an object of. -/
def codeClassFile : String := "/usr/local/lib/python3.11/types.py"

/-- An attribute of imported code. Besides its own attributes it has its class, a list of its own
attributes, which counts for nothing when there are none, and the members that every class knows; it
has no hash. -/
def codeAttribute? (code : List (String × Attribute)) (name : String) : Option Attribute :=
  if name == "__class__" then some (.outside codeClassFile)
  else if name == "__dict__" then (if code.isEmpty then none else some .value)
  else
    match code.lookup name with
    | some found => some found
    | none => if name != "__hash__" && commonMembers.contains name then some .builtin else none

/-- Whether a class of some classes, most derived first, has a member of its own: every class has a
module and a documentation, and the last one what all objects are given. -/
def ClassInfo.hasMember (c : ClassInfo) (last : Bool) (name : String) : Bool :=
  c.defines || name == "__module__" || name == "__doc__"
    || (last && (name == "__dict__" || name == "__weakref__"))

/-- The first of some classes that has a member of its own. -/
def definingClass? (name : String) : List ClassInfo → Option ClassInfo
  | [] => none
  | c :: rest => if c.hasMember rest.isEmpty name then some c else definingClass? name rest

/-- The libraries that come with the framework. -/
def standardLibraries : List String :=
  ["BuiltIn", "Collections", "DateTime", "Dialogs", "Easter", "OperatingSystem", "Process",
   "Remote", "Reserved", "Screenshot", "String", "Telnet", "XML"]

end KeywordCatalog
