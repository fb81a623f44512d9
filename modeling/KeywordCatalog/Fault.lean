import KeywordCatalog.Document.Value

/-!
# Faults

The causes for which an operation of the catalog can fail, and the wording of those that come with
one. A fault is one of three families as far as recovery goes: *data faults* (`Fault.isData`), on
which a scan goes on with its next item, *storage faults* (`Fault.isStorage`), on which a table is
looked for under a similar name, and all others, which end what was asked for.
-/

namespace KeywordCatalog

/-- What can be wrong with a place in the store. -/
inductive StorageFault
  | absent
  | isFolder
  | notFolder
  | occupied
  | nameTooLong
  /-- A folder cannot be removed where it is used. -/
  | inUse
deriving DecidableEq, Repr

/-- Why the catalog refuses to go on with some data. -/
inductive Refusal
  | queueType (shown : String)
  | importType (shown : String)
  | noSimilarTable (path : String)
  | noFile (path : String)
  | unknownLibrary
  | noLibrary (name : String)
  | notLibrary (name : String)
  | scanFailed (code : String)
  | indexFailed (code : String)
  | workspaceNeeded (mode : String)
  | extensionNeeded (mode : String)
  | fileNeeded (mode : String)
  /-- A table has neither a module name nor a file name. -/
  | nameless
  /-- An item of the queue is of no known type. -/
  | notRobotData
deriving DecidableEq, Repr

/-- The text that a refusal is reported with, if it has one. -/
def Refusal.message? : Refusal → Option String
  | .queueType shown => some ("Invalid rf_type: " ++ shown)
  | .importType shown => some ("Invalid import_type: " ++ shown)
  | .noSimilarTable path => some ("Could not locate similar table to: " ++ path)
  | .noFile path => some ("File does not exist: " ++ path)
  | .unknownLibrary => some "Unknown library"
  | .noLibrary name => some ("Library does not exist: " ++ name)
  | .notLibrary name => some ("XML file is not library: " ++ name)
  | .scanFailed code => some ("Error in scanning result code: " ++ code)
  | .indexFailed code => some ("Error in indexing, result code: " ++ code)
  | .workspaceNeeded mode => some ("--workspace is needed with mode: " ++ mode)
  | .extensionNeeded mode => some ("--extension is needed with mode: " ++ mode)
  | .fileNeeded mode => some ("--path_to_file is needed with mode: " ++ mode)
  | .nameless | .notRobotData => none

/-- Why an operation failed. -/
inductive Fault
  /-- A value is of a kind that the operation is not made for. -/
  | wrongKind
  | missingKey (key : Value)
  | outOfRange
  /-- A value has no member of the name asked for. -/
  | missingMember
  /-- A result was used before anything had been put there. -/
  | unset
  | badDocument
  /-- A document or a pattern has too many levels. -/
  | tooDeep
  /-- A number has too many digits. -/
  | numberTooLong
  /-- A number is too large for what it counts or names. -/
  | numberTooLarge
  /-- A text that is to be written as bytes holds half of a pair. -/
  | unencodable
  | badEncoding
  | badMarkup
  /-- A document names an encoding that is not known. -/
  | unknownEncoding
  /-- A document names an encoding in which several bytes make up a character. -/
  | wideEncoding
  /-- A document names an encoding that is read whole or not at all. -/
  | strictEncoding
  | badPattern
  /-- A pattern asks for options that exclude each other. -/
  | clashingOptions
  /-- A match left a group that ends before it starts. -/
  | tangledMatch
  | badPath
  | refused (why : Refusal)
  | workspaceAbsent (path : String)
  | workspaceNotFolder (path : String)
  | storage (cause : StorageFault)
  /-- The test framework could not make sense of its input. -/
  | framework
  /-- The command line ends the program with a code. -/
  | exit (code : Nat)
deriving DecidableEq, Repr

namespace Fault

/-- Whether a fault lies in the data at hand, so that the next item can be gone on with. -/
def isData : Fault → Bool
  | .refused _ | .badDocument | .numberTooLong | .unencodable | .badEncoding | .wideEncoding
  | .strictEncoding | .badPath | .clashingOptions => true
  | _ => false

/-- Whether a fault comes from the store. -/
def isStorage : Fault → Bool
  | .storage _ | .workspaceAbsent _ | .workspaceNotFolder _ => true
  | _ => false

end Fault

end KeywordCatalog
