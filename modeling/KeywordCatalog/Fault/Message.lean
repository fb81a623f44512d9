import KeywordCatalog.Document.Display
import KeywordCatalog.Fault

/-!
# The wording of faults

The text that a fault is reported with. Most faults have none: their cause says everything.
-/

namespace KeywordCatalog

/-- The text that a fault is reported with, if it has one. -/
def Fault.message? : Fault → Option String
  | .missingKey key => some key.quoted
  | .refused why => why.message?
  | .workspaceAbsent path => some ("Workspace does not exist: " ++ path)
  | .workspaceNotFolder path => some ("Workspace must be folder: " ++ path)
  | .exit code => some (toString code)
  | _ => none

end KeywordCatalog
