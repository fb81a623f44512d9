import KeywordCatalog.Glob
import KeywordCatalog.Store

/-!
# Finding files

The files below a folder whose names fit an extension. An extension that is not a mask already
stands for the mask of all names that end with it.
-/

namespace KeywordCatalog.Store

/-- The mask of an extension. -/
def maskOf (extension : String) : String :=
  if "*.".toList.isPrefixOf extension.toList then extension else "*." ++ extension

/-- A path with names after it. -/
def joinNames (path : String) (names : List String) : String := names.foldl Path.join path

/-- The files below a folder that have an extension, by their absolute paths. -/
def findFiles (s : Store) (path extension : String) : Except Fault (List String) :=
  let top := Path.absolute s.cwd path
  if !Text.isPathText top.toList then .error .unencodable
  else if top.toList.contains '\x00' then .error .badPath
  else
    let mask := maskOf extension
    let found := (s.filesBelow top).filter fun names => names.getLast?.any (Glob.fits mask)
    .ok (found.map (joinNames top))

end KeywordCatalog.Store
