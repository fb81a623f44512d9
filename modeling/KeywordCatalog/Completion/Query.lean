import KeywordCatalog.Document.Access
import KeywordCatalog.Line
import KeywordCatalog.Text.CommonBlock
import KeywordCatalog.Variable

/-!
# What is being completed

The text being typed turned into a query: is it a variable or a keyword, and which pattern must a
name fit to be offered. A keyword fits if it has the typed characters in order, with anything
between them; a variable fits if moreover its sigil and braces are those that were typed. Typed
characters go into the patterns as they are.
-/

namespace KeywordCatalog.Completion

open Text

/-- The pattern for the keywords that are offered. -/
def keywordPattern (typed : String) : String :=
  String.ofList ("(?i)(".toList ++ (typed.toList.flatMap fun c => ['.', '*', c]) ++ [')'])

/-- The pattern for the variables that are offered. -/
def variablePattern (typed : String) : String :=
  let chars := typed.toList
  let body :=
    match chars.length with
    | 1 => ".*".toList
    | 2 => "\\\x7b.*".toList
    | 3 => "\\\x7b.*\\\x7d".toList
    | _ =>
      "\\\x7b.*".toList ++ ((between 2 (-1) chars).flatMap fun c => [c, '.', '*'])
        ++ "\\\x7d".toList
  String.ofList ("(?i)\\".toList ++ chars.take 1 ++ body)

/-- Whether only a variable's sigil has been typed, without a brace. -/
def isBareSigil (typed : String) : Bool := !typed.contains '\x7b'

/-- The first sigil in a text, with the braces right after it. -/
def sigilIn : List Char → Option (List Char)
  | [] => none
  | c :: rest =>
    if Variable.isSigil c then
      match rest with
      | '\x7b' :: '\x7d' :: _ => some [c, '\x7b', '\x7d']
      | '\x7b' :: _ => some [c, '\x7b']
      | '\x7d' :: _ => some [c, '\x7d']
      | _ => some [c]
    else sigilIn rest

/-- What is completed at the cursor, and how much of it stands before the cursor. A variable around
the typed text is completed as a whole; failing that, a sigil next to the cursor; failing that, the
typed text itself. -/
def query (line : String) (column : Int) (typed : String) : Except Fault (String × Nat) := do
  let chars := line.toList
  let word := Line.wordBefore chars column
  let around ← Pattern.compile ("(?i)[\\$\\@\\&]\\\x7b" ++ typed ++ "\\\x7d")
  let completed :=
    match ← around.find (word ++ Line.restFrom chars column) with
    | some m => m.text
    | none => (sigilIn (between (column - 2) (column + 1) chars)).getD typed.toList
  return (String.ofList completed, commonSize word completed)

end KeywordCatalog.Completion
