import KeywordCatalog.Markup.Characters

/-!
# Tokens of declarations

The declarations of a document type are made of tokens: names, quoted texts, keywords and marks.
Dividing characters between them are dropped, but a token has to be followed by a character that can
end it.
-/

namespace KeywordCatalog.Markup

/-- A part of a declaration. -/
inductive Token
  | literal (text : List Char)
  | name (text : String)
  /-- A name in two parts with a colon between them. -/
  | qualified (text : String)
  /-- Letters of names that are no name. -/
  | word
  /-- A name with a mark that tells how often it occurs. -/
  | repeated
  /-- A word after a number sign. -/
  | keyword (text : String)
  | percent
  | comma
  | bar
  | opening
  /-- A closing parenthesis, with a mark that tells how often its group occurs. -/
  | closing (mark : Option Char)
deriving DecidableEq, Repr

/-- Whether a character is one of some marks or divides tokens. -/
def endsAt (marks : List Char) (c : Char) : Bool := isSpace c || marks.contains c

/-- The marks that tell how often a part of an element occurs. -/
def occurrenceMarks : List Char := ['?', '*', '+']

/-- Reads a quoted text after its opening quote. -/
def readLiteral (quote : Char) (text : List Char) : Option (Token × List Char) :=
  match text.dropWhile (· != quote) with
  | _ :: c :: rest =>
    if endsAt ['>', '%', '['] c then some (.literal (text.takeWhile (· != quote)), c :: rest)
    else none
  | _ => none

/-- The token that letters of names and colons make up. -/
def Alphabet.wordToken (a : Alphabet) (run : List Char) : Token :=
  if !run.head?.any a.starts then .word
  else
    match run.count ':' with
    | 0 => .name (String.ofList run)
    | 1 => if run.getLast? == some ':' then .word else .qualified (String.ofList run)
    | _ => .word

/-- Reads a token that is made of letters of names. -/
def Alphabet.readWord (a : Alphabet) (text : List Char) : Option (Token × List Char) :=
  let isPart := fun c => a.continues c || c == ':'
  match text.takeWhile isPart, text.dropWhile isPart with
  | d :: run, c :: rest =>
    let token := a.wordToken (d :: run)
    if occurrenceMarks.contains c then if token == .word then none else some (.repeated, rest)
    else if endsAt ['>', ')', ',', '|', '[', '%'] c then some (token, c :: rest)
    else none
  | _, _ => none

/-- Reads a token. -/
def Alphabet.readToken (a : Alphabet) : List Char → Option (Token × List Char)
  | '"' :: rest => readLiteral '"' rest
  | '\'' :: rest => readLiteral '\'' rest
  | ',' :: rest => some (.comma, rest)
  | '|' :: rest => some (.bar, rest)
  | '(' :: rest => some (.opening, rest)
  | '%' :: c :: rest => if isSpace c then some (.percent, c :: rest) else none
  | ')' :: c :: rest =>
    if occurrenceMarks.contains c then some (.closing (some c), rest)
    else if endsAt ['>', ',', '|', ')'] c then some (.closing none, c :: rest)
    else none
  | '#' :: rest =>
    match a.readName rest with
    | some (name, c :: rest) =>
      if endsAt [')', '>', '%', '|'] c then some (.keyword name, c :: rest) else none
    | _ => none
  | text => a.readWord text

/-- Reads the tokens up to a mark that ends them, at most as many as the first argument, and tells
the mark: the end of a declaration or the start of the inner declarations of a document type. -/
def Alphabet.readTokens (a : Alphabet) : Nat → List Char → Option (List Token × Char × List Char)
  | 0, _ => none
  | fuel + 1, text =>
    match skipSpace text with
    | '>' :: rest => some ([], '>', rest)
    | '[' :: rest => some ([], '[', rest)
    | next =>
      (a.readToken next).bind fun (token, rest) =>
        (a.readTokens fuel rest).map fun (more, mark, rest) => (token :: more, mark, rest)

end KeywordCatalog.Markup
