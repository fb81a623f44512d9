import KeywordCatalog.Document.Writer
import KeywordCatalog.Text.Printable

/-!
# Showing documents

The form in which documents appear inside messages and inserted text. A text on its own is shown as
it is; inside a list or an object, and as the key of a fault, it stands in quotes. Single quotes are
used unless the text has single quotes and no double ones. Characters that cannot be printed are
shown by their codes.
-/

namespace KeywordCatalog.Document

open Text

/-- The last `width` hexadecimal digits of a number. -/
def hexDigits : Nat → Nat → List Char
  | 0, _ => []
  | width + 1, n => hexDigits width (n / 16) ++ [hexChar (n % 16)]

/-- A character as it is shown between quotes of a kind. -/
def showChar (quote c : Char) : List Char :=
  match c with
  | '\\' => ['\\', '\\']
  | '\t' => ['\\', 't']
  | '\n' => ['\\', 'n']
  | '\r' => ['\\', 'r']
  | _ =>
    if c == quote then ['\\', c]
    else if isPrintable c then [c]
    else
      let code := codeOf c
      if code < 0x100 then '\\' :: 'x' :: hexDigits 2 code
      else if code < 0x10000 then '\\' :: 'u' :: hexDigits 4 code
      else '\\' :: 'U' :: hexDigits 8 code

/-- A text in quotes. -/
def showText (s : String) : List Char :=
  let chars := s.toList
  let quote := if chars.contains '\'' && !chars.contains '"' then '"' else '\''
  quote :: (chars.flatMap (showChar quote) ++ [quote])

mutual

/-- A document as a part of another one. -/
def showPart : Value → List Char
  | .null => "None".toList
  | .bool true => "True".toList
  | .bool false => "False".toList
  | .int n => writeInt n
  | .real literal => literal.toList
  | .text s => showText s
  | .list items => '[' :: (showItems items ++ [']'])
  | .object fields => '\x7b' :: (showFields fields ++ ['\x7d'])

/-- The items of a list. -/
def showItems : List Value → List Char
  | [] => []
  | [v] => showPart v
  | v :: rest => showPart v ++ ',' :: ' ' :: showItems rest

/-- The fields of an object. -/
def showFields : List (String × Value) → List Char
  | [] => []
  | [(key, v)] => showText key ++ ':' :: ' ' :: showPart v
  | (key, v) :: rest => showText key ++ ':' :: ' ' :: (showPart v ++ ',' :: ' ' :: showFields rest)

end

end KeywordCatalog.Document

namespace KeywordCatalog

/-- A document as it is shown inside a larger text. -/
def Value.shown : Value → String
  | .text s => s
  | v => String.ofList (Document.showPart v)

/-- A document as it is shown with quotes around texts. -/
def Value.quoted (v : Value) : String := String.ofList (Document.showPart v)

@[simp] theorem Value.shown_text (s : String) : (Value.text s).shown = s := rfl

end KeywordCatalog
