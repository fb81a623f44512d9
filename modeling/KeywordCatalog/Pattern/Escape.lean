import KeywordCatalog.Fault
import KeywordCatalog.Pattern.CharTest
import KeywordCatalog.Text.Basic
import KeywordCatalog.Text.CharacterName

/-!
# Escapes and character classes

The written form of a single character or a kind of characters after a backslash, and of a character
class in brackets. A character can be written by its code point or by its name.
-/

namespace KeywordCatalog.Pattern

open Text

/-- A reading that fails. -/
def malformed {α : Type} : Except Fault α := .error .badPattern

/-- A reading that may have failed. -/
def orMalformed {α : Type} (found : Option α) : Except Fault α :=
  match found with
  | some a => .ok a
  | none => malformed

/-- Reads exactly `n` hexadecimal digits after a number read so far. -/
def readHex : Nat → Nat → List Char → Option (Nat × List Char)
  | 0, value, rest => some (value, rest)
  | n + 1, value, c :: rest => (hexDigit? c).bind fun d => readHex n (value * 16 + d) rest
  | _ + 1, _, [] => none

/-- Whether a character is an octal digit. -/
def isOctal (c : Char) : Bool := '0' ≤ c && c ≤ '7'

/-- Reads up to `n` octal digits after a number read so far. -/
def readOctal : Nat → Nat → List Char → Nat × List Char
  | 0, value, rest => (value, rest)
  | _ + 1, value, [] => (value, [])
  | n + 1, value, c :: rest =>
    if isOctal c then readOctal n (value * 8 + (c.toNat - '0'.toNat)) rest else (value, c :: rest)

/-- Reads the name of a character in braces. -/
def readName : List Char → Option (Nat × List Char)
  | '{' :: rest =>
    match cutAt '}' rest with
    | (name, some rest) => (codeNamed? name).map fun code => (code, rest)
    | (_, none) => none
  | _ => none

/-- Whether a letter after a backslash starts the code point or the name of a character. -/
def startsCode (e : Char) : Bool := e == 'x' || e == 'u' || e == 'U' || e == 'N'

/-- The code point of an escape that writes one character by its number or its name, after the
letter `e`. -/
def readCode (e : Char) (rest : List Char) : Option (Nat × List Char) :=
  match e with
  | 'x' => readHex 2 0 rest
  | 'u' => readHex 4 0 rest
  | 'U' => (readHex 8 0 rest).filter fun r => r.1 < 0x110000
  | 'N' => readName rest
  | _ => none

/-- The control character that a letter escapes. -/
def controlCode? (e : Char) : Option Nat :=
  match e with
  | 'a' => some 7
  | 'f' => some 12
  | 'n' => some 10
  | 'r' => some 13
  | 't' => some 9
  | 'v' => some 11
  | '\\' => some 92
  | _ => none

/-- The kind of character that a letter escapes, and whether its complement is meant. -/
def category? (e : Char) : Option (Category × Bool) :=
  match e with
  | 'd' => some (.digit, false)
  | 'D' => some (.digit, true)
  | 's' => some (.blank, false)
  | 'S' => some (.blank, true)
  | 'w' => some (.word, false)
  | 'W' => some (.word, true)
  | _ => none

/-- The largest code point that octal digits can write. -/
def octalLimit : Nat := 255

/-- Reads one member of a character class that starts with `c`. -/
def readMember (narrow : Bool) (c : Char) (rest : List Char) : Option (ClassItem × List Char) :=
  if c != '\\' then some (.char (codeOf c), rest)
  else
    match rest with
    | [] => none
    | 'b' :: rest => some (.char 8, rest)
    | e :: rest =>
      match controlCode? e, category? e with
      | some code, _ => some (.char code, rest)
      | none, some (kind, negated) => some (.category kind narrow negated, rest)
      | none, none =>
        if startsCode e then (readCode e rest).map fun (code, rest) => (.char code, rest)
        else if isOctal e then
          let (code, rest) := readOctal 2 (e.toNat - '0'.toNat) rest
          if octalLimit < code then none else some (.char code, rest)
        else if e.isAlphanum then none
        else some (.char (codeOf e), rest)

/-- Reads the members of a character class up to its closing bracket, given those read so far, the
latest first. A closing bracket that comes first is a member. -/
def readMembers (narrow : Bool) :
    Nat → List ClassItem → List Char → Option (List ClassItem × List Char)
  | 0, _, _ | _ + 1, _, [] => none
  | fuel + 1, items, c :: rest =>
    if c == ']' && !items.isEmpty then some (items.reverse, rest)
    else
      match readMember narrow c rest with
      | none => none
      | some (item, '-' :: rest) =>
        match rest with
        | [] => none
        | ']' :: rest => some ((.char '-'.toNat :: item :: items).reverse, rest)
        | d :: rest =>
          match item, readMember narrow d rest with
          | .char lo, some (.char hi, rest) =>
            if hi < lo then none else readMembers narrow fuel (.range lo hi :: items) rest
          | _, _ => none
      | some (item, rest) => readMembers narrow fuel (item :: items) rest

/-- The test for the members of a class, each of which counts once. -/
def classTest (rule : CaseRule) (negated : Bool) (items : List ClassItem) : CharTest :=
  match items.eraseDups with
  | [.char code] => .letter rule negated code
  | items => .oneOf rule negated items

/-- Reads a character class after its opening bracket. -/
def readClass (rule : CaseRule) (narrow : Bool) (rest : List Char) :
    Option (CharTest × List Char) :=
  let (negated, rest) :=
    match rest with
    | '^' :: rest => (true, rest)
    | _ => (false, rest)
  (readMembers narrow (rest.length + 1) [] rest).map fun (items, rest) =>
    (classTest rule negated items, rest)

end KeywordCatalog.Pattern
