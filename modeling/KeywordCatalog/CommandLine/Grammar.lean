import KeywordCatalog.Fault
import KeywordCatalog.Ordered
import KeywordCatalog.Text.Basic
import KeywordCatalog.Text.Word

/-!
# Command lines

The words after the name of a program: one mode, and options that start with two dashes. An option
takes the word after it or all plain words after it, as its `Arity` says, or a value that is written
after an equals sign. It may be shortened as long as only one option starts that way. After a
divider `--` every word is plain. A command line that does not fit ends the program with code 2, and
a request for help with code 0.

Words are first told apart (`Grammar.word`) and then taken one by one (`Arguments.take`).
-/

namespace KeywordCatalog.CommandLine

open Text

/-- How many words an option takes. -/
inductive Arity
  | one
  | many
deriving DecidableEq, Repr

/-- An option of a program. -/
structure Flag where
  name : String
  arity : Arity := .one
  required : Bool := false
deriving DecidableEq, Repr

/-- The options of a program. -/
abbrev Grammar := List Flag

/-- What an option means. -/
inductive Meaning
  | help
  | flag (f : Flag)
deriving DecidableEq, Repr

/-- A word of a command line. -/
inductive Word
  | plain (text : String)
  | divider
  | option (name : String) (meaning : Meaning) (value : Option String)
  | unknown
deriving DecidableEq, Repr

/-- The way out of a command line that does not fit. -/
def wrongUse : Fault := .exit 2

/-- The way out after help was given. -/
def helpGiven : Fault := .exit 0

/-- The word that makes all words after it plain. -/
def dividerText : String := "--"

/-- The short request for help. -/
def shortHelp : String := "-h"

/-- Whether a text is all decimal digits, with at least one of them. -/
def isDigits (text : List Char) : Bool := !text.isEmpty && text.all isDecimal

/-- Whether a text after a dash makes a number: digits, or digits after a point that may have digits
before it. A line break may end it. -/
def isNumber (text : List Char) : Bool :=
  let text := dropFinalBreak text
  isDigits text
    || (match cutAt '.' text with
        | (whole, some rest) => whole.all isDecimal && isDigits rest
        | (_, none) => false)

/-- A text at its first equals sign: the name before it and the value after it. -/
def nameAndValue (text : List Char) : String × Option String :=
  let (name, value) := cutAt '=' text
  (String.ofList name, value.map String.ofList)

namespace Grammar

/-- The names of the options with what they mean. -/
def meanings (g : Grammar) : List (String × Meaning) :=
  (shortHelp, .help) :: ("--help", .help) :: g.map fun f => (f.name, .flag f)

/-- The options that a text may stand for: options that start that way, or the short request for
help with a value written to it. -/
def candidates (g : Grammar) (text : List Char) : List Word :=
  match text with
  | '-' :: '-' :: _ =>
    let (name, value) := nameAndValue text
    (g.meanings.filter fun m => name.toList.isPrefixOf m.1.toList).map fun m =>
      .option m.1 m.2 value
  | '-' :: 'h' :: rest => [.option shortHelp .help (some (String.ofList rest))]
  | _ => []

/-- An option with a value after an equals sign. -/
def withValue? (g : Grammar) (text : List Char) : Option Word :=
  match nameAndValue text with
  | (name, some value) => (g.meanings.lookup name).map fun m => .option name m (some value)
  | (_, none) => none

/-- The word for a text that starts with a dash but is no option by its full name. -/
def shortened (g : Grammar) (text : List Char) : Except Fault Word :=
  match g.candidates text with
  | [word] => .ok word
  | _ :: _ :: _ => .error wrongUse
  | [] =>
    if isNumber (text.drop 1) || text.contains ' ' then .ok (.plain (String.ofList text))
    else .ok .unknown

/-- The word that a text is. -/
def word (g : Grammar) (text : String) : Except Fault Word :=
  match text.toList with
  | '-' :: c :: rest =>
    match g.meanings.lookup text with
    | some m => .ok (.option text m none)
    | none =>
      match g.withValue? ('-' :: c :: rest) with
      | some w => .ok w
      | none => g.shortened ('-' :: c :: rest)
  | _ => .ok (.plain text)

/-- The words of a command line. -/
def words (g : Grammar) : List String → Except Fault (List Word)
  | [] => .ok []
  | text :: rest =>
    if text == dividerText then .ok (.divider :: rest.map .plain)
    else do
      let w ← g.word text
      return w :: (← g.words rest)

@[simp] theorem words_nil (g : Grammar) : g.words [] = .ok [] := rfl

@[simp] theorem words_divider (g : Grammar) (rest : List String) :
    g.words (dividerText :: rest) = .ok (.divider :: rest.map .plain) := by
  simp [words]

/-- A text that does not start with a dash is plain. -/
theorem word_of_head_ne (g : Grammar) {text : String} (h : text.toList.head? ≠ some '-') :
    g.word text = .ok (.plain text) := by
  unfold word
  split
  · rename_i heq
    simp [heq] at h
  · rfl

end Grammar

/-- What the next word may belong to. -/
inductive Pending
  | none
  /-- A value must follow. -/
  | value (name : String)
  /-- Values may follow. -/
  | values (name : String)
  /-- A divider may follow. -/
  | divider
  /-- The mode must follow. -/
  | mode
deriving DecidableEq, Repr

/-- What has been read of a command line. -/
structure Arguments where
  mode : Option String := none
  values : List (String × List String) := []
  /-- Whether words were met that belong nowhere. -/
  excess : Bool := false
  pending : Pending := .none
deriving DecidableEq, Repr

namespace Arguments

/-- The arguments with an option. -/
def put (a : Arguments) (name : String) (values : List String) : Arguments :=
  { a with values := Ordered.put name values a.values }

/-- The arguments with one more value of an option. -/
def append (a : Arguments) (name : String) (value : String) : Arguments :=
  a.put name ((a.values.lookup name).getD [] ++ [value])

/-- Takes a plain word that belongs to no option. -/
def takePlain (modes : List String) (a : Arguments) (text : String) : Except Fault Arguments :=
  match a.mode with
  | some _ => .ok { a with excess := true, pending := .none }
  | none =>
    if modes.contains text then .ok { a with mode := some text, pending := .divider }
    else .error wrongUse

/-- Takes a divider that nothing waits for. -/
def takeDivider (a : Arguments) : Arguments :=
  match a.mode with
  | some _ => { a with excess := true, pending := .none }
  | none => { a with pending := .mode }

/-- The way out of a request for help, which takes no value. Letters after the short request may ask
for help again. -/
def help (name : String) : Option String → Fault
  | none => helpGiven
  | some value =>
    if name == shortHelp && !value.isEmpty && value.toList.all (· == 'h') then helpGiven
    else wrongUse

/-- Takes an option. A divider that is written as its value counts for nothing. -/
def takeOption (a : Arguments) (name : String) (meaning : Meaning) (value : Option String) :
    Except Fault Arguments :=
  match meaning, value with
  | .help, _ => .error (help name value)
  | .flag _, some v =>
    .ok { a.put name (if v == dividerText then [] else [v]) with pending := .none }
  | .flag f, none =>
    match f.arity with
    | .one => .ok { a with pending := .value name }
    | .many => .ok { a.put name [] with pending := .values name }

/-- Takes a word. -/
def take (modes : List String) (a : Arguments) (w : Word) : Except Fault Arguments :=
  match a.pending, w with
  | .value name, .plain text => .ok { a.put name [text] with pending := .none }
  | .value _, _ => .error wrongUse
  | .values name, .plain text => .ok (a.append name text)
  | .divider, .divider => .ok { a with pending := .none }
  | _, .plain text => a.takePlain modes text
  | _, .divider => .ok a.takeDivider
  | _, .option name meaning value => a.takeOption name meaning value
  | _, .unknown => .ok { a with excess := true, pending := .none }

/-- Whether a required option is missing. -/
def lacks (a : Arguments) (g : Grammar) : Bool :=
  g.any fun f => f.required && (a.values.lookup f.name).isNone

/-- The mode of complete arguments. -/
def completeMode (g : Grammar) (a : Arguments) : Except Fault String :=
  match a.pending, a.mode with
  | .value _, _ | _, none => .error wrongUse
  | _, some mode => if a.excess || a.lacks g then .error wrongUse else .ok mode

/-- The values of an option. -/
def all (a : Arguments) (name : String) : List String := (a.values.lookup name).getD []

/-- The first value of an option. -/
def first? (a : Arguments) (name : String) : Option String := (a.all name).head?

/-- Whether an option was given and is left without a value. -/
def isBare (a : Arguments) (name : String) : Bool := a.values.lookup name == some []

end Arguments

/-- Reads a command line: its mode and its options. -/
def Grammar.read (g : Grammar) (modes : List String) (texts : List String) :
    Except Fault (String × Arguments) := do
  let words ← g.words texts
  let a ← words.foldlM (Arguments.take modes) {}
  return (← a.completeMode g, a)

end KeywordCatalog.CommandLine
