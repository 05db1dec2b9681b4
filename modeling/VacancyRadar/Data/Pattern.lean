import Mathlib.Data.Nat.Notation

/-!
# Patterns

The regular expressions of the code.  A pattern gives what is left of a text after each way in which it
matches at the start of the text, in the order in which they are tried.
-/

namespace Data

abbrev Pattern : Type := List Char → List (List Char)

namespace Pattern

def lit (word : String) : Pattern := fun text =>
  if word.toList.isPrefixOf text then [text.drop word.length] else []

def seq (p q : Pattern) : Pattern := fun text => (p text).flatMap q

def alt (patterns : List Pattern) : Pattern := fun text => patterns.flatMap fun p => p text

def opt (p : Pattern) : Pattern := fun text => p text ++ [text]

def one (kind : Char → Bool) : Pattern
  | [] => []
  | c :: rest => if kind c then [rest] else []

def many (kind : Char → Bool) : Pattern
  | [] => [[]]
  | c :: rest => if kind c then many kind rest ++ [c :: rest] else [c :: rest]

def words (choices : List String) : Pattern := alt (choices.map lit)

/-- `\w`. -/
def isWordChar (c : Char) : Bool := c.isAlphanum || c == '_'

/-- `\b`, between two characters or at an end of the text. -/
def isBoundary (before after : Option Char) : Bool := before.any isWordChar != after.any isWordChar

def startsBounded (p : Pattern) (before : Option Char) (text : List Char) : Bool :=
  isBoundary before text.head? && (p text).any fun rest =>
    isBoundary ((text.take (text.length - rest.length)).getLast?.or before) rest.head?

/-- `\b(?:p)\b` matches somewhere in a text. -/
def occursBounded (p : Pattern) : (before : Option Char) → List Char → Bool
  | before, [] => startsBounded p before []
  | before, c :: rest => startsBounded p before (c :: rest) || occursBounded p (some c) rest

/-- `/\b(?:p)\b/.test`. -/
def test (p : Pattern) (text : String) : Bool := occursBounded p none text.toList

example : test (words ["cover", "letter"]) "cover_page" = false := by decide

example : test (words ["cover", "letter"]) "my cover-page" = true := by decide

def litI (word : String) : Pattern := fun text =>
  if (text.take word.length).map Char.toLower = word.toList then [text.drop word.length] else []

def wordsI (choices : List String) : Pattern := alt (choices.map litI)

def phrase (parts : List Pattern) : Pattern := parts.foldr seq fun text => [text]

def upTo (kind : Char → Bool) : ℕ → Pattern
  | 0, text => [text]
  | _ + 1, [] => [[]]
  | n + 1, c :: rest => if kind c then upTo kind n rest ++ [c :: rest] else [c :: rest]

def times (kind : Char → Bool) : ℕ → Pattern
  | 0, text => [text]
  | _ + 1, [] => []
  | n + 1, c :: rest => if kind c then times kind n rest else []

end Pattern

/-! ## Regular expressions -/

/-- A regular expression: what is left of a text after the first way in which it matches at the start of
the text, before which there is a character or none. -/
abbrev Regex : Type := (before : Option Char) → List Char → Option (List Char)

namespace Regex

open Pattern

/-- `/p/`. -/
def plain (p : Pattern) : Regex := fun _ text => (p text).head?

/-- `/\b(?:p)\b/`. -/
def bounded (p : Pattern) : Regex := fun before text =>
  if isBoundary before text.head? then
    (p text).find? fun rest =>
      isBoundary ((text.take (text.length - rest.length)).getLast?.or before) rest.head?
  else none

/-- `/(^|k)(?:p)(k|$)/`, up to the end of `p`, where `k` is a character of a kind. -/
def token (kind : Char → Bool) (p : Pattern) : Regex := fun before text =>
  ((if before.isNone then [text] else []) ++ one kind text).flatMap p |>.find? fun rest =>
    rest.head?.all kind

def search (r : Regex) : (before : Option Char) → List Char → Option (List Char)
  | before, [] => (r before []).map fun _ => []
  | before, c :: rest =>
    match r before (c :: rest) with
    | some left => some ((c :: rest).take ((c :: rest).length - left.length))
    | none => search r (some c) rest

def exec (r : Regex) (text : String) : Option String := (search r none text.toList).map String.ofList

/-- `test`. -/
def occurs (r : Regex) (text : String) : Bool := (exec r text).isSome

def firstMatch (patterns : List Regex) (text : String) : Option String :=
  patterns.findSome? fun pattern => exec pattern text

end Regex

end Data
