import VacancyRadar.Data.Pattern
import VacancyRadar.Data.Text

/-!
# Labels

How the labels of fields and options are compared.
-/

namespace VacancyRadar.Form

open Data

structure Letters where
  /-- `normalize('NFKD')`. -/
  nfkd : String → String
  /-- `\p{Diacritic}`. -/
  isDiacritic : Char → Bool
  /-- `toLowerCase`. -/
  toLowerCase : String → String

/-- `/\s/`. -/
abbrev isSpace : Char → Bool := isTrimmed

/-- `replace(/[kind]+/g, ' ')`. -/
def runsToSpace (kind : Char → Bool) : List Char → List Char
  | [] => []
  | [c] => if kind c then [' '] else [c]
  | c :: d :: rest =>
    if kind c then
      if kind d then runsToSpace kind (d :: rest) else ' ' :: runsToSpace kind (d :: rest)
    else c :: runsToSpace kind (d :: rest)

/-- `replace(/([a-z0-9])([A-Z])/g, '$1 $2')`. -/
def splitCamelCase : List Char → List Char
  | [] => []
  | [c] => [c]
  | c :: d :: rest =>
    if (c.isLower || c.isDigit) && d.isUpper then c :: ' ' :: splitCamelCase (d :: rest)
    else c :: splitCamelCase (d :: rest)

/-- `replace(/\((?:required|optional)\)/g, ' ')`, after so many characters that were replaced already. -/
def dropMarks : ℕ → List Char → List Char
  | _, [] => []
  | n + 1, _ :: rest => dropMarks n rest
  | 0, c :: rest =>
    if "(required)".toList.isPrefixOf (c :: rest) || "(optional)".toList.isPrefixOf (c :: rest) then
      ' ' :: dropMarks 9 rest
    else c :: dropMarks 0 rest

namespace Letters

variable (letters : Letters)

def fold (label : String) : List Char :=
  (letters.nfkd label).toList.filter fun c => !letters.isDiacritic c

/-- `toLowerCase`, on characters. -/
def lower (label : List Char) : List Char := (letters.toLowerCase (String.ofList label)).toList

def normalizeFieldLabel (label : String) : String :=
  let words := runsToSpace (fun c => c == '_' || c == '-' || c == '.' || c == '[' || c == ']')
    (splitCamelCase (letters.fold label))
  let plain := runsToSpace (fun c => c == '*' || c == ':') (dropMarks 0 (letters.lower words))
  trim (String.ofList (runsToSpace isSpace plain))

def squashFieldLabel (label : String) : String :=
  String.ofList ((letters.normalizeFieldLabel label).toList.filter fun c => !isSpace c)

def normalizeBlindLabel (label : String) : String :=
  trim (String.ofList (runsToSpace isSpace (letters.lower (letters.fold label))))

end Letters

/-- A letter without its case, as `/iu` compares it. -/
def caseless (c : Char) : Char := if c == '\u017f' then 's' else c.toLower

def isPlaceholderOption (label : String) : Bool :=
  let text := (trim label).toList
  ["select", "choose", "please select", "--", "\u2014"].any (fun start =>
    start.toList.isPrefixOf (text.map caseless)) || text.isEmpty

def ascii : Letters where
  nfkd := id
  isDiacritic c := c == '^' || c == '`'
  toLowerCase := String.toLower

end VacancyRadar.Form
