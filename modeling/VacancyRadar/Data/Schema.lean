import VacancyRadar.Data.Json

/-!
# Schemas

The checks that are put together from the schemas of `zod`: a schema accepts some values, where none
stands for a property that is not there.  An object schema looks at the properties of its shape; a
strict one refuses all others.
-/

namespace Data

variable {schema : Schema} {shape : List (String × Schema)}

abbrev Schema := Option Json → Bool

def isGuid (text : String) : Bool :=
  let groups := text.toList.splitOn '-'
  let hex := fun c : Char =>
    c.isDigit || ('a' ≤ c && c ≤ 'f') || ('A' ≤ c && c ≤ 'F')
  groups.map List.length = [8, 4, 4, 4, 12] && groups.all fun group => group.all hex

namespace Schema

def unknown : Schema := fun _ => true

def string : Schema
  | some (.str _) => true
  | _ => false

def boolean : Schema
  | some (.bool _) => true
  | _ => false

def number : Schema
  | some (.num value) => value.isFinite
  | _ => false

/-- `z.number().int().nonnegative()`.  The bound of the safe integers is left out: nothing that the
program counts comes near to it. -/
def count : Schema
  | some (.num (.finite value)) => value.den = 1 && 0 ≤ value
  | _ => false

def guid : Schema
  | some (.str text) => isGuid text
  | _ => false

def enum (texts : List String) : Schema
  | some (.str text) => texts.contains text
  | _ => false

def literalNumber (number : ℚ) : Schema
  | some (.num (.finite value)) => value = number
  | _ => false

def optional (schema : Schema) : Schema
  | none => true
  | some value => schema (some value)

def object (shape : List (String × Schema)) : Schema
  | some (.obj fields) => shape.all fun entry => entry.2 (Json.field fields entry.1)
  | _ => false

def strict (shape : List (String × Schema)) : Schema
  | some (.obj fields) =>
    (shape.all fun entry => entry.2 (Json.field fields entry.1)) &&
      fields.all fun f => shape.any fun entry => entry.1 = f.1
  | _ => false

/-- `z.discriminatedUnion`: the value under the key names the schema that counts. -/
def discriminatedUnion (key : String) (options : List (String × Schema)) : Schema := fun value =>
  match Json.str? (Json.property key value) with
  | some text => (options.find? fun option => option.1 = text).any fun option => option.2 value
  | none => false

variable {text : String} {fields : List (String × Option Json)}

@[simp] lemma string_str : string (some (.str text)) = true := rfl

@[simp] lemma boolean_bool {b : Bool} : boolean (some (.bool b)) = true := rfl

@[simp] lemma optional_none : optional schema none = true:= rfl

@[simp] lemma optional_some {value : Json} : optional schema (some value) = schema (some value):= rfl

@[simp] lemma count_natCast (n : ℕ) : count (some (.num (.finite n))) = true := by
  simpa [count] using Rat.natCast_nonneg

@[simp] lemma optional_string_map (text : Option String) :
    optional string (text.map Json.str) = true := by
  cases text <;> rfl

@[simp] lemma optional_unknown (value : Option Json) : optional unknown value = true := by
  cases value <;> rfl

lemma object_objectOf : object shape (some (Json.objectOf fields)) =
      shape.all fun entry => entry.2 (Json.field (Json.present fields) entry.1) := rfl

lemma strict_objectOf (h : fields.all fun f => shape.any fun entry => entry.1 = f.1) :
    strict shape (some (Json.objectOf fields)) = object shape (some (Json.objectOf fields)) := by
  show (_ && _) = _
  rw [Json.all_present (p := fun name => shape.any fun entry => entry.1 = name) h, Bool.and_true]
  rfl

lemma discriminatedUnion_objectOf {key : String} {options : List (String × Schema)}
    (htext : Json.field (Json.present fields) key = some (.str text))
    (hoption : options.find? (fun option => option.1 = text) = some (text, schema)) :
    discriminatedUnion key options (some (Json.objectOf fields)) =
      schema (some (Json.objectOf fields)) := by
  have htext' : Json.property key (some (Json.objectOf fields)) = some (.str text) := htext
  rw [discriminatedUnion, htext']
  show (options.find? _).any _ = _
  rw [hoption]
  rfl

end Schema

end Data
