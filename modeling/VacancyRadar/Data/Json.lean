import Mathlib.Data.Rat.Defs

/-!
# JSON values

What `JSON.parse` returns, and how the language treats such a value: the properties it has, whether
it counts as true, and the text that `String` makes of it.  The keys of an object are distinct.
-/

namespace Data

inductive Number where
  | finite (value : ℚ)
  | infinite (negative : Bool)
deriving DecidableEq

def Number.isFinite : Number → Bool
  | finite _ => true
  | infinite _ => false

inductive Json where
  | null
  | bool (b : Bool)
  | num (value : Number)
  | str (text : String)
  | arr (items : List Json)
  | obj (fields : List (String × Json))

namespace Json

/-- The property of an object; none stands for `undefined`. -/
def field (fields : List (String × Json)) (key : String) : Option Json :=
  (fields.find? fun f => f.1 = key).map Prod.snd

def property (key : String) : Option Json → Option Json
  | some (obj fields) => field fields key
  | _ => none

def truthy : Option Json → Bool
  | none | some null => false
  | some (bool b) => b
  | some (num value) => value ≠ .finite 0
  | some (str text) => text ≠ ""
  | some (arr _) | some (obj _) => true

/-- The value is not null and its `typeof` is `object`. -/
def isObject : Option Json → Bool
  | some (arr _) | some (obj _) => true
  | _ => false

def str? : Option Json → Option String
  | some (str text) => some text
  | _ => none

def num? : Option Json → Option Number
  | some (num value) => some value
  | _ => none

def isTrue : Option Json → Bool
  | some (bool b) => b
  | _ => false

def isFalse : Option Json → Bool
  | some (bool b) => !b
  | _ => false

/-- The properties that are not `undefined`. -/
def present (fields : List (String × Option Json)) : List (String × Json) :=
  fields.filterMap fun f => f.2.map (f.1, ·)

/-- An object with those properties that are not `undefined`. -/
def objectOf (fields : List (String × Option Json)) : Json := obj (present fields)

section

variable (numberText : Number → String)

mutual

/-- `String(value)`.  An object whose `toString` was overwritten has no text, as a property that was
read from JSON is no function. -/
def toText : Json → Option String
  | null => some "null"
  | bool b => some (if b then "true" else "false")
  | num value => some (numberText value)
  | str text => some text
  | arr items => (toTexts items).map (String.intercalate ",")
  | obj fields => if (field fields "toString").isSome then none else some "[object Object]"

/-- The texts of the elements that `join` puts together: null is left out. -/
def toTexts : List Json → Option (List String)
  | [] => some []
  | null :: rest => (toTexts rest).map ("" :: ·)
  | item :: rest => do pure ((← toText item) :: (← toTexts rest))

end

end

mutual

def sent : Json → Json
  | null => null
  | bool b => bool b
  | num (.finite value) => num (.finite value)
  | num (.infinite _) => null
  | str text => str text
  | arr items => arr (sentItems items)
  | obj fields => obj (sentFields fields)

def sentItems : List Json → List Json
  | [] => []
  | item :: rest => sent item :: sentItems rest

def sentFields : List (String × Json) → List (String × Json)
  | [] => []
  | field :: rest => sentField field :: sentFields rest

def sentField : String × Json → String × Json
  | (key, value) => (key, sent value)

end

/-! ## Objects that are put together -/

variable {fields : List (String × Option Json)} {key : String}

@[simp] lemma present_nil : present [] = [] := rfl

@[simp] lemma sent_str {text : String} : sent (str text) = str text := rfl

@[simp] lemma sent_bool {b : Bool} : sent (bool b) = bool b := rfl

@[simp] lemma sent_finite {value : ℚ} : sent (num (.finite value)) = num (.finite value) := rfl

lemma sentFields_present :
    sentFields (present fields) = present (fields.map fun f => (f.1, f.2.map sent)) := by
  induction fields with
  | nil => rfl
  | cons f rest ih =>
    obtain ⟨key, _ | value⟩ := f
    · exact ih
    · exact congrArg (sentField (key, value) :: ·) ih

@[simp] lemma sent_objectOf :
    sent (objectOf fields) = objectOf (fields.map fun f => (f.1, f.2.map sent)) :=
  congrArg obj sentFields_present

lemma all_present {p : String → Bool} (h : fields.all fun f => p f.1) :
    (present fields).all fun f => p f.1 := by
  rw [List.all_eq_true] at h ⊢
  intro f hf
  obtain ⟨⟨name, value⟩, hmem, hvalue⟩ := List.mem_filterMap.mp hf
  obtain ⟨value, -, rfl⟩ := Option.map_eq_some_iff.mp hvalue
  exact h _ hmem

@[simp] lemma field_nil : field [] key = none := rfl

lemma field_cons {f : String × Json} {rest : List (String × Json)} :
    field (f :: rest) key = if f.1 = key then some f.2 else field rest key := by
  unfold field
  by_cases h : f.1 = key <;> simp [h]

/-- The property under a key is the first that is there under it. -/
@[simp] lemma field_present_cons {name : String} {value : Option Json} :
    field (present ((name, value) :: fields)) key =
      if name = key then value.or (field (present fields) key)
      else field (present fields) key := by
  cases value with
  | none =>
    show field (present fields) key = _
    split <;> rfl
  | some value => exact field_cons

end Json

end Data
