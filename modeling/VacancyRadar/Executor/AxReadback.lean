import Mathlib.Data.List.Infix
import VacancyRadar.Data.Json
import VacancyRadar.Data.Text

/-!
# What the browser says of a control

`ax-readback.ts`: the browser publishes what a control holds in its accessibility tree.  Of each text that is
read there only so much is kept.
-/

namespace VacancyRadar.Executor

open Data

/-! ## The tree -/

/-- `CdpAxValue`, without its type. -/
structure CdpAxValue where
  value : Option Json := none

structure CdpAxProperty where
  name : Option String := none
  value : Option CdpAxValue := none

/-- `CdpAxNode`, without the fields that nothing reads. -/
structure CdpAxNode where
  ignored : Bool := false
  name : Option CdpAxValue := none
  description : Option CdpAxValue := none
  value : Option CdpAxValue := none
  properties : List CdpAxProperty := []
  backendDOMNodeId : Option ℕ := none

/-- The nodes of a `CdpPartialAxTreeResponse`, if they are an array.  Some may be null. -/
abbrev AxNodes : Type := Option (List (Option CdpAxNode))

structure AxControlState where
  value : Option String
  checked : Option Bool
  invalid : Option Bool
  required : Option Bool
  name : Option String
  description : Option String

def maxAxStringLength : ℕ := 2000

section

variable (numberText : Number → String)

def publishedText (value : Option CdpAxValue) : Option String :=
  match value.bind CdpAxValue.value with
  | some (.str raw) => some raw
  | some (.num raw) => some (numberText raw)
  | some (.bool raw) => some (if raw then "true" else "false")
  | _ => none

def stringValue (value : Option CdpAxValue) : Option String :=
  match value.bind CdpAxValue.value with
  | some (.str raw) => some (sliceUnits raw maxAxStringLength)
  | some (.num raw) => some (numberText raw)
  | some (.bool raw) => some (if raw then "true" else "false")
  | _ => none

def propertyValue (node : CdpAxNode) (name : String) : Option CdpAxValue :=
  (node.properties.find? fun property => property.name = some name).bind CdpAxProperty.value

def checkedState (node : CdpAxNode) : Option Bool :=
  match stringValue numberText (propertyValue node "checked") with
  | some "true" => some true
  | some "false" => some false
  | _ => none

def invalidState (node : CdpAxNode) : Option Bool :=
  (stringValue numberText (propertyValue node "invalid")).map fun raw => raw ≠ "false"

def booleanProperty (node : CdpAxNode) (name : String) : Option Bool :=
  match propertyValue node name with
  | none => none
  | some raw =>
    match raw.value with
    | some (.bool b) => some b
    | _ =>
      match stringValue numberText (some raw) with
      | some "true" => some true
      | some "false" => some false
      | _ => none

def describingNode (nodes : List (Option CdpAxNode)) (backendNodeId : ℕ) : Option CdpAxNode :=
  let own := nodes.filterMap fun node => node.filter fun node => node.backendDOMNodeId = some backendNodeId
  (own.find? fun node => !node.ignored).or (own.find? fun node => node.ignored)

def CdpAxNode.state (node : CdpAxNode) : AxControlState where
  value := stringValue numberText node.value
  checked := checkedState numberText node
  invalid := invalidState numberText node
  required := booleanProperty numberText node "required"
  name := stringValue numberText node.name
  description := stringValue numberText node.description

def readAxControlState (nodes : AxNodes) (backendNodeId : ℕ) : Option AxControlState :=
  (nodes.bind fun nodes => describingNode nodes backendNodeId).map (CdpAxNode.state numberText)

end

/-- `readAttachmentNames`, with `String.prototype.toLowerCase`. -/
def readAttachmentNames (toLowerCase : String → String) (state : Option AxControlState)
    (expectedNames : List String) : List String :=
  match state with
  | none => []
  | some state =>
    let haystack := toLowerCase (state.value.getD "")
    expectedNames.filter fun expected =>
      expected ≠ "" ∧ (toLowerCase expected).toList <:+: haystack.toList

/-! ## Texts that are read -/

variable {numberText : Number → String} {value : Option CdpAxValue} {text : String}

lemma exists_publishedText_of_stringValue (h : stringValue numberText value = some text) :
    ∃ published, publishedText numberText value = some published ∧
      (trim text ≠ "" → trim published ≠ "") := by
  unfold stringValue at h
  unfold publishedText
  split at h
  · next raw hraw =>
    obtain rfl := Option.some.inj h
    exact ⟨raw, rfl, trim_ne_empty_of_sliceUnits⟩
  · next raw hraw => exact ⟨_, rfl, by rw [Option.some.inj h]; exact id⟩
  · next raw hraw => exact ⟨_, rfl, by rw [Option.some.inj h]; exact id⟩
  · exact absurd h nofun

end VacancyRadar.Executor
