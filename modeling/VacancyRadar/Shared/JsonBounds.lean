import VacancyRadar.Data.CodePoints
import Mathlib.Algebra.Order.Ring.Rat
import Mathlib.Data.Nat.Cast.Order.Ring
import Mathlib.Data.Fintype.Card
import Mathlib.Data.List.Perm.Basic
import Mathlib.Data.List.ReduceOption
import Mathlib.Logic.Relation

/-!
# Bounds of a JSON value

`validateJsonBounds` walks a value in memory with a stack of its own, and only a walk that ends without
a complaint is followed by `JSON.stringify`.  Values may share parts, and may hold themselves.  The
recursion that the walk stands for is over the tree that a value without cycles unfolds to.
-/

namespace VacancyRadar.Shared

open Data.CodePoints
open Relation (ReflTransGen TransGen)

/-! ## Limits -/

inductive Limit where
  | finite (q : ℚ)
  | infinity
  | negInfinity
  | nan

/-- `n > limit`. -/
def Limit.exceededBy (n : ℕ) : Limit → Bool
  | .finite q => q < n
  | .negInfinity => true
  | .infinity | .nan => false

lemma Limit.exceededBy_mono {m n : ℕ} {limit : Limit} (hle : m ≤ n) (h : limit.exceededBy m) :
    limit.exceededBy n := by
  cases limit with
  | finite q => exact decide_eq_true ((of_decide_eq_true h).trans_le (Nat.cast_le.mpr hle))
  | _ => exact h

structure JsonBounds where
  maxBytes : Limit
  maxDepth : Limit
  maxItems : Limit
  maxStringBytes : Limit

def JsonBounds.tooLong (bounds : JsonBounds) (text : List ℕ) : Bool :=
  bounds.maxStringBytes.exceededBy (byteLength text)

/-! ## Values in memory -/

/-- An array or another object is known by its address.  A number is rational or not finite, and `other`
is a value of a type that JSON does not have. -/
inductive Value (α : Type) where
  | null
  | boolean (b : Bool)
  | number (q : Option ℚ)
  | string (text : List ℕ)
  | object (address : α)
  | other

/-- What an address holds.  An array may lack elements, and an object may have another prototype and
keys that `Object.keys` leaves out. -/
inductive Cell (α : Type) where
  | array (items : List (Option (Value α)))
  | object (plain : Bool) (fields : List (List ℕ × Value α)) (hiddenKeys : ℕ)

inductive Reason where
  | depth | notFinite | string | incompatible | cyclic | items | sparse | notPlain | hiddenKeys | key | bytes

def Reason.message (limitText : Limit → String) (bounds : JsonBounds) : Reason → String
  | .depth => "JSON nesting exceeds depth " ++ limitText bounds.maxDepth
  | .notFinite => "JSON numbers must be finite"
  | .string => "JSON strings must be at most " ++ limitText bounds.maxStringBytes ++ " UTF-8 bytes"
  | .incompatible => "value is not JSON-compatible"
  | .cyclic => "cyclic values are not JSON-compatible"
  | .items => "JSON aggregate items exceed " ++ limitText bounds.maxItems
  | .sparse => "sparse arrays are not JSON-compatible"
  | .notPlain => "JSON objects must be plain objects"
  | .hiddenKeys => "JSON objects may only have enumerable string keys"
  | .key => "JSON keys must be at most " ++ limitText bounds.maxStringBytes ++ " UTF-8 bytes"
  | .bytes => "encoded JSON exceeds " ++ limitText bounds.maxBytes ++ " bytes"

/-! ## Trees -/

inductive Tree where
  | null
  | boolean (b : Bool)
  | number (q : ℚ)
  | string (text : List ℕ)
  | array (items : List Tree)
  | object (fields : List (List ℕ × Tree))

namespace Tree

def children : Tree → List Tree
  | .array items => items
  | .object fields => fields.map Prod.snd
  | _ => []

def ownTexts : Tree → List (List ℕ)
  | .string text => [text]
  | .object fields => fields.map Prod.fst
  | _ => []

def IsNode : Tree → Prop
  | .array _ | .object _ => True
  | _ => False

lemma sizeOf_lt {t c : Tree} (h : c ∈ t.children) : sizeOf c < sizeOf t := by
  cases t with
  | array items =>
    have hlt := List.sizeOf_lt_of_mem (show c ∈ items from h)
    simp only [array.sizeOf_spec]
    omega
  | object fields =>
    obtain ⟨f, hf, rfl⟩ := List.mem_map.mp (show c ∈ fields.map Prod.snd from h)
    have hlt := List.sizeOf_lt_of_mem hf
    obtain ⟨key, c⟩ := f
    simp only [Prod.mk.sizeOf_spec] at hlt
    simp only [object.sizeOf_spec]
    omega
  | _ => cases h

def depth (t : Tree) : ℕ := (t.children.attach.map fun c => depth c.1 + 1).foldr max 0
termination_by t
decreasing_by exact sizeOf_lt c.2

def items (t : Tree) : ℕ := t.children.length + (t.children.attach.map fun c => items c.1).sum
termination_by t
decreasing_by exact sizeOf_lt c.2

/-- The strings and the keys. -/
def texts (t : Tree) : List (List ℕ) := t.ownTexts ++ (t.children.attach.map fun c => texts c.1).flatten
termination_by t
decreasing_by exact sizeOf_lt c.2

def stringify (numberText : ℚ → List ℕ) : Tree → List ℕ
  | .null => points "null"
  | .boolean b => points (toString b)
  | .number q => numberText q
  | .string text => quote text
  | .array items =>
    points "[" ++ (points ",").intercalate (items.map fun t => stringify numberText t) ++ points "]"
  | .object fields =>
    points "\x7b" ++ (points ",").intercalate
      (fields.map fun f => quote f.1 ++ points ":" ++ stringify numberText f.2) ++ points "\x7d"
termination_by t => t
decreasing_by
  · exact sizeOf_lt (t := .array items) ‹_›
  · exact sizeOf_lt (t := .object fields) (List.mem_map_of_mem ‹_›)

end Tree

namespace Cell

variable {α : Type}

def values : Cell α → List (Value α)
  | .array items => items.reduceOption
  | .object _ fields _ => fields.map Prod.snd

def keys : Cell α → List (List ℕ)
  | .array _ => []
  | .object _ fields _ => fields.map Prod.fst

/-- What `length`, or the number of the keys, adds to the items. -/
def size : Cell α → ℕ
  | .array items => items.length
  | .object _ fields _ => fields.length

/-- The values in the order in which the walk takes them off the stack. -/
def taken : Cell α → List (Value α)
  | .array items => items.reduceOption
  | .object _ fields _ => (fields.map Prod.snd).reverse

/-- JSON has a text for what the address holds. -/
def regular : Cell α → Bool
  | .array items => items.all Option.isSome
  | .object plain _ hiddenKeys => plain && hiddenKeys == 0

def build : Cell α → List Tree → Tree
  | .array _, trees => .array trees
  | .object _ fields _, trees => .object ((fields.map Prod.fst).zip trees)

end Cell

/-! ## The walk -/

structure Frame (α : Type) where
  value : Value α
  depth : ℕ
  exit : Bool

structure Walk (α : Type) where
  stack : List (Frame α)
  activePath : List α := []
  aggregateItems : ℕ := 0

variable {α : Type}

/-- What is wrong with an array or an object.  The loops over the elements and over the keys push as they
go, and what they have pushed is lost where they return. -/
def complaint (bounds : JsonBounds) (aggregateItems : ℕ) : Cell α → Option Reason
  | .array items =>
    if bounds.maxItems.exceededBy (aggregateItems + items.length) then some .items
    else if ¬ items.all Option.isSome then some .sparse
    else none
  | .object plain fields hiddenKeys =>
    if !plain then some .notPlain
    else if fields.length + hiddenKeys ≠ fields.length then some .hiddenKeys
    else if bounds.maxItems.exceededBy (aggregateItems + fields.length) then some .items
    else if ∃ key ∈ fields.map Prod.fst, bounds.tooLong key then some .key
    else none

def children (depth : ℕ) (values : List (Value α)) : List (Frame α) :=
  values.map (⟨·, depth + 1, false⟩)

section Code

variable [DecidableEq α] (bounds : JsonBounds) (heap : α → Cell α)

/-- One turn of the loop, with the frame taken off the stack. -/
def step (current : Frame α) (s : Walk α) : Except Reason (Walk α) :=
  if current.exit then
    match current.value with
    | .object a => .ok { s with activePath := s.activePath.erase a }
    | _ => .ok s
  else if bounds.maxDepth.exceededBy current.depth then .error .depth
  else
    match current.value with
    | .null | .boolean _ => .ok s
    | .number q => if q = none then .error .notFinite else .ok s
    | .string text => if bounds.tooLong text then .error .string else .ok s
    | .other => .error .incompatible
    | .object a =>
      if a ∈ s.activePath then .error .cyclic
      else
        match complaint bounds s.aggregateItems (heap a) with
        | some reason => .error reason
        | none => .ok
          { stack := children current.depth (heap a).taken ++ { current with exit := true } :: s.stack
            activePath := a :: s.activePath
            aggregateItems := s.aggregateItems + (heap a).size }

/-- `none` where the turns run out, and `some none` where the stack is empty in the end. -/
def walk : ℕ → Walk α → Option (Option Reason)
  | 0, _ => none
  | fuel + 1, s =>
    match s.stack with
    | [] => some none
    | current :: stack =>
      match step bounds heap current { s with stack } with
      | .error reason => some (some reason)
      | .ok s => walk fuel s

end Code

def tree (heap : α → Cell α) : ℕ → Value α → Option Tree
  | _, .null => some .null
  | _, .boolean b => some (.boolean b)
  | _, .number q => q.map .number
  | _, .string text => some (.string text)
  | _, .other => none
  | 0, .object _ => none
  | fuel + 1, .object a =>
    if (heap a).regular then ((heap a).values.mapM (tree heap fuel)).map (heap a).build else none

/-- A value without cycles has no path longer than the number of addresses, and `JSON.stringify` throws
at every other one. -/
def validateJsonBounds [Fintype α] [DecidableEq α] (numberText : ℚ → List ℕ) (heap : α → Cell α)
    (bounds : JsonBounds) (fuel : ℕ) (value : Value α) : Option (Option Reason) :=
  (walk bounds heap fuel { stack := [⟨value, 0, false⟩] }).map fun
    | some reason => some reason
    | none =>
      match (tree heap (Fintype.card α) value).map (Tree.stringify numberText) with
      | none => some .incompatible
      | some encoded => if bounds.maxBytes.exceededBy (byteLength encoded) then some .bytes else none

/-! ## Trees within bounds -/

variable {bounds : JsonBounds} {d n : ℕ} {t u : Tree} {ts : List Tree} {heap : α → Cell α}
  {v w : Value α} {vs : List (Value α)} {cell : Cell α} {a : α}

/-- Below `depth` others, neither the tree nor a string or key in it is beyond the limits. -/
def Admits (bounds : JsonBounds) (depth : ℕ) (t : Tree) : Prop :=
  ¬ bounds.maxDepth.exceededBy (depth + t.depth) ∧ ∀ text ∈ t.texts, ¬ bounds.tooLong text

/-- As before, and after `items` items also those of an array or an object are within the limit. -/
structure Fits (bounds : JsonBounds) (depth items : ℕ) (t : Tree) : Prop where
  admits : Admits bounds depth t
  items : t.IsNode → ¬ bounds.maxItems.exceededBy (items + t.items)

structure FitAll (bounds : JsonBounds) (depth items : ℕ) (ts : List Tree) : Prop where
  admits : ∀ t ∈ ts, Admits bounds depth t
  items : ¬ bounds.maxItems.exceededBy (items + (ts.map Tree.items).sum)

namespace Tree

lemma items_eq : t.items = t.children.length + (t.children.map items).sum := by
  rw [items, List.attach_map_val (f := items)]

lemma isNode_of_mem (h : u ∈ t.children) : t.IsNode := by
  cases t with
  | array items => trivial
  | object fields => trivial
  | _ => cases h

lemma items_eq_zero (h : ¬ t.IsNode) : t.items = 0 := by
  rw [items_eq, List.eq_nil_iff_forall_not_mem.mpr fun c hc => h (isNode_of_mem hc)]
  rfl

lemma exceededBy_depth {limit : Limit} : limit.exceededBy (d + t.depth) ↔
    limit.exceededBy d ∨ ∃ c ∈ t.children, limit.exceededBy (d + 1 + c.depth) := by
  rw [depth, List.attach_map_val (f := fun c : Tree => c.depth + 1)]
  induction t.children with
  | nil => simp
  | cons c rest ih =>
    rw [List.map_cons, List.foldr_cons, List.exists_mem_cons_iff, or_left_comm, ← ih]
    rcases le_total (c.depth + 1) ((rest.map fun c => c.depth + 1).foldr max 0) with hle | hle
    · rw [max_eq_right hle, or_iff_right_of_imp (Limit.exceededBy_mono (by omega))]
    · rw [max_eq_left hle, or_iff_left_of_imp (Limit.exceededBy_mono (by omega)), Nat.add_right_comm,
        Nat.add_assoc]

end Tree

lemma admits_iff : Admits bounds d t ↔ ¬ bounds.maxDepth.exceededBy d ∧
    (∀ text ∈ t.ownTexts, ¬ bounds.tooLong text) ∧ ∀ c ∈ t.children, Admits bounds (d + 1) c := by
  rw [Admits, Tree.exceededBy_depth, Tree.texts, List.attach_map_val (f := Tree.texts),
    ← List.flatMap_def]
  simp only [List.mem_append, List.mem_flatMap, Admits]
  constructor
  · intro h
    exact ⟨fun hd => h.1 (.inl hd), fun text htext => h.2 text (.inl htext), fun c hc =>
      ⟨fun hdepth => h.1 (.inr ⟨c, hc, hdepth⟩), fun text htext => h.2 text (.inr ⟨c, hc, htext⟩)⟩⟩
  · rintro ⟨hd, hown, hall⟩
    refine ⟨?_, ?_⟩
    · rintro (hdepth | ⟨c, hc, hdepth⟩)
      · exact hd hdepth
      · exact (hall c hc).1 hdepth
    · rintro text (htext | ⟨c, hc, htext⟩)
      · exact hown text htext
      · exact (hall c hc).2 text htext

lemma FitAll.perm {us : List Tree} (h : FitAll bounds d n ts) (hperm : ts.Perm us) :
    FitAll bounds d n us :=
  ⟨fun t ht => h.admits t (hperm.mem_iff.mpr ht), (hperm.map Tree.items).sum_eq ▸ h.items⟩

lemma fitAll_cons :
    FitAll bounds d n (t :: ts) ↔ Fits bounds d n t ∧ FitAll bounds d (n + t.items) ts := by
  have hsum : n + ((t :: ts).map Tree.items).sum = n + t.items + (ts.map Tree.items).sum := by
    rw [List.map_cons, List.sum_cons, Nat.add_assoc]
  constructor
  · rintro ⟨hadmits, hitems⟩
    rw [hsum] at hitems
    obtain ⟨ht, hts⟩ := List.forall_mem_cons.mp hadmits
    exact ⟨⟨ht, fun _ hover => hitems (Limit.exceededBy_mono (Nat.le_add_right _ _) hover)⟩, hts, hitems⟩
  · rintro ⟨ht, hts⟩
    exact ⟨List.forall_mem_cons.mpr ⟨ht.admits, hts.admits⟩, hsum ▸ hts.items⟩

lemma Fits.not_exceededBy (h : Fits bounds d n t) (hn : ¬ bounds.maxItems.exceededBy n) :
    ¬ bounds.maxItems.exceededBy (n + t.items) := by
  by_cases hnode : t.IsNode
  · exact h.items hnode
  · rwa [Tree.items_eq_zero hnode]

/-! ## Arrays and objects -/

namespace Cell

lemma length_values (h : cell.regular) : cell.values.length = cell.size := by
  cases cell with
  | array items => exact List.reduceOption_length_eq_iff.mpr (List.all_eq_true.mp h)
  | object plain fields hiddenKeys => exact List.length_map _

lemma taken_perm : cell.taken.Perm cell.values := by
  cases cell with
  | array items => exact .refl _
  | object plain fields hiddenKeys => exact List.reverse_perm _

lemma children_build (h : ts.length = cell.values.length) : (cell.build ts).children = ts := by
  cases cell with
  | array items => rfl
  | object plain fields hiddenKeys => exact List.map_snd_zip (by simpa [values] using h.le)

lemma ownTexts_build (h : ts.length = cell.values.length) : (cell.build ts).ownTexts = cell.keys := by
  cases cell with
  | array items => rfl
  | object plain fields hiddenKeys => exact List.map_fst_zip (by simpa [values] using h.ge)

lemma isNode_build : (cell.build ts).IsNode := by
  cases cell <;> trivial

end Cell

lemma ite_some_eq_none {p : Prop} [Decidable p] {reason : Reason} {o : Option Reason} :
    (if p then some reason else o) = none ↔ ¬ p ∧ o = none := by
  split_ifs with h <;> simp [h]

lemma complaint_eq_none_iff : complaint bounds n cell = none ↔ cell.regular ∧
    (∀ key ∈ cell.keys, ¬ bounds.tooLong key) ∧ ¬ bounds.maxItems.exceededBy (n + cell.size) := by
  cases cell with
  | array items =>
    simp only [complaint, ite_some_eq_none, not_not, and_true, Cell.regular, Cell.keys, Cell.size,
      List.not_mem_nil, false_imp_iff, implies_true, true_and]
    exact and_comm
  | object plain fields hiddenKeys =>
    simp only [complaint, ite_some_eq_none, Nat.add_eq_left, ne_eq, not_not, not_exists, not_and,
      Bool.not_eq_true', Bool.not_eq_false, and_true, Cell.regular, Cell.keys, Cell.size,
      Bool.and_eq_true, beq_iff_eq, and_assoc]
    exact and_congr_right fun _ => and_congr_right fun _ => and_comm

lemma fits_build (hregular : cell.regular) (h : ts.length = cell.values.length) :
    Fits bounds d n (cell.build ts) ↔ ¬ bounds.maxDepth.exceededBy d ∧
      (∀ key ∈ cell.keys, ¬ bounds.tooLong key) ∧ FitAll bounds (d + 1) (n + cell.size) ts := by
  have hitems : (cell.build ts).items = cell.size + (ts.map Tree.items).sum := by
    rw [Tree.items_eq, Cell.children_build h, h, Cell.length_values hregular]
  have hadmits : Admits bounds d (cell.build ts) ↔ _ := admits_iff
  rw [Cell.ownTexts_build h, Cell.children_build h] at hadmits
  constructor
  · rintro ⟨h, hover⟩
    obtain ⟨hd, hkeys, hall⟩ := hadmits.mp h
    exact ⟨hd, hkeys, hall, Nat.add_assoc n _ _ ▸ hitems ▸ hover Cell.isNode_build⟩
  · rintro ⟨hd, hkeys, hall, hover⟩
    refine ⟨hadmits.mpr ⟨hd, hkeys, hall⟩, fun _ => ?_⟩
    rwa [hitems, ← Nat.add_assoc]

/-! ## The tree of a value -/

def Shows (heap : α → Cell α) (v : Value α) (t : Tree) : Prop := ∃ fuel, tree heap fuel v = some t

lemma mapM_eq_some {f : Value α → Option Tree} :
    vs.mapM f = some ts ↔ List.Forall₂ (fun v t => f v = some t) vs ts := by
  induction vs generalizing ts with
  | nil => cases ts <;> simp
  | cons v vs ih => cases ts <;> simp [List.mapM_cons, Option.bind_eq_some_iff, ih]

lemma tree_object {fuel : ℕ} : tree heap (fuel + 1) (.object a) = some t ↔ (heap a).regular ∧
    ∃ ts, List.Forall₂ (fun v t => tree heap fuel v = some t) (heap a).values ts ∧
      (heap a).build ts = t := by
  rw [tree]
  split_ifs with hregular
  · simp only [Option.map_eq_some_iff, mapM_eq_some, hregular, true_and]
  · simp [hregular]

lemma tree_succ {fuel : ℕ} (h : tree heap fuel v = some t) : tree heap (fuel + 1) v = some t := by
  induction fuel generalizing v t with
  | zero => cases v <;> simp_all [tree]
  | succ fuel ih =>
    cases v with
    | object a =>
      obtain ⟨hregular, ts, hts, rfl⟩ := tree_object.mp h
      exact tree_object.mpr ⟨hregular, ts, hts.imp fun _ _ => ih, rfl⟩
    | _ => exact h

lemma Shows.unique (h : Shows heap v t) (h' : Shows heap v u) : t = u := by
  obtain ⟨fuel, ht⟩ := h
  obtain ⟨fuel', hu⟩ := h'
  have hmono : ∀ {m t}, tree heap m v = some t → ∀ k, tree heap (m + k) v = some t := by
    intro m t ht k
    induction k with
    | zero => exact ht
    | succ k ih => exact tree_succ ih
  have htu := hmono hu fuel
  rw [Nat.add_comm, hmono ht fuel'] at htu
  exact Option.some.inj htu

lemma Shows.object (h : Shows heap (.object a) t) : (heap a).regular ∧
    ∃ ts, List.Forall₂ (Shows heap) (heap a).values ts ∧ (heap a).build ts = t := by
  obtain ⟨_ | fuel, h⟩ := h
  · cases h
  · obtain ⟨hregular, ts, hts, rfl⟩ := tree_object.mp h
    exact ⟨hregular, ts, hts.imp fun _ _ ht => ⟨fuel, ht⟩, rfl⟩

/-- The first value is an array or an object, and the second one an element or a property of it. -/
inductive Holds (heap : α → Cell α) : Value α → Value α → Prop
  | intro (a : α) {v : Value α} (h : v ∈ (heap a).values) : Holds heap (.object a) v

/-- A value that holds itself can be reached. -/
def Cyclic (heap : α → Cell α) (v : Value α) : Prop :=
  ∃ w, ReflTransGen (Holds heap) v w ∧ TransGen (Holds heap) w w

lemma Shows.of_holds (h : Shows heap v t) (hholds : Holds heap v w) :
    ∃ u, Shows heap w u ∧ sizeOf u < sizeOf t := by
  obtain ⟨a, hw⟩ := hholds
  obtain ⟨-, ts, hts, rfl⟩ := h.object
  obtain ⟨i, hi, rfl⟩ := List.mem_iff_getElem.mp hw
  have hi' : i < ts.length := hts.length_eq ▸ hi
  refine ⟨ts[i], hts.get hi hi', Tree.sizeOf_lt ?_⟩
  rw [Cell.children_build hts.length_eq.symm]
  exact List.getElem_mem hi'

lemma Shows.of_transGen (h : Shows heap v t) (hholds : TransGen (Holds heap) v w) :
    ∃ u, Shows heap w u ∧ sizeOf u < sizeOf t := by
  induction hholds with
  | single hholds => exact h.of_holds hholds
  | tail _ hholds ih =>
    obtain ⟨u, hu, hlt⟩ := ih
    obtain ⟨x, hx, hlt'⟩ := hu.of_holds hholds
    exact ⟨x, hx, hlt'.trans hlt⟩

lemma Cyclic.not_shows (h : Cyclic heap v) : ¬ Shows heap v t := by
  intro ht
  obtain ⟨w, hvw, hww⟩ := h
  obtain ⟨u, hu⟩ : ∃ u, Shows heap w u := by
    obtain rfl | hvw := Relation.reflTransGen_iff_eq_or_transGen.mp hvw
    · exact ⟨t, ht⟩
    · exact (ht.of_transGen hvw).imp fun _ => And.left
  obtain ⟨x, hx, hlt⟩ := hu.of_transGen hww
  rw [hx.unique hu] at hlt
  exact lt_irrefl _ hlt

/-! ## Runs of the walk -/

variable [DecidableEq α] {s s' s'' : Walk α} {r : Option Reason} {stack rest : List (Frame α)}
  {path : List α} {left : ℕ}

def Reaches (bounds : JsonBounds) (heap : α → Cell α) (s s' : Walk α) : Prop :=
  ∃ k, ∀ fuel, walk bounds heap (fuel + k) s = walk bounds heap fuel s'

def Ends (bounds : JsonBounds) (heap : α → Cell α) (s : Walk α) (r : Option Reason) : Prop :=
  ∃ k, ∀ fuel, walk bounds heap (fuel + k) s = some r

lemma Reaches.trans (h : Reaches bounds heap s s') (h' : Reaches bounds heap s' s'') :
    Reaches bounds heap s s'' := by
  obtain ⟨k, hk⟩ := h
  obtain ⟨k', hk'⟩ := h'
  exact ⟨k' + k, fun fuel => by rw [← Nat.add_assoc, hk, hk']⟩

lemma Reaches.ends (h : Reaches bounds heap s s') (h' : Ends bounds heap s' r) : Ends bounds heap s r := by
  obtain ⟨k, hk⟩ := h
  obtain ⟨k', hk'⟩ := h'
  exact ⟨k' + k, fun fuel => by rw [← Nat.add_assoc, hk, hk']⟩

lemma reaches_step {current : Frame α} (h : step bounds heap current ⟨stack, path, n⟩ = .ok s') :
    Reaches bounds heap ⟨current :: stack, path, n⟩ s' :=
  ⟨1, fun fuel => by simp only [walk, h]⟩

lemma ends_step {current : Frame α} {reason : Reason}
    (h : step bounds heap current ⟨stack, path, n⟩ = .error reason) :
    Ends bounds heap ⟨current :: stack, path, n⟩ (some reason) :=
  ⟨1, fun fuel => by simp only [walk, h]⟩

/-- The walk passes a value whose tree fits, and ends at every other one.  Only a value that reaches the
path may have a tree that fits and be refused. -/
def Settled (bounds : JsonBounds) (heap : α → Cell α) (left : ℕ) (path : List α) (v : Value α) (d n : ℕ)
    (rest : List (Frame α)) : Prop :=
  (∃ t, tree heap left v = some t ∧ Fits bounds d n t ∧
    Reaches bounds heap ⟨⟨v, d, false⟩ :: rest, path, n⟩ ⟨rest, path, n + t.items⟩) ∨
  ((∃ reason, Ends bounds heap ⟨⟨v, d, false⟩ :: rest, path, n⟩ (some reason)) ∧
    ∀ t, Shows heap v t → Fits bounds d n t →
      ∃ a ∈ path, ∃ u, Shows heap (.object a) u ∧ sizeOf u ≤ sizeOf t)

lemma settled_children (h : ∀ v d n rest, Settled bounds heap left path v d n rest)
    (hn : ¬ bounds.maxItems.exceededBy n) :
    (∃ ts, List.Forall₂ (fun v t => tree heap left v = some t) vs ts ∧ FitAll bounds (d + 1) n ts ∧
      Reaches bounds heap ⟨children d vs ++ rest, path, n⟩ ⟨rest, path, n + (ts.map Tree.items).sum⟩) ∨
    ((∃ reason, Ends bounds heap ⟨children d vs ++ rest, path, n⟩ (some reason)) ∧
      ∀ ts, List.Forall₂ (Shows heap) vs ts → FitAll bounds (d + 1) n ts →
        ∃ a ∈ path, ∃ u, Shows heap (.object a) u ∧ ∃ t ∈ ts, sizeOf u ≤ sizeOf t) := by
  induction vs generalizing n with
  | nil => exact .inl ⟨[], .nil, ⟨by simp, hn⟩, 0, fun fuel => rfl⟩
  | cons v vs ih =>
    obtain ⟨t, ht, hfits, hreach⟩ | ⟨hends, hfail⟩ := h v (d + 1) n (children d vs ++ rest)
    · obtain ⟨ts, hts, hall, hreach'⟩ | ⟨hends, hfail⟩ := ih (hfits.not_exceededBy hn)
      · refine .inl ⟨t :: ts, .cons ht hts, fitAll_cons.mpr ⟨hfits, hall⟩, ?_⟩
        rw [List.map_cons, List.sum_cons, ← Nat.add_assoc]
        exact hreach.trans hreach'
      · refine .inr ⟨hends.imp fun _ => hreach.ends, ?_⟩
        rintro _ (_ | ⟨ht', hts⟩) hall
        obtain rfl := ht'.unique ⟨left, ht⟩
        obtain ⟨a, ha, u, hu, w, hw, hsize⟩ := hfail _ hts (fitAll_cons.mp hall).2
        exact ⟨a, ha, u, hu, w, .tail _ hw, hsize⟩
    · refine .inr ⟨hends, ?_⟩
      rintro _ (_ | ⟨ht, hts⟩) hall
      obtain ⟨a, ha, u, hu, hsize⟩ := hfail _ ht (fitAll_cons.mp hall).1
      exact ⟨a, ha, u, hu, _, .head _, hsize⟩

lemma settled_leaf (hd : ¬ bounds.maxDepth.exceededBy d) (hv : tree heap left v = some t)
    (hnode : ¬ t.IsNode) (htexts : ∀ text ∈ t.ownTexts, ¬ bounds.tooLong text)
    (hstep : step bounds heap ⟨v, d, false⟩ ⟨rest, path, n⟩ = .ok ⟨rest, path, n⟩) :
    Settled bounds heap left path v d n rest := by
  have hadmits : Admits bounds d t :=
    admits_iff.mpr ⟨hd, htexts, fun c hc => absurd (Tree.isNode_of_mem hc) hnode⟩
  refine .inl ⟨t, hv, ⟨hadmits, fun h => absurd h hnode⟩, ?_⟩
  rw [Tree.items_eq_zero hnode]
  exact reaches_step hstep

lemma settled_object (h : ∀ v d n rest, Settled bounds heap left (a :: path) v d n rest) (ha : a ∉ path)
    (hd : ¬ bounds.maxDepth.exceededBy d) :
    Settled bounds heap (left + 1) path (.object a) d n rest := by
  cases hcomplaint : complaint bounds n (heap a) with
  | some reason =>
    refine .inr ⟨⟨reason, ends_step (by simp [step, hd, ha, hcomplaint])⟩, fun t ht hfits => ?_⟩
    obtain ⟨hregular, ts, hts, rfl⟩ := ht.object
    obtain ⟨-, hkeys, hall⟩ := (fits_build hregular hts.length_eq.symm).mp hfits
    have hn : ¬ bounds.maxItems.exceededBy (n + (heap a).size) :=
      fun hn => hall.items (Limit.exceededBy_mono (Nat.le_add_right _ _) hn)
    rw [complaint_eq_none_iff.mpr ⟨hregular, hkeys, hn⟩] at hcomplaint
    cases hcomplaint
  | none =>
    obtain ⟨hregular, hkeys, hn⟩ := complaint_eq_none_iff.mp hcomplaint
    have hentered : Reaches bounds heap ⟨⟨.object a, d, false⟩ :: rest, path, n⟩
        ⟨children d (heap a).taken ++ ⟨.object a, d, true⟩ :: rest, a :: path, n + (heap a).size⟩ :=
      reaches_step (by simp [step, hd, ha, hcomplaint])
    obtain ⟨ts, hts, hall, hreach⟩ | ⟨⟨reason, hends⟩, hfail⟩ := settled_children h hn
    · obtain ⟨us, hus, hperm⟩ := List.perm_comp_forall₂ Cell.taken_perm.symm hts
      have hlength := hus.length_eq.symm
      refine .inl ⟨_, tree_object.mpr ⟨hregular, us, hus, rfl⟩,
        (fits_build hregular hlength).mpr ⟨hd, hkeys, hall.perm hperm.symm⟩,
        (hentered.trans hreach).trans ?_⟩
      rw [Tree.items_eq, Cell.children_build hlength, hlength, (hperm.map _).sum_eq, ← Nat.add_assoc,
        Cell.length_values hregular]
      exact reaches_step (by simp [step])
    · refine .inr ⟨⟨reason, hentered.ends hends⟩, fun t ht hfits => ?_⟩
      obtain ⟨-, us, hus, rfl⟩ := ht.object
      have hlength := hus.length_eq.symm
      obtain ⟨ts, hts, hperm⟩ := List.perm_comp_forall₂ Cell.taken_perm hus
      have hall := ((fits_build hregular hlength).mp hfits).2.2.perm hperm.symm
      obtain ⟨b, hb, u, hu, w, hw, hsize⟩ := hfail ts hts hall
      have hlt : sizeOf w < sizeOf ((heap a).build us) :=
        Tree.sizeOf_lt (by rwa [Cell.children_build hlength, ← hperm.mem_iff])
      obtain rfl | hb := List.mem_cons.mp hb
      · -- a tree is not below itself
        rw [hu.unique ht] at hsize
        omega
      · exact ⟨b, hb, u, hu, by omega⟩

/-- By induction on the addresses that are not on the path. -/
lemma settled [Fintype α] (hnodup : path.Nodup) (hleft : Fintype.card α ≤ path.length + left) :
    Settled bounds heap left path v d n rest := by
  induction left using Nat.strong_induction_on generalizing path v d n rest with
  | _ left ih =>
    by_cases hd : bounds.maxDepth.exceededBy d
    · exact .inr ⟨⟨.depth, ends_step (by simp [step, hd])⟩,
        fun t _ hfits => absurd hd (admits_iff.mp hfits.admits).1⟩
    cases v with
    | null | boolean _ =>
      exact settled_leaf hd (by rw [tree]) id (List.forall_mem_nil _) (by simp [step, hd])
    | number q =>
      cases q with
      | none =>
        refine .inr ⟨⟨.notFinite, ends_step (by simp [step, hd])⟩, ?_⟩
        rintro t ⟨fuel, ht⟩
        rw [tree] at ht
        cases ht
      | some q => exact settled_leaf hd (by rw [tree]; rfl) id (List.forall_mem_nil _) (by simp [step, hd])
    | string text =>
      by_cases htext : bounds.tooLong text
      · refine .inr ⟨⟨.string, ends_step (by simp [step, hd, htext])⟩, ?_⟩
        rintro t ⟨fuel, ht⟩ hfits
        rw [tree] at ht
        cases ht
        exact absurd htext ((admits_iff.mp hfits.admits).2.1 text (.head _))
      · exact settled_leaf (t := .string text) hd (by rw [tree]) id (List.forall_mem_singleton.mpr htext)
          (by simp [step, hd, htext])
    | other =>
      refine .inr ⟨⟨.incompatible, ends_step (by simp [step, hd])⟩, ?_⟩
      rintro t ⟨fuel, ht⟩
      rw [tree] at ht
      cases ht
    | object a =>
      by_cases ha : a ∈ path
      · exact .inr ⟨⟨.cyclic, ends_step (by simp [step, hd, ha])⟩, fun t ht _ => ⟨a, ha, t, ht, le_rfl⟩⟩
      · have hnodup' := List.nodup_cons.mpr ⟨ha, hnodup⟩
        have hcard : path.length + 1 ≤ Fintype.card α := hnodup'.length_le_card
        obtain ⟨k, rfl⟩ : ∃ k, left = k + 1 := ⟨left - 1, by omega⟩
        exact settled_object (fun v d n rest => ih k (by omega) hnodup'
          (by rw [List.length_cons]; omega)) ha hd

/-- The walk ends for every value in memory.  It accepts the value of a tree where the tree's depth, every
string and key, the items of an array or an object, and the JSON are within the limits, and it refuses
every value that reaches a cycle. -/
theorem validateJsonBounds_eq_none_iff [Fintype α] (numberText : ℚ → List ℕ) (heap : α → Cell α)
    (bounds : JsonBounds) (v : Value α) :
    ∃ fuel r, (∀ more, validateJsonBounds numberText heap bounds (more + fuel) v = some r) ∧
      (∀ t, Shows heap v t →
        (r = none ↔ Fits bounds 0 0 t ∧
          ¬ bounds.maxBytes.exceededBy (byteLength (t.stringify numberText)))) ∧
      (Cyclic heap v → ∃ reason, r = some reason) := by
  obtain ⟨t, ht, hfits, hreach⟩ | ⟨⟨reason, k, hk⟩, hfail⟩ :=
    (settled .nil (Nat.le_add_left _ 0) : Settled bounds heap (Fintype.card α) [] v 0 0 [])
  · obtain ⟨k, hk⟩ := hreach.ends (r := none) ⟨1, fun _ => rfl⟩
    refine ⟨k, _, fun more => by rw [validateJsonBounds, hk, ht]; rfl, fun u hu => ?_,
      fun h => absurd ⟨_, ht⟩ h.not_shows⟩
    obtain rfl := hu.unique ⟨_, ht⟩
    by_cases hbytes : bounds.maxBytes.exceededBy (byteLength (u.stringify numberText))
    · simp [hbytes]
    · simp [hbytes, hfits]
  · refine ⟨k, some reason, fun more => by rw [validateJsonBounds, hk]; rfl, fun t ht => ?_,
      fun _ => ⟨reason, rfl⟩⟩
    refine iff_of_false (Option.some_ne_none _) fun h => ?_
    obtain ⟨a, ha, -⟩ := hfail t ht h.1
    cases ha

def belowZero : JsonBounds := ⟨.infinity, .infinity, .finite (-1), .infinity⟩

/-- No items are more than the limit, and `null` is accepted. -/
theorem null_accepted : validateJsonBounds (fun _ => []) (fun _ : Unit => .array []) belowZero 2 .null = some none ∧
    Shows (fun _ : Unit => .array []) .null .null ∧ belowZero.maxItems.exceededBy Tree.null.items := by
  refine ⟨rfl, ⟨0, rfl⟩, ?_⟩
  rw [Tree.items_eq_zero id]
  decide

end VacancyRadar.Shared
