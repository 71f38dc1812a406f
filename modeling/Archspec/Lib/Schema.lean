import Mathlib.Data.List.Nodup
import Archspec.Lib.Json

/-!
# JSON schemas

A fragment of JSON Schema over the trees of `Lib.Json`: a `Schema` is an assertion about an
instance, and `Schema.valid` decides it.  As in the specification, an assertion about objects or
arrays says nothing about an instance of another type, a constant is compared as a JSON value
(`Json.equal`: the order of members and the spelling of a number do not matter), and
`additionalProperties` refers to the keys of `properties` beside it.

Each kind of assertion has its rule (`valid_all`, `valid_object`, `valid_array`, …), and
`equal_string` reduces the comparison of names to that of their bytes.
-/

namespace Lib

namespace Json

/-! ## Equality of values -/

/-- Numbers are equal when they are after scaling to the smaller exponent. -/
def equalNumber (m e m' e' : ℤ) : Bool :=
  m * 10 ^ (e - min e e').toNat == m' * 10 ^ (e' - min e e').toNat

mutual

/-- Equality of JSON values. -/
def equal : Json → Json → Bool
  | null, j' => match j' with
    | null => true
    | _ => false
  | bool b, j' => match j' with
    | bool b' => b == b'
    | _ => false
  | number m e, j' => match j' with
    | number m' e' => equalNumber m e m' e'
    | _ => false
  | string s, j' => match j' with
    | string s' => s == s'
    | _ => false
  | array items, j' => match j' with
    | array items' => equalItems items items'
    | _ => false
  | object members, j' => match j' with
    | object members' => members.length == members'.length && equalMembers members members'
    | _ => false
termination_by structural j => j

def equalItems : List Json → List Json → Bool
  | [], items' => items'.isEmpty
  | j :: js, items' => match items' with
    | [] => false
    | j' :: js' => equal j j' && equalItems js js'
termination_by structural j => j

/-- Every member has its equal under the same key. -/
def equalMembers : List (Bytes × Json) → List (Bytes × Json) → Bool
  | [], _ => true
  | m :: ms, members' => equalMember m members' && equalMembers ms members'
termination_by structural j => j

def equalMember : Bytes × Json → List (Bytes × Json) → Bool
  | (key, j), members' => match members'.lookup key with
    | some j' => equal j j'
    | none => false
termination_by structural j => j

end

@[simp] theorem equal_string (s t : Bytes) : equal (string s) (string t) = (s == t) := by
  rw [equal]

/-! ## Schemas -/

/-- The types of instances. -/
inductive Kind where
  | null
  | boolean
  | number
  | string
  | array
  | object
  deriving DecidableEq

/-- The type of an instance. -/
def kind : Json → Kind
  | null => .null
  | bool _ => .boolean
  | number _ _ => .number
  | string _ => .string
  | array _ => .array
  | object _ => .object

end Json

/-- An assertion about an instance. -/
inductive Schema where
  /-- `type` -/
  | type (kinds : List Json.Kind)
  /-- `const` and `enum`: the instance is one of the values. -/
  | enum (values : List Json)
  /-- `required` -/
  | required (keys : List Bytes)
  /-- `properties`; when they are closed, `additionalProperties` is false. -/
  | properties (members : List (Bytes × Schema)) (closed : Bool)
  /-- `items` -/
  | items (item : Schema)
  /-- `uniqueItems` -/
  | uniqueItems
  /-- A schema object: all of its assertions. -/
  | all (assertions : List Schema)

namespace Schema

open Json

/-- No two items are equal. -/
def distinctItems : List Json → Bool
  | [] => true
  | j :: js => js.all (fun j' => !equal j j') && distinctItems js

mutual

/-- The instance satisfies the assertion. -/
def valid : Schema → Json → Bool
  | type kinds, j => kinds.contains j.kind
  | enum values, j => values.any (equal j)
  | required keys, object ms => keys.all fun key => ms.any fun m => m.1 == key
  | properties members closed, object ms =>
    validProperties members ms &&
      (!closed || ms.all fun m => members.any fun p => p.1 == m.1)
  | items item, array js => js.all (valid item)
  | uniqueItems, array js => distinctItems js
  | all assertions, j => validAll assertions j
  | _, _ => true

def validAll : List Schema → Json → Bool
  | [], _ => true
  | s :: ss, j => valid s j && validAll ss j

/-- Every member under the key of a property satisfies its schema. -/
def validProperties : List (Bytes × Schema) → List (Bytes × Json) → Bool
  | [], _ => true
  | p :: ps, ms => validProperty p ms && validProperties ps ms

def validProperty : Bytes × Schema → List (Bytes × Json) → Bool
  | (key, schema), ms => ms.all fun m => m.1 != key || valid schema m.2

end

theorem validAll_eq_all (ss : List Schema) (j : Json) : validAll ss j = ss.all (valid · j) := by
  induction ss with
  | nil => rfl
  | cons s ss ih => rw [validAll, ih, List.all_cons]

theorem validProperties_iff (ps : List (Bytes × Schema)) (ms : List (Bytes × Json)) :
    validProperties ps ms = true ↔ ∀ p ∈ ps, ∀ m ∈ ms, m.1 = p.1 → p.2.valid m.2 = true := by
  induction ps with
  | nil => simp [validProperties]
  | cons p ps ih =>
    obtain ⟨key, schema⟩ := p
    rw [validProperties, Bool.and_eq_true, ih, List.forall_mem_cons, validProperty, List.all_eq_true]
    refine and_congr_left fun _ => forall₂_congr fun m _ => ?_
    rw [Bool.or_eq_true, bne_iff_ne, ne_eq, ← imp_iff_not_or]

/-! ## The rules of validity -/

@[simp] theorem valid_type (kinds : List Kind) (j : Json) :
    (type kinds).valid j = true ↔ j.kind ∈ kinds := by
  rw [valid, List.contains_iff_mem]

@[simp] theorem valid_all (ss : List Schema) (j : Json) :
    (all ss).valid j = true ↔ ∀ s ∈ ss, s.valid j = true := by
  rw [valid, validAll_eq_all, List.all_eq_true]

@[simp] theorem valid_required (keys : List Bytes) (ms : List (Bytes × Json)) :
    (required keys).valid (object ms) = true ↔ ∀ key ∈ keys, key ∈ ms.map Prod.fst := by
  simp only [valid, List.all_eq_true, List.any_eq_true, beq_iff_eq, List.mem_map]

@[simp] theorem valid_properties (ps : List (Bytes × Schema)) (closed : Bool)
    (ms : List (Bytes × Json)) :
    (properties ps closed).valid (object ms) = true ↔
      (∀ p ∈ ps, ∀ m ∈ ms, m.1 = p.1 → p.2.valid m.2 = true) ∧
        (closed = true → ∀ m ∈ ms, m.1 ∈ ps.map Prod.fst) := by
  rw [valid, Bool.and_eq_true, validProperties_iff]
  refine and_congr_right fun _ => ?_
  simp only [Bool.or_eq_true, Bool.not_eq_true', List.all_eq_true, List.any_eq_true, beq_iff_eq,
    List.mem_map, ← Bool.not_eq_true, ← imp_iff_not_or]

/-- An object whose members all have a property of their own that they satisfy. -/
theorem valid_properties_of {ps : List (Bytes × Schema)} {ms : List (Bytes × Json)}
    (hkeys : (ps.map Prod.fst).Nodup)
    (h : ∀ m ∈ ms, ∃ schema, (m.1, schema) ∈ ps ∧ schema.valid m.2 = true) (closed : Bool) :
    (properties ps closed).valid (object ms) = true := by
  rw [valid_properties]
  refine ⟨fun p hp m hm hkey => ?_, fun _ m hm => ?_⟩
  · obtain ⟨schema, hschema, hvalid⟩ := h m hm
    have heq : p = (m.1, schema) := List.inj_on_of_nodup_map hkeys hp hschema hkey.symm
    rw [heq]
    exact hvalid
  · obtain ⟨schema, hschema, -⟩ := h m hm
    exact List.mem_map_of_mem hschema

@[simp] theorem valid_items (item : Schema) (js : List Json) :
    (items item).valid (array js) = true ↔ ∀ j ∈ js, item.valid j = true := by
  rw [valid, List.all_eq_true]

/-- A name among the values. -/
@[simp] theorem valid_enum_string (names : List Bytes) (s : Bytes) :
    (enum (names.map string)).valid (string s) = true ↔ s ∈ names := by
  simp [valid]

theorem distinctItems_iff (js : List Json) :
    distinctItems js = true ↔ js.Pairwise fun j j' => equal j j' = false := by
  induction js with
  | nil => simp [distinctItems]
  | cons j js ih =>
    rw [distinctItems, Bool.and_eq_true, ih, List.pairwise_cons, List.all_eq_true]
    simp only [Bool.not_eq_true']

/-- Distinct names are distinct items. -/
theorem valid_uniqueItems_strings {names : List Bytes} (h : names.Nodup) :
    uniqueItems.valid (array (names.map string)) = true := by
  rw [valid, distinctItems_iff, List.pairwise_map]
  refine h.imp fun {s t} hst => ?_
  rw [equal_string, beq_eq_false_iff_ne]
  exact hst

end Schema

end Lib
