import Archspec.Lib.Json

/-!
# Lookups in a JSON tree

The member of an object with a key (`get`), the items of an array (`items`) and the bytes of a
string (`text`).  A reader of documents is written with these, without a case for what cannot be.
-/

namespace Lib

namespace Json

/-- The value of the first member with a key. -/
def get (key : Bytes) : Json → Option Json
  | object members => members.lookup key
  | _ => none

/-- The items of an array. -/
def items : Json → List Json
  | array items => items
  | _ => []

/-- The bytes of a string. -/
def text : Json → Bytes
  | string text => text
  | _ => []

variable {key : Bytes}

@[simp] theorem get_object_nil : (object []).get key = none := rfl

@[simp] theorem get_object_cons (name : Bytes) (value : Json) (members : List (Bytes × Json)) :
    (object ((name, value) :: members)).get key =
      if key = name then some value else (object members).get key := by
  show List.lookup key ((name, value) :: members) = _
  by_cases h : key = name
  · rw [if_pos h, h, List.lookup_cons_self]
  · rw [if_neg h, List.lookup_cons, beq_false_of_ne h]
    rfl

@[simp] theorem items_array (items : List Json) : (array items).items = items := rfl

@[simp] theorem text_string (text : Bytes) : (string text).text = text := rfl

/-- The members of an object that is made from values with distinct keys. -/
theorem get_object_map {α : Type} [DecidableEq α] {toKey : α → Bytes}
    (hkey : Function.Injective toKey) (toJson : α → Json) (values : List α) (a : α) :
    (object (values.map fun b => (toKey b, toJson b))).get (toKey a) =
      if a ∈ values then some (toJson a) else none := by
  induction values with
  | nil => rfl
  | cons b values ih =>
    rw [List.map_cons, get_object_cons, ih]
    by_cases h : a = b
    · subst h
      rw [if_pos rfl, if_pos List.mem_cons_self]
    · rw [if_neg fun heq => h (hkey heq)]
      simp only [List.mem_cons, h, false_or]

end Json

end Lib
