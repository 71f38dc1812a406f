import Archspec.Core

/-!
# The Python binding

`_native.cc`: the parser of the `categories` argument.  A Python `str` comes in as the bytes of its
UTF-8 form, up to the first NUL; one with a lone surrogate has none.
-/

namespace Archspec

open Lib

namespace Python

/-- A Python object, as far as the parser of categories tells them apart. -/
inductive Object where
  | none
  | str (utf8 : Option Bytes)
  | iterable (items : List Object)
  | other

/-- The exceptions of the parser. -/
inductive Exception where
  | valueError (message : Bytes)
  | typeError (message : Bytes)
  | unicodeEncodeError
  deriving DecidableEq

def kCategories : List (Bytes × CollectCategory) :=
  [("os", .os), ("cpu", .cpu), ("isa", .isa), ("cache", .cache), ("memory", .memory), ("pci", .pci),
   ("gpu", .gpu), ("perf", .perf), ("block", .block), ("net", .net), ("thermal", .thermal),
   ("power", .power), ("virtualization", .virtualization), ("platform", .platform)]

def addCategory (categories : CollectCategory) (name : Bytes) : Option CollectCategory :=
  (kCategories.find? fun entry => name = entry.1).map fun entry => categories ||| entry.2

def parseCategoryName (categories : CollectCategory) (name : Bytes) :
    Except Exception CollectCategory :=
  if name = [] then .error (.valueError "category names must not be empty")
  else if name = "all" then .ok .all
  else match addCategory categories name with
    | some categories => .ok categories
    | none => .error (.valueError ("unknown category '" ++ name ++ "'"))

/-- One object of an iterable. -/
def parseItem (categories : CollectCategory) : Object → Except Exception CollectCategory
  | .str (some utf8) => parseCategoryName categories (cString utf8)
  | .str none => .error .unicodeEncodeError
  | _ => .error (.typeError "each category must be a string")

def parseCategories : Object → Except Exception CollectCategory
  | .none => .ok .all
  | .str (some utf8) => ((cString utf8).splitOn 44).foldlM parseCategoryName .none
  | .str none => .error .unicodeEncodeError
  | .iterable items => do
    let categories ← items.foldlM parseItem .none
    if categories = .none then .error (.valueError "categories must not be empty")
    else .ok categories
  | .other =>
    .error (.typeError "categories must be a string, iterable of strings, or None")

end Python

end Archspec
