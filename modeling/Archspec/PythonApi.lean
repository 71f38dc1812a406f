import Archspec.CommandLines
import Archspec.Lib.Utf8

/-!
# The Python interface and the command line

`collect_json` of `_native.cc` and `collect` of `__init__.py`: the arguments are turned into options
(`Python.parseOptions`), a report is collected and encoded, and the text is decoded, first as UTF-8
and then as JSON.

The interface is a second front end of the same library: `python_call` says that a call either
raises an exception before it asks the system anything, or returns what the tool prints for the same
options (`CollectOptions.commandLine`).
-/

namespace Archspec

open Lib Program

/-! ## The interface -/

namespace Python

/-- The exceptions of a call. -/
inductive Raised where
  | exception (e : Exception)
  | unicodeDecodeError
  | jsonDecodeError
  deriving DecidableEq

/-- `assign_root`: the new value of a root. -/
def assignRoot (argument destination : Bytes) : Object → Except Exception Bytes
  | .none => .ok destination
  | .str (some utf8) => .ok (cString utf8)
  | .str none => .error .unicodeEncodeError
  | _ => .error (.typeError (argument ++ " must be a string or None"))

/-- The arguments of a call, by their names; the flags by their truth values. -/
structure Arguments where
  categories : Object := .none
  (includeSensitive allowPerfOpen allowSlowProbes allowVendorLibraries : Bool := false)
  (procfsRoot sysfsRoot etcRoot devRoot : Object := .none)

/-- The options of a call. -/
def parseOptions (args : Arguments) : Except Exception CollectOptions := do
  let options : CollectOptions := {}
  let categories ← parseCategories args.categories
  let procfsRoot ← assignRoot "procfs_root" options.procfsRoot args.procfsRoot
  let sysfsRoot ← assignRoot "sysfs_root" options.sysfsRoot args.sysfsRoot
  let etcRoot ← assignRoot "etc_root" options.etcRoot args.etcRoot
  let devRoot ← assignRoot "dev_root" options.devRoot args.devRoot
  return { categories, procfsRoot, sysfsRoot, etcRoot, devRoot
           includeSensitive := args.includeSensitive
           allowPerfOpen := args.allowPerfOpen
           allowSlowProbes := args.allowSlowProbes
           allowVendorLibraries := args.allowVendorLibraries }

/-- `PyUnicode_FromStringAndSize`: a `str` is held in the bytes of its UTF-8 form. -/
def decode (text : Bytes) : Except Raised Bytes :=
  if Utf8 text then .ok text else .error .unicodeDecodeError

/-- `collect_json`; `arch` is what the storage of the collected record held. -/
def collectJson (arch : ArchType) (args : Arguments) : Collect (Except Raised Bytes) :=
  match parseOptions args with
  | .error e => return .error (.exception e)
  | .ok options => do
    let report ← collectReport arch options
    return decode report.toJson

/-- `json.loads` -/
def loads (text : Bytes) : Except Raised Json :=
  match Json.parse text with
  | some tree => .ok tree
  | none => .error .jsonDecodeError

/-- `collect` of the package. -/
def collect (arch : ArchType) (args : Arguments) : Collect (Except Raised Json) := do
  let text ← collectJson arch args
  return text >>= loads

end Python

/-! ## Accepted arguments -/

/-- A computation that goes on with a result goes on with one. -/
theorem bind_eq_ok {ε α β : Type} {x : Except ε α} {f : α → Except ε β} {result : β} :
    x >>= f = .ok result ↔ ∃ value, x = .ok value ∧ f value = .ok result := by
  cases x with
  | error e => exact iff_of_false (fun h => by cases h) (fun ⟨_, h, _⟩ => by cases h)
  | ok value =>
    show f value = .ok result ↔ _
    simp

namespace Python

/-- Behind an object of an iterable, some category is selected. -/
theorem parseItem_selects {mask mask' : CollectCategory} {object : Object}
    (h : parseItem mask object = .ok mask') : ∃ c, mask'.Selects c := by
  cases object with
  | str utf8 =>
    cases utf8 with
    | none => cases h
    | some utf8 =>
      have hcovers := parseCategoryName_step.selects_iff h
      rcases (parseCategoryName_step.ok_iff mask _).1 ⟨mask', h⟩ with hname | ⟨c, hname⟩
      · exact ⟨.os, (hcovers .os).2 (.inr (.inl hname))⟩
      · exact ⟨c, (hcovers c).2 (.inr (.inr hname))⟩
  | none => cases h
  | iterable items => cases h
  | other => cases h

theorem foldlM_parseItem_selects {objects : List Object} {mask mask' : CollectCategory}
    (h : objects.foldlM parseItem mask = .ok mask') :
    (objects = [] ∧ mask' = mask) ∨ ∃ c, mask'.Selects c := by
  induction objects generalizing mask with
  | nil =>
    cases h
    exact .inl ⟨rfl, rfl⟩
  | cons object objects ih =>
    rw [List.foldlM_cons] at h
    cases hstep : parseItem mask object with
    | error e =>
      rw [hstep] at h
      cases h
    | ok next =>
      rw [hstep] at h
      rcases ih h with ⟨-, rfl⟩ | hselects
      · exact .inr (parseItem_selects hstep)
      · exact .inr hselects

/-- The categories of a call select something. -/
theorem parseCategories_selects {object : Object} {mask : CollectCategory}
    (h : parseCategories object = .ok mask) : ∃ c, mask.Selects c := by
  cases object with
  | none =>
    cases h
    exact ⟨.os, all_selects .os⟩
  | str utf8 =>
    cases utf8 with
    | none => cases h
    | some utf8 =>
      rw [parseCategories] at h
      obtain ⟨name, hname⟩ := List.exists_mem_of_ne_nil _ (List.splitOn_ne_nil 44 (cString utf8))
      have hcovers := parseCategoryName_step.foldlM_selects_iff h
      rcases (parseCategoryName_step.foldlM_ok_iff _ _).1 ⟨mask, h⟩ name hname with hall | ⟨c, hc⟩
      · exact ⟨.os, (hcovers .os).2 (.inr ⟨name, hname, .inl hall⟩)⟩
      · exact ⟨c, (hcovers c).2 (.inr ⟨name, hname, .inr hc⟩)⟩
  | iterable items =>
    rw [parseCategories] at h
    obtain ⟨mask', hfold, h⟩ := bind_eq_ok.1 h
    by_cases hnone : mask' = .none
    · rw [if_pos hnone] at h
      cases h
    · rw [if_neg hnone] at h
      cases h
      rcases foldlM_parseItem_selects hfold with ⟨-, hempty⟩ | hselects
      · exact absurd hempty hnone
      · exact hselects
  | other => cases h

/-- The bytes of a `str` argument hold no NUL. -/
theorem zero_notMem_cString (text : Bytes) : 0 ∉ cString text := by
  intro hmem
  simpa using List.mem_takeWhile_imp hmem

theorem assignRoot_plain {argument destination root : Bytes} {object : Object}
    (hdestination : 0 ∉ destination) (h : assignRoot argument destination object = .ok root) :
    0 ∉ root := by
  cases object with
  | none =>
    cases h
    exact hdestination
  | str utf8 =>
    cases utf8 with
    | none => cases h
    | some utf8 =>
      cases h
      exact zero_notMem_cString utf8
  | iterable items => cases h
  | other => cases h

/-- What is known of accepted arguments. -/
theorem parseOptions_spec {args : Arguments} {options : CollectOptions}
    (h : parseOptions args = .ok options) :
    (∃ c, options.categories.Selects c) ∧ ∀ root ∈ options.roots, 0 ∉ root := by
  rw [parseOptions] at h
  obtain ⟨categories, hcategories, h⟩ := bind_eq_ok.1 h
  obtain ⟨procfsRoot, hprocfs, h⟩ := bind_eq_ok.1 h
  obtain ⟨sysfsRoot, hsysfs, h⟩ := bind_eq_ok.1 h
  obtain ⟨etcRoot, hetc, h⟩ := bind_eq_ok.1 h
  obtain ⟨devRoot, hdev, h⟩ := bind_eq_ok.1 h
  cases h
  refine ⟨parseCategories_selects hcategories, ?_⟩
  simp only [CollectOptions.roots, List.forall_mem_cons]
  refine ⟨assignRoot_plain (by decide) hprocfs, assignRoot_plain (by decide) hsysfs,
    assignRoot_plain (by decide) hetc, assignRoot_plain (by decide) hdev, ?_⟩
  simp

end Python

/-- A call whose arguments are refused raises before it asks the system anything.  Every other call
decodes what the tool prints for the same options, but for the newline behind it: the text as it is,
when it is UTF-8, and its tree.  Nothing the tool prints fails to parse. -/
theorem python_call (arch : ArchType) (args : Python.Arguments) :
    (∃ e, Python.parseOptions args = .error e ∧
      Python.collectJson arch args = return .error (.exception e)) ∨
    ∃ options, Python.parseOptions args = .ok options ∧
      (∀ argument ∈ options.commandLine, 0 ∉ argument) ∧
      ∀ env, ∃ text tree, Json.parse text = some tree ∧
        (main arch options.commandLine).run env = { exitCode := 0, stdout := text ++ "\n" } ∧
        (Python.collectJson arch args).run env = Python.decode text ∧
        (Python.collect arch args).run env =
          if Utf8 text then .ok tree else .error .unicodeDecodeError := by
  cases hoptions : Python.parseOptions args with
  | error e =>
    refine .inl ⟨e, rfl, ?_⟩
    rw [Python.collectJson, hoptions]
  | ok options =>
    obtain ⟨hselects, hroots⟩ := Python.parseOptions_spec hoptions
    refine .inr ⟨options, rfl, zero_notMem_commandLine hroots, fun env => ?_⟩
    have hjson : (Python.collectJson arch args).run env =
        Python.decode ((collectReport arch options).run env).toJson := by
      simp only [Python.collectJson, hoptions, run_bind, run_pure]
    refine ⟨_, ((collectReport arch options).run env).node.json, ?_,
      main_commandLine env arch hselects, hjson, ?_⟩
    · rw [Report.toJson_eq_render, Json.parse_render]
    · simp only [Python.collect, run_bind, run_pure, hjson, Python.decode]
      split
      · show Python.loads _ = _
        rw [Python.loads, Report.toJson_eq_render, Json.parse_render]
      · rfl

end Archspec
