import Archspec.Core

/-!
# What the readers return

Against a fixed environment a reader depends on what its path holds: a text (`Env.text`), a first
line (`Env.line`) or the names of a directory (`Env.names`), and the reason when there is none
(`Env.failure`).  The collectors of the processor, of the features, of the counters and of
virtualization all read the blocks of cpuinfo (`Env.cpuBlocks`).
-/

namespace Archspec

open Lib Program

/-! ## What a path holds -/

namespace Env

variable (env : Env)

/-- The text of a file that can be read. -/
def text (path : Bytes) : Option Bytes :=
  (env (.openFile path)).bind fun file => if file.badCopy then none else some file.content

/-- The first line of a file that can be read. -/
def line (path : Bytes) : Option Bytes :=
  (env (.openFile path)).bind fun file => if file.badLine then none else some (firstLine file.content)

/-- The status of a file that cannot be read. -/
def failure (path : Bytes) : Status :=
  match env (.openFile path) with
  | none => (env (.pathExists path)).pathErrorStatus
  | some _ => .internalError

/-- The names in a directory, in order. -/
def names (path : Bytes) : List EntryName :=
  match env (.listDirectory path) with
  | none => []
  | some listing => listing.entries.insertionSort fun a b => lexLe a.name b.name

/-- The blocks of cpuinfo, none when it cannot be read. -/
def cpuBlocks (options : CollectOptions) : List KeyValueMap :=
  match env.text (procPath options "/cpuinfo") with
  | none => []
  | some text => parseColonBlocks text

theorem failure_ne_ok (path : Bytes) : env.failure path ≠ .ok := by
  rw [failure]
  split
  · obtain _ | _ | _ | _ | _ | _ | _ := env (.pathExists path) <;> decide
  · decide

end Env

/-! ## Values of fields -/

/-- The value of a valid field. -/
def Field.value? {α : Type} (field : Field α) : Option α :=
  if field.valid then some field.value else none

theorem value?_of_valid {α : Type} {field : Field α} (h : field.valid = true) :
    field.value? = some field.value := if_pos h

theorem value?_of_not_valid {α : Type} {field : Field α} (h : ¬ field.valid = true) :
    field.value? = none := if_neg h

section Values

variable {α : Type}

@[simp] theorem value?_ofValue (value : α) : (Field.ofValue value).value? = some value := rfl

variable [Inhabited α]

@[simp] theorem value?_initial : (Field.initial : Field α).value? = none := rfl
@[simp] theorem value?_unavailable (status : Status) :
    (Field.unavailable status : Field α).value? = none := rfl

end Values

/-! ## The readers -/

section Readers

variable (env : Env)

theorem run_readFile (path : Bytes) :
    (readFile path).run env =
      match env.text path with
      | none => { status := env.failure path }
      | some text => { status := .ok, value := text } := by
  unfold readFile Env.text Env.failure
  rw [run_bind, run_call]
  cases env (.openFile path) with
  | none => rfl
  | some file =>
    rw [run_pure, Option.bind_some]
    cases file.badCopy <;> rfl

theorem run_readFirstLine (path : Bytes) :
    (readFirstLine path).run env =
      match env.line path with
      | none => { status := env.failure path }
      | some line => { status := .ok, value := line } := by
  unfold readFirstLine Env.line Env.failure
  rw [run_bind, run_call]
  cases env (.openFile path) with
  | none => rfl
  | some file =>
    rw [run_pure, Option.bind_some]
    cases file.badLine <;> rfl

theorem run_readParsed {α : Type} [Inhabited α] (parse : Bytes → Option α) (path : Bytes) :
    (readParsed parse path).run env =
      match env.line path with
      | none => .unavailable (env.failure path)
      | some line =>
        match parse line with
        | some value => .ofValue value
        | none => .unavailable .parseError := by
  unfold readParsed
  rw [run_bind, run_readFirstLine]
  cases env.line path with
  | none => rw [run_ite, if_pos (env.failure_ne_ok path), run_pure]
  | some line =>
    rw [run_ite, if_neg (fun h => h rfl)]
    dsimp only
    cases parse line <;> rfl

theorem run_readParsed_value {α : Type} [Inhabited α] (parse : Bytes → Option α) (path : Bytes) :
    ((readParsed parse path).run env).value? = (env.line path).bind parse := by
  rw [run_readParsed]
  cases env.line path with
  | none => rfl
  | some line =>
    dsimp only
    rw [Option.bind_some]
    cases parse line <;> rfl

theorem run_readStringField (path : Bytes) (trimValue : Bool) :
    (readStringField path trimValue).run env =
      match env.line path with
      | none => .unavailable (env.failure path)
      | some line => .ofValue (if trimValue then trim line else line) :=
  run_readParsed env _ path

theorem run_readStringField_value (path : Bytes) :
    ((readStringField path).run env).value? = (env.line path).map trim := by
  rw [readStringField, run_readParsed_value]
  cases env.line path <;> rfl

theorem run_listDir (path : Bytes) : (listDir path).run env = env.names path := by
  unfold listDir Env.names
  rw [run_bind, run_call]
  cases env (.listDirectory path) <;> rfl

/-- The first of the files whose trimmed first line is accepted. -/
theorem run_firstAccepted (accept : Bytes → Bool) (paths : List Bytes) :
    (firstAccepted accept paths).run env =
      match (paths.filterMap fun path => (env.line path).map trim).find? accept with
      | some value => .ofValue value
      | none => .unavailable .notFound := by
  induction paths with
  | nil => rfl
  | cons path paths ih =>
    rw [firstAccepted, run_bind, run_readStringField, run_ite, ih, List.filterMap_cons]
    cases env.line path with
    | none => rfl
    | some line =>
      simp only [if_true, Field.valid_ofValue, Field.value_ofValue, Bool.true_and, Option.map_some,
        List.find?_cons]
      cases accept (trim line) <;> rfl

/-- The blocks the processor collector works with. -/
theorem cpuBlocks_eq (options : CollectOptions) :
    (if ((readFile (procPath options "/cpuinfo")).run env).status = .ok then
        parseColonBlocks ((readFile (procPath options "/cpuinfo")).run env).value
      else []) = env.cpuBlocks options := by
  rw [run_readFile, Env.cpuBlocks]
  cases env.text (procPath options "/cpuinfo") with
  | none => exact if_neg (env.failure_ne_ok _)
  | some text => exact if_pos rfl

end Readers

/-! ## The flags of the processor -/

section Flags

variable (env : Env) (options : CollectOptions)

theorem run_readFlagLine (keys : List Bytes) :
    (readFlagLine keys options).run env =
      match env.text (procPath options "/cpuinfo") with
      | none => { status := env.failure (procPath options "/cpuinfo") }
      | some text =>
        match parseColonBlocks text with
        | [] => { status := .parseError }
        | first :: _ => flagLine first keys := by
  unfold readFlagLine
  rw [run_bind, run_readFile]
  cases env.text (procPath options "/cpuinfo") with
  | none => rw [run_ite, if_pos (env.failure_ne_ok _), run_pure]
  | some text =>
    rw [run_ite, if_neg (fun h => h rfl)]
    dsimp only
    cases parseColonBlocks text <;> rfl

theorem run_collectIsa :
    (collectIsa options).run env =
      match env.text (procPath options "/cpuinfo") with
      | none => noFeatures (env.failure (procPath options "/cpuinfo"))
      | some text =>
        match parseColonBlocks text with
        | [] => noFeatures .parseError
        | first :: _ =>
          if (findFeatureSource first).raw = [] then noFeatures .notFound
          else featuresOf (findFeatureSource first) := by
  unfold collectIsa
  rw [run_bind, run_readFile]
  cases env.text (procPath options "/cpuinfo") with
  | none => rw [run_ite, if_pos (env.failure_ne_ok _), run_pure]
  | some text =>
    rw [run_ite, if_neg (fun h => h rfl)]
    dsimp only
    cases parseColonBlocks text <;> rfl

end Flags

/-! ## The counts of the processor -/

/-- The files of the three CPU counts. -/
def cpuCountFiles (options : CollectOptions) : List Bytes :=
  [sysPath options "/devices/system/cpu/present", sysPath options "/devices/system/cpu/online",
    sysPath options "/devices/system/cpu/possible"]

/-- The counts of a processor section. -/
def CpuInfo.counts (info : CpuInfo) : List U64Field :=
  [info.presentCpuCount, info.onlineCpuCount, info.possibleCpuCount]

/-- The three CPU counts. -/
theorem run_collectCpu_counts (env : Env) (options : CollectOptions) :
    [((collectCpu options).run env).presentCpuCount, ((collectCpu options).run env).onlineCpuCount,
        ((collectCpu options).run env).possibleCpuCount] =
      (cpuCountFiles options).map fun path =>
        cpuCountFallback ((readCpuListCountField path).run env) (env.cpuBlocks options)
          (env .hardwareConcurrency) := by
  simp only [collectCpu, cpuDetails, run_bind, run_pure, run_call, cpuCountFiles, List.map_cons,
    List.map_nil, cpuBlocks_eq]

end Archspec
