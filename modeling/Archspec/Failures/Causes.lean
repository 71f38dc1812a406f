import Archspec.Readings
import Archspec.Reports
import Archspec.Lib.Traces

/-!
# What a failure status is put down to

`Env.Causes env c s call` lists the answers that account for a status in the section of a category:
a path that exists and cannot be opened, a read error, a denied counter, and so on.  A file that was
delivered accounts for a malformed value only with a text that its reader refuses: a line that has
not the format of the file (`Category.numberFiles`), a cpuinfo without a number where one is
expected, a boot variable that ends too early.  Unless a call of a reader is a cause of the status,
what it returns does not have it (`readFile_unless`, `readParsed_unless`, …).
-/

namespace Archspec

open Lib Program

/-! ## Refused texts -/

/-- How the number in a file is written. -/
inductive NumberFormat where
  | u64 (multiplier : UInt64)
  | u32
  | i64
  | cpuList
  | sizeBytes
  deriving DecidableEq

/-- The line is no number of the format. -/
def NumberFormat.Refuses : NumberFormat → Bytes → Prop
  | u64 multiplier, line => ∀ n, parseU64 line = some n → scaled n multiplier = none
  | u32, line => ∀ n, parseU64 line = some n → n > 0xFFFFFFFF
  | i64, line => parseI64 line = none
  | cpuList, line => cpuListCount line = none
  | sizeBytes, line => parseSizeBytes line = none

/-- The files of a category that hold a number, by the ends of their paths. -/
def Category.numberFiles : Category → List (Bytes × NumberFormat)
  | cpu => [("/devices/system/cpu/present", .cpuList), ("/devices/system/cpu/online", .cpuList),
      ("/devices/system/cpu/possible", .cpuList), ("core_id", .u32), ("physical_package_id", .u32)]
  | cache => [("level", .u32), ("size", .sizeBytes), ("coherency_line_size", .u64 1),
      ("ways_of_associativity", .u64 1), ("number_of_sets", .u64 1)]
  | pci => [("numa_node", .i64)]
  | gpu => [("mem_info_vram_total", .u64 1), ("mem_info_vis_vram_total", .u64 1),
      ("mem_info_vram_used", .u64 1), ("mem_info_vis_vram_used", .u64 1), ("temp1_input", .u64 1),
      ("power1_average", .u64 1)]
  | perf => [("/sys/kernel/perf_event_paranoid", .i64)]
  | block => [("queue/rotational", .u64 1), ("size", .u64 512),
      ("queue/logical_block_size", .u64 1), ("queue/physical_block_size", .u64 1)]
  | net => [("mtu", .u64 1), ("speed", .i64), ("carrier", .u64 1)]
  | power => [("capacity", .u64 1), ("online", .u64 1), ("scaling_cur_freq", .u64 1),
      ("cpuinfo_cur_freq", .u64 1), ("scaling_min_freq", .u64 1), ("cpuinfo_min_freq", .u64 1),
      ("scaling_max_freq", .u64 1), ("cpuinfo_max_freq", .u64 1)]
  | _ => []

/-- The path is that of a file of the category with a number of the format. -/
def Category.NumberFile (c : Category) (format : NumberFormat) (path : Bytes) : Prop :=
  ∃ root name, path = joinPath root name ∧ (name, format) ∈ c.numberFiles

/-- Two candidates of a multi-file reader. -/
theorem numberFile_pair {c : Category} {format : NumberFormat} {root name name' : Bytes}
    (h : (name, format) ∈ c.numberFiles) (h' : (name', format) ∈ c.numberFiles) :
    ∀ path ∈ [joinPath root name, joinPath root name'], c.NumberFile format path :=
  List.forall_mem_cons.2 ⟨⟨root, name, rfl, h⟩, List.forall_mem_singleton.2 ⟨root, name', rfl, h'⟩⟩

/-- The keys of the numbers in a block of cpuinfo, the first of a list that has a value counting. -/
def numberKeys : List (List Bytes) :=
  [["cpu cores"], ["siblings"], ["cpu family", "CPU architecture"], ["model", "CPU part"],
    ["stepping", "CPU revision"]]

/-- A value of the block is not what is expected. -/
inductive RefusedBlock (block : KeyValueMap) : Prop where
  | number {keys : List Bytes} {value : Bytes} (hkeys : keys ∈ numberKeys)
      (hvalue : keys.findSome? (mapValue block) = some value) (h : parseU64 value = none)
  | sizes {value : Bytes} (hvalue : mapValue block "address sizes" = some value)
      (h : ((splitWords value).foldl addressSizesWord {}).physical = none ∨
        ((splitWords value).foldl addressSizesWord {}).virtualBits = none)

/-- The text of cpuinfo has no block, or its first one is not as expected. -/
def RefusedCpuinfo (text : Bytes) : Prop :=
  parseColonBlocks text = [] ∨
    ∃ first rest, parseColonBlocks text = first :: rest ∧ RefusedBlock first

/-! ## Causes -/

/-- Access to the path is refused: it exists, or the answer is a refusal itself. -/
def Existence.Refused : Existence → Prop
  | .yes | .no (some .permissionDenied) | .no (some .operationNotPermitted) => True
  | _ => False

/-- The answer to the call accounts for the status in the section of the category. -/
inductive Env.Causes (env : Env) (c : Category) : Status → Primitive → Prop where
  | refusedFile {path : Bytes} (hfile : env (.openFile path) = none)
      (hpath : (env (.pathExists path)).Refused) : Causes env c .permDenied (.openFile path)
  | refusedLink {path : Bytes} (hlink : env (.readSymlink path) = none)
      (hpath : (env (.pathExists path)).Refused) : Causes env c .permDenied (.readSymlink path)
  | refusedCounter {config : UInt64}
      (h : env (.perfEventOpen config) = .failed .eacces ∨
        env (.perfEventOpen config) = .failed .eperm) :
      Causes env c .permDenied (.perfEventOpen config)
  | brokenFile {path : Bytes} (hfile : env (.openFile path) = none)
      (hpath : env (.pathExists path) = .no (some .other)) :
      Causes env c .internalError (.openFile path)
  | brokenLink {path : Bytes} (hlink : env (.readSymlink path) = none)
      (hpath : env (.pathExists path) = .no (some .other)) :
      Causes env c .internalError (.readSymlink path)
  | readError {path : Bytes} {file : OpenFile} (hfile : env (.openFile path) = some file)
      (hbad : file.badCopy = true ∨ file.badLine = true) :
      Causes env c .internalError (.openFile path)
  | brokenCounter {config : UInt64} (h : env (.perfEventOpen config) = .failed .other) :
      Causes env c .internalError (.perfEventOpen config)
  | noUname (h : env .uname = none) : Causes env c .internalError .uname
  | refusedLine {path line : Bytes} {format : NumberFormat} (hfile : c.NumberFile format path)
      (hline : env.line path = some line) (h : format.Refuses line) :
      Causes env c .parseError (.openFile path)
  | refusedCpuinfo {root text : Bytes} (hc : c ∈ [Category.cpu, .isa, .perf, .virtualization])
      (htext : env.text (joinPath root "/cpuinfo") = some text) (h : RefusedCpuinfo text) :
      Causes env c .parseError (.openFile (joinPath root "/cpuinfo"))
  | shortVariable {root name text : Bytes} (hc : c = .platform)
      (hname : startsWith name "SecureBoot-" = true)
      (htext : env.text (joinPath root name) = some text) (h : text.length ≤ 4) :
      Causes env c .parseError (.openFile (joinPath root name))

theorem Existence.pathErrorStatus_cases (e : Existence) :
    e.pathErrorStatus = .notFound ∨ (e.pathErrorStatus = .permDenied ∧ e.Refused) ∨
      (e.pathErrorStatus = .internalError ∧ e = .no (some .other)) := by
  obtain _ | _ | _ | _ | _ | _ | _ := e
  · exact .inr (.inl ⟨rfl, trivial⟩)
  · exact .inl rfl
  · exact .inl rfl
  · exact .inl rfl
  · exact .inr (.inl ⟨rfl, trivial⟩)
  · exact .inr (.inl ⟨rfl, trivial⟩)
  · exact .inr (.inr ⟨rfl, rfl⟩)

/-! ## One status at a time -/

/-- A status other than that of a value and that of a missing one. -/
structure Status.Fails (s : Status) : Prop where
  ne_ok : Status.ok ≠ s
  ne_notFound : Status.notFound ≠ s

/-- What was read does not have the status, and is what the path holds. -/
structure ReadResult.Clear (s : Status) (held : Option Bytes) (result : ReadResult) : Prop where
  status : result.status ≠ s
  held_eq : result.status = .ok → held = some result.value

/-- No field of the node has the status. -/
def Node.Clear (s : Status) (n : Node) : Prop := n.Forall fun _ f => f.status ≠ s

namespace Node

variable {s : Status}

@[simp] theorem clear_record (members : List (Bytes × Node)) :
    (record members).Clear s ↔ ∀ m ∈ members, m.2.Clear s := forall_record members

@[simp] theorem clear_field (f : AnyField) : (field f).Clear s ↔ ¬ f.status = s := forall_field f

@[simp] theorem clear_text (name : Bytes) : (text name).Clear s := forall_text name

theorem clear_list {α : Type} {entries : List α} {toNode : α → Node}
    (h : ∀ a ∈ entries, (toNode a).Clear s) : (list (entries.map toNode)).Clear s :=
  forall_list_map entries toNode h fun _ _ _ => id

theorem clear_entries {α : Type} {entries : List α} {toNode : α → Node}
    (h : ∀ a ∈ entries, (toNode a).Clear s) :
    (record [("entries", list (entries.map toNode))]).Clear s := by
  simpa using clear_list h

end Node

/-! ## The readers -/

section Readers

variable {env : Env} {c : Category} {s : Status} {path root name : Bytes}

/-- A path that gives no text or no line has its status for a reason. -/
theorem failure_ne (hs : s.Fails) (hnone : env.text path = none ∨ env.line path = none)
    (h : ¬ env.Causes c s (.openFile path)) : env.failure path ≠ s := by
  rintro rfl
  cases hfile : env (.openFile path) with
  | none =>
    have hfailure : env.failure path = (env (.pathExists path)).pathErrorStatus := by
      rw [Env.failure, hfile]
    rw [hfailure] at h hs
    rcases (env (.pathExists path)).pathErrorStatus_cases with hpath | ⟨hpath, he⟩ | ⟨hpath, he⟩
    · exact hs.ne_notFound hpath.symm
    · exact h (hpath ▸ .refusedFile hfile he)
    · exact h (hpath ▸ .brokenFile hfile he)
  | some file =>
    have hfailure : env.failure path = .internalError := by
      rw [Env.failure, hfile]
    rw [hfailure] at h
    apply h
    apply Env.Causes.readError hfile
    simp only [Env.text, Env.line, hfile, Option.bind_some, ite_eq_left_iff, reduceCtorEq] at hnone
    simpa using hnone

/-- A file is not a cause of the status, or else what was read from it is clear. -/
theorem readFile_unless (hs : s.Fails) :
    (readFile path).Unless env (env.Causes c s) fun result =>
      result.Clear s (env.text path) ∧ ¬ env.Causes c s (.openFile path) := by
  intro hquiet
  have hfile : ¬ env.Causes c s (.openFile path) := hquiet _ List.mem_cons_self
  rw [run_readFile]
  cases htext : env.text path with
  | none =>
    have hfailure := failure_ne hs (.inl htext) hfile
    exact ⟨⟨hfailure, fun hok => absurd hok (env.failure_ne_ok path)⟩, hfile⟩
  | some text => exact ⟨⟨hs.ne_ok, fun _ => rfl⟩, hfile⟩

theorem readFirstLine_unless (hs : s.Fails) :
    (readFirstLine path).Unless env (env.Causes c s) fun result =>
      result.Clear s (env.line path) ∧ ¬ env.Causes c s (.openFile path) := by
  intro hquiet
  have hfile : ¬ env.Causes c s (.openFile path) := hquiet _ List.mem_cons_self
  rw [run_readFirstLine]
  cases hline : env.line path with
  | none =>
    have hfailure := failure_ne hs (.inr hline) hfile
    exact ⟨⟨hfailure, fun hok => absurd hok (env.failure_ne_ok path)⟩, hfile⟩
  | some line => exact ⟨⟨hs.ne_ok, fun _ => rfl⟩, hfile⟩

/-- The readers of one line, if a line that is not parsed accounts for the malformed value. -/
theorem readParsed_unless {α : Type} [Inhabited α] (hs : s.Fails) (parse : Bytes → Option α)
    (hrefused : ∀ line, env.line path = some line → parse line = none →
      env.Causes c .parseError (.openFile path)) :
    (readParsed parse path).Unless env (env.Causes c s) fun field => field.status ≠ s := by
  refine (readFirstLine_unless hs).bind fun result ⟨hresult, hfile⟩ => ?_
  refine Unless.ite (fun _ => ?_) fun hok => ?_
  · rw [unless_pure_iff]
    exact hresult.status
  · cases hparse : parse result.value with
    | some value =>
      rw [unless_pure_iff]
      exact hs.ne_ok
    | none =>
      rw [unless_pure_iff]
      rintro rfl
      exact hfile (hrefused _ (hresult.held_eq (not_not.1 hok)) hparse)

theorem readStringField_unless (hs : s.Fails) {trimValue : Bool} :
    (readStringField path trimValue).Unless env (env.Causes c s) fun field => field.status ≠ s := by
  refine readParsed_unless hs _ ?_
  rintro line - ⟨⟩

theorem readU64Field_unless_numberFile (hs : s.Fails) {multiplier : UInt64}
    (hfile : c.NumberFile (.u64 multiplier) path) :
    (readU64Field path multiplier).Unless env (env.Causes c s) fun field => field.status ≠ s := by
  refine readParsed_unless hs _ fun line hline hparse => .refusedLine hfile hline ?_
  intro n hn
  rwa [hn] at hparse

theorem readU64Field_unless (hs : s.Fails) {multiplier : UInt64}
    (hname : (name, .u64 multiplier) ∈ c.numberFiles) :
    (readU64Field (joinPath root name) multiplier).Unless env (env.Causes c s) fun field =>
      field.status ≠ s :=
  readU64Field_unless_numberFile hs ⟨root, name, rfl, hname⟩

theorem readU32Field_unless (hs : s.Fails) (hname : (name, .u32) ∈ c.numberFiles) :
    (readU32Field (joinPath root name)).Unless env (env.Causes c s) fun field =>
      field.status ≠ s := by
  refine readParsed_unless hs _ fun line hline hparse =>
    .refusedLine ⟨root, name, rfl, hname⟩ hline ?_
  intro n hn
  by_contra hle
  rw [hn] at hparse
  have hsome : (if n > 0xFFFFFFFF then none else some n.toUInt32) = none := hparse
  rw [if_neg hle] at hsome
  cases hsome

theorem readI64Field_unless (hs : s.Fails) (hname : (name, .i64) ∈ c.numberFiles) :
    (readI64Field (joinPath root name)).Unless env (env.Causes c s) fun field =>
      field.status ≠ s :=
  readParsed_unless hs _ fun _ hline hparse =>
    .refusedLine ⟨root, name, rfl, hname⟩ hline hparse

theorem readCpuListCountField_unless (hs : s.Fails) (hname : (name, .cpuList) ∈ c.numberFiles) :
    (readCpuListCountField (joinPath root name)).Unless env (env.Causes c s) fun field =>
      field.status ≠ s :=
  readParsed_unless hs _ fun _ hline hparse =>
    .refusedLine ⟨root, name, rfl, hname⟩ hline hparse

theorem readSizeBytesField_unless (hs : s.Fails) (hname : (name, .sizeBytes) ∈ c.numberFiles) :
    (readSizeBytesField (joinPath root name)).Unless env (env.Causes c s) fun field =>
      field.status ≠ s :=
  readParsed_unless hs _ fun _ hline hparse =>
    .refusedLine ⟨root, name, rfl, hname⟩ hline hparse

theorem readSymlinkBasenameField_unless (hs : s.Fails) :
    (readSymlinkBasenameField path).Unless env (env.Causes c s) fun field => field.status ≠ s := by
  intro hquiet
  have hcall : ¬ env.Causes c s (.readSymlink path) := hquiet _ List.mem_cons_self
  rw [readSymlinkBasenameField, run_bind, readSymlinkTarget, run_call]
  cases hlink : env (.readSymlink path) with
  | none =>
    rw [run_bind, run_pure, statusForPathError, run_bind, run_call, run_pure]
    show (env (.pathExists path)).pathErrorStatus ≠ s
    rintro rfl
    rcases (env (.pathExists path)).pathErrorStatus_cases with hpath | ⟨hpath, he⟩ | ⟨hpath, he⟩
    · exact hs.ne_notFound hpath.symm
    · exact hcall (hpath ▸ .refusedLink hlink he)
    · exact hcall (hpath ▸ .brokenLink hlink he)
  | some target => exact hs.ne_ok

/-- A call whose answer does not matter. -/
theorem ask_unless (p : Primitive) : (ask p).Unless env (env.Causes c s) fun _ => True :=
  unless_call fun _ => trivial

theorem pathExists_unless : (pathExists path).Unless env (env.Causes c s) fun _ => True :=
  fun _ => trivial

theorem listDir_unless : (listDir path).Unless env (env.Causes c s) fun _ => True :=
  fun _ => trivial

theorem keepValid_unless {α : Type} {field : Field α} {read : Collect (Field α)}
    (hfield : field.status ≠ s)
    (hread : read.Unless env (env.Causes c s) fun field => field.status ≠ s) :
    (keepValid field read).Unless env (env.Causes c s) fun field => field.status ≠ s := by
  refine Unless.ite (fun _ => ?_) fun _ => hread
  rw [unless_pure_iff]
  exact hfield

end Readers

/-! ## Values shared by several collectors -/

section Shared

variable {env : Env} {c : Category} {s : Status} {options : CollectOptions}

/-- Without the strings of `uname` the status of the fields that need them has a cause. -/
theorem uname_unless :
    (ask .uname).Unless env (env.Causes c s) fun uts => uts = none → Status.internalError ≠ s := by
  intro hquiet hnone
  have hcall : ¬ env.Causes c s .uname := hquiet _ List.mem_cons_self
  rintro rfl
  exact hcall (.noUname hnone)

/-- The status is not the one of a redacted field of these options. -/
def NotRedacted (options : CollectOptions) (s : Status) : Prop :=
  options.includeSensitive = false → Status.redacted ≠ s

theorem redactUnless_ne (hr : NotRedacted options s) {field : StringField}
    (h : field.status ≠ s) : (redactUnless options.includeSensitive field).status ≠ s := by
  unfold redactUnless
  split
  · exact h
  · rename_i hinclude
    exact hr (by simpa using hinclude)

variable (hs : s.Fails)

include hs

theorem stringFromMap_ne (values : KeyValueMap) (keys : List Bytes) :
    (stringFromMap values keys).status ≠ s := by
  unfold stringFromMap
  split
  · exact hs.ne_ok
  · exact hs.ne_notFound

/-- The candidates of a multi-file reader end in the status of one of them. -/
theorem firstU64_unless (convert : UInt64 → UInt64) {lastStatus : Status} (hlast : lastStatus ≠ s)
    (paths : List Bytes) (hfiles : ∀ path ∈ paths, c.NumberFile (.u64 1) path) :
    (firstU64 convert lastStatus paths).Unless env (env.Causes c s) fun field =>
      field.status ≠ s := by
  induction paths generalizing lastStatus with
  | nil =>
    rw [firstU64, unless_pure_iff]
    exact hlast
  | cons path paths ih =>
    obtain ⟨hfile, hrest⟩ := List.forall_mem_cons.1 hfiles
    refine (readU64Field_unless_numberFile hs hfile).bind fun value hvalue => ?_
    refine Unless.ite (fun _ => ?_) fun _ => ?_
    · rw [unless_pure_iff]
      exact hs.ne_ok
    · refine ih ?_ hrest
      split
      · exact hvalue
      · exact hlast

theorem firstAccepted_unless (accept : Bytes → Bool) (paths : List Bytes) :
    (firstAccepted accept paths).Unless env (env.Causes c s) fun field => field.status ≠ s := by
  induction paths with
  | nil =>
    rw [firstAccepted, unless_pure_iff]
    exact hs.ne_notFound
  | cons path paths ih =>
    refine (readStringField_unless hs).bind fun field hfield => ?_
    refine Unless.ite (fun _ => ?_) fun _ => ih
    rw [unless_pure_iff]
    exact hfield

end Shared

end Archspec
