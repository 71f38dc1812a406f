import Archspec.Paths
import Archspec.Tree

/-!
# What the collectors ask and what they answer

For each collector one theorem, proved along its text with the rules of `Program.Meets`: which
primitives it calls (`Files` and `HostFact`) and which status its fields have (`Plain`).

* `Files options c` allows the file-system primitives on paths below a configured root.  Reads of
  files named `cmdline` and `address` are left to the collectors of the operating system and of the
  network, since these hold sensitive data.
* `HostFact options c` allows the facts of the running host that the collector of `c` may ask for.
* A field is `Plain` when it is valid exactly if its status is `ok`, and not redacted.
-/

namespace Archspec

open Lib

/-! ## Calls -/

def CollectOptions.roots (options : CollectOptions) : List Bytes :=
  [options.procfsRoot, options.sysfsRoot, options.etcRoot, options.devRoot]

/-- The path leads to the depth below a configured root, and never above the root. -/
def Under (options : CollectOptions) (depth : ℕ) (path : Bytes) : Prop :=
  ∃ root ∈ options.roots, Within root depth path

/-- A file a category may read: those named `cmdline` and `address` have one reader. -/
def Readable (c : Category) (path : Bytes) : Prop :=
  (lastComponent path = "cmdline" → c = .os) ∧ (lastComponent path = "address" → c = .net)

instance (c : Category) (path : Bytes) : Decidable (Readable c path) :=
  inferInstanceAs (Decidable (_ ∧ _))

/-- The file-system calls of a category. -/
def Files (options : CollectOptions) (c : Category) : Primitive → Prop
  | .openFile p | .pathExists p => Under options 0 p ∧ Readable c p
  | .isDirectory p | .listDirectory p | .readSymlink p | .access p => Under options 0 p
  | _ => False

/-- The calls of a category about the running host. -/
def HostFact (options : CollectOptions) (c : Category) : Primitive → Prop
  | .uname => c = .os ∨ c = .cpu
  | .pageSize => c = .os ∨ c = .memory
  | .target => c = .os
  | .hardwareConcurrency => c = .cpu
  | .getifaddrs => c = .net ∧ options.sysfsRoot = "/sys"
  | .perfEventOpen _ => c = .perf ∧ options.allowPerfOpen = true
  | _ => False

/-- The calls of a category. -/
def Footprint (options : CollectOptions) (c : Category) (call : Primitive) : Prop :=
  Files options c call ∨ HostFact options c call

section Under

variable {options : CollectOptions} {depth e : ℕ} {path : Bytes}

theorem Under.mono (h : Under options depth path) {depth' : ℕ} (hle : depth' ≤ depth) :
    Under options depth' path := by
  obtain ⟨root, hroot, hin⟩ := h
  exact ⟨root, hroot, hin.mono hle⟩

theorem Under.join {suffix : Bytes} (h : Under options depth path)
    (hwalk : walk depth (components suffix) = some e) :
    Under options e (joinPath path suffix) := by
  obtain ⟨root, hroot, hin⟩ := h
  exact ⟨root, hroot, hin.join hwalk⟩

theorem Under.join_name (h : Under options depth path) (entry : EntryName) :
    Under options depth (joinPath path entry.name) := by
  obtain ⟨root, hroot, hin⟩ := h
  exact ⟨root, hroot, hin.join_name entry⟩

theorem Under.join_name_append {suffix : Bytes} (h : Under options depth path) (entry : EntryName)
    (hwalk : walk depth (components suffix) = some e) :
    Under options e (joinPath path (entry.name ++ 47 :: suffix)) := by
  obtain ⟨root, hroot, hin⟩ := h
  exact ⟨root, hroot, hin.join_name_append entry hwalk⟩

theorem Under.join_basename (h : Under options (depth + 1) path) (target : Bytes) :
    Under options depth (joinPath path (basename target)) := by
  obtain ⟨root, hroot, hin⟩ := h
  exact ⟨root, hroot, hin.join_basename target⟩

/-- A path composed from a configured root. -/
theorem under_ofRoot {root suffix : Bytes} (hroot : root ∈ options.roots) (hne : suffix ≠ [])
    (hwalk : walk 0 (components suffix) = some e) : Under options e (joinPath root suffix) :=
  ⟨root, hroot, .ofRoot root hne hwalk⟩

theorem procfsRoot_mem (options : CollectOptions) : options.procfsRoot ∈ options.roots := by
  simp [CollectOptions.roots]

theorem sysfsRoot_mem (options : CollectOptions) : options.sysfsRoot ∈ options.roots := by
  simp [CollectOptions.roots]

theorem etcRoot_mem (options : CollectOptions) : options.etcRoot ∈ options.roots := by
  simp [CollectOptions.roots]

theorem devRoot_mem (options : CollectOptions) : options.devRoot ∈ options.roots := by
  simp [CollectOptions.roots]

theorem under_sysPath {suffix : Bytes} (hne : suffix ≠ [])
    (hwalk : walk 0 (components suffix) = some e) : Under options e (sysPath options suffix) :=
  under_ofRoot (sysfsRoot_mem options) hne hwalk

variable {c : Category}

theorem Under.files_isDirectory (h : Under options depth path) :
    Files options c (.isDirectory path) := h.mono (Nat.zero_le depth)

theorem Under.files_listDirectory (h : Under options depth path) :
    Files options c (.listDirectory path) := h.mono (Nat.zero_le depth)

theorem Under.files_readSymlink (h : Under options depth path) :
    Files options c (.readSymlink path) := h.mono (Nat.zero_le depth)

end Under

/-! ## Answers -/

/-- Valid exactly if the status is `ok`, and not redacted. -/
def PlainStatus (valid : Bool) (status : Status) : Prop :=
  (valid = true ↔ status = .ok) ∧ status ≠ .redacted

def Field.Plain {α : Type} (f : Field α) : Prop := PlainStatus f.valid f.status

def AnyField.Plain (f : AnyField) : Prop := PlainStatus f.valid f.status

/-- Every field of a node is plain. -/
def Node.Plain (n : Node) : Prop := n.Forall fun _ f => f.Plain

@[simp] theorem AnyField.plain_bool (f : BoolField) : (AnyField.bool f).Plain ↔ f.Plain := Iff.rfl
@[simp] theorem AnyField.plain_u32 (f : U32Field) : (AnyField.u32 f).Plain ↔ f.Plain := Iff.rfl
@[simp] theorem AnyField.plain_u64 (f : U64Field) : (AnyField.u64 f).Plain ↔ f.Plain := Iff.rfl
@[simp] theorem AnyField.plain_i64 (f : I64Field) : (AnyField.i64 f).Plain ↔ f.Plain := Iff.rfl
@[simp] theorem AnyField.plain_string (f : StringField) : (AnyField.string f).Plain ↔ f.Plain :=
  Iff.rfl

section Plain

variable {α : Type}

@[simp] theorem Field.plain_ofValue (v : α) : (Field.ofValue v).Plain := by
  simp [Field.Plain, PlainStatus]

variable [Inhabited α]

@[simp] theorem Field.plain_initial : (Field.initial : Field α).Plain := by
  simp [Field.Plain, PlainStatus]

theorem Field.plain_unavailable {s : Status} (hok : s ≠ .ok) (hred : s ≠ .redacted) :
    (Field.unavailable s : Field α).Plain := by
  simp [Field.Plain, PlainStatus, hok, hred]

@[simp] theorem Field.plain_notFound : (Field.unavailable .notFound : Field α).Plain :=
  plain_unavailable (by decide) (by decide)

@[simp] theorem Field.plain_parseError : (Field.unavailable .parseError : Field α).Plain :=
  plain_unavailable (by decide) (by decide)

@[simp] theorem Field.plain_unsupported : (Field.unavailable .unsupported : Field α).Plain :=
  plain_unavailable (by decide) (by decide)

@[simp] theorem Field.plain_permDenied : (Field.unavailable .permDenied : Field α).Plain :=
  plain_unavailable (by decide) (by decide)

@[simp] theorem Field.plain_internalError : (Field.unavailable .internalError : Field α).Plain :=
  plain_unavailable (by decide) (by decide)

end Plain

theorem stringFromMap_plain (values : KeyValueMap) (keys : List Bytes) :
    (stringFromMap values keys).Plain := by
  unfold stringFromMap
  split <;> simp

theorem u64FromMap_plain (values : KeyValueMap) (keys : List Bytes) :
    (u64FromMap values keys).Plain := by
  unfold u64FromMap
  split
  · split <;> simp
  · simp

/-- A plain field that is not valid has a failing status. -/
theorem Field.Plain.status_ne_ok {α : Type} {f : Field α} (h : f.Plain) (hv : f.valid = false) :
    f.status ≠ .ok := fun hok => absurd (h.1.2 hok) (by simp [hv])

theorem Node.plain_list {α : Type} {entries : List α} {toNode : α → Node}
    (h : ∀ a ∈ entries, (toNode a).Plain) : (Node.list (entries.map toNode)).Plain :=
  Node.forall_list_map entries toNode h fun _ _ _ => id

theorem Node.plain_entries {α : Type} {entries : List α} {toNode : α → Node}
    (h : ∀ a ∈ entries, (toNode a).Plain) :
    (Node.record [("entries", .list (entries.map toNode))]).Plain := by
  simpa [Node.Plain] using Node.plain_list h

/-! ## Redaction -/

open Node (Step)

/-- The sensitive fields of the operating system. -/
def OsInfo.sensitivePaths : List (List Step) := [[.key "hostname"], [.key "cmdline"]]

/-- The sensitive fields of a network interface. -/
def NetInterfaceInfo.sensitivePaths : List (List Step) :=
  [[.key "mac_address"], [.key "ipv4_addresses"], [.key "ipv6_addresses"]]

/-- The place of a sensitive field in the section of a category. -/
def Category.Sensitive : Category → List Step → Prop
  | os, path => path ∈ OsInfo.sensitivePaths
  | net, path => ∃ i, ∃ rest ∈ NetInterfaceInfo.sensitivePaths,
      path = .key "entries" :: .index i :: rest
  | _, _ => False

/-- Valid exactly if the status is `ok`, and redacted exactly if the field is sensitive and sensitive
data is left out. -/
def AnyField.Guarded (options : CollectOptions) (sensitive : Prop) (f : AnyField) : Prop :=
  (f.valid = true ↔ f.status = .ok) ∧
    (f.status = .redacted ↔ options.includeSensitive = false ∧ sensitive)

theorem AnyField.Plain.guarded {f : AnyField} (h : f.Plain) (options : CollectOptions)
    {sensitive : Prop} (hs : ¬ sensitive) : f.Guarded options sensitive :=
  ⟨h.1, iff_of_false h.2 fun h => hs h.2⟩

theorem Field.Plain.guarded_redactUnless {f : StringField} (h : f.Plain)
    (options : CollectOptions) {sensitive : Prop} (hs : sensitive) :
    (AnyField.string (redactUnless options.includeSensitive f)).Guarded options sensitive := by
  unfold redactUnless
  split
  · rename_i hinclude
    exact ⟨h.1, iff_of_false h.2 fun h => absurd h.1 (by simp [hinclude])⟩
  · rename_i hinclude
    exact ⟨by simp [AnyField.valid, AnyField.status],
      iff_of_true rfl ⟨by simpa using hinclude, hs⟩⟩

/-- What holds of a section: every field is guarded. -/
def SectionGuarded (options : CollectOptions) (c : Category) (s : c.Section) : Prop :=
  (c.node s).Forall fun path f => f.Guarded options (c.Sensitive path)

/-- A section of a category without sensitive fields. -/
theorem Node.Plain.sectionGuarded {c : Category} {s : c.Section} (h : (c.node s).Plain)
    (options : CollectOptions) (hos : c ≠ .os) (hnet : c ≠ .net) : SectionGuarded options c s := by
  refine h.mono fun path f hf => hf.guarded options ?_
  cases c <;> first | exact fun h => h | exact absurd rfl hos | exact absurd rfl hnet

/-! ## The readers -/

/-- The calls of the readers of one path. -/
structure Reads (guard : Primitive → Prop) (path : Bytes) : Prop where
  openFile : guard (.openFile path)
  pathExists : guard (.pathExists path)
  readSymlink : guard (.readSymlink path)

/-- A suffix that a category may read below a directory at a depth. -/
def ReadableBelow (depth : ℕ) (c : Category) (suffix : Bytes) : Prop :=
  suffix ≠ [] ∧ Readable c suffix ∧ (walk depth (components suffix)).isSome = true

instance (depth : ℕ) (c : Category) (suffix : Bytes) : Decidable (ReadableBelow depth c suffix) :=
  inferInstanceAs (Decidable (_ ∧ _ ∧ _))

/-- A directory name may be read when it is not the name of a sensitive file. -/
theorem readableBelow_name {depth : ℕ} {c : Category} (entry : EntryName)
    (hcmdline : entry.name ≠ "cmdline") (haddress : entry.name ≠ "address") :
    ReadableBelow depth c entry.name := by
  have hlast : lastComponent entry.name = entry.name := by
    rw [lastComponent, List.rtakeWhile_eq_self_iff]
    intro x hx
    exact decide_eq_true fun h : x = 47 => entry.no_slash (h ▸ hx)
  obtain ⟨e, -, hwalk⟩ := walk_components_name depth entry.no_slash entry.ne_dots
  refine ⟨entry.ne_nil, ⟨fun h => ?_, fun h => ?_⟩, Option.isSome_iff_exists.2 ⟨e, hwalk⟩⟩
  · exact absurd (hlast ▸ h) hcmdline
  · exact absurd (hlast ▸ h) haddress

section Readers

variable {guard : Primitive → Prop}

section Paths

variable {options : CollectOptions} {c : Category} {depth : ℕ} {path suffix : Bytes}

theorem Readable.joinPath (hne : suffix ≠ []) (h : Readable c suffix) (path : Bytes) :
    Readable c (joinPath path suffix) := by
  rwa [Readable, lastComponent_joinPath path hne]

theorem reads_joinPath (hG : ∀ p, Files options c p → guard p) (h : Under options depth path)
    (hs : ReadableBelow depth c suffix) : Reads guard (joinPath path suffix) := by
  obtain ⟨hne, hread, hwalk⟩ := hs
  obtain ⟨e, he⟩ := Option.isSome_iff_exists.1 hwalk
  have hunder := (h.join he).mono (Nat.zero_le e)
  have hfile := And.intro hunder (hread.joinPath hne path)
  exact ⟨hG _ hfile, hG _ hfile, hG _ hunder⟩

theorem reads_ofRoot (hG : ∀ p, Files options c p → guard p) {root : Bytes}
    (hroot : root ∈ options.roots) (hs : ReadableBelow 0 c suffix) :
    Reads guard (joinPath root suffix) := by
  obtain ⟨hne, hread, hwalk⟩ := hs
  obtain ⟨e, he⟩ := Option.isSome_iff_exists.1 hwalk
  have hunder := (under_ofRoot hroot hne he).mono (Nat.zero_le e)
  have hfile := And.intro hunder (hread.joinPath hne root)
  exact ⟨hG _ hfile, hG _ hfile, hG _ hunder⟩

theorem reads_procPath (hG : ∀ p, Files options c p → guard p) (hs : ReadableBelow 0 c suffix) :
    Reads guard (procPath options suffix) := reads_ofRoot hG (procfsRoot_mem options) hs

theorem reads_sysPath (hG : ∀ p, Files options c p → guard p) (hs : ReadableBelow 0 c suffix) :
    Reads guard (sysPath options suffix) := reads_ofRoot hG (sysfsRoot_mem options) hs

end Paths

theorem Existence.pathErrorStatus_ne (e : Existence) :
    e.pathErrorStatus ≠ .ok ∧ e.pathErrorStatus ≠ .redacted := by
  obtain _ | _ | _ | _ | _ | _ | _ := e <;> decide

theorem statusForPathError_meets {path : Bytes} (h : guard (.pathExists path)) :
    (statusForPathError path).Meets guard fun s => s ≠ .ok ∧ s ≠ .redacted :=
  (Program.meets_call h fun _ => trivial).bind fun e _ => e.pathErrorStatus_ne

theorem pathExists_meets {path : Bytes} (h : guard (.pathExists path)) :
    (pathExists path).Meets guard fun _ => True :=
  (Program.meets_call h fun _ => trivial).bind fun _ _ => trivial

theorem readFile_meets {path : Bytes} (h : Reads guard path) :
    (readFile path).Meets guard fun r => r.status ≠ .redacted := by
  refine (Program.meets_call h.openFile fun _ => trivial).bind fun file _ => ?_
  cases file with
  | none => exact (statusForPathError_meets h.pathExists).bind fun s hs => hs.2
  | some file =>
    rw [Program.meets_pure_iff]
    split <;> simp

theorem readFirstLine_meets {path : Bytes} (h : Reads guard path) :
    (readFirstLine path).Meets guard fun r => r.status ≠ .redacted := by
  refine (Program.meets_call h.openFile fun _ => trivial).bind fun file _ => ?_
  cases file with
  | none => exact (statusForPathError_meets h.pathExists).bind fun s hs => hs.2
  | some file =>
    rw [Program.meets_pure_iff]
    split <;> simp

theorem readParsed_meets {α : Type} [Inhabited α] (parse : Bytes → Option α) {path : Bytes}
    (h : Reads guard path) : (readParsed parse path).Meets guard Field.Plain := by
  refine (readFirstLine_meets h).bind fun result hresult => ?_
  refine Program.Meets.ite (fun hok => ?_) fun _ => ?_
  · exact Field.plain_unavailable hok hresult
  · split
    · exact Field.plain_ofValue _
    · exact Field.plain_parseError

theorem readStringField_meets {path : Bytes} (h : Reads guard path) (trimValue : Bool := true) :
    (readStringField path trimValue).Meets guard Field.Plain := readParsed_meets _ h

theorem readU64Field_meets {path : Bytes} (h : Reads guard path) (multiplier : UInt64 := 1) :
    (readU64Field path multiplier).Meets guard Field.Plain := readParsed_meets _ h

theorem readU32Field_meets {path : Bytes} (h : Reads guard path) :
    (readU32Field path).Meets guard Field.Plain := readParsed_meets _ h

theorem readI64Field_meets {path : Bytes} (h : Reads guard path) :
    (readI64Field path).Meets guard Field.Plain := readParsed_meets _ h

theorem readCpuListCountField_meets {path : Bytes} (h : Reads guard path) :
    (readCpuListCountField path).Meets guard Field.Plain := readParsed_meets _ h

theorem readSizeBytesField_meets {path : Bytes} (h : Reads guard path) :
    (readSizeBytesField path).Meets guard Field.Plain := readParsed_meets _ h

theorem keepValid_meets {α : Type} {field : Field α} {read : Collect (Field α)}
    (hfield : field.Plain) (h : read.Meets guard Field.Plain) :
    (keepValid field read).Meets guard Field.Plain :=
  Program.Meets.ite (fun _ => hfield) fun _ => h

theorem listDir_meets {path : Bytes} (h : guard (.listDirectory path)) :
    (listDir path).Meets guard fun _ => True := by
  refine (Program.meets_call h fun _ => trivial).bind fun listing _ => ?_
  cases listing <;> trivial

theorem readSymlinkTarget_meets {path : Bytes} (h : guard (.readSymlink path)) :
    (readSymlinkTarget path).Meets guard fun _ => True := Program.meets_call h fun _ => trivial

theorem readSymlinkBasenameField_meets {path : Bytes} (h : Reads guard path) :
    (readSymlinkBasenameField path).Meets guard Field.Plain := by
  refine (readSymlinkTarget_meets h.readSymlink).bind fun target _ => ?_
  cases target with
  | none =>
    refine (statusForPathError_meets h.pathExists).bind fun s hs => ?_
    exact Field.plain_unavailable hs.1 hs.2
  | some target => exact Field.plain_ofValue _

end Readers

end Archspec
