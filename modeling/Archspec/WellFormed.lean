import Archspec.Encoding
import Archspec.Lib.Utf8
import Archspec.Readings

/-!
# The encoding of the text of a report

The keys and the enumeration names of a report are ASCII (`Node.AsciiNames`), so its text is UTF-8
exactly when the values of its valid text fields are (`utf8_toJson_iff`).
-/

namespace Archspec

open Lib Json

/-! ## Well-formed nodes -/

/-- The value of a text field, if it is valid, is UTF-8. -/
def Field.WellFormed (field : StringField) : Prop := ∀ text ∈ field.value?, Utf8 text

def AnyField.WellFormed : AnyField → Prop
  | string f => f.WellFormed
  | _ => True

namespace Node

/-- Every text field is well-formed. -/
def WellFormed (n : Node) : Prop := n.Forall fun _ f => f.WellFormed

theorem wellFormed_field (f : AnyField) : (field f).WellFormed ↔ f.WellFormed := forall_field f

@[simp] theorem wellFormed_text (name : Bytes) : (text name).WellFormed := forall_text name

@[simp] theorem wellFormed_record (members : List (Bytes × Node)) :
    (record members).WellFormed ↔ ∀ m ∈ members, m.2.WellFormed := forall_record members

@[simp] theorem wellFormed_list (entries : List Node) :
    (list entries).WellFormed ↔ ∀ n ∈ entries, n.WellFormed := by
  rw [WellFormed, forall_list]
  constructor
  · intro h n hn
    obtain ⟨i, hi⟩ := List.getElem?_of_mem hn
    exact h i n hi
  · exact fun h i n hi => h n (List.mem_of_getElem? hi)

@[simp] theorem wellFormed_string (f : StringField) : (f : Node).WellFormed ↔ f.WellFormed :=
  wellFormed_field _

@[simp] theorem wellFormed_bool (f : BoolField) : (f : Node).WellFormed :=
  (wellFormed_field _).2 trivial

@[simp] theorem wellFormed_u32 (f : U32Field) : (f : Node).WellFormed :=
  (wellFormed_field _).2 trivial

@[simp] theorem wellFormed_u64 (f : U64Field) : (f : Node).WellFormed :=
  (wellFormed_field _).2 trivial

@[simp] theorem wellFormed_i64 (f : I64Field) : (f : Node).WellFormed :=
  (wellFormed_field _).2 trivial

/-! ## Names -/

/-- Every key and every enumeration name is ASCII. -/
inductive AsciiNames : Node → Prop where
  | field (f : AnyField) : AsciiNames (field f)
  | text {name : Bytes} (h : Ascii name) : AsciiNames (text name)
  | list {entries : List Node} (h : ∀ n ∈ entries, AsciiNames n) : AsciiNames (list entries)
  | record {members : List (Bytes × Node)} (hkeys : ∀ m ∈ members, Ascii m.1)
      (h : ∀ m ∈ members, AsciiNames m.2) : AsciiNames (record members)

@[simp] theorem asciiNames_field (f : AnyField) : (field f).AsciiNames := .field f

@[simp] theorem asciiNames_text (name : Bytes) : (text name).AsciiNames ↔ Ascii name :=
  ⟨fun h => by cases h; assumption, .text⟩

@[simp] theorem asciiNames_list (entries : List Node) :
    (list entries).AsciiNames ↔ ∀ n ∈ entries, n.AsciiNames :=
  ⟨fun h => by cases h; assumption, .list⟩

@[simp] theorem asciiNames_record (members : List (Bytes × Node)) :
    (record members).AsciiNames ↔ ∀ m ∈ members, Ascii m.1 ∧ m.2.AsciiNames :=
  ⟨fun h m hm => by cases h with | record hkeys h => exact ⟨hkeys m hm, h m hm⟩,
    fun h => .record (fun m hm => (h m hm).1) fun m hm => (h m hm).2⟩

end Node

theorem ascii_statusCode (status : Status) : Ascii (statusCode status) := by
  cases status <;> decide

/-- The strings of a field are its status and, for a valid text field, its value. -/
theorem AnyField.allStrings_json (f : AnyField) : f.json.AllStrings Utf8 ↔ f.WellFormed := by
  have hkeys : Utf8 "valid" ∧ Utf8 "status" ∧ Utf8 "value" := by decide
  have hstatus : (Json.string (statusCode f.status)).AllStrings Utf8 :=
    .string (ascii_statusCode f.status).utf8
  have hvalue : f.WellFormed ↔ f.valid = true → f.valueJson.AllStrings Utf8 := by
    cases f with
    | string f =>
      rw [valueJson, allStrings_string]
      show (∀ text ∈ f.value?, Utf8 text) ↔ (f.valid = true → Utf8 f.value)
      rw [Field.value?]
      by_cases hvalid : f.valid = true
      · simp [hvalid]
      · simp [hvalid]
    | _ => exact iff_of_true trivial fun _ => by constructor
  rw [json, allStrings_object, hvalue]
  by_cases hvalid : f.valid = true
  · simp [hvalid, hkeys, hstatus, AllStrings.bool]
  · simp [hvalid, hkeys, hstatus, AllStrings.bool]

/-- The strings of a node whose names are ASCII are well-formed exactly when its text fields are. -/
theorem Node.allStrings_json {n : Node} (hn : n.AsciiNames) :
    n.json.AllStrings Utf8 ↔ n.WellFormed := by
  induction n using Node.induct with
  | field f =>
    rw [json_field, wellFormed_field]
    exact f.allStrings_json
  | text name =>
    rw [json_text]
    exact iff_of_true (.string ((asciiNames_text name).1 hn).utf8) (wellFormed_text name)
  | list entries ih =>
    have hentries := (asciiNames_list entries).1 hn
    rw [json_list, wellFormed_list, allStrings_array, List.forall_mem_map]
    exact forall₂_congr fun n hmem => ih n hmem (hentries n hmem)
  | record members ih =>
    have hmembers := (asciiNames_record members).1 hn
    rw [json_record, wellFormed_record, allStrings_object, List.forall_mem_map]
    refine forall₂_congr fun m hmem => ?_
    rw [ih m hmem (hmembers m hmem).2]
    exact and_iff_right (hmembers m hmem).1.utf8

/-! ## The names of a report -/

theorem ascii_arch (arch : ArchType) : Ascii arch.toString := by
  cases arch <;> decide

theorem ascii_cacheType (type : CacheType) : Ascii type.toString := by
  cases type <;> decide

theorem ascii_gpuVendor (vendor : GpuVendor) : Ascii vendor.toString := by
  cases vendor <;> decide

theorem ascii_category (c : Category) : Ascii c.name := by
  cases c <;> decide

theorem CpuTopologyEntry.asciiNames (entry : CpuTopologyEntry) : entry.node.AsciiNames := by
  simp [CpuTopologyEntry.node]
  and_intros <;> exact ascii_literal _ (by decide)

theorem CacheInfo.asciiNames (cache : CacheInfo) : cache.node.AsciiNames := by
  simp [CacheInfo.node, ascii_cacheType]
  and_intros <;> exact ascii_literal _ (by decide)

theorem NumaNodeInfo.asciiNames (info : NumaNodeInfo) : info.node.AsciiNames := by
  simp [NumaNodeInfo.node]
  and_intros <;> exact ascii_literal _ (by decide)

theorem PciDeviceInfo.asciiNames (device : PciDeviceInfo) : device.node.AsciiNames := by
  simp [PciDeviceInfo.node]
  and_intros <;> exact ascii_literal _ (by decide)

theorem GpuInfo.asciiNames (gpu : GpuInfo) : gpu.node.AsciiNames := by
  simp [GpuInfo.node, ascii_gpuVendor]
  and_intros <;> exact ascii_literal _ (by decide)

theorem BlockDeviceInfo.asciiNames (block : BlockDeviceInfo) : block.node.AsciiNames := by
  simp [BlockDeviceInfo.node]
  and_intros <;> exact ascii_literal _ (by decide)

theorem NetInterfaceInfo.asciiNames (net : NetInterfaceInfo) : net.node.AsciiNames := by
  simp [NetInterfaceInfo.node]
  and_intros <;> exact ascii_literal _ (by decide)

theorem ThermalZoneInfo.asciiNames (zone : ThermalZoneInfo) : zone.node.AsciiNames := by
  simp [ThermalZoneInfo.node]
  and_intros <;> exact ascii_literal _ (by decide)

/-- The names in a section are ASCII. -/
theorem SystemInfo.asciiNames_nodeOf (info : SystemInfo) (c : Category) :
    (info.nodeOf c).AsciiNames := by
  cases c with
  | isa =>
    simp [nodeOf, sectionOf, Category.node, IsaFeatures.node, IsaFeatures.x86Members,
      IsaFeatures.armMembers, IsaFeatures.riscvMembers]
    and_intros <;> exact ascii_literal _ (by decide)
  | perf =>
    simp [nodeOf, sectionOf, Category.node, PerfCounterInfo.node, PerfCounterAvailability.node]
    and_intros <;> exact ascii_literal _ (by decide)
  | _ =>
    simp [nodeOf, sectionOf, Category.node, OsInfo.node, CpuInfo.node, CacheList.node,
      MemoryInfo.node, PciDeviceList.node, GpuList.node, BlockDeviceList.node,
      NetInterfaceList.node, ThermalInfo.node, PowerInfo.node, VirtualizationInfo.node,
      PlatformInfo.node, CpuTopologyEntry.asciiNames, CacheInfo.asciiNames,
      NumaNodeInfo.asciiNames, PciDeviceInfo.asciiNames, GpuInfo.asciiNames,
      BlockDeviceInfo.asciiNames, NetInterfaceInfo.asciiNames, ThermalZoneInfo.asciiNames, ascii_arch]
    and_intros <;> exact ascii_literal _ (by decide)

theorem Report.asciiNames (report : Report) : report.node.AsciiNames := by
  simp +decide [Report.node, Report.data, ascii_category, SystemInfo.asciiNames_nodeOf]

/-- The text of a report is well-formed exactly when the text fields of its selected sections are. -/
theorem Report.utf8_toJson_iff (report : Report) :
    Utf8 report.toJson ↔ ∀ c, report.categories.Selects c → (report.system.nodeOf c).WellFormed := by
  rw [report.toJson_eq_render, utf8_render_iff, Node.allStrings_json report.asciiNames]
  simp [Report.node, Report.data, CollectCategory.mem_selected]

end Archspec
