import Archspec.Encoding
import Archspec.Lib.Schema

/-!
# The published schema

`archspec-report-v1.schema.json` as a `Schema`, with its definitions (`$defs`) under their names.
Every report conforms to it, whatever the mask and the contents of the sections are
(`report_conforms`).

The schema leaves the inside of the category objects to a remark: leaf values use the envelope of
`$defs.field`.  `Enveloped` makes the remark precise.  The values of the enumerations are the
exception: they are plain strings (`enumerationKeys`).
-/

namespace Archspec

open Lib Json

/-! ## The schema -/

/-- `$defs.categoryName` -/
def categoryNameSchema : Schema :=
  .all [.enum (([("os" : Bytes), "cpu", "isa", "cache", "memory", "pci", "gpu", "perf", "block",
    "net", "thermal", "power", "virtualization", "platform"] : List Bytes).map .string)]

/-- `$defs.status` -/
def statusSchema : Schema :=
  .all [.enum (([("ok" : Bytes), "unsupported", "perm_denied", "not_found", "parse_error",
    "invalid_arg", "redacted", "internal_error"] : List Bytes).map .string)]

/-- `$defs.field` -/
def fieldSchema : Schema :=
  .all
    [.type [.object],
     .required ["valid", "status"],
     .properties
       [("valid", .all [.type [.boolean]]),
        ("status", statusSchema),
        ("value", .all [.type [.string, .number, .boolean]])] false]

/-- `$defs.categoryData` -/
def categoryDataSchema : Schema := .all [.type [.object]]

/-- The schema of `producer`. -/
def producerSchema : Schema :=
  .all
    [.type [.object],
     .required ["name", "version"],
     .properties
       [("name", .all [.enum [.string "archspec-inspect"]]), ("version", .all [.type [.string]])]
       true]

/-- The schema of `collected_categories`. -/
def collectedCategoriesSchema : Schema :=
  .all [.type [.array], .uniqueItems, .items categoryNameSchema]

/-- The schema of `data`. -/
def dataSchema : Schema :=
  .all
    [.type [.object],
     .properties
       [("os", categoryDataSchema), ("cpu", categoryDataSchema), ("isa", categoryDataSchema),
        ("cache", categoryDataSchema), ("memory", categoryDataSchema), ("pci", categoryDataSchema),
        ("gpu", categoryDataSchema), ("perf", categoryDataSchema), ("block", categoryDataSchema),
        ("net", categoryDataSchema), ("thermal", categoryDataSchema), ("power", categoryDataSchema),
        ("virtualization", categoryDataSchema), ("platform", categoryDataSchema)] true]

/-- The schema of a report. -/
def reportSchema : Schema :=
  .all
    [.type [.object],
     .required ["schema_version", "producer", "collected_categories", "data"],
     .properties
       [("schema_version", .all [.enum [.string "1.0.0"]]), ("producer", producerSchema),
        ("collected_categories", collectedCategoriesSchema), ("data", dataSchema)] true]

/-! ## Fields -/

theorem statusCode_mem (s : Status) :
    statusCode s ∈ ([("ok" : Bytes), "unsupported", "perm_denied", "not_found", "parse_error",
      "invalid_arg", "redacted", "internal_error"] : List Bytes) := by
  cases s <;> decide

theorem statusSchema_valid (s : Status) :
    statusSchema.valid (.string (statusCode s)) = true := by
  rw [statusSchema, Schema.valid_all, List.forall_mem_singleton, Schema.valid_enum_string]
  exact statusCode_mem s

theorem AnyField.kind_valueJson (f : AnyField) :
    f.valueJson.kind ∈ [Kind.string, Kind.number, Kind.boolean] := by
  cases f <;> simp [AnyField.valueJson, kind]

/-- The members of a field satisfy the properties of the envelope. -/
theorem fieldProperties_valid (f : AnyField) :
    (Schema.properties
      [("valid", .all [.type [.boolean]]), ("status", statusSchema),
       ("value", .all [.type [.string, .number, .boolean]])] false).valid f.json = true := by
  refine Schema.valid_properties_of (by decide) (fun m hm => ?_) false
  simp only [List.cons_append, List.nil_append, List.mem_cons] at hm
  rcases hm with rfl | rfl | hm
  · exact ⟨.all [.type [.boolean]], by simp, by simp [kind]⟩
  · exact ⟨statusSchema, by simp, statusSchema_valid f.status⟩
  · split at hm
    · obtain rfl := List.mem_singleton.1 hm
      refine ⟨.all [.type [.string, .number, .boolean]], by simp, ?_⟩
      rw [Schema.valid_all, List.forall_mem_singleton, Schema.valid_type]
      exact f.kind_valueJson
    · exact absurd hm List.not_mem_nil

/-- Every field has the envelope of the schema. -/
theorem fieldSchema_valid (f : AnyField) : fieldSchema.valid f.json = true := by
  rw [fieldSchema, Schema.valid_all]
  simp only [List.forall_mem_cons, List.not_mem_nil, false_implies, implies_true, and_true]
  refine ⟨?_, ?_, fieldProperties_valid f⟩
  · rw [Schema.valid_type, AnyField.json]
    exact List.mem_singleton_self _
  · rw [AnyField.json, Schema.valid_required]
    simp

/-! ## Category objects -/

/-- The keys of the values of enumerations. -/
def enumerationKeys : List Bytes := ["arch", "type", "vendor"]

/-- Arrays and objects down to the envelopes of fields, and to the names of enumeration values under
their keys. -/
inductive Enveloped : Json → Prop where
  | field {j : Json} (h : fieldSchema.valid j = true) : Enveloped j
  | array {js : List Json} (h : ∀ j ∈ js, Enveloped j) : Enveloped (.array js)
  | object {ms : List (Bytes × Json)} (h : ∀ m ∈ ms, m.2.kind ≠ .string → Enveloped m.2)
      (hname : ∀ m ∈ ms, m.2.kind = .string → m.1 ∈ enumerationKeys) : Enveloped (.object ms)

/-- A plain string is not enveloped. -/
theorem Enveloped.kind_ne_string {j : Json} (h : Enveloped j) : j.kind ≠ .string := by
  cases h with
  | field h =>
    rw [fieldSchema, Schema.valid_all] at h
    have hobject := (Schema.valid_type _ _).1 (h _ List.mem_cons_self)
    rw [List.mem_singleton.1 hobject]
    decide
  | array h => exact fun h => Kind.noConfusion h
  | object h hname => exact fun h => Kind.noConfusion h

/-- A member of a record: a name under one of the keys, or enveloped itself. -/
def EnvelopedMember (m : Bytes × Node) : Prop :=
  (∃ name, m.2 = .text name ∧ m.1 ∈ enumerationKeys) ∨ Enveloped m.2.json

namespace Node

@[simp] theorem envelopedMember_field (key : Bytes) (f : AnyField) :
    EnvelopedMember (key, field f) :=
  Or.inr (by rw [json_field]; exact .field (fieldSchema_valid f))

theorem envelopedMember_text {key : Bytes} (h : key ∈ enumerationKeys) (name : Bytes) :
    EnvelopedMember (key, text name) := Or.inl ⟨name, rfl, h⟩

theorem enveloped_record {members : List (Bytes × Node)} (h : ∀ m ∈ members, EnvelopedMember m) :
    Enveloped (record members).json := by
  rw [json_record]
  refine .object (fun j hj hkind => ?_) fun j hj hkind => ?_
  · obtain ⟨m, hm, rfl⟩ := List.mem_map.1 hj
    rcases h m hm with ⟨name, htext, -⟩ | henveloped
    · rw [htext, json_text] at hkind
      exact absurd rfl hkind
    · exact henveloped
  · obtain ⟨m, hm, rfl⟩ := List.mem_map.1 hj
    rcases h m hm with ⟨name, -, hkey⟩ | henveloped
    · exact hkey
    · exact absurd hkind henveloped.kind_ne_string

theorem enveloped_list {α : Type} (entries : List α) {toNode : α → Node}
    (h : ∀ a, Enveloped (toNode a).json) : Enveloped (list (entries.map toNode)).json := by
  rw [json_list, List.map_map]
  refine .array fun j hj => ?_
  obtain ⟨a, -, rfl⟩ := List.mem_map.1 hj
  exact h a

end Node

open Node

theorem CpuTopologyEntry.enveloped (info : CpuTopologyEntry) : Enveloped info.node.json :=
  enveloped_record (by simp)

theorem CacheInfo.enveloped (info : CacheInfo) : Enveloped info.node.json := by
  have htype : EnvelopedMember ("type", text info.type.toString) :=
    envelopedMember_text (by decide) _
  exact enveloped_record (by simp [htype])

theorem NumaNodeInfo.enveloped (info : NumaNodeInfo) : Enveloped info.node.json :=
  enveloped_record (by simp)

theorem PciDeviceInfo.enveloped (info : PciDeviceInfo) : Enveloped info.node.json :=
  enveloped_record (by simp)

theorem GpuInfo.enveloped (info : GpuInfo) : Enveloped info.node.json := by
  have hvendor : EnvelopedMember ("vendor", text info.vendor.toString) :=
    envelopedMember_text (by decide) _
  exact enveloped_record (by simp [hvendor])

theorem BlockDeviceInfo.enveloped (info : BlockDeviceInfo) : Enveloped info.node.json :=
  enveloped_record (by simp)

theorem NetInterfaceInfo.enveloped (info : NetInterfaceInfo) : Enveloped info.node.json :=
  enveloped_record (by simp)

theorem ThermalZoneInfo.enveloped (info : ThermalZoneInfo) : Enveloped info.node.json :=
  enveloped_record (by simp)

theorem PerfCounterAvailability.enveloped (info : PerfCounterAvailability) :
    Enveloped info.node.json := enveloped_record (by simp)

/-- A list of entries under one key. -/
theorem enveloped_entries {α : Type} (entries : List α) {toNode : α → Node}
    (h : ∀ a, Enveloped (toNode a).json) :
    Enveloped (record [("entries", list (entries.map toNode))]).json :=
  enveloped_record (List.forall_mem_singleton.2 (Or.inr (enveloped_list entries h)))

/-- The section of a category. -/
theorem Category.enveloped (c : Category) (s : c.Section) : Enveloped (c.node s).json := by
  have hlist : ∀ {α : Type} (key : Bytes) (entries : List α) {toNode : α → Node},
      (∀ a, Enveloped (toNode a).json) → EnvelopedMember (key, list (entries.map toNode)) :=
    fun key entries _ h => Or.inr (enveloped_list entries h)
  cases c with
  | os => exact enveloped_record (by simp)
  | cpu =>
    have htopology := hlist "topology" s.topology CpuTopologyEntry.enveloped
    have harch : EnvelopedMember ("arch", text s.arch.toString) :=
      envelopedMember_text (by decide) _
    exact enveloped_record (by simp [harch, htopology])
  | isa =>
    refine enveloped_record ?_
    simp [IsaFeatures.x86Members, IsaFeatures.armMembers, IsaFeatures.riscvMembers]
  | cache => exact enveloped_entries s.entries CacheInfo.enveloped
  | memory =>
    have hnodes := hlist "numa_nodes" s.numaNodes NumaNodeInfo.enveloped
    exact enveloped_record (by simp [hnodes])
  | pci => exact enveloped_entries s.entries PciDeviceInfo.enveloped
  | gpu => exact enveloped_entries s.entries GpuInfo.enveloped
  | perf =>
    have havailable : EnvelopedMember ("available", s.available.node) :=
      Or.inr s.available.enveloped
    exact enveloped_record (by simp [havailable])
  | block => exact enveloped_entries s.entries BlockDeviceInfo.enveloped
  | net => exact enveloped_entries s.entries NetInterfaceInfo.enveloped
  | thermal => exact enveloped_entries s.entries ThermalZoneInfo.enveloped
  | power => exact enveloped_record (by simp)
  | virtualization => exact enveloped_record (by simp)
  | platform => exact enveloped_record (by simp)

/-! ## Whole reports -/

theorem Category.kind_node (c : Category) (s : c.Section) : (c.node s).json.kind = .object := by
  cases c <;> exact congrArg kind (json_record _)

theorem categoryNameSchema_valid (c : Category) :
    categoryNameSchema.valid (.string c.name) = true := by
  rw [categoryNameSchema, Schema.valid_all, List.forall_mem_singleton, Schema.valid_enum_string]
  cases c <;> decide

theorem CollectCategory.nodup_selected_names (mask : CollectCategory) :
    (mask.selected.map Category.name).Nodup := by
  have hall : (Category.all.map Category.name).Nodup := by decide
  exact hall.sublist (List.filter_sublist.map _)

/-- The list of the collected categories. -/
theorem collectedCategoriesSchema_valid (mask : CollectCategory) :
    collectedCategoriesSchema.valid (.array (mask.selected.map fun c => .string c.name)) = true := by
  have hunique := Schema.valid_uniqueItems_strings mask.nodup_selected_names
  rw [List.map_map] at hunique
  rw [collectedCategoriesSchema, Schema.valid_all]
  simp only [List.forall_mem_cons, List.not_mem_nil, false_implies, implies_true, and_true]
  refine ⟨by simp [kind], hunique, ?_⟩
  rw [Schema.valid_items]
  intro j hj
  obtain ⟨c, -, rfl⟩ := List.mem_map.1 hj
  exact categoryNameSchema_valid c

/-- The objects of the categories. -/
theorem dataSchema_valid (report : Report) :
    dataSchema.valid (Node.record report.data).json = true := by
  rw [dataSchema, json_record, Schema.valid_all]
  simp only [List.forall_mem_cons, List.not_mem_nil, false_implies, implies_true, and_true]
  refine ⟨by simp [kind], Schema.valid_properties_of (by decide) (fun m hm => ?_) true⟩
  obtain ⟨_, hdata, rfl⟩ := List.mem_map.1 hm
  obtain ⟨c, -, rfl⟩ := List.mem_map.1 hdata
  refine ⟨categoryDataSchema, ?_, ?_⟩
  · have hall : (c.name, categoryDataSchema) ∈
        Category.all.map fun c => (c.name, categoryDataSchema) :=
      List.mem_map_of_mem c.mem_all
    exact hall
  · rw [categoryDataSchema, Schema.valid_all, List.forall_mem_singleton, Schema.valid_type,
      List.mem_singleton]
    exact c.kind_node _

theorem producerSchema_valid :
    producerSchema.valid
      (Node.record [("name", .text "archspec-inspect"), ("version", .text "0.2.0")]).json = true := by
  rw [json_record, List.map_cons, List.map_singleton, json_text, json_text]
  decide

theorem reportSchema_valid (report : Report) : reportSchema.valid report.node.json = true := by
  rw [reportSchema, Report.node, json_record, Schema.valid_all]
  simp only [List.forall_mem_cons, List.not_mem_nil, false_implies, implies_true, and_true]
  refine ⟨by simp [kind], by simp, Schema.valid_properties_of (by decide) (fun m hm => ?_) true⟩
  simp only [List.map_cons, List.map_nil, List.mem_cons, List.not_mem_nil, or_false] at hm
  rcases hm with rfl | rfl | rfl | rfl
  · refine ⟨.all [.enum [.string "1.0.0"]], by simp, ?_⟩
    rw [json_text]
    decide
  · exact ⟨producerSchema, by simp, producerSchema_valid⟩
  · refine ⟨collectedCategoriesSchema, by simp, ?_⟩
    rw [json_list, List.map_map]
    exact collectedCategoriesSchema_valid report.categories
  · exact ⟨dataSchema, by simp, dataSchema_valid report⟩

/-- The text of every report is a document of the published schema, whose category objects hold
nothing but fields in the envelope of the schema and the names of enumeration values. -/
theorem report_conforms (report : Report) :
    ∃ members data, parse report.toJson = some (.object members) ∧
      reportSchema.valid (.object members) = true ∧ (bytes "data", .object data) ∈ members ∧
      ∀ m ∈ data, Enveloped m.2 := by
  have hvalid := reportSchema_valid report
  rw [Report.node, json_record] at hvalid
  refine ⟨_, report.data.map fun m => (m.1, m.2.json), ?_, hvalid, ?_, fun m hm => ?_⟩
  · rw [report.toJson_eq_render, parse_render, Report.node, json_record]
  · simp
  · obtain ⟨_, hdata, rfl⟩ := List.mem_map.1 hm
    obtain ⟨c, -, rfl⟩ := List.mem_map.1 hdata
    exact c.enveloped _

end Archspec
