import Archspec.Encode
import Archspec.Tree

/-!
# The encoders render the tree

Every encoder of `json.cc` writes the compact text of the tree of its record
(`Report.toJson_eq_render`, `SystemInfo.toJson_eq_render`), so the text of a report parses to that
tree.

The builder is followed by `JsonObject.ofMembers`, the state after the given members were added.
-/

namespace Archspec

open Lib Json

/-! ## Strings -/

theorem hexPadded_control (n : ℕ) (h : n < 32) :
    hexPadded 4 n = [48, 48, hexDigit (n / 16), hexDigit (n % 16)] := by
  revert n
  decide

theorem escapeJsonByte_eq (c : UInt8) : escapeJsonByte c = escapeByte c := by
  rcases eq_or_ne c 34 with rfl | h34
  · rfl
  rcases eq_or_ne c 92 with rfl | h92
  · rfl
  rcases eq_or_ne c 8 with rfl | h8
  · rfl
  rcases eq_or_ne c 12 with rfl | h12
  · rfl
  rcases eq_or_ne c 10 with rfl | h10
  · rfl
  rcases eq_or_ne c 13 with rfl | h13
  · rfl
  rcases eq_or_ne c 9 with rfl | h9
  · rfl
  simp only [escapeJsonByte, escapeByte, shortEscape, h34, h92, h8, h12, h10, h13, h9, or_self,
    if_false]
  split
  · rename_i hc
    rw [hexPadded_control c.toNat hc]
    rfl
  · rfl

theorem escapeJson_eq_flatMap (input : Bytes) : escapeJson input = input.flatMap escapeByte := by
  rw [escapeJson, funext escapeJsonByte_eq]

theorem jsonString_eq_quote (s : Bytes) : jsonString s = quote s := by
  rw [jsonString, escapeJson_eq_flatMap, quote]
  rfl

/-! ## The object builder -/

namespace JsonObject

/-- The builder after these members were added. -/
def ofMembers (ms : List (Bytes × Json)) : JsonObject :=
  { first := ms.isEmpty, out := commas (ms.map fun m => quote m.1 ++ 58 :: render m.2) }

theorem empty_eq : ({} : JsonObject) = ofMembers [] := rfl

variable (ms : List (Bytes × Json)) (key : Bytes)

theorem addRaw_ofMembers (j : Json) :
    (ofMembers ms).addRaw key (render j) = ofMembers (ms ++ [(key, j)]) := by
  rw [ofMembers, ofMembers, List.map_append, List.map_singleton, commas_append_singleton, addRaw,
    addComma]
  cases ms <;> simp [jsonString_eq_quote, bytes]

@[simp] theorem addString_ofMembers (value : Bytes) :
    (ofMembers ms).addString key value = ofMembers (ms ++ [(key, .string value)]) := by
  rw [addString, jsonString_eq_quote, ← addRaw_ofMembers, render]

@[simp] theorem addBool_ofMembers (value : Bool) :
    (ofMembers ms).addBool key value = ofMembers (ms ++ [(key, .bool value)]) := by
  rw [addBool, ← addRaw_ofMembers, render]
  rfl

theorem render_number_zero (n : ℤ) : render (.number n 0) = decimalInt n := by
  rw [render, if_pos rfl, List.append_nil]

@[simp] theorem addI64_ofMembers (value : Int64) :
    (ofMembers ms).addI64 key value = ofMembers (ms ++ [(key, .number value.toInt 0)]) := by
  rw [← addRaw_ofMembers, render_number_zero]
  rfl

@[simp] theorem addU64_ofMembers (value : UInt64) :
    (ofMembers ms).addU64 key value = ofMembers (ms ++ [(key, .number value.toNat 0)]) := by
  have h : decimalInt (value.toNat : ℤ) = decimal value.toNat := by
    rw [decimalInt, if_neg (by omega), Int.natAbs_natCast]
  rw [← addRaw_ofMembers, render_number_zero, h]
  rfl

@[simp] theorem str_ofMembers : (ofMembers ms).str = render (.object ms) := by
  rw [render_object]
  rfl

end JsonObject

/-! ## Fields and lists -/

section Fields

variable {α : Type} [FieldValue α]

/-- The text of a field, for a type whose values are added as `json` says. -/
theorem fieldToJson_eq_render (json : α → Json)
    (h : ∀ ms key v, FieldValue.add (.ofMembers ms) key v = .ofMembers (ms ++ [(key, json v)]))
    (f : Field α) :
    fieldToJson f = render (.object ([(bytes "valid", .bool f.valid),
      (bytes "status", .string (statusCode f.status))] ++
        if f.valid then [(bytes "value", json f.value)] else [])) := by
  simp only [fieldToJson, JsonObject.empty_eq, JsonObject.addBool_ofMembers,
    JsonObject.addString_ofMembers, h, List.nil_append]
  split <;> rw [JsonObject.str_ofMembers] <;> rfl

end Fields

namespace JsonObject

variable (ms : List (Bytes × Json)) (key : Bytes)

@[simp] theorem addField_string (f : StringField) :
    (ofMembers ms).addField key f = ofMembers (ms ++ [(key, (f : Node).json)]) := by
  rw [addField, fieldToJson_eq_render .string addString_ofMembers, addRaw_ofMembers]
  rw [Node.json_field]
  rfl

@[simp] theorem addField_bool (f : BoolField) :
    (ofMembers ms).addField key f = ofMembers (ms ++ [(key, (f : Node).json)]) := by
  rw [addField, fieldToJson_eq_render .bool addBool_ofMembers, addRaw_ofMembers, Node.json_field]
  rfl

@[simp] theorem addField_u64 (f : U64Field) :
    (ofMembers ms).addField key f = ofMembers (ms ++ [(key, (f : Node).json)]) := by
  rw [addField, fieldToJson_eq_render _ addU64_ofMembers, addRaw_ofMembers, Node.json_field]
  rfl

@[simp] theorem addField_u32 (f : U32Field) :
    (ofMembers ms).addField key f = ofMembers (ms ++ [(key, (f : Node).json)]) := by
  rw [addField, fieldToJson_eq_render (fun v : UInt32 => .number v.toNat 0)
    (fun ms key v => addU64_ofMembers ms key v.toUInt64), addRaw_ofMembers, Node.json_field]
  rfl

@[simp] theorem addField_i64 (f : I64Field) :
    (ofMembers ms).addField key f = ofMembers (ms ++ [(key, (f : Node).json)]) := by
  rw [addField, fieldToJson_eq_render _ addI64_ofMembers, addRaw_ofMembers, Node.json_field]
  rfl

end JsonObject

theorem foldl_separate (ts us : List Bytes) :
    us.foldl separate (ts.isEmpty, 91 :: commas ts) = ((ts ++ us).isEmpty, 91 :: commas (ts ++ us)) := by
  induction us generalizing ts with
  | nil => rw [List.foldl_nil, List.append_nil]
  | cons u us ih =>
    have hstep : separate (ts.isEmpty, 91 :: commas ts) u =
        ((ts ++ [u]).isEmpty, 91 :: commas (ts ++ [u])) := by
      rw [commas_append_singleton]
      cases ts <;> simp [separate, bytes]
    rw [List.foldl_cons, hstep, ih, List.append_assoc, List.singleton_append]

theorem vectorToJson_eq_render {α : Type} (values : List α) {toJsonFn : α → Bytes}
    {toNode : α → Node} (h : ∀ a, toJsonFn a = render (toNode a).json) :
    vectorToJson values toJsonFn = render (Node.list (values.map toNode)).json := by
  rw [vectorToJson, ← List.foldl_map, Node.json_list, render_array, List.map_map, List.map_map,
    funext h]
  have hfold := foldl_separate [] (values.map fun a => render (toNode a).json)
  rw [List.nil_append] at hfold
  exact congrArg (fun p : Bool × Bytes => p.2 ++ [93]) hfold

/-! ## Records -/

open JsonObject

theorem cpuTopologyToJson_eq_render (entry : CpuTopologyEntry) : cpuTopologyToJson entry = render entry.node.json := by
  simp [cpuTopologyToJson, CpuTopologyEntry.node, empty_eq]

theorem cacheInfoToJson_eq_render (cache : CacheInfo) : cacheInfoToJson cache = render cache.node.json := by
  simp [cacheInfoToJson, CacheInfo.node, empty_eq]

theorem numaNodeToJson_eq_render (info : NumaNodeInfo) : numaNodeToJson info = render info.node.json := by
  simp [numaNodeToJson, NumaNodeInfo.node, empty_eq]

theorem pciDeviceToJson_eq_render (device : PciDeviceInfo) : pciDeviceToJson device = render device.node.json := by
  simp [pciDeviceToJson, PciDeviceInfo.node, empty_eq]

theorem gpuInfoToJson_eq_render (gpu : GpuInfo) : gpuInfoToJson gpu = render gpu.node.json := by
  simp [gpuInfoToJson, GpuInfo.node, empty_eq]

theorem blockDeviceToJson_eq_render (block : BlockDeviceInfo) : blockDeviceToJson block = render block.node.json := by
  simp [blockDeviceToJson, BlockDeviceInfo.node, empty_eq]

theorem netInterfaceToJson_eq_render (net : NetInterfaceInfo) : netInterfaceToJson net = render net.node.json := by
  simp [netInterfaceToJson, NetInterfaceInfo.node, empty_eq]

theorem thermalZoneToJson_eq_render (zone : ThermalZoneInfo) : thermalZoneToJson zone = render zone.node.json := by
  simp [thermalZoneToJson, ThermalZoneInfo.node, empty_eq]

theorem OsInfo.toJson_eq_render (info : OsInfo) : info.toJson = render info.node.json := by
  simp [OsInfo.toJson, OsInfo.node, empty_eq]

theorem PowerInfo.toJson_eq_render (info : PowerInfo) : info.toJson = render info.node.json := by
  simp [PowerInfo.toJson, PowerInfo.node, empty_eq]

theorem VirtualizationInfo.toJson_eq_render (info : VirtualizationInfo) : info.toJson = render info.node.json := by
  simp [VirtualizationInfo.toJson, VirtualizationInfo.node, empty_eq]

theorem PlatformInfo.toJson_eq_render (info : PlatformInfo) : info.toJson = render info.node.json := by
  simp [PlatformInfo.toJson, PlatformInfo.node, empty_eq]

theorem CpuInfo.toJson_eq_render (info : CpuInfo) : info.toJson = render info.node.json := by
  simp [CpuInfo.toJson, CpuInfo.node, empty_eq, addRaw_ofMembers,
    vectorToJson_eq_render _ cpuTopologyToJson_eq_render]

theorem CacheList.toJson_eq_render (info : CacheList) : info.toJson = render info.node.json := by
  simp [CacheList.toJson, CacheList.node, empty_eq, addRaw_ofMembers,
    vectorToJson_eq_render _ cacheInfoToJson_eq_render]

theorem MemoryInfo.toJson_eq_render (info : MemoryInfo) : info.toJson = render info.node.json := by
  simp [MemoryInfo.toJson, MemoryInfo.node, empty_eq, addRaw_ofMembers,
    vectorToJson_eq_render _ numaNodeToJson_eq_render]

theorem PciDeviceList.toJson_eq_render (info : PciDeviceList) : info.toJson = render info.node.json := by
  simp [PciDeviceList.toJson, PciDeviceList.node, empty_eq, addRaw_ofMembers,
    vectorToJson_eq_render _ pciDeviceToJson_eq_render]

theorem GpuList.toJson_eq_render (info : GpuList) : info.toJson = render info.node.json := by
  simp [GpuList.toJson, GpuList.node, empty_eq, addRaw_ofMembers,
    vectorToJson_eq_render _ gpuInfoToJson_eq_render]

theorem BlockDeviceList.toJson_eq_render (info : BlockDeviceList) : info.toJson = render info.node.json := by
  simp [BlockDeviceList.toJson, BlockDeviceList.node, empty_eq, addRaw_ofMembers,
    vectorToJson_eq_render _ blockDeviceToJson_eq_render]

theorem NetInterfaceList.toJson_eq_render (info : NetInterfaceList) : info.toJson = render info.node.json := by
  simp [NetInterfaceList.toJson, NetInterfaceList.node, empty_eq, addRaw_ofMembers,
    vectorToJson_eq_render _ netInterfaceToJson_eq_render]

theorem ThermalInfo.toJson_eq_render (info : ThermalInfo) : info.toJson = render info.node.json := by
  simp [ThermalInfo.toJson, ThermalInfo.node, empty_eq, addRaw_ofMembers,
    vectorToJson_eq_render _ thermalZoneToJson_eq_render]

theorem PerfCounterInfo.toJson_eq_render (info : PerfCounterInfo) :
    info.toJson = render info.node.json := by
  simp [PerfCounterInfo.toJson, PerfCounterInfo.node, PerfCounterAvailability.node, empty_eq,
    addRaw_ofMembers]

theorem IsaFeatures.toJson_eq_render (features : IsaFeatures) :
    features.toJson = render features.node.json := by
  simp [IsaFeatures.toJson, IsaFeatures.node, IsaFeatures.x86Members, IsaFeatures.armMembers,
    IsaFeatures.riscvMembers, empty_eq]

/-! ## Whole texts -/

/-- The text of the section of a category. -/
def SystemInfo.sectionJson (info : SystemInfo) : Category → Bytes
  | .os => info.osInfo.toJson
  | .cpu => info.cpuInfo.toJson
  | .isa => info.isaFeatures.toJson
  | .cache => info.cacheList.toJson
  | .memory => info.memoryInfo.toJson
  | .pci => info.pciDevices.toJson
  | .gpu => info.gpuList.toJson
  | .perf => info.perfInfo.toJson
  | .block => info.blockDevices.toJson
  | .net => info.netInterfaces.toJson
  | .thermal => info.thermalInfo.toJson
  | .power => info.powerInfo.toJson
  | .virtualization => info.virtualizationInfo.toJson
  | .platform => info.platformInfo.toJson

theorem SystemInfo.sectionJson_eq_render (info : SystemInfo) (c : Category) :
    info.sectionJson c = render (info.nodeOf c).json := by
  cases c
  · exact info.osInfo.toJson_eq_render
  · exact info.cpuInfo.toJson_eq_render
  · exact info.isaFeatures.toJson_eq_render
  · exact info.cacheList.toJson_eq_render
  · exact info.memoryInfo.toJson_eq_render
  · exact info.pciDevices.toJson_eq_render
  · exact info.gpuList.toJson_eq_render
  · exact info.perfInfo.toJson_eq_render
  · exact info.blockDevices.toJson_eq_render
  · exact info.netInterfaces.toJson_eq_render
  · exact info.thermalInfo.toJson_eq_render
  · exact info.powerInfo.toJson_eq_render
  · exact info.virtualizationInfo.toJson_eq_render
  · exact info.platformInfo.toJson_eq_render

theorem SystemInfo.toJson_eq_render (info : SystemInfo) : info.toJson = render info.node.json := by
  have h : info.toJson =
      (Category.all.foldl (fun obj c => addRaw obj c.sectionKey (info.sectionJson c)) {}).str := rfl
  have hfold : ∀ (cs : List Category) ms,
      cs.foldl (fun obj c => addRaw obj c.sectionKey (info.sectionJson c)) (ofMembers ms) =
        ofMembers (ms ++ cs.map fun c => (c.sectionKey, (info.nodeOf c).json)) := by
    intro cs
    induction cs with
    | nil => exact fun ms => by rw [List.foldl_nil, List.map_nil, List.append_nil]
    | cons c cs ih =>
      intro ms
      rw [List.foldl_cons, info.sectionJson_eq_render, addRaw_ofMembers, ih, List.map_cons,
        List.append_assoc, List.singleton_append]
  rw [h, empty_eq, hfold, str_ofMembers, SystemInfo.node, Node.json_record, List.map_map]
  rfl

section Report

variable (mask : CollectCategory)

theorem collectedCategories_eq_render :
    collectedCategories mask =
      render (Node.list (mask.selected.map fun c => .text c.name)).json := by
  have htable : categoryEntries = Category.all.map fun c => (c.flag, c.name) := rfl
  have hfold : ∀ (cs : List Category) (state : Bool × Bytes),
      (cs.map fun c => (c.flag, c.name)).foldl (fun state entry =>
          if !hasCategory mask entry.1 then state else separate state (jsonString entry.2)) state =
        ((cs.filter fun c => hasCategory mask c.flag).map fun c => jsonString c.name).foldl separate
          state := by
    intro cs
    induction cs with
    | nil => exact fun _ => rfl
    | cons c cs ih =>
      intro state
      rw [List.map_cons, List.foldl_cons, ih, List.filter_cons]
      cases hasCategory mask c.flag <;> rfl
  have hquote : ∀ c : Category, jsonString c.name = render (Node.text c.name).json := fun c => by
    rw [jsonString_eq_quote, Node.json_text, render]
  rw [← vectorToJson_eq_render mask.selected hquote, vectorToJson, ← List.foldl_map,
    collectedCategories, htable, hfold]
  rfl

theorem dataObject_eq_ofMembers (info : SystemInfo) :
    dataObject mask info =
      ofMembers (mask.selected.map fun c => (c.name, (info.nodeOf c).json)) := by
  have h : dataObject mask info = Category.all.foldl
      (fun obj c => addSection obj mask c.flag c.name (info.sectionJson c)) {} := rfl
  have hfold : ∀ (cs : List Category) ms,
      cs.foldl (fun obj c => addSection obj mask c.flag c.name (info.sectionJson c))
          (ofMembers ms) =
        ofMembers (ms ++ (cs.filter fun c => hasCategory mask c.flag).map fun c =>
          (c.name, (info.nodeOf c).json)) := by
    intro cs
    induction cs with
    | nil => exact fun ms => by rw [List.foldl_nil, List.filter_nil, List.map_nil, List.append_nil]
    | cons c cs ih =>
      intro ms
      rw [List.foldl_cons, List.filter_cons, addSection]
      split
      · rw [info.sectionJson_eq_render, addRaw_ofMembers, ih, List.map_cons, List.append_assoc,
          List.singleton_append]
      · exact ih ms
  rw [h, empty_eq, hfold, List.nil_append, CollectCategory.selected]

theorem Report.toJson_eq_render (report : Report) :
    report.toJson = render report.node.json := by
  simp [Report.toJson, Report.node, Report.data, empty_eq, addRaw_ofMembers,
    collectedCategories_eq_render, dataObject_eq_ofMembers, reportSchemaVersion, version,
    Function.comp_def]

end Report

/-! ## Distinct keys -/

attribute [simp] DistinctKeys.string

@[simp] theorem AnyField.distinctKeys_json (f : AnyField) : f.json.DistinctKeys := by
  have hvalid : (Json.bool f.valid).DistinctKeys := .bool _
  have hstatus : (Json.string (statusCode f.status)).DistinctKeys := .string _
  have hvalue : f.valueJson.DistinctKeys := by
    cases f <;> constructor
  rw [AnyField.json]
  split
  · refine .object ?_ (by simp [hvalid, hstatus, hvalue])
    simp only [List.cons_append, List.nil_append, List.map_cons, List.map_nil]
    decide
  · refine .object ?_ (by simp [hvalid, hstatus])
    simp only [List.append_nil, List.map_cons, List.map_nil]
    decide

namespace Node

theorem distinctKeys_list {α : Type} (entries : List α) {toNode : α → Node}
    (h : ∀ a, (toNode a).json.DistinctKeys) :
    (list (entries.map toNode)).json.DistinctKeys := by
  rw [json_list, List.map_map]
  refine .array fun j hj => ?_
  obtain ⟨a, -, rfl⟩ := List.mem_map.1 hj
  exact h a

theorem distinctKeys_record {members : List (Bytes × Node)}
    (hkeys : (members.map Prod.fst).Nodup) (h : ∀ m ∈ members, m.2.json.DistinctKeys) :
    (record members).json.DistinctKeys := by
  rw [json_record]
  refine .object (by rwa [List.map_map]) fun j hj => ?_
  obtain ⟨m, hm, rfl⟩ := List.mem_map.1 hj
  exact h m hm

end Node

open Node

theorem CpuTopologyEntry.distinctKeys (info : CpuTopologyEntry) : info.node.json.DistinctKeys :=
  distinctKeys_record (by simp only [List.map_cons, List.map_nil]; decide) (by simp)

theorem CacheInfo.distinctKeys (info : CacheInfo) : info.node.json.DistinctKeys :=
  distinctKeys_record (by simp only [List.map_cons, List.map_nil]; decide) (by simp)

theorem NumaNodeInfo.distinctKeys (info : NumaNodeInfo) : info.node.json.DistinctKeys :=
  distinctKeys_record (by simp only [List.map_cons, List.map_nil]; decide) (by simp)

theorem PciDeviceInfo.distinctKeys (info : PciDeviceInfo) : info.node.json.DistinctKeys :=
  distinctKeys_record (by simp only [List.map_cons, List.map_nil]; decide) (by simp)

theorem GpuInfo.distinctKeys (info : GpuInfo) : info.node.json.DistinctKeys :=
  distinctKeys_record (by simp only [List.map_cons, List.map_nil]; decide +kernel) (by simp)

theorem BlockDeviceInfo.distinctKeys (info : BlockDeviceInfo) : info.node.json.DistinctKeys :=
  distinctKeys_record (by simp only [List.map_cons, List.map_nil]; decide) (by simp)

theorem NetInterfaceInfo.distinctKeys (info : NetInterfaceInfo) : info.node.json.DistinctKeys :=
  distinctKeys_record (by simp only [List.map_cons, List.map_nil]; decide) (by simp)

theorem ThermalZoneInfo.distinctKeys (info : ThermalZoneInfo) : info.node.json.DistinctKeys :=
  distinctKeys_record (by simp only [List.map_cons, List.map_nil]; decide) (by simp)

theorem PerfCounterAvailability.distinctKeys (info : PerfCounterAvailability) :
    info.node.json.DistinctKeys :=
  distinctKeys_record (by simp only [List.map_cons, List.map_nil]; decide) (by simp)

theorem OsInfo.distinctKeys (info : OsInfo) : info.node.json.DistinctKeys :=
  distinctKeys_record (by simp only [List.map_cons, List.map_nil]; decide +kernel) (by simp)

theorem PowerInfo.distinctKeys (info : PowerInfo) : info.node.json.DistinctKeys :=
  distinctKeys_record (by simp only [List.map_cons, List.map_nil]; decide) (by simp)

theorem VirtualizationInfo.distinctKeys (info : VirtualizationInfo) : info.node.json.DistinctKeys :=
  distinctKeys_record (by simp only [List.map_cons, List.map_nil]; decide) (by simp)

theorem PlatformInfo.distinctKeys (info : PlatformInfo) : info.node.json.DistinctKeys :=
  distinctKeys_record (by simp only [List.map_cons, List.map_nil]; decide) (by simp)

theorem PerfCounterInfo.distinctKeys (info : PerfCounterInfo) : info.node.json.DistinctKeys :=
  distinctKeys_record (by simp only [List.map_cons, List.map_nil]; decide)
    (by simp [info.available.distinctKeys])

theorem IsaFeatures.distinctKeys (features : IsaFeatures) : features.node.json.DistinctKeys := by
  refine distinctKeys_record ?_ ?_
  · simp only [x86Members, armMembers, riscvMembers, List.map_append, List.map_cons, List.map_nil]
    decide +kernel
  · simp only [x86Members, armMembers, riscvMembers, List.cons_append, List.nil_append,
      List.forall_mem_cons, json_field, AnyField.distinctKeys_json, true_and]
    exact List.forall_mem_nil _

theorem CpuInfo.distinctKeys (info : CpuInfo) : info.node.json.DistinctKeys := by
  have htopology := distinctKeys_list info.topology CpuTopologyEntry.distinctKeys
  exact distinctKeys_record (by simp only [List.map_cons, List.map_nil]; decide +kernel)
    (by simp [-json_list, htopology])

theorem MemoryInfo.distinctKeys (info : MemoryInfo) : info.node.json.DistinctKeys := by
  have hnodes := distinctKeys_list info.numaNodes NumaNodeInfo.distinctKeys
  exact distinctKeys_record (by simp only [List.map_cons, List.map_nil]; decide +kernel)
    (by simp [-json_list, hnodes])

/-- A section that is a list of entries. -/
theorem distinctKeys_entries {α : Type} (entries : List α) {toNode : α → Node}
    (h : ∀ a, (toNode a).json.DistinctKeys) :
    (Node.record [("entries", .list (entries.map toNode))]).json.DistinctKeys :=
  distinctKeys_record (by simp only [List.map_cons, List.map_nil]; decide)
    (List.forall_mem_singleton.2 (distinctKeys_list entries h))

theorem SystemInfo.distinctKeys_nodeOf (info : SystemInfo) (c : Category) :
    (info.nodeOf c).json.DistinctKeys := by
  cases c
  · exact info.osInfo.distinctKeys
  · exact info.cpuInfo.distinctKeys
  · exact info.isaFeatures.distinctKeys
  · exact distinctKeys_entries info.cacheList.entries CacheInfo.distinctKeys
  · exact info.memoryInfo.distinctKeys
  · exact distinctKeys_entries info.pciDevices.entries PciDeviceInfo.distinctKeys
  · exact distinctKeys_entries info.gpuList.entries GpuInfo.distinctKeys
  · exact info.perfInfo.distinctKeys
  · exact distinctKeys_entries info.blockDevices.entries BlockDeviceInfo.distinctKeys
  · exact distinctKeys_entries info.netInterfaces.entries NetInterfaceInfo.distinctKeys
  · exact distinctKeys_entries info.thermalInfo.entries ThermalZoneInfo.distinctKeys
  · exact info.powerInfo.distinctKeys
  · exact info.virtualizationInfo.distinctKeys
  · exact info.platformInfo.distinctKeys

theorem Report.distinctKeys (report : Report) : report.node.json.DistinctKeys := by
  have hproducer : (Node.record [("name", .text "archspec-inspect"),
      ("version", .text "0.2.0")]).json.DistinctKeys :=
    distinctKeys_record (by simp only [List.map_cons, List.map_nil]; decide) (by simp)
  have hnames : (Node.list (report.categories.selected.map fun c =>
      .text c.name)).json.DistinctKeys := distinctKeys_list _ fun c => by simp
  have hdata : (Node.record report.data).json.DistinctKeys := by
    refine distinctKeys_record ?_ fun m hm => ?_
    · rw [Report.data, List.map_map]
      refine List.Nodup.map (fun c d h => Category.name_injective h) ?_
      exact List.Nodup.filter _ (by decide)
    · obtain ⟨c, -, rfl⟩ := List.mem_map.1 hm
      exact report.system.distinctKeys_nodeOf c
  refine distinctKeys_record (by simp only [List.map_cons, List.map_nil]; decide) ?_
  simp only [List.forall_mem_cons, List.not_mem_nil, IsEmpty.forall_iff, implies_true, and_true]
  exact ⟨by simp, hproducer, hnames, hdata⟩

/-! ## The text of a report decodes to its tree -/

/-- A parser accepts the text of a report in full and finds the four members of a report in it: the
selected categories by name and in order, and for each of them the tree of its section, in which a
field is its validity, its status and, when it is valid, its value.  No object repeats a key, and
what is stored in other sections does not matter. -/
theorem parse_report_toJson (report : Report) :
    (∃ tree : Json, parse report.toJson = some tree ∧ tree.DistinctKeys ∧ tree = .object
      [(bytes "schema_version", .string "1.0.0"),
       (bytes "producer", .object [(bytes "name", .string "archspec-inspect"),
         (bytes "version", .string "0.2.0")]),
       (bytes "collected_categories",
         .array (report.categories.selected.map fun c => .string c.name)),
       (bytes "data", .object (report.categories.selected.map fun c =>
         (c.name, (report.system.nodeOf c).json)))]) ∧
    (report.categories.selected.Sublist Category.all ∧
      ∀ c, c ∈ report.categories.selected ↔ report.categories.Selects c) ∧
    ∀ info : SystemInfo,
      (∀ c, report.categories.Selects c → info.sectionOf c = report.system.sectionOf c) →
      { report with system := info : Report }.toJson = report.toJson := by
  refine ⟨⟨report.node.json, ?_, report.distinctKeys, ?_⟩, ?_, fun info h => ?_⟩
  · rw [report.toJson_eq_render, parse_render]
  · simp [Report.node, Report.data, Function.comp_def]
  · exact ⟨List.filter_sublist, fun c => CollectCategory.mem_selected⟩
  · have hdata : Report.data { report with system := info } = report.data :=
      List.map_congr_left fun c hc => by
        rw [SystemInfo.nodeOf, SystemInfo.nodeOf, h c (CollectCategory.mem_selected.1 hc)]
    rw [Report.toJson_eq_render, Report.toJson_eq_render, Report.node, Report.node, hdata]

theorem parse_report_toJson_os :
    ({ categories := .os, system := .fresh .arm } : Report).toJson =
      ({ categories := .os, system := .fresh .x86 } : Report).toJson := by
  refine (parse_report_toJson { categories := .os, system := .fresh .x86 }).2.2 (.fresh .arm) ?_
  intro c hc
  cases c <;> first | rfl | exact absurd hc (by decide)

end Archspec
