import Archspec.Core
import Archspec.Lib.Json

/-!
# The tree of a report

What a report is, apart from its text: a `Node` is a field, the name of an enumeration value, a list
or a record with named members, and every record of the report has its node (`OsInfo.node`, …),
with the member names of the source as keys.

* `Node.json` is the JSON tree of a node;
* `Node.HasField n path f` says that the node holds the field `f` at a path;
* `Node.Forall P n` says that every field of the node satisfies `P`, path by path.  Its rules for
  the kinds of nodes (`forall_field`, `forall_record`, …) are simp lemmas, so that the statement
  about a record becomes one goal for each of its fields.
-/

namespace Archspec

open Lib

/-! ## Nodes -/

/-- A field of any type. -/
inductive AnyField where
  | bool (f : BoolField)
  | u32 (f : U32Field)
  | u64 (f : U64Field)
  | i64 (f : I64Field)
  | string (f : StringField)

namespace AnyField

def valid : AnyField → Bool
  | bool f => f.valid
  | u32 f => f.valid
  | u64 f => f.valid
  | i64 f => f.valid
  | string f => f.valid

def status : AnyField → Status
  | bool f => f.status
  | u32 f => f.status
  | u64 f => f.status
  | i64 f => f.status
  | string f => f.status

/-- The JSON tree of the value: integers as numbers without exponent, strings byte for byte. -/
def valueJson : AnyField → Json
  | bool f => .bool f.value
  | u32 f => .number f.value.toNat 0
  | u64 f => .number f.value.toNat 0
  | i64 f => .number f.value.toInt 0
  | string f => .string f.value

/-- The JSON tree of a field: the value is there exactly when it is valid. -/
def json (f : AnyField) : Json :=
  .object ([(bytes "valid", .bool f.valid), (bytes "status", .string (statusCode f.status))] ++
    if f.valid then [(bytes "value", f.valueJson)] else [])

end AnyField

/-- A part of a report. -/
inductive Node where
  | field (f : AnyField)
  | text (name : Bytes)
  | list (entries : List Node)
  | record (members : List (Bytes × Node))

/-- Induction on a node, through its entries and members. -/
@[elab_as_elim]
theorem Node.induct {P : Node → Prop} (field : ∀ f, P (.field f)) (text : ∀ name, P (.text name))
    (list : ∀ entries, (∀ n ∈ entries, P n) → P (.list entries))
    (record : ∀ members, (∀ m ∈ members, P m.2) → P (.record members)) (n : Node) : P n :=
  @Node.rec P (fun entries => ∀ n ∈ entries, P n) (fun members => ∀ m ∈ members, P m.2)
    (fun m => P m.2) field text list record
    (fun _ h => absurd h List.not_mem_nil)
    (fun _ _ h hs => List.forall_mem_cons.2 ⟨h, hs⟩)
    (fun _ h => absurd h List.not_mem_nil)
    (fun _ _ h hs => List.forall_mem_cons.2 ⟨h, hs⟩)
    (fun _ _ h => h) n

instance : Coe BoolField Node := ⟨fun f => .field (.bool f)⟩
instance : Coe U32Field Node := ⟨fun f => .field (.u32 f)⟩
instance : Coe U64Field Node := ⟨fun f => .field (.u64 f)⟩
instance : Coe I64Field Node := ⟨fun f => .field (.i64 f)⟩
instance : Coe StringField Node := ⟨fun f => .field (.string f)⟩

/-! ## The records of a report -/

def CpuTopologyEntry.node (entry : CpuTopologyEntry) : Node :=
  .record
    [("logical_id", entry.logicalId), ("core_id", entry.coreId), ("package_id", entry.packageId),
     ("numa_node", entry.numaNode), ("thread_siblings_mask", entry.threadSiblingsMask),
     ("core_siblings_mask", entry.coreSiblingsMask)]

def CacheInfo.node (cache : CacheInfo) : Node :=
  .record
    [("cpu_id", cache.cpuId), ("level", cache.level), ("type", .text cache.type.toString),
     ("size", cache.size), ("line_size", cache.lineSize), ("associativity", cache.associativity),
     ("sets", cache.sets), ("shared_cpu_list", cache.sharedCpuList)]

def NumaNodeInfo.node (info : NumaNodeInfo) : Node :=
  .record
    [("node_id", info.nodeId), ("total_kb", info.totalKb), ("free_kb", info.freeKb),
     ("cpu_list", info.cpuList)]

def PciDeviceInfo.node (device : PciDeviceInfo) : Node :=
  .record
    [("pci_address", device.pciAddress), ("vendor_id", device.vendorId),
     ("device_id", device.deviceId), ("subsystem_vendor_id", device.subsystemVendorId),
     ("subsystem_device_id", device.subsystemDeviceId), ("class_id", device.classId),
     ("driver", device.driver), ("numa_node", device.numaNode), ("iommu_group", device.iommuGroup),
     ("resource_path", device.resourcePath)]

def GpuInfo.node (gpu : GpuInfo) : Node :=
  .record
    [("vendor", .text gpu.vendor.toString), ("name", gpu.name), ("drm_card", gpu.drmCard),
     ("render_node", gpu.renderNode), ("pci_address", gpu.pciAddress), ("vendor_id", gpu.vendorId),
     ("device_id", gpu.deviceId), ("driver", gpu.driver), ("vram_total_bytes", gpu.vramTotalBytes),
     ("vram_used_bytes", gpu.vramUsedBytes), ("temp_millidegree_c", gpu.tempMillidegreeC),
     ("power_mw", gpu.powerMw), ("graphics_clock_mhz", gpu.graphicsClockMhz),
     ("memory_clock_mhz", gpu.memoryClockMhz), ("cuda_available", gpu.cudaAvailable),
     ("cuda_compute_capability", gpu.cudaComputeCapability)]

def BlockDeviceInfo.node (block : BlockDeviceInfo) : Node :=
  .record
    [("name", block.name), ("model", block.model), ("vendor", block.vendor), ("path", block.path),
     ("rotational", block.rotational), ("size_bytes", block.sizeBytes),
     ("logical_block_size", block.logicalBlockSize),
     ("physical_block_size", block.physicalBlockSize), ("scheduler", block.scheduler)]

def NetInterfaceInfo.node (net : NetInterfaceInfo) : Node :=
  .record
    [("name", net.name), ("mac_address", net.macAddress), ("ipv4_addresses", net.ipv4Addresses),
     ("ipv6_addresses", net.ipv6Addresses), ("mtu", net.mtu), ("speed_mbps", net.speedMbps),
     ("duplex", net.duplex), ("carrier", net.carrier), ("driver", net.driver)]

def ThermalZoneInfo.node (zone : ThermalZoneInfo) : Node :=
  .record
    [("name", zone.name), ("type", zone.type), ("temp", zone.temp)]

def OsInfo.node (info : OsInfo) : Node :=
  .record
    [("kernel_name", info.kernelName), ("kernel_version", info.kernelVersion),
     ("kernel_release", info.kernelRelease), ("machine", info.machine),
     ("hostname", info.hostname), ("distro_name", info.distroName),
     ("distro_version", info.distroVersion), ("distro_id", info.distroId),
     ("cmdline", info.cmdline), ("page_size", info.pageSize), ("word_size", info.wordSize),
     ("endianness", info.endianness)]

def CpuInfo.node (info : CpuInfo) : Node :=
  .record
    [("arch", .text info.arch.toString), ("arch_name", info.archName), ("vendor", info.vendor),
     ("brand", info.brand), ("model_name", info.modelName),
     ("present_cpu_count", info.presentCpuCount), ("online_cpu_count", info.onlineCpuCount),
     ("possible_cpu_count", info.possibleCpuCount), ("sockets", info.sockets),
     ("cores_per_socket", info.coresPerSocket), ("threads_per_core", info.threadsPerCore),
     ("family", info.family), ("model", info.model), ("stepping", info.stepping),
     ("microcode", info.microcode), ("physical_address_bits", info.physicalAddressBits),
     ("virtual_address_bits", info.virtualAddressBits), ("is_virtualized", info.isVirtualized),
     ("hypervisor_vendor", info.hypervisorVendor),
     ("topology", .list (info.topology.map (·.node)))]

/-- The members of the x86 family. -/
def IsaFeatures.x86Members (features : IsaFeatures) : List (Bytes × Node) :=
  [("x86_fpu", features.x86Fpu), ("x86_mmx", features.x86Mmx), ("x86_sse", features.x86Sse),
   ("x86_sse2", features.x86Sse2), ("x86_sse3", features.x86Sse3),
   ("x86_ssse3", features.x86Ssse3), ("x86_sse41", features.x86Sse41),
   ("x86_sse42", features.x86Sse42), ("x86_avx", features.x86Avx), ("x86_avx2", features.x86Avx2),
   ("x86_avx512f", features.x86Avx512f), ("x86_avx512dq", features.x86Avx512dq),
   ("x86_avx512cd", features.x86Avx512cd), ("x86_avx512bw", features.x86Avx512bw),
   ("x86_avx512vl", features.x86Avx512vl), ("x86_aes", features.x86Aes),
   ("x86_sha", features.x86Sha), ("x86_pclmulqdq", features.x86Pclmulqdq),
   ("x86_rdrand", features.x86Rdrand), ("x86_rdseed", features.x86Rdseed),
   ("x86_xsave", features.x86Xsave), ("x86_xsaveopt", features.x86Xsaveopt),
   ("x86_xsavec", features.x86Xsavec), ("x86_vmx", features.x86Vmx), ("x86_ept", features.x86Ept),
   ("x86_svm", features.x86Svm), ("x86_npt", features.x86Npt), ("x86_tsc", features.x86Tsc),
   ("x86_constant_tsc", features.x86ConstantTsc), ("x86_nonstop_tsc", features.x86NonstopTsc),
   ("x86_rdtscp", features.x86Rdtscp)]

/-- The members of the ARM family. -/
def IsaFeatures.armMembers (features : IsaFeatures) : List (Bytes × Node) :=
  [("arm_neon", features.armNeon), ("arm_asimd", features.armAsimd), ("arm_sve", features.armSve),
   ("arm_sve2", features.armSve2), ("arm_aes", features.armAes), ("arm_sha1", features.armSha1),
   ("arm_sha2", features.armSha2), ("arm_crc32", features.armCrc32),
   ("arm_pauth", features.armPauth)]

/-- The members of the RISC-V family. -/
def IsaFeatures.riscvMembers (features : IsaFeatures) : List (Bytes × Node) :=
  [("riscv_i", features.riscvI), ("riscv_m", features.riscvM), ("riscv_a", features.riscvA),
   ("riscv_f", features.riscvF), ("riscv_d", features.riscvD), ("riscv_c", features.riscvC),
   ("riscv_v", features.riscvV), ("riscv_h", features.riscvH)]

def IsaFeatures.node (features : IsaFeatures) : Node :=
  .record (features.x86Members ++ features.armMembers ++ features.riscvMembers ++
    [(bytes "raw_flags", (features.rawFlags : Node))])

def CacheList.node (info : CacheList) : Node :=
  .record [("entries", .list (info.entries.map (·.node)))]

def MemoryInfo.node (info : MemoryInfo) : Node :=
  .record
    [("total_kb", info.totalKb), ("free_kb", info.freeKb),
     ("available_kb", info.availableKb), ("buffers_kb", info.buffersKb),
     ("cached_kb", info.cachedKb), ("swap_total_kb", info.swapTotalKb),
     ("swap_free_kb", info.swapFreeKb), ("page_size_bytes", info.pageSizeBytes),
     ("hugepage_size_kb", info.hugepageSizeKb),
     ("hugepages_total", info.hugepagesTotal), ("hugepages_free", info.hugepagesFree),
     ("transparent_hugepages_enabled", info.transparentHugepagesEnabled),
     ("numa_nodes", .list (info.numaNodes.map (·.node)))]

def PciDeviceList.node (info : PciDeviceList) : Node :=
  .record [("entries", .list (info.entries.map (·.node)))]

def GpuList.node (info : GpuList) : Node :=
  .record [("entries", .list (info.entries.map (·.node)))]

def PerfCounterAvailability.node (available : PerfCounterAvailability) : Node :=
  .record
    [("cpu_cycles", available.cpuCycles), ("instructions", available.instructions),
     ("cache_references", available.cacheReferences), ("cache_misses", available.cacheMisses),
     ("branch_instructions", available.branchInstructions),
     ("branch_misses", available.branchMisses), ("bus_cycles", available.busCycles),
     ("ref_cpu_cycles", available.refCpuCycles)]

def PerfCounterInfo.node (perfInfo : PerfCounterInfo) : Node :=
  .record
    [("perf_event_paranoid", perfInfo.perfEventParanoid), ("available", perfInfo.available.node),
     ("rdtsc_available", perfInfo.rdtscAvailable), ("rdtscp_available", perfInfo.rdtscpAvailable),
     ("invariant_tsc", perfInfo.invariantTsc)]

def BlockDeviceList.node (info : BlockDeviceList) : Node :=
  .record [("entries", .list (info.entries.map (·.node)))]

def NetInterfaceList.node (info : NetInterfaceList) : Node :=
  .record [("entries", .list (info.entries.map (·.node)))]

def ThermalInfo.node (info : ThermalInfo) : Node :=
  .record [("entries", .list (info.entries.map (·.node)))]

def PowerInfo.node (info : PowerInfo) : Node :=
  .record
    [("on_battery", info.onBattery), ("battery_status", info.batteryStatus),
     ("battery_capacity_percent", info.batteryCapacityPercent),
     ("cpu_governor", info.cpuGovernor),
     ("cpu_current_freq_mhz", info.cpuCurrentFreqMhz),
     ("cpu_min_freq_mhz", info.cpuMinFreqMhz), ("cpu_max_freq_mhz", info.cpuMaxFreqMhz)]

def VirtualizationInfo.node (info : VirtualizationInfo) : Node :=
  .record
    [("running_under_hypervisor", info.runningUnderHypervisor),
     ("hypervisor_vendor", info.hypervisorVendor),
     ("kvm_available", info.kvmAvailable),
     ("dev_kvm_exists", info.devKvmExists),
     ("intel_vmx_available", info.intelVmxAvailable),
     ("amd_svm_available", info.amdSvmAvailable),
     ("iommu_present", info.iommuPresent)]

def PlatformInfo.node (info : PlatformInfo) : Node :=
  .record
    [("system_vendor", info.systemVendor), ("product_name", info.productName),
     ("product_version", info.productVersion), ("board_vendor", info.boardVendor),
     ("board_name", info.boardName), ("bios_vendor", info.biosVendor),
     ("bios_version", info.biosVersion), ("bios_date", info.biosDate),
     ("uefi", info.uefi), ("secure_boot", info.secureBoot)]

/-- The node of the section of a category. -/
def Category.node : (c : Category) → c.Section → Node
  | os, s => s.node
  | cpu, s => s.node
  | isa, s => s.node
  | cache, s => s.node
  | memory, s => s.node
  | pci, s => s.node
  | gpu, s => s.node
  | perf, s => s.node
  | block, s => s.node
  | net, s => s.node
  | thermal, s => s.node
  | power, s => s.node
  | virtualization, s => s.node
  | platform, s => s.node

/-- The node of a section of a record. -/
def SystemInfo.nodeOf (info : SystemInfo) (c : Category) : Node := c.node (info.sectionOf c)

/-- The key of the section of a category in a whole `SystemInfo`. -/
def Category.sectionKey : Category → Bytes
  | os => "os_info"
  | cpu => "cpu_info"
  | isa => "isa_features"
  | cache => "cache_list"
  | memory => "memory_info"
  | pci => "pci_devices"
  | gpu => "gpu_list"
  | perf => "perf_info"
  | block => "block_devices"
  | net => "net_interfaces"
  | thermal => "thermal_info"
  | power => "power_info"
  | virtualization => "virtualization_info"
  | platform => "platform_info"

/-- A whole `SystemInfo`: every section, selected or not. -/
def SystemInfo.node (info : SystemInfo) : Node :=
  .record (Category.all.map fun c => (c.sectionKey, info.nodeOf c))

/-- The categories of a mask, in the order of a report. -/
def CollectCategory.selected (mask : CollectCategory) : List Category :=
  Category.all.filter fun c => hasCategory mask c.flag

theorem CollectCategory.mem_selected {mask : CollectCategory} {c : Category} :
    c ∈ mask.selected ↔ mask.Selects c := by
  rw [selected, List.mem_filter]
  exact and_iff_right c.mem_all

/-- The data of a report: the sections of the selected categories. -/
def Report.data (report : Report) : List (Bytes × Node) :=
  report.categories.selected.map fun c => (c.name, report.system.nodeOf c)

/-- A report. -/
def Report.node (report : Report) : Node :=
  .record
    [("schema_version", .text "1.0.0"),
     ("producer", .record [("name", .text "archspec-inspect"), ("version", .text "0.2.0")]),
     ("collected_categories", .list (report.categories.selected.map fun c => .text c.name)),
     ("data", .record report.data)]

/-! ## JSON trees -/

namespace Node

mutual

/-- The JSON tree of a node. -/
def json : Node → Json
  | field f => f.json
  | text name => .string name
  | list entries => .array (jsonEntries entries)
  | record members => .object (jsonMembers members)

def jsonEntries : List Node → List Json
  | [] => []
  | n :: ns => n.json :: jsonEntries ns

def jsonMembers : List (Bytes × Node) → List (Bytes × Json)
  | [] => []
  | m :: ms => jsonMember m :: jsonMembers ms

def jsonMember : Bytes × Node → Bytes × Json
  | (key, n) => (key, n.json)

end

@[simp] theorem json_field (f : AnyField) : (field f).json = f.json := by rw [json]

@[simp] theorem json_text (name : Bytes) : (text name).json = .string name := by rw [json]

@[simp] theorem json_list (entries : List Node) :
    (list entries).json = .array (entries.map json) := by
  have h : ∀ ns, jsonEntries ns = ns.map json := by
    intro ns
    induction ns with
    | nil => rfl
    | cons n ns ih => rw [jsonEntries, ih, List.map_cons]
  rw [json, h]

@[simp] theorem json_record (members : List (Bytes × Node)) :
    (record members).json = .object (members.map fun m => (m.1, m.2.json)) := by
  have h : ∀ ms, jsonMembers ms = ms.map fun m => (m.1, m.2.json) := by
    intro ms
    induction ms with
    | nil => rfl
    | cons m ms ih => rw [jsonMembers, ih, List.map_cons, jsonMember]
  rw [json, h]

/-! ## The fields of a node -/

/-- A step into a node. -/
inductive Step where
  | key (k : Bytes)
  | index (i : ℕ)
  deriving DecidableEq

/-- The node holds the field at the path. -/
inductive HasField : Node → List Step → AnyField → Prop where
  | here (f : AnyField) : HasField (field f) [] f
  | entry {entries : List Node} {i : ℕ} {n : Node} {path : List Step} {f : AnyField}
      (hi : entries[i]? = some n) (h : HasField n path f) :
      HasField (list entries) (.index i :: path) f
  | member {members : List (Bytes × Node)} {k : Bytes} {n : Node} {path : List Step} {f : AnyField}
      (hk : (k, n) ∈ members) (h : HasField n path f) :
      HasField (record members) (.key k :: path) f

/-- Every field satisfies `P` at its path. -/
def Forall (P : List Step → AnyField → Prop) (n : Node) : Prop :=
  ∀ path f, n.HasField path f → P path f

variable {P Q : List Step → AnyField → Prop}

@[simp] theorem forall_field (f : AnyField) : (field f).Forall P ↔ P [] f := by
  refine ⟨fun h => h _ _ (.here f), ?_⟩
  rintro h _ _ ⟨⟩
  exact h

@[simp] theorem forall_text (name : Bytes) : (text name).Forall P := by
  rintro _ _ ⟨⟩

theorem forall_list (entries : List Node) :
    (list entries).Forall P ↔
      ∀ i (n : Node), entries[i]? = some n → n.Forall fun path f => P (.index i :: path) f := by
  refine ⟨fun h i n hi path f hf => h _ _ (.entry hi hf), ?_⟩
  rintro h _ _ (_ | ⟨hi, hf⟩)
  exact h _ _ hi _ _ hf

@[simp] theorem forall_record (members : List (Bytes × Node)) :
    (record members).Forall P ↔
      ∀ m ∈ members, m.2.Forall fun path f => P (.key m.1 :: path) f := by
  refine ⟨fun h m hm path f hf => h _ _ (.member hm hf), ?_⟩
  rintro h _ _ (_ | _ | ⟨hk, hf⟩)
  exact h _ hk _ _ hf

/-- A list of nodes, when the property does not depend on the position. -/
theorem forall_list_map {α : Type} (entries : List α) (toNode : α → Node)
    (h : ∀ a ∈ entries, (toNode a).Forall Q)
    (hQ : ∀ i path f, Q path f → P (.index i :: path) f) :
    (list (entries.map toNode)).Forall P := by
  rw [forall_list]
  intro i n hi path f hf
  obtain ⟨a, ha, rfl⟩ := List.mem_map.1 (List.mem_of_getElem? hi)
  exact hQ i path f (h a ha path f hf)

theorem Forall.mono {n : Node} (h : n.Forall P) (hPQ : ∀ path f, P path f → Q path f) :
    n.Forall Q := fun path f hf => hPQ path f (h path f hf)

end Node

end Archspec
