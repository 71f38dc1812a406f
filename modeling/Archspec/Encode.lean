import Archspec.Core

/-!
# The JSON text of a report

`json.cc`: string escaping, the object builder with its comma state (`JsonObject`), one encoder for
each record, and the texts of a report and of a whole `SystemInfo`.
-/

namespace Archspec

open Lib

/-! ## Strings and objects -/

/-- A hexadecimal numeral filled with zeros up to `width`. -/
def hexPadded (width n : ℕ) : Bytes :=
  (((Nat.toDigits 16 n).map fun c => c.toNat.toUInt8)).leftpad width 48

/-- One turn of the loop of `escapeJson`. -/
def escapeJsonByte (c : UInt8) : Bytes :=
  if c = 34 then "\\\""
  else if c = 92 then "\\\\"
  else if c = 8 then "\\b"
  else if c = 12 then "\\f"
  else if c = 10 then "\\n"
  else if c = 13 then "\\r"
  else if c = 9 then "\\t"
  else if c < 0x20 then "\\u" ++ hexPadded 4 c.toNat
  else [c]

def escapeJson (input : Bytes) : Bytes := input.flatMap escapeJsonByte

def jsonString (value : Bytes) : Bytes := "\"" ++ escapeJson value ++ "\""

def jsonBool (value : Bool) : Bytes := if value then "true" else "false"

/-- The builder of an object: whether nothing was added yet, and the text between the braces. -/
structure JsonObject where
  first : Bool := true
  out : Bytes := []

namespace JsonObject

def addComma (obj : JsonObject) : JsonObject :=
  if !obj.first then { obj with out := obj.out ++ "," } else { obj with first := false }

def addRaw (obj : JsonObject) (key rawValue : Bytes) : JsonObject :=
  let obj := obj.addComma
  { obj with out := obj.out ++ jsonString key ++ ":" ++ rawValue }

def addString (obj : JsonObject) (key value : Bytes) : JsonObject :=
  obj.addRaw key (jsonString value)

def addU64 (obj : JsonObject) (key : Bytes) (value : UInt64) : JsonObject :=
  let obj := obj.addComma
  { obj with out := obj.out ++ jsonString key ++ ":" ++ decimal value.toNat }

def addI64 (obj : JsonObject) (key : Bytes) (value : Int64) : JsonObject :=
  let obj := obj.addComma
  { obj with out := obj.out ++ jsonString key ++ ":" ++ decimalInt value.toInt }

def addBool (obj : JsonObject) (key : Bytes) (value : Bool) : JsonObject :=
  obj.addRaw key (jsonBool value)

def str (obj : JsonObject) : Bytes := "\x7b" ++ obj.out ++ "\x7d"

end JsonObject

/-! ## Fields and lists -/

/-- The types of field values, each with the way its value is added to an object. -/
class FieldValue (α : Type) where
  add : JsonObject → Bytes → α → JsonObject

instance : FieldValue Bytes := ⟨.addString⟩
instance : FieldValue Bool := ⟨.addBool⟩
instance : FieldValue UInt32 := ⟨fun obj key value => obj.addU64 key value.toUInt64⟩
instance : FieldValue UInt64 := ⟨.addU64⟩
instance : FieldValue Int64 := ⟨.addI64⟩

/-- The five overloads of `field_to_json`. -/
def fieldToJson {α : Type} [FieldValue α] (field : Field α) : Bytes :=
  let obj : JsonObject := {}
  let obj := obj.addBool "valid" field.valid
  let obj := obj.addString "status" (statusCode field.status)
  let obj := if field.valid then FieldValue.add obj "value" field.value else obj
  obj.str

def JsonObject.addField {α : Type} [FieldValue α] (obj : JsonObject) (key : Bytes)
    (field : Field α) : JsonObject :=
  obj.addRaw key (fieldToJson field)

/-- The loop that separates texts by commas: whether no text was written yet, and the output. -/
def separate (state : Bool × Bytes) (text : Bytes) : Bool × Bytes :=
  (false, (if !state.1 then state.2 ++ "," else state.2) ++ text)

def vectorToJson {α : Type} (values : List α) (toJsonFn : α → Bytes) : Bytes :=
  (values.foldl (fun state value => separate state (toJsonFn value)) (true, "[")).2 ++ "]"

/-! ## Records -/

def cpuTopologyToJson (entry : CpuTopologyEntry) : Bytes :=
  ({} : JsonObject)
    |>.addField "logical_id" entry.logicalId
    |>.addField "core_id" entry.coreId
    |>.addField "package_id" entry.packageId
    |>.addField "numa_node" entry.numaNode
    |>.addField "thread_siblings_mask" entry.threadSiblingsMask
    |>.addField "core_siblings_mask" entry.coreSiblingsMask
    |>.str

def cacheInfoToJson (cache : CacheInfo) : Bytes :=
  ({} : JsonObject)
    |>.addField "cpu_id" cache.cpuId
    |>.addField "level" cache.level
    |>.addString "type" cache.type.toString
    |>.addField "size" cache.size
    |>.addField "line_size" cache.lineSize
    |>.addField "associativity" cache.associativity
    |>.addField "sets" cache.sets
    |>.addField "shared_cpu_list" cache.sharedCpuList
    |>.str

def numaNodeToJson (node : NumaNodeInfo) : Bytes :=
  ({} : JsonObject)
    |>.addField "node_id" node.nodeId
    |>.addField "total_kb" node.totalKb
    |>.addField "free_kb" node.freeKb
    |>.addField "cpu_list" node.cpuList
    |>.str

def pciDeviceToJson (device : PciDeviceInfo) : Bytes :=
  ({} : JsonObject)
    |>.addField "pci_address" device.pciAddress
    |>.addField "vendor_id" device.vendorId
    |>.addField "device_id" device.deviceId
    |>.addField "subsystem_vendor_id" device.subsystemVendorId
    |>.addField "subsystem_device_id" device.subsystemDeviceId
    |>.addField "class_id" device.classId
    |>.addField "driver" device.driver
    |>.addField "numa_node" device.numaNode
    |>.addField "iommu_group" device.iommuGroup
    |>.addField "resource_path" device.resourcePath
    |>.str

def gpuInfoToJson (gpu : GpuInfo) : Bytes :=
  ({} : JsonObject)
    |>.addString "vendor" gpu.vendor.toString
    |>.addField "name" gpu.name
    |>.addField "drm_card" gpu.drmCard
    |>.addField "render_node" gpu.renderNode
    |>.addField "pci_address" gpu.pciAddress
    |>.addField "vendor_id" gpu.vendorId
    |>.addField "device_id" gpu.deviceId
    |>.addField "driver" gpu.driver
    |>.addField "vram_total_bytes" gpu.vramTotalBytes
    |>.addField "vram_used_bytes" gpu.vramUsedBytes
    |>.addField "temp_millidegree_c" gpu.tempMillidegreeC
    |>.addField "power_mw" gpu.powerMw
    |>.addField "graphics_clock_mhz" gpu.graphicsClockMhz
    |>.addField "memory_clock_mhz" gpu.memoryClockMhz
    |>.addField "cuda_available" gpu.cudaAvailable
    |>.addField "cuda_compute_capability" gpu.cudaComputeCapability
    |>.str

def blockDeviceToJson (block : BlockDeviceInfo) : Bytes :=
  ({} : JsonObject)
    |>.addField "name" block.name
    |>.addField "model" block.model
    |>.addField "vendor" block.vendor
    |>.addField "path" block.path
    |>.addField "rotational" block.rotational
    |>.addField "size_bytes" block.sizeBytes
    |>.addField "logical_block_size" block.logicalBlockSize
    |>.addField "physical_block_size" block.physicalBlockSize
    |>.addField "scheduler" block.scheduler
    |>.str

def netInterfaceToJson (net : NetInterfaceInfo) : Bytes :=
  ({} : JsonObject)
    |>.addField "name" net.name
    |>.addField "mac_address" net.macAddress
    |>.addField "ipv4_addresses" net.ipv4Addresses
    |>.addField "ipv6_addresses" net.ipv6Addresses
    |>.addField "mtu" net.mtu
    |>.addField "speed_mbps" net.speedMbps
    |>.addField "duplex" net.duplex
    |>.addField "carrier" net.carrier
    |>.addField "driver" net.driver
    |>.str

def thermalZoneToJson (zone : ThermalZoneInfo) : Bytes :=
  ({} : JsonObject)
    |>.addField "name" zone.name
    |>.addField "type" zone.type
    |>.addField "temp" zone.temp
    |>.str

def OsInfo.toJson (info : OsInfo) : Bytes :=
  ({} : JsonObject)
    |>.addField "kernel_name" info.kernelName
    |>.addField "kernel_version" info.kernelVersion
    |>.addField "kernel_release" info.kernelRelease
    |>.addField "machine" info.machine
    |>.addField "hostname" info.hostname
    |>.addField "distro_name" info.distroName
    |>.addField "distro_version" info.distroVersion
    |>.addField "distro_id" info.distroId
    |>.addField "cmdline" info.cmdline
    |>.addField "page_size" info.pageSize
    |>.addField "word_size" info.wordSize
    |>.addField "endianness" info.endianness
    |>.str

def CpuInfo.toJson (info : CpuInfo) : Bytes :=
  ({} : JsonObject)
    |>.addString "arch" info.arch.toString
    |>.addField "arch_name" info.archName
    |>.addField "vendor" info.vendor
    |>.addField "brand" info.brand
    |>.addField "model_name" info.modelName
    |>.addField "present_cpu_count" info.presentCpuCount
    |>.addField "online_cpu_count" info.onlineCpuCount
    |>.addField "possible_cpu_count" info.possibleCpuCount
    |>.addField "sockets" info.sockets
    |>.addField "cores_per_socket" info.coresPerSocket
    |>.addField "threads_per_core" info.threadsPerCore
    |>.addField "family" info.family
    |>.addField "model" info.model
    |>.addField "stepping" info.stepping
    |>.addField "microcode" info.microcode
    |>.addField "physical_address_bits" info.physicalAddressBits
    |>.addField "virtual_address_bits" info.virtualAddressBits
    |>.addField "is_virtualized" info.isVirtualized
    |>.addField "hypervisor_vendor" info.hypervisorVendor
    |>.addRaw "topology" (vectorToJson info.topology cpuTopologyToJson)
    |>.str

def IsaFeatures.toJson (features : IsaFeatures) : Bytes :=
  ({} : JsonObject)
    |>.addField "x86_fpu" features.x86Fpu
    |>.addField "x86_mmx" features.x86Mmx
    |>.addField "x86_sse" features.x86Sse
    |>.addField "x86_sse2" features.x86Sse2
    |>.addField "x86_sse3" features.x86Sse3
    |>.addField "x86_ssse3" features.x86Ssse3
    |>.addField "x86_sse41" features.x86Sse41
    |>.addField "x86_sse42" features.x86Sse42
    |>.addField "x86_avx" features.x86Avx
    |>.addField "x86_avx2" features.x86Avx2
    |>.addField "x86_avx512f" features.x86Avx512f
    |>.addField "x86_avx512dq" features.x86Avx512dq
    |>.addField "x86_avx512cd" features.x86Avx512cd
    |>.addField "x86_avx512bw" features.x86Avx512bw
    |>.addField "x86_avx512vl" features.x86Avx512vl
    |>.addField "x86_aes" features.x86Aes
    |>.addField "x86_sha" features.x86Sha
    |>.addField "x86_pclmulqdq" features.x86Pclmulqdq
    |>.addField "x86_rdrand" features.x86Rdrand
    |>.addField "x86_rdseed" features.x86Rdseed
    |>.addField "x86_xsave" features.x86Xsave
    |>.addField "x86_xsaveopt" features.x86Xsaveopt
    |>.addField "x86_xsavec" features.x86Xsavec
    |>.addField "x86_vmx" features.x86Vmx
    |>.addField "x86_ept" features.x86Ept
    |>.addField "x86_svm" features.x86Svm
    |>.addField "x86_npt" features.x86Npt
    |>.addField "x86_tsc" features.x86Tsc
    |>.addField "x86_constant_tsc" features.x86ConstantTsc
    |>.addField "x86_nonstop_tsc" features.x86NonstopTsc
    |>.addField "x86_rdtscp" features.x86Rdtscp
    |>.addField "arm_neon" features.armNeon
    |>.addField "arm_asimd" features.armAsimd
    |>.addField "arm_sve" features.armSve
    |>.addField "arm_sve2" features.armSve2
    |>.addField "arm_aes" features.armAes
    |>.addField "arm_sha1" features.armSha1
    |>.addField "arm_sha2" features.armSha2
    |>.addField "arm_crc32" features.armCrc32
    |>.addField "arm_pauth" features.armPauth
    |>.addField "riscv_i" features.riscvI
    |>.addField "riscv_m" features.riscvM
    |>.addField "riscv_a" features.riscvA
    |>.addField "riscv_f" features.riscvF
    |>.addField "riscv_d" features.riscvD
    |>.addField "riscv_c" features.riscvC
    |>.addField "riscv_v" features.riscvV
    |>.addField "riscv_h" features.riscvH
    |>.addField "raw_flags" features.rawFlags
    |>.str

def CacheList.toJson (cacheList : CacheList) : Bytes :=
  ({} : JsonObject)
    |>.addRaw "entries" (vectorToJson cacheList.entries cacheInfoToJson)
    |>.str

def MemoryInfo.toJson (memoryInfo : MemoryInfo) : Bytes :=
  ({} : JsonObject)
    |>.addField "total_kb" memoryInfo.totalKb
    |>.addField "free_kb" memoryInfo.freeKb
    |>.addField "available_kb" memoryInfo.availableKb
    |>.addField "buffers_kb" memoryInfo.buffersKb
    |>.addField "cached_kb" memoryInfo.cachedKb
    |>.addField "swap_total_kb" memoryInfo.swapTotalKb
    |>.addField "swap_free_kb" memoryInfo.swapFreeKb
    |>.addField "page_size_bytes" memoryInfo.pageSizeBytes
    |>.addField "hugepage_size_kb" memoryInfo.hugepageSizeKb
    |>.addField "hugepages_total" memoryInfo.hugepagesTotal
    |>.addField "hugepages_free" memoryInfo.hugepagesFree
    |>.addField "transparent_hugepages_enabled" memoryInfo.transparentHugepagesEnabled
    |>.addRaw "numa_nodes" (vectorToJson memoryInfo.numaNodes numaNodeToJson)
    |>.str

def PciDeviceList.toJson (pciDevices : PciDeviceList) : Bytes :=
  ({} : JsonObject)
    |>.addRaw "entries" (vectorToJson pciDevices.entries pciDeviceToJson)
    |>.str

def GpuList.toJson (gpuList : GpuList) : Bytes :=
  ({} : JsonObject)
    |>.addRaw "entries" (vectorToJson gpuList.entries gpuInfoToJson)
    |>.str

def PerfCounterInfo.toJson (perfInfo : PerfCounterInfo) : Bytes :=
  let available :=
    ({} : JsonObject)
      |>.addField "cpu_cycles" perfInfo.available.cpuCycles
      |>.addField "instructions" perfInfo.available.instructions
      |>.addField "cache_references" perfInfo.available.cacheReferences
      |>.addField "cache_misses" perfInfo.available.cacheMisses
      |>.addField "branch_instructions" perfInfo.available.branchInstructions
      |>.addField "branch_misses" perfInfo.available.branchMisses
      |>.addField "bus_cycles" perfInfo.available.busCycles
      |>.addField "ref_cpu_cycles" perfInfo.available.refCpuCycles
  ({} : JsonObject)
    |>.addField "perf_event_paranoid" perfInfo.perfEventParanoid
    |>.addRaw "available" available.str
    |>.addField "rdtsc_available" perfInfo.rdtscAvailable
    |>.addField "rdtscp_available" perfInfo.rdtscpAvailable
    |>.addField "invariant_tsc" perfInfo.invariantTsc
    |>.str

def BlockDeviceList.toJson (blockDevices : BlockDeviceList) : Bytes :=
  ({} : JsonObject)
    |>.addRaw "entries" (vectorToJson blockDevices.entries blockDeviceToJson)
    |>.str

def NetInterfaceList.toJson (netInterfaces : NetInterfaceList) : Bytes :=
  ({} : JsonObject)
    |>.addRaw "entries" (vectorToJson netInterfaces.entries netInterfaceToJson)
    |>.str

def ThermalInfo.toJson (thermalInfo : ThermalInfo) : Bytes :=
  ({} : JsonObject)
    |>.addRaw "entries" (vectorToJson thermalInfo.entries thermalZoneToJson)
    |>.str

def PowerInfo.toJson (powerInfo : PowerInfo) : Bytes :=
  ({} : JsonObject)
    |>.addField "on_battery" powerInfo.onBattery
    |>.addField "battery_status" powerInfo.batteryStatus
    |>.addField "battery_capacity_percent" powerInfo.batteryCapacityPercent
    |>.addField "cpu_governor" powerInfo.cpuGovernor
    |>.addField "cpu_current_freq_mhz" powerInfo.cpuCurrentFreqMhz
    |>.addField "cpu_min_freq_mhz" powerInfo.cpuMinFreqMhz
    |>.addField "cpu_max_freq_mhz" powerInfo.cpuMaxFreqMhz
    |>.str

def VirtualizationInfo.toJson (virtualizationInfo : VirtualizationInfo) : Bytes :=
  ({} : JsonObject)
    |>.addField "running_under_hypervisor" virtualizationInfo.runningUnderHypervisor
    |>.addField "hypervisor_vendor" virtualizationInfo.hypervisorVendor
    |>.addField "kvm_available" virtualizationInfo.kvmAvailable
    |>.addField "dev_kvm_exists" virtualizationInfo.devKvmExists
    |>.addField "intel_vmx_available" virtualizationInfo.intelVmxAvailable
    |>.addField "amd_svm_available" virtualizationInfo.amdSvmAvailable
    |>.addField "iommu_present" virtualizationInfo.iommuPresent
    |>.str

def PlatformInfo.toJson (platformInfo : PlatformInfo) : Bytes :=
  ({} : JsonObject)
    |>.addField "system_vendor" platformInfo.systemVendor
    |>.addField "product_name" platformInfo.productName
    |>.addField "product_version" platformInfo.productVersion
    |>.addField "board_vendor" platformInfo.boardVendor
    |>.addField "board_name" platformInfo.boardName
    |>.addField "bios_vendor" platformInfo.biosVendor
    |>.addField "bios_version" platformInfo.biosVersion
    |>.addField "bios_date" platformInfo.biosDate
    |>.addField "uefi" platformInfo.uefi
    |>.addField "secure_boot" platformInfo.secureBoot
    |>.str

/-! ## Whole texts -/

def version : Bytes := "0.2.0"

def reportSchemaVersion : Bytes := "1.0.0"

/-- The category table of `to_json`. -/
def categoryEntries : List (CollectCategory × Bytes) :=
  [(.os, "os"), (.cpu, "cpu"), (.isa, "isa"), (.cache, "cache"), (.memory, "memory"),
    (.pci, "pci"), (.gpu, "gpu"), (.perf, "perf"), (.block, "block"), (.net, "net"),
    (.thermal, "thermal"), (.power, "power"), (.virtualization, "virtualization"),
    (.platform, "platform")]

/-- The list of the selected names. -/
def collectedCategories (mask : CollectCategory) : Bytes :=
  (categoryEntries.foldl (fun state entry =>
    if !hasCategory mask entry.1 then state else separate state (jsonString entry.2))
    (true, "[")).2 ++ "]"

/-- One section of the data object, added under the test of its flag. -/
def JsonObject.addSection (obj : JsonObject) (mask flag : CollectCategory) (key rawValue : Bytes) :
    JsonObject :=
  if hasCategory mask flag then obj.addRaw key rawValue else obj

/-- The data object of a report. -/
def dataObject (mask : CollectCategory) (info : SystemInfo) : JsonObject :=
  ({} : JsonObject)
    |>.addSection mask .os "os" info.osInfo.toJson
    |>.addSection mask .cpu "cpu" info.cpuInfo.toJson
    |>.addSection mask .isa "isa" info.isaFeatures.toJson
    |>.addSection mask .cache "cache" info.cacheList.toJson
    |>.addSection mask .memory "memory" info.memoryInfo.toJson
    |>.addSection mask .pci "pci" info.pciDevices.toJson
    |>.addSection mask .gpu "gpu" info.gpuList.toJson
    |>.addSection mask .perf "perf" info.perfInfo.toJson
    |>.addSection mask .block "block" info.blockDevices.toJson
    |>.addSection mask .net "net" info.netInterfaces.toJson
    |>.addSection mask .thermal "thermal" info.thermalInfo.toJson
    |>.addSection mask .power "power" info.powerInfo.toJson
    |>.addSection mask .virtualization "virtualization" info.virtualizationInfo.toJson
    |>.addSection mask .platform "platform" info.platformInfo.toJson

def Report.toJson (report : Report) : Bytes :=
  let producer := ({} : JsonObject)
    |>.addString "name" "archspec-inspect"
    |>.addString "version" version
  ({} : JsonObject)
    |>.addString "schema_version" reportSchemaVersion
    |>.addRaw "producer" producer.str
    |>.addRaw "collected_categories" (collectedCategories report.categories)
    |>.addRaw "data" (dataObject report.categories report.system).str
    |>.str

def SystemInfo.toJson (info : SystemInfo) : Bytes :=
  ({} : JsonObject)
    |>.addRaw "os_info" info.osInfo.toJson
    |>.addRaw "cpu_info" info.cpuInfo.toJson
    |>.addRaw "isa_features" info.isaFeatures.toJson
    |>.addRaw "cache_list" info.cacheList.toJson
    |>.addRaw "memory_info" info.memoryInfo.toJson
    |>.addRaw "pci_devices" info.pciDevices.toJson
    |>.addRaw "gpu_list" info.gpuList.toJson
    |>.addRaw "perf_info" info.perfInfo.toJson
    |>.addRaw "block_devices" info.blockDevices.toJson
    |>.addRaw "net_interfaces" info.netInterfaces.toJson
    |>.addRaw "thermal_info" info.thermalInfo.toJson
    |>.addRaw "power_info" info.powerInfo.toJson
    |>.addRaw "virtualization_info" info.virtualizationInfo.toJson
    |>.addRaw "platform_info" info.platformInfo.toJson
    |>.str

end Archspec
