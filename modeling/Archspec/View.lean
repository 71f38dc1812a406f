import Archspec.Lib.Bytes

/-!
# The report data

The types of `aview.hh`: the status vocabulary, the `Field` every scalar of a report is wrapped in,
one record for each category, the category flags, the collection options and the report.

A default-constructed record holds default-constructed fields (`Field.initial`), `unknown` for the
enumerations and empty lists.  The exception is `CpuInfo.arch`, which the source declares without
an initializer: a fresh `SystemInfo` holds there whatever its storage held (`SystemInfo.fresh`).
-/

namespace Archspec

open Lib

/-! ## Status and fields -/

inductive Status where
  | ok
  | unsupported
  | permDenied
  | notFound
  | parseError
  | invalidArg
  | redacted
  | internalError
  deriving DecidableEq, Inhabited

/-- The stable identifier of a status. -/
def statusCode : Status → Bytes
  | .ok => "ok"
  | .unsupported => "unsupported"
  | .permDenied => "perm_denied"
  | .notFound => "not_found"
  | .parseError => "parse_error"
  | .invalidArg => "invalid_arg"
  | .redacted => "redacted"
  | .internalError => "internal_error"

/-- A scalar of the report with the reason for its absence. -/
structure Field (α : Type) where
  valid : Bool
  status : Status
  value : α
  deriving DecidableEq

namespace Field

variable {α : Type}

/-- A default-constructed field. -/
def initial [Inhabited α] : Field α := ⟨false, .notFound, default⟩

/-- `Field::value`. -/
def ofValue (value : α) : Field α := ⟨true, .ok, value⟩

/-- `Field::unavailable`; the status is not checked. -/
def unavailable [Inhabited α] (status : Status) : Field α := ⟨false, status, default⟩

@[simp] theorem valid_ofValue (v : α) : (ofValue v).valid = true := rfl
@[simp] theorem status_ofValue (v : α) : (ofValue v).status = .ok := rfl
@[simp] theorem value_ofValue (v : α) : (ofValue v).value = v := rfl

variable [Inhabited α]

@[simp] theorem valid_initial : (initial : Field α).valid = false := rfl
@[simp] theorem status_initial : (initial : Field α).status = .notFound := rfl
@[simp] theorem valid_unavailable (s : Status) : (unavailable s : Field α).valid = false := rfl
@[simp] theorem status_unavailable (s : Status) : (unavailable s : Field α).status = s := rfl

end Field

abbrev BoolField := Field Bool
abbrev U32Field := Field UInt32
abbrev U64Field := Field UInt64
abbrev I64Field := Field Int64
abbrev StringField := Field Bytes

/-! ## Enumerations -/

inductive ArchType where
  | unknown
  | x86
  | x86_64
  | arm
  | aarch64
  | riscv32
  | riscv64
  | ppc64
  | s390x
  deriving DecidableEq

def ArchType.toString : ArchType → Bytes
  | .unknown => "unknown"
  | .x86 => "x86"
  | .x86_64 => "x86_64"
  | .arm => "arm"
  | .aarch64 => "aarch64"
  | .riscv32 => "riscv32"
  | .riscv64 => "riscv64"
  | .ppc64 => "ppc64"
  | .s390x => "s390x"

@[simp] theorem ArchType.toString_eq_iff {a b : ArchType} : a.toString = b.toString ↔ a = b := by
  refine ⟨fun h => ?_, congrArg _⟩
  revert h
  cases a <;> cases b <;> decide

inductive CacheType where
  | unknown
  | data
  | instruction
  | unified
  deriving DecidableEq

def CacheType.toString : CacheType → Bytes
  | .unknown => "unknown"
  | .data => "data"
  | .instruction => "instruction"
  | .unified => "unified"

@[simp] theorem CacheType.toString_eq_iff {a b : CacheType} : a.toString = b.toString ↔ a = b := by
  refine ⟨fun h => ?_, congrArg _⟩
  revert h
  cases a <;> cases b <;> decide

inductive GpuVendor where
  | unknown
  | intel
  | amd
  | nvidia
  deriving DecidableEq

def GpuVendor.toString : GpuVendor → Bytes
  | .unknown => "unknown"
  | .intel => "intel"
  | .amd => "amd"
  | .nvidia => "nvidia"

@[simp] theorem GpuVendor.toString_eq_iff {a b : GpuVendor} : a.toString = b.toString ↔ a = b := by
  refine ⟨fun h => ?_, congrArg _⟩
  revert h
  cases a <;> cases b <;> decide

/-! ## Records -/

/-- Operating system. -/
structure OsInfo where
  (kernelName kernelVersion kernelRelease machine : StringField := .initial)
  (hostname distroName distroVersion distroId : StringField := .initial)
  cmdline : StringField := .initial
  (pageSize wordSize : U64Field := .initial)
  endianness : StringField := .initial

/-- One logical CPU. -/
structure CpuTopologyEntry where
  (logicalId coreId packageId numaNode : U32Field := .initial)
  (threadSiblingsMask coreSiblingsMask : StringField := .initial)

/-- Processor.  `arch` is the one member declared without an initializer. -/
structure CpuInfo where
  arch : ArchType
  (archName vendor brand modelName : StringField := .initial)
  (presentCpuCount onlineCpuCount possibleCpuCount sockets : U64Field := .initial)
  (coresPerSocket threadsPerCore family model : U64Field := .initial)
  stepping : U64Field := .initial
  microcode : StringField := .initial
  (physicalAddressBits virtualAddressBits : U64Field := .initial)
  isVirtualized : BoolField := .initial
  hypervisorVendor : StringField := .initial
  topology : List CpuTopologyEntry := []

/-- Instruction-set features, for the three processor families. -/
structure IsaFeatures where
  (x86Fpu x86Mmx x86Sse x86Sse2 : BoolField := .initial)
  (x86Sse3 x86Ssse3 x86Sse41 x86Sse42 : BoolField := .initial)
  (x86Avx x86Avx2 x86Avx512f x86Avx512dq : BoolField := .initial)
  (x86Avx512cd x86Avx512bw x86Avx512vl x86Aes : BoolField := .initial)
  (x86Sha x86Pclmulqdq x86Rdrand x86Rdseed : BoolField := .initial)
  (x86Xsave x86Xsaveopt x86Xsavec x86Vmx : BoolField := .initial)
  (x86Ept x86Svm x86Npt x86Tsc : BoolField := .initial)
  (x86ConstantTsc x86NonstopTsc x86Rdtscp armNeon : BoolField := .initial)
  (armAsimd armSve armSve2 armAes : BoolField := .initial)
  (armSha1 armSha2 armCrc32 armPauth : BoolField := .initial)
  (riscvI riscvM riscvA riscvF : BoolField := .initial)
  (riscvD riscvC riscvV riscvH : BoolField := .initial)
  rawFlags : StringField := .initial

/-- One cache. -/
structure CacheInfo where
  (cpuId level : U32Field := .initial)
  type : CacheType := .unknown
  (size lineSize associativity sets : U64Field := .initial)
  sharedCpuList : StringField := .initial

structure CacheList where
  entries : List CacheInfo := []

/-- One NUMA node. -/
structure NumaNodeInfo where
  nodeId : U32Field := .initial
  (totalKb freeKb : U64Field := .initial)
  cpuList : StringField := .initial

/-- Memory. -/
structure MemoryInfo where
  (totalKb freeKb availableKb buffersKb : U64Field := .initial)
  (cachedKb swapTotalKb swapFreeKb pageSizeBytes : U64Field := .initial)
  (hugepageSizeKb hugepagesTotal hugepagesFree : U64Field := .initial)
  transparentHugepagesEnabled : BoolField := .initial
  numaNodes : List NumaNodeInfo := []

/-- One PCI device. -/
structure PciDeviceInfo where
  (pciAddress vendorId deviceId subsystemVendorId : StringField := .initial)
  (subsystemDeviceId classId driver : StringField := .initial)
  numaNode : I64Field := .initial
  (iommuGroup resourcePath : StringField := .initial)

structure PciDeviceList where
  entries : List PciDeviceInfo := []

/-- One GPU. -/
structure GpuInfo where
  vendor : GpuVendor := .unknown
  (name drmCard renderNode pciAddress : StringField := .initial)
  (vendorId deviceId driver : StringField := .initial)
  (vramTotalBytes vramUsedBytes tempMillidegreeC powerMw : U64Field := .initial)
  (graphicsClockMhz memoryClockMhz : U64Field := .initial)
  cudaAvailable : BoolField := .initial
  cudaComputeCapability : StringField := .initial

structure GpuList where
  entries : List GpuInfo := []

/-- Which hardware counters can be opened. -/
structure PerfCounterAvailability where
  (cpuCycles instructions cacheReferences cacheMisses : BoolField := .initial)
  (branchInstructions branchMisses busCycles refCpuCycles : BoolField := .initial)

/-- Performance counters. -/
structure PerfCounterInfo where
  perfEventParanoid : I64Field := .initial
  available : PerfCounterAvailability := {}
  (rdtscAvailable rdtscpAvailable invariantTsc : BoolField := .initial)

/-- One block device. -/
structure BlockDeviceInfo where
  (name model vendor path : StringField := .initial)
  rotational : BoolField := .initial
  (sizeBytes logicalBlockSize physicalBlockSize : U64Field := .initial)
  scheduler : StringField := .initial

structure BlockDeviceList where
  entries : List BlockDeviceInfo := []

/-- One network interface. -/
structure NetInterfaceInfo where
  (name macAddress ipv4Addresses ipv6Addresses : StringField := .initial)
  (mtu speedMbps : U64Field := .initial)
  duplex : StringField := .initial
  carrier : BoolField := .initial
  driver : StringField := .initial

structure NetInterfaceList where
  entries : List NetInterfaceInfo := []

/-- One thermal zone. -/
structure ThermalZoneInfo where
  (name type temp : StringField := .initial)

structure ThermalInfo where
  entries : List ThermalZoneInfo := []

/-- Power state. -/
structure PowerInfo where
  onBattery : BoolField := .initial
  batteryStatus : StringField := .initial
  batteryCapacityPercent : U64Field := .initial
  cpuGovernor : StringField := .initial
  (cpuCurrentFreqMhz cpuMinFreqMhz cpuMaxFreqMhz : U64Field := .initial)

/-- Virtualization. -/
structure VirtualizationInfo where
  runningUnderHypervisor : BoolField := .initial
  hypervisorVendor : StringField := .initial
  (kvmAvailable devKvmExists intelVmxAvailable amdSvmAvailable : BoolField := .initial)
  iommuPresent : BoolField := .initial

/-- Firmware and board. -/
structure PlatformInfo where
  (systemVendor productName productVersion boardVendor : StringField := .initial)
  (boardName biosVendor biosVersion biosDate : StringField := .initial)
  (uefi secureBoot : BoolField := .initial)

/-- Every section. -/
structure SystemInfo where
  osInfo : OsInfo := {}
  cpuInfo : CpuInfo
  isaFeatures : IsaFeatures := {}
  cacheList : CacheList := {}
  memoryInfo : MemoryInfo := {}
  pciDevices : PciDeviceList := {}
  gpuList : GpuList := {}
  perfInfo : PerfCounterInfo := {}
  blockDevices : BlockDeviceList := {}
  netInterfaces : NetInterfaceList := {}
  thermalInfo : ThermalInfo := {}
  powerInfo : PowerInfo := {}
  virtualizationInfo : VirtualizationInfo := {}
  platformInfo : PlatformInfo := {}

/-- A declared `SystemInfo` whose storage held `arch` where the processor architecture goes. -/
def SystemInfo.fresh (arch : ArchType) : SystemInfo := { cpuInfo := { arch } }

/-! ## Categories, options and reports -/

/-- A set of category flags. -/
structure CollectCategory where
  bits : UInt64
  deriving DecidableEq

namespace CollectCategory

def none : CollectCategory := ⟨0⟩
def os : CollectCategory := ⟨(1 : UInt64) <<< 0⟩
def cpu : CollectCategory := ⟨(1 : UInt64) <<< 1⟩
def isa : CollectCategory := ⟨(1 : UInt64) <<< 2⟩
def cache : CollectCategory := ⟨(1 : UInt64) <<< 3⟩
def memory : CollectCategory := ⟨(1 : UInt64) <<< 4⟩
def pci : CollectCategory := ⟨(1 : UInt64) <<< 5⟩
def gpu : CollectCategory := ⟨(1 : UInt64) <<< 6⟩
def perf : CollectCategory := ⟨(1 : UInt64) <<< 7⟩
def block : CollectCategory := ⟨(1 : UInt64) <<< 8⟩
def net : CollectCategory := ⟨(1 : UInt64) <<< 9⟩
def thermal : CollectCategory := ⟨(1 : UInt64) <<< 10⟩
def power : CollectCategory := ⟨(1 : UInt64) <<< 11⟩
def virtualization : CollectCategory := ⟨(1 : UInt64) <<< 12⟩
def platform : CollectCategory := ⟨(1 : UInt64) <<< 13⟩
def all : CollectCategory := ⟨~~~0⟩

instance : OrOp CollectCategory := ⟨fun a b => ⟨a.bits ||| b.bits⟩⟩

instance : AndOp CollectCategory := ⟨fun a b => ⟨a.bits &&& b.bits⟩⟩

end CollectCategory

def hasCategory (flags category : CollectCategory) : Bool := (flags &&& category).bits != 0

structure CollectOptions where
  categories : CollectCategory := .all
  procfsRoot : Bytes := "/proc"
  sysfsRoot : Bytes := "/sys"
  etcRoot : Bytes := "/etc"
  devRoot : Bytes := "/dev"
  allowSlowProbes : Bool := false
  allowVendorLibraries : Bool := false
  allowPerfOpen : Bool := false
  includeSensitive : Bool := true
  deriving DecidableEq

structure Report where
  categories : CollectCategory := .all
  system : SystemInfo

/-- The known categories, one for each section of a report. -/
inductive Category where
  | os
  | cpu
  | isa
  | cache
  | memory
  | pci
  | gpu
  | perf
  | block
  | net
  | thermal
  | power
  | virtualization
  | platform
  deriving DecidableEq

namespace Category

/-- The flag of a category. -/
def flag : Category → CollectCategory
  | os => .os
  | cpu => .cpu
  | isa => .isa
  | cache => .cache
  | memory => .memory
  | pci => .pci
  | gpu => .gpu
  | perf => .perf
  | block => .block
  | net => .net
  | thermal => .thermal
  | power => .power
  | virtualization => .virtualization
  | platform => .platform

/-- The name of a category. -/
def name : Category → Bytes
  | os => "os"
  | cpu => "cpu"
  | isa => "isa"
  | cache => "cache"
  | memory => "memory"
  | pci => "pci"
  | gpu => "gpu"
  | perf => "perf"
  | block => "block"
  | net => "net"
  | thermal => "thermal"
  | power => "power"
  | virtualization => "virtualization"
  | platform => "platform"

/-- The categories in the order of a report. -/
def all : List Category :=
  [os, cpu, isa, cache, memory, pci, gpu, perf, block, net, thermal, power, virtualization,
    platform]

theorem mem_all (c : Category) : c ∈ all := by cases c <;> decide

theorem name_injective {c d : Category} (h : c.name = d.name) : c = d := by
  revert h
  cases c <;> cases d <;> decide

end Category

/-- The category is in the mask. -/
def CollectCategory.Selects (mask : CollectCategory) (c : Category) : Prop :=
  hasCategory mask c.flag = true

instance (mask : CollectCategory) (c : Category) : Decidable (mask.Selects c) :=
  inferInstanceAs (Decidable (_ = _))

end Archspec
