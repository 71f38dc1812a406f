import Archspec.Collectors.Processor

/-!
# The collectors that read the CPU flags

`isa.cc`, `perf.cc` and `virtualization.cc`.  Each has its own lookup of the flags line of the first
cpuinfo block: `findFeatureSource`, `readCpuFlags` and `cpuFlags`.
-/

namespace Archspec

open Lib

/-! ## Instruction-set features -/

inductive FeatureFamily where
  | x86
  | arm
  | riscv
  | unknown
  deriving DecidableEq

structure FeatureSource where
  raw : Bytes := []
  family : FeatureFamily := .unknown

def findFeatureSource (block : KeyValueMap) : FeatureSource :=
  match mapValue block "flags" with
  | some value => ⟨value, .x86⟩
  | none =>
    match mapValue block "Features" with
    | some value => ⟨value, .arm⟩
    | none =>
      match mapValue block "isa" with
      | some value => ⟨value, .riscv⟩
      | none => {}

def anyFlag (flags : Finset Bytes) (names : List Bytes) : BoolField :=
  .ofValue (names.any fun name => decide (name ∈ flags))

def markFeatureFields (features : IsaFeatures) (status : Status) : IsaFeatures :=
  { features with
    x86Fpu := .unavailable status
    x86Mmx := .unavailable status
    x86Sse := .unavailable status
    x86Sse2 := .unavailable status
    x86Sse3 := .unavailable status
    x86Ssse3 := .unavailable status
    x86Sse41 := .unavailable status
    x86Sse42 := .unavailable status
    x86Avx := .unavailable status
    x86Avx2 := .unavailable status
    x86Avx512f := .unavailable status
    x86Avx512dq := .unavailable status
    x86Avx512cd := .unavailable status
    x86Avx512bw := .unavailable status
    x86Avx512vl := .unavailable status
    x86Aes := .unavailable status
    x86Sha := .unavailable status
    x86Pclmulqdq := .unavailable status
    x86Rdrand := .unavailable status
    x86Rdseed := .unavailable status
    x86Xsave := .unavailable status
    x86Xsaveopt := .unavailable status
    x86Xsavec := .unavailable status
    x86Vmx := .unavailable status
    x86Ept := .unavailable status
    x86Svm := .unavailable status
    x86Npt := .unavailable status
    x86Tsc := .unavailable status
    x86ConstantTsc := .unavailable status
    x86NonstopTsc := .unavailable status
    x86Rdtscp := .unavailable status
    armNeon := .unavailable status
    armAsimd := .unavailable status
    armSve := .unavailable status
    armSve2 := .unavailable status
    armAes := .unavailable status
    armSha1 := .unavailable status
    armSha2 := .unavailable status
    armCrc32 := .unavailable status
    armPauth := .unavailable status
    riscvI := .unavailable status
    riscvM := .unavailable status
    riscvA := .unavailable status
    riscvF := .unavailable status
    riscvD := .unavailable status
    riscvC := .unavailable status
    riscvV := .unavailable status
    riscvH := .unavailable status }

/-- Substring searches on the lower-case text, from the first `rv32` or else the first `rv64`. -/
def riscvHasExtension (isa : Bytes) (extension : UInt8) : Bool :=
  let lower := lowered isa
  match (findAfter "rv32" lower).or (findAfter "rv64" lower) with
  | none => false
  | some rest =>
    let base := rest.takeWhile (· ≠ 95)
    -- `g` is shorthand for `imafd`
    let impliedByG := base.contains 103 && (bytes "imafd").contains extension
    impliedByG || base.contains extension || Lib.contains lower [95, extension]

/-- The assignments of the x86 family. -/
def setX86Features (features : IsaFeatures) (flags : Finset Bytes) : IsaFeatures :=
  { features with
    x86Fpu := boolFromFlag flags "fpu"
    x86Mmx := boolFromFlag flags "mmx"
    x86Sse := boolFromFlag flags "sse"
    x86Sse2 := boolFromFlag flags "sse2"
    x86Sse3 := anyFlag flags ["sse3", "pni"]
    x86Ssse3 := boolFromFlag flags "ssse3"
    x86Sse41 := anyFlag flags ["sse4_1", "sse4.1"]
    x86Sse42 := anyFlag flags ["sse4_2", "sse4.2"]
    x86Avx := boolFromFlag flags "avx"
    x86Avx2 := boolFromFlag flags "avx2"
    x86Avx512f := boolFromFlag flags "avx512f"
    x86Avx512dq := boolFromFlag flags "avx512dq"
    x86Avx512cd := boolFromFlag flags "avx512cd"
    x86Avx512bw := boolFromFlag flags "avx512bw"
    x86Avx512vl := boolFromFlag flags "avx512vl"
    x86Aes := boolFromFlag flags "aes"
    x86Sha := anyFlag flags ["sha", "sha_ni"]
    x86Pclmulqdq := boolFromFlag flags "pclmulqdq"
    x86Rdrand := boolFromFlag flags "rdrand"
    x86Rdseed := boolFromFlag flags "rdseed"
    x86Xsave := boolFromFlag flags "xsave"
    x86Xsaveopt := boolFromFlag flags "xsaveopt"
    x86Xsavec := boolFromFlag flags "xsavec"
    x86Vmx := boolFromFlag flags "vmx"
    x86Ept := boolFromFlag flags "ept"
    x86Svm := boolFromFlag flags "svm"
    x86Npt := boolFromFlag flags "npt"
    x86Tsc := boolFromFlag flags "tsc"
    x86ConstantTsc := boolFromFlag flags "constant_tsc"
    x86NonstopTsc := boolFromFlag flags "nonstop_tsc"
    x86Rdtscp := boolFromFlag flags "rdtscp" }

/-- The assignments of the ARM family. -/
def setArmFeatures (features : IsaFeatures) (flags : Finset Bytes) : IsaFeatures :=
  { features with
    armNeon := anyFlag flags ["neon", "asimd"]
    armAsimd := boolFromFlag flags "asimd"
    armSve := boolFromFlag flags "sve"
    armSve2 := boolFromFlag flags "sve2"
    armAes := boolFromFlag flags "aes"
    armSha1 := boolFromFlag flags "sha1"
    armSha2 := boolFromFlag flags "sha2"
    armCrc32 := boolFromFlag flags "crc32"
    armPauth := anyFlag flags ["pauth", "paca", "pacg"] }

/-- The assignments of the RISC-V family. -/
def setRiscvFeatures (features : IsaFeatures) (raw : Bytes) : IsaFeatures :=
  { features with
    riscvI := .ofValue (riscvHasExtension raw 'i'.toUInt8)
    riscvM := .ofValue (riscvHasExtension raw 'm'.toUInt8)
    riscvA := .ofValue (riscvHasExtension raw 'a'.toUInt8)
    riscvF := .ofValue (riscvHasExtension raw 'f'.toUInt8)
    riscvD := .ofValue (riscvHasExtension raw 'd'.toUInt8)
    riscvC := .ofValue (riscvHasExtension raw 'c'.toUInt8)
    riscvV := .ofValue (riscvHasExtension raw 'v'.toUInt8)
    riscvH := .ofValue (riscvHasExtension raw 'h'.toUInt8) }

/-- Every feature and the raw flags unavailable for one reason. -/
def noFeatures (status : Status) : IsaFeatures :=
  { markFeatureFields {} status with rawFlags := .unavailable status }

/-- The features of a flags line. -/
def featuresOf (source : FeatureSource) : IsaFeatures :=
  let features := markFeatureFields { rawFlags := .ofValue source.raw } .unsupported
  match source.family with
  | .x86 => setX86Features features (wordSet source.raw)
  | .arm => setArmFeatures features (wordSet source.raw)
  | .riscv => setRiscvFeatures features source.raw
  | .unknown => features

def collectIsa (options : CollectOptions) : Collect IsaFeatures := do
  let cpuinfo ← readFile (procPath options "/cpuinfo")
  if cpuinfo.status ≠ .ok then return noFeatures cpuinfo.status
  else match parseColonBlocks cpuinfo.value with
    | [] => return noFeatures .parseError
    | first :: _ =>
      let source := findFeatureSource first
      return if source.raw = [] then noFeatures .notFound else featuresOf source

/-! ## The flag lookups of the other two collectors -/

/-- `CpuFlagResult` of `perf.cc` and `CpuFlags` of `virtualization.cc`. -/
structure CpuFlagResult where
  status : Status := .notFound
  flags : Finset Bytes := ∅
  x86 : Bool := false

/-- The flags under the first of the keys that has a value. -/
def flagLine (block : KeyValueMap) : List Bytes → CpuFlagResult
  | [] => {}
  | key :: keys =>
    match mapValue block key with
    | some value => { status := .ok, flags := wordSet value, x86 := key = "flags" }
    | none => flagLine block keys

/-- The lookup both collectors make, each with its own keys. -/
def readFlagLine (keys : List Bytes) (options : CollectOptions) : Collect CpuFlagResult := do
  let cpuinfo ← readFile (procPath options "/cpuinfo")
  if cpuinfo.status ≠ .ok then return { status := cpuinfo.status }
  else match parseColonBlocks cpuinfo.value with
    | [] => return { status := .parseError }
    | first :: _ => return flagLine first keys

/-- The lookup of `perf.cc`. -/
def readCpuFlags (options : CollectOptions) : Collect CpuFlagResult :=
  readFlagLine ["flags", "Features", "isa"] options

/-- The lookup of `virtualization.cc`. -/
def cpuFlags (options : CollectOptions) : Collect CpuFlagResult :=
  readFlagLine ["flags", "Features"] options

/-! ## Performance counters -/

def readPerfEventParanoid (options : CollectOptions) : Collect I64Field :=
  readI64Field (procPath options "/sys/kernel/perf_event_paranoid")

def flagField (result : CpuFlagResult) (name : Bytes) : BoolField :=
  if result.status ≠ .ok then .unavailable result.status else boolFromFlag result.flags name

def anyFlagField (result : CpuFlagResult) (names : List Bytes) : BoolField :=
  if result.status ≠ .ok then .unavailable result.status else anyFlag result.flags names

/-- The field for the outcome of `perf_event_open`. -/
def PerfOpen.counterField : PerfOpen → BoolField
  | .opened => .ofValue true
  | .failed .eacces | .failed .eperm => .unavailable .permDenied
  | .failed .enodev | .failed .enoent | .failed .eopnotsupp | .failed .einval => .ofValue false
  | .failed .other => .unavailable .internalError

def probeHardwareCounter (config : UInt64) (allowProbe : Bool) : Collect BoolField := do
  if !allowProbe then return .unavailable .unsupported
  else do
    let outcome ← ask (.perfEventOpen config)
    return outcome.counterField

/-- The numbers are the `PERF_COUNT_HW_*` constants. -/
def fillHardwareCounterAvailability (allowProbe : Bool) : Collect PerfCounterAvailability := do
  let cpuCycles ← probeHardwareCounter 0 allowProbe
  let instructions ← probeHardwareCounter 1 allowProbe
  let cacheReferences ← probeHardwareCounter 2 allowProbe
  let cacheMisses ← probeHardwareCounter 3 allowProbe
  let branchInstructions ← probeHardwareCounter 4 allowProbe
  let branchMisses ← probeHardwareCounter 5 allowProbe
  let busCycles ← probeHardwareCounter 6 allowProbe
  let refCpuCycles ← probeHardwareCounter 9 allowProbe
  return { cpuCycles, instructions, cacheReferences, cacheMisses, branchInstructions, branchMisses,
           busCycles, refCpuCycles }

/-- The three time-stamp fields. -/
def tscFields (flags : CpuFlagResult) : BoolField × BoolField × BoolField :=
  if flags.status = .ok && !flags.x86 then
    (.unavailable .unsupported, .unavailable .unsupported, .unavailable .unsupported)
  else
    (flagField flags "tsc", flagField flags "rdtscp",
      anyFlagField flags ["constant_tsc", "nonstop_tsc"])

def collectPerf (options : CollectOptions) : Collect PerfCounterInfo := do
  let perfEventParanoid ← readPerfEventParanoid options
  let available ← fillHardwareCounterAvailability options.allowPerfOpen
  let flags ← readCpuFlags options
  return { perfEventParanoid
           available
           rdtscAvailable := (tscFields flags).1
           rdtscpAvailable := (tscFields flags).2.1
           invariantTsc := (tscFields flags).2.2 }

/-! ## Virtualization -/

def containsVirtualizationHint (value : Bytes) : Bool :=
  [("kvm" : Bytes), "qemu", "vmware", "virtualbox", "hyper-v", "hyperv", "xen", "bochs",
    "parallels", "bhyve", "wsl"].any fun hint => Lib.contains (lowered value) hint

def detectedHypervisorVendor (options : CollectOptions) : Collect StringField :=
  firstAccepted containsVirtualizationHint
    [sysPath options "/hypervisor/type", sysPath options "/class/dmi/id/product_name",
      sysPath options "/class/dmi/id/sys_vendor"]

def iommuPresent (options : CollectOptions) : Collect BoolField := do
  let root := sysPath options "/kernel/iommu_groups"
  if ← pathIsDir root then
    let names ← listDir root
    return .ofValue (names.any fun entry => (parseU64 entry.name).isSome)
  else return .unavailable .notFound

/-- The field of one virtualization extension. -/
def extensionField (flags : CpuFlagResult) (name : Bytes) : BoolField :=
  if flags.status = .ok && flags.x86 then boolFromFlag flags.flags name
  else if flags.status = .ok then .unavailable .unsupported
  else .unavailable flags.status

def runningUnderHypervisorField (flags : CpuFlagResult) (vendor : StringField) : BoolField :=
  if flags.status = .ok || vendor.valid then
    .ofValue (decide (bytes "hypervisor" ∈ flags.flags) || vendor.valid)
  else .unavailable flags.status

def collectVirtualization (options : CollectOptions) : Collect VirtualizationInfo := do
  let flags ← cpuFlags options
  let vendor ← detectedHypervisorVendor options
  let kvm := devPath options "/kvm"
  let kvmExists ← pathExists kvm
  let kvmAccess ← (if kvmExists then ask (.access kvm) else return false)
  let iommu ← iommuPresent options
  return { runningUnderHypervisor := runningUnderHypervisorField flags vendor
           hypervisorVendor := vendor
           devKvmExists := .ofValue kvmExists
           kvmAvailable := .ofValue kvmAccess
           intelVmxAvailable := extensionField flags "vmx"
           amdSvmAvailable := extensionField flags "svm"
           iommuPresent := iommu }

end Archspec
