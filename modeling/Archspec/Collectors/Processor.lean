import Archspec.Internal

/-!
# The processor collector

`cpu.cc`: architecture, identification, CPU counts, topology, and the hypervisor named by the
processor section.
-/

namespace Archspec

open Lib

def archFromMachine (machine : Bytes) : ArchType :=
  if machine = "x86_64" ∨ machine = "amd64" then .x86_64
  else if machine = "i386" ∨ machine = "i486" ∨ machine = "i586" ∨ machine = "i686" then .x86
  else if machine = "armv7l" ∨ machine = "armv8l" ∨ startsWith machine "armv" then .arm
  else if machine = "aarch64" ∨ machine = "arm64" then .aarch64
  else if machine = "riscv32" then .riscv32
  else if machine = "riscv64" then .riscv64
  else if machine = "ppc64" ∨ machine = "ppc64le" then .ppc64
  else if machine = "s390x" then .s390x
  else .unknown

/-! ## CPU directories -/

/-- The 32-bit number that follows a prefix of a directory name. -/
def numberedEntry (pre name : Bytes) : Option UInt64 :=
  if !startsWith name pre then none
  else match parseU64 (name.drop pre.length) with
    | some id => if id > 0xFFFFFFFF then none else some id
    | none => none

/-- The order of `std::pair<std::uint64_t, std::string>`. -/
def cpuDirLe (a b : UInt64 × Bytes) : Prop := a.1 < b.1 ∨ (a.1 = b.1 ∧ lexLe a.2 b.2)

instance : DecidableRel cpuDirLe := fun _ _ => inferInstanceAs (Decidable (_ ∨ _))

/-- The per-CPU directories with their ids; `cpu.cc` and `cache.cc` have the same function. -/
def cpuDirs (options : CollectOptions) : Collect (List (UInt64 × Bytes)) := do
  let root := sysPath options "/devices/system/cpu"
  let names ← listDir root
  -- the bare name `cpu` has no number behind the prefix
  let cpus := names.filterMap fun entry =>
    (numberedEntry "cpu" entry.name).map fun id => (id, joinPath root entry.name)
  return cpus.insertionSort cpuDirLe

/-! ## Values of the cpuinfo blocks -/

def u32FromText (text : Bytes) : Option UInt32 :=
  match parseU64 text with
  | some value => if value > 0xFFFFFFFF then none else some value.toUInt32
  | none => none

def u32FromMap (block : KeyValueMap) (key : Bytes) : Option UInt32 :=
  (mapValue block key).bind u32FromText

/-- The state of the word loop of `parseAddressSizes`. -/
structure AddressSizes where
  lastNumber : Option UInt64 := none
  physical : Option UInt64 := none
  virtualBits : Option UInt64 := none

/-- One word of `parseAddressSizes`. -/
def addressSizesWord (state : AddressSizes) (word : Bytes) : AddressSizes :=
  match parseU64 word with
  | some parsed => { state with lastNumber := some parsed }
  | none =>
    match state.lastNumber with
    | none => state
    | some number =>
      if startsWith word "physical" then { state with physical := some number }
      else if startsWith word "virtual" then { state with virtualBits := some number }
      else state

/-- A width that was found, or a parse error. -/
def addressField : Option UInt64 → U64Field
  | some bits => .ofValue bits
  | none => .unavailable .parseError

/-- The physical and the virtual address width. -/
def parseAddressSizes (block : KeyValueMap) : U64Field × U64Field :=
  match mapValue block "address sizes" with
  | none => (.unavailable .notFound, .unavailable .notFound)
  | some text =>
    let sizes := (splitWords text).foldl addressSizesWord {}
    (addressField sizes.physical, addressField sizes.virtualBits)

def firstFlags (block : KeyValueMap) : Bytes :=
  ([("flags" : Bytes), "Features", "isa"].findSome? (mapValue block)).getD []

/-- The first of the files whose trimmed first line is accepted. -/
def firstAccepted (accept : Bytes → Bool) : List Bytes → Collect StringField
  | [] => return .unavailable .notFound
  | path :: paths => do
    let field ← readStringField path
    if field.valid && accept field.value then return field else firstAccepted accept paths

def firstExistingHypervisorVendor (options : CollectOptions) : Collect StringField :=
  firstAccepted (fun value => !value.isEmpty)
    [sysPath options "/hypervisor/type", sysPath options "/class/dmi/id/product_name",
      sysPath options "/class/dmi/id/sys_vendor"]

/-- The blocks by processor id; a later block with the same id replaces an earlier one. -/
def blocksByProcessor (blocks : List KeyValueMap) : Finmap fun _ : UInt64 => KeyValueMap :=
  blocks.foldl (fun byId block =>
    match (mapValue block "processor").bind parseU64 with
    | some id => byId.insert id block
    | none => byId) ∅

/-- A 32-bit value of a block, the default field when there is none. -/
def fieldFromBlock (block : KeyValueMap) (key : Bytes) : U32Field :=
  match u32FromMap block key with
  | some value => .ofValue value
  | none => .initial

/-- The topology entries of the blocks that carry a processor id. -/
def addCpuinfoTopology (blocks : List KeyValueMap) : List CpuTopologyEntry :=
  blocks.filterMap fun block =>
    (u32FromMap block "processor").map fun processor =>
      { logicalId := .ofValue processor
        coreId := fieldFromBlock block "core id"
        packageId := fieldFromBlock block "physical id" }

/-! ## Topology from sysfs -/

/-- The node number of the first `node<number>` child. -/
def numaNodeOf (children : List EntryName) : U32Field :=
  match children.findSome? fun child => numberedEntry "node" child.name with
  | some node => .ofValue node.toUInt32
  | none => .initial

/-- An id read from sysfs, or else from the cpuinfo block of the CPU. -/
def withFallback (field : U32Field) (block : Option KeyValueMap) (key : Bytes) : U32Field :=
  if field.valid then field
  else match block.bind fun block => u32FromMap block key with
    | some value => .ofValue value
    | none => field

/-- The topology entry of one CPU directory. -/
def cpuTopologyEntry (byId : Finmap fun _ : UInt64 => KeyValueMap) (cpu : UInt64 × Bytes) :
    Collect CpuTopologyEntry := do
  let topologyDir := joinPath cpu.2 "topology"
  let coreId ← readU32Field (joinPath topologyDir "core_id")
  let packageId ← readU32Field (joinPath topologyDir "physical_package_id")
  let threadSiblingsMask ← readStringField (joinPath topologyDir "thread_siblings")
  let coreSiblingsMask ← readStringField (joinPath topologyDir "core_siblings")
  let children ← listDir cpu.2
  let block := byId.lookup cpu.1
  return { logicalId := .ofValue cpu.1.toUInt32
           coreId := withFallback coreId block "core id"
           packageId := withFallback packageId block "physical id"
           numaNode := numaNodeOf children
           threadSiblingsMask, coreSiblingsMask }

/-- The topology list: from the CPU directories, and from cpuinfo when there are none. -/
def cpuTopology (options : CollectOptions) (blocks : List KeyValueMap) :
    Collect (List CpuTopologyEntry) := do
  let cpus ← cpuDirs options
  let entries ← Program.gather (fun cpu => some <$> cpuTopologyEntry (blocksByProcessor blocks) cpu) cpus
  return if entries.isEmpty && !blocks.isEmpty then addCpuinfoTopology blocks else entries

/-! ## The summary of the topology -/

/-- The sets and counters the summary is computed from. -/
structure TopologyCounts where
  packages : Finset UInt32 := ∅
  coresByPackage : Finmap (fun _ : UInt32 => Finset UInt32) := ∅
  threadsByCore : Finmap (fun _ : UInt32 × UInt32 => ℕ) := ∅

/-- Count one entry; entries without both ids are skipped. -/
def countEntry (counts : TopologyCounts) (entry : CpuTopologyEntry) : TopologyCounts :=
  if !entry.packageId.valid || !entry.coreId.valid then counts
  else
    let package := entry.packageId.value
    let core := entry.coreId.value
    { packages := insert package counts.packages
      coresByPackage := counts.coresByPackage.insert package
        (insert core ((counts.coresByPackage.lookup package).getD ∅))
      threadsByCore := counts.threadsByCore.insert (package, core)
        ((counts.threadsByCore.lookup (package, core)).getD 0 + 1) }

/-- The largest number of cores of a package. -/
def TopologyCounts.maxCores (counts : TopologyCounts) : ℕ :=
  (counts.coresByPackage.entries.map fun item => item.2.card).fold max 0

/-- The largest number of threads of a core. -/
def TopologyCounts.maxThreads (counts : TopologyCounts) : ℕ :=
  (counts.threadsByCore.entries.map fun item => item.2).fold max 0

def socketsField (counts : TopologyCounts) : U64Field :=
  if counts.packages ≠ ∅ then .ofValue (UInt64.ofNat counts.packages.card)
  else .unavailable .notFound

def coresPerSocketField (cpuCores : U64Field) (counts : TopologyCounts) : U64Field :=
  if cpuCores.valid then cpuCores
  else if counts.coresByPackage ≠ ∅ then .ofValue (UInt64.ofNat counts.maxCores)
  else .unavailable .notFound

def threadsPerCoreField (siblings cpuCores : U64Field) (counts : TopologyCounts) : U64Field :=
  if siblings.valid && cpuCores.valid && cpuCores.value != 0 then
    .ofValue (siblings.value / cpuCores.value)
  else if counts.threadsByCore ≠ ∅ then .ofValue (UInt64.ofNat counts.maxThreads)
  else .unavailable .notFound

/-! ## The collector -/

/-- `arch_name` and `arch`. -/
def cpuArch : Collect (StringField × ArchType) := do
  match ← ask .uname with
  | some uts => return (.ofValue uts.machine, archFromMachine uts.machine)
  | none => return (.unavailable .internalError, .unknown)

/-- A CPU count with its fallbacks: the number of cpuinfo blocks, then the threads of the host. -/
def cpuCountFallback (field : U64Field) (blocks : List KeyValueMap) (hardwareThreads : UInt32) :
    U64Field :=
  if field.valid then field
  else if !blocks.isEmpty then .ofValue (UInt64.ofNat blocks.length)
  else if hardwareThreads ≠ 0 then .ofValue hardwareThreads.toUInt64
  else field

/-- Whether the flags name a hypervisor. -/
def isVirtualizedField (flags : Finset Bytes) (status : Status) : BoolField :=
  if flags ≠ ∅ then .ofValue (decide (bytes "hypervisor" ∈ flags))
  else .unavailable (if status = .ok then .notFound else status)

def cpuHypervisorVendor (options : CollectOptions) (first : KeyValueMap)
    (isVirtualized : BoolField) : Collect StringField :=
  let vendor := stringFromMap first ["Hypervisor vendor"]
  if vendor.valid then return vendor
  else if isVirtualized.valid && isVirtualized.value then firstExistingHypervisorVendor options
  else return .unavailable .notFound

/-- The part of `collectCpu` behind the machine name. -/
def cpuDetails (options : CollectOptions) (machine : StringField × ArchType) :
    Collect CpuInfo := do
  let cpuinfo ← readFile (procPath options "/cpuinfo")
  let blocks := if cpuinfo.status = .ok then parseColonBlocks cpuinfo.value else []
  let first := blocks.headD ∅
  let modelName := stringFromMap first ["model name", "Processor", "cpu"]
  let present ← readCpuListCountField (sysPath options "/devices/system/cpu/present")
  let online ← readCpuListCountField (sysPath options "/devices/system/cpu/online")
  let possible ← readCpuListCountField (sysPath options "/devices/system/cpu/possible")
  let hardwareThreads ← ask .hardwareConcurrency
  let topology ← cpuTopology options blocks
  let counts := topology.foldl countEntry {}
  let cpuCores := u64FromMap first ["cpu cores"]
  let siblings := u64FromMap first ["siblings"]
  let isVirtualized := isVirtualizedField (wordSet (firstFlags first)) cpuinfo.status
  let hypervisorVendor ← cpuHypervisorVendor options first isVirtualized
  return { arch := machine.2
           archName := machine.1
           vendor := stringFromMap first ["vendor_id", "CPU implementer", "uarch"]
           modelName
           brand := modelName
           family := u64FromMap first ["cpu family", "CPU architecture"]
           model := u64FromMap first ["model", "CPU part"]
           stepping := u64FromMap first ["stepping", "CPU revision"]
           microcode := stringFromMap first ["microcode"]
           physicalAddressBits := (parseAddressSizes first).1
           virtualAddressBits := (parseAddressSizes first).2
           presentCpuCount := cpuCountFallback present blocks hardwareThreads
           onlineCpuCount := cpuCountFallback online blocks hardwareThreads
           possibleCpuCount := cpuCountFallback possible blocks hardwareThreads
           sockets := socketsField counts
           coresPerSocket := coresPerSocketField cpuCores counts
           threadsPerCore := threadsPerCoreField siblings cpuCores counts
           isVirtualized
           hypervisorVendor
           topology }

def collectCpu (options : CollectOptions) : Collect CpuInfo := do
  let machine ← cpuArch
  cpuDetails options machine

end Archspec
