import Archspec.Agreement
import Archspec.Caches
import Archspec.Families
import Archspec.Gpus
import Archspec.PowerSupplies
import Archspec.WellFormed

/-!
# The texts a report takes from the environment

The text fields of a section are cut at ASCII bytes out of texts of the environment: lines of files,
values of key-value blocks, names of directories and ends of links (`Env.texts`).  Nothing looks at
their bytes from 128 on, and `json.cc` copies these as they are, so the text of a report is UTF-8
exactly when all those texts are (`utf8_report_iff`).
-/

namespace Archspec

open Lib Program

/-! ## The texts of the sections -/

/-- Texts that only a report with sensitive data has. -/
def sensitive (options : CollectOptions) (texts : List Bytes) : List Bytes :=
  if options.includeSensitive then texts else []

/-- For each list of keys, the value of the first one that has a value. -/
def valueTexts (values : KeyValueMap) (fields : List (List Bytes)) : List Bytes :=
  fields.filterMap fun keys => keys.findSome? (mapValue values)

/-- The text of an internet address of the interface. -/
def addressOf (name : Bytes) (iface : InterfaceAddress) : Option Bytes :=
  match iface.address with
  | some (.inet, text) | some (.inet6, text) => if iface.name = name then text else none
  | _ => none

namespace Env

variable (env : Env)

/-- The first lines of the files, as far as they can be read. -/
def lineTexts (paths : List Bytes) : List Bytes := paths.filterMap env.line

/-- The ends of the links, as far as they can be read. -/
def linkTexts (paths : List Bytes) : List Bytes :=
  paths.filterMap fun path => (env (.readSymlink path)).map basename

variable (options : CollectOptions)

def unameTexts : List Bytes :=
  match env .uname with
  | none => []
  | some uts =>
    [uts.sysname, uts.version, uts.release, uts.machine] ++ sensitive options [uts.nodename]

def osTexts : List Bytes :=
  env.unameTexts options ++
    valueTexts (parseOsRelease ((env.text (etcPath options "/os-release")).getD []))
      [["PRETTY_NAME", "NAME"], ["VERSION_ID", "VERSION"], ["ID"]] ++
    sensitive options (env.lineTexts [procPath options "/cmdline"])

/-- The first block of cpuinfo. -/
def firstBlock : KeyValueMap := (env.cpuBlocks options).headD ∅

/-- The vendor cpuinfo names, or else, when the flags name a hypervisor, the first text of the files
that is not empty. -/
def vendorTexts : List Bytes :=
  match mapValue (env.firstBlock options) "Hypervisor vendor" with
  | some vendor => [vendor]
  | none =>
    if bytes "hypervisor" ∈ wordSet (firstFlags (env.firstBlock options)) then
      ((env.hypervisorTexts options).find? fun text => !text.isEmpty).toList
    else []

def cpuTexts : List Bytes :=
  ((env .uname).map Utsname.machine).toList ++
    valueTexts (env.firstBlock options)
      [["vendor_id", "CPU implementer", "uarch"], ["model name", "Processor", "cpu"],
        ["microcode"]] ++
    env.vendorTexts options ++
    (env.cpuDirs options).flatMap fun cpu =>
      env.lineTexts [joinPath (joinPath cpu.2 "topology") "thread_siblings",
        joinPath (joinPath cpu.2 "topology") "core_siblings"]

def isaTexts : List Bytes :=
  valueTexts (env.firstBlock options) [["flags", "Features", "isa"]]

def cacheTexts : List Bytes :=
  (env.cacheDirs options).flatMap fun dir => env.lineTexts [joinPath dir.2 "shared_cpu_list"]

def memoryTexts : List Bytes :=
  let root := sysPath options "/devices/system/node"
  (env.names root).flatMap fun entry =>
    match numberedEntry "node" entry.name with
    | none => []
    | some _ => env.lineTexts [joinPath (joinPath root entry.name) "cpulist"]

def pciTexts : List Bytes :=
  (env.names (pciRoot options)).flatMap fun address =>
    let path := joinPath (pciRoot options) address.name
    if env (.isDirectory path) then
      address.name ::
        (env.lineTexts [joinPath path "vendor", joinPath path "device",
            joinPath path "subsystem_vendor", joinPath path "subsystem_device",
            joinPath path "class"] ++
          env.linkTexts [joinPath path "driver", joinPath path "iommu_group"] ++
          if env (.pathExists (joinPath path "resource")) = .yes then [joinPath path "resource"]
          else [])
    else []

/-- The texts of the entry of a device, but for its card. -/
def deviceTexts (device : Bytes) : List Bytes :=
  let path := joinPath (pciRoot options) device
  device ::
    (env.lineTexts [joinPath path "vendor", joinPath path "device"] ++
      env.linkTexts [joinPath path "driver"] ++
      (lastEntry ((env.nodes options isRender).map fun node => (node.2, driPath options node.1))
        device).toList)

/-- The first card of each device counts. -/
def gpuTexts : List Bytes :=
  (keepFirst Prod.snd ∅ (env.nodes options isCard)).map (fun node => driPath options node.1) ++
    ((env.nodes options isCard).map Prod.snd ++ env.displayDevices options).flatMap
      (env.deviceTexts options)

def blockTexts : List Bytes :=
  let root := sysPath options "/block"
  (env.names root).flatMap fun entry =>
    let path := joinPath root entry.name
    if !isPseudoBlockDevice entry.name && env (.isDirectory path) then
      [entry.name, devPath options ("/" ++ entry.name)] ++
        env.lineTexts [joinPath path "device/model", joinPath path "device/vendor",
          joinPath path "queue/scheduler"]
    else []

/-- The addresses of an interface, asked for below the real `/sys` only. -/
def addressTexts (name : Bytes) : List Bytes :=
  if options.sysfsRoot ≠ "/sys" then []
  else ((env .getifaddrs).getD []).filterMap (addressOf name)

def netTexts : List Bytes :=
  let root := sysPath options "/class/net"
  (env.names root).flatMap fun entry =>
    let path := joinPath root entry.name
    if env (.isDirectory path) then
      entry.name ::
        (env.lineTexts [joinPath path "duplex"] ++ env.linkTexts [joinPath path "device/driver"] ++
          sensitive options (env.lineTexts [joinPath path "address"] ++
            env.addressTexts options entry.name))
    else []

def thermalTexts : List Bytes :=
  let root := sysPath options "/class/thermal"
  (env.names root).flatMap fun entry =>
    let path := joinPath root entry.name
    if startsWith entry.name "thermal_zone" then
      entry.name :: env.lineTexts [joinPath path "type", joinPath path "temp"]
    else []

/-- The status of a supply that is a battery. -/
def batteryStatus (path : Bytes) : Option Bytes :=
  if (env.line (joinPath path "type")).map trim = some (bytes "Battery") then
    env.line (joinPath path "status")
  else none

/-- The first battery with a status counts. -/
def powerTexts : List Bytes :=
  let root := sysPath options "/class/power_supply"
  ((env.names root).findSome? fun entry => env.batteryStatus (joinPath root entry.name)).toList ++
    env.lineTexts [joinPath (sysPath options "/devices/system/cpu/cpu0/cpufreq") "scaling_governor"]

def virtualizationTexts : List Bytes :=
  ((env.hypervisorTexts options).find? containsVirtualizationHint).toList

def platformTexts : List Bytes :=
  env.lineTexts ((([("sys_vendor" : Bytes), "product_name", "product_version", "board_vendor",
    "board_name", "bios_vendor", "bios_version", "bios_date"]).map
      (joinPath (sysPath options "/class/dmi/id"))))

/-- The texts the section of a category takes from the environment. -/
def texts : Category → List Bytes
  | .os => env.osTexts options
  | .cpu => env.cpuTexts options
  | .isa => env.isaTexts options
  | .cache => env.cacheTexts options
  | .memory => env.memoryTexts options
  | .pci => env.pciTexts options
  | .gpu => env.gpuTexts options
  | .perf => []
  | .block => env.blockTexts options
  | .net => env.netTexts options
  | .thermal => env.thermalTexts options
  | .power => env.powerTexts options
  | .virtualization => env.virtualizationTexts options
  | .platform => env.platformTexts options

end Env

/-! ## Fields -/

section Fields

@[simp] theorem wellFormed_ofValue (text : Bytes) :
    (Field.ofValue text : StringField).WellFormed ↔ Utf8 text := by
  simp [Field.WellFormed]

@[simp] theorem wellFormed_unavailable (status : Status) :
    (Field.unavailable status : StringField).WellFormed := by
  simp [Field.WellFormed]

@[simp] theorem wellFormed_initial : (Field.initial : StringField).WellFormed := by
  simp [Field.WellFormed]

theorem allUtf8_toList (text? : Option Bytes) :
    AllUtf8 text?.toList ↔ ∀ text ∈ text?, Utf8 text := by
  cases text? <;> simp

theorem wellFormed_stringFromMap (values : KeyValueMap) (keys : List Bytes) :
    (stringFromMap values keys).WellFormed ↔
      ∀ text ∈ keys.findSome? (mapValue values), Utf8 text := by
  rw [stringFromMap]
  cases keys.findSome? (mapValue values) <;> simp

theorem wellFormed_stringFromMap_empty (keys : List Bytes) : (stringFromMap ∅ keys).WellFormed := by
  have hnone : keys.findSome? (mapValue ∅) = none := by
    apply List.findSome?_eq_none_iff.2
    intro key _
    rfl
  rw [wellFormed_stringFromMap, hnone]
  nofun

@[simp] theorem allUtf8_valueTexts_nil (values : KeyValueMap) : AllUtf8 (valueTexts values []) := nofun

@[simp] theorem allUtf8_valueTexts_cons (values : KeyValueMap) (keys : List Bytes)
    (fields : List (List Bytes)) :
    AllUtf8 (valueTexts values (keys :: fields)) ↔
      (stringFromMap values keys).WellFormed ∧ AllUtf8 (valueTexts values fields) := by
  rw [wellFormed_stringFromMap, valueTexts, List.filterMap_cons]
  cases keys.findSome? (mapValue values) <;> simp [valueTexts]

theorem wellFormed_redactUnless (options : CollectOptions) (field : StringField) :
    (redactUnless options.includeSensitive field).WellFormed ↔
      (options.includeSensitive = true → field.WellFormed) := by
  rw [redactUnless]
  cases options.includeSensitive <;> simp

theorem allUtf8_sensitive (options : CollectOptions) (texts : List Bytes) :
    AllUtf8 (sensitive options texts) ↔ (options.includeSensitive = true → AllUtf8 texts) := by
  rw [sensitive]
  cases options.includeSensitive <;> simp

variable (env : Env)

theorem wellFormed_readStringField (path : Bytes) (trimValue : Bool) :
    ((readStringField path trimValue).run env).WellFormed ↔ ∀ text ∈ env.line path, Utf8 text := by
  rw [run_readStringField]
  cases env.line path with
  | none => simp
  | some line => cases trimValue <;> simp [utf8_trim]

theorem wellFormed_readSymlinkBasenameField (path : Bytes) :
    ((readSymlinkBasenameField path).run env).WellFormed ↔
      ∀ target ∈ env (.readSymlink path), Utf8 (basename target) := by
  rw [readSymlinkBasenameField, run_bind, readSymlinkTarget, ask, run_call]
  cases env (.readSymlink path) with
  | none => simp
  | some target => simp

@[simp] theorem allUtf8_lineTexts_nil : AllUtf8 (env.lineTexts []) := nofun

@[simp] theorem allUtf8_lineTexts_cons (path : Bytes) (paths : List Bytes) :
    AllUtf8 (env.lineTexts (path :: paths)) ↔
      (∀ text ∈ env.line path, Utf8 text) ∧ AllUtf8 (env.lineTexts paths) := by
  rw [Env.lineTexts, List.filterMap_cons]
  cases env.line path <;> simp [Env.lineTexts]

@[simp] theorem allUtf8_linkTexts_nil : AllUtf8 (env.linkTexts []) := nofun

@[simp] theorem allUtf8_linkTexts_cons (path : Bytes) (paths : List Bytes) :
    AllUtf8 (env.linkTexts (path :: paths)) ↔
      (∀ target ∈ env (.readSymlink path), Utf8 (basename target)) ∧ AllUtf8 (env.linkTexts paths) := by
  rw [Env.linkTexts, List.filterMap_cons]
  cases env (.readSymlink path) <;> simp [Env.linkTexts]

end Fields

/-! ## Sections -/

section Sections

variable (env : Env) (options : CollectOptions)

theorem wellFormed_os :
    ((collectOs options).run env).node.WellFormed ↔ AllUtf8 (env.osTexts options) := by
  have hrelease : ∀ keys, (osReleaseField ((readFile (etcPath options "/os-release")).run env)
      keys).WellFormed ↔ (stringFromMap (parseOsRelease ((env.text (etcPath options
        "/os-release")).getD [])) keys).WellFormed := by
    intro keys
    rw [run_readFile, osReleaseField]
    cases env.text (etcPath options "/os-release") with
    | none =>
      have hempty : parseOsRelease [] = ∅ := rfl
      rw [if_pos (env.failure_ne_ok _), Option.getD_none, hempty]
      exact iff_of_true (wellFormed_unavailable _) (wellFormed_stringFromMap_empty keys)
    | some text => rfl
  have hendian : Utf8 (if (env .target).littleEndian then "little" else "big") := by
    split <;> decide
  simp only [collectOs, OsInfo.node, run_bind, run_call, run_pure, Node.wellFormed_record,
    List.forall_mem_cons, Node.wellFormed_string, Node.wellFormed_u64, wellFormed_redactUnless,
    wellFormed_readStringField, hrelease, wellFormed_ofValue]
  rw [Env.osTexts, Env.unameTexts]
  cases env .uname with
  | none =>
    simp only [unameField, wellFormed_unavailable, allUtf8_append, allUtf8_nil,
      allUtf8_valueTexts_cons, allUtf8_valueTexts_nil, allUtf8_sensitive, allUtf8_lineTexts_cons,
      allUtf8_lineTexts_nil]
    tauto
  | some uts =>
    simp only [unameField, wellFormed_ofValue, allUtf8_append, allUtf8_cons, allUtf8_nil,
      allUtf8_valueTexts_cons, allUtf8_valueTexts_nil, allUtf8_sensitive, allUtf8_lineTexts_cons,
      allUtf8_lineTexts_nil]
    tauto

theorem wellFormed_firstField (accept : Bytes → Bool) (texts : List Bytes) :
    (firstField accept texts).WellFormed ↔ AllUtf8 (texts.find? accept).toList := by
  rw [firstField]
  cases texts.find? accept <;> simp

/-- The vendor of the hypervisor in the processor section. -/
theorem wellFormed_cpuHypervisorVendor (status : Status) :
    ((cpuHypervisorVendor options (env.firstBlock options) (isVirtualizedField
      (wordSet (firstFlags (env.firstBlock options))) status)).run env).WellFormed ↔
        AllUtf8 (env.vendorTexts options) := by
  rw [Env.vendorTexts, cpuHypervisorVendor]
  have hvendor : stringFromMap (env.firstBlock options) ["Hypervisor vendor"] =
      match mapValue (env.firstBlock options) "Hypervisor vendor" with
      | some vendor => .ofValue vendor
      | none => .unavailable .notFound := by
    rw [stringFromMap, List.findSome?_cons]
    cases mapValue (env.firstBlock options) "Hypervisor vendor" <;> rfl
  rw [hvendor]
  cases mapValue (env.firstBlock options) "Hypervisor vendor" with
  | some vendor => simp
  | none =>
    by_cases hword : bytes "hypervisor" ∈ wordSet (firstFlags (env.firstBlock options))
    · have hne : wordSet (firstFlags (env.firstBlock options)) ≠ ∅ := Finset.ne_empty_of_mem hword
      have htrue : isVirtualizedField (wordSet (firstFlags (env.firstBlock options))) status =
          .ofValue true := by
        rw [isVirtualizedField, if_pos hne, decide_eq_true hword]
      rw [htrue]
      dsimp only
      rw [if_pos hword, ← wellFormed_firstField, ← run_firstExistingHypervisorVendor]
      rfl
    · have hfalse : ((isVirtualizedField (wordSet (firstFlags (env.firstBlock options)))
          status).valid && (isVirtualizedField (wordSet (firstFlags (env.firstBlock options)))
            status).value) = false := by
        rw [isVirtualizedField, decide_eq_false hword]
        split <;> rfl
      dsimp only
      rw [if_neg hword, hfalse]
      exact iff_of_true (wellFormed_unavailable _) allUtf8_nil

/-- The sibling masks of the topology. -/
theorem wellFormed_cpuTopology (blocks : List KeyValueMap) :
    (∀ entry ∈ (cpuTopology options blocks).run env, entry.node.WellFormed) ↔
      ∀ cpu ∈ env.cpuDirs options, AllUtf8 (env.lineTexts
        [joinPath (joinPath cpu.2 "topology") "thread_siblings",
          joinPath (joinPath cpu.2 "topology") "core_siblings"]) := by
  rw [run_cpuTopology]
  by_cases hdirs : env.cpuDirs options = []
  · rw [if_pos hdirs, hdirs]
    refine iff_of_true ?_ nofun
    rw [addCpuinfoTopology, List.forall_mem_filterMap]
    intro block _ entry hentry
    obtain ⟨number, -, rfl⟩ := Option.map_eq_some_iff.1 hentry
    simp [CpuTopologyEntry.node]
  · rw [if_neg hdirs, List.forall_mem_map]
    refine forall₂_congr fun cpu _ => ?_
    simp [cpuTopologyEntry, CpuTopologyEntry.node, wellFormed_readStringField]

theorem wellFormed_cpu :
    ((collectCpu options).run env).node.WellFormed ↔ AllUtf8 (env.cpuTexts options) := by
  have harch : ((cpuArch.run env).1).WellFormed ↔ AllUtf8 ((env .uname).map Utsname.machine).toList := by
    rw [cpuArch, run_bind, run_call]
    cases env .uname <;> simp
  simp only [collectCpu, cpuDetails, CpuInfo.node, run_bind, run_call, run_pure, cpuBlocks_eq,
    Node.wellFormed_record, List.forall_mem_cons, Node.wellFormed_string, Node.wellFormed_u64,
    Node.wellFormed_bool, Node.wellFormed_text, Node.wellFormed_list, List.forall_mem_map,
    wellFormed_cpuTopology, harch]
  rw [← Env.firstBlock, wellFormed_cpuHypervisorVendor, Env.cpuTexts]
  simp [and_assoc]

theorem findFeatureSource_raw (block : KeyValueMap) :
    (findFeatureSource block).raw =
      (([("flags" : Bytes), "Features", "isa"].findSome? (mapValue block))).getD [] := by
  rw [findFeatureSource, List.findSome?_cons, List.findSome?_cons, List.findSome?_cons,
    List.findSome?_nil]
  cases mapValue block "flags" with
  | some line => rfl
  | none =>
    cases mapValue block "Features" with
    | some line => rfl
    | none => cases mapValue block "isa" <;> rfl

/-- The raw flags are the value of the first key with a value. -/
theorem wellFormed_rawFlags (block : KeyValueMap) :
    (if (findFeatureSource block).raw = [] then noFeatures .notFound
      else featuresOf (findFeatureSource block)).rawFlags.WellFormed ↔
        (stringFromMap block ["flags", "Features", "isa"]).WellFormed := by
  have hraw := findFeatureSource_raw block
  rw [wellFormed_stringFromMap]
  cases hline : ([("flags" : Bytes), "Features", "isa"].findSome? (mapValue block)) with
  | none =>
    rw [hline, Option.getD_none] at hraw
    rw [if_pos hraw]
    exact iff_of_true (wellFormed_unavailable _) nofun
  | some line =>
    obtain ⟨key, -, hvalue⟩ := List.exists_of_findSome?_eq_some hline
    rw [hline, Option.getD_some] at hraw
    rw [if_neg (hraw ▸ mapValue_ne_nil hvalue)]
    have hfield : (featuresOf (findFeatureSource block)).rawFlags =
        .ofValue (findFeatureSource block).raw := rawFlags_featuresOf _ _
    rw [hfield, hraw]
    simp

theorem wellFormed_isa :
    ((collectIsa options).run env).node.WellFormed ↔ AllUtf8 (env.isaTexts options) := by
  have hnode : ((collectIsa options).run env).node.WellFormed ↔
      ((collectIsa options).run env).rawFlags.WellFormed := by
    simp only [IsaFeatures.node, IsaFeatures.x86Members, IsaFeatures.armMembers,
      IsaFeatures.riscvMembers, List.cons_append, List.nil_append, Node.wellFormed_record,
      List.forall_mem_cons, Node.wellFormed_bool, Node.wellFormed_string, true_and]
    exact and_iff_left (List.forall_mem_nil _)
  rw [hnode, Env.isaTexts, allUtf8_valueTexts_cons, and_iff_left (allUtf8_valueTexts_nil _),
    Env.firstBlock, Env.cpuBlocks, run_collectIsa]
  cases env.text (procPath options "/cpuinfo") with
  | none => exact iff_of_true (wellFormed_unavailable _) (wellFormed_stringFromMap_empty _)
  | some text =>
    dsimp only
    cases parseColonBlocks text with
    | nil => exact iff_of_true (wellFormed_unavailable _) (wellFormed_stringFromMap_empty _)
    | cons first rest => exact wellFormed_rawFlags first

theorem utf8_sharedList (dir : UInt64 × Bytes) :
    (∀ list ∈ env.sharedList dir, Utf8 list) ↔
      AllUtf8 (env.lineTexts [joinPath dir.2 "shared_cpu_list"]) := by
  rw [Env.sharedList, allUtf8_lineTexts_cons]
  cases env.line (joinPath dir.2 "shared_cpu_list") <;> simp [utf8_trim]

/-- A directory that was dropped has the sharing list of one that was kept, or one that looks like a
missing list. -/
theorem utf8_keptDirs_iff :
    (∀ dir ∈ env.keptDirs options, ∀ list ∈ env.sharedList dir, Utf8 list) ↔
      ∀ dir ∈ env.cacheDirs options, ∀ list ∈ env.sharedList dir, Utf8 list := by
  constructor
  · intro h dir hdir list hlist
    obtain ⟨kept, hkept, heq⟩ := exists_kept (fun dir => cacheKey (env.cacheAt dir)) hdir
    have hsharing := ((cacheKey_cacheAt_iff env).1 heq).2.2.2
    rw [sharing_of_sharedList env hlist] at hsharing
    rw [← hsharing]
    cases hshared : env.sharedList kept with
    | some list' =>
      rw [sharing_of_sharedList env hshared]
      exact h kept hkept list' hshared
    | none =>
      have hdigits : Ascii (decimal kept.1.toUInt32.toNat) := forall_decimal (by decide) _
      rw [sharing_of_no_sharedList env hshared, utf8_ascii_append (by decide)]
      exact hdigits.utf8
  · exact fun h dir hdir => h dir (mem_of_mem_keepFirst _ hdir)

theorem wellFormed_cache :
    ((collectCache options).run env).node.WellFormed ↔ AllUtf8 (env.cacheTexts options) := by
  have hentry : ∀ dir, (env.cacheAt dir).node.WellFormed ↔
      ∀ list ∈ env.sharedList dir, Utf8 list := by
    intro dir
    rw [utf8_sharedList]
    simp [Env.cacheAt, cacheIndex, CacheInfo.node, wellFormed_readStringField]
  rw [CacheList.node, run_collectCache, Env.cacheTexts, allUtf8_flatMap]
  simp only [Node.wellFormed_record, List.forall_mem_singleton, Node.wellFormed_list,
    List.forall_mem_map, hentry, ← utf8_sharedList]
  exact utf8_keptDirs_iff env options

theorem wellFormed_memory :
    ((collectMemory options).run env).node.WellFormed ↔ AllUtf8 (env.memoryTexts options) := by
  have hnodes : (∀ node ∈ (collectNumaNodes options).run env, node.node.WellFormed) ↔
      AllUtf8 (env.memoryTexts options) := by
    rw [collectNumaNodes, run_bind, run_listDir, run_gather, List.forall_mem_filterMap,
      Env.memoryTexts, allUtf8_flatMap]
    refine forall₂_congr fun entry _ => ?_
    rw [numaNode]
    cases numberedEntry "node" entry.name with
    | none => simp
    | some id => simp [NumaNodeInfo.node, wellFormed_readStringField]
  simp [collectMemory, MemoryInfo.node, hnodes]

theorem wellFormed_pci :
    ((collectPci options).run env).node.WellFormed ↔ AllUtf8 (env.pciTexts options) := by
  simp only [collectPci, PciDeviceList.node, run_bind, run_listDir, run_gather, run_pure,
    Node.wellFormed_record, List.forall_mem_singleton, Node.wellFormed_list, List.forall_mem_map,
    List.forall_mem_filterMap, Env.pciTexts, allUtf8_flatMap, pciRoot]
  refine forall₂_congr fun address _ => ?_
  rw [pciDevice, run_bind, pathIsDir, ask, run_call, run_ite]
  by_cases hdir : env (.isDirectory (joinPath (sysPath options "/bus/pci/devices")
      address.name)) = true
  · by_cases hresource : env (.pathExists (joinPath (joinPath (sysPath options "/bus/pci/devices")
        address.name) "resource")) = .yes
    · simp [hdir, hresource, PciDeviceInfo.node, wellFormed_readStringField,
        wellFormed_readSymlinkBasenameField, pathExists, and_assoc]
    · simp [hdir, hresource, PciDeviceInfo.node, wellFormed_readStringField,
        wellFormed_readSymlinkBasenameField, pathExists, and_assoc]
  · simp [hdir]

theorem wellFormed_block :
    ((collectBlock options).run env).node.WellFormed ↔ AllUtf8 (env.blockTexts options) := by
  simp only [collectBlock, BlockDeviceList.node, run_bind, run_listDir, run_gather, run_pure,
    Node.wellFormed_record, List.forall_mem_singleton, Node.wellFormed_list, List.forall_mem_map,
    List.forall_mem_filterMap, Env.blockTexts, allUtf8_flatMap]
  refine forall₂_congr fun entry _ => ?_
  rw [blockDevice]
  by_cases hpseudo : isPseudoBlockDevice entry.name = true
  · simp [hpseudo]
  · rw [if_neg hpseudo, run_bind, pathIsDir, ask, run_call, run_ite]
    by_cases hdir : env (.isDirectory (joinPath (sysPath options "/block") entry.name)) = true
    · simp [hpseudo, hdir, BlockDeviceInfo.node, wellFormed_readStringField]
      -- The device path is the first of the texts and the third of the members.
      rintro -
      constructor
      · rintro ⟨hmodel, hvendor, hpath, hscheduler⟩
        exact ⟨hpath, hmodel, hvendor, hscheduler⟩
      · rintro ⟨hpath, hmodel, hvendor, hscheduler⟩
        exact ⟨hmodel, hvendor, hpath, hscheduler⟩
    · simp [hdir]

/-- The addresses that were collected for an interface are well-formed. -/
def AddressesWellFormed (addresses : AddressMap) (name : Bytes) : Prop :=
  AllUtf8 ((addresses.lookup name).getD {}).ipv4 ∧ AllUtf8 ((addresses.lookup name).getD {}).ipv6

theorem addressesWellFormed_addAddress (addresses : AddressMap) (iface : InterfaceAddress)
    (name : Bytes) :
    AddressesWellFormed (addAddress addresses iface) name ↔
      AddressesWellFormed addresses name ∧ ∀ text ∈ addressOf name iface, Utf8 text := by
  rw [addAddress, addressOf]
  by_cases hname : iface.name = name
  · subst hname
    cases iface.address with
    | none => simp
    | some address =>
      obtain ⟨family, text⟩ := address
      cases text with
      | none => cases family <;> simp
      | some text =>
        cases family <;> simp [AddressesWellFormed, Finmap.lookup_insert]
        · tauto
        · tauto
  · cases iface.address with
    | none => simp
    | some address =>
      obtain ⟨family, text⟩ := address
      cases text with
      | none => cases family <;> simp
      | some text =>
        cases family <;> simp [AddressesWellFormed, Finmap.lookup_insert_of_ne, hname, Ne.symm hname]

theorem addressesWellFormed_foldl (interfaces : List InterfaceAddress) (addresses : AddressMap)
    (name : Bytes) :
    AddressesWellFormed (interfaces.foldl addAddress addresses) name ↔
      AddressesWellFormed addresses name ∧ AllUtf8 (interfaces.filterMap (addressOf name)) := by
  induction interfaces generalizing addresses with
  | nil => simp
  | cons iface interfaces ih =>
    rw [List.foldl_cons, ih, addressesWellFormed_addAddress, List.filterMap_cons, and_assoc]
    cases addressOf name iface <;> simp

theorem addressesWellFormed_collectAddresses (name : Bytes) :
    AddressesWellFormed ((collectAddresses options).run env) name ↔
      AllUtf8 (env.addressTexts options name) := by
  have hempty : AddressesWellFormed ∅ name := ⟨allUtf8_nil, allUtf8_nil⟩
  rw [collectAddresses, run_ite, Env.addressTexts]
  by_cases hroot : options.sysfsRoot ≠ "/sys"
  · rw [if_pos hroot, if_pos hroot]
    exact iff_of_true hempty allUtf8_nil
  · rw [if_neg hroot, if_neg hroot, run_bind, ask, run_call]
    cases env .getifaddrs with
    | none => exact iff_of_true hempty allUtf8_nil
    | some interfaces =>
      rw [run_pure, addressesWellFormed_foldl]
      exact and_iff_right hempty

theorem wellFormed_addressesField (texts : Option AddressTexts) (family : AddressTexts → List Bytes)
    (hnone : family {} = []) :
    (addressesField texts family).WellFormed ↔ AllUtf8 (family (texts.getD {})) := by
  cases texts with
  | none =>
    rw [Option.getD_none, hnone]
    exact iff_of_true (wellFormed_unavailable _) allUtf8_nil
  | some texts =>
    rw [addressesField, wellFormed_ofValue, Option.getD_some]
    exact Json.utf8_commas (family texts)

theorem wellFormed_net :
    ((collectNet options).run env).node.WellFormed ↔ AllUtf8 (env.netTexts options) := by
  simp only [collectNet, NetInterfaceList.node, run_bind, run_listDir, run_gather, run_pure,
    Node.wellFormed_record, List.forall_mem_singleton, Node.wellFormed_list, List.forall_mem_map,
    List.forall_mem_filterMap, Env.netTexts, allUtf8_flatMap]
  refine forall₂_congr fun entry _ => ?_
  rw [netInterface, run_bind, pathIsDir, ask, run_call, run_ite]
  by_cases hdir : env (.isDirectory (joinPath (sysPath options "/class/net") entry.name)) = true
  · simp [hdir, NetInterfaceInfo.node, wellFormed_readStringField,
      wellFormed_readSymlinkBasenameField, wellFormed_redactUnless, wellFormed_addressesField,
      allUtf8_sensitive, ← addressesWellFormed_collectAddresses, AddressesWellFormed]
    tauto
  · simp [hdir]

theorem wellFormed_thermal :
    ((collectThermal options).run env).node.WellFormed ↔ AllUtf8 (env.thermalTexts options) := by
  simp only [collectThermal, ThermalInfo.node, run_bind, run_listDir, run_gather, run_pure,
    Node.wellFormed_record, List.forall_mem_singleton, Node.wellFormed_list, List.forall_mem_map,
    List.forall_mem_filterMap, Env.thermalTexts, allUtf8_flatMap]
  refine forall₂_congr fun entry _ => ?_
  rw [thermalZone]
  by_cases hzone : startsWith entry.name "thermal_zone" = true
  · simp [hzone, ThermalZoneInfo.node, wellFormed_readStringField]
  · simp [hzone]

theorem batteryText_supplyAt (root name : Bytes) :
    (env.supplyAt root name).batteryText = (env.batteryStatus (joinPath root name)).map trim := by
  rw [Supply.batteryText, Supply.isBattery, supplyAt_type, supplyAt_status, Env.batteryStatus]
  by_cases hbattery : (env.line (joinPath (joinPath root name) "type")).map trim = some (bytes "Battery")
  · rw [if_pos (decide_eq_true hbattery), if_pos hbattery]
  · rw [if_neg (fun h => hbattery (of_decide_eq_true h)), if_neg hbattery, Option.map_none]

/-- The status in the end is the first one found. -/
theorem wellFormed_foldl_powerSupply (root : Bytes) (entries : List EntryName) :
    (entries.foldl (fun scan entry => (powerSupply root scan entry).run env) {}).batteryStatus.WellFormed ↔
      ∀ text ∈ entries.findSome? fun entry => env.batteryStatus (joinPath root entry.name),
        Utf8 text := by
  have htext : (Supply.batteryText ∘ fun entry : EntryName => env.supplyAt root entry.name) =
      Option.map trim ∘ fun entry : EntryName => env.batteryStatus (joinPath root entry.name) :=
    funext fun entry => batteryText_supplyAt env root entry.name
  rw [Field.WellFormed, (foldl_powerSupply_tells env root entries).status, List.findSome?_map, htext,
    ← List.map_findSome?]
  cases entries.findSome? fun entry => env.batteryStatus (joinPath root entry.name) with
  | none => simp
  | some text => simp [utf8_trim]

theorem wellFormed_power :
    ((collectPower options).run env).node.WellFormed ↔ AllUtf8 (env.powerTexts options) := by
  have hscan := wellFormed_foldl_powerSupply env (sysPath options "/class/power_supply")
    (env.names (sysPath options "/class/power_supply"))
  simp [collectPower, PowerInfo.node, Env.powerTexts, wellFormed_readStringField, run_listDir,
    allUtf8_toList, hscan]

/-! ## GPUs -/

/-- A name is made of the numbers or of the address. -/
theorem wellFormed_gpuName {vendor id : StringField} {device : Bytes} (hvendor : vendor.WellFormed)
    (hid : id.WellFormed) (hdevice : Utf8 device) : (gpuName vendor id device).WellFormed := by
  rw [gpuName]
  split
  · obtain ⟨hv, hi⟩ := Bool.and_eq_true_iff.1 ‹_›
    rw [wellFormed_ofValue, utf8_split (by decide)]
    exact ⟨hvendor _ (value?_of_valid hv), hid _ (value?_of_valid hi)⟩
  · exact (wellFormed_ofValue device).2 hdevice

/-- The entry of a device has the texts of the device. -/
theorem wellFormed_gpuAt (device : Bytes) :
    (env.gpuAt options device).node.WellFormed ↔ AllUtf8 (env.deviceTexts options device) := by
  have hrender : (renderNodeField ((renderNodesByPci options).run env) device).WellFormed ↔
      AllUtf8 (lastEntry ((env.nodes options isRender).map
        fun node => (node.2, driPath options node.1)) device).toList := by
    rw [renderNodeField, run_renderNodesByPci, lookup_blockOf]
    cases lastEntry ((env.nodes options isRender).map
      fun node => (node.2, driPath options node.1)) device <;> simp
  have hread := fun name => wellFormed_readStringField env (joinPath (joinPath (pciRoot options) device) name)
    true
  simp only [Env.gpuAt, gpuFromPci, GpuInfo.node, run_bind, run_pure, Node.wellFormed_record,
    List.forall_mem_cons, Node.wellFormed_text, Node.wellFormed_string, Node.wellFormed_u64,
    Node.wellFormed_bool, wellFormed_initial, wellFormed_unavailable, wellFormed_ofValue,
    hread, wellFormed_readSymlinkBasenameField, hrender, Env.deviceTexts, allUtf8_cons,
    allUtf8_append, allUtf8_lineTexts_cons, allUtf8_lineTexts_nil, allUtf8_linkTexts_cons,
    allUtf8_linkTexts_nil, true_and, and_true, List.not_mem_nil, false_implies, implies_true]
  constructor
  · rintro ⟨-, hrender, hdevice, hvendor, hid, hdriver⟩
    exact ⟨hdevice, ⟨⟨hvendor, hid⟩, hdriver⟩, hrender⟩
  · rintro ⟨hdevice, ⟨⟨hvendor, hid⟩, hdriver⟩, hrender⟩
    have hname := wellFormed_gpuName ((hread "vendor").2 hvendor) ((hread "device").2 hid) hdevice
    exact ⟨hname, hrender, hdevice, hvendor, hid, hdriver⟩

/-- The entry of a card has the path of the card, too. -/
theorem wellFormed_cardGpu (node : Bytes × Bytes) :
    (env.cardGpu options node).node.WellFormed ↔
      Utf8 (driPath options node.1) ∧ AllUtf8 (env.deviceTexts options node.2) := by
  rw [← wellFormed_gpuAt, Env.cardGpu]
  simp [GpuInfo.node, drmCard_gpuAt]
  tauto

theorem wellFormed_gpu :
    ((collectGpu options).run env).node.WellFormed ↔ AllUtf8 (env.gpuTexts options) := by
  rw [GpuList.node, Env.gpuTexts, allUtf8_append, allUtf8_flatMap]
  simp only [Node.wellFormed_record, List.forall_mem_singleton, Node.wellFormed_list,
    List.forall_mem_map, List.forall_mem_append, forall_mem_collectGpu, wellFormed_gpuAt,
    wellFormed_cardGpu]
  constructor
  · rintro ⟨hcards, hdevices⟩
    have hdevice : ∀ node ∈ env.nodes options isCard, AllUtf8 (env.deviceTexts options node.2) := by
      intro node hnode
      obtain ⟨kept, hkept, heq⟩ := exists_kept Prod.snd hnode
      exact heq ▸ (hcards kept hkept).2
    refine ⟨List.forall_mem_map.2 fun node hnode => (hcards node hnode).1, hdevice, ?_⟩
    intro device hdisplay
    by_cases hcard : device ∈ (env.nodes options isCard).map Prod.snd
    · obtain ⟨node, hnode, rfl⟩ := List.mem_map.1 hcard
      exact hdevice node hnode
    · exact hdevices device hdisplay hcard
  · rintro ⟨hpaths, hcards, hdevices⟩
    refine ⟨fun node hnode => ⟨?_, ?_⟩, fun device hdevice _ => hdevices device hdevice⟩
    · exact List.forall_mem_map.1 hpaths node hnode
    · exact hcards node (mem_of_mem_keepFirst _ hnode)

theorem wellFormed_platform :
    ((collectPlatform options).run env).node.WellFormed ↔ AllUtf8 (env.platformTexts options) := by
  simp [collectPlatform, PlatformInfo.node, Env.platformTexts, wellFormed_readStringField]

theorem wellFormed_virtualization :
    ((collectVirtualization options).run env).node.WellFormed ↔
      AllUtf8 (env.virtualizationTexts options) := by
  simp [collectVirtualization, VirtualizationInfo.node, Env.virtualizationTexts,
    run_detectedHypervisorVendor, wellFormed_firstField]

theorem wellFormed_perf : ((collectPerf options).run env).node.WellFormed := by
  simp [collectPerf, PerfCounterInfo.node, PerfCounterAvailability.node]

/-- The section of a category is well-formed exactly when its texts are. -/
theorem wellFormed_collector (c : Category) :
    (c.node ((c.collector options).run env)).WellFormed ↔ AllUtf8 (env.texts options c) := by
  cases c with
  | os => exact wellFormed_os env options
  | cpu => exact wellFormed_cpu env options
  | isa => exact wellFormed_isa env options
  | cache => exact wellFormed_cache env options
  | memory => exact wellFormed_memory env options
  | pci => exact wellFormed_pci env options
  | gpu => exact wellFormed_gpu env options
  | perf => exact iff_of_true (wellFormed_perf env options) allUtf8_nil
  | block => exact wellFormed_block env options
  | net => exact wellFormed_net env options
  | thermal => exact wellFormed_thermal env options
  | power => exact wellFormed_power env options
  | virtualization => exact wellFormed_virtualization env options
  | platform => exact wellFormed_platform env options

end Sections

/-! ## The text of a report -/

/-- The text of a report is UTF-8 if and only if the texts its selected sections take from the
environment are. -/
theorem utf8_report_iff (arch : ArchType) (options : CollectOptions) (env : Env) :
    Utf8 ((collectReport arch options).run env).toJson ↔
      ∀ c, options.categories.Selects c → AllUtf8 (env.texts options c) := by
  have hcategories : ((collectReport arch options).run env).categories = options.categories := by
    rw [run_collectReport]
  rw [Report.utf8_toJson_iff, hcategories]
  refine forall₂_congr fun c hc => ?_
  rw [SystemInfo.nodeOf, run_report_section env options arch hc, wellFormed_collector]

/-- A product name with a byte that no encoding has. -/
theorem utf8_report_product :
    ¬ Utf8 ((collectReport .unknown { categories := .platform }).run (Env.ofFiles
      [("/sys/class/dmi/id/product_name", { content := bytes "Caf" ++ [0xFF] })])).toJson :=
  fun h => absurd (h.lt_of_mem (b := 0xFF) (by decide +kernel)) (by decide)

end Archspec
