import Archspec.CommandLines
import Archspec.CpuDirs
import Archspec.Gpus

/-!
# Alternate roots

The four roots make the collectors read a captured tree in place of the live one.  `Env.mounted` is
the machine on which the trees of the configured roots stand at `/proc`, `/sys`, `/etc` and `/dev`,
and which has no interface addresses of its own below another root than `/sys`.

The main result is `alternate_roots`: a collection from alternate roots is a collection with the
default ones on that machine, only that the paths the report names are those of the configured
roots.  Every reader commutes with the change of a path (`CollectOptions.reroot`), and so does the
composition of paths (`reroot_joinPath`), on the paths that collectors compose (`Placed`).
-/

namespace Archspec

open Lib Program

/-! ## Paths -/

/-- The path in place of a path below a default root; the mapping of `first_existing_rooted`. -/
def CollectOptions.reroot (options : CollectOptions) (path : Bytes) : Bytes :=
  if startsWith path "/proc" then procPath options (path.drop 5)
  else if startsWith path "/sys" then sysPath options (path.drop 4)
  else if startsWith path "/etc" then etcPath options (path.drop 4)
  else if startsWith path "/dev" then devPath options (path.drop 4)
  else path

/-- The same options with the default roots. -/
def CollectOptions.live (options : CollectOptions) : CollectOptions :=
  { options with procfsRoot := "/proc", sysfsRoot := "/sys", etcRoot := "/etc", devRoot := "/dev" }

/-- The default roots. -/
def defaultRoots : List Bytes := ["/proc", "/sys", "/etc", "/dev"]

/-- The suffix leads below a root. -/
def Below (suffix : Bytes) : Prop := suffix.head? = some 47 ∧ 2 ≤ suffix.length

instance (suffix : Bytes) : Decidable (Below suffix) := inferInstanceAs (Decidable (_ ∧ _))

/-- A path composed from a default root. -/
def Placed (path : Bytes) : Prop :=
  ∃ root ∈ defaultRoots, ∃ suffix, Below suffix ∧ path = root ++ suffix

theorem Below.append {suffix : Bytes} (h : Below suffix) (more : Bytes) :
    Below (suffix ++ more) := by
  obtain ⟨hhead, hlength⟩ := h
  rw [Below, List.head?_append, hhead, List.length_append]
  exact ⟨rfl, by omega⟩

/-- Below a root, the composition of a longer suffix. -/
theorem joinPath_append {suffix : Bytes} (h : Below suffix) (root more : Bytes) :
    joinPath root (suffix ++ more) = joinPath root suffix ++ more := by
  obtain ⟨hhead, -⟩ := h
  cases suffix with
  | nil => cases hhead
  | cons c s =>
    obtain rfl := Option.some.inj hhead
    simp only [List.cons_append, joinPath, if_true]
    split
    · rfl
    · rw [List.append_assoc, List.cons_append]

theorem two_le_length_joinPath {suffix : Bytes} (h : Below suffix) (root : Bytes) :
    2 ≤ (joinPath root suffix).length := by
  obtain ⟨hhead, hlength⟩ := h
  cases suffix with
  | nil => cases hhead
  | cons c s =>
    obtain rfl := Option.some.inj hhead
    simp only [joinPath, if_true]
    split
    · exact hlength
    · rw [List.length_append]
      omega

/-- Behind a path of two bytes or more, `joinPath` puts the suffix, led by one `/`. -/
theorem joinPath_eq {path suffix : Bytes} (h : 2 ≤ path.length) :
    joinPath path suffix =
      path ++ (if suffix = [] ∨ suffix.head? = some 47 then suffix else 47 :: suffix) := by
  have hpath : ¬ (path = [] ∨ path = "/") := by
    rintro (rfl | rfl)
    · exact absurd h (by decide)
    · exact absurd h (by decide)
  cases suffix with
  | nil => simp [joinPath]
  | cons c s => simp [joinPath, hpath, apply_ite (path ++ ·)]

section Paths

variable (options : CollectOptions)

/-- A path below a default root in the place of the configured one. -/
theorem reroot_root {root : Bytes} (hroot : root ∈ defaultRoots) :
    ∃ root', ∀ suffix, options.reroot (root ++ suffix) = joinPath root' suffix := by
  simp only [defaultRoots, List.mem_cons, List.not_mem_nil, or_false] at hroot
  obtain rfl | rfl | rfl | rfl := hroot
  · exact ⟨options.procfsRoot, fun suffix => rfl⟩
  · exact ⟨options.sysfsRoot, fun suffix => rfl⟩
  · exact ⟨options.etcRoot, fun suffix => rfl⟩
  · exact ⟨options.devRoot, fun suffix => rfl⟩

/-- A default root is itself in its place. -/
theorem joinPath_default {root suffix : Bytes} (hroot : root ∈ defaultRoots) (h : Below suffix) :
    joinPath root suffix = root ++ suffix := by
  have hlength : 2 ≤ root.length := by
    revert root
    decide
  rw [joinPath_eq hlength, if_pos (.inr h.1)]

@[simp] theorem Placed.join {path : Bytes} (h : Placed path) (suffix : Bytes) :
    Placed (joinPath path suffix) := by
  obtain ⟨root, hroot, below, hbelow, rfl⟩ := h
  have hlength : 2 ≤ (root ++ below).length := by
    rw [List.length_append]
    have := hbelow.2
    omega
  rw [joinPath_eq hlength, List.append_assoc]
  exact ⟨root, hroot, _, hbelow.append _, rfl⟩

/-- The composition of paths, below a default root. -/
@[simp] theorem reroot_joinPath {path : Bytes} (h : Placed path) (suffix : Bytes) :
    options.reroot (joinPath path suffix) = joinPath (options.reroot path) suffix := by
  obtain ⟨root, hroot, below, hbelow, rfl⟩ := h
  obtain ⟨root', hreroot⟩ := reroot_root options hroot
  have hlength : 2 ≤ (root ++ below).length := by
    rw [List.length_append]
    have := hbelow.2
    omega
  rw [joinPath_eq hlength, List.append_assoc, hreroot, hreroot, joinPath_append hbelow,
    joinPath_eq (two_le_length_joinPath hbelow root')]

variable {suffix : Bytes}

theorem placed_of_root {root : Bytes} (hroot : root ∈ defaultRoots) (h : Below suffix) :
    Placed (joinPath root suffix) := by
  rw [joinPath_default hroot h]
  exact ⟨root, hroot, suffix, h, rfl⟩

theorem placed_sysPath (h : Below suffix) : Placed (sysPath options.live suffix) :=
  placed_of_root (show bytes "/sys" ∈ defaultRoots by decide) h

theorem reroot_procPath (h : Below suffix) :
    options.reroot (procPath options.live suffix) = procPath options suffix := by
  have hjoin : joinPath "/proc" suffix = "/proc" ++ suffix := joinPath_default (by decide) h
  show options.reroot (joinPath "/proc" suffix) = _
  rw [hjoin]
  rfl

theorem reroot_sysPath (h : Below suffix) :
    options.reroot (sysPath options.live suffix) = sysPath options suffix := by
  have hjoin : joinPath "/sys" suffix = "/sys" ++ suffix := joinPath_default (by decide) h
  show options.reroot (joinPath "/sys" suffix) = _
  rw [hjoin]
  rfl

theorem reroot_etcPath (h : Below suffix) :
    options.reroot (etcPath options.live suffix) = etcPath options suffix := by
  have hjoin : joinPath "/etc" suffix = "/etc" ++ suffix := joinPath_default (by decide) h
  show options.reroot (joinPath "/etc" suffix) = _
  rw [hjoin]
  rfl

theorem reroot_devPath (h : Below suffix) :
    options.reroot (devPath options.live suffix) = devPath options suffix := by
  have hjoin : joinPath "/dev" suffix = "/dev" ++ suffix := joinPath_default (by decide) h
  show options.reroot (joinPath "/dev" suffix) = _
  rw [hjoin]
  rfl

end Paths

/-! ## The machine with mounted trees -/

/-- The machine with the trees of the configured roots in the default places. -/
def Env.mounted (env : Env) (options : CollectOptions) : Env
  | .openFile path => env (.openFile (options.reroot path))
  | .pathExists path => env (.pathExists (options.reroot path))
  | .isDirectory path => env (.isDirectory (options.reroot path))
  | .listDirectory path => env (.listDirectory (options.reroot path))
  | .readSymlink path => env (.readSymlink (options.reroot path))
  | .access path => env (.access (options.reroot path))
  | .getifaddrs => if options.sysfsRoot = "/sys" then env .getifaddrs else some []
  | call => env call

section Readers

variable (env : Env) (options : CollectOptions) (path : Bytes)

theorem mounted_openFile :
    env.mounted options (.openFile path) = env (.openFile (options.reroot path)) := rfl

theorem mounted_listDirectory :
    env.mounted options (.listDirectory path) = env (.listDirectory (options.reroot path)) := rfl

@[simp] theorem mounted_text :
    (env.mounted options).text path = env.text (options.reroot path) := rfl

@[simp] theorem mounted_line :
    (env.mounted options).line path = env.line (options.reroot path) := rfl

@[simp] theorem mounted_failure :
    (env.mounted options).failure path = env.failure (options.reroot path) := by
  unfold Env.failure
  rw [mounted_openFile]
  cases env (.openFile (options.reroot path)) <;> rfl

@[simp] theorem mounted_names :
    (env.mounted options).names path = env.names (options.reroot path) := by
  unfold Env.names
  rw [mounted_listDirectory]
  cases env (.listDirectory (options.reroot path)) <;> rfl

@[simp] theorem mounted_pathExists :
    (pathExists path).run (env.mounted options) = (pathExists (options.reroot path)).run env := rfl

@[simp] theorem mounted_pathIsDir :
    (pathIsDir path).run (env.mounted options) = (pathIsDir (options.reroot path)).run env := rfl

@[simp] theorem mounted_readSymlinkTarget :
    (readSymlinkTarget path).run (env.mounted options) =
      (readSymlinkTarget (options.reroot path)).run env := rfl

@[simp] theorem mounted_readParsed {α : Type} [Inhabited α] (parse : Bytes → Option α) :
    (readParsed parse path).run (env.mounted options) =
      (readParsed parse (options.reroot path)).run env := by
  rw [run_readParsed, run_readParsed, mounted_line, mounted_failure]

@[simp] theorem mounted_readFile :
    (readFile path).run (env.mounted options) = (readFile (options.reroot path)).run env := by
  rw [run_readFile, run_readFile, mounted_text, mounted_failure]

@[simp] theorem mounted_listDir :
    (listDir path).run (env.mounted options) = (listDir (options.reroot path)).run env := by
  rw [run_listDir, run_listDir, mounted_names]

@[simp] theorem mounted_readStringField (trimValue : Bool) :
    (readStringField path trimValue).run (env.mounted options) =
      (readStringField (options.reroot path) trimValue).run env :=
        mounted_readParsed env options path _

@[simp] theorem mounted_readU64Field (multiplier : UInt64) :
    (readU64Field path multiplier).run (env.mounted options) =
      (readU64Field (options.reroot path) multiplier).run env :=
        mounted_readParsed env options path _

@[simp] theorem mounted_readU32Field :
    (readU32Field path).run (env.mounted options) = (readU32Field (options.reroot path)).run env :=
  mounted_readParsed env options path _

@[simp] theorem mounted_readI64Field :
    (readI64Field path).run (env.mounted options) = (readI64Field (options.reroot path)).run env :=
  mounted_readParsed env options path _

@[simp] theorem mounted_readCpuListCountField :
    (readCpuListCountField path).run (env.mounted options) =
      (readCpuListCountField (options.reroot path)).run env := mounted_readParsed env options path _

@[simp] theorem mounted_readSizeBytesField :
    (readSizeBytesField path).run (env.mounted options) =
      (readSizeBytesField (options.reroot path)).run env := mounted_readParsed env options path _

@[simp] theorem mounted_readSymlinkBasenameField :
    (readSymlinkBasenameField path).run (env.mounted options) =
      (readSymlinkBasenameField (options.reroot path)).run env := by
  simp only [readSymlinkBasenameField, run_bind, mounted_readSymlinkTarget]
  cases (readSymlinkTarget (options.reroot path)).run env <;> rfl

end Readers

/-! ## The paths in a report -/

/-- A path in a field. -/
def Field.reroot (options : CollectOptions) (field : StringField) : StringField :=
  if field.valid then .ofValue (options.reroot field.value) else field

def PciDeviceInfo.reroot (options : CollectOptions) (device : PciDeviceInfo) : PciDeviceInfo :=
  { device with resourcePath := device.resourcePath.reroot options }

def GpuInfo.reroot (options : CollectOptions) (gpu : GpuInfo) : GpuInfo :=
  { gpu with
    drmCard := gpu.drmCard.reroot options
    renderNode := gpu.renderNode.reroot options }

def BlockDeviceInfo.reroot (options : CollectOptions) (block : BlockDeviceInfo) : BlockDeviceInfo :=
  { block with path := block.path.reroot options }

/-- The section of a category with the paths of the configured roots. -/
def Category.reroot (options : CollectOptions) : (c : Category) → c.Section → c.Section
  | pci, s => ⟨s.entries.map (·.reroot options)⟩
  | gpu, s => ⟨s.entries.map (·.reroot options)⟩
  | block, s => ⟨s.entries.map (·.reroot options)⟩
  | os, s | cpu, s | isa, s | cache, s | memory, s | perf, s | net, s | thermal, s | power, s
  | virtualization, s | platform, s => s

/-- A report with the paths of the configured roots. -/
def Report.reroot (options : CollectOptions) (report : Report) : Report :=
  { report with
    system :=
      { report.system with
        pciDevices := Category.pci.reroot options report.system.pciDevices
        gpuList := Category.gpu.reroot options report.system.gpuList
        blockDevices := Category.block.reroot options report.system.blockDevices } }

section Collectors

variable (env : Env) (options : CollectOptions)

@[simp] theorem Field.reroot_ofValue (path : Bytes) :
    Field.reroot options (.ofValue path) = .ofValue (options.reroot path) := rfl

@[simp] theorem Field.reroot_unavailable (status : Status) :
    Field.reroot options (.unavailable status) = .unavailable status := rfl

theorem Field.reroot_ite (c : Prop) [Decidable c] (f g : StringField) :
    Field.reroot options (if c then f else g) =
      if c then Field.reroot options f else Field.reroot options g := apply_ite _ c f g

theorem mounted_pciDevice {root : Bytes} (h : Placed root) (address : EntryName) :
    ((pciDevice root address).run (env.mounted options)).map (·.reroot options) =
      (pciDevice (options.reroot root) address).run env := by
  simp only [pciDevice, run_bind, run_ite, run_pure, mounted_pathIsDir, mounted_pathExists,
    mounted_readStringField, mounted_readSymlinkBasenameField, mounted_readI64Field, h, Placed.join,
    reroot_joinPath]
  rw [apply_ite (Option.map _)]
  simp only [Option.map_some, Option.map_none, PciDeviceInfo.reroot, Field.reroot_ite,
    Field.reroot_ofValue, Field.reroot_unavailable, h, Placed.join, reroot_joinPath]

theorem mounted_collectPci :
    Category.pci.reroot options ((collectPci options.live).run (env.mounted options)) =
      (collectPci options).run env := by
  have h : Below "/bus/pci/devices" := by decide
  simp [collectPci, Category.reroot, List.map_filterMap, mounted_pciDevice,
    placed_sysPath options h, reroot_sysPath options h]

theorem mounted_readBoolNumber (path : Bytes) :
    (readBoolNumber path).run (env.mounted options) =
      (readBoolNumber (options.reroot path)).run env := by
  simp only [readBoolNumber, run_bind, run_pure, mounted_readU64Field]

theorem below_slash (name : EntryName) : Below ("/" ++ name.name) := by
  refine ⟨rfl, ?_⟩
  have hname := List.length_pos_iff.2 name.ne_nil
  rw [List.length_append]
  show 2 ≤ 1 + name.name.length
  omega

theorem mounted_blockDevice (entry : EntryName) :
    ((blockDevice options.live entry).run (env.mounted options)).map (·.reroot options) =
      (blockDevice options entry).run env := by
  have h : Below "/block" := by decide
  simp only [blockDevice, run_bind, run_ite, run_pure, mounted_pathIsDir, mounted_readBoolNumber,
    mounted_readStringField, mounted_readU64Field, placed_sysPath options h, Placed.join,
    reroot_joinPath, reroot_sysPath options h]
  rw [apply_ite (Option.map _), apply_ite (Option.map _)]
  simp only [Option.map_some, Option.map_none, BlockDeviceInfo.reroot, Field.reroot_ofValue,
    reroot_devPath options (below_slash entry)]

theorem mounted_collectBlock :
    Category.block.reroot options ((collectBlock options.live).run (env.mounted options)) =
      (collectBlock options).run env := by
  have h : Below "/block" := by decide
  simp [collectBlock, Category.reroot, List.map_filterMap, mounted_blockDevice,
    reroot_sysPath options h]

theorem mounted_collectAddresses :
    (collectAddresses options.live).run (env.mounted options) =
      (collectAddresses options).run env := by
  unfold collectAddresses
  rw [run_ite, run_ite, if_neg (fun h => h rfl), run_bind, run_call]
  have hasked : env.mounted options .getifaddrs =
      if options.sysfsRoot = "/sys" then env .getifaddrs else some [] := rfl
  rw [hasked]
  by_cases h : options.sysfsRoot = "/sys"
  · rw [if_pos h, if_neg (not_not_intro h), run_bind, run_call]
    cases env .getifaddrs <;> rfl
  · rw [if_neg h, if_pos h]
    rfl

theorem mounted_netInterface (addresses : AddressMap) (entry : EntryName) :
    (netInterface options.live addresses entry).run (env.mounted options) =
      (netInterface options addresses entry).run env := by
  have h : Below "/class/net" := by decide
  simp only [netInterface, readSpeedMbps, run_bind, run_ite, run_pure, mounted_pathIsDir,
    mounted_readBoolNumber, mounted_readStringField, mounted_readU64Field, mounted_readI64Field,
    mounted_readSymlinkBasenameField, placed_sysPath options h, Placed.join, reroot_joinPath,
    reroot_sysPath options h]
  rfl

theorem mounted_collectNet :
    (collectNet options.live).run (env.mounted options) = (collectNet options).run env := by
  have h : Below "/class/net" := by decide
  simp only [collectNet, run_bind, run_gather, run_pure, mounted_collectAddresses, mounted_listDir,
    mounted_netInterface, reroot_sysPath options h]

theorem mounted_collectThermal :
    (collectThermal options.live).run (env.mounted options) = (collectThermal options).run env := by
  have h : Below "/class/thermal" := by decide
  simp only [collectThermal, thermalZone, run_bind, run_ite, run_gather, run_pure, mounted_listDir,
    mounted_readStringField, placed_sysPath options h, Placed.join, reroot_joinPath,
    reroot_sysPath options h]

theorem mounted_firstU64 (convert : UInt64 → UInt64) (lastStatus : Status) (paths : List Bytes) :
    (firstU64 convert lastStatus paths).run (env.mounted options) =
      (firstU64 convert lastStatus (paths.map options.reroot)).run env := by
  induction paths generalizing lastStatus with
  | nil => rfl
  | cons path paths ih =>
    simp only [firstU64, List.map_cons, run_bind, run_ite, run_pure, mounted_readU64Field, ih]

theorem mounted_powerSupply {root : Bytes} (h : Placed root) (scan : PowerScan)
    (entry : EntryName) :
    (powerSupply root scan entry).run (env.mounted options) =
      (powerSupply (options.reroot root) scan entry).run env := by
  simp only [powerSupply, keepValid, run_bind, run_ite, run_pure, mounted_readStringField,
    mounted_readU64Field, h, Placed.join, reroot_joinPath]

theorem mounted_collectPower :
    (collectPower options.live).run (env.mounted options) = (collectPower options).run env := by
  have h : Below "/class/power_supply" := by decide
  have hfreq : Below "/devices/system/cpu/cpu0/cpufreq" := by decide
  simp only [collectPower, readKhzAsMhz, run_bind, run_foldlM, run_pure, mounted_listDir,
    mounted_powerSupply, mounted_firstU64, mounted_readStringField, List.map_cons, List.map_nil,
    placed_sysPath options h, placed_sysPath options hfreq, reroot_joinPath,
    reroot_sysPath options h, reroot_sysPath options hfreq]

theorem mounted_collectSecureBoot :
    (collectSecureBoot options.live).run (env.mounted options) =
      (collectSecureBoot options).run env := by
  have h : Below "/firmware/efi/efivars" := by decide
  simp only [collectSecureBoot, run_bind, mounted_listDir, reroot_sysPath options h]
  cases List.find? (fun entry => startsWith entry.name "SecureBoot-")
    ((listDir (sysPath options "/firmware/efi/efivars")).run env) with
  | none => rfl
  | some entry =>
    simp only [run_bind, run_pure, mounted_readFile, placed_sysPath options h, reroot_joinPath,
      reroot_sysPath options h]

theorem mounted_collectPlatform :
    (collectPlatform options.live).run (env.mounted options) =
      (collectPlatform options).run env := by
  have h : Below "/class/dmi/id" := by decide
  have hefi : Below "/firmware/efi" := by decide
  simp only [collectPlatform, run_bind, run_ite, run_pure, mounted_readStringField,
    mounted_pathIsDir,
    mounted_collectSecureBoot, placed_sysPath options h, reroot_joinPath, reroot_sysPath options h,
    reroot_sysPath options hefi]

theorem mounted_collectOs :
    (collectOs options.live).run (env.mounted options) = (collectOs options).run env := by
  have hproc : Below "/cmdline" := by decide
  have hetc : Below "/os-release" := by decide
  simp only [collectOs, run_bind, run_pure, mounted_readStringField, mounted_readFile,
    reroot_procPath options hproc, reroot_etcPath options hetc]
  rfl

theorem mounted_numaNode {root : Bytes} (h : Placed root) (entry : EntryName) :
    (numaNode root entry).run (env.mounted options) =
      (numaNode (options.reroot root) entry).run env := by
  unfold numaNode
  cases numberedEntry "node" entry.name with
  | none => rfl
  | some id =>
    simp only [run_bind, run_pure, mounted_readStringField, mounted_readFile, h, Placed.join,
      reroot_joinPath]

theorem mounted_collectMemory :
    (collectMemory options.live).run (env.mounted options) = (collectMemory options).run env := by
  have hproc : Below "/meminfo" := by decide
  have hthp : Below "/kernel/mm/transparent_hugepage/enabled" := by decide
  have hnode : Below "/devices/system/node" := by decide
  have hline : (readFirstLine (sysPath options.live "/kernel/mm/transparent_hugepage/enabled")).run
      (env.mounted options) =
        (readFirstLine (sysPath options "/kernel/mm/transparent_hugepage/enabled")).run env := by
    rw [run_readFirstLine, run_readFirstLine, mounted_line, mounted_failure,
      reroot_sysPath options hthp]
  simp only [collectMemory, transparentHugepagesEnabled, collectNumaNodes, run_bind, run_gather,
    run_pure, hline, mounted_readFile, mounted_listDir, mounted_numaNode,
    placed_sysPath options hnode, reroot_sysPath options hnode, reroot_procPath options hproc]
  rfl

theorem mounted_readFlagLine (keys : List Bytes) :
    (readFlagLine keys options.live).run (env.mounted options) =
      (readFlagLine keys options).run env := by
  have h : Below "/cpuinfo" := by decide
  simp only [readFlagLine, run_bind, run_ite, run_pure, mounted_readFile, reroot_procPath options h]
  cases parseColonBlocks ((readFile (procPath options "/cpuinfo")).run env).value <;> rfl

theorem mounted_collectIsa :
    (collectIsa options.live).run (env.mounted options) = (collectIsa options).run env := by
  have h : Below "/cpuinfo" := by decide
  simp only [collectIsa, run_bind, run_ite, run_pure, mounted_readFile, reroot_procPath options h]
  cases parseColonBlocks ((readFile (procPath options "/cpuinfo")).run env).value <;> rfl

theorem mounted_collectPerf :
    (collectPerf options.live).run (env.mounted options) = (collectPerf options).run env := by
  have h : Below "/sys/kernel/perf_event_paranoid" := by decide
  have hcounter (config : UInt64) (allowProbe : Bool) :
      (probeHardwareCounter config allowProbe).run (env.mounted options) =
        (probeHardwareCounter config allowProbe).run env := by
    simp only [probeHardwareCounter, run_ite, run_bind, run_pure]
    rfl
  simp only [collectPerf, readPerfEventParanoid, fillHardwareCounterAvailability, readCpuFlags,
    run_bind, run_pure, hcounter, mounted_readFlagLine, mounted_readI64Field,
    reroot_procPath options h]
  rfl

theorem mounted_firstAccepted (accept : Bytes → Bool) (paths : List Bytes) :
    (firstAccepted accept paths).run (env.mounted options) =
      (firstAccepted accept (paths.map options.reroot)).run env := by
  induction paths with
  | nil => rfl
  | cons path paths ih =>
    simp only [firstAccepted, List.map_cons, run_bind, run_ite, run_pure, mounted_readStringField,
      ih]

theorem mounted_vendorPaths :
    [sysPath options.live "/hypervisor/type", sysPath options.live "/class/dmi/id/product_name",
        sysPath options.live "/class/dmi/id/sys_vendor"].map options.reroot =
      [sysPath options "/hypervisor/type", sysPath options "/class/dmi/id/product_name",
        sysPath options "/class/dmi/id/sys_vendor"] := by
  have htype : Below "/hypervisor/type" := by decide
  have hname : Below "/class/dmi/id/product_name" := by decide
  have hvendor : Below "/class/dmi/id/sys_vendor" := by decide
  simp only [List.map_cons, List.map_nil, reroot_sysPath options htype,
    reroot_sysPath options hname, reroot_sysPath options hvendor]

theorem mounted_collectVirtualization :
    (collectVirtualization options.live).run (env.mounted options) =
      (collectVirtualization options).run env := by
  have hkvm : Below "/kvm" := by decide
  have hgroups : Below "/kernel/iommu_groups" := by decide
  have haccess : (ask (.access (devPath options.live "/kvm"))).run (env.mounted options) =
      (ask (.access (devPath options "/kvm"))).run env := by
    show env (.access (options.reroot (devPath options.live "/kvm"))) = _
    rw [reroot_devPath options hkvm]
    rfl
  simp only [collectVirtualization, cpuFlags, detectedHypervisorVendor, iommuPresent, run_bind,
    run_ite, run_pure, haccess, mounted_readFlagLine, mounted_firstAccepted, mounted_vendorPaths,
    mounted_pathExists, mounted_pathIsDir, mounted_listDir, reroot_devPath options hkvm,
    reroot_sysPath options hgroups]

/-! ## The CPU directories -/

theorem lexLe_append (pre s t : Bytes) : lexLe (pre ++ s) (pre ++ t) = lexLe s t := by
  induction pre with
  | nil => rfl
  | cons c pre ih =>
    have hlt : decide (c < c) = false := decide_eq_false (UInt8.lt_irrefl c)
    simp only [List.cons_append, lexLe, hlt, beq_self_eq_true, Bool.false_or, Bool.true_and, ih]

/-- The directory of a CPU in the place of the configured root. -/
def rerootDir (cpu : UInt64 × Bytes) : UInt64 × Bytes := (cpu.1, options.reroot cpu.2)

theorem placed_cpuRoot : Placed (cpuRoot options.live) := placed_sysPath options (by decide)

theorem reroot_cpuRoot : options.reroot (cpuRoot options.live) = cpuRoot options :=
  reroot_sysPath options (by decide)

theorem placed_of_mem_cpuDirs {cpu : UInt64 × Bytes}
    (hcpu : cpu ∈ (env.mounted options).cpuDirs options.live) : Placed cpu.2 := by
  obtain ⟨entry, -, hentry⟩ := mem_cpuDirs.1 hcpu
  obtain ⟨id, -, rfl⟩ := Option.map_eq_some_iff.1 hentry
  exact (placed_cpuRoot options).join _

theorem mounted_cpuDirs :
    ((env.mounted options).cpuDirs options.live).map (rerootDir options) = env.cpuDirs options := by
  have hbelow : Below "/devices/system/cpu" := by decide
  have hroot : 2 ≤ (cpuRoot options.live).length := two_le_length_joinPath hbelow "/sys"
  have hroot' : 2 ≤ (cpuRoot options).length := two_le_length_joinPath hbelow options.sysfsRoot
  have hdir (entry : EntryName) :
      (cpuDirOf (cpuRoot options.live) entry).map (rerootDir options) =
        cpuDirOf (cpuRoot options) entry := by
    simp only [cpuDirOf, rerootDir, Option.map_map, Function.comp_def,
      reroot_joinPath options (placed_cpuRoot options), reroot_cpuRoot]
  unfold Env.cpuDirs
  rw [List.map_insertionSort cpuDirLe cpuDirLe, List.map_filterMap, mounted_names, reroot_cpuRoot]
  · simp only [hdir]
  · -- the directories have one root, so their order is that of the names
    intro a ha b hb
    obtain ⟨entry, -, hentry⟩ := List.mem_filterMap.1 ha
    obtain ⟨id, -, rfl⟩ := Option.map_eq_some_iff.1 hentry
    obtain ⟨entry', -, hentry'⟩ := List.mem_filterMap.1 hb
    obtain ⟨id', -, rfl⟩ := Option.map_eq_some_iff.1 hentry'
    simp only [cpuDirLe, rerootDir, reroot_joinPath options (placed_cpuRoot options),
      reroot_cpuRoot]
    rw [joinPath_eq hroot, joinPath_eq hroot, joinPath_eq hroot', joinPath_eq hroot', lexLe_append,
      lexLe_append]

theorem mounted_cpuTopologyEntry (byId : Finmap fun _ : UInt64 => KeyValueMap)
    {cpu : UInt64 × Bytes} (h : Placed cpu.2) :
    (cpuTopologyEntry byId cpu).run (env.mounted options) =
      (cpuTopologyEntry byId (rerootDir options cpu)).run env := by
  simp only [cpuTopologyEntry, rerootDir, run_bind, run_pure, mounted_readU32Field,
    mounted_readStringField, mounted_listDir, h, Placed.join, reroot_joinPath]

theorem mounted_cpuTopology (blocks : List KeyValueMap) :
    (cpuTopology options.live blocks).run (env.mounted options) =
      (cpuTopology options blocks).run env := by
  have hentries : ((env.mounted options).cpuDirs options.live).filterMap (fun cpu =>
      some ((cpuTopologyEntry (blocksByProcessor blocks) cpu).run (env.mounted options))) =
      (env.cpuDirs options).filterMap fun cpu =>
        some ((cpuTopologyEntry (blocksByProcessor blocks) cpu).run env) := by
    rw [← mounted_cpuDirs env options, List.filterMap_map]
    refine List.filterMap_congr fun cpu hcpu => ?_
    rw [mounted_cpuTopologyEntry env options _ (placed_of_mem_cpuDirs env options hcpu)]
    rfl
  simp only [cpuTopology, run_bind, run_gather, run_map, run_pure, run_cpuDirs, hentries]

theorem mounted_collectCpu :
    (collectCpu options.live).run (env.mounted options) = (collectCpu options).run env := by
  have hproc : Below "/cpuinfo" := by decide
  have hpresent : Below "/devices/system/cpu/present" := by decide
  have honline : Below "/devices/system/cpu/online" := by decide
  have hpossible : Below "/devices/system/cpu/possible" := by decide
  have harch : cpuArch.run (env.mounted options) = cpuArch.run env := by
    unfold cpuArch
    rw [run_bind, run_bind, run_call, run_call]
    have hasked : env.mounted options .uname = env .uname := rfl
    rw [hasked]
    cases env .uname <;> rfl
  have hvendor (first : KeyValueMap) (isVirtualized : BoolField) :
      (cpuHypervisorVendor options.live first isVirtualized).run (env.mounted options) =
        (cpuHypervisorVendor options first isVirtualized).run env := by
    simp only [cpuHypervisorVendor, firstExistingHypervisorVendor, run_ite, run_pure,
      mounted_firstAccepted, mounted_vendorPaths]
  simp only [collectCpu, cpuDetails, run_bind, run_pure, harch, hvendor, mounted_cpuTopology,
    mounted_readFile, mounted_readCpuListCountField, reroot_procPath options hproc,
    reroot_sysPath options hpresent, reroot_sysPath options honline,
    reroot_sysPath options hpossible]
  rfl

theorem mounted_cpuCaches (scan : CacheScan) {cpu : UInt64 × Bytes} (h : Placed cpu.2) :
    (cpuCaches scan cpu).run (env.mounted options) =
      (cpuCaches scan (rerootDir options cpu)).run env := by
  have hcache : Placed (joinPath cpu.2 "cache") := h.join _
  simp only [cpuCaches, cacheIndex, rerootDir, run_bind, run_foldlM, run_ite, run_pure,
    mounted_listDir, mounted_readU32Field, mounted_readU64Field, mounted_readSizeBytesField,
    mounted_readStringField, h, hcache, Placed.join, reroot_joinPath]

theorem mounted_collectCache :
    (collectCache options.live).run (env.mounted options) = (collectCache options).run env := by
  have hscan : ((env.mounted options).cpuDirs options.live).foldl
      (fun scan cpu => (cpuCaches scan cpu).run (env.mounted options)) {} =
      (env.cpuDirs options).foldl (fun scan cpu => (cpuCaches scan cpu).run env) {} := by
    rw [← mounted_cpuDirs env options, List.foldl_map]
    exact List.foldl_ext _ _ _ fun scan cpu hcpu =>
      mounted_cpuCaches env options scan (placed_of_mem_cpuDirs env options hcpu)
  simp only [collectCache, run_bind, run_foldlM, run_pure, run_cpuDirs, hscan]

/-! ## The GPUs -/

theorem placed_pciRoot : Placed (pciRoot options.live) := placed_sysPath options (by decide)

theorem reroot_pciRoot : options.reroot (pciRoot options.live) = pciRoot options :=
  reroot_sysPath options (by decide)

theorem placed_drmRoot : Placed (drmRoot options.live) := placed_sysPath options (by decide)

theorem reroot_drmRoot : options.reroot (drmRoot options.live) = drmRoot options :=
  reroot_sysPath options (by decide)

theorem reroot_driPath (name : Bytes) :
    options.reroot (driPath options.live name) = driPath options name :=
  reroot_devPath options (Below.append (by decide) name)

theorem mounted_nodes (isNode : Bytes → Bool) :
    (env.mounted options).nodes options.live isNode = env.nodes options isNode := by
  have hdevice (name : Bytes) :
      (env.mounted options).deviceOf options.live name = env.deviceOf options name := by
    show (env (.readSymlink (options.reroot (joinPath (drmRoot options.live) _)))).map basename = _
    rw [reroot_joinPath options (placed_drmRoot options), reroot_drmRoot]
    rfl
  have hnode (entry : EntryName) :
      (env.mounted options).nodeOf options.live isNode entry = env.nodeOf options isNode entry := by
    rw [Env.nodeOf, Env.nodeOf, hdevice]
  rw [Env.nodes, Env.nodes, mounted_names, reroot_drmRoot]
  exact List.filterMap_congr fun entry _ => hnode entry

theorem mounted_renderNodeField (device : Bytes) :
    Field.reroot options (renderNodeField
        ((renderNodesByPci options.live).run (env.mounted options)) device) =
      renderNodeField ((renderNodesByPci options).run env) device := by
  have hlookup (nodes : List (Bytes × Bytes)) :
      (nodes.map fun node => (node.2, driPath options node.1)).lookup device =
        ((nodes.map fun node => (node.2, driPath options.live node.1)).lookup device).map
          options.reroot := by
    induction nodes with
    | nil => rfl
    | cons node nodes ih =>
      simp only [List.map_cons, List.lookup_cons, ih]
      cases device == node.2 with
      | true => exact congrArg some (reroot_driPath options node.1).symm
      | false => rfl
  rw [run_renderNodesByPci, run_renderNodesByPci, mounted_nodes, renderNodeField, renderNodeField,
    lookup_blockOf, lookup_blockOf, lastEntry, lastEntry, ← List.map_reverse, ← List.map_reverse,
    hlookup]
  cases List.lookup device ((env.nodes options isRender).reverse.map
    fun node => (node.2, driPath options.live node.1)) <;> rfl

theorem mounted_fillHwmonFields {path : Bytes} (h : Placed path) :
    (fillHwmonFields path).run (env.mounted options) =
      (fillHwmonFields (options.reroot path)).run env := by
  have hwmon : Placed (joinPath path "hwmon") := h.join _
  simp only [fillHwmonFields, hwmonDirectory, keepValid, run_bind, run_foldlM, run_ite, run_map,
    run_pure, mounted_listDir, mounted_readU64Field, h, hwmon, Placed.join, reroot_joinPath]

theorem mounted_gpuAt (device : Bytes) :
    ((env.mounted options).gpuAt options.live device).reroot options =
      env.gpuAt options device := by
  have hpath : Placed (joinPath (pciRoot options.live) device) := (placed_pciRoot options).join _
  have hplace : options.reroot (joinPath (pciRoot options.live) device) =
      joinPath (pciRoot options) device := by
    rw [reroot_joinPath options (placed_pciRoot options), reroot_pciRoot]
  simp only [Env.gpuAt, gpuFromPci, firstU64File, run_bind, run_pure, mounted_readStringField,
    mounted_readSymlinkBasenameField, mounted_firstU64, mounted_fillHwmonFields, List.map_cons,
    List.map_nil, hpath, hplace, reroot_joinPath, GpuInfo.reroot, mounted_renderNodeField]
  rfl

theorem mounted_cardGpu (node : Bytes × Bytes) :
    ((env.mounted options).cardGpu options.live node).reroot options =
      env.cardGpu options node := by
  rw [Env.cardGpu, Env.cardGpu, ← mounted_gpuAt env options, ← reroot_driPath options]
  rfl

theorem mounted_displayDevices :
    (env.mounted options).displayDevices options.live = env.displayDevices options := by
  have hdisplay : (env.mounted options).isDisplay options.live = env.isDisplay options := by
    funext name
    have hpath : Placed (joinPath (pciRoot options.live) name) := (placed_pciRoot options).join _
    simp only [Env.isDisplay, mounted_line, hpath, placed_pciRoot, reroot_joinPath, reroot_pciRoot]
  rw [Env.displayDevices, Env.displayDevices, mounted_names, reroot_pciRoot, hdisplay]

theorem mounted_collectGpu :
    Category.gpu.reroot options ((collectGpu options.live).run (env.mounted options)) =
      (collectGpu options).run env := by
  have hentries : ((collectGpu options.live).run (env.mounted options)).entries.map
      (·.reroot options) = ((collectGpu options).run env).entries := by
    rw [run_collectGpu, run_collectGpu, mounted_nodes, mounted_displayDevices, List.map_append,
      List.map_map, List.map_map]
    congr 1
    · exact List.map_congr_left fun node _ => mounted_cardGpu env options node
    · exact List.map_congr_left fun device _ => mounted_gpuAt env options device
  rw [Category.reroot, hentries]

/-- Every collector: a section is that of the machine with the mounted trees. -/
theorem mounted_collector (c : Category) :
    c.reroot options ((c.collector options.live).run (env.mounted options)) =
      (c.collector options).run env := by
  cases c with
  | os => exact mounted_collectOs env options
  | cpu => exact mounted_collectCpu env options
  | isa => exact mounted_collectIsa env options
  | cache => exact mounted_collectCache env options
  | memory => exact mounted_collectMemory env options
  | pci => exact mounted_collectPci env options
  | gpu => exact mounted_collectGpu env options
  | perf => exact mounted_collectPerf env options
  | block => exact mounted_collectBlock env options
  | net => exact mounted_collectNet env options
  | thermal => exact mounted_collectThermal env options
  | power => exact mounted_collectPower env options
  | virtualization => exact mounted_collectVirtualization env options
  | platform => exact mounted_collectPlatform env options

end Collectors

/-! ## Whole runs -/

theorem Report.sectionOf_reroot (options : CollectOptions) (report : Report) (c : Category) :
    (report.reroot options).system.sectionOf c = c.reroot options (report.system.sectionOf c) := by
  cases c <;> rfl

theorem fresh_reroot (options : CollectOptions) (arch : ArchType) (c : Category) :
    c.reroot options ((SystemInfo.fresh arch).sectionOf c) =
      (SystemInfo.fresh arch).sectionOf c := by
  cases c <;> rfl

theorem mounted_collectReport (env : Env) (arch : ArchType) (options : CollectOptions) :
    (collectReport arch options).run env =
      ((collectReport arch options.live).run (env.mounted options)).reroot options := by
  have hsystem : (collect arch options).run env =
      (((collectReport arch options.live).run (env.mounted options)).reroot options).system := by
    refine SystemInfo.ext_sections fun c => ?_
    rw [Report.sectionOf_reroot, run_collectReport, run_collect_sectionOf, run_collect_sectionOf,
      apply_ite (c.reroot options), mounted_collector, fresh_reroot]
    rfl
  rw [run_collectReport, hsystem, run_collectReport]
  rfl

/-- The text report names no paths. -/
theorem reportText_reroot (options : CollectOptions) (report : Report) :
    reportText (report.reroot options) = reportText report := by
  simp only [reportText, sectionText, Report.reroot, Category.reroot, List.length_map]
  rfl

/-! ## The options of the tool -/

/-- The options of the tool that set a root. -/
def rootOptions : List Bytes := ["--procfs-root", "--sysfs-root", "--etc-root", "--dev-root"]

/-- The arguments without the options that set a root. -/
def withoutRoots (args : List Bytes) : List Bytes :=
  ((reading args).filter fun item => !rootOptions.contains item.name).flatMap Item.arguments

/-- The same settings with the default roots. -/
def Settings.live (settings : Settings) : Settings :=
  { settings with options := settings.options.live }

theorem live_update (settings : Settings) (item : Item) :
    (settings.update item).live =
      if item.name ∈ rootOptions then settings.live else settings.live.update item := by
  obtain ⟨name, value⟩ := item
  by_cases h : name ∈ rootOptions
  · rw [if_pos h]
    simp only [rootOptions, List.mem_cons, List.not_mem_nil, or_false] at h
    obtain rfl | rfl | rfl | rfl := h <;> rfl
  · rw [if_neg h]
    simp only [rootOptions, List.mem_cons, List.not_mem_nil, or_false, not_or] at h
    obtain ⟨hproc, hsys, hetc, hdev⟩ := h
    simp only [Settings.update, Settings.live, CollectOptions.live, List.mem_singleton, hproc, hsys,
      hetc, hdev, if_false]

/-- The settings without the root options are those with the default roots. -/
theorem live_foldl (items : List Item) (settings : Settings) :
    (items.foldl Settings.update settings).live =
      (items.filter fun item => !rootOptions.contains item.name).foldl Settings.update
        settings.live := by
  induction items generalizing settings with
  | nil => rfl
  | cons item items ih =>
    rw [List.foldl_cons, ih, live_update, List.filter_cons]
    by_cases h : item.name ∈ rootOptions
    · have hcontains : rootOptions.contains item.name = true := List.contains_iff_mem.2 h
      rw [if_pos h, hcontains, Bool.not_true, if_neg Bool.false_ne_true]
    · have hcontains : rootOptions.contains item.name = false := by simpa using h
      rw [if_neg h, hcontains, Bool.not_false, if_pos rfl, List.foldl_cons]

theorem parseArguments_withoutRoots {program : Bytes} {args : List Bytes} {settings : Settings}
    (h : parseArguments (program :: args) = .ok settings) :
    parseArguments (program :: withoutRoots args) = .ok settings.live := by
  obtain ⟨hitems, rfl⟩ := parseArguments_eq_ok_iff.1 h
  rw [live_foldl]
  apply parseArguments_arguments
  · intro item hitem
    have hmem := List.mem_of_mem_filter hitem
    exact complete_of_reading hmem (hitems item hmem).2
  · exact fun item hitem => hitems item (List.mem_of_mem_filter hitem)

/-- Collecting from alternate roots is collecting from the default roots on the machine on which the
trees of the alternate ones stand there, with the paths in the report led back to the configured
roots.  For the tool this means leaving the root options out: the JSON report is that of the mounted
machine up to these paths, and the text report is the same. -/
theorem alternate_roots (env : Env) (arch : ArchType) :
    (∀ options, (collectReport arch options).run env =
      ((collectReport arch options.live).run (env.mounted options)).reroot options) ∧
    ∀ program args settings, parseArguments (program :: args) = .ok settings →
      ∃ report,
        (main arch (program :: withoutRoots args)).run (env.mounted settings.options) =
          { exitCode := 0, stdout := settings.print report } ∧
        (main arch (program :: args)).run env =
          { exitCode := 0, stdout := settings.print (report.reroot settings.options) } ∧
        (settings.format ≠ "json" →
          settings.print (report.reroot settings.options) = settings.print report) := by
  refine ⟨mounted_collectReport env arch, fun program args settings h => ?_⟩
  refine ⟨(collectReport arch settings.options.live).run (env.mounted settings.options), ?_, ?_, ?_⟩
  · rw [main, parseArguments_withoutRoots h]
    dsimp only
    rw [run_bind, run_pure]
    rfl
  · rw [main, h, ← mounted_collectReport]
    dsimp only
    rw [run_bind, run_pure]
  · intro hformat
    rw [Settings.print, Settings.print, if_neg hformat, if_neg hformat, reportText_reroot]

end Archspec
