import Archspec.Cli
import Archspec.CpuDirs
import Archspec.Readings
import Archspec.Tree
import Archspec.Lib.Costs
import Mathlib.Algebra.Order.BigOperators.Group.List
import Mathlib.Algebra.Order.Ring.Nat

/-!
# How many calls a collection makes

A collection asks the system a fixed number of questions, and at most 18 more for each directory
entry that it is shown: the tool makes at most `100 + 18 * e` calls when the directories it lists
have `e` entries (`calls_bounded`).  Each collector has its own share of the 100
(`Category.fixedCalls`).
-/

namespace Archspec

open Lib Program

/-- The number of entries that an answer lists. -/
def Primitive.entries : (call : Primitive) → call.Reply → ℕ
  | .listDirectory _, some listing => listing.entries.length
  | _, _ => 0

/-- The run makes at most `n` calls, and 18 more for each directory entry that is listed. -/
abbrev Costs {α : Type} (env : Env) (n : ℕ) (p : Collect α) : Prop :=
  p.CallsAtMost env Primitive.entries 18 n

/-! ## The readers -/

section Readers

variable {env : Env}

theorem costs_ask (call : Primitive) : Costs env 1 (ask call) := callsAtMost_call call

theorem costs_pathExists (path : Bytes) : Costs env 1 (pathExists path) :=
  (costs_ask _).bind fun _ => callsAtMost_pure _ _

theorem costs_statusForPathError (path : Bytes) : Costs env 1 (statusForPathError path) :=
  (costs_ask _).bind fun _ => callsAtMost_pure _ _

/-- A file that cannot be opened costs a second call, for the reason. -/
theorem costs_readFile (path : Bytes) : Costs env 2 (readFile path) := by
  refine (costs_ask _).bind fun file => ?_
  cases file with
  | none => exact (costs_statusForPathError path).bind fun _ => callsAtMost_pure _ _
  | some file => exact callsAtMost_pure _ _

theorem costs_readFirstLine (path : Bytes) : Costs env 2 (readFirstLine path) := by
  refine (costs_ask _).bind fun file => ?_
  cases file with
  | none => exact (costs_statusForPathError path).bind fun _ => callsAtMost_pure _ _
  | some file => exact callsAtMost_pure _ _

theorem costs_readParsed {α : Type} [Inhabited α] (parse : Bytes → Option α) (path : Bytes) :
    Costs env 2 (readParsed parse path) := by
  refine (costs_readFirstLine path).bind fun result => ?_
  apply CallsAtMost.ite
  · exact callsAtMost_pure _ _
  · cases parse result.value with
    | none => exact callsAtMost_pure _ _
    | some value => exact callsAtMost_pure _ _

theorem costs_readStringField (path : Bytes) (trimValue : Bool) :
    Costs env 2 (readStringField path trimValue) := costs_readParsed _ path

theorem costs_readU64Field (path : Bytes) (multiplier : UInt64) :
    Costs env 2 (readU64Field path multiplier) := costs_readParsed _ path

theorem costs_readU32Field (path : Bytes) : Costs env 2 (readU32Field path) :=
  costs_readParsed _ path

theorem costs_readI64Field (path : Bytes) : Costs env 2 (readI64Field path) :=
  costs_readParsed _ path

theorem costs_readSymlinkBasenameField (path : Bytes) :
    Costs env 2 (readSymlinkBasenameField path) := by
  refine (costs_ask _).bind fun target => ?_
  cases target with
  | none => exact (costs_statusForPathError path).bind fun _ => callsAtMost_pure _ _
  | some target => exact callsAtMost_pure _ _

theorem costs_keepValid {α : Type} {n : ℕ} {field : Field α} {read : Collect (Field α)}
    (h : Costs env n read) : Costs env n (keepValid field read) :=
  CallsAtMost.ite (callsAtMost_pure _ _) h

/-- The candidates of a multi-file reader, two calls each. -/
theorem costs_firstU64 (convert : UInt64 → UInt64) (lastStatus : Status) (paths : List Bytes) :
    Costs env (2 * paths.length) (firstU64 convert lastStatus paths) := by
  induction paths generalizing lastStatus with
  | nil => exact callsAtMost_pure _ _
  | cons path paths ih =>
    rw [List.length_cons, Nat.mul_succ]
    refine (costs_readU64Field path 1).bind fun value => ?_
    exact CallsAtMost.ite (callsAtMost_pure _ _) (ih _)

theorem costs_firstAccepted (accept : Bytes → Bool) (paths : List Bytes) :
    Costs env (2 * paths.length) (firstAccepted accept paths) := by
  induction paths with
  | nil => exact callsAtMost_pure _ _
  | cons path paths ih =>
    rw [List.length_cons, Nat.mul_succ]
    refine (costs_readStringField path true).bind fun value => ?_
    exact CallsAtMost.ite (callsAtMost_pure _ _) ih

theorem trace_listDir (path : Bytes) : (listDir path).trace env = [.listDirectory path] := by
  rw [listDir, trace_bind]
  have hrun : (ask (.listDirectory path)).run env = env (.listDirectory path) := rfl
  rw [hrun]
  cases env (.listDirectory path) <;> rfl

theorem entries_listDirectory (path : Bytes) :
    Primitive.entries (.listDirectory path) (env (.listDirectory path)) =
      (env.names path).length := by
  rw [Env.names]
  cases env (.listDirectory path) with
  | none => rfl
  | some listing => exact (List.length_insertionSort _ _).symm

/-- A listing pays for a loop over its names. -/
theorem costs_listDir {α : Type} {m : ℕ} (path : Bytes) {next : List EntryName → Collect α}
    (h : Costs env (m + 18 * (env.names path).length) (next (env.names path))) :
    Costs env (m + 1) (listDir path >>= next) := by
  have hlisting : ((listDir path).trace env).length + 18 * (env.names path).length ≤
      1 + 18 * (listDir path).delivered env Primitive.entries := by
    rw [delivered, trace_listDir, List.map_singleton, List.sum_singleton, entries_listDirectory,
      List.length_singleton]
  apply CallsAtMost.bind_delivered hlisting
  rwa [run_listDir]

/-- A loop over the names of a directory, with rounds of at most 18 calls. -/
theorem costs_listed {α β : Type} {n m : ℕ} (path : Bytes) {f : EntryName → Collect (Option α)}
    {next : List α → Collect β} (hn : n ≤ 18) (hf : ∀ entry, Costs env n (f entry))
    (hnext : ∀ as, Costs env m (next as)) :
    Costs env (m + 1) (listDir path >>= fun names => gather f names >>= next) :=
  costs_listDir path ((CallsAtMost.gather_rate hn hf _).bind hnext)

/-- A reader that is such a loop. -/
theorem costs_scan {α : Type} {n : ℕ} (path : Bytes) {f : α → EntryName → Collect α} (a : α)
    (hn : n ≤ 18) (hf : ∀ a entry, Costs env n (f a entry)) :
    Costs env 1 (listDir path >>= fun names => names.foldlM f a) := by
  refine costs_listDir path ?_
  rw [Nat.zero_add]
  exact CallsAtMost.foldlM_rate hn hf _ a

theorem costs_scanned {α β : Type} {n m : ℕ} (path : Bytes) {f : α → EntryName → Collect α} {a : α}
    {next : α → Collect β} (hn : n ≤ 18) (hf : ∀ a entry, Costs env n (f a entry))
    (hnext : ∀ a, Costs env m (next a)) :
    Costs env (m + 1) (listDir path >>= fun names => names.foldlM f a >>= next) :=
  costs_listDir path ((CallsAtMost.foldlM_rate hn hf _ a).bind hnext)

end Readers

/-! ## Devices -/

section Collectors

variable {env : Env} {options : CollectOptions}

theorem costs_pciDevice (root : Bytes) (address : EntryName) :
    Costs env 18 (pciDevice root address) := by
  refine (costs_ask _).bind fun isDir => ?_
  refine CallsAtMost.ite ?_ (callsAtMost_pure _ _)
  refine (costs_readStringField _ _).bind fun vendorId => ?_
  refine (costs_readStringField _ _).bind fun deviceId => ?_
  refine (costs_readStringField _ _).bind fun subVendor => ?_
  refine (costs_readStringField _ _).bind fun subDevice => ?_
  refine (costs_readStringField _ _).bind fun classId => ?_
  refine (costs_readSymlinkBasenameField _).bind fun driver => ?_
  refine (costs_readI64Field _).bind fun numaNode => ?_
  refine (costs_readSymlinkBasenameField _).bind fun group => ?_
  refine (costs_pathExists _).bind fun resource => ?_
  exact callsAtMost_pure _ _

theorem costs_collectPci : Costs env 1 (collectPci options) :=
  costs_listed _ (by decide) (costs_pciDevice _) fun _ => callsAtMost_pure _ _

theorem costs_readBoolNumber (path : Bytes) : Costs env 2 (readBoolNumber path) :=
  (costs_readU64Field path 1).bind fun _ => callsAtMost_pure _ _

theorem costs_blockDevice (entry : EntryName) : Costs env 15 (blockDevice options entry) := by
  refine CallsAtMost.ite (callsAtMost_pure _ _) ?_
  refine (costs_ask _).bind fun isDir => ?_
  refine CallsAtMost.ite ?_ (callsAtMost_pure _ _)
  refine (costs_readStringField _ _).bind fun model => ?_
  refine (costs_readStringField _ _).bind fun vendor => ?_
  refine (costs_readBoolNumber _).bind fun rotational => ?_
  refine (costs_readU64Field _ _).bind fun size => ?_
  refine (costs_readU64Field _ _).bind fun logical => ?_
  refine (costs_readU64Field _ _).bind fun physical => ?_
  refine (costs_readStringField _ _).bind fun scheduler => ?_
  exact callsAtMost_pure _ _

theorem costs_collectBlock : Costs env 1 (collectBlock options) :=
  costs_listed _ (by decide) costs_blockDevice fun _ => callsAtMost_pure _ _

theorem costs_renderNodesByPci : Costs env 1 (renderNodesByPci options) := by
  refine costs_scan _ _ (by decide : 1 ≤ 18) fun nodes entry => ?_
  refine CallsAtMost.ite ?_ (callsAtMost_pure _ _)
  refine (costs_ask _).bind fun target => ?_
  cases target with
  | none => exact callsAtMost_pure _ _
  | some target => exact callsAtMost_pure _ _

theorem costs_hwmonDirectory (hwmonRoot : Bytes) (fields : U64Field × U64Field)
    (hwmon : EntryName) : Costs env 4 (hwmonDirectory hwmonRoot fields hwmon) := by
  refine (costs_keepValid (costs_readU64Field _ _)).bind fun temp => ?_
  refine (costs_keepValid ((costs_readU64Field _ _).map _)).bind fun power => ?_
  exact callsAtMost_pure _ _

theorem costs_fillHwmonFields (pciPath : Bytes) : Costs env 1 (fillHwmonFields pciPath) :=
  costs_scan _ _ (by decide) (costs_hwmonDirectory _)

theorem costs_firstU64File (path path' : Bytes) : Costs env 4 (firstU64File [path, path']) :=
  costs_firstU64 id .notFound [path, path']

theorem costs_gpuFromPci (pciAddress pciPath : Bytes) (renderNodes : KeyValueMap) :
    Costs env 15 (gpuFromPci pciAddress pciPath renderNodes) := by
  refine (costs_readStringField _ _).bind fun vendorId => ?_
  refine (costs_readStringField _ _).bind fun deviceId => ?_
  refine (costs_readSymlinkBasenameField _).bind fun driver => ?_
  refine (costs_firstU64File _ _).bind fun total => ?_
  refine (costs_firstU64File _ _).bind fun used => ?_
  refine (costs_fillHwmonFields _).bind fun hwmon => ?_
  exact callsAtMost_pure _ _

theorem costs_drmCard (renderNodes : KeyValueMap) (scan : GpuScan) (card : EntryName) :
    Costs env 16 (drmCard options renderNodes scan card) := by
  refine CallsAtMost.ite (callsAtMost_pure _ _) ?_
  refine (costs_ask _).bind fun target => ?_
  cases target with
  | none => exact callsAtMost_pure _ _
  | some target =>
    refine CallsAtMost.ite (callsAtMost_pure _ _) ?_
    refine (costs_gpuFromPci _ _ _).bind fun gpu => ?_
    exact callsAtMost_pure _ _

theorem costs_pciGpu (renderNodes : KeyValueMap) (seen : Finset Bytes) (address : EntryName) :
    Costs env 17 (pciGpu options renderNodes seen address) := by
  refine CallsAtMost.ite (callsAtMost_pure _ _) ?_
  refine (costs_readStringField _ _).bind fun classId => ?_
  exact CallsAtMost.ite ((costs_gpuFromPci _ _ _).map _) (callsAtMost_pure _ _)

theorem costs_collectGpu : Costs env 3 (collectGpu options) := by
  refine costs_renderNodesByPci.bind fun renderNodes => ?_
  refine costs_scanned _ (by decide) (costs_drmCard renderNodes) fun scan => ?_
  refine costs_listed _ (by decide) (costs_pciGpu renderNodes scan.seen) fun rest => ?_
  exact callsAtMost_pure _ _

theorem costs_collectAddresses : Costs env 1 (collectAddresses options) := by
  refine CallsAtMost.ite (callsAtMost_pure _ _) ?_
  refine (costs_ask _).bind fun interfaces => ?_
  cases interfaces with
  | none => exact callsAtMost_pure _ _
  | some interfaces => exact callsAtMost_pure _ _

theorem costs_readSpeedMbps (path : Bytes) : Costs env 2 (readSpeedMbps path) :=
  (costs_readI64Field path).bind fun _ => callsAtMost_pure _ _

theorem costs_netInterface (addresses : AddressMap) (entry : EntryName) :
    Costs env 13 (netInterface options addresses entry) := by
  refine (costs_ask _).bind fun isDir => ?_
  refine CallsAtMost.ite ?_ (callsAtMost_pure _ _)
  refine (costs_readStringField _ _).bind fun mac => ?_
  refine (costs_readU64Field _ _).bind fun mtu => ?_
  refine (costs_readSpeedMbps _).bind fun speed => ?_
  refine (costs_readStringField _ _).bind fun duplex => ?_
  refine (costs_readBoolNumber _).bind fun carrier => ?_
  refine (costs_readSymlinkBasenameField _).bind fun driver => ?_
  exact callsAtMost_pure _ _

theorem costs_collectNet : Costs env 2 (collectNet options) := by
  refine costs_collectAddresses.bind fun addresses => ?_
  exact costs_listed _ (by decide) (costs_netInterface addresses) fun _ => callsAtMost_pure _ _

/-! ## The rest of the machine -/

theorem costs_thermalZone (root : Bytes) (entry : EntryName) :
    Costs env 4 (thermalZone root entry) := by
  refine CallsAtMost.ite ?_ (callsAtMost_pure _ _)
  refine (costs_readStringField _ _).bind fun type => ?_
  refine (costs_readStringField _ _).bind fun temp => ?_
  exact callsAtMost_pure _ _

theorem costs_collectThermal : Costs env 1 (collectThermal options) :=
  costs_listed _ (by decide) (costs_thermalZone _) fun _ => callsAtMost_pure _ _

theorem costs_powerSupply (root : Bytes) (scan : PowerScan) (entry : EntryName) :
    Costs env 6 (powerSupply root scan entry) := by
  refine (costs_readStringField _ _).bind fun type => ?_
  refine CallsAtMost.ite (callsAtMost_pure _ _) (CallsAtMost.ite ?_ (CallsAtMost.ite ?_ ?_))
  · refine (costs_keepValid (costs_readStringField _ _)).bind fun status => ?_
    refine (costs_keepValid (costs_readU64Field _ _)).bind fun capacity => ?_
    exact callsAtMost_pure _ _
  · exact (costs_readU64Field _ _).bind fun online => callsAtMost_pure _ _
  · exact callsAtMost_pure _ _

theorem costs_readKhzAsMhz (path path' : Bytes) : Costs env 4 (readKhzAsMhz [path, path']) :=
  costs_firstU64 _ .notFound [path, path']

theorem costs_collectPower : Costs env 15 (collectPower options) := by
  refine costs_scanned _ (by decide) (costs_powerSupply _) fun scan => ?_
  refine (costs_readStringField _ _).bind fun governor => ?_
  refine (costs_readKhzAsMhz _ _).bind fun cur => ?_
  refine (costs_readKhzAsMhz _ _).bind fun min => ?_
  refine (costs_readKhzAsMhz _ _).bind fun max => ?_
  exact callsAtMost_pure _ _

theorem costs_collectSecureBoot : Costs env 3 (collectSecureBoot options) := by
  refine costs_listDir _ (CallsAtMost.mono ?_ (Nat.le_add_right _ _))
  split
  · exact callsAtMost_pure _ _
  · exact (costs_readFile _).bind fun value => callsAtMost_pure _ _

theorem costs_collectPlatform : Costs env 20 (collectPlatform options) := by
  refine (costs_readStringField _ _).bind fun vendor => ?_
  refine (costs_readStringField _ _).bind fun product => ?_
  refine (costs_readStringField _ _).bind fun version => ?_
  refine (costs_readStringField _ _).bind fun boardVendor => ?_
  refine (costs_readStringField _ _).bind fun boardName => ?_
  refine (costs_readStringField _ _).bind fun biosVendor => ?_
  refine (costs_readStringField _ _).bind fun biosVersion => ?_
  refine (costs_readStringField _ _).bind fun biosDate => ?_
  refine (costs_ask _).bind fun uefi => ?_
  refine (CallsAtMost.ite costs_collectSecureBoot (callsAtMost_pure _ _)).bind fun boot => ?_
  exact callsAtMost_pure _ _

theorem costs_cacheIndex (cpu : UInt64) (path : Bytes) : Costs env 14 (cacheIndex cpu path) := by
  refine (costs_readU32Field _).bind fun level => ?_
  refine (costs_readParsed _ _).bind fun size => ?_
  refine (costs_readU64Field _ _).bind fun lineSize => ?_
  refine (costs_readU64Field _ _).bind fun ways => ?_
  refine (costs_readU64Field _ _).bind fun sets => ?_
  refine (costs_readStringField _ _).bind fun shared => ?_
  refine (costs_readStringField _ _).bind fun type => ?_
  exact callsAtMost_pure _ _

theorem costs_cpuCaches (scan : CacheScan) (cpu : UInt64 × Bytes) :
    Costs env 1 (cpuCaches scan cpu) := by
  refine costs_scan _ _ (by decide : 14 ≤ 18) fun scan index => ?_
  refine CallsAtMost.ite ?_ (callsAtMost_pure _ _)
  exact (costs_cacheIndex _ _).bind fun cache => callsAtMost_pure _ _

/-- The listing of the CPU directories pays for a loop over the CPUs. -/
theorem costs_cpuDirs {α : Type} {m : ℕ} {next : List (UInt64 × Bytes) → Collect α}
    (h : Costs env (m + 18 * (env.cpuDirs options).length) (next (env.cpuDirs options))) :
    Costs env (m + 1) (cpuDirs options >>= next) := by
  have hlength : (env.cpuDirs options).length ≤ (env.names (cpuRoot options)).length := by
    rw [Env.cpuDirs, List.length_insertionSort]
    exact List.length_filterMap_le _ _
  unfold cpuDirs
  rw [bind_assoc]
  refine costs_listDir _ ?_
  exact h.mono (Nat.add_le_add_left (Nat.mul_le_mul_left 18 hlength) m)

theorem costs_collectCache : Costs env 1 (collectCache options) := by
  refine costs_cpuDirs ?_
  have hloop : Costs env (18 * (env.cpuDirs options).length)
      ((env.cpuDirs options).foldlM cpuCaches {}) :=
    CallsAtMost.foldlM_rate (by decide : 1 ≤ 18) costs_cpuCaches _ _
  exact hloop.bind fun scan => callsAtMost_pure _ _

theorem costs_numaNode (root : Bytes) (entry : EntryName) : Costs env 4 (numaNode root entry) := by
  unfold numaNode
  split
  · exact callsAtMost_pure _ _
  · refine (costs_readStringField _ _).bind fun cpus => ?_
    refine (costs_readFile _).bind fun meminfo => ?_
    exact callsAtMost_pure _ _

theorem costs_collectNumaNodes : Costs env 1 (collectNumaNodes options) := by
  refine costs_listDir _ ?_
  rw [Nat.zero_add]
  exact CallsAtMost.gather_rate (by decide : 4 ≤ 18) (costs_numaNode _) _

theorem costs_transparentHugepagesEnabled :
    Costs env 2 (transparentHugepagesEnabled options) :=
  (costs_readFirstLine _).bind fun _ => callsAtMost_pure _ _

theorem costs_collectMemory : Costs env 6 (collectMemory options) := by
  refine (costs_readFile _).bind fun meminfo => ?_
  refine (costs_ask _).bind fun page => ?_
  refine costs_transparentHugepagesEnabled.bind fun huge => ?_
  refine costs_collectNumaNodes.bind fun nodes => ?_
  exact callsAtMost_pure _ _

theorem costs_collectOs : Costs env 7 (collectOs options) := by
  refine (costs_ask _).bind fun uts => ?_
  refine (costs_ask _).bind fun page => ?_
  refine (costs_ask _).bind fun target => ?_
  refine (costs_readStringField _ _).bind fun cmdline => ?_
  refine (costs_readFile _).bind fun osRelease => ?_
  exact callsAtMost_pure _ _

/-! ## Collectors that read cpuinfo -/

theorem costs_collectIsa : Costs env 2 (collectIsa options) := by
  refine (costs_readFile _).bind fun cpuinfo => ?_
  refine CallsAtMost.ite (callsAtMost_pure _ _) ?_
  split
  · exact callsAtMost_pure _ _
  · exact callsAtMost_pure _ _

theorem costs_readFlagLine (keys : List Bytes) : Costs env 2 (readFlagLine keys options) := by
  refine (costs_readFile _).bind fun cpuinfo => ?_
  refine CallsAtMost.ite (callsAtMost_pure _ _) ?_
  split
  · exact callsAtMost_pure _ _
  · exact callsAtMost_pure _ _

theorem costs_probeHardwareCounter (config : UInt64) (allowProbe : Bool) :
    Costs env 1 (probeHardwareCounter config allowProbe) := by
  refine CallsAtMost.ite (callsAtMost_pure _ _) ?_
  exact (costs_ask _).bind fun outcome => callsAtMost_pure _ _

theorem costs_fillHardwareCounterAvailability (allowProbe : Bool) :
    Costs env 8 (fillHardwareCounterAvailability allowProbe) := by
  refine (costs_probeHardwareCounter _ _).bind fun cycles => ?_
  refine (costs_probeHardwareCounter _ _).bind fun instructions => ?_
  refine (costs_probeHardwareCounter _ _).bind fun references => ?_
  refine (costs_probeHardwareCounter _ _).bind fun misses => ?_
  refine (costs_probeHardwareCounter _ _).bind fun branches => ?_
  refine (costs_probeHardwareCounter _ _).bind fun branchMisses => ?_
  refine (costs_probeHardwareCounter _ _).bind fun bus => ?_
  refine (costs_probeHardwareCounter _ _).bind fun refCycles => ?_
  exact callsAtMost_pure _ _

theorem costs_collectPerf : Costs env 12 (collectPerf options) := by
  refine (costs_readI64Field _).bind fun paranoid => ?_
  refine (costs_fillHardwareCounterAvailability _).bind fun available => ?_
  refine (costs_readFlagLine _).bind fun flags => ?_
  exact callsAtMost_pure _ _

/-- The three files of both hypervisor lookups. -/
theorem costs_firstAccepted_three (accept : Bytes → Bool) (path path' path'' : Bytes) :
    Costs env 6 (firstAccepted accept [path, path', path'']) :=
  costs_firstAccepted accept [path, path', path'']

theorem costs_iommuPresent : Costs env 2 (iommuPresent options) := by
  refine (costs_ask _).bind fun isDir => ?_
  refine CallsAtMost.ite ?_ (callsAtMost_pure _ _)
  exact costs_listDir _ (callsAtMost_pure _ _)

theorem costs_collectVirtualization : Costs env 12 (collectVirtualization options) := by
  refine (costs_readFlagLine _).bind fun flags => ?_
  refine (costs_firstAccepted_three _ _ _ _).bind fun vendor => ?_
  refine (costs_pathExists _).bind fun kvmExists => ?_
  refine (CallsAtMost.ite (costs_ask _) (callsAtMost_pure _ _)).bind fun kvmAccess => ?_
  refine costs_iommuPresent.bind fun iommu => ?_
  exact callsAtMost_pure _ _

theorem costs_cpuTopologyEntry (byId : Finmap fun _ : UInt64 => KeyValueMap)
    (cpu : UInt64 × Bytes) : Costs env 9 (cpuTopologyEntry byId cpu) := by
  refine (costs_readU32Field _).bind fun coreId => ?_
  refine (costs_readU32Field _).bind fun packageId => ?_
  refine (costs_readStringField _ _).bind fun threads => ?_
  refine (costs_readStringField _ _).bind fun cores => ?_
  exact costs_listDir _ (callsAtMost_pure _ _)

theorem costs_cpuTopology (blocks : List KeyValueMap) :
    Costs env 1 (cpuTopology options blocks) := by
  refine costs_cpuDirs ?_
  have hloop : Costs env (18 * (env.cpuDirs options).length)
      (gather (fun cpu => some <$> cpuTopologyEntry (blocksByProcessor blocks) cpu)
        (env.cpuDirs options)) :=
    CallsAtMost.gather_rate (by decide : 9 ≤ 18)
      (fun cpu => (costs_cpuTopologyEntry _ cpu).map some) _
  exact hloop.bind fun entries => callsAtMost_pure _ _

theorem costs_cpuHypervisorVendor (first : KeyValueMap) (isVirtualized : BoolField) :
    Costs env 6 (cpuHypervisorVendor options first isVirtualized) := by
  refine CallsAtMost.ite (callsAtMost_pure _ _) ?_
  exact CallsAtMost.ite (costs_firstAccepted_three _ _ _ _) (callsAtMost_pure _ _)

theorem costs_cpuArch : Costs env 1 cpuArch := by
  refine (costs_ask _).bind fun uts => ?_
  cases uts with
  | none => exact callsAtMost_pure _ _
  | some uts => exact callsAtMost_pure _ _

theorem costs_collectCpu : Costs env 17 (collectCpu options) := by
  refine costs_cpuArch.bind fun machine => ?_
  refine (costs_readFile _).bind fun cpuinfo => ?_
  refine (costs_readParsed _ _).bind fun present => ?_
  refine (costs_readParsed _ _).bind fun online => ?_
  refine (costs_readParsed _ _).bind fun possible => ?_
  refine (costs_ask _).bind fun threads => ?_
  refine (costs_cpuTopology _).bind fun topology => ?_
  refine (costs_cpuHypervisorVendor _ _).bind fun vendor => ?_
  exact callsAtMost_pure _ _

end Collectors

/-! ## The collection -/

/-- The calls of a collector that no directory entry is charged with. -/
def Category.fixedCalls : Category → ℕ
  | os => 7
  | cpu => 17
  | isa => 2
  | cache => 1
  | memory => 6
  | pci => 1
  | gpu => 3
  | perf => 12
  | block => 1
  | net => 2
  | thermal => 1
  | power => 15
  | virtualization => 12
  | platform => 20

section Reports

variable {env : Env} (arch : ArchType) (options : CollectOptions)

theorem costs_collector (c : Category) : Costs env c.fixedCalls (c.collector options) := by
  cases c with
  | os => exact costs_collectOs
  | cpu => exact costs_collectCpu
  | isa => exact costs_collectIsa
  | cache => exact costs_collectCache
  | memory => exact costs_collectMemory
  | pci => exact costs_collectPci
  | gpu => exact costs_collectGpu
  | perf => exact costs_collectPerf
  | block => exact costs_collectBlock
  | net => exact costs_collectNet
  | thermal => exact costs_collectThermal
  | power => exact costs_collectPower
  | virtualization => exact costs_collectVirtualization
  | platform => exact costs_collectPlatform

theorem costs_foldlM_fill (cs : List Category) (info : SystemInfo) :
    Costs env ((cs.filter fun c => hasCategory options.categories c.flag).map
        Category.fixedCalls).sum
      (cs.foldlM (fun info c => fill options info c (c.collector options)) info) := by
  induction cs generalizing info with
  | nil => exact callsAtMost_pure _ _
  | cons c cs ih =>
    rw [List.foldlM_cons]
    by_cases hc : hasCategory options.categories c.flag
    · have hfill : Costs env c.fixedCalls (fill options info c (c.collector options)) := by
        rw [fill, if_pos hc]
        exact (costs_collector options c).map _
      rw [List.filter_cons, if_pos hc, List.map_cons, List.sum_cons, Nat.add_comm]
      exact hfill.bind ih
    · rw [fill, if_neg hc, List.filter_cons, if_neg hc, pure_bind]
      exact ih info

theorem costs_collectReport :
    Costs env (options.categories.selected.map Category.fixedCalls).sum
      (collectReport arch options) := by
  have hcollect : Costs env (options.categories.selected.map Category.fixedCalls).sum
      (collect arch options) := by
    rw [collect_eq_foldlM]
    exact costs_foldlM_fill options Category.all _
  exact (hcollect.bind fun _ => callsAtMost_pure _ 0).mono (Nat.zero_add _).le

theorem sum_fixedCalls_le : (options.categories.selected.map Category.fixedCalls).sum ≤ 100 :=
  ((List.filter_sublist.map Category.fixedCalls).sum_le_sum fun _ _ => Nat.zero_le _).trans
    (by decide : (Category.all.map Category.fixedCalls).sum ≤ 100)

end Reports

/-- A collection makes the fixed calls of its categories, and at most 18 more for each directory
entry that it is shown; a run of the tool has at most 100 fixed ones. -/
theorem calls_bounded (env : Env) (arch : ArchType) :
    (∀ options : CollectOptions,
      ((collectReport arch options).trace env).length ≤
        (options.categories.selected.map Category.fixedCalls).sum +
          18 * (collectReport arch options).delivered env Primitive.entries) ∧
    ∀ argv : List Bytes,
      ((main arch argv).trace env).length ≤
        100 + 18 * (main arch argv).delivered env Primitive.entries := by
  have hmain : ∀ argv, Costs env 100 (main arch argv) := fun argv => by
    unfold main
    split
    · exact callsAtMost_pure _ _
    · rename_i settings _
      have hreport : Costs env _ (collectReport arch settings.options) :=
        costs_collectReport arch settings.options
      exact (hreport.mono (sum_fixedCalls_le settings.options)).bind fun _ => callsAtMost_pure _ _
  exact ⟨fun options => costs_collectReport arch options, hmain⟩

end Archspec
