import Archspec.Cli
import Archspec.Lib.Respects

/-!
# The order of directory entries does not matter

A directory iterator delivers the entries of a directory in no particular order.  `list_dir` sorts
them by name, and no collector lists a directory in another way, so the order never shows in a
report: the collectors respect the relation `Reordered`, which relates two listings of the same
entries and any other answer only to itself.

The main result is `enumeration_order`, for the library and for the command line tool.
-/

namespace Archspec

open Lib Program

/-! ## Sorted names -/

theorem lexLe_antisymm {s t : Bytes} (hst : lexLe s t = true) (hts : lexLe t s = true) : s = t := by
  induction s generalizing t with
  | nil =>
    cases t with
    | nil => rfl
    | cons b t => cases hts
  | cons a s ih =>
    cases t with
    | nil => cases hst
    | cons b t =>
      simp only [lexLe, Bool.or_eq_true, Bool.and_eq_true, decide_eq_true_eq, beq_iff_eq] at hst hts
      rcases hst with hab | ⟨rfl, hst⟩
      · rcases hts with hba | ⟨rfl, -⟩
        · exact absurd (UInt8.lt_trans hab hba) (UInt8.lt_irrefl a)
        · exact absurd hab (UInt8.lt_irrefl b)
      · rcases hts with hba | ⟨-, hts⟩
        · exact absurd hba (UInt8.lt_irrefl a)
        · rw [ih hst hts]

/-- The order of `list_dir`. -/
def entryLe (a b : EntryName) : Prop := lexLe a.name b.name = true

instance : DecidableRel entryLe := fun _ _ => inferInstanceAs (Decidable (_ = _))

instance : Std.Total entryLe := ⟨fun a b => lexLe_total a.name b.name⟩

instance : IsTrans EntryName entryLe := ⟨fun _ _ _ => lexLe_trans⟩

theorem EntryName.eq_of_name_eq {a b : EntryName} (h : a.name = b.name) : a = b := by
  obtain ⟨name, _, _, _, _⟩ := a
  obtain ⟨name', _, _, _, _⟩ := b
  cases h
  rfl

/-- Sorting by name forgets the order. -/
theorem insertionSort_perm_eq {entries entries' : List EntryName} (h : entries.Perm entries') :
    entries.insertionSort entryLe = entries'.insertionSort entryLe := by
  have hperm : (entries.insertionSort entryLe).Perm (entries'.insertionSort entryLe) :=
    ((List.perm_insertionSort entryLe entries).trans h).trans
      (List.perm_insertionSort entryLe entries').symm
  refine hperm.eq_of_pairwise (fun a b _ _ hab hba => ?_)
    (List.pairwise_insertionSort entryLe entries) (List.pairwise_insertionSort entryLe entries')
  exact EntryName.eq_of_name_eq (lexLe_antisymm hab hba)

/-! ## The relation -/

/-- The outcomes of one listing, with the same entries in any order. -/
def SameEntries : Option Listing → Option Listing → Prop
  | some listing, some listing' => listing.entries.Perm listing'.entries
  | none, none => True
  | _, _ => False

/-- The answers that differ at most in the order of directory entries. -/
def Reordered : (call : Primitive) → call.Reply → call.Reply → Prop
  | .listDirectory _ => SameEntries
  | _ => Eq

theorem SameEntries.sorted_eq {r r' : Option Listing} (h : SameEntries r r') :
    r.elim [] (fun listing => listing.entries.insertionSort entryLe) =
      r'.elim [] fun listing => listing.entries.insertionSort entryLe := by
  cases r with
  | none =>
    cases r' with
    | none => rfl
    | some listing' => exact absurd h id
  | some listing =>
    cases r' with
    | none => exact absurd h id
    | some listing' => exact insertionSort_perm_eq h

theorem listDir_eq (path : Bytes) :
    listDir path = (ask (.listDirectory path) >>= fun r =>
      Pure.pure (r.elim [] fun listing => listing.entries.insertionSort entryLe)) := by
  refine congrArg (ask (.listDirectory path) >>= ·) (funext fun r => ?_)
  cases r <;> rfl

/-! ## The readers -/

@[simp] theorem respects_listDir (path : Bytes) : (listDir path).Respects Reordered := by
  rw [listDir_eq]
  exact respects_call_bind (fun r r' h => congrArg Pure.pure (SameEntries.sorted_eq h))
    fun _ => trivial

section Calls

variable (path : Bytes)

theorem respects_openFile : (ask (.openFile path)).Respects Reordered :=
  respects_call fun _ _ => id

theorem respects_askPathExists : (ask (.pathExists path)).Respects Reordered :=
  respects_call fun _ _ => id

@[simp] theorem respects_pathIsDir : (pathIsDir path).Respects Reordered :=
  respects_call fun _ _ => id

@[simp] theorem respects_readSymlinkTarget : (readSymlinkTarget path).Respects Reordered :=
  respects_call fun _ _ => id

theorem respects_access : (ask (.access path)).Respects Reordered :=
  respects_call fun _ _ => id

@[simp] theorem respects_statusForPathError : (statusForPathError path).Respects Reordered :=
  (respects_askPathExists path).bind fun _ => trivial

@[simp] theorem respects_pathExists : (pathExists path).Respects Reordered :=
  (respects_askPathExists path).bind fun _ => trivial

@[simp] theorem respects_readFile : (readFile path).Respects Reordered := by
  refine (respects_openFile path).bind fun file => ?_
  cases file <;> simp

@[simp] theorem respects_readFirstLine : (readFirstLine path).Respects Reordered := by
  refine (respects_openFile path).bind fun file => ?_
  cases file <;> simp

@[simp] theorem respects_readParsed {α : Type} [Inhabited α] (parse : Bytes → Option α) :
    (readParsed parse path).Respects Reordered := by
  refine (respects_readFirstLine path).bind fun result => ?_
  rw [respects_ite]
  refine ⟨fun _ => trivial, fun _ => ?_⟩
  split <;> trivial

@[simp] theorem respects_readStringField (trimValue : Bool) :
    (readStringField path trimValue).Respects Reordered := respects_readParsed path _

@[simp] theorem respects_readU64Field (multiplier : UInt64) :
    (readU64Field path multiplier).Respects Reordered := respects_readParsed path _

@[simp] theorem respects_readU32Field : (readU32Field path).Respects Reordered :=
  respects_readParsed path _

@[simp] theorem respects_readI64Field : (readI64Field path).Respects Reordered :=
  respects_readParsed path _

@[simp] theorem respects_readCpuListCountField :
    (readCpuListCountField path).Respects Reordered := respects_readParsed path _

@[simp] theorem respects_readSizeBytesField : (readSizeBytesField path).Respects Reordered :=
  respects_readParsed path _

@[simp] theorem respects_readSymlinkBasenameField :
    (readSymlinkBasenameField path).Respects Reordered := by
  refine (respects_readSymlinkTarget path).bind fun target => ?_
  cases target <;> simp

end Calls

@[simp] theorem respects_keepValid {α : Type} (field : Field α) {read : Collect (Field α)}
    (h : read.Respects Reordered) : (keepValid field read).Respects Reordered := by
  simp [keepValid, h]

/-! ## The devices -/

@[simp] theorem respects_pciDevice (root : Bytes) (address : EntryName) :
    (pciDevice root address).Respects Reordered := by
  simp [pciDevice]

theorem respects_collectPci (options : CollectOptions) :
    (collectPci options).Respects Reordered := by
  simp [collectPci]

@[simp] theorem respects_readBoolNumber (path : Bytes) :
    (readBoolNumber path).Respects Reordered := by
  simp [readBoolNumber]

@[simp] theorem respects_blockDevice (options : CollectOptions) (entry : EntryName) :
    (blockDevice options entry).Respects Reordered := by
  simp [blockDevice]

theorem respects_collectBlock (options : CollectOptions) :
    (collectBlock options).Respects Reordered := by
  simp [collectBlock]

/-- The candidates of a multi-file reader. -/
@[simp] theorem respects_firstU64 (convert : UInt64 → UInt64) (lastStatus : Status)
    (paths : List Bytes) : (firstU64 convert lastStatus paths).Respects Reordered := by
  induction paths generalizing lastStatus with
  | nil => trivial
  | cons path paths ih => simp [firstU64, ih]

@[simp] theorem respects_renderNodesByPci (options : CollectOptions) :
    (renderNodesByPci options).Respects Reordered := by
  refine (respects_listDir _).bind fun names => Respects.foldlM (fun nodes entry => ?_) _ _
  rw [respects_ite]
  refine ⟨fun _ => (respects_readSymlinkTarget _).bind fun target => ?_, fun _ => trivial⟩
  cases target <;> trivial

@[simp] theorem respects_hwmonDirectory (hwmonRoot : Bytes) (fields : U64Field × U64Field)
    (hwmon : EntryName) : (hwmonDirectory hwmonRoot fields hwmon).Respects Reordered := by
  have hpower (path : Bytes) :
      (milliwatts fields.2 <$> readU64Field path).Respects Reordered :=
    (respects_readU64Field path 1).map _
  simp [hwmonDirectory, hpower]

@[simp] theorem respects_fillHwmonFields (pciPath : Bytes) :
    (fillHwmonFields pciPath).Respects Reordered := by
  simp [fillHwmonFields]

@[simp] theorem respects_gpuFromPci (pciAddress pciPath : Bytes) (renderNodes : KeyValueMap) :
    (gpuFromPci pciAddress pciPath renderNodes).Respects Reordered := by
  simp [gpuFromPci, firstU64File]

@[simp] theorem respects_drmCard (options : CollectOptions) (renderNodes : KeyValueMap)
    (scan : GpuScan) (card : EntryName) :
    (drmCard options renderNodes scan card).Respects Reordered := by
  unfold drmCard
  rw [respects_ite]
  refine ⟨fun _ => trivial, fun _ => (respects_readSymlinkTarget _).bind fun target => ?_⟩
  cases target <;> simp

@[simp] theorem respects_pciGpu (options : CollectOptions) (renderNodes : KeyValueMap)
    (seen : Finset Bytes) (address : EntryName) :
    (pciGpu options renderNodes seen address).Respects Reordered := by
  simp [pciGpu]

theorem respects_collectGpu (options : CollectOptions) :
    (collectGpu options).Respects Reordered := by
  simp [collectGpu]

@[simp] theorem respects_collectAddresses (options : CollectOptions) :
    (collectAddresses options).Respects Reordered := by
  have hcall : (ask .getifaddrs).Respects Reordered := respects_call fun _ _ => id
  unfold collectAddresses
  rw [respects_ite]
  refine ⟨fun _ => trivial, fun _ => hcall.bind fun interfaces => ?_⟩
  cases interfaces <;> trivial

@[simp] theorem respects_netInterface (options : CollectOptions) (addresses : AddressMap)
    (entry : EntryName) : (netInterface options addresses entry).Respects Reordered := by
  simp [netInterface, readSpeedMbps]

theorem respects_collectNet (options : CollectOptions) :
    (collectNet options).Respects Reordered := by
  simp [collectNet]

/-! ## The processor and its flags -/

theorem respects_cpuArch : cpuArch.Respects Reordered := by
  refine Respects.bind (respects_call fun _ _ => id) fun uts => ?_
  cases uts <;> trivial

@[simp] theorem respects_cpuDirs (options : CollectOptions) :
    (cpuDirs options).Respects Reordered := by
  simp [cpuDirs]

@[simp] theorem respects_cpuTopologyEntry (byId : Finmap fun _ : UInt64 => KeyValueMap)
    (cpu : UInt64 × Bytes) : (cpuTopologyEntry byId cpu).Respects Reordered := by
  simp [cpuTopologyEntry]

@[simp] theorem respects_cpuTopology (options : CollectOptions) (blocks : List KeyValueMap) :
    (cpuTopology options blocks).Respects Reordered := by
  refine (respects_cpuDirs options).bind fun cpus => ?_
  refine Respects.bind (Respects.gather (fun cpu => ?_) cpus) fun entries => trivial
  exact (respects_cpuTopologyEntry _ cpu).map _

@[simp] theorem respects_firstAccepted (accept : Bytes → Bool) (paths : List Bytes) :
    (firstAccepted accept paths).Respects Reordered := by
  induction paths with
  | nil => trivial
  | cons path paths ih => simp [firstAccepted, ih]

@[simp] theorem respects_cpuHypervisorVendor (options : CollectOptions) (first : KeyValueMap)
    (isVirtualized : BoolField) :
    (cpuHypervisorVendor options first isVirtualized).Respects Reordered := by
  simp [cpuHypervisorVendor, firstExistingHypervisorVendor]

theorem respects_collectCpu (options : CollectOptions) :
    (collectCpu options).Respects Reordered := by
  have hthreads : (ask .hardwareConcurrency).Respects Reordered := respects_call fun _ _ => id
  refine respects_cpuArch.bind fun machine => ?_
  simp [cpuDetails, respects_bind_iff hthreads]

theorem respects_collectIsa (options : CollectOptions) :
    (collectIsa options).Respects Reordered := by
  refine (respects_readFile _).bind fun cpuinfo => ?_
  rw [respects_ite]
  refine ⟨fun _ => trivial, fun _ => ?_⟩
  cases parseColonBlocks cpuinfo.value <;> trivial

@[simp] theorem respects_readFlagLine (keys : List Bytes) (options : CollectOptions) :
    (readFlagLine keys options).Respects Reordered := by
  refine (respects_readFile _).bind fun cpuinfo => ?_
  rw [respects_ite]
  refine ⟨fun _ => trivial, fun _ => ?_⟩
  cases parseColonBlocks cpuinfo.value <;> trivial

@[simp] theorem respects_probeHardwareCounter (config : UInt64) (allowProbe : Bool) :
    (probeHardwareCounter config allowProbe).Respects Reordered := by
  have hcall : (ask (.perfEventOpen config)).Respects Reordered := respects_call fun _ _ => id
  unfold probeHardwareCounter
  rw [respects_ite]
  exact ⟨fun _ => trivial, fun _ => hcall.bind fun _ => trivial⟩

theorem respects_collectPerf (options : CollectOptions) :
    (collectPerf options).Respects Reordered := by
  simp [collectPerf, readPerfEventParanoid, fillHardwareCounterAvailability, readCpuFlags]

theorem respects_collectVirtualization (options : CollectOptions) :
    (collectVirtualization options).Respects Reordered := by
  have haccess := respects_access (devPath options "/kvm")
  simp [collectVirtualization, cpuFlags, detectedHypervisorVendor, iommuPresent, haccess]

/-! ## The rest of the machine -/

theorem respects_collectOs (options : CollectOptions) : (collectOs options).Respects Reordered := by
  refine Respects.bind (respects_call fun _ _ => id) fun uts => ?_
  refine Respects.bind (respects_call fun _ _ => id) fun page => ?_
  refine Respects.bind (respects_call fun _ _ => id) fun target => ?_
  simp

@[simp] theorem respects_cacheIndex (cpu : UInt64) (path : Bytes) :
    (cacheIndex cpu path).Respects Reordered := by
  simp [cacheIndex]

@[simp] theorem respects_cpuCaches (scan : CacheScan) (cpu : UInt64 × Bytes) :
    (cpuCaches scan cpu).Respects Reordered := by
  simp [cpuCaches]

theorem respects_collectCache (options : CollectOptions) :
    (collectCache options).Respects Reordered := by
  simp [collectCache]

@[simp] theorem respects_numaNode (root : Bytes) (entry : EntryName) :
    (numaNode root entry).Respects Reordered := by
  unfold numaNode
  cases numberedEntry "node" entry.name <;> simp

theorem respects_collectMemory (options : CollectOptions) :
    (collectMemory options).Respects Reordered := by
  have hpage : (ask .pageSize).Respects Reordered := respects_call fun _ _ => id
  simp [collectMemory, transparentHugepagesEnabled, collectNumaNodes, respects_bind_iff hpage]

@[simp] theorem respects_thermalZone (root : Bytes) (entry : EntryName) :
    (thermalZone root entry).Respects Reordered := by
  simp [thermalZone]

theorem respects_collectThermal (options : CollectOptions) :
    (collectThermal options).Respects Reordered := by
  simp [collectThermal]

@[simp] theorem respects_powerSupply (root : Bytes) (scan : PowerScan) (entry : EntryName) :
    (powerSupply root scan entry).Respects Reordered := by
  simp [powerSupply]

theorem respects_collectPower (options : CollectOptions) :
    (collectPower options).Respects Reordered := by
  simp [collectPower, readKhzAsMhz]

@[simp] theorem respects_collectSecureBoot (options : CollectOptions) :
    (collectSecureBoot options).Respects Reordered := by
  refine (respects_listDir _).bind fun names => ?_
  cases names.find? fun entry => startsWith entry.name "SecureBoot-" <;> simp

theorem respects_collectPlatform (options : CollectOptions) :
    (collectPlatform options).Respects Reordered := by
  simp [collectPlatform]

/-! ## Whole runs -/

/-- The entry of the first thermal zone. -/
def zone0 : EntryName := ⟨"thermal_zone0", by decide, by decide, by decide, by decide⟩

/-- The entry of the second thermal zone. -/
def zone1 : EntryName := ⟨"thermal_zone1", by decide, by decide, by decide, by decide⟩

/-- An environment with a directory of thermal zones. -/
def Env.zones (listing : Listing) : Env
  | .listDirectory path => if path = "/sys/class/thermal" then some listing else none
  | call => Env.failing call

/-- No collector sees the order of directory entries. -/
theorem respects_collector (options : CollectOptions) (c : Category) :
    (c.collector options).Respects Reordered := by
  cases c with
  | os => exact respects_collectOs options
  | cpu => exact respects_collectCpu options
  | isa => exact respects_collectIsa options
  | cache => exact respects_collectCache options
  | memory => exact respects_collectMemory options
  | pci => exact respects_collectPci options
  | gpu => exact respects_collectGpu options
  | perf => exact respects_collectPerf options
  | block => exact respects_collectBlock options
  | net => exact respects_collectNet options
  | thermal => exact respects_collectThermal options
  | power => exact respects_collectPower options
  | virtualization => exact respects_collectVirtualization options
  | platform => exact respects_collectPlatform options

theorem respects_collectReport (arch : ArchType) (options : CollectOptions) :
    (collectReport arch options).Respects Reordered := by
  have hcollect : (collect arch options).Respects Reordered := by
    rw [collect_eq_foldlM]
    refine Respects.foldlM (fun info c => ?_) _ _
    rw [fill, respects_ite]
    exact ⟨fun _ => (respects_collector options c).map _, fun _ => trivial⟩
  exact hcollect.bind fun _ => trivial

theorem respects_main (arch : ArchType) (argv : List Bytes) :
    (main arch argv).Respects Reordered := by
  unfold main
  cases parseArguments argv with
  | error outcome => trivial
  | ok settings => exact (respects_collectReport arch settings.options).bind fun _ => trivial

theorem reordered_zones {listing listing' : Listing} (h : listing.entries.Perm listing'.entries)
    (call : Primitive) : Reordered call (Env.zones listing call) (Env.zones listing' call) := by
  cases call with
  | listDirectory path =>
    show SameEntries (if path = _ then _ else none) (if path = _ then _ else none)
    split
    · exact h
    · trivial
  | _ => rfl

/-- The order in which the system enumerates directories shows nowhere: two environments that differ
in it alone give the same report, and the same outcome of the command line tool. -/
theorem enumeration_order (env env' : Env) (h : ∀ call, Reordered call (env call) (env' call)) :
    (∀ arch options, (collectReport arch options).run env = (collectReport arch options).run env') ∧
      ∀ arch argv, (main arch argv).run env = (main arch argv).run env' :=
  ⟨fun arch options => (respects_collectReport arch options).run_eq h,
    fun arch argv => (respects_main arch argv).run_eq h⟩

/-- The thermal zones are enumerated in one order or in the other. -/
theorem enumeration_order_zones :
    (main .x86 ["archspec-inspect", "--json"]).run (Env.zones { entries := [zone0, zone1] }) =
      (main .x86 ["archspec-inspect", "--json"]).run (Env.zones { entries := [zone1, zone0] }) :=
  (enumeration_order _ _ (reordered_zones (List.Perm.swap zone1 zone0 []))).2 .x86
    ["archspec-inspect", "--json"]

end Archspec
