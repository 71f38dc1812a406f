import Archspec.Failures.Causes

/-!
# Failures of the remaining collectors
-/

namespace Archspec

open Lib Program

section Collectors

variable {env : Env} {s : Status} {options : CollectOptions} (hs : s.Fails)

include hs

/-! ## Operating system -/

theorem unameField_ne {uts : Option Utsname} (huts : uts = none → Status.internalError ≠ s)
    (string : Utsname → Bytes) : (unameField uts string).status ≠ s := by
  unfold unameField
  split
  · exact hs.ne_ok
  · exact huts rfl

theorem osReleaseField_ne {osRelease : ReadResult} (h : osRelease.status ≠ s)
    (keys : List Bytes) : (osReleaseField osRelease keys).status ≠ s := by
  unfold osReleaseField
  split
  · exact h
  · exact stringFromMap_ne hs _ _

theorem pageSizeField_ne (page : Int64) : (pageSizeField page).status ≠ s := by
  unfold pageSizeField
  split
  · exact hs.ne_ok
  · exact hs.ne_notFound

theorem collectOs_unless (hr : NotRedacted options s) :
    (collectOs options).Unless env (env.Causes .os s) fun info => info.node.Clear s := by
  refine uname_unless.bind fun uts huts => ?_
  refine (ask_unless _).bind fun page _ => ?_
  refine (ask_unless _).bind fun target _ => ?_
  refine (readStringField_unless hs).bind fun cmdline hcmdline => ?_
  refine (readFile_unless hs).bind fun osRelease ⟨hosRelease, _⟩ => ?_
  have huname := unameField_ne hs huts
  have hdistro := osReleaseField_ne hs hosRelease.status
  have hpage := pageSizeField_ne hs page
  have hhostname := redactUnless_ne hr (huname (·.nodename))
  have hcommand := redactUnless_ne hr hcmdline
  rw [unless_pure_iff]
  simp [OsInfo.node, AnyField.status, hs.ne_ok, *]

/-! ## Caches and memory -/

theorem cacheIndex_unless (cpu : UInt64) (path : Bytes) :
    (cacheIndex cpu path).Unless env (env.Causes .cache s) fun cache => cache.node.Clear s := by
  refine (readU32Field_unless hs (by decide)).bind fun level hlevel => ?_
  refine (readSizeBytesField_unless hs (by decide)).bind fun size hsize => ?_
  refine (readU64Field_unless hs (by decide)).bind fun lineSize hlineSize => ?_
  refine (readU64Field_unless hs (by decide)).bind fun ways hways => ?_
  refine (readU64Field_unless hs (by decide)).bind fun sets hsets => ?_
  refine (readStringField_unless hs).bind fun shared hshared => ?_
  refine (readStringField_unless hs).bind fun type _ => ?_
  rw [unless_pure_iff]
  simp [CacheInfo.node, AnyField.status, hs.ne_ok, *]

omit hs in
theorem CacheScan.add_clear {scan : CacheScan} {cache : CacheInfo}
    (hscan : ∀ c ∈ scan.entries, c.node.Clear s) (hcache : cache.node.Clear s) :
    ∀ c ∈ (scan.add cache).entries, c.node.Clear s := by
  unfold CacheScan.add
  split
  · exact hscan
  · intro c hc
    rcases List.mem_append.1 hc with hc | hc
    · exact hscan c hc
    · rw [List.mem_singleton.1 hc]
      exact hcache

theorem collectCache_unless :
    (collectCache options).Unless env (env.Causes .cache s) fun list => list.node.Clear s := by
  have hcpus : (cpuDirs options).Unless env (env.Causes .cache s) fun _ => True := fun _ => trivial
  refine hcpus.bind fun cpus _ => ?_
  have hscan : (cpus.foldlM cpuCaches {}).Unless env (env.Causes .cache s) fun scan =>
      ∀ c ∈ scan.entries, c.node.Clear s := by
    refine Unless.foldlM (fun scan hscan cpu _ => ?_) (by simp)
    refine listDir_unless.bind fun names _ => ?_
    refine Unless.foldlM (fun scan hscan index _ => ?_) hscan
    refine Unless.ite (fun _ => ?_) fun _ => fun _ => hscan
    refine (cacheIndex_unless hs cpu.1 _).bind fun cache hcache => ?_
    rw [unless_pure_iff]
    exact CacheScan.add_clear hscan hcache
  refine hscan.bind fun scan h => ?_
  rw [unless_pure_iff]
  exact Node.clear_entries h

theorem meminfoFileField_ne {meminfo : ReadResult} (h : meminfo.status ≠ s) (key : Bytes) :
    (meminfoFileField meminfo key).status ≠ s := by
  unfold meminfoFileField
  split
  · unfold meminfoField
    split
    · exact hs.ne_ok
    · exact hs.ne_notFound
  · exact h

theorem transparentHugepagesEnabled_unless :
    (transparentHugepagesEnabled options).Unless env (env.Causes .memory s) fun field =>
      field.status ≠ s := by
  refine (readFirstLine_unless hs).bind fun result ⟨hresult, _⟩ => ?_
  rw [unless_pure_iff]
  split
  · exact hresult.status
  · exact hs.ne_ok

theorem numaNode_unless (root : Bytes) (entry : EntryName) :
    (numaNode root entry).Unless env (env.Causes .memory s) fun node =>
      ∀ n ∈ node, n.node.Clear s := by
  unfold numaNode
  split
  · exact unless_none
  · refine (readStringField_unless hs).bind fun cpus hcpus => ?_
    refine (readFile_unless hs).bind fun meminfo ⟨hmeminfo, _⟩ => ?_
    have hfield := meminfoFileField_ne hs hmeminfo.status
    rw [unless_pure_iff]
    rintro _ ⟨⟩
    simp [NumaNodeInfo.node, AnyField.status, hs.ne_ok, hfield, hcpus]

theorem collectMemory_unless :
    (collectMemory options).Unless env (env.Causes .memory s) fun info => info.node.Clear s := by
  refine (readFile_unless hs).bind fun meminfo ⟨hmeminfo, _⟩ => ?_
  refine (ask_unless _).bind fun page _ => ?_
  refine (transparentHugepagesEnabled_unless hs).bind fun huge hhuge => ?_
  have hnodes : (collectNumaNodes options).Unless env (env.Causes .memory s) fun nodes =>
      ∀ n ∈ nodes, n.node.Clear s := by
    refine listDir_unless.bind fun names _ => ?_
    exact Unless.gather fun entry _ => numaNode_unless hs _ entry
  refine hnodes.bind fun nodes hnodes => ?_
  have hlist := Node.clear_list hnodes
  have hfield := meminfoFileField_ne hs hmeminfo.status
  have hpage := pageSizeField_ne hs page
  rw [unless_pure_iff]
  simp [MemoryInfo.node, AnyField.status, *]

/-! ## Thermal zones -/

theorem collectThermal_unless :
    (collectThermal options).Unless env (env.Causes .thermal s) fun info => info.node.Clear s := by
  refine listDir_unless.bind fun names _ => ?_
  have hzones : (gather (thermalZone (sysPath options "/class/thermal")) names).Unless env
      (env.Causes .thermal s) fun zones => ∀ zone ∈ zones, zone.node.Clear s := by
    refine Unless.gather fun entry _ => ?_
    refine Unless.ite (fun _ => ?_) fun _ => ?_
    · refine (readStringField_unless hs).bind fun type htype => ?_
      refine (readStringField_unless hs).bind fun temp htemp => ?_
      rw [unless_pure_iff]
      rintro _ ⟨⟩
      simp [ThermalZoneInfo.node, AnyField.status, hs.ne_ok, *]
    · exact unless_none
  refine hzones.bind fun zones h => ?_
  rw [unless_pure_iff]
  exact Node.clear_entries h

/-! ## Power -/

/-- What the supply loop has found does not have the status. -/
def PowerScan.Clear (s : Status) (scan : PowerScan) : Prop :=
  scan.batteryStatus.status ≠ s ∧ scan.batteryCapacityPercent.status ≠ s

theorem powerSupply_unless (root : Bytes) {scan : PowerScan} (hscan : scan.Clear s)
    (entry : EntryName) :
    (powerSupply root scan entry).Unless env (env.Causes .power s) (PowerScan.Clear s) := by
  refine (readStringField_unless hs).bind fun type _ => ?_
  refine Unless.ite (fun _ => fun _ => hscan) fun _ => ?_
  refine Unless.ite (fun _ => ?_) fun _ => ?_
  · refine (keepValid_unless hscan.1 (readStringField_unless hs)).bind fun status hstatus => ?_
    refine (keepValid_unless hscan.2 (readU64Field_unless hs (by decide))).bind
      fun capacity hcapacity => ?_
    rw [unless_pure_iff]
    exact ⟨hstatus, hcapacity⟩
  · refine Unless.ite (fun _ => ?_) fun _ => fun _ => hscan
    refine (readU64Field_unless hs (by decide)).bind fun online _ => ?_
    rw [unless_pure_iff]
    exact hscan

theorem onBatteryField_ne (scan : PowerScan) : (onBatteryField scan).status ≠ s := by
  unfold onBatteryField
  split_ifs
  · exact hs.ne_ok
  · exact hs.ne_ok
  · exact hs.ne_notFound
  · exact hs.ne_ok
  · exact hs.ne_notFound

theorem collectPower_unless :
    (collectPower options).Unless env (env.Causes .power s) fun info => info.node.Clear s := by
  have hkhz : ∀ paths, (∀ path ∈ paths, Category.power.NumberFile (.u64 1) path) →
      (readKhzAsMhz paths).Unless env (env.Causes .power s) fun field => field.status ≠ s :=
    firstU64_unless hs _ hs.ne_notFound
  refine listDir_unless.bind fun names _ => ?_
  refine (Unless.foldlM (fun scan hscan entry _ => powerSupply_unless hs _ hscan entry)
    ⟨hs.ne_notFound, hs.ne_notFound⟩).bind fun scan hscan => ?_
  obtain ⟨hstatus, hcapacity⟩ := hscan
  refine (readStringField_unless hs).bind fun governor hgovernor => ?_
  refine (hkhz _ (numberFile_pair (by decide) (by decide))).bind
    fun cur hcur => ?_
  refine (hkhz _ (numberFile_pair (by decide) (by decide))).bind
    fun min hmin => ?_
  refine (hkhz _ (numberFile_pair (by decide) (by decide))).bind
    fun max hmax => ?_
  have hbattery := onBatteryField_ne hs scan
  rw [unless_pure_iff]
  simp [PowerInfo.node, AnyField.status, *]

/-! ## Platform -/

theorem secureBootField_ne {value : ReadResult} {held : Option Bytes} (hvalue : value.Clear s held)
    (hshort : ∀ text, held = some text → text.length ≤ 4 → Status.parseError ≠ s) :
    (secureBootField value).status ≠ s := by
  unfold secureBootField
  split
  · exact hvalue.status
  · rename_i hok
    split
    · exact hs.ne_ok
    · rename_i hnone
      exact hshort _ (hvalue.held_eq (not_not.1 hok)) (List.getElem?_eq_none_iff.1 hnone)

theorem collectSecureBoot_unless :
    (collectSecureBoot options).Unless env (env.Causes .platform s) fun field =>
      field.status ≠ s := by
  refine listDir_unless.bind fun names _ => ?_
  split
  · rw [unless_pure_iff]
    exact hs.ne_notFound
  · rename_i entry hentry
    have hname : startsWith entry.name "SecureBoot-" = true := by simpa using List.find?_some hentry
    refine (readFile_unless hs).bind fun value ⟨hvalue, hfile⟩ => ?_
    rw [unless_pure_iff]
    apply secureBootField_ne hs hvalue
    rintro text htext hlength rfl
    exact hfile (.shortVariable rfl hname htext hlength)

theorem collectPlatform_unless :
    (collectPlatform options).Unless env (env.Causes .platform s) fun info =>
      info.node.Clear s := by
  refine (readStringField_unless hs).bind fun vendor hvendor => ?_
  refine (readStringField_unless hs).bind fun product hproduct => ?_
  refine (readStringField_unless hs).bind fun version hversion => ?_
  refine (readStringField_unless hs).bind fun boardVendor hboardVendor => ?_
  refine (readStringField_unless hs).bind fun boardName hboardName => ?_
  refine (readStringField_unless hs).bind fun biosVendor hbiosVendor => ?_
  refine (readStringField_unless hs).bind fun biosVersion hbiosVersion => ?_
  refine (readStringField_unless hs).bind fun biosDate hbiosDate => ?_
  refine (ask_unless _).bind fun uefi _ => ?_
  have hboot : (if uefi then collectSecureBoot options
      else Pure.pure (.unavailable .notFound) : Collect BoolField).Unless env
        (env.Causes .platform s) fun field => field.status ≠ s := by
    refine Unless.ite (fun _ => collectSecureBoot_unless hs) fun _ => ?_
    rw [unless_pure_iff]
    exact hs.ne_notFound
  refine hboot.bind fun secureBoot hsecureBoot => ?_
  rw [unless_pure_iff]
  simp [PlatformInfo.node, AnyField.status, hs.ne_ok, *]

end Collectors

end Archspec
