import Archspec.Footprint

/-!
# The calls and the answers of every collector
-/

namespace Archspec

open Lib Program
open Node (Step)

variable {options : CollectOptions} {guard : Primitive → Prop}

/-! ## PCI devices -/

theorem pciDevice_meets (hG : ∀ p, Files options .pci p → guard p) {root : Bytes}
    (hroot : Under options 3 root) (address : EntryName) :
    (pciDevice root address).Meets guard fun device => ∀ d ∈ device, d.node.Plain := by
  have hpath := hroot.join_name address
  have hreads : ∀ suffix : Bytes, ReadableBelow 3 .pci suffix →
      Reads guard (joinPath (joinPath root address.name) suffix) :=
    fun _ => reads_joinPath hG hpath
  refine (meets_call (hG _ hpath.files_isDirectory) fun _ => trivial).bind fun isDir _ => ?_
  refine Meets.ite (fun _ => ?_) fun _ => ?_
  · refine (readStringField_meets (hreads _ (by decide))).bind fun vendorId hvendorId => ?_
    refine (readStringField_meets (hreads _ (by decide))).bind fun deviceId hdeviceId => ?_
    refine (readStringField_meets (hreads _ (by decide))).bind fun subVendor hsubVendor => ?_
    refine (readStringField_meets (hreads _ (by decide))).bind fun subDevice hsubDevice => ?_
    refine (readStringField_meets (hreads _ (by decide))).bind fun classId hclassId => ?_
    refine (readSymlinkBasenameField_meets (hreads _ (by decide))).bind fun driver hdriver => ?_
    refine (readI64Field_meets (hreads _ (by decide))).bind fun numaNode hnumaNode => ?_
    refine (readSymlinkBasenameField_meets (hreads _ (by decide))).bind fun group hgroup => ?_
    refine (pathExists_meets (hreads _ (by decide)).pathExists).bind fun resource _ => ?_
    have hresource : (if resource then Field.ofValue (joinPath (joinPath root address.name) "resource")
        else .unavailable .notFound : StringField).Plain := by
      split <;> simp
    rw [meets_pure_iff]
    rintro d ⟨⟩
    simp [PciDeviceInfo.node, Node.Plain, *]
  · rw [meets_pure_iff]
    rintro _ ⟨⟩

theorem collectPci_meets (hG : ∀ p, Files options .pci p → guard p) :
    (collectPci options).Meets guard fun list => list.node.Plain := by
  have hroot : Under options 3 (sysPath options "/bus/pci/devices") :=
    under_sysPath (by decide) (by decide)
  refine (listDir_meets (hG _ hroot.files_listDirectory)).bind fun names _ => ?_
  refine (Meets.gather fun address _ => pciDevice_meets hG hroot address).bind fun entries h => ?_
  exact Node.plain_entries h

/-! ## Block devices -/

theorem readBoolNumber_meets {path : Bytes} (h : Reads guard path) :
    (readBoolNumber path).Meets guard Field.Plain := by
  refine (readU64Field_meets h).bind fun value hvalue => ?_
  rw [meets_pure_iff]
  split
  · exact Field.plain_ofValue _
  · exact Field.plain_unavailable (hvalue.status_ne_ok (by simpa using ‹¬ value.valid = true›))
      hvalue.2

theorem blockDevice_meets (hG : ∀ p, Files options .block p → guard p) (entry : EntryName) :
    (blockDevice options entry).Meets guard fun device => ∀ d ∈ device, d.node.Plain := by
  have hroot : Under options 1 (sysPath options "/block") := under_sysPath (by decide) (by decide)
  have hpath := hroot.join_name entry
  have hreads : ∀ suffix : Bytes, ReadableBelow 1 .block suffix →
      Reads guard (joinPath (joinPath (sysPath options "/block") entry.name) suffix) :=
    fun _ => reads_joinPath hG hpath
  refine Meets.ite (fun _ => ?_) fun _ => ?_
  · rintro _ ⟨⟩
  refine (meets_call (hG _ hpath.files_isDirectory) fun _ => trivial).bind fun isDir _ => ?_
  refine Meets.ite (fun _ => ?_) fun _ => ?_
  · refine (readStringField_meets (hreads _ (by decide))).bind fun model hmodel => ?_
    refine (readStringField_meets (hreads _ (by decide))).bind fun vendor hvendor => ?_
    refine (readBoolNumber_meets (hreads _ (by decide))).bind fun rotational hrotational => ?_
    refine (readU64Field_meets (hreads _ (by decide)) 512).bind fun size hsize => ?_
    refine (readU64Field_meets (hreads _ (by decide))).bind fun logical hlogical => ?_
    refine (readU64Field_meets (hreads _ (by decide))).bind fun physical hphysical => ?_
    refine (readStringField_meets (hreads _ (by decide))).bind fun scheduler hscheduler => ?_
    rw [meets_pure_iff]
    rintro d ⟨⟩
    simp [BlockDeviceInfo.node, Node.Plain, *]
  · rintro _ ⟨⟩

theorem collectBlock_meets (hG : ∀ p, Files options .block p → guard p) :
    (collectBlock options).Meets guard fun list => list.node.Plain := by
  have hroot : Under options 1 (sysPath options "/block") := under_sysPath (by decide) (by decide)
  refine (listDir_meets (hG _ hroot.files_listDirectory)).bind fun names _ => ?_
  refine (Meets.gather fun entry _ => blockDevice_meets hG entry).bind fun entries h => ?_
  exact Node.plain_entries h

/-! ## GPUs -/

theorem renderNodesByPci_meets (hG : ∀ p, Files options .gpu p → guard p) :
    (renderNodesByPci options).Meets guard fun _ => True := by
  have hroot : Under options 2 (sysPath options "/class/drm") :=
    under_sysPath (by decide) (by decide)
  refine (listDir_meets (hG _ hroot.files_listDirectory)).bind fun names _ => ?_
  refine Meets.foldlM (fun nodes _ entry _ => ?_) trivial
  refine Meets.ite (fun _ => ?_) fun _ => trivial
  have hdevice : Under options 3
      (joinPath (sysPath options "/class/drm") (entry.name ++ "/device")) :=
    hroot.join_name_append entry (by decide)
  refine (readSymlinkTarget_meets (hG _ hdevice.files_readSymlink)).bind fun target _ => ?_
  cases target <;> trivial

/-- The candidates of a multi-file reader end in the status of one of them. -/
theorem firstU64_meets (convert : UInt64 → UInt64) {lastStatus : Status}
    (hlast : lastStatus ≠ .ok ∧ lastStatus ≠ .redacted) {paths : List Bytes}
    (h : ∀ path ∈ paths, Reads guard path) :
    (firstU64 convert lastStatus paths).Meets guard Field.Plain := by
  induction paths generalizing lastStatus with
  | nil => exact Field.plain_unavailable hlast.1 hlast.2
  | cons path paths ih =>
    refine (readU64Field_meets (h path List.mem_cons_self)).bind fun value hvalue => ?_
    refine Meets.ite (fun _ => Field.plain_ofValue _) fun hinvalid => ?_
    refine ih ?_ fun path hpath => h path (List.mem_cons_of_mem _ hpath)
    split
    · exact ⟨hvalue.status_ne_ok (by simpa using hinvalid), hvalue.2⟩
    · exact hlast

theorem hwmonDirectory_meets (hG : ∀ p, Files options .gpu p → guard p) {hwmonRoot : Bytes}
    (hroot : Under options 3 hwmonRoot) {fields : U64Field × U64Field}
    (hfields : fields.1.Plain ∧ fields.2.Plain) (hwmon : EntryName) :
    (hwmonDirectory hwmonRoot fields hwmon).Meets guard fun fields =>
      fields.1.Plain ∧ fields.2.Plain := by
  have hpath := hroot.join_name hwmon
  refine (keepValid_meets hfields.1 (readU64Field_meets (reads_joinPath hG hpath
    (by decide)))).bind fun temp htemp => ?_
  have hpower : (milliwatts fields.2 <$>
      readU64Field (joinPath (joinPath hwmonRoot hwmon.name) "power1_average")).Meets guard
        Field.Plain := by
    rw [map_eq_pure_bind]
    refine (readU64Field_meets (reads_joinPath hG hpath (by decide))).bind fun power _ => ?_
    rw [meets_pure_iff, milliwatts]
    split
    · exact Field.plain_ofValue _
    · exact hfields.2
  refine (keepValid_meets hfields.2 hpower).bind fun power hpower => ?_
  exact ⟨htemp, hpower⟩

theorem fillHwmonFields_meets (hG : ∀ p, Files options .gpu p → guard p) {pciPath : Bytes}
    (hpath : Under options 2 pciPath) :
    (fillHwmonFields pciPath).Meets guard fun fields => fields.1.Plain ∧ fields.2.Plain := by
  have hroot : Under options 3 (joinPath pciPath "hwmon") := hpath.join (by decide)
  refine (listDir_meets (hG _ hroot.files_listDirectory)).bind fun hwmons _ => ?_
  exact Meets.foldlM (fun fields hfields hwmon _ => hwmonDirectory_meets hG hroot hfields hwmon)
    ⟨Field.plain_initial, Field.plain_initial⟩

theorem gpuFromPci_meets (hG : ∀ p, Files options .gpu p → guard p) {pciPath : Bytes}
    (hpath : Under options 2 pciPath) (pciAddress : Bytes) (renderNodes : KeyValueMap) :
    (gpuFromPci pciAddress pciPath renderNodes).Meets guard fun gpu => gpu.node.Plain := by
  have hreads : ∀ suffix : Bytes, ReadableBelow 2 .gpu suffix →
      Reads guard (joinPath pciPath suffix) := fun _ => reads_joinPath hG hpath
  refine (readStringField_meets (hreads _ (by decide))).bind fun vendorId hvendorId => ?_
  refine (readStringField_meets (hreads _ (by decide))).bind fun deviceId hdeviceId => ?_
  refine (readSymlinkBasenameField_meets (hreads _ (by decide))).bind fun driver hdriver => ?_
  refine (firstU64_meets id (by decide) ?_).bind fun total htotal => ?_
  · simpa using ⟨hreads _ (by decide), hreads _ (by decide)⟩
  refine (firstU64_meets id (by decide) ?_).bind fun used hused => ?_
  · simpa using ⟨hreads _ (by decide), hreads _ (by decide)⟩
  refine (fillHwmonFields_meets hG hpath).bind fun hwmon hhwmon => ?_
  have hname : (gpuName vendorId deviceId pciAddress).Plain := by
    unfold gpuName
    split <;> exact Field.plain_ofValue _
  have hrender : (renderNodeField renderNodes pciAddress).Plain := by
    unfold renderNodeField
    split <;> simp
  have hcuda : (if vendorFromId vendorId = .nvidia then .unavailable .unsupported
      else .ofValue false : BoolField).Plain := by
    split <;> simp
  rw [meets_pure_iff]
  simp [GpuInfo.node, Node.Plain, *]

theorem collectGpu_meets (hG : ∀ p, Files options .gpu p → guard p) :
    (collectGpu options).Meets guard fun list => list.node.Plain := by
  have hdrm : Under options 2 (sysPath options "/class/drm") :=
    under_sysPath (by decide) (by decide)
  have hpci : Under options 3 (sysPath options "/bus/pci/devices") :=
    under_sysPath (by decide) (by decide)
  refine (renderNodesByPci_meets hG).bind fun renderNodes _ => ?_
  refine (listDir_meets (hG _ hdrm.files_listDirectory)).bind fun cards _ => ?_
  have hcards : (cards.foldlM (drmCard options renderNodes) {}).Meets guard fun scan =>
      ∀ gpu ∈ scan.entries, gpu.node.Plain := by
    refine Meets.foldlM (fun scan hscan card _ => ?_) (by simp)
    refine Meets.ite (fun _ => hscan) fun _ => ?_
    have hdevice : Under options 3
        (joinPath (sysPath options "/class/drm") (card.name ++ "/device")) :=
      hdrm.join_name_append card (by decide)
    refine (readSymlinkTarget_meets (hG _ hdevice.files_readSymlink)).bind fun target _ => ?_
    cases target with
    | none => exact hscan
    | some target =>
      refine Meets.ite (fun _ => hscan) fun _ => ?_
      refine (gpuFromPci_meets hG (hpci.join_basename target) _ renderNodes).bind fun gpu hgpu => ?_
      rw [meets_pure_iff]
      intro g hg
      rcases List.mem_append.1 hg with hg | hg
      · exact hscan g hg
      · obtain rfl := List.mem_singleton.1 hg
        simp only [GpuInfo.node, Node.Plain, Node.forall_record, List.forall_mem_cons,
          Node.forall_field, AnyField.plain_string, Field.plain_ofValue] at hgpu ⊢
        obtain ⟨hvendor, hname, -, hgpu⟩ := hgpu
        exact ⟨hvendor, hname, trivial, hgpu⟩
  refine hcards.bind fun scan hscan => ?_
  refine (listDir_meets (hG _ hpci.files_listDirectory)).bind fun addresses _ => ?_
  have hrest : (gather (pciGpu options renderNodes scan.seen) addresses).Meets guard fun gpus =>
      ∀ gpu ∈ gpus, gpu.node.Plain := by
    refine Meets.gather fun address _ => ?_
    refine Meets.ite (fun _ => by rintro _ ⟨⟩) fun _ => ?_
    have hpath := hpci.join_name address
    refine (readStringField_meets (reads_joinPath hG hpath (by decide))).bind fun classId _ => ?_
    refine Meets.ite (fun _ => ?_) fun _ => by rintro _ ⟨⟩
    rw [map_eq_pure_bind]
    refine (gpuFromPci_meets hG (hpath.mono (by decide)) _ renderNodes).bind fun gpu hgpu => ?_
    rintro _ ⟨⟩
    exact hgpu
  refine hrest.bind fun rest hrest => ?_
  refine Node.plain_entries fun gpu hgpu => ?_
  rcases List.mem_append.1 hgpu with h | h
  · exact hscan gpu h
  · exact hrest gpu h

/-! ## Thermal zones -/

theorem collectThermal_meets (hG : ∀ p, Files options .thermal p → guard p) :
    (collectThermal options).Meets guard fun info => info.node.Plain := by
  have hroot : Under options 2 (sysPath options "/class/thermal") :=
    under_sysPath (by decide) (by decide)
  refine (listDir_meets (hG _ hroot.files_listDirectory)).bind fun names _ => ?_
  have hzones : (gather (thermalZone (sysPath options "/class/thermal")) names).Meets guard
      fun zones => ∀ zone ∈ zones, zone.node.Plain := by
    refine Meets.gather fun entry _ => ?_
    refine Meets.ite (fun _ => ?_) fun _ => by rintro _ ⟨⟩
    have hpath := hroot.join_name entry
    refine (readStringField_meets (reads_joinPath hG hpath (by decide))).bind fun type htype => ?_
    refine (readStringField_meets (reads_joinPath hG hpath (by decide))).bind fun temp htemp => ?_
    rintro _ ⟨⟩
    simp [ThermalZoneInfo.node, Node.Plain, *]
  exact hzones.bind fun zones h => Node.plain_entries h

/-! ## Power -/

/-- What the supply loop has found is plain. -/
def PowerScan.Plain (scan : PowerScan) : Prop :=
  scan.batteryStatus.Plain ∧ scan.batteryCapacityPercent.Plain

theorem powerSupply_meets (hG : ∀ p, Files options .power p → guard p) {root : Bytes}
    (hroot : Under options 2 root) {scan : PowerScan} (hscan : scan.Plain) (entry : EntryName) :
    (powerSupply root scan entry).Meets guard PowerScan.Plain := by
  have hpath := hroot.join_name entry
  have hreads : ∀ suffix : Bytes, ReadableBelow 2 .power suffix →
      Reads guard (joinPath (joinPath root entry.name) suffix) :=
    fun _ => reads_joinPath hG hpath
  refine (readStringField_meets (hreads _ (by decide))).bind fun type _ => ?_
  refine Meets.ite (fun _ => hscan) fun _ => ?_
  refine Meets.ite (fun _ => ?_) fun _ => ?_
  · refine (keepValid_meets hscan.1 (readStringField_meets (hreads _ (by decide)))).bind
      fun status hstatus => ?_
    refine (keepValid_meets hscan.2 (readU64Field_meets (hreads _ (by decide)))).bind
      fun capacity hcapacity => ?_
    exact ⟨hstatus, hcapacity⟩
  · refine Meets.ite (fun _ => ?_) fun _ => hscan
    exact (readU64Field_meets (hreads _ (by decide))).bind fun online _ => hscan

theorem collectPower_meets (hG : ∀ p, Files options .power p → guard p) :
    (collectPower options).Meets guard fun info => info.node.Plain := by
  have hroot : Under options 2 (sysPath options "/class/power_supply") :=
    under_sysPath (by decide) (by decide)
  have hcpufreq : Under options 5 (sysPath options "/devices/system/cpu/cpu0/cpufreq") :=
    under_sysPath (by decide) (by decide)
  have hreads : ∀ suffix : Bytes, ReadableBelow 5 .power suffix →
      Reads guard (joinPath (sysPath options "/devices/system/cpu/cpu0/cpufreq") suffix) :=
    fun _ => reads_joinPath hG hcpufreq
  have hkhz : ∀ s t : Bytes, ReadableBelow 5 .power s → ReadableBelow 5 .power t →
      (readKhzAsMhz [joinPath (sysPath options "/devices/system/cpu/cpu0/cpufreq") s,
        joinPath (sysPath options "/devices/system/cpu/cpu0/cpufreq") t]).Meets guard
          Field.Plain := by
    intro s t hs ht
    exact firstU64_meets _ (by decide) (by simpa using ⟨hreads s hs, hreads t ht⟩)
  refine (listDir_meets (hG _ hroot.files_listDirectory)).bind fun names _ => ?_
  refine (Meets.foldlM (fun scan hscan entry _ => powerSupply_meets hG hroot hscan entry)
    (by simp [PowerScan.Plain])).bind fun scan hscan => ?_
  obtain ⟨hstatus, hcapacity⟩ := hscan
  refine (readStringField_meets (hreads _ (by decide))).bind fun governor hgovernor => ?_
  refine (hkhz _ _ (by decide) (by decide)).bind fun cur hcur => ?_
  refine (hkhz _ _ (by decide) (by decide)).bind fun min hmin => ?_
  refine (hkhz _ _ (by decide) (by decide)).bind fun max hmax => ?_
  have hbattery : (onBatteryField scan).Plain := by
    unfold onBatteryField
    split_ifs <;> simp
  rw [meets_pure_iff]
  simp [PowerInfo.node, Node.Plain, *]

/-! ## Platform -/

theorem collectSecureBoot_meets (hG : ∀ p, Files options .platform p → guard p) :
    (collectSecureBoot options).Meets guard Field.Plain := by
  have hroot : Under options 3 (sysPath options "/firmware/efi/efivars") :=
    under_sysPath (by decide) (by decide)
  refine (listDir_meets (hG _ hroot.files_listDirectory)).bind fun names _ => ?_
  split
  · exact Field.plain_notFound
  · rename_i entry hentry
    have hname := List.find?_some hentry
    have hreadable : ReadableBelow 3 .platform entry.name := by
      refine readableBelow_name entry (fun h => ?_) fun h => ?_
      · exact absurd (h ▸ hname) (by decide)
      · exact absurd (h ▸ hname) (by decide)
    refine (readFile_meets (reads_joinPath hG hroot hreadable)).bind fun value hvalue => ?_
    rw [meets_pure_iff, secureBootField]
    split
    · exact Field.plain_unavailable ‹_› hvalue
    · split <;> simp

theorem collectPlatform_meets (hG : ∀ p, Files options .platform p → guard p) :
    (collectPlatform options).Meets guard fun info => info.node.Plain := by
  have hdmi : Under options 3 (sysPath options "/class/dmi/id") :=
    under_sysPath (by decide) (by decide)
  have hreads : ∀ suffix : Bytes, ReadableBelow 3 .platform suffix →
      Reads guard (joinPath (sysPath options "/class/dmi/id") suffix) :=
    fun _ => reads_joinPath hG hdmi
  have hefi : Under options 2 (sysPath options "/firmware/efi") :=
    under_sysPath (by decide) (by decide)
  refine (readStringField_meets (hreads _ (by decide))).bind fun vendor hvendor => ?_
  refine (readStringField_meets (hreads _ (by decide))).bind fun product hproduct => ?_
  refine (readStringField_meets (hreads _ (by decide))).bind fun version hversion => ?_
  refine (readStringField_meets (hreads _ (by decide))).bind fun boardVendor hboardVendor => ?_
  refine (readStringField_meets (hreads _ (by decide))).bind fun boardName hboardName => ?_
  refine (readStringField_meets (hreads _ (by decide))).bind fun biosVendor hbiosVendor => ?_
  refine (readStringField_meets (hreads _ (by decide))).bind fun biosVersion hbiosVersion => ?_
  refine (readStringField_meets (hreads _ (by decide))).bind fun biosDate hbiosDate => ?_
  refine (meets_call (hG _ hefi.files_isDirectory) fun _ => trivial).bind fun uefi _ => ?_
  have hboot : (if uefi then collectSecureBoot options
      else Pure.pure (.unavailable .notFound) : Collect BoolField).Meets guard Field.Plain :=
    Meets.ite (fun _ => collectSecureBoot_meets hG) fun _ => Field.plain_notFound
  refine hboot.bind fun secureBoot hsecureBoot => ?_
  rw [meets_pure_iff]
  simp [PlatformInfo.node, Node.Plain, *]

/-! ## Caches -/

theorem cpuDirs_meets {c : Category} (hG : ∀ p, Files options c p → guard p) :
    (cpuDirs options).Meets guard fun cpus => ∀ cpu ∈ cpus, Under options 3 cpu.2 := by
  have hroot : Under options 3 (sysPath options "/devices/system/cpu") :=
    under_sysPath (by decide) (by decide)
  refine (listDir_meets (hG _ hroot.files_listDirectory)).bind fun names _ => ?_
  rw [meets_pure_iff]
  intro cpu hcpu
  rw [List.mem_insertionSort, List.mem_filterMap] at hcpu
  obtain ⟨entry, -, hentry⟩ := hcpu
  obtain ⟨id, -, rfl⟩ := Option.map_eq_some_iff.1 hentry
  exact hroot.join_name entry

theorem cacheIndex_meets (hG : ∀ p, Files options .cache p → guard p) {path : Bytes}
    (hpath : Under options 4 path) (cpu : UInt64) :
    (cacheIndex cpu path).Meets guard fun cache => cache.node.Plain := by
  have hreads : ∀ suffix : Bytes, ReadableBelow 4 .cache suffix →
      Reads guard (joinPath path suffix) := fun _ => reads_joinPath hG hpath
  refine (readU32Field_meets (hreads _ (by decide))).bind fun level hlevel => ?_
  refine (readSizeBytesField_meets (hreads _ (by decide))).bind fun size hsize => ?_
  refine (readU64Field_meets (hreads _ (by decide))).bind fun lineSize hlineSize => ?_
  refine (readU64Field_meets (hreads _ (by decide))).bind fun ways hways => ?_
  refine (readU64Field_meets (hreads _ (by decide))).bind fun sets hsets => ?_
  refine (readStringField_meets (hreads _ (by decide))).bind fun shared hshared => ?_
  refine (readStringField_meets (hreads _ (by decide))).bind fun type _ => ?_
  rw [meets_pure_iff]
  simp [CacheInfo.node, Node.Plain, *]

theorem CacheScan.add_plain {scan : CacheScan} {cache : CacheInfo}
    (hscan : ∀ c ∈ scan.entries, c.node.Plain) (hcache : cache.node.Plain) :
    ∀ c ∈ (scan.add cache).entries, c.node.Plain := by
  unfold CacheScan.add
  split
  · exact hscan
  · intro c hc
    rcases List.mem_append.1 hc with hc | hc
    · exact hscan c hc
    · rw [List.mem_singleton.1 hc]
      exact hcache

theorem collectCache_meets (hG : ∀ p, Files options .cache p → guard p) :
    (collectCache options).Meets guard fun list => list.node.Plain := by
  have hscan : ∀ cpus : List (UInt64 × Bytes), (∀ cpu ∈ cpus, Under options 3 cpu.2) →
      (cpus.foldlM cpuCaches {}).Meets guard fun scan => ∀ c ∈ scan.entries, c.node.Plain := by
    intro cpus hcpus
    refine Meets.foldlM (fun scan hscan cpu hcpu => ?_) (by simp)
    have hroot : Under options 4 (joinPath cpu.2 "cache") := (hcpus cpu hcpu).join (by decide)
    refine (listDir_meets (hG _ hroot.files_listDirectory)).bind fun names _ => ?_
    refine Meets.foldlM (fun scan hscan index _ => ?_) hscan
    refine Meets.ite (fun _ => ?_) fun _ => hscan
    refine (cacheIndex_meets hG (hroot.join_name index) cpu.1).bind fun cache hcache => ?_
    exact CacheScan.add_plain hscan hcache
  refine (cpuDirs_meets hG).bind fun cpus hcpus => ?_
  exact (hscan cpus hcpus).bind fun scan h => Node.plain_entries h

/-! ## Memory -/

theorem pageSizeField_plain (page : Int64) : (pageSizeField page).Plain := by
  unfold pageSizeField
  split <;> simp

theorem meminfoFileField_plain {meminfo : ReadResult} (h : meminfo.status ≠ .redacted)
    (key : Bytes) : (meminfoFileField meminfo key).Plain := by
  unfold meminfoFileField
  split
  · unfold meminfoField
    split <;> simp
  · exact Field.plain_unavailable ‹_› h

theorem transparentHugepagesEnabled_meets (hG : ∀ p, Files options .memory p → guard p) :
    (transparentHugepagesEnabled options).Meets guard Field.Plain := by
  refine (readFirstLine_meets (reads_sysPath hG (by decide))).bind fun result hresult => ?_
  rw [meets_pure_iff]
  split
  · exact Field.plain_unavailable ‹_› hresult
  · exact Field.plain_ofValue _

theorem numaNode_meets (hG : ∀ p, Files options .memory p → guard p) {root : Bytes}
    (hroot : Under options 3 root) (entry : EntryName) :
    (numaNode root entry).Meets guard fun node => ∀ n ∈ node, n.node.Plain := by
  have hpath := hroot.join_name entry
  unfold numaNode
  split
  · rintro _ ⟨⟩
  · refine (readStringField_meets (reads_joinPath hG hpath (by decide))).bind fun cpus hcpus => ?_
    refine (readFile_meets (reads_joinPath hG hpath (by decide))).bind fun meminfo hmeminfo => ?_
    rintro _ ⟨⟩
    simp [NumaNodeInfo.node, Node.Plain, meminfoFileField_plain hmeminfo, hcpus]

theorem collectNumaNodes_meets (hG : ∀ p, Files options .memory p → guard p) :
    (collectNumaNodes options).Meets guard fun nodes => ∀ n ∈ nodes, n.node.Plain := by
  have hroot : Under options 3 (sysPath options "/devices/system/node") :=
    under_sysPath (by decide) (by decide)
  refine (listDir_meets (hG _ hroot.files_listDirectory)).bind fun names _ => ?_
  exact Meets.gather fun entry _ => numaNode_meets hG hroot entry

theorem collectMemory_meets (hG : ∀ p, Footprint options .memory p → guard p) :
    (collectMemory options).Meets guard fun info => info.node.Plain := by
  have hfiles : ∀ p, Files options .memory p → guard p := fun p h => hG p (Or.inl h)
  refine (readFile_meets (reads_procPath hfiles (by decide))).bind fun meminfo hmeminfo => ?_
  refine (meets_call (hG .pageSize (Or.inr (Or.inr rfl))) fun _ => trivial).bind fun page _ => ?_
  refine (transparentHugepagesEnabled_meets hfiles).bind fun huge hhuge => ?_
  refine (collectNumaNodes_meets hfiles).bind fun nodes hnodes => ?_
  have hlist := Node.plain_list hnodes
  have hfield := meminfoFileField_plain hmeminfo
  rw [meets_pure_iff]
  simp only [MemoryInfo.node, Node.Plain, Node.forall_record, List.forall_mem_cons,
    Node.forall_field, AnyField.plain_u64, AnyField.plain_bool]
  exact ⟨hfield _, hfield _, hfield _, hfield _, hfield _, hfield _, hfield _,
    pageSizeField_plain page, hfield _, hfield _, hfield _, hhuge, hlist, by simp⟩

/-! ## CPU flags -/

@[simp] theorem boolFromFlag_plain (flags : Finset Bytes) (name : Bytes) :
    (boolFromFlag flags name).Plain := Field.plain_ofValue _

@[simp] theorem anyFlag_plain (flags : Finset Bytes) (names : List Bytes) :
    (anyFlag flags names).Plain := Field.plain_ofValue _

/-- The features are plain when every member of the three families and the raw flags are. -/
theorem IsaFeatures.plain_of_members {features : IsaFeatures}
    (hx86 : ∀ m ∈ features.x86Members, m.2.Plain) (harm : ∀ m ∈ features.armMembers, m.2.Plain)
    (hriscv : ∀ m ∈ features.riscvMembers, m.2.Plain) (hraw : features.rawFlags.Plain) :
    features.node.Plain := by
  rw [IsaFeatures.node, Node.Plain, Node.forall_record, List.forall_mem_append,
    List.forall_mem_append, List.forall_mem_append, List.forall_mem_singleton, Node.forall_field]
  exact ⟨⟨⟨hx86, harm⟩, hriscv⟩, hraw⟩

theorem plain_field_bool (f : BoolField) : (f : Node).Plain ↔ f.Plain := Node.forall_field _

theorem noFeatures_plain {status : Status} (hok : status ≠ .ok) (hred : status ≠ .redacted) :
    (noFeatures status).node.Plain := by
  have h : (Field.unavailable status : BoolField).Plain := Field.plain_unavailable hok hred
  apply IsaFeatures.plain_of_members
  case hraw => exact Field.plain_unavailable hok hred
  all_goals
    simp only [noFeatures, markFeatureFields, IsaFeatures.x86Members, IsaFeatures.armMembers,
      IsaFeatures.riscvMembers, List.forall_mem_cons, plain_field_bool, h, true_and]
    exact List.forall_mem_nil _

theorem featuresOf_plain (source : FeatureSource) : (featuresOf source).node.Plain := by
  have h : (Field.unavailable .unsupported : BoolField).Plain :=
    Field.plain_unavailable (by decide) (by decide)
  unfold featuresOf
  split
  all_goals
    apply IsaFeatures.plain_of_members
    case hraw => exact Field.plain_ofValue _
  all_goals
    simp only [setX86Features, setArmFeatures, setRiscvFeatures, markFeatureFields,
      IsaFeatures.x86Members, IsaFeatures.armMembers, IsaFeatures.riscvMembers,
      List.forall_mem_cons, plain_field_bool, boolFromFlag_plain, anyFlag_plain,
      Field.plain_ofValue, h, true_and]
    exact List.forall_mem_nil _

theorem collectIsa_meets (hG : ∀ p, Files options .isa p → guard p) :
    (collectIsa options).Meets guard fun features => features.node.Plain := by
  refine (readFile_meets (reads_procPath hG (by decide))).bind fun cpuinfo hcpuinfo => ?_
  refine Meets.ite (fun hok => noFeatures_plain hok hcpuinfo) fun _ => ?_
  split
  · exact noFeatures_plain (by decide) (by decide)
  · rw [meets_pure_iff]
    split
    · exact noFeatures_plain (by decide) (by decide)
    · exact featuresOf_plain _

theorem flagLine_status (block : KeyValueMap) (keys : List Bytes) :
    (flagLine block keys).status ≠ .redacted := by
  induction keys with
  | nil => simp [flagLine]
  | cons key keys ih =>
    rw [flagLine]
    split
    · simp
    · exact ih

theorem readFlagLine_meets (keys : List Bytes) (h : Reads guard (procPath options "/cpuinfo")) :
    (readFlagLine keys options).Meets guard fun result => result.status ≠ .redacted := by
  refine (readFile_meets h).bind fun cpuinfo hcpuinfo => ?_
  refine Meets.ite (fun _ => hcpuinfo) fun _ => ?_
  split
  · simp [meets_pure_iff]
  · exact flagLine_status _ keys

/-! ## Performance counters -/

theorem probeHardwareCounter_meets (hG : ∀ p, Footprint options .perf p → guard p)
    (config : UInt64) :
    (probeHardwareCounter config options.allowPerfOpen).Meets guard Field.Plain := by
  refine Meets.ite (fun _ => Field.plain_unsupported) fun hallow => ?_
  have hopen : Footprint options .perf (.perfEventOpen config) :=
    Or.inr ⟨rfl, by simpa using hallow⟩
  refine (meets_call (hG _ hopen) fun _ => trivial).bind fun outcome _ => ?_
  rw [meets_pure_iff]
  obtain _ | errno := outcome
  · exact Field.plain_ofValue true
  · cases errno <;> simp [PerfOpen.counterField]

theorem fillHardwareCounterAvailability_meets
    (hG : ∀ p, Footprint options .perf p → guard p) :
    (fillHardwareCounterAvailability options.allowPerfOpen).Meets guard fun counters =>
      counters.node.Plain := by
  refine (probeHardwareCounter_meets hG 0).bind fun cycles h0 => ?_
  refine (probeHardwareCounter_meets hG 1).bind fun instructions h1 => ?_
  refine (probeHardwareCounter_meets hG 2).bind fun references h2 => ?_
  refine (probeHardwareCounter_meets hG 3).bind fun misses h3 => ?_
  refine (probeHardwareCounter_meets hG 4).bind fun branches h4 => ?_
  refine (probeHardwareCounter_meets hG 5).bind fun branchMisses h5 => ?_
  refine (probeHardwareCounter_meets hG 6).bind fun bus h6 => ?_
  refine (probeHardwareCounter_meets hG 9).bind fun refCycles h9 => ?_
  rw [meets_pure_iff]
  simp [PerfCounterAvailability.node, Node.Plain, *]

theorem tscFields_plain {flags : CpuFlagResult} (h : flags.status ≠ .redacted) :
    (tscFields flags).1.Plain ∧ (tscFields flags).2.1.Plain ∧ (tscFields flags).2.2.Plain := by
  unfold tscFields
  split
  · simp
  · unfold flagField anyFlagField
    by_cases hok : flags.status = .ok
    · simp [hok]
    · have := Field.plain_unavailable (α := Bool) hok h
      simp [hok, this]

theorem collectPerf_meets (hG : ∀ p, Footprint options .perf p → guard p) :
    (collectPerf options).Meets guard fun info => info.node.Plain := by
  have hfiles : ∀ p, Files options .perf p → guard p := fun p h => hG p (Or.inl h)
  refine (readI64Field_meets (reads_procPath hfiles (by decide))).bind fun paranoid hparanoid => ?_
  refine (fillHardwareCounterAvailability_meets hG).bind fun available havailable => ?_
  refine (readFlagLine_meets _ (reads_procPath hfiles (by decide))).bind fun flags hflags => ?_
  obtain ⟨htsc, htscp, hinvariant⟩ := tscFields_plain hflags
  rw [meets_pure_iff]
  simp only [PerfCounterInfo.node, Node.Plain, Node.forall_record, List.forall_mem_cons,
    Node.forall_field, AnyField.plain_i64, AnyField.plain_bool]
  exact ⟨hparanoid, havailable, htsc, htscp, hinvariant, by simp⟩

/-! ## Virtualization -/

theorem firstAccepted_meets (accept : Bytes → Bool) {paths : List Bytes}
    (h : ∀ path ∈ paths, Reads guard path) :
    (firstAccepted accept paths).Meets guard Field.Plain := by
  induction paths with
  | nil => exact Field.plain_notFound
  | cons path paths ih =>
    refine (readStringField_meets (h path List.mem_cons_self)).bind fun field hfield => ?_
    refine Meets.ite (fun _ => hfield) fun _ => ?_
    exact ih fun path hpath => h path (List.mem_cons_of_mem _ hpath)

/-- The files both hypervisor lookups try. -/
theorem reads_hypervisorFiles {c : Category} (hG : ∀ p, Files options c p → guard p)
    (hc : ReadableBelow 0 c "/hypervisor/type" ∧ ReadableBelow 0 c "/class/dmi/id/product_name" ∧
      ReadableBelow 0 c "/class/dmi/id/sys_vendor") :
    ∀ path ∈ [sysPath options "/hypervisor/type", sysPath options "/class/dmi/id/product_name",
      sysPath options "/class/dmi/id/sys_vendor"], Reads guard path := by
  simpa using ⟨reads_sysPath hG hc.1, reads_sysPath hG hc.2.1, reads_sysPath hG hc.2.2⟩

theorem extensionField_plain {flags : CpuFlagResult} (h : flags.status ≠ .redacted)
    (name : Bytes) : (extensionField flags name).Plain := by
  unfold extensionField
  split
  · exact boolFromFlag_plain _ _
  · split
    · exact Field.plain_unsupported
    · exact Field.plain_unavailable ‹_› h

theorem runningUnderHypervisorField_plain {flags : CpuFlagResult} (h : flags.status ≠ .redacted)
    (vendor : StringField) : (runningUnderHypervisorField flags vendor).Plain := by
  unfold runningUnderHypervisorField
  split
  · exact Field.plain_ofValue _
  · rename_i hneither
    exact Field.plain_unavailable (fun hok => hneither (by simp [hok])) h

theorem iommuPresent_meets (hG : ∀ p, Files options .virtualization p → guard p) :
    (iommuPresent options).Meets guard Field.Plain := by
  have hroot : Under options 2 (sysPath options "/kernel/iommu_groups") :=
    under_sysPath (by decide) (by decide)
  refine (meets_call (hG _ hroot.files_isDirectory) fun _ => trivial).bind fun isDir _ => ?_
  refine Meets.ite (fun _ => ?_) fun _ => Field.plain_notFound
  exact (listDir_meets (hG _ hroot.files_listDirectory)).bind fun names _ => Field.plain_ofValue _

theorem collectVirtualization_meets (hG : ∀ p, Files options .virtualization p → guard p) :
    (collectVirtualization options).Meets guard fun info => info.node.Plain := by
  refine (readFlagLine_meets _ (reads_procPath hG (by decide))).bind fun flags hflags => ?_
  refine (firstAccepted_meets _ (reads_hypervisorFiles hG (by decide))).bind fun vendor hvendor => ?_
  have hkvm : Under options 1 (devPath options "/kvm") :=
    under_ofRoot (devRoot_mem options) (by decide) (by decide)
  have hexists : Files options .virtualization (.pathExists (devPath options "/kvm")) :=
    ⟨hkvm.mono (by decide), (by decide : Readable .virtualization "/kvm").joinPath (by decide) _⟩
  refine (pathExists_meets (hG _ hexists)).bind fun kvmExists _ => ?_
  have haccess : (if kvmExists then ask (.access (devPath options "/kvm"))
      else Pure.pure false : Collect Bool).Meets guard fun _ => True :=
    Meets.ite (fun _ => meets_call (hG _ (hkvm.mono (by decide))) fun _ => trivial) fun _ => trivial
  refine haccess.bind fun kvmAccess _ => ?_
  refine (iommuPresent_meets hG).bind fun iommu hiommu => ?_
  rw [meets_pure_iff]
  simp [VirtualizationInfo.node, Node.Plain, extensionField_plain hflags,
    runningUnderHypervisorField_plain hflags, hvendor, hiommu]

/-! ## Processor -/

theorem fieldFromBlock_plain (block : KeyValueMap) (key : Bytes) :
    (fieldFromBlock block key).Plain := by
  unfold fieldFromBlock
  split <;> simp

theorem addCpuinfoTopology_plain (blocks : List KeyValueMap) :
    ∀ entry ∈ addCpuinfoTopology blocks, entry.node.Plain := by
  intro entry hentry
  obtain ⟨block, -, hblock⟩ := List.mem_filterMap.1 hentry
  obtain ⟨id, -, rfl⟩ := Option.map_eq_some_iff.1 hblock
  simp [CpuTopologyEntry.node, Node.Plain, fieldFromBlock_plain]

theorem withFallback_plain {field : U32Field} (h : field.Plain) (block : Option KeyValueMap)
    (key : Bytes) : (withFallback field block key).Plain := by
  unfold withFallback
  split
  · exact h
  · split
    · exact Field.plain_ofValue _
    · exact h

theorem numaNodeOf_plain (children : List EntryName) : (numaNodeOf children).Plain := by
  unfold numaNodeOf
  split <;> simp

theorem cpuTopologyEntry_meets (hG : ∀ p, Files options .cpu p → guard p)
    (byId : Finmap fun _ : UInt64 => KeyValueMap) {cpu : UInt64 × Bytes}
    (hpath : Under options 3 cpu.2) :
    (cpuTopologyEntry byId cpu).Meets guard fun entry => entry.node.Plain := by
  have htopology : Under options 4 (joinPath cpu.2 "topology") := hpath.join (by decide)
  have hreads : ∀ suffix : Bytes, ReadableBelow 4 .cpu suffix →
      Reads guard (joinPath (joinPath cpu.2 "topology") suffix) := fun _ => reads_joinPath hG htopology
  refine (readU32Field_meets (hreads _ (by decide))).bind fun coreId hcoreId => ?_
  refine (readU32Field_meets (hreads _ (by decide))).bind fun packageId hpackageId => ?_
  refine (readStringField_meets (hreads _ (by decide))).bind fun threads hthreads => ?_
  refine (readStringField_meets (hreads _ (by decide))).bind fun cores hcores => ?_
  refine (listDir_meets (hG _ hpath.files_listDirectory)).bind fun children _ => ?_
  rw [meets_pure_iff]
  simp [CpuTopologyEntry.node, Node.Plain, withFallback_plain, numaNodeOf_plain, *]

theorem cpuTopology_meets (hG : ∀ p, Files options .cpu p → guard p) (blocks : List KeyValueMap) :
    (cpuTopology options blocks).Meets guard fun entries => ∀ e ∈ entries, e.node.Plain := by
  refine (cpuDirs_meets hG).bind fun cpus hcpus => ?_
  have hentries : (gather (fun cpu => some <$> cpuTopologyEntry (blocksByProcessor blocks) cpu)
      cpus).Meets guard fun entries => ∀ e ∈ entries, e.node.Plain := by
    refine Meets.gather fun cpu hcpu => ?_
    rw [map_eq_pure_bind]
    refine (cpuTopologyEntry_meets hG _ (hcpus cpu hcpu)).bind fun entry hentry => ?_
    rintro _ ⟨⟩
    exact hentry
  refine hentries.bind fun entries h => ?_
  rw [meets_pure_iff]
  split
  · exact addCpuinfoTopology_plain blocks
  · exact h

theorem socketsField_plain (counts : TopologyCounts) : (socketsField counts).Plain := by
  unfold socketsField
  split <;> simp

theorem coresPerSocketField_plain {cpuCores : U64Field} (h : cpuCores.Plain)
    (counts : TopologyCounts) : (coresPerSocketField cpuCores counts).Plain := by
  unfold coresPerSocketField
  split_ifs
  · exact h
  · exact Field.plain_ofValue _
  · exact Field.plain_notFound

theorem threadsPerCoreField_plain (siblings cpuCores : U64Field) (counts : TopologyCounts) :
    (threadsPerCoreField siblings cpuCores counts).Plain := by
  unfold threadsPerCoreField
  split_ifs <;> simp

theorem cpuCountFallback_plain {field : U64Field} (h : field.Plain) (blocks : List KeyValueMap)
    (threads : UInt32) : (cpuCountFallback field blocks threads).Plain := by
  unfold cpuCountFallback
  split_ifs <;> first | exact h | exact Field.plain_ofValue _

theorem isVirtualizedField_plain (flags : Finset Bytes) {status : Status}
    (h : status ≠ .redacted) : (isVirtualizedField flags status).Plain := by
  unfold isVirtualizedField
  split_ifs with _ hok
  · exact Field.plain_ofValue _
  · exact Field.plain_notFound
  · exact Field.plain_unavailable hok h

theorem parseAddressSizes_plain (block : KeyValueMap) :
    (parseAddressSizes block).1.Plain ∧ (parseAddressSizes block).2.Plain := by
  have haddress : ∀ bits, (addressField bits).Plain := by
    rintro (_ | bits) <;> simp [addressField]
  unfold parseAddressSizes
  split
  · simp
  · exact ⟨haddress _, haddress _⟩

theorem cpuHypervisorVendor_meets (hG : ∀ p, Files options .cpu p → guard p)
    (first : KeyValueMap) (isVirtualized : BoolField) :
    (cpuHypervisorVendor options first isVirtualized).Meets guard Field.Plain := by
  refine Meets.ite (fun _ => stringFromMap_plain _ _) fun _ => ?_
  refine Meets.ite (fun _ => ?_) fun _ => Field.plain_notFound
  exact firstAccepted_meets _ (reads_hypervisorFiles hG (by decide))

theorem cpuDetails_meets (hG : ∀ p, Files options .cpu p → guard p)
    (hthreads : guard .hardwareConcurrency) {machine : StringField × ArchType}
    (hmachine : machine.1.Plain) :
    (cpuDetails options machine).Meets guard fun info => info.node.Plain := by
  refine (readFile_meets (reads_procPath hG (by decide))).bind fun cpuinfo hcpuinfo => ?_
  refine (readCpuListCountField_meets (reads_sysPath hG (by decide))).bind fun present hpresent => ?_
  refine (readCpuListCountField_meets (reads_sysPath hG (by decide))).bind fun online honline => ?_
  refine (readCpuListCountField_meets (reads_sysPath hG (by decide))).bind
    fun possible hpossible => ?_
  refine (meets_call hthreads fun _ => trivial).bind fun threads _ => ?_
  refine (cpuTopology_meets hG _).bind fun topology htopology => ?_
  refine (cpuHypervisorVendor_meets hG _ _).bind fun vendor hvendor => ?_
  have hlist := Node.plain_list htopology
  rw [meets_pure_iff]
  simp only [CpuInfo.node, Node.Plain, Node.forall_record, List.forall_mem_cons, Node.forall_field,
    Node.forall_text, AnyField.plain_string, AnyField.plain_u64, AnyField.plain_bool]
  exact ⟨trivial, hmachine, stringFromMap_plain _ _, stringFromMap_plain _ _,
    stringFromMap_plain _ _, cpuCountFallback_plain hpresent _ _,
    cpuCountFallback_plain honline _ _, cpuCountFallback_plain hpossible _ _,
    socketsField_plain _, coresPerSocketField_plain (u64FromMap_plain _ _) _,
    threadsPerCoreField_plain _ _ _, u64FromMap_plain _ _, u64FromMap_plain _ _,
    u64FromMap_plain _ _, stringFromMap_plain _ _, (parseAddressSizes_plain _).1,
    (parseAddressSizes_plain _).2, isVirtualizedField_plain _ hcpuinfo, hvendor, hlist, by simp⟩

theorem cpuArch_meets (h : guard .uname) :
    cpuArch.Meets guard fun machine => machine.1.Plain := by
  refine (meets_call h fun _ => trivial).bind fun uts _ => ?_
  cases uts
  · exact Field.plain_internalError
  · exact Field.plain_ofValue _

theorem collectCpu_meets (hG : ∀ p, Footprint options .cpu p → guard p) :
    (collectCpu options).Meets guard fun info => info.node.Plain := by
  refine (cpuArch_meets (hG _ (Or.inr (Or.inr rfl)))).bind fun machine hmachine => ?_
  exact cpuDetails_meets (fun p h => hG p (Or.inl h)) (hG _ (Or.inr rfl)) hmachine

/-! ## Operating system -/

theorem unameField_plain (uts : Option Utsname) (string : Utsname → Bytes) :
    (unameField uts string).Plain := by
  unfold unameField
  split <;> simp

theorem osReleaseField_plain {osRelease : ReadResult} (h : osRelease.status ≠ .redacted)
    (keys : List Bytes) : (osReleaseField osRelease keys).Plain := by
  unfold osReleaseField
  split
  · exact Field.plain_unavailable ‹_› h
  · exact stringFromMap_plain _ _

theorem collectOs_meets (hG : ∀ p, Footprint options .os p → guard p) :
    (collectOs options).Meets guard (SectionGuarded options .os) := by
  have hfiles : ∀ p, Files options .os p → guard p := fun p h => hG p (Or.inl h)
  have hrelease : Reads guard (etcPath options "/os-release") :=
    reads_ofRoot hfiles (etcRoot_mem options) (by decide)
  refine (meets_call (hG .uname (Or.inr (Or.inl rfl))) fun _ => trivial).bind fun uts _ => ?_
  refine (meets_call (hG .pageSize (Or.inr (Or.inl rfl))) fun _ => trivial).bind fun page _ => ?_
  refine (meets_call (hG .target (Or.inr rfl)) fun _ => trivial).bind fun target _ => ?_
  refine (readStringField_meets (reads_procPath hfiles (by decide)) false).bind
    fun cmdline hcmdline => ?_
  refine (readFile_meets hrelease).bind fun osRelease hosRelease => ?_
  have huname : ∀ (string : Utsname → Bytes) {path : List Step}, ¬ Category.os.Sensitive path →
      (AnyField.string (unameField uts string)).Guarded options (Category.os.Sensitive path) :=
    fun string _ h => ((AnyField.plain_string _).2 (unameField_plain uts string)).guarded options h
  have hdistro : ∀ (keys : List Bytes) {path : List Step}, ¬ Category.os.Sensitive path →
      (AnyField.string (osReleaseField osRelease keys)).Guarded options
        (Category.os.Sensitive path) :=
    fun keys _ h => ((AnyField.plain_string _).2 (osReleaseField_plain hosRelease keys)).guarded options h
  rw [meets_pure_iff]
  simp only [SectionGuarded, Category.node, OsInfo.node, Node.forall_record, List.forall_mem_cons,
    Node.forall_field]
  refine ⟨huname _ ?_, huname _ ?_, huname _ ?_, huname _ ?_,
    (unameField_plain _ _).guarded_redactUnless options ?_, hdistro _ ?_, hdistro _ ?_,
    hdistro _ ?_, hcmdline.guarded_redactUnless options ?_,
    ((AnyField.plain_u64 _).2 (pageSizeField_plain page)).guarded options ?_,
    ((AnyField.plain_u64 _).2 (Field.plain_ofValue _)).guarded options ?_,
    ((AnyField.plain_string _).2 (Field.plain_ofValue _)).guarded options ?_, by simp⟩
  all_goals
    unfold Category.Sensitive
    decide

/-! ## Network -/

theorem readSpeedMbps_meets {path : Bytes} (h : Reads guard path) :
    (readSpeedMbps path).Meets guard Field.Plain := by
  refine (readI64Field_meets h).bind fun value hvalue => ?_
  rw [meets_pure_iff]
  split_ifs with hinvalid
  · exact Field.plain_unavailable (hvalue.status_ne_ok (by simpa using hinvalid)) hvalue.2
  · exact Field.plain_notFound
  · exact Field.plain_ofValue _

theorem addressesField_plain (texts : Option AddressTexts) (family : AddressTexts → List Bytes) :
    (addressesField texts family).Plain := by
  unfold addressesField
  split <;> simp

theorem collectAddresses_meets (hG : ∀ p, Footprint options .net p → guard p) :
    (collectAddresses options).Meets guard fun _ => True := by
  refine Meets.ite (fun _ => trivial) fun hroot => ?_
  have hcall : Footprint options .net .getifaddrs := Or.inr ⟨rfl, not_not.1 hroot⟩
  refine (meets_call (hG _ hcall) fun _ => trivial).bind fun interfaces _ => ?_
  cases interfaces <;> trivial

/-- What holds of an interface: its sensitive fields are guarded. -/
def NetGuarded (options : CollectOptions) (n : Node) : Prop :=
  n.Forall fun path f => f.Guarded options (path ∈ NetInterfaceInfo.sensitivePaths)

theorem netInterface_meets (hG : ∀ p, Files options .net p → guard p) (addresses : AddressMap)
    (entry : EntryName) :
    (netInterface options addresses entry).Meets guard fun net =>
      ∀ n ∈ net, NetGuarded options n.node := by
  have hroot : Under options 2 (sysPath options "/class/net") :=
    under_sysPath (by decide) (by decide)
  have hpath := hroot.join_name entry
  have hreads : ∀ suffix : Bytes, ReadableBelow 2 .net suffix →
      Reads guard (joinPath (joinPath (sysPath options "/class/net") entry.name) suffix) :=
    fun _ => reads_joinPath hG hpath
  refine (meets_call (hG _ hpath.files_isDirectory) fun _ => trivial).bind fun isDir _ => ?_
  refine Meets.ite (fun _ => ?_) fun _ => by rintro _ ⟨⟩
  refine (readStringField_meets (hreads _ (by decide))).bind fun mac hmac => ?_
  refine (readU64Field_meets (hreads _ (by decide))).bind fun mtu hmtu => ?_
  refine (readSpeedMbps_meets (hreads _ (by decide))).bind fun speed hspeed => ?_
  refine (readStringField_meets (hreads _ (by decide))).bind fun duplex hduplex => ?_
  refine (readBoolNumber_meets (hreads _ (by decide))).bind fun carrier hcarrier => ?_
  refine (readSymlinkBasenameField_meets (hreads _ (by decide))).bind fun driver hdriver => ?_
  rintro _ ⟨⟩
  have hname : (Field.ofValue entry.name).Plain := Field.plain_ofValue _
  simp only [NetGuarded, NetInterfaceInfo.node, Node.forall_record, List.forall_mem_cons,
    Node.forall_field]
  refine ⟨((AnyField.plain_string _).2 hname).guarded options ?_,
    hmac.guarded_redactUnless options ?_,
    (addressesField_plain _ _).guarded_redactUnless options ?_,
    (addressesField_plain _ _).guarded_redactUnless options ?_,
    ((AnyField.plain_u64 _).2 hmtu).guarded options ?_,
    ((AnyField.plain_u64 _).2 hspeed).guarded options ?_,
    ((AnyField.plain_string _).2 hduplex).guarded options ?_,
    ((AnyField.plain_bool _).2 hcarrier).guarded options ?_,
    ((AnyField.plain_string _).2 hdriver).guarded options ?_, by simp⟩
  all_goals decide

theorem netEntries_guarded {entries : List NetInterfaceInfo}
    (h : ∀ n ∈ entries, NetGuarded options n.node) : SectionGuarded options .net ⟨entries⟩ := by
  have hlist : (Node.list (entries.map (·.node))).Forall fun path f =>
      f.Guarded options (Category.net.Sensitive (.key "entries" :: path)) := by
    refine Node.forall_list_map entries _ h fun i path f hf => ?_
    have hiff : path ∈ NetInterfaceInfo.sensitivePaths ↔
        Category.net.Sensitive (.key "entries" :: .index i :: path) := by
      refine ⟨fun hp => ⟨i, path, hp, rfl⟩, ?_⟩
      rintro ⟨_, _, hp, heq⟩
      cases heq
      exact hp
    rwa [AnyField.Guarded, ← hiff]
  simpa [SectionGuarded, Category.node, NetInterfaceList.node] using hlist

theorem collectNet_meets (hG : ∀ p, Footprint options .net p → guard p) :
    (collectNet options).Meets guard (SectionGuarded options .net) := by
  have hfiles : ∀ p, Files options .net p → guard p := fun p h => hG p (Or.inl h)
  have hroot : Under options 2 (sysPath options "/class/net") :=
    under_sysPath (by decide) (by decide)
  refine (collectAddresses_meets hG).bind fun addresses _ => ?_
  refine (listDir_meets (hfiles _ hroot.files_listDirectory)).bind fun names _ => ?_
  refine (Meets.gather fun entry _ => netInterface_meets hfiles addresses entry).bind
    fun entries h => ?_
  exact netEntries_guarded h

/-! ## Whole reports -/

/-- Every collector keeps to its calls and guards the fields of its section. -/
theorem collector_meets (options : CollectOptions) (c : Category) :
    (c.collector options).Meets (Footprint options c) (SectionGuarded options c) := by
  have hfiles : ∀ p, Files options c p → Footprint options c p := fun p => Or.inl
  have hall : ∀ p, Footprint options c p → Footprint options c p := fun p => id
  have plain : ∀ {p : Collect c.Section}, c ≠ .os → c ≠ .net →
      p.Meets (Footprint options c) (fun s => (c.node s).Plain) →
      p.Meets (Footprint options c) (SectionGuarded options c) :=
    fun hos hnet h => h.mono (fun _ => id) fun s hs => hs.sectionGuarded options hos hnet
  cases c with
  | os => exact collectOs_meets hall
  | cpu => exact plain (by decide) (by decide) (collectCpu_meets hall)
  | isa => exact plain (by decide) (by decide) (collectIsa_meets hfiles)
  | cache => exact plain (by decide) (by decide) (collectCache_meets hfiles)
  | memory => exact plain (by decide) (by decide) (collectMemory_meets hall)
  | pci => exact plain (by decide) (by decide) (collectPci_meets hfiles)
  | gpu => exact plain (by decide) (by decide) (collectGpu_meets hfiles)
  | perf => exact plain (by decide) (by decide) (collectPerf_meets hall)
  | block => exact plain (by decide) (by decide) (collectBlock_meets hfiles)
  | net => exact collectNet_meets hall
  | thermal => exact plain (by decide) (by decide) (collectThermal_meets hfiles)
  | power => exact plain (by decide) (by decide) (collectPower_meets hfiles)
  | virtualization => exact plain (by decide) (by decide) (collectVirtualization_meets hfiles)
  | platform => exact plain (by decide) (by decide) (collectPlatform_meets hfiles)

end Archspec
