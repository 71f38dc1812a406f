import Archspec.Caches
import Archspec.Gpus
import Archspec.Readings

/-!
# References between the sections of a report

The collectors read the system on their own, each its own section.  `SystemInfo.CrossReferenced` says
what a reader of a whole report relies on nevertheless: that the sections speak of one machine.  The
caches belong to CPUs of the topology, the GPUs agree with the PCI devices of the same address, and
facts that two sections report are the same.

`cross_referenced` proves it of every full report, from one lemma for each reference.
-/

namespace Archspec

open Lib Program

/-- The sections refer to each other without contradiction. -/
structure SystemInfo.CrossReferenced (info : SystemInfo) : Prop where
  machine : info.osInfo.machine = info.cpuInfo.archName
  arch : info.cpuInfo.arch =
    if info.osInfo.machine.valid then archFromMachine info.osInfo.machine.value else .unknown
  pageSize : info.osInfo.pageSize = info.memoryInfo.pageSizeBytes
  caches : ∀ cache ∈ info.cacheList.entries,
    cache.cpuId.valid = true ∧ ∃ cpu ∈ info.cpuInfo.topology, cpu.logicalId = cache.cpuId
  gpus : ∀ gpu ∈ info.gpuList.entries, ∀ device ∈ info.pciDevices.entries,
    device.pciAddress = gpu.pciAddress →
      gpu.vendorId = device.vendorId ∧ gpu.deviceId = device.deviceId ∧ gpu.driver = device.driver ∧
        (gpu.drmCard.valid = false → isDisplayClass device.classId = true)
  displays : ∀ device ∈ info.pciDevices.entries, isDisplayClass device.classId = true →
    ∃ gpu ∈ info.gpuList.entries, gpu.pciAddress = device.pciAddress
  kvm : info.virtualizationInfo.kvmAvailable.value = true →
    info.virtualizationInfo.devKvmExists.value = true
  secureBoot : info.platformInfo.secureBoot.valid = true → info.platformInfo.uefi.value = true

section References

variable (env : Env) (options : CollectOptions)

/-! ## Facts of the host -/

theorem machine_eq :
    ((collectOs options).run env).machine = ((collectCpu options).run env).archName ∧
      ((collectCpu options).run env).arch =
        if ((collectOs options).run env).machine.valid then
          archFromMachine ((collectOs options).run env).machine.value else .unknown := by
  simp only [collectOs, collectCpu, cpuDetails, cpuArch, run_bind, run_pure, ask, run_call]
  cases env .uname with
  | none => exact ⟨rfl, rfl⟩
  | some uts => exact ⟨rfl, rfl⟩

theorem pageSize_eq :
    ((collectOs options).run env).pageSize = ((collectMemory options).run env).pageSizeBytes := by
  simp only [collectOs, collectMemory, run_bind, run_pure, ask, run_call]

/-! ## Caches and CPUs -/

theorem logicalId_cpuTopologyEntry (byId : Finmap fun _ : UInt64 => KeyValueMap)
    (cpu : UInt64 × Bytes) :
    ((cpuTopologyEntry byId cpu).run env).logicalId = .ofValue cpu.1.toUInt32 := by
  simp only [cpuTopologyEntry, run_bind, run_pure]

/-- A cache is found below a CPU directory, and the topology has an entry for each of these. -/
theorem cache_has_cpu (cache : CacheInfo) (h : cache ∈ ((collectCache options).run env).entries) :
    cache.cpuId.valid = true ∧
      ∃ cpu ∈ ((collectCpu options).run env).topology, cpu.logicalId = cache.cpuId := by
  rw [run_collectCache] at h
  obtain ⟨dir, hdir, rfl⟩ := List.mem_map.1 h
  obtain ⟨cpu, hcpu, hindex⟩ := List.mem_flatMap.1 (mem_of_mem_keepFirst _ hdir)
  obtain ⟨index, -, rfl⟩ := List.mem_map.1 hindex
  have hdirs : env.cpuDirs options ≠ [] := List.ne_nil_of_mem hcpu
  rw [cpuId_cacheAt, (run_collectCpu_topology env options).1, run_cpuTopology, if_neg hdirs]
  exact ⟨rfl, _, List.mem_map_of_mem hcpu, logicalId_cpuTopologyEntry env _ cpu⟩

/-! ## GPUs and PCI devices -/

theorem isDisplayClass_run (name : Bytes) :
    isDisplayClass ((readStringField (joinPath (joinPath (pciRoot options) name) "class")).run env) =
      env.isDisplay options name := by
  rw [run_readStringField, Env.isDisplay]
  cases env.line (joinPath (joinPath (pciRoot options) name) "class") <;> rfl

/-- The entry of a PCI device comes from the directory its address names. -/
structure PciDeviceInfo.At (info : PciDeviceInfo) (name : Bytes) : Prop where
  pciAddress : info.pciAddress = .ofValue name
  vendorId : info.vendorId = (readStringField (joinPath (joinPath (pciRoot options) name)
    "vendor")).run env
  deviceId : info.deviceId = (readStringField (joinPath (joinPath (pciRoot options) name)
    "device")).run env
  driver : info.driver = (readSymlinkBasenameField (joinPath (joinPath (pciRoot options) name)
    "driver")).run env
  display : isDisplayClass info.classId = env.isDisplay options name

theorem pciDevice_at (device : PciDeviceInfo)
    (h : device ∈ ((collectPci options).run env).entries) :
    ∃ name ∈ (env.names (pciRoot options)).map EntryName.name, device.At env options name := by
  simp only [collectPci, run_bind, run_listDir, run_gather, run_pure, List.mem_filterMap] at h
  obtain ⟨entry, hentry, hdevice⟩ := h
  refine ⟨entry.name, List.mem_map_of_mem hentry, ?_⟩
  simp only [pciDevice, run_bind, run_ite, run_pure] at hdevice
  split at hdevice
  · cases hdevice
    exact ⟨rfl, rfl, rfl, rfl, isDisplayClass_run env options entry.name⟩
  · cases hdevice

theorem gpuAt_fields (name : Bytes) :
    (env.gpuAt options name).vendorId = (readStringField (joinPath (joinPath (pciRoot options)
        name) "vendor")).run env ∧
      (env.gpuAt options name).deviceId = (readStringField (joinPath (joinPath (pciRoot options)
        name) "device")).run env ∧
      (env.gpuAt options name).driver = (readSymlinkBasenameField (joinPath (joinPath
        (pciRoot options) name) "driver")).run env := by
  simp only [Env.gpuAt, gpuFromPci, run_bind, run_pure, and_self]

/-- A GPU has the same ids and the same driver as the PCI device at its address. -/
theorem gpu_eq_pciDevice (gpu : GpuInfo) (hgpu : gpu ∈ ((collectGpu options).run env).entries)
    (device : PciDeviceInfo) (hdevice : device ∈ ((collectPci options).run env).entries)
    (haddress : device.pciAddress = gpu.pciAddress) :
    gpu.vendorId = device.vendorId ∧ gpu.deviceId = device.deviceId ∧ gpu.driver = device.driver ∧
      (gpu.drmCard.valid = false → isDisplayClass device.classId = true) := by
  obtain ⟨name, -, hat⟩ := pciDevice_at env options device hdevice
  rw [hat.pciAddress] at haddress
  rw [hat.vendorId, hat.deviceId, hat.driver, hat.display]
  obtain ⟨hvendor, hid, hdriver⟩ := gpuAt_fields env options name
  revert gpu
  rw [forall_mem_collectGpu]
  constructor
  · intro node _ haddress
    rw [pciAddress_cardGpu] at haddress
    obtain rfl : name = node.2 := congrArg Field.value haddress
    exact ⟨hvendor, hid, hdriver, fun h => by cases h⟩
  · intro other hdisplay _ haddress
    rw [pciAddress_gpuAt] at haddress
    obtain rfl : name = other := congrArg Field.value haddress
    exact ⟨hvendor, hid, hdriver, fun _ => (List.mem_filter.1 hdisplay).2⟩

theorem exists_pciAddress :
    ∀ gpu ∈ ((collectGpu options).run env).entries, ∃ name, gpu.pciAddress = .ofValue name := by
  rw [forall_mem_collectGpu]
  exact ⟨fun node _ => ⟨_, pciAddress_cardGpu env options node⟩,
    fun device _ _ => ⟨_, pciAddress_gpuAt env options device⟩⟩

/-- Every display controller of the PCI section is a GPU. -/
theorem display_has_gpu (device : PciDeviceInfo)
    (hdevice : device ∈ ((collectPci options).run env).entries)
    (hdisplay : isDisplayClass device.classId = true) :
    ∃ gpu ∈ ((collectGpu options).run env).entries, gpu.pciAddress = device.pciAddress := by
  obtain ⟨name, hname, hat⟩ := pciDevice_at env options device hdevice
  rw [hat.display] at hdisplay
  have hmem : name ∈ ((collectGpu options).run env).entries.map fun gpu => gpu.pciAddress.value := by
    rw [addresses_collectGpu, List.mem_append, mem_keys, List.mem_filter]
    have hdevices : name ∈ env.displayDevices options := List.mem_filter.2 ⟨hname, hdisplay⟩
    simp only [hdevices, Finset.notMem_empty, not_false_eq_true, and_true, decide_eq_true_eq,
      true_and]
    tauto
  obtain ⟨gpu, hgpu, hvalue⟩ := List.mem_map.1 hmem
  obtain ⟨other, haddress⟩ := exists_pciAddress env options gpu hgpu
  rw [haddress] at hvalue
  obtain rfl : other = name := hvalue
  exact ⟨gpu, hgpu, haddress.trans hat.pciAddress.symm⟩

/-! ## Whole reports -/

theorem kvm_has_device (h : ((collectVirtualization options).run env).kvmAvailable.value = true) :
    ((collectVirtualization options).run env).devKvmExists.value = true := by
  simp only [collectVirtualization, run_bind, run_pure, run_ite, Field.value_ofValue] at h ⊢
  by_contra hexists
  rw [if_neg hexists] at h
  cases h

theorem secureBoot_has_uefi (h : ((collectPlatform options).run env).secureBoot.valid = true) :
    ((collectPlatform options).run env).uefi.value = true := by
  simp only [collectPlatform, run_bind, run_pure, run_ite, Field.value_ofValue] at h ⊢
  by_contra huefi
  rw [if_neg huefi] at h
  cases h

/-- On every machine, the sections of a full report refer to each other without contradiction. -/
theorem cross_referenced (arch : ArchType) (h : ∀ c, options.categories.Selects c) :
    ((collectReport arch options).run env).system.CrossReferenced := by
  have hos : ((collectReport arch options).run env).system.osInfo = (collectOs options).run env :=
    run_report_section env options arch (h .os)
  have hcpu : ((collectReport arch options).run env).system.cpuInfo = (collectCpu options).run env :=
    run_report_section env options arch (h .cpu)
  have hcache : ((collectReport arch options).run env).system.cacheList =
      (collectCache options).run env := run_report_section env options arch (h .cache)
  have hmemory : ((collectReport arch options).run env).system.memoryInfo =
      (collectMemory options).run env := run_report_section env options arch (h .memory)
  have hpci : ((collectReport arch options).run env).system.pciDevices =
      (collectPci options).run env := run_report_section env options arch (h .pci)
  have hgpu : ((collectReport arch options).run env).system.gpuList =
      (collectGpu options).run env := run_report_section env options arch (h .gpu)
  have hvirtualization : ((collectReport arch options).run env).system.virtualizationInfo =
      (collectVirtualization options).run env :=
    run_report_section env options arch (h .virtualization)
  have hplatform : ((collectReport arch options).run env).system.platformInfo =
      (collectPlatform options).run env := run_report_section env options arch (h .platform)
  obtain ⟨hmachine, harch⟩ := machine_eq env options
  constructor
  · rw [hos, hcpu, hmachine]
  · rw [hos, hcpu, harch]
  · rw [hos, hmemory, pageSize_eq]
  · rw [hcache, hcpu]
    exact cache_has_cpu env options
  · rw [hgpu, hpci]
    exact fun gpu hgpu device hdevice => gpu_eq_pciDevice env options gpu hgpu device hdevice
  · rw [hpci, hgpu]
    exact display_has_gpu env options
  · rw [hvirtualization]
    exact kvm_has_device env options
  · rw [hplatform]
    exact secureBoot_has_uefi env options

end References

/-- The machine with two GPUs, with the directories of its devices. -/
def twoGpusPlugged : Env
  | .isDirectory _ => true
  | call => twoGpus call

theorem cross_referenced_two :
    ((collectReport .unknown {}).run twoGpusPlugged).system.pciDevices.entries.length = 2 ∧
      ((collectReport .unknown {}).run twoGpusPlugged).system.CrossReferenced :=
  ⟨by decide +kernel, cross_referenced twoGpusPlugged {} .unknown fun c => by cases c <;> decide⟩

end Archspec
