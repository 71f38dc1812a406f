import Archspec.Collectors.Features
import Archspec.Collectors.Machine

/-!
# Collecting a report

`core.cc`: the sections of a `SystemInfo` are filled one by one, each under the test of its
category flag (`collect`).  `SystemInfo.sectionOf` reads the section of a category, and
`Category.collector` is the collector that fills it.

The main result is `run_collect_sectionOf`: against a fixed environment the section of a selected
category is what its collector returns, and any other section is the one of a fresh record.
-/

namespace Archspec

open Lib

/-! ## Sections by category -/

/-- The type of the section of a category. -/
@[reducible] def Category.Section : Category → Type
  | os => OsInfo
  | cpu => CpuInfo
  | isa => IsaFeatures
  | cache => CacheList
  | memory => MemoryInfo
  | pci => PciDeviceList
  | gpu => GpuList
  | perf => PerfCounterInfo
  | block => BlockDeviceList
  | net => NetInterfaceList
  | thermal => ThermalInfo
  | power => PowerInfo
  | virtualization => VirtualizationInfo
  | platform => PlatformInfo

namespace SystemInfo

/-- The section of a category. -/
def sectionOf (info : SystemInfo) : (c : Category) → c.Section
  | .os => info.osInfo
  | .cpu => info.cpuInfo
  | .isa => info.isaFeatures
  | .cache => info.cacheList
  | .memory => info.memoryInfo
  | .pci => info.pciDevices
  | .gpu => info.gpuList
  | .perf => info.perfInfo
  | .block => info.blockDevices
  | .net => info.netInterfaces
  | .thermal => info.thermalInfo
  | .power => info.powerInfo
  | .virtualization => info.virtualizationInfo
  | .platform => info.platformInfo

/-- The assignment to the section of a category. -/
def assign (info : SystemInfo) : (c : Category) → c.Section → SystemInfo
  | .os, s => { info with osInfo := s }
  | .cpu, s => { info with cpuInfo := s }
  | .isa, s => { info with isaFeatures := s }
  | .cache, s => { info with cacheList := s }
  | .memory, s => { info with memoryInfo := s }
  | .pci, s => { info with pciDevices := s }
  | .gpu, s => { info with gpuList := s }
  | .perf, s => { info with perfInfo := s }
  | .block, s => { info with blockDevices := s }
  | .net, s => { info with netInterfaces := s }
  | .thermal, s => { info with thermalInfo := s }
  | .power, s => { info with powerInfo := s }
  | .virtualization, s => { info with virtualizationInfo := s }
  | .platform, s => { info with platformInfo := s }

@[simp] theorem sectionOf_assign_self (info : SystemInfo) (c : Category) (s : c.Section) :
    (info.assign c s).sectionOf c = s := by
  cases c <;> rfl

theorem sectionOf_assign_of_ne (info : SystemInfo) {c d : Category} (s : c.Section)
    (h : d ≠ c) : (info.assign c s).sectionOf d = info.sectionOf d := by
  cases c <;> cases d <;> first | rfl | exact absurd rfl h

theorem ext_sections {info info' : SystemInfo} (h : ∀ c, info.sectionOf c = info'.sectionOf c) :
    info = info' := by
  obtain ⟨⟩ := info
  obtain ⟨⟩ := info'
  simp only [SystemInfo.mk.injEq]
  exact ⟨h .os, h .cpu, h .isa, h .cache, h .memory, h .pci, h .gpu, h .perf, h .block, h .net,
    h .thermal, h .power, h .virtualization, h .platform⟩

end SystemInfo

theorem fresh_sectionOf_eq {c : Category} (hc : c ≠ .cpu) (arch arch' : ArchType) :
    (SystemInfo.fresh arch).sectionOf c = (SystemInfo.fresh arch').sectionOf c := by
  cases c <;> first | rfl | exact absurd rfl hc

/-- The collector of a category. -/
def Category.collector (options : CollectOptions) : (c : Category) → Collect c.Section
  | os => collectOs options
  | cpu => collectCpu options
  | isa => collectIsa options
  | cache => collectCache options
  | memory => collectMemory options
  | pci => collectPci options
  | gpu => collectGpu options
  | perf => collectPerf options
  | block => collectBlock options
  | net => collectNet options
  | thermal => collectThermal options
  | power => collectPower options
  | virtualization => collectVirtualization options
  | platform => collectPlatform options

/-! ## The collection -/

/-- One line of `collect`: assign the section when its category is in the mask. -/
def fill (options : CollectOptions) (info : SystemInfo) (c : Category)
    (collector : Collect c.Section) : Collect SystemInfo :=
  if hasCategory options.categories c.flag then info.assign c <$> collector else return info

/-- `Collector::collect`; `arch` is what the storage of the record held. -/
def collect (arch : ArchType) (options : CollectOptions) : Collect SystemInfo := do
  let info := SystemInfo.fresh arch
  let info ← fill options info .os (collectOs options)
  let info ← fill options info .cpu (collectCpu options)
  let info ← fill options info .isa (collectIsa options)
  let info ← fill options info .cache (collectCache options)
  let info ← fill options info .memory (collectMemory options)
  let info ← fill options info .pci (collectPci options)
  let info ← fill options info .gpu (collectGpu options)
  let info ← fill options info .perf (collectPerf options)
  let info ← fill options info .block (collectBlock options)
  let info ← fill options info .net (collectNet options)
  let info ← fill options info .thermal (collectThermal options)
  let info ← fill options info .power (collectPower options)
  let info ← fill options info .virtualization (collectVirtualization options)
  fill options info .platform (collectPlatform options)

def collectSystem (arch : ArchType) (options : CollectOptions) : Collect SystemInfo :=
  collect arch options

def collectReport (arch : ArchType) (options : CollectOptions) : Collect Report := do
  let system ← collect arch options
  return { categories := options.categories, system }

/-- The collection is a loop over the categories. -/
theorem collect_eq_foldlM (arch : ArchType) (options : CollectOptions) :
    collect arch options =
      Category.all.foldlM (fun info c => fill options info c (c.collector options))
        (SystemInfo.fresh arch) := by
  simp only [collect, Category.all, Category.collector, List.foldlM_cons, List.foldlM_nil, bind_pure]

section Run

variable (env : Env) (options : CollectOptions)

theorem run_fill (info : SystemInfo) (c : Category) (collector : Collect c.Section) :
    (fill options info c collector).run env =
      if options.categories.Selects c then info.assign c (collector.run env) else info := by
  rw [fill, Program.run_ite, Program.run_map, Program.run_pure]
  rfl

theorem sectionOf_foldl_fill (c : Category) (cs : List Category) (hcs : cs.Nodup)
    (info : SystemInfo) :
    (cs.foldl (fun info c => (fill options info c (c.collector options)).run env) info).sectionOf c =
      if c ∈ cs ∧ options.categories.Selects c then (c.collector options).run env
      else info.sectionOf c := by
  induction cs generalizing info with
  | nil => simp
  | cons d cs ih =>
    obtain ⟨hd, hcs⟩ := List.nodup_cons.1 hcs
    rw [List.foldl_cons, ih hcs, run_fill]
    by_cases hcd : c = d
    · subst hcd
      simp only [hd, false_and, if_false, List.mem_cons_self, true_and]
      split <;> simp
    · simp only [List.mem_cons, hcd, false_or]
      split
      · rfl
      · split
        · exact info.sectionOf_assign_of_ne _ hcd
        · rfl

/-- Every section of a collected record. -/
theorem run_collect_sectionOf (arch : ArchType) (c : Category) :
    ((collect arch options).run env).sectionOf c =
      if options.categories.Selects c then (c.collector options).run env
      else (SystemInfo.fresh arch).sectionOf c := by
  rw [collect_eq_foldlM, Program.run_foldlM, sectionOf_foldl_fill env options c _ (by decide)]
  simp only [Category.mem_all, true_and]

theorem run_collectReport (arch : ArchType) :
    (collectReport arch options).run env = ⟨options.categories, (collect arch options).run env⟩ := by
  rw [collectReport, Program.run_bind, Program.run_pure]

/-- The section of a selected category in a report. -/
theorem run_report_section (arch : ArchType) {c : Category} (hc : options.categories.Selects c) :
    ((collectReport arch options).run env).system.sectionOf c = (c.collector options).run env := by
  rw [run_collectReport, run_collect_sectionOf, if_pos hc]

end Run

section Meets

variable {options : CollectOptions} {guard : Primitive → Prop}
  {inv : (c : Category) → c.Section → Prop}

theorem fill_meets {c : Category} {collector : Collect c.Section}
    (h : options.categories.Selects c → collector.Meets guard (inv c)) (info : SystemInfo) :
    (fill options info c collector).Meets guard fun info' =>
      (if options.categories.Selects c then inv c (info'.sectionOf c)
        else info'.sectionOf c = info.sectionOf c) ∧
      ∀ d, d ≠ c → info'.sectionOf d = info.sectionOf d := by
  refine Program.Meets.ite (fun hc => ?_) fun hc => ?_
  · replace hc : options.categories.Selects c := hc
    rw [map_eq_pure_bind]
    refine (h hc).bind fun s hs => ?_
    rw [Program.meets_pure_iff, if_pos hc, info.sectionOf_assign_self]
    exact ⟨hs, fun d hd => info.sectionOf_assign_of_ne s hd⟩
  · replace hc : ¬ options.categories.Selects c := hc
    rw [Program.meets_pure_iff, if_neg hc]
    exact ⟨rfl, fun _ _ => rfl⟩

theorem foldlM_fill_meets
    (h : ∀ c, options.categories.Selects c → (c.collector options).Meets guard (inv c))
    {cs : List Category} (hcs : cs.Nodup) (info : SystemInfo) :
    (cs.foldlM (fun info c => fill options info c (c.collector options)) info).Meets guard
      fun info' => ∀ c, if c ∈ cs ∧ options.categories.Selects c then inv c (info'.sectionOf c)
        else info'.sectionOf c = info.sectionOf c := by
  induction cs generalizing info with
  | nil => exact fun c => by simp
  | cons d cs ih =>
    obtain ⟨hd, hcs⟩ := List.nodup_cons.1 hcs
    rw [List.foldlM_cons]
    refine (fill_meets (h d) info).bind fun mid ⟨hmid, hrest⟩ => ?_
    refine (ih hcs mid).mono (fun _ => id) fun info' hinfo c => ?_
    have hc := hinfo c
    by_cases hcd : c = d
    · subst hcd
      simp only [hd, false_and, if_false] at hc
      simpa only [List.mem_cons_self, true_and, hc] using hmid
    · rw [hrest c hcd] at hc
      simpa only [List.mem_cons, hcd, false_or] using hc

/-- The rule for a collection: what the collector of each selected category establishes holds of
its section, and the other sections stay as they were. -/
theorem collect_meets
    (h : ∀ c, options.categories.Selects c → (c.collector options).Meets guard (inv c))
    (arch : ArchType) :
    (collect arch options).Meets guard fun info => ∀ c,
      if options.categories.Selects c then inv c (info.sectionOf c)
      else info.sectionOf c = (SystemInfo.fresh arch).sectionOf c := by
  rw [collect_eq_foldlM]
  refine (foldlM_fill_meets h (by decide) _).mono (fun _ => id) fun info hinfo c => ?_
  simpa only [Category.mem_all, true_and] using hinfo c

end Meets

end Archspec
