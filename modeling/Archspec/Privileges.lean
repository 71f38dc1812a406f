import Archspec.Cli
import Archspec.Gpus
import Archspec.Reports

/-!
# What a run of the tool may ask and what its report may name

* `least_privilege`: a run asks for nothing but the calls of the categories it selects
  (`Permitted`), and its outcome depends on no other answer of the system.
* `reported_paths_confined`: the paths a report names, of PCI resources, device nodes and block
  devices, lie below the roots the report was collected from.
-/

namespace Archspec

open Lib Program

/-! ## Calls -/

/-- The calls of the selected categories. -/
def Permitted (options : CollectOptions) (call : Primitive) : Prop :=
  ∃ c, options.categories.Selects c ∧ Footprint options c call

/-- What a vector of arguments permits: nothing, unless it leads to a collection. -/
def PermittedBy (argv : List Bytes) (call : Primitive) : Prop :=
  ∃ settings, parseArguments argv = .ok settings ∧ Permitted settings.options call

theorem main_meets (arch : ArchType) (argv : List Bytes) :
    (main arch argv).Meets (PermittedBy argv) fun _ => True := by
  rw [main]
  cases harguments : parseArguments argv with
  | error outcome => trivial
  | ok settings =>
    have hcollect : (collect arch settings.options).Meets (PermittedBy argv) fun _ => True :=
      (collect_guarded arch settings.options).mono
        (fun call hcall => ⟨settings, harguments, hcall⟩) fun _ _ => trivial
    have hreport : (collectReport arch settings.options).Meets (PermittedBy argv) fun _ => True :=
      hcollect.bind fun _ _ => trivial
    exact hreport.bind fun _ _ => trivial

/-- Every call of the tool is one that the selected categories are there to make: `uname` for the
operating system and the processor, the addresses of the host for the network below the live `/sys`,
the performance counters with `--allow-perf`, and files below the roots, of which the command line and
the hardware addresses have one reader.  No other answer has an influence on what the tool does. -/
theorem least_privilege (arch : ArchType) (argv : List Bytes) :
    (∀ call, (main arch argv).Issues call → PermittedBy argv call) ∧
      ∀ env env' : Env, (∀ call, PermittedBy argv call → env call = env' call) →
        (main arch argv).run env = (main arch argv).run env' :=
  ⟨fun _ hcall => (main_meets arch argv).issues hcall,
    fun _ _ agree => (main_meets arch argv).run_congr agree⟩

/-! ## Paths in a report -/

/-- The paths of a report lie below the roots. -/
structure SystemInfo.PathsConfined (options : CollectOptions) (info : SystemInfo) : Prop where
  resourcePath : ∀ device ∈ info.pciDevices.entries, ∀ path ∈ device.resourcePath.value?,
    Within options.sysfsRoot 0 path
  drmCard : ∀ gpu ∈ info.gpuList.entries, ∀ path ∈ gpu.drmCard.value?,
    Within options.devRoot 0 path
  renderNode : ∀ gpu ∈ info.gpuList.entries, ∀ path ∈ gpu.renderNode.value?,
    Within options.devRoot 0 path
  block : ∀ block ∈ info.blockDevices.entries, ∀ path ∈ block.path.value?,
    Within options.devRoot 0 path

section Paths

variable (env : Env) (options : CollectOptions)

theorem within_driPath (entry : EntryName) : Within options.devRoot 0 (driPath options entry.name) := by
  obtain ⟨e, -, hwalk⟩ := walk_components_name 1 entry.no_slash entry.ne_dots
  have hcomponents : components ("/dri/" ++ entry.name) = components "/dri" ++ components entry.name :=
    components_append "/dri" entry.name
  have hwalk' : walk 0 (components ("/dri/" ++ entry.name)) = some e := by
    rw [hcomponents, walk_append]
    exact hwalk
  have hne := List.append_ne_nil_of_right_ne_nil (bytes "/dri/") entry.ne_nil
  exact (Within.ofRoot options.devRoot hne hwalk').mono (Nat.zero_le e)

/-- The node field of a GPU, from the nodes that link to its device. -/
theorem within_nodeField {isNode : Bytes → Bool} {device : Bytes} {field : StringField}
    (h : env.NodeField options isNode device field) :
    ∀ path ∈ field.value?, Within options.devRoot 0 path := by
  intro path hpath
  obtain ⟨name, hname, rfl⟩ := h.1 path hpath
  obtain ⟨⟨entry, -, rfl⟩, -, -⟩ := mem_nodes.1 hname
  exact within_driPath options entry

theorem resourcePath_within (device : PciDeviceInfo)
    (h : device ∈ ((collectPci options).run env).entries) :
    ∀ path ∈ device.resourcePath.value?, Within options.sysfsRoot 0 path := by
  simp only [collectPci, run_bind, run_listDir, run_gather, run_pure, List.mem_filterMap] at h
  obtain ⟨entry, -, hdevice⟩ := h
  have hroot : Within options.sysfsRoot 3 (sysPath options "/bus/pci/devices") :=
    Within.ofRoot options.sysfsRoot (by decide) (by decide)
  have hresource : Within options.sysfsRoot 4 (joinPath (joinPath (sysPath options
      "/bus/pci/devices") entry.name) "resource") := (hroot.join_name entry).join (by decide)
  simp only [pciDevice, run_bind, run_ite, run_pure] at hdevice
  split at hdevice
  · cases hdevice
    intro path hpath
    dsimp only at hpath
    split at hpath
    · cases hpath
      exact hresource.mono (by omega)
    · cases hpath
  · cases hdevice

theorem gpuPaths_within :
    ∀ gpu ∈ ((collectGpu options).run env).entries,
      (∀ path ∈ gpu.drmCard.value?, Within options.devRoot 0 path) ∧
        ∀ path ∈ gpu.renderNode.value?, Within options.devRoot 0 path := by
  rw [forall_mem_collectGpu]
  constructor
  · intro node hnode
    refine ⟨?_, within_nodeField env options (renderNode_gpuAt env options node.2)⟩
    rintro path ⟨⟩
    obtain ⟨⟨entry, -, hentry⟩, -, -⟩ := mem_nodes.1 (mem_of_mem_keepFirst _ hnode)
    show Within options.devRoot 0 (driPath options node.1)
    rw [← hentry]
    exact within_driPath options entry
  · intro device _ _
    refine ⟨?_, within_nodeField env options (renderNode_gpuAt env options device)⟩
    rw [drmCard_gpuAt]
    rintro path ⟨⟩

theorem blockPath_within (block : BlockDeviceInfo)
    (h : block ∈ ((collectBlock options).run env).entries) :
    ∀ path ∈ block.path.value?, Within options.devRoot 0 path := by
  simp only [collectBlock, run_bind, run_listDir, run_gather, run_pure, List.mem_filterMap] at h
  obtain ⟨entry, -, hblock⟩ := h
  obtain ⟨e, -, hwalk⟩ := walk_components_name 0 entry.no_slash entry.ne_dots
  have hpath : Within options.devRoot 0 (devPath options ("/" ++ entry.name)) := by
    rw [← walk_components_slash] at hwalk
    exact (Within.ofRoot options.devRoot (List.cons_ne_nil _ _) hwalk).mono (Nat.zero_le e)
  simp only [blockDevice, run_bind, run_ite, run_pure] at hblock
  split at hblock
  · cases hblock
  · split at hblock
    · cases hblock
      rintro path ⟨⟩
      exact hpath
    · cases hblock

/-- A section of a report is the one the collector returns or the fresh one. -/
theorem section_cases (arch : ArchType) (c : Category) {P : c.Section → Prop}
    (hfresh : P ((SystemInfo.fresh arch).sectionOf c)) (h : P ((c.collector options).run env)) :
    P (((collectReport arch options).run env).system.sectionOf c) := by
  rw [run_collectReport, run_collect_sectionOf]
  split
  · exact h
  · exact hfresh

/-- On every machine, the paths that a report names lie below the roots it was collected from. -/
theorem reported_paths_confined (arch : ArchType) :
    ((collectReport arch options).run env).system.PathsConfined options := by
  have hgpus := section_cases env options arch .gpu
    (P := fun s => ∀ gpu ∈ s.entries, (∀ path ∈ gpu.drmCard.value?, Within options.devRoot 0 path) ∧
      ∀ path ∈ gpu.renderNode.value?, Within options.devRoot 0 path)
    (fun gpu hgpu => absurd hgpu List.not_mem_nil) (gpuPaths_within env options)
  constructor
  · exact section_cases env options arch .pci
      (P := fun s => ∀ device ∈ s.entries, ∀ path ∈ device.resourcePath.value?,
        Within options.sysfsRoot 0 path)
      (fun device hdevice => absurd hdevice List.not_mem_nil) (resourcePath_within env options)
  · exact fun gpu hgpu => (hgpus gpu hgpu).1
  · exact fun gpu hgpu => (hgpus gpu hgpu).2
  · exact section_cases env options arch .block
      (P := fun s => ∀ block ∈ s.entries, ∀ path ∈ block.path.value?, Within options.devRoot 0 path)
      (fun block hblock => absurd hblock List.not_mem_nil) (blockPath_within env options)

end Paths

end Archspec
