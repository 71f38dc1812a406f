import Archspec.Summary

/-!
# One machine in sysfs and in cpuinfo

The CPUs of a machine can be given by the tree below `devices/system/cpu` (`SysfsMachine`) or, where
that has no CPU directories, by the text of cpuinfo (`CpuinfoMachine`).  Either way the processor
section describes the same CPUs in the same order, with the same summary (`same_machine`).
-/

namespace Archspec

open Lib Program

/-! ## The two ways to give the CPUs -/

/-- The name of the directory of a CPU. -/
def Cpu.dirName (cpu : Cpu) : Bytes := bytes "cpu" ++ decimal cpu.id.toNat

/-- A file with a number in the topology directory of a CPU. -/
def Cpu.topologyFile (options : CollectOptions) (cpu : Cpu) (file : Bytes) : Bytes :=
  joinPath (joinPath (joinPath (cpuRoot options) cpu.dirName) "topology") file

/-- No stanza of cpuinfo has one of these keys. -/
def Env.NoLines (env : Env) (options : CollectOptions) (keys : List Bytes) : Prop :=
  ∀ stanza ∈ env.stanzas options, ∀ entry ∈ stanza, entry.1 ∉ keys

/-- The entries with a number behind `cpu` are the directories of the CPUs, in any order, each with the
numbers that are known, and cpuinfo has none of them. -/
structure Env.SysfsMachine (env : Env) (options : CollectOptions) (cpus : List Cpu) : Prop where
  names : (((env.names (cpuRoot options)).filter fun entry =>
    (numberedEntry "cpu" entry.name).isSome).map EntryName.name).Perm (cpus.map Cpu.dirName)
  core : ∀ cpu ∈ cpus, env.number32 (cpu.topologyFile options "core_id") = cpu.core
  package : ∀ cpu ∈ cpus, env.number32 (cpu.topologyFile options "physical_package_id") = cpu.package
  lines : env.NoLines options ["core id", "physical id", "cpu cores", "siblings"]

/-- No entry has a number behind `cpu`, and the stanzas of cpuinfo with a processor number are those of
the CPUs, in order, each with the numbers that are known. -/
structure Env.CpuinfoMachine (env : Env) (options : CollectOptions) (cpus : List Cpu) : Prop where
  dirs : env.NoCpuDirs options
  cpus : (env.stanzas options).filterMap stanzaCpu = cpus
  lines : env.NoLines options ["cpu cores", "siblings"]

/-! ## What the section says of the CPUs -/

/-- The count `n` of places, unavailable when there are none. -/
def IsCount (places : List (UInt32 × UInt32)) (n : ℕ) (field : U64Field) : Prop :=
  if places = [] then field = .unavailable .notFound
  else ∃ count : UInt64, field = .ofValue count ∧ count.toNat = n

/-- The entries are the CPUs, and the summary counts the packages, the most cores of a package and the
most CPUs of a core, over the CPUs whose package and core are known. -/
structure CpuInfo.Describes (info : CpuInfo) (cpus : List Cpu) : Prop where
  topology : info.topology.map CpuTopologyEntry.ids = cpus.map Cpu.ids
  sockets : IsCount (cpus.filterMap fun cpu => place cpu.ids)
    (groups (cpus.filterMap fun cpu => place cpu.ids)).card info.sockets
  coresPerSocket : IsCount (cpus.filterMap fun cpu => place cpu.ids)
    (largestGroup (cpus.filterMap fun cpu => place cpu.ids)) info.coresPerSocket
  threadsPerCore : IsCount (cpus.filterMap fun cpu => place cpu.ids)
    (largestCount (cpus.filterMap fun cpu => place cpu.ids)) info.threadsPerCore

theorem IsCount.unique {places : List (UInt32 × UInt32)} {n : ℕ} {field field' : U64Field}
    (h : IsCount places n field) (h' : IsCount places n field') : field = field' := by
  rw [IsCount] at h h'
  split at h
  · rw [if_pos ‹_›] at h'
    rw [h, h']
  · rw [if_neg ‹_›] at h'
    obtain ⟨count, rfl, hcount⟩ := h
    obtain ⟨count', rfl, hcount'⟩ := h'
    rw [UInt64.toNat_inj.1 (hcount.trans hcount'.symm)]

theorem isCount_ofNat {places : List (UInt32 × UInt32)} {n : ℕ} (h : n < 2 ^ 64) :
    IsCount places n (if places = [] then .unavailable .notFound else .ofValue (UInt64.ofNat n)) := by
  rw [IsCount]
  split
  · rfl
  · exact ⟨_, rfl, UInt64.toNat_ofNat_of_lt' h⟩

/-- A key without lines has no value. -/
theorem lastEntry_eq_none {env : Env} {options : CollectOptions} {keys : List Bytes}
    (h : env.NoLines options keys) {key : Bytes} (hkey : key ∈ keys) {stanza : List (Bytes × Bytes)}
    (hstanza : stanza ∈ env.stanzas options) : lastEntry stanza key = none := by
  rw [lastEntry, List.lookup_eq_none_iff]
  intro entry hentry
  apply bne_iff_ne.2
  rintro rfl
  exact h stanza hstanza entry (List.mem_reverse.1 hentry) hkey

theorem firstNumber_eq_none {env : Env} {options : CollectOptions} {keys : List Bytes}
    (h : env.NoLines options keys) {key : Bytes} (hkey : key ∈ keys) :
    env.firstNumber options key = none := by
  rw [Env.firstNumber]
  cases hstanzas : (env.stanzas options).head? with
  | none => rfl
  | some stanza =>
    rw [Option.bind_some, lastEntry_eq_none h hkey (List.mem_of_mem_head? hstanzas)]
    rfl

/-- The section describes the CPUs of the environment unless cpuinfo has a number of cores. -/
theorem describes_cpus (env : Env) (options : CollectOptions)
    (hcores : env.firstNumber options "cpu cores" = none) :
    ((collectCpu options).run env).Describes (env.cpus options) := by
  obtain ⟨-, hsockets, hcoresPerSocket, hthreads⟩ := run_collectCpu_topology env options
  have hcounted := counted_places env options
  have hvalid : (firstField64 env options "cpu cores").valid = false := by
    rw [← value?_firstField64, Field.value?] at hcores
    by_contra h
    rw [Bool.not_eq_false] at h
    rw [if_pos h] at hcores
    cases hcores
  rw [hcounted.socketsField_eq] at hsockets
  rw [hcounted.coresPerSocketField_eq, hvalid, if_neg Bool.false_ne_true] at hcoresPerSocket
  rw [hcounted.threadsPerCoreField_eq, hvalid, Bool.and_false, Bool.false_and,
    if_neg Bool.false_ne_true] at hthreads
  refine ⟨topology_ids env options, ?_, ?_, ?_⟩
  · rw [hsockets]
    exact isCount_ofNat (lt_of_le_of_lt (card_uint32_le _) (by decide))
  · rw [hcoresPerSocket]
    exact isCount_ofNat (lt_of_le_of_lt (largestGroup_le _) (by decide))
  · rw [hthreads]
    have hlt := lt_of_le_of_lt (largestCount_le (env.places options)) (length_places_lt env options)
    exact isCount_ofNat (lt_trans hlt (by decide))

/-! ## The CPUs of the two environments -/

/-- The number and the path of the directory of a CPU. -/
def Cpu.dir (options : CollectOptions) (cpu : Cpu) : UInt64 × Bytes :=
  (cpu.id.toUInt64, joinPath (cpuRoot options) cpu.dirName)

theorem Cpu.dir_eq {options : CollectOptions} {a b : Cpu} (h : (a.dir options).1 = (b.dir options).1) :
    a.dir options = b.dir options := by
  have hid : a.id = b.id := by
    have hnat := congrArg UInt64.toNat h
    simpa [Cpu.dir, UInt32.toNat_inj] using hnat
  rw [Cpu.dir, Cpu.dir, Cpu.dirName, Cpu.dirName, hid]

namespace Env.SysfsMachine

variable {env : Env} {options : CollectOptions} {cpus : List Cpu}

/-- The numbered entries of the listing, in whatever order, are the directories of the CPUs. -/
theorem listed_perm (h : env.SysfsMachine options cpus) :
    ((env.names (cpuRoot options)).filterMap (cpuDirOf (cpuRoot options))).Perm
      (cpus.map (Cpu.dir options)) := by
  let dirOf (name : Bytes) : Option (UInt64 × Bytes) :=
    (numberedEntry "cpu" name).map fun id => (id, joinPath (cpuRoot options) name)
  calc (env.names (cpuRoot options)).filterMap (cpuDirOf (cpuRoot options))
      = ((env.names (cpuRoot options)).filter fun entry =>
          (numberedEntry "cpu" entry.name).isSome).filterMap (cpuDirOf (cpuRoot options)) := by
        rw [List.filterMap_filter]
        refine List.filterMap_congr fun entry _ => ?_
        rw [cpuDirOf]
        cases numberedEntry "cpu" entry.name <;> rfl
    _ = (((env.names (cpuRoot options)).filter fun entry =>
          (numberedEntry "cpu" entry.name).isSome).map EntryName.name).filterMap dirOf := by
        rw [List.filterMap_map]
        rfl
    List.Perm _ ((cpus.map Cpu.dirName).filterMap dirOf) := h.names.filterMap dirOf
    _ = cpus.map (Cpu.dir options) := by
        rw [List.filterMap_map, ← List.filterMap_eq_map]
        refine List.filterMap_congr fun cpu _ => ?_
        show (numberedEntry "cpu" cpu.dirName).map _ = some (cpu.dir options)
        rw [Cpu.dirName, numberedEntry_cpu]
        rfl

theorem cpuDirs_eq (h : env.SysfsMachine options cpus)
    (hascending : cpus.Pairwise fun a b => a.id < b.id) :
    env.cpuDirs options = cpus.map (Cpu.dir options) := by
  have hperm : (env.cpuDirs options).Perm (cpus.map (Cpu.dir options)) :=
    (List.perm_insertionSort cpuDirLe _).trans h.listed_perm
  refine List.Perm.eq_of_pairwise ?_ (List.pairwise_insertionSort cpuDirLe _) ?_ hperm
  · intro a b ha hb hab hba
    obtain ⟨c, -, rfl⟩ := List.mem_map.1 (hperm.mem_iff.1 ha)
    obtain ⟨d, -, rfl⟩ := List.mem_map.1 hb
    exact Cpu.dir_eq (UInt64.le_antisymm hab.id_le hba.id_le)
  · rw [List.pairwise_map]
    refine hascending.imp fun {a b} hlt => Or.inl ?_
    rw [Cpu.dir, Cpu.dir, UInt64.lt_iff_toNat_lt]
    simpa [UInt32.lt_iff_toNat_lt] using hlt

theorem cpus_eq (h : env.SysfsMachine options cpus)
    (hascending : cpus.Pairwise fun a b => a.id < b.id) (hne : cpus ≠ []) :
    env.cpus options = cpus := by
  have hstanza : ∀ {key : Bytes}, key ∈ [bytes "core id", bytes "physical id", bytes "cpu cores",
      bytes "siblings"] → ∀ id, ((stanzaOf (env.stanzas options) id).bind fun stanza =>
        stanzaNumber stanza key) = none := by
    intro key hkey id
    cases hof : stanzaOf (env.stanzas options) id with
    | none => rfl
    | some stanza =>
      have hmem := List.mem_reverse.1 (List.mem_of_find?_eq_some hof)
      rw [Option.bind_some, stanzaNumber, lastEntry_eq_none h.lines hkey hmem]
      rfl
  have hdir : ∀ cpu ∈ cpus, env.dirCpu (env.stanzas options) (cpu.dir options) = cpu := by
    intro cpu hcpu
    have hid : (cpu.dir options).1.toUInt32 = cpu.id := by simp [Cpu.dir]
    have hcore : env.dirNumber (env.stanzas options) (cpu.dir options) "core_id" "core id" =
        cpu.core := by
      rw [Env.dirNumber, hstanza (by simp), Option.or_none]
      exact h.core cpu hcpu
    have hpackage : env.dirNumber (env.stanzas options) (cpu.dir options) "physical_package_id"
        "physical id" = cpu.package := by
      rw [Env.dirNumber, hstanza (by simp), Option.or_none]
      exact h.package cpu hcpu
    rw [Env.dirCpu, hid, hcore, hpackage]
  rw [Env.cpus, h.cpuDirs_eq hascending, if_neg (by simpa using hne), List.map_map]
  exact (List.map_congr_left hdir).trans (List.map_id cpus)

end Env.SysfsMachine

theorem Env.CpuinfoMachine.cpus_eq {env : Env} {options : CollectOptions} {cpus : List Cpu}
    (h : env.CpuinfoMachine options cpus) : env.cpus options = cpus := by
  rw [Env.cpus, if_pos (cpuDirs_eq_nil h.dirs), h.cpus]

/-- The same CPUs, given by the tree or by cpuinfo, make the same topology and the same summary. -/
theorem same_machine (options options' : CollectOptions) (env env' : Env) (cpus : List Cpu)
    (hne : cpus ≠ []) (hascending : cpus.Pairwise fun a b => a.id < b.id)
    (hsysfs : env.SysfsMachine options cpus) (hcpuinfo : env'.CpuinfoMachine options' cpus) :
    let info := (collectCpu options).run env
    let info' := (collectCpu options').run env'
    (info.Describes cpus ∧ info'.Describes cpus) ∧
      info.topology.map CpuTopologyEntry.ids = info'.topology.map CpuTopologyEntry.ids ∧
      info.sockets = info'.sockets ∧ info.coresPerSocket = info'.coresPerSocket ∧
      info.threadsPerCore = info'.threadsPerCore := by
  have h : ((collectCpu options).run env).Describes cpus := by
    have h := describes_cpus env options (firstNumber_eq_none hsysfs.lines (by simp))
    rwa [hsysfs.cpus_eq hascending hne] at h
  have h' : ((collectCpu options').run env').Describes cpus := by
    have h' := describes_cpus env' options' (firstNumber_eq_none hcpuinfo.lines (by simp))
    rwa [hcpuinfo.cpus_eq] at h'
  exact ⟨⟨h, h'⟩, h.topology.trans h'.topology.symm, h.sockets.unique h'.sockets,
    h.coresPerSocket.unique h'.coresPerSocket, h.threadsPerCore.unique h'.threadsPerCore⟩

/-- The CPUs 2 and 10, the second one of an unknown package. -/
def twoCpus : List Cpu := [⟨2, some 0, some 0⟩, ⟨10, some 1, none⟩]

/-- Their tree; `cpu10` is the first directory by name. -/
def twoCpusSysfs : Env :=
  .ofTree [("/sys/devices/system/cpu/cpu2/topology/core_id", { content := bytes "0\n" }),
      ("/sys/devices/system/cpu/cpu2/topology/physical_package_id", { content := bytes "0\n" }),
      ("/sys/devices/system/cpu/cpu10/topology/core_id", { content := bytes "1\n" })]
    [("/sys/devices/system/cpu",
      { entries := [cpu2, ⟨"cpufreq", by decide, by decide, by decide, by decide⟩, cpu10] })] []

/-- Their cpuinfo. -/
def twoCpusCpuinfo : Env :=
  .ofTree [("/proc/cpuinfo", { content := bytes ("processor : 2\nphysical id : 0\ncore id : 0\n\n" ++
    "processor : 10\ncore id : 1\n"), size_lt := by decide +kernel })] [] []

theorem same_machine_two :
    ((collectCpu {}).run twoCpusSysfs).sockets = ((collectCpu {}).run twoCpusCpuinfo).sockets :=
  (same_machine {} {} twoCpusSysfs twoCpusCpuinfo twoCpus (by decide) (by decide)
    ⟨by decide +kernel, by decide +kernel, by decide +kernel, by unfold Env.NoLines; decide +kernel⟩
    ⟨by decide +kernel, by decide +kernel, by unfold Env.NoLines; decide +kernel⟩).2.2.1

end Archspec
