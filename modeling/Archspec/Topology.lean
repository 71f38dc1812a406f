import Archspec.Cpuinfo
import Archspec.CpuDirs
import Archspec.Lib.Grouping

/-!
# The CPUs of an environment

The topology list has one entry for each CPU directory, or, when there is none, one for each stanza
of cpuinfo with a processor number.  `Env.cpus` gives the CPUs by what the files hold, and the
entries are these CPUs (`run_cpuTopology_ids`).  The summary of the list counts the CPUs whose core
and package are both known (`Env.places`): the maps `countEntry` fills hold the groups of these
pairs (`counted_topology`).
-/

namespace Archspec

open Lib Program

/-! ## Numbers -/

/-- The 32-bit number on the first line of a file. -/
def Env.number32 (env : Env) (path : Bytes) : Option UInt32 := (env.line path).bind u32FromText

theorem run_readU32Field_value (env : Env) (path : Bytes) :
    ((readU32Field path).run env).value? = env.number32 path := by
  rw [readU32Field, run_readParsed_value, Env.number32]
  congr 1
  funext line
  rw [u32FromText]
  cases parseU64 line <;> rfl

/-- The 32-bit number under a key of a stanza. -/
def stanzaNumber (stanza : List (Bytes × Bytes)) (key : Bytes) : Option UInt32 :=
  (lastEntry stanza key).bind u32FromText

/-- The processor number of a stanza. -/
def processorId (stanza : List (Bytes × Bytes)) : Option UInt64 :=
  (lastEntry stanza "processor").bind parseU64

/-- An empty value is no number. -/
theorem mapValue_blockOf_bind {α : Type} (parse : Bytes → Option α) (hnil : parse [] = none)
    (stanza : List (Bytes × Bytes)) (key : Bytes) :
    (mapValue (blockOf stanza) key).bind parse = (lastEntry stanza key).bind parse := by
  rw [mapValue_blockOf]
  cases lastEntry stanza key with
  | none => rfl
  | some value =>
    by_cases h : value = []
    · subst h
      rw [Option.bind_some, hnil]
      rfl
    · rw [Option.filter_some_pos (by simpa using h)]

theorem u32FromMap_blockOf (stanza : List (Bytes × Bytes)) (key : Bytes) :
    u32FromMap (blockOf stanza) key = stanzaNumber stanza key :=
  mapValue_blockOf_bind u32FromText rfl stanza key

theorem processorId_blockOf (stanza : List (Bytes × Bytes)) :
    (mapValue (blockOf stanza) "processor").bind parseU64 = processorId stanza :=
  mapValue_blockOf_bind parseU64 rfl stanza "processor"

/-! ## The CPUs -/

/-- A CPU, with its core and its package where they are known. -/
structure Cpu where
  id : UInt32
  core : Option UInt32
  package : Option UInt32
  deriving DecidableEq

/-- The three numbers of a CPU. -/
def Cpu.ids (cpu : Cpu) : Option UInt32 × Option UInt32 × Option UInt32 :=
  (some cpu.id, cpu.core, cpu.package)

/-- The three numbers of a topology entry. -/
def CpuTopologyEntry.ids (entry : CpuTopologyEntry) : Option UInt32 × Option UInt32 × Option UInt32 :=
  (entry.logicalId.value?, entry.coreId.value?, entry.packageId.value?)

/-- The stanzas of cpuinfo, none when it cannot be read. -/
def Env.stanzas (env : Env) (options : CollectOptions) : List (List (Bytes × Bytes)) :=
  match env.text (procPath options "/cpuinfo") with
  | none => []
  | some text => Archspec.stanzas text

theorem cpuBlocks_eq_stanzas (env : Env) (options : CollectOptions) :
    env.cpuBlocks options = (env.stanzas options).map blockOf := by
  rw [Env.cpuBlocks, Env.stanzas]
  cases env.text (procPath options "/cpuinfo") with
  | none => rfl
  | some text => exact parseColonBlocks_eq text

/-- The last stanza with a processor number. -/
def stanzaOf (stanzas : List (List (Bytes × Bytes))) (id : UInt64) : Option (List (Bytes × Bytes)) :=
  stanzas.reverse.find? fun stanza => processorId stanza = some id

/-- The CPU of a stanza. -/
def stanzaCpu (stanza : List (Bytes × Bytes)) : Option Cpu :=
  (stanzaNumber stanza "processor").map fun id =>
    { id, core := stanzaNumber stanza "core id", package := stanzaNumber stanza "physical id" }

/-- A number from a topology file of a CPU directory, or else from the stanza of the CPU. -/
def Env.dirNumber (env : Env) (stanzas : List (List (Bytes × Bytes))) (cpu : UInt64 × Bytes)
    (file key : Bytes) : Option UInt32 :=
  (env.number32 (joinPath (joinPath cpu.2 "topology") file)).or
    ((stanzaOf stanzas cpu.1).bind fun stanza => stanzaNumber stanza key)

/-- The CPU of a directory. -/
def Env.dirCpu (env : Env) (stanzas : List (List (Bytes × Bytes))) (cpu : UInt64 × Bytes) : Cpu where
  id := cpu.1.toUInt32
  core := env.dirNumber stanzas cpu "core_id" "core id"
  package := env.dirNumber stanzas cpu "physical_package_id" "physical id"

/-- The CPUs, from the directories if there are any. -/
def Env.cpus (env : Env) (options : CollectOptions) : List Cpu :=
  if env.cpuDirs options = [] then (env.stanzas options).filterMap stanzaCpu
  else (env.cpuDirs options).map (env.dirCpu (env.stanzas options))

/-! ## The topology list -/

theorem blocksByProcessor_concat (blocks : List KeyValueMap) (block : KeyValueMap) :
    blocksByProcessor (blocks ++ [block]) =
      match (mapValue block "processor").bind parseU64 with
      | some id => (blocksByProcessor blocks).insert id block
      | none => blocksByProcessor blocks := by
  rw [blocksByProcessor, List.foldl_append]
  rfl

theorem lookup_blocksByProcessor (stanzas : List (List (Bytes × Bytes))) (id : UInt64) :
    (blocksByProcessor (stanzas.map blockOf)).lookup id = (stanzaOf stanzas id).map blockOf := by
  induction stanzas using List.reverseRecOn with
  | nil => rfl
  | append_singleton stanzas stanza ih =>
    rw [List.map_append, List.map_singleton, blocksByProcessor_concat, processorId_blockOf, stanzaOf,
      List.reverse_append, List.reverse_singleton, List.singleton_append, List.find?_cons]
    cases h : processorId stanza with
    | none => simpa [stanzaOf] using ih
    | some number =>
      dsimp only
      by_cases hid : number = id
      · subst hid
        simp [Finmap.lookup_insert]
      · rw [Finmap.lookup_insert_of_ne _ (Ne.symm hid), ih, stanzaOf]
        simp [hid]

theorem value?_withFallback (field : U32Field) (block : Option KeyValueMap) (key : Bytes) :
    (withFallback field block key).value? =
      field.value?.or (block.bind fun block => u32FromMap block key) := by
  rw [withFallback, Field.value?, Field.value?]
  by_cases h : field.valid = true
  · simp [h]
  · rw [if_neg h, if_neg h, Option.none_or]
    cases block.bind fun block => u32FromMap block key with
    | none => exact if_neg h
    | some number => rfl

theorem run_cpuTopologyEntry_ids (env : Env) (stanzas : List (List (Bytes × Bytes)))
    (cpu : UInt64 × Bytes) :
    ((cpuTopologyEntry (blocksByProcessor (stanzas.map blockOf)) cpu).run env).ids =
      (env.dirCpu stanzas cpu).ids := by
  have hblock : ∀ key, (((stanzaOf stanzas cpu.1).map blockOf).bind fun block =>
      u32FromMap block key) = (stanzaOf stanzas cpu.1).bind fun stanza => stanzaNumber stanza key := by
    intro key
    cases stanzaOf stanzas cpu.1 with
    | none => rfl
    | some stanza => exact u32FromMap_blockOf stanza key
  simp only [cpuTopologyEntry, run_bind, run_pure, CpuTopologyEntry.ids, value?_ofValue,
    value?_withFallback, run_readU32Field_value, lookup_blocksByProcessor, hblock]
  rfl

theorem value?_fieldFromBlock (stanza : List (Bytes × Bytes)) (key : Bytes) :
    (fieldFromBlock (blockOf stanza) key).value? = stanzaNumber stanza key := by
  rw [fieldFromBlock, u32FromMap_blockOf]
  cases stanzaNumber stanza key <;> rfl

theorem addCpuinfoTopology_ids (stanzas : List (List (Bytes × Bytes))) :
    (addCpuinfoTopology (stanzas.map blockOf)).map CpuTopologyEntry.ids =
      (stanzas.filterMap stanzaCpu).map Cpu.ids := by
  induction stanzas with
  | nil => rfl
  | cons stanza stanzas ih =>
    rw [addCpuinfoTopology, List.map_cons, List.filterMap_cons, List.filterMap_cons, stanzaCpu,
      u32FromMap_blockOf]
    cases stanzaNumber stanza "processor" with
    | none => exact ih
    | some number =>
      simp only [Option.map_some, List.map_cons, CpuTopologyEntry.ids, value?_ofValue,
        value?_fieldFromBlock]
      exact congrArg _ ih

/-- The entries are made from the CPU directories, or else from the blocks. -/
theorem run_cpuTopology (env : Env) (options : CollectOptions) (blocks : List KeyValueMap) :
    (cpuTopology options blocks).run env =
      if env.cpuDirs options = [] then addCpuinfoTopology blocks
      else (env.cpuDirs options).map fun cpu =>
        (cpuTopologyEntry (blocksByProcessor blocks) cpu).run env := by
  have hentries : (gather (fun cpu => some <$> cpuTopologyEntry (blocksByProcessor blocks) cpu)
      (env.cpuDirs options)).run env = (env.cpuDirs options).map fun cpu =>
        (cpuTopologyEntry (blocksByProcessor blocks) cpu).run env := by
    rw [run_gather]
    simp only [run_map]
    exact congrFun List.filterMap_eq_map (env.cpuDirs options)
  rw [cpuTopology, run_bind, run_cpuDirs, run_bind, hentries, run_pure]
  by_cases hdirs : env.cpuDirs options = []
  · rw [if_pos hdirs, hdirs]
    cases blocks <;> rfl
  · rw [if_neg hdirs, if_neg (by simp [hdirs])]

/-- The entries are the CPUs. -/
theorem run_cpuTopology_ids (env : Env) (options : CollectOptions) :
    ((cpuTopology options (env.cpuBlocks options)).run env).map CpuTopologyEntry.ids =
      (env.cpus options).map Cpu.ids := by
  rw [run_cpuTopology, Env.cpus, cpuBlocks_eq_stanzas]
  by_cases hdirs : env.cpuDirs options = []
  · rw [if_pos hdirs, if_pos hdirs, addCpuinfoTopology_ids]
  · rw [if_neg hdirs, if_neg hdirs, List.map_map, List.map_map]
    exact List.map_congr_left fun cpu _ => run_cpuTopologyEntry_ids env (env.stanzas options) cpu

/-! ## The summary -/

/-- The package and the core, when both are known. -/
def place (ids : Option UInt32 × Option UInt32 × Option UInt32) : Option (UInt32 × UInt32) :=
  match ids.2.2, ids.2.1 with
  | some package, some core => some (package, core)
  | _, _ => none

/-- The places of the CPUs that have one. -/
def Env.places (env : Env) (options : CollectOptions) : List (UInt32 × UInt32) :=
  (env.cpus options).filterMap fun cpu => place cpu.ids

/-- The maps hold the groups of the places counted so far. -/
structure Counted (counts : TopologyCounts) (places : List (UInt32 × UInt32)) : Prop where
  packages : counts.packages = groups places
  cores : ∀ package, counts.coresByPackage.lookup package =
    if package ∈ groups places then some (members places package) else none
  threads : ∀ at', counts.threadsByCore.lookup at' =
    if at' ∈ places.toFinset then some (places.count at') else none

theorem counted_empty : Counted {} [] := by
  refine ⟨rfl, fun package => ?_, fun at' => ?_⟩
  · rfl
  · rfl

theorem countEntry_of_place_none {entry : CpuTopologyEntry} (h : place entry.ids = none)
    (counts : TopologyCounts) : countEntry counts entry = counts := by
  rw [countEntry]
  apply if_pos
  by_contra hvalid
  simp only [Bool.or_eq_true, Bool.not_eq_true', not_or, Bool.not_eq_false] at hvalid
  simp [place, CpuTopologyEntry.ids, Field.value?, hvalid.1, hvalid.2] at h

theorem valid_of_place {entry : CpuTopologyEntry} {package core : UInt32}
    (h : place entry.ids = some (package, core)) :
    entry.packageId.valid = true ∧ entry.coreId.valid = true ∧
      entry.packageId.value = package ∧ entry.coreId.value = core := by
  rw [place, CpuTopologyEntry.ids] at h
  by_cases hp : entry.packageId.valid = true
  · by_cases hc : entry.coreId.valid = true
    · rw [value?_of_valid hp, value?_of_valid hc] at h
      obtain ⟨rfl, rfl⟩ := Prod.mk.inj (Option.some.inj h)
      exact ⟨hp, hc, rfl, rfl⟩
    · rw [value?_of_valid hp, value?_of_not_valid hc] at h
      cases h
  · rw [value?_of_not_valid hp] at h
    cases h

theorem counted_countEntry {counts : TopologyCounts} {places : List (UInt32 × UInt32)}
    (h : Counted counts places) (entry : CpuTopologyEntry) :
    Counted (countEntry counts entry) (places ++ (place entry.ids).toList) := by
  cases hplace : place entry.ids with
  | none =>
    rw [countEntry_of_place_none hplace, Option.toList_none, List.append_nil]
    exact h
  | some at' =>
    obtain ⟨package, core⟩ := at'
    obtain ⟨hp, hc, rfl, rfl⟩ := valid_of_place hplace
    rw [countEntry, if_neg (by simp [hp, hc]), Option.toList_some]
    refine ⟨?_, fun package => ?_, fun at' => ?_⟩
    · rw [groups_concat, h.packages]
    · dsimp only
      by_cases heq : package = entry.packageId.value
      · subst heq
        rw [Finmap.lookup_insert, h.cores, groups_concat, if_pos (Finset.mem_insert_self _ _),
          members_concat_self]
        by_cases hmem : entry.packageId.value ∈ groups places
        · rw [if_pos hmem, Option.getD_some]
        · rw [if_neg hmem, Option.getD_none, members_eq_empty hmem]
      · rw [Finmap.lookup_insert_of_ne _ heq, h.cores, groups_concat, members_concat_of_ne heq]
        simp only [Finset.mem_insert, heq, false_or]
    · dsimp only
      by_cases heq : at' = (entry.packageId.value, entry.coreId.value)
      · subst heq
        have hin : (entry.packageId.value, entry.coreId.value) ∈
            (places ++ [(entry.packageId.value, entry.coreId.value)]).toFinset := by simp
        rw [Finmap.lookup_insert, h.threads, if_pos hin, List.count_append,
          List.count_singleton_self]
        by_cases hmem : (entry.packageId.value, entry.coreId.value) ∈ places.toFinset
        · rw [if_pos hmem, Option.getD_some]
        · rw [if_neg hmem, Option.getD_none,
            List.count_eq_zero.2 fun hin => hmem (List.mem_toFinset.2 hin)]
      · rw [Finmap.lookup_insert_of_ne _ heq, h.threads, List.count_append,
          List.count_singleton, beq_false_of_ne (Ne.symm heq)]
        simp [heq]

/-- The loop over the entries counts their places. -/
theorem counted_topology (entries : List CpuTopologyEntry) :
    Counted (entries.foldl countEntry {}) (entries.filterMap fun entry => place entry.ids) := by
  induction entries using List.reverseRecOn with
  | nil => exact counted_empty
  | append_singleton entries entry ih =>
    rw [List.foldl_append, List.filterMap_append]
    have h := counted_countEntry ih entry
    cases hplace : place entry.ids with
    | none => simpa [hplace] using h
    | some at' => simpa [hplace] using h

namespace Counted

variable {counts : TopologyCounts} {places : List (UInt32 × UInt32)} (h : Counted counts places)

include h

theorem maxCores_eq : counts.maxCores = largestGroup places :=
  sup_of_lookup h.cores Finset.card

theorem maxThreads_eq : counts.maxThreads = largestCount places :=
  sup_of_lookup h.threads id

theorem socketsField_eq :
    socketsField counts = if places = [] then .unavailable .notFound
      else .ofValue (UInt64.ofNat (groups places).card) := by
  rw [socketsField, h.packages]
  by_cases hnil : places = []
  · rw [if_pos hnil, if_neg (not_not.2 (groups_eq_empty_iff.2 hnil))]
  · rw [if_neg hnil, if_pos fun hempty => hnil (groups_eq_empty_iff.1 hempty)]

theorem coresPerSocketField_eq (cpuCores : U64Field) :
    coresPerSocketField cpuCores counts =
      if cpuCores.valid then cpuCores
      else if places = [] then .unavailable .notFound
      else .ofValue (UInt64.ofNat (largestGroup places)) := by
  rw [coresPerSocketField, h.maxCores_eq]
  congr 1
  have hempty : counts.coresByPackage = ∅ ↔ places = [] :=
    (eq_empty_of_lookup h.cores).trans groups_eq_empty_iff
  by_cases hnil : places = []
  · rw [if_pos hnil, if_neg (not_not.2 (hempty.2 hnil))]
  · rw [if_neg hnil, if_pos fun hcores => hnil (hempty.1 hcores)]

theorem threadsPerCoreField_eq (siblings cpuCores : U64Field) :
    threadsPerCoreField siblings cpuCores counts =
      if siblings.valid && cpuCores.valid && cpuCores.value != 0 then
        .ofValue (siblings.value / cpuCores.value)
      else if places = [] then .unavailable .notFound
      else .ofValue (UInt64.ofNat (largestCount places)) := by
  rw [threadsPerCoreField, h.maxThreads_eq]
  congr 1
  have hempty : counts.threadsByCore = ∅ ↔ places = [] :=
    (eq_empty_of_lookup h.threads).trans (List.toFinset_eq_empty_iff places)
  by_cases hnil : places = []
  · rw [if_pos hnil, if_neg (not_not.2 (hempty.2 hnil))]
  · rw [if_neg hnil, if_pos fun hthreads => hnil (hempty.1 hthreads)]

end Counted

/-! ## The processor section -/

section Run

variable (env : Env) (options : CollectOptions)

/-- The number under a key of the first stanza. -/
def Env.firstNumber (key : Bytes) : Option UInt64 :=
  (env.stanzas options).head?.bind fun stanza => (lastEntry stanza key).bind parseU64

/-- The field of a number of the first block. -/
def firstField64 (key : Bytes) : U64Field :=
  u64FromMap ((env.cpuBlocks options).headD ∅) [key]

theorem value?_firstField64 (key : Bytes) :
    (firstField64 env options key).value? = env.firstNumber options key := by
  have hblock : ∀ block : KeyValueMap,
      (u64FromMap block [key]).value? = (mapValue block key).bind parseU64 := by
    intro block
    rw [u64FromMap, List.findSome?_singleton]
    cases mapValue block key with
    | none => rfl
    | some text =>
      dsimp only
      rw [Option.bind_some]
      cases parseU64 text <;> rfl
  rw [firstField64, hblock, cpuBlocks_eq_stanzas, Env.firstNumber]
  cases env.stanzas options with
  | nil => rfl
  | cons stanza stanzas => exact mapValue_blockOf_bind parseU64 rfl stanza key

/-- The topology and its summary. -/
theorem run_collectCpu_topology :
    let info := (collectCpu options).run env
    let counts := info.topology.foldl countEntry {}
    info.topology = (cpuTopology options (env.cpuBlocks options)).run env ∧
      info.sockets = socketsField counts ∧
      info.coresPerSocket = coresPerSocketField (firstField64 env options "cpu cores") counts ∧
      info.threadsPerCore = threadsPerCoreField (firstField64 env options "siblings")
        (firstField64 env options "cpu cores") counts := by
  simp only [collectCpu, cpuDetails, run_bind, run_pure, cpuBlocks_eq, firstField64, and_self]

theorem topology_ids :
    ((collectCpu options).run env).topology.map CpuTopologyEntry.ids =
      (env.cpus options).map Cpu.ids := by
  rw [(run_collectCpu_topology env options).1, run_cpuTopology_ids]

theorem topology_places :
    (((collectCpu options).run env).topology.filterMap fun entry => place entry.ids) =
      env.places options := by
  have h := congrArg (List.filterMap place) (topology_ids env options)
  rwa [List.filterMap_map, List.filterMap_map] at h

theorem counted_places :
    Counted (((collectCpu options).run env).topology.foldl countEntry {}) (env.places options) := by
  rw [← topology_places]
  exact counted_topology _

end Run

end Archspec
