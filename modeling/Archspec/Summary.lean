import Archspec.Topology

/-!
# The summary against the topology

`sockets`, `cores_per_socket` and `threads_per_core` multiply to at least the number of CPUs whose
core and package are known as long as they are taken from the topology, but `cpu cores` and
`siblings` of cpuinfo take precedence, and nothing compares them with it (`countsAll_iff`).

The CPU counts fall back on the number of cpuinfo blocks, which is the number of CPUs when every block
is a processor's (`counts_cpus_iff`).
-/

namespace Archspec

open Lib Program

/-! ## Sizes -/

theorem card_uint32_le (s : Finset UInt32) : s.card ≤ 2 ^ 32 := by
  have hinj : Set.InjOn UInt32.toNat (s : Set UInt32) := fun _ _ _ _ h => UInt32.toNat_inj.1 h
  have hsub : s.image UInt32.toNat ⊆ Finset.range (2 ^ 32) := by
    intro n hn
    obtain ⟨x, -, rfl⟩ := Finset.mem_image.1 hn
    exact Finset.mem_range.2 x.toNat_lt
  calc s.card = (s.image UInt32.toNat).card := (Finset.card_image_of_injOn hinj).symm
    _ ≤ (Finset.range (2 ^ 32)).card := Finset.card_le_card hsub
    _ = 2 ^ 32 := Finset.card_range _

theorem length_stanzas_lt (env : Env) (options : CollectOptions) :
    (env.stanzas options).length < 2 ^ 63 := by
  rw [Env.stanzas]
  cases htext : env.text (procPath options "/cpuinfo") with
  | none => decide
  | some text =>
    rw [Env.text] at htext
    obtain ⟨file, -, hfile⟩ := Option.bind_eq_some_iff.1 htext
    by_cases hbad : file.badCopy = true
    · rw [if_pos hbad] at hfile
      cases hfile
    · rw [if_neg hbad] at hfile
      obtain rfl := Option.some.inj hfile
      exact lt_of_le_of_lt (length_stanzas_le _) file.size_lt

theorem length_places_lt (env : Env) (options : CollectOptions) :
    (env.places options).length < 2 ^ 63 := by
  refine lt_of_le_of_lt (List.length_filterMap_le _ _) ?_
  rw [Env.cpus]
  split
  · exact lt_of_le_of_lt (List.length_filterMap_le _ _) (length_stanzas_lt env options)
  · rw [List.length_map]
    exact length_cpuDirs_lt env options

/-! ## The law -/

/-- Where the three numbers are there, their product is at least the number of entries whose core and
package are known. -/
def CpuInfo.CountsAll (info : CpuInfo) : Prop :=
  info.sockets.valid = true → info.coresPerSocket.valid = true → info.threadsPerCore.valid = true →
    (info.topology.filter fun entry => entry.packageId.valid && entry.coreId.valid).length ≤
      info.sockets.value.toNat * info.coresPerSocket.value.toNat * info.threadsPerCore.value.toNat

/-- If the first stanza has a number of cores, then its lines leave room for every CPU whose core and
package are known. -/
def Env.RoomForCpus (env : Env) (options : CollectOptions) : Prop :=
  ∀ cores, env.firstNumber options "cpu cores" = some cores →
    (env.places options).length ≤ (groups (env.places options)).card * cores.toNat *
      match env.firstNumber options "siblings" with
      | some siblings => siblings.toNat / cores.toNat
      | none => largestCount (env.places options)

/-- The entries with both numbers are the places. -/
theorem length_entries_eq (env : Env) (options : CollectOptions) :
    (((collectCpu options).run env).topology.filter
      fun entry => entry.packageId.valid && entry.coreId.valid).length =
      (env.places options).length := by
  rw [← topology_places, List.length_filterMap_eq_countP, ← List.countP_eq_length_filter]
  refine List.countP_congr fun entry _ => ?_
  cases hplace : place entry.ids with
  | none =>
    simp only [Option.isSome_none, Bool.false_eq_true, iff_false]
    intro hvalid
    obtain ⟨hp, hc⟩ := Bool.and_eq_true_iff.1 hvalid
    rw [place, CpuTopologyEntry.ids, value?_of_valid hp, value?_of_valid hc] at hplace
    cases hplace
  | some at' =>
    obtain ⟨hp, hc, -, -⟩ := valid_of_place hplace
    simp [hp, hc]

theorem largestGroup_le (places : List (UInt32 × UInt32)) : largestGroup places ≤ 2 ^ 32 :=
  Finset.sup_le fun _ _ => card_uint32_le _

/-- The summary accounts for every CPU if and only if the lines of the first stanza do, where it has
them. -/
theorem countsAll_iff (env : Env) (options : CollectOptions) :
    ((collectCpu options).run env).CountsAll ↔ env.RoomForCpus options := by
  obtain ⟨-, hsockets, hcores, hthreads⟩ := run_collectCpu_topology env options
  have hcounted := counted_places env options
  rw [hcounted.socketsField_eq] at hsockets
  rw [hcounted.coresPerSocketField_eq] at hcores
  rw [hcounted.threadsPerCoreField_eq] at hthreads
  rw [CpuInfo.CountsAll, length_entries_eq, hsockets, hcores, hthreads, Env.RoomForCpus,
    ← value?_firstField64, ← value?_firstField64]
  by_cases hnil : env.places options = []
  · simp [hnil]
  have hpackages : (UInt64.ofNat (groups (env.places options)).card).toNat =
      (groups (env.places options)).card :=
    UInt64.toNat_ofNat_of_lt' (lt_of_le_of_lt (card_uint32_le _) (by decide))
  have hgroup : (UInt64.ofNat (largestGroup (env.places options))).toNat =
      largestGroup (env.places options) :=
    UInt64.toNat_ofNat_of_lt' (lt_of_le_of_lt (largestGroup_le _) (by decide))
  have hcount : (UInt64.ofNat (largestCount (env.places options))).toNat =
      largestCount (env.places options) := by
    have hle := largestCount_le (env.places options)
    have hlt := length_places_lt env options
    exact UInt64.toNat_ofNat_of_lt' (by show _ < 2 ^ 64; omega)
  by_cases hvalid : (firstField64 env options "cpu cores").valid = true
  · by_cases hsiblings : (firstField64 env options "siblings").valid = true
    · by_cases hzero : (firstField64 env options "cpu cores").value = 0
      · simp [hnil, hvalid, hsiblings, hzero, value?_of_valid]
      · simp [hnil, hvalid, hsiblings, hzero, hpackages, value?_of_valid]
    · simp [hnil, hvalid, hsiblings, hpackages, hcount, value?_of_valid, value?_of_not_valid]
  · have hnone := value?_of_not_valid hvalid
    simp only [hnil, hvalid, hnone, hpackages, hgroup, hcount, if_false, Field.valid_ofValue,
      Field.value_ofValue, Bool.and_false, Bool.false_and, Bool.false_eq_true]
    constructor
    · rintro - cores ⟨⟩
    · rintro - - - -
      exact length_le_mul (env.places options)

instance (info : CpuInfo) : Decidable info.CountsAll :=
  inferInstanceAs (Decidable (_ → _ → _ → _ ≤ _))

/-- A package with a core of two threads and a core of one thread. -/
def hybridCpuinfo : OpenFile where
  content := bytes ("processor : 0\nphysical id : 0\nsiblings : 3\ncore id : 0\ncpu cores : 2\n\n" ++
    "processor : 1\nphysical id : 0\ncore id : 0\n\nprocessor : 2\nphysical id : 0\ncore id : 1\n")
  size_lt := by decide +kernel

/-- Three threads on two cores are reported as one thread a core. -/
theorem undercounts_hybrid :
    ¬ ((collectCpu {}).run (Env.ofFiles [("/proc/cpuinfo", hybridCpuinfo)])).CountsAll := by
  decide +kernel

/-! ## The fallback counts -/

/-- The processor numbers of a text. -/
def processorIds (text : Bytes) : List UInt64 := (stanzas text).filterMap processorId

/-- None of the three lists of CPUs can be read. -/
def Env.NoCpuLists (env : Env) (options : CollectOptions) : Prop :=
  ∀ path ∈ cpuCountFiles options, (env.line path).bind cpuListCount = none

/-- No entry has a number behind `cpu`. -/
def Env.NoCpuDirs (env : Env) (options : CollectOptions) : Prop :=
  ∀ entry ∈ env.names (cpuRoot options), numberedEntry "cpu" entry.name = none

instance (env : Env) (options : CollectOptions) : Decidable (env.NoCpuLists options) :=
  inferInstanceAs (Decidable (∀ path ∈ cpuCountFiles options, _ = _))

instance (env : Env) (options : CollectOptions) : Decidable (env.NoCpuDirs options) :=
  inferInstanceAs (Decidable (∀ entry ∈ env.names (cpuRoot options), _ = _))

/-- The three counts and the number of topology entries are `n`. -/
def CpuInfo.CountsAre (info : CpuInfo) (n : ℕ) : Prop :=
  (∀ count ∈ info.counts, count.valid = true ∧ count.value.toNat = n) ∧ info.topology.length = n

instance (info : CpuInfo) (n : ℕ) : Decidable (info.CountsAre n) :=
  inferInstanceAs (Decidable ((∀ count ∈ info.counts, _ ∧ _) ∧ _ = _))

theorem cpuDirs_eq_nil {env : Env} {options : CollectOptions} (h : env.NoCpuDirs options) :
    env.cpuDirs options = [] := by
  apply List.eq_nil_iff_forall_not_mem.2
  intro cpu hcpu
  obtain ⟨entry, hentry, heq⟩ := mem_cpuDirs.1 hcpu
  rw [cpuDirOf, h entry hentry] at heq
  cases heq

/-- A number of 32 bits is read as a number of 64 bits. -/
theorem stanzaNumber_processor {stanza : List (Bytes × Bytes)}
    (h : ∀ id, processorId stanza = some id → id.toNat < 2 ^ 32) :
    stanzaNumber stanza "processor" = (processorId stanza).map UInt64.toUInt32 := by
  rw [processorId] at h ⊢
  rw [stanzaNumber]
  cases hentry : lastEntry stanza "processor" with
  | none => rfl
  | some text =>
    rw [hentry, Option.bind_some] at h
    rw [Option.bind_some, Option.bind_some, u32FromText]
    cases hid : parseU64 text with
    | none => rfl
    | some id =>
      have hlt := h id hid
      have hle : ¬ id > 0xFFFFFFFF := by
        apply UInt64.not_lt.2
        apply UInt64.le_iff_toNat_le.2
        exact Nat.le_of_lt_succ hlt
      dsimp only
      rw [if_neg hle]
      rfl

/-- Without CPU directories every processor number makes an entry. -/
theorem length_topology {env : Env} {options : CollectOptions} {text : Bytes}
    (htext : env.text (procPath options "/cpuinfo") = some text)
    (hlt : ∀ id ∈ processorIds text, id.toNat < 2 ^ 32) (hdirs : env.NoCpuDirs options) :
    ((collectCpu options).run env).topology.length = (processorIds text).length := by
  have hstanzas : env.stanzas options = stanzas text := by rw [Env.stanzas, htext]
  have hlen := congrArg List.length (topology_ids env options)
  rw [List.length_map, List.length_map, Env.cpus, if_pos (cpuDirs_eq_nil hdirs), hstanzas] at hlen
  rw [hlen, processorIds, List.length_filterMap_eq_countP, List.length_filterMap_eq_countP]
  refine List.countP_congr fun stanza hstanza => ?_
  rw [stanzaCpu, Option.isSome_map, stanzaNumber_processor, Option.isSome_map]
  intro id hid
  exact hlt id (List.mem_filterMap.2 ⟨stanza, hstanza, hid⟩)

/-- The fallback is the number of blocks. -/
theorem counts_eq_length {env : Env} {options : CollectOptions} (hlists : env.NoCpuLists options)
    (hne : env.stanzas options ≠ []) :
    ∀ count ∈ ((collectCpu options).run env).counts,
      count.valid = true ∧ count.value.toNat = (env.stanzas options).length := by
  intro count hcount
  rw [CpuInfo.counts, run_collectCpu_counts] at hcount
  obtain ⟨path, hpath, rfl⟩ := List.mem_map.1 hcount
  have hinvalid : ((readCpuListCountField path).run env).valid = false := by
    have hline := hlists path hpath
    rw [readCpuListCountField, run_readParsed]
    cases hread : env.line path with
    | none => rfl
    | some line =>
      rw [hread, Option.bind_some] at hline
      simp [hline]
  have hlt := length_stanzas_lt env options
  rw [cpuCountFallback, hinvalid, cpuBlocks_eq_stanzas]
  simp only [Bool.false_eq_true, if_false]
  rw [if_pos (by simpa using hne), List.length_map]
  exact ⟨rfl, UInt64.toNat_ofNat_of_lt' (by show _ < 2 ^ 64; omega)⟩

/-- When neither the lists nor the directories of the CPUs are there, the counts are the number of
processor numbers if and only if every stanza has one. -/
theorem counts_cpus_iff (env : Env) (options : CollectOptions) (text : Bytes)
    (htext : env.text (procPath options "/cpuinfo") = some text) (hne : processorIds text ≠ [])
    (hlt : ∀ id ∈ processorIds text, id.toNat < 2 ^ 32) (hlists : env.NoCpuLists options)
    (hdirs : env.NoCpuDirs options) :
    ((collectCpu options).run env).CountsAre (processorIds text).length ↔
      ∀ stanza ∈ stanzas text, (processorId stanza).isSome = true := by
  have hstanzas : env.stanzas options = stanzas text := by rw [Env.stanzas, htext]
  have hsome : stanzas text ≠ [] := by
    intro hnil
    rw [processorIds, hnil] at hne
    exact hne rfl
  have hcounts := counts_eq_length hlists (hstanzas ▸ hsome)
  rw [hstanzas] at hcounts
  rw [← List.countP_eq_length, ← List.length_filterMap_eq_countP]
  constructor
  · rintro ⟨hvalues, -⟩
    have hfirst : ((collectCpu options).run env).presentCpuCount ∈
        ((collectCpu options).run env).counts := List.mem_cons_self
    show (processorIds text).length = (stanzas text).length
    rw [← (hvalues _ hfirst).2, (hcounts _ hfirst).2]
  · intro hlength
    refine ⟨fun count hcount => ?_, length_topology htext hlt hdirs⟩
    rw [processorIds, hlength]
    exact hcounts count hcount

theorem counts_cpus_iff_two :
    ((collectCpu {}).run (Env.ofFiles [("/proc/cpuinfo",
      { content := bytes "processor : 0\n\nprocessor : 1\n" })])).CountsAre 2 :=
  (counts_cpus_iff _ {} "processor : 0\n\nprocessor : 1\n" rfl (by decide +kernel)
    (by decide +kernel) (by decide +kernel) (by decide +kernel)).2 (by decide +kernel)

/-- A block that describes the board is counted as a CPU. -/
theorem counts_board :
    ∃ env : Env, env.text "/proc/cpuinfo" = some (bytes "processor : 0\n\nHardware : Board\n") ∧
      processorIds "processor : 0\n\nHardware : Board\n" = [0] ∧ env.NoCpuLists {} ∧
      env.NoCpuDirs {} ∧ (∀ count ∈ ((collectCpu {}).run env).counts, count = .ofValue 2) ∧
      ¬ ((collectCpu {}).run env).CountsAre 1 :=
  ⟨Env.ofFiles [("/proc/cpuinfo", { content := bytes "processor : 0\n\nHardware : Board\n" })], rfl,
    by decide +kernel, by decide +kernel, by decide +kernel, by decide +kernel, by decide +kernel⟩

end Archspec
