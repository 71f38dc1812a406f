import Archspec.Gpus

/-!
# Several candidates for one field

A field that may come from several files has the value of the first file that gives one; without a
value its status is that of the last file that is not just missing (`ruled`).  The two loops over a
list of files keep this rule (`run_firstU64File`, `run_readKhzAsMhz`).

The loop over the hwmon directories does not: it keeps what it read last for the temperature and
nothing for the power (`run_fillHwmonFields`).  So the temperature follows the rule when some file has
a value, every file is missing or the last one is not (`keptLast_eq_ruled_iff`), and the power when
some file has a value or every file is missing (`dropped_eq_ruled_iff`).  A report follows the rule
exactly when this is so for each of its GPUs (`candidates_ruled_iff`).
-/

namespace Archspec

open Lib Program

/-! ## The rule -/

/-- What reading a list of files gives, in order. -/
def Env.outcomes (env : Env) (paths : List Bytes) : List U64Field :=
  paths.map fun path => (readU64Field path).run env

/-- The status of the last candidate that is not just missing. -/
def lastFailure (outcomes : List U64Field) : Option Status :=
  ((outcomes.map Field.status).filter fun status => status ≠ .notFound).getLast?

/-- The value of the first candidate that has one, or else the status of the last candidate that is not
just missing. -/
def ruled (scale : UInt64 → UInt64) (outcomes : List U64Field) : U64Field :=
  match outcomes.find? Field.valid with
  | some outcome => .ofValue (scale outcome.value)
  | none => .unavailable ((lastFailure outcomes).getD .notFound)

theorem lastFailure_cons (outcome : U64Field) (outcomes : List U64Field) (before : Status) :
    (lastFailure (outcome :: outcomes)).getD before =
      (lastFailure outcomes).getD (if outcome.status ≠ .notFound then outcome.status else before) := by
  unfold lastFailure
  rw [List.map_cons, List.filter_cons]
  by_cases h : outcome.status = .notFound
  · rw [if_neg (by simpa using h), if_neg (not_not_intro h)]
  · rw [if_pos (by simpa using h), if_pos h, List.getLast?_cons, Option.getD_some]

theorem lastFailure_concat (outcomes : List U64Field) (outcome : U64Field) :
    lastFailure (outcomes ++ [outcome]) =
      if outcome.status ≠ .notFound then some outcome.status else lastFailure outcomes := by
  unfold lastFailure
  rw [List.map_append, List.map_singleton, List.filter_append, List.filter_singleton]
  by_cases h : outcome.status = .notFound
  · rw [if_neg (not_not_intro h), decide_eq_false (not_not_intro h), cond_false, List.append_nil]
  · rw [if_pos h, decide_eq_true h, cond_true, List.getLast?_concat]

/-- Without a value the rule gives `not_found` only when every candidate is missing. -/
theorem lastFailure_eq_notFound_iff (outcomes : List U64Field) :
    (lastFailure outcomes).getD .notFound = .notFound ↔
      ∀ outcome ∈ outcomes, outcome.status = .notFound := by
  induction outcomes using List.reverseRecOn with
  | nil => simp [lastFailure]
  | append_singleton outcomes outcome ih =>
    rw [lastFailure_concat, List.forall_mem_append, List.forall_mem_singleton]
    by_cases h : outcome.status = .notFound
    · rw [if_neg (not_not_intro h), ih]
      exact ⟨fun hall => ⟨hall, h⟩, fun hall => hall.1⟩
    · rw [if_pos h, Option.getD_some]
      exact ⟨fun hs => absurd hs h, fun hall => absurd hall.2 h⟩

/-! ## Lists of files -/

section Run

variable (env : Env)

/-- A read gives a value or a reason. -/
theorem run_readU64Field_cases (path : Bytes) :
    (∃ value, (readU64Field path).run env = .ofValue value) ∨
      ∃ status, (readU64Field path).run env = .unavailable status := by
  rw [readU64Field, run_readParsed]
  cases env.line path with
  | none => exact .inr ⟨_, rfl⟩
  | some line =>
    dsimp only
    split
    · exact .inl ⟨_, rfl⟩
    · exact .inr ⟨_, rfl⟩

theorem eq_ofValue_of_mem {paths : List Bytes} {outcome : U64Field} (h : outcome ∈ env.outcomes paths)
    (hvalid : outcome.valid = true) : outcome = .ofValue outcome.value := by
  obtain ⟨path, -, rfl⟩ := List.mem_map.mp h
  obtain ⟨value, hread⟩ | ⟨status, hread⟩ := run_readU64Field_cases env path
  · rw [hread, Field.value_ofValue]
  · rw [hread, Field.valid_unavailable] at hvalid
    cases hvalid

theorem eq_unavailable_of_mem {paths : List Bytes} {outcome : U64Field}
    (h : outcome ∈ env.outcomes paths) (hvalid : ¬ outcome.valid = true) :
    outcome = .unavailable outcome.status := by
  obtain ⟨path, -, rfl⟩ := List.mem_map.mp h
  obtain ⟨value, hread⟩ | ⟨status, hread⟩ := run_readU64Field_cases env path
  · rw [hread, Field.valid_ofValue] at hvalid
    exact absurd rfl hvalid
  · rw [hread, Field.status_unavailable]

/-- The loop keeps in `lastStatus` the reason of the last file that is not just missing. -/
theorem run_firstU64 (convert : UInt64 → UInt64) (lastStatus : Status) (paths : List Bytes) :
    (firstU64 convert lastStatus paths).run env =
      match (env.outcomes paths).find? Field.valid with
      | some outcome => .ofValue (convert outcome.value)
      | none => .unavailable ((lastFailure (env.outcomes paths)).getD lastStatus) := by
  induction paths generalizing lastStatus with
  | nil => rfl
  | cons path paths ih =>
    have houtcomes : env.outcomes (path :: paths) =
        (readU64Field path).run env :: env.outcomes paths := rfl
    rw [firstU64, run_bind, run_ite, run_pure, ih, houtcomes, List.find?_cons, lastFailure_cons]
    cases hvalid : ((readU64Field path).run env).valid with
    | true => rfl
    | false => rfl

theorem run_firstU64File (paths : List Bytes) :
    (firstU64File paths).run env = ruled id (env.outcomes paths) :=
  run_firstU64 env id .notFound paths

theorem run_readKhzAsMhz (paths : List Bytes) :
    (readKhzAsMhz paths).run env = ruled (· / 1000) (env.outcomes paths) :=
  run_firstU64 env (· / 1000) .notFound paths

/-! ## The hwmon directories -/

/-- The files of one name in the hwmon directories of a device, in the order of the directories. -/
def Env.hwmonFiles (env : Env) (pciPath file : Bytes) : List Bytes :=
  (env.names (joinPath pciPath "hwmon")).map fun hwmon =>
    joinPath (joinPath (joinPath pciPath "hwmon") hwmon.name) file

/-- The loop for the temperature. -/
def keepLast (temp outcome : U64Field) : U64Field := if temp.valid then temp else outcome

/-- The loop for the power. -/
def keepNone (power outcome : U64Field) : U64Field := if power.valid then power else milliwatts power outcome

theorem run_hwmonDirectory (hwmonRoot : Bytes) (fields : U64Field × U64Field) (hwmon : EntryName) :
    (hwmonDirectory hwmonRoot fields hwmon).run env =
      (keepLast fields.1 ((readU64Field (joinPath (joinPath hwmonRoot hwmon.name) "temp1_input")).run env),
        keepNone fields.2
          ((readU64Field (joinPath (joinPath hwmonRoot hwmon.name) "power1_average")).run env)) := by
  unfold hwmonDirectory keepValid keepLast keepNone
  rw [run_bind, run_bind, run_pure, run_ite, run_ite, run_map, run_pure, run_pure]

/-- The two loops do not depend on each other. -/
theorem foldl_hwmonDirectory (hwmonRoot : Bytes) (hwmons : List EntryName) (temp power : U64Field) :
    hwmons.foldl (fun fields hwmon => (hwmonDirectory hwmonRoot fields hwmon).run env) (temp, power) =
      ((env.outcomes (hwmons.map fun hwmon =>
          joinPath (joinPath hwmonRoot hwmon.name) "temp1_input")).foldl keepLast temp,
        (env.outcomes (hwmons.map fun hwmon =>
          joinPath (joinPath hwmonRoot hwmon.name) "power1_average")).foldl keepNone power) := by
  induction hwmons generalizing temp power with
  | nil => rfl
  | cons hwmon hwmons ih =>
    rw [List.foldl_cons, run_hwmonDirectory, ih]
    rfl

theorem run_fillHwmonFields (pciPath : Bytes) :
    (fillHwmonFields pciPath).run env =
      ((env.outcomes (env.hwmonFiles pciPath "temp1_input")).foldl keepLast .initial,
        (env.outcomes (env.hwmonFiles pciPath "power1_average")).foldl keepNone .initial) := by
  unfold fillHwmonFields
  rw [run_bind, run_listDir, run_foldlM, foldl_hwmonDirectory]
  rfl

end Run

/-- The first read with a value, or else the last read. -/
theorem foldl_keepLast (outcomes : List U64Field) (temp : U64Field) :
    outcomes.foldl keepLast temp =
      if temp.valid then temp else (outcomes.find? Field.valid).getD (outcomes.getLastD temp) := by
  induction outcomes generalizing temp with
  | nil =>
    rw [List.foldl_nil, List.find?_nil, Option.getD_none, List.getLastD_nil, ite_self]
  | cons outcome outcomes ih =>
    rw [List.foldl_cons, ih, List.find?_cons, List.getLastD_cons, keepLast]
    cases htemp : temp.valid with
    | true => simp only [if_true, htemp]
    | false =>
      simp only [Bool.false_eq_true, if_false]
      cases outcome.valid <;> rfl

/-- The first read with a value, in milliwatts, or else the field before the loop. -/
theorem foldl_keepNone (outcomes : List U64Field) (power : U64Field) :
    outcomes.foldl keepNone power =
      if power.valid then power
      else match outcomes.find? Field.valid with
        | some outcome => .ofValue (outcome.value / 1000)
        | none => power := by
  induction outcomes generalizing power with
  | nil => rw [List.foldl_nil, List.find?_nil, ite_self]
  | cons outcome outcomes ih =>
    rw [List.foldl_cons, ih, List.find?_cons, keepNone, milliwatts]
    cases hpower : power.valid with
    | true => simp only [if_true, hpower]
    | false =>
      cases houtcome : outcome.valid with
      | true => rfl
      | false => simp only [Bool.false_eq_true, if_false, hpower]

/-- Some candidate has a value, every candidate is missing, or the last one is not just missing. -/
def LastTells (outcomes : List U64Field) : Prop :=
  (∃ outcome ∈ outcomes, outcome.valid = true) ∨ (∀ outcome ∈ outcomes, outcome.status = .notFound) ∨
    ∃ outcome ∈ outcomes.getLast?, outcome.status ≠ .notFound

/-- Some candidate has a value, or every candidate is missing. -/
def NoneFails (outcomes : List U64Field) : Prop :=
  (∃ outcome ∈ outcomes, outcome.valid = true) ∨ ∀ outcome ∈ outcomes, outcome.status = .notFound

/-- Among reads without a value the last one has the status of the rule if it is the last failure or if
there is none. -/
theorem getLastD_eq_iff {outcomes : List U64Field}
    (hnone : ∀ outcome ∈ outcomes, outcome = .unavailable outcome.status) :
    outcomes.getLastD Field.initial = .unavailable ((lastFailure outcomes).getD .notFound) ↔
      (∀ outcome ∈ outcomes, outcome.status = .notFound) ∨
        ∃ outcome ∈ outcomes.getLast?, outcome.status ≠ .notFound := by
  rw [← lastFailure_eq_notFound_iff]
  obtain rfl | ⟨before, outcome, rfl⟩ := List.eq_nil_or_concat' outcomes
  · exact iff_of_true rfl (.inl rfl)
  · have hlast : outcome = .unavailable outcome.status := hnone outcome (by simp)
    rw [List.getLastD_concat, List.getLast?_concat, lastFailure_concat]
    by_cases h : outcome.status = .notFound
    · rw [if_neg (not_not_intro h)]
      constructor
      · intro heq
        have hstatus : outcome.status = (lastFailure before).getD .notFound := congrArg Field.status heq
        exact .inl (hstatus.symm.trans h)
      · rintro (hbefore | ⟨last, hmem, hfailed⟩)
        · rw [hbefore, ← h]
          exact hlast
        · obtain rfl := Option.some.inj hmem
          exact absurd h hfailed
    · rw [if_pos h, Option.getD_some]
      exact iff_of_true hlast (.inr ⟨outcome, rfl, h⟩)

theorem foldl_keepLast_iff {env : Env} {paths : List Bytes} :
    (env.outcomes paths).foldl keepLast .initial = ruled id (env.outcomes paths) ↔
      LastTells (env.outcomes paths) := by
  rw [foldl_keepLast, Field.valid_initial, if_neg Bool.false_ne_true, ruled, LastTells]
  cases hfind : (env.outcomes paths).find? Field.valid with
  | some outcome =>
    have hmem := List.mem_of_find?_eq_some hfind
    have hvalid := List.find?_some hfind
    exact iff_of_true (eq_ofValue_of_mem env hmem hvalid) (.inl ⟨outcome, hmem, hvalid⟩)
  | none =>
    have hnone : ¬ ∃ outcome ∈ env.outcomes paths, outcome.valid = true := by
      simpa using List.find?_eq_none.mp hfind
    rw [or_iff_right hnone, Option.getD_none]
    apply getLastD_eq_iff
    intro outcome hmem
    exact eq_unavailable_of_mem env hmem fun hvalid => hnone ⟨outcome, hmem, hvalid⟩

theorem foldl_keepNone_iff {env : Env} {paths : List Bytes} :
    (env.outcomes paths).foldl keepNone .initial = ruled (· / 1000) (env.outcomes paths) ↔
      NoneFails (env.outcomes paths) := by
  rw [foldl_keepNone, Field.valid_initial, if_neg Bool.false_ne_true, ruled, NoneFails]
  cases hfind : (env.outcomes paths).find? Field.valid with
  | some outcome =>
    exact iff_of_true rfl (.inl ⟨outcome, List.mem_of_find?_eq_some hfind, List.find?_some hfind⟩)
  | none =>
    have hnone : ¬ ∃ outcome ∈ env.outcomes paths, outcome.valid = true := by
      simpa using List.find?_eq_none.mp hfind
    rw [or_iff_right hnone, ← lastFailure_eq_notFound_iff]
    constructor
    · intro h
      exact (congrArg Field.status h).symm
    · intro h
      rw [h]
      rfl

/-! ## Reports -/

/-- The directory of the device of an entry. -/
def gpuPath (options : CollectOptions) (gpu : GpuInfo) : Bytes :=
  joinPath (pciRoot options) gpu.pciAddress.value

/-- The directory of the frequencies. -/
def cpufreqPath (options : CollectOptions) : Bytes :=
  sysPath options "/devices/system/cpu/cpu0/cpufreq"

/-- Every reader of several candidates follows the rule. -/
structure Env.Ruled (env : Env) (options : CollectOptions) : Prop where
  files : ∀ paths, (firstU64File paths).run env = ruled id (env.outcomes paths)
  frequencies : ∀ paths, (readKhzAsMhz paths).run env = ruled (· / 1000) (env.outcomes paths)
  cpuCurrentFreqMhz : ((collectPower options).run env).cpuCurrentFreqMhz =
    ruled (· / 1000) (env.outcomes [joinPath (cpufreqPath options) "scaling_cur_freq",
      joinPath (cpufreqPath options) "cpuinfo_cur_freq"])
  cpuMinFreqMhz : ((collectPower options).run env).cpuMinFreqMhz =
    ruled (· / 1000) (env.outcomes [joinPath (cpufreqPath options) "scaling_min_freq",
      joinPath (cpufreqPath options) "cpuinfo_min_freq"])
  cpuMaxFreqMhz : ((collectPower options).run env).cpuMaxFreqMhz =
    ruled (· / 1000) (env.outcomes [joinPath (cpufreqPath options) "scaling_max_freq",
      joinPath (cpufreqPath options) "cpuinfo_max_freq"])
  vramTotalBytes : ∀ gpu ∈ ((collectGpu options).run env).entries, gpu.vramTotalBytes =
    ruled id (env.outcomes [joinPath (gpuPath options gpu) "mem_info_vram_total",
      joinPath (gpuPath options gpu) "mem_info_vis_vram_total"])
  vramUsedBytes : ∀ gpu ∈ ((collectGpu options).run env).entries, gpu.vramUsedBytes =
    ruled id (env.outcomes [joinPath (gpuPath options gpu) "mem_info_vram_used",
      joinPath (gpuPath options gpu) "mem_info_vis_vram_used"])
  tempMillidegreeC : ∀ gpu ∈ ((collectGpu options).run env).entries, gpu.tempMillidegreeC =
    ruled id (env.outcomes (env.hwmonFiles (gpuPath options gpu) "temp1_input"))
  powerMw : ∀ gpu ∈ ((collectGpu options).run env).entries, gpu.powerMw =
    ruled (· / 1000) (env.outcomes (env.hwmonFiles (gpuPath options gpu) "power1_average"))

/-- The readings of a GPU are those of the readers at its directory. -/
structure Env.Measured (env : Env) (options : CollectOptions) (gpu : GpuInfo) : Prop where
  vramTotalBytes : gpu.vramTotalBytes =
    (firstU64File [joinPath (gpuPath options gpu) "mem_info_vram_total",
      joinPath (gpuPath options gpu) "mem_info_vis_vram_total"]).run env
  vramUsedBytes : gpu.vramUsedBytes =
    (firstU64File [joinPath (gpuPath options gpu) "mem_info_vram_used",
      joinPath (gpuPath options gpu) "mem_info_vis_vram_used"]).run env
  hwmon : (gpu.tempMillidegreeC, gpu.powerMw) = (fillHwmonFields (gpuPath options gpu)).run env

theorem measured_gpuAt (env : Env) (options : CollectOptions) (device : Bytes) :
    env.Measured options (env.gpuAt options device) := by
  unfold Env.gpuAt gpuFromPci
  simp only [run_bind, run_pure]
  exact ⟨rfl, rfl, rfl⟩

theorem forall_measured (env : Env) (options : CollectOptions) :
    ∀ gpu ∈ ((collectGpu options).run env).entries, env.Measured options gpu := by
  rw [forall_mem_collectGpu]
  constructor
  · intro node _
    obtain ⟨htotal, hused, hhwmon⟩ := measured_gpuAt env options node.2
    exact ⟨htotal, hused, hhwmon⟩
  · intro device _ _
    exact measured_gpuAt env options device

/-- The readers follow the rule exactly if for every GPU the hwmon directories do not hide a failure. -/
theorem candidates_ruled_iff (env : Env) (options : CollectOptions) :
    env.Ruled options ↔ ∀ gpu ∈ ((collectGpu options).run env).entries,
      LastTells (env.outcomes (env.hwmonFiles (gpuPath options gpu) "temp1_input")) ∧
        NoneFails (env.outcomes (env.hwmonFiles (gpuPath options gpu) "power1_average")) := by
  have hmeasured := forall_measured env options
  have hhwmon : ∀ gpu ∈ ((collectGpu options).run env).entries,
      gpu.tempMillidegreeC =
          (env.outcomes (env.hwmonFiles (gpuPath options gpu) "temp1_input")).foldl keepLast .initial ∧
        gpu.powerMw =
          (env.outcomes (env.hwmonFiles (gpuPath options gpu) "power1_average")).foldl keepNone .initial := by
    intro gpu hgpu
    have h := (hmeasured gpu hgpu).hwmon
    rw [run_fillHwmonFields] at h
    exact Prod.mk.inj h
  constructor
  · intro h gpu hgpu
    constructor
    · rw [← foldl_keepLast_iff, ← (hhwmon gpu hgpu).1]
      exact h.tempMillidegreeC gpu hgpu
    · rw [← foldl_keepNone_iff, ← (hhwmon gpu hgpu).2]
      exact h.powerMw gpu hgpu
  · intro h
    constructor
    case files => exact run_firstU64File env
    case frequencies => exact run_readKhzAsMhz env
    case cpuCurrentFreqMhz =>
      simp only [collectPower, run_bind, run_pure, run_readKhzAsMhz, cpufreqPath]
    case cpuMinFreqMhz =>
      simp only [collectPower, run_bind, run_pure, run_readKhzAsMhz, cpufreqPath]
    case cpuMaxFreqMhz =>
      simp only [collectPower, run_bind, run_pure, run_readKhzAsMhz, cpufreqPath]
    case vramTotalBytes =>
      intro gpu hgpu
      rw [(hmeasured gpu hgpu).vramTotalBytes, run_firstU64File]
    case vramUsedBytes =>
      intro gpu hgpu
      rw [(hmeasured gpu hgpu).vramUsedBytes, run_firstU64File]
    case tempMillidegreeC =>
      intro gpu hgpu
      rw [(hhwmon gpu hgpu).1, foldl_keepLast_iff]
      exact (h gpu hgpu).1
    case powerMw =>
      intro gpu hgpu
      rw [(hhwmon gpu hgpu).2, foldl_keepNone_iff]
      exact (h gpu hgpu).2

/-- A host with a GPU that has two hwmon directories, the first with a malformed temperature and the
second without one. -/
def malformedTemp : Env :=
  .ofTree [("/sys/bus/pci/devices/0000:01:00.0/class", displayClass),
      ("/sys/bus/pci/devices/0000:01:00.0/hwmon/hwmon0/temp1_input", { content := bytes "x\n" })]
    [("/sys/bus/pci/devices", { entries := [busOne] }),
      ("/sys/bus/pci/devices/0000:01:00.0/hwmon",
        { entries := [⟨"hwmon0", by decide, by decide, by decide, by decide⟩,
            ⟨"hwmon1", by decide, by decide, by decide, by decide⟩] })]
    []

/-- The malformed temperature is reported as missing. -/
theorem candidates_malformed_temp :
    ((collectGpu {}).run malformedTemp).entries.map (fun gpu => gpu.tempMillidegreeC) =
        [.unavailable .notFound] ∧
      ¬ malformedTemp.Ruled {} := by
  constructor
  · decide +kernel
  · intro h
    have htemp := h.tempMillidegreeC
    revert htemp
    decide +kernel

end Archspec
