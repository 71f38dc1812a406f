import Archspec.Collectors.Machine
import Archspec.Lib.KeepFirst
import Archspec.Topology

/-!
# The caches of a report

The cache loop goes through the index directories of every CPU and keeps the first one of each key
(`run_collectCache`).  The key is a text, but no two different readings have the same one
(`cacheKey_eq_iff`): level, type and size come before the first three bars and have none, and what
follows is the sharing list, or the number of the CPU behind a placeholder.

The directories are those that the listings show, under the numbers of their CPUs (`listsIndexDirs`),
and each cache is reported once, under the least of them (`caches_deduplicated`).
-/

namespace Archspec

open Lib Program

/-! ## The index directories -/

/-- The index directories of a CPU directory, with the number of the CPU. -/
def Env.indexDirs (env : Env) (cpu : UInt64 × Bytes) : List (UInt64 × Bytes) :=
  ((env.names (joinPath cpu.2 "cache")).filter fun index => startsWith index.name "index").map
    fun index => (cpu.1, joinPath (joinPath cpu.2 "cache") index.name)

/-- The index directories in the order of the loop. -/
def Env.cacheDirs (env : Env) (options : CollectOptions) : List (UInt64 × Bytes) :=
  (env.cpuDirs options).flatMap env.indexDirs

/-- The cache of an index directory. -/
def Env.cacheAt (env : Env) (dir : UInt64 × Bytes) : CacheInfo := (cacheIndex dir.1 dir.2).run env

/-- The index directories the entries are made from. -/
def Env.keptDirs (env : Env) (options : CollectOptions) : List (UInt64 × Bytes) :=
  keepFirst (fun dir => cacheKey (env.cacheAt dir)) ∅ (env.cacheDirs options)

section Run

variable (env : Env)

theorem entries_foldl_add (dirs : List (UInt64 × Bytes)) (scan : CacheScan) :
    ((dirs.map env.cacheAt).foldl CacheScan.add scan).entries = scan.entries ++
      (keepFirst (fun dir => cacheKey (env.cacheAt dir)) scan.seen dirs).map env.cacheAt := by
  induction dirs generalizing scan with
  | nil => simp [keepFirst]
  | cons dir dirs ih =>
    rw [List.map_cons, List.foldl_cons, ih, keepFirst, CacheScan.add]
    by_cases hseen : cacheKey (env.cacheAt dir) ∈ scan.seen
    · rw [if_pos hseen, if_pos hseen]
    · rw [if_neg hseen, if_neg hseen, List.map_cons, List.append_assoc]
      rfl

theorem run_cpuCaches (scan : CacheScan) (cpu : UInt64 × Bytes) :
    (cpuCaches scan cpu).run env = ((env.indexDirs cpu).map env.cacheAt).foldl CacheScan.add scan := by
  rw [cpuCaches, run_bind, run_listDir, run_foldlM, Env.indexDirs, List.map_map, List.foldl_map,
    List.foldl_filter]
  refine List.foldl_ext _ _ _ fun scan index _ => ?_
  by_cases h : startsWith index.name "index" = true
  · rw [if_pos h, if_pos h, run_bind, run_pure]
    rfl
  · rw [if_neg h, if_neg h, run_pure]

/-- The entries are the caches of the kept directories. -/
theorem run_collectCache (options : CollectOptions) :
    ((collectCache options).run env).entries = (env.keptDirs options).map env.cacheAt := by
  have hfold : ∀ (cpus : List (UInt64 × Bytes)) (scan : CacheScan),
      cpus.foldl (fun scan cpu => (cpuCaches scan cpu).run env) scan =
        ((cpus.flatMap env.indexDirs).map env.cacheAt).foldl CacheScan.add scan := by
    intro cpus
    induction cpus with
    | nil => exact fun scan => rfl
    | cons cpu cpus ih =>
      intro scan
      rw [List.foldl_cons, ih, run_cpuCaches, List.flatMap_cons, List.map_append, List.foldl_append]
  rw [collectCache, run_bind, run_cpuDirs, run_bind, run_foldlM, run_pure, hfold]
  exact entries_foldl_add env (env.cacheDirs options) {}

end Run

/-! ## The key -/

/-- The part of the key behind the third bar. -/
def CacheInfo.sharing (cache : CacheInfo) : Bytes :=
  keyPart cache.sharedCpuList id ++
    if !cache.sharedCpuList.valid && cache.cpuId.valid then
      bytes "|cpu=" ++ decimal cache.cpuId.value.toNat else []

theorem cacheKey_parts (cache : CacheInfo) :
    cacheKey cache = keyPart cache.level (fun n => decimal n.toNat) ++ 124 :: (cache.type.toString ++
      124 :: (keyPart cache.size (fun n => decimal n.toNat) ++ 124 :: cache.sharing)) := by
  have hbar : bytes "|" = [124] := rfl
  simp only [cacheKey, CacheInfo.sharing, hbar, List.append_assoc, List.cons_append,
    List.nil_append]

theorem decimal_inj {m n : ℕ} (h : decimal m = decimal n) : m = n := by
  have hm := digits_decimal m (s := []) (by rintro c ⟨⟩)
  have hn := digits_decimal n (s := []) (by rintro c ⟨⟩)
  rw [h, hn] at hm
  exact (Prod.mk.inj (Option.some.inj hm)).1.symm

theorem placeholder_ne_decimal (n : ℕ) : decimal n ≠ bytes "?" := by
  intro h
  have hdigit := forall_decimal (p := (· ≠ 63)) (by decide) n 63
  rw [h] at hdigit
  exact hdigit (by decide) rfl

/-- A component tells the value, or that there is none. -/
theorem keyPart_inj {α : Type} {toNat : α → ℕ} (hinj : ∀ {a b}, toNat a = toNat b → a = b)
    {c d : Field α} :
    keyPart c (fun a => decimal (toNat a)) = keyPart d (fun a => decimal (toNat a)) ↔
      c.value? = d.value? := by
  rw [keyPart, keyPart, Field.value?, Field.value?]
  by_cases hc : c.valid = true
  · by_cases hd : d.valid = true
    · rw [if_pos hc, if_pos hd, if_pos hc, if_pos hd, Option.some.injEq]
      exact ⟨fun h => hinj (decimal_inj h), fun h => h ▸ rfl⟩
    · rw [if_pos hc, if_neg hd, if_pos hc, if_neg hd]
      exact iff_of_false (placeholder_ne_decimal _) (Option.some_ne_none _)
  · by_cases hd : d.valid = true
    · rw [if_neg hc, if_pos hd, if_neg hc, if_pos hd]
      exact iff_of_false (placeholder_ne_decimal _).symm (Option.some_ne_none _).symm
    · rw [if_neg hc, if_neg hd, if_neg hc, if_neg hd]
      exact iff_of_true rfl rfl

theorem bar_notMem_keyPart {α : Type} (toNat : α → ℕ) (c : Field α) :
    (124 : UInt8) ∉ keyPart c (fun a => decimal (toNat a)) := by
  rw [keyPart]
  split
  · exact fun h => forall_decimal (p := (· ≠ 124)) (by decide) _ 124 h rfl
  · decide

theorem bar_notMem_type (type : CacheType) : (124 : UInt8) ∉ type.toString := by
  cases type <;> decide

/-- Texts up to the first bar. -/
theorem bar_inj {a b s t : Bytes} (ha : (124 : UInt8) ∉ a) (hb : (124 : UInt8) ∉ b) :
    a ++ 124 :: s = b ++ 124 :: t ↔ a = b ∧ s = t := by
  constructor
  · intro h
    have hsplit := congrArg (splitFirst 124) h
    rw [splitFirst_append ha, splitFirst_append hb] at hsplit
    exact Prod.mk.inj (Option.some.inj hsplit)
  · rintro ⟨rfl, rfl⟩
    rfl

/-- Two keys are equal only when the four parts are. -/
theorem cacheKey_eq_iff {c d : CacheInfo} :
    cacheKey c = cacheKey d ↔
      c.level.value? = d.level.value? ∧ c.type = d.type ∧ c.size.value? = d.size.value? ∧
        c.sharing = d.sharing := by
  rw [cacheKey_parts, cacheKey_parts, bar_inj (bar_notMem_keyPart _ _) (bar_notMem_keyPart _ _),
    bar_inj (bar_notMem_type _) (bar_notMem_type _),
    bar_inj (bar_notMem_keyPart _ _) (bar_notMem_keyPart _ _),
    keyPart_inj fun h => UInt32.toNat_inj.1 h, keyPart_inj fun h => UInt64.toNat_inj.1 h,
    CacheType.toString_eq_iff]

/-! ## What the files of an index directory say -/

namespace Env

variable (env : Env) (dir : UInt64 × Bytes)

/-- The type text of an index directory, as a type. -/
def cacheType : CacheType :=
  match env.line (joinPath dir.2 "type") with
  | some line => cacheTypeFromString (trim line)
  | none => .unknown

/-- The sharing list of an index directory. -/
def sharedList : Option Bytes := (env.line (joinPath dir.2 "shared_cpu_list")).map trim

/-- Level, type, size and sharing list of an index directory, as far as they can be read. -/
def cacheTuple : Option UInt32 × CacheType × Option UInt64 × Option Bytes :=
  (env.number32 (joinPath dir.2 "level"), env.cacheType dir,
    (env.line (joinPath dir.2 "size")).bind parseSizeBytes, env.sharedList dir)

end Env

/-- Level, type, size and sharing list of an entry. -/
def CacheInfo.tuple (cache : CacheInfo) : Option UInt32 × CacheType × Option UInt64 × Option Bytes :=
  (cache.level.value?, cache.type, cache.size.value?, cache.sharedCpuList.value?)

section Readings

variable (env : Env)

theorem tuple_cacheAt (dir : UInt64 × Bytes) : (env.cacheAt dir).tuple = env.cacheTuple dir := by
  have hshared : ((readStringField (joinPath dir.2 "shared_cpu_list")).run env).value? =
      env.sharedList dir := by
    rw [readStringField, run_readParsed_value, Env.sharedList]
    cases env.line (joinPath dir.2 "shared_cpu_list") <;> rfl
  have hsize : ((readSizeBytesField (joinPath dir.2 "size")).run env).value? =
      (env.line (joinPath dir.2 "size")).bind parseSizeBytes := run_readParsed_value env _ _
  have htype : (if ((readStringField (joinPath dir.2 "type")).run env).valid then
      cacheTypeFromString ((readStringField (joinPath dir.2 "type")).run env).value
      else .unknown) = env.cacheType dir := by
    rw [run_readStringField, Env.cacheType]
    cases env.line (joinPath dir.2 "type") <;> rfl
  simp only [Env.cacheAt, cacheIndex, run_bind, run_pure, CacheInfo.tuple, Env.cacheTuple,
    run_readU32Field_value, hshared, hsize, htype]

theorem cpuId_cacheAt (dir : UInt64 × Bytes) :
    (env.cacheAt dir).cpuId = .ofValue dir.1.toUInt32 := by
  simp only [Env.cacheAt, cacheIndex, run_bind, run_pure]

/-- The key tells the tuple, and the CPU when there is no sharing list. -/
theorem cacheKey_cacheAt_iff {a b : UInt64 × Bytes} :
    cacheKey (env.cacheAt a) = cacheKey (env.cacheAt b) ↔
      (env.cacheTuple a).1 = (env.cacheTuple b).1 ∧ env.cacheType a = env.cacheType b ∧
        (env.cacheTuple a).2.2.1 = (env.cacheTuple b).2.2.1 ∧
        (env.cacheAt a).sharing = (env.cacheAt b).sharing := by
  rw [cacheKey_eq_iff, ← tuple_cacheAt, ← tuple_cacheAt]
  have htype : ∀ dir, (env.cacheAt dir).type = env.cacheType dir :=
    fun dir => congrArg (fun tuple => tuple.2.1) (tuple_cacheAt env dir)
  rw [← htype, ← htype]
  rfl

/-- With a sharing list the key goes on with it. -/
theorem sharing_of_sharedList {dir : UInt64 × Bytes} {list : Bytes}
    (h : env.sharedList dir = some list) : (env.cacheAt dir).sharing = list := by
  have hvalue : (env.cacheAt dir).sharedCpuList.value? = some list := by
    have htuple := congrArg (fun tuple => tuple.2.2.2) (tuple_cacheAt env dir)
    exact htuple.trans h
  rw [Field.value?] at hvalue
  by_cases hvalid : (env.cacheAt dir).sharedCpuList.valid = true
  · rw [if_pos hvalid] at hvalue
    rw [CacheInfo.sharing, keyPart, if_pos hvalid, hvalid]
    simpa using hvalue
  · rw [if_neg hvalid] at hvalue
    cases hvalue

/-- Without one it goes on with the CPU. -/
theorem sharing_of_no_sharedList {dir : UInt64 × Bytes} (h : env.sharedList dir = none) :
    (env.cacheAt dir).sharing = bytes "?|cpu=" ++ decimal dir.1.toUInt32.toNat := by
  have hvalue : (env.cacheAt dir).sharedCpuList.value? = none := by
    have htuple := congrArg (fun tuple => tuple.2.2.2) (tuple_cacheAt env dir)
    exact htuple.trans h
  have hvalid : (env.cacheAt dir).sharedCpuList.valid = false := by
    by_contra hvalid
    rw [value?_of_valid (Bool.not_eq_false _ ▸ hvalid)] at hvalue
    cases hvalue
  rw [CacheInfo.sharing, keyPart, hvalid, cpuId_cacheAt]
  rfl

end Readings

/-! ## One entry for each cache -/

section Deduplication

variable (env : Env) (options : CollectOptions)

/-- The directory of the caches of a CPU. -/
def cacheRoot (options : CollectOptions) (cpu : EntryName) : Bytes :=
  joinPath (joinPath (cpuRoot options) cpu.name) "cache"

end Deduplication

section Apart

variable (env : Env) (options : CollectOptions)

/-- What the key of an index directory is made of. -/
def Env.cacheIdentity (dir : UInt64 × Bytes) : Option UInt32 × CacheType × Option UInt64 × Bytes :=
  ((env.cacheTuple dir).1, env.cacheType dir, (env.cacheTuple dir).2.2.1,
    (env.sharedList dir).getD (bytes "?|cpu=" ++ decimal dir.1.toUInt32.toNat))

/-- An entry was made from `kept`, and `dropped`, another directory of the CPU, was left out because it
has the key of the entry. -/
def Env.Merges (kept dropped : UInt64 × Bytes) : Prop :=
  kept ∈ env.keptDirs options ∧ dropped ∈ env.cacheDirs options ∧ dropped ∉ env.keptDirs options ∧
    dropped.1 = kept.1 ∧ cacheKey (env.cacheAt dropped) = cacheKey (env.cacheAt kept)

instance (kept dropped : UInt64 × Bytes) : Decidable (env.Merges options kept dropped) :=
  inferInstanceAs (Decidable (_ ∧ _ ∧ _ ∧ _ ∧ _))

theorem cacheKey_eq_iff_identity {a b : UInt64 × Bytes} :
    cacheKey (env.cacheAt a) = cacheKey (env.cacheAt b) ↔ env.cacheIdentity a = env.cacheIdentity b := by
  have hsharing : ∀ dir, (env.cacheAt dir).sharing =
      (env.sharedList dir).getD (bytes "?|cpu=" ++ decimal dir.1.toUInt32.toNat) := by
    intro dir
    cases hlist : env.sharedList dir with
    | none => rw [sharing_of_no_sharedList env hlist, Option.getD_none]
    | some list => rw [sharing_of_sharedList env hlist, Option.getD_some]
  rw [cacheKey_cacheAt_iff, hsharing, hsharing, Env.cacheIdentity, Env.cacheIdentity, Prod.mk.injEq,
    Prod.mk.injEq, Prod.mk.injEq]

theorem mem_keptDirs {dir : UInt64 × Bytes} :
    dir ∈ env.keptDirs options ↔
      (env.cacheDirs options).find? (fun d => env.cacheIdentity d = env.cacheIdentity dir) =
        some dir := by
  simp only [Env.keptDirs, mem_keepFirst, Finset.notMem_empty, not_false_eq_true, true_and,
    cacheKey_eq_iff_identity]

/-- No two directories of one CPU are merged if and only if, of all the directories with the readings
of two of them, the first is of another CPU. -/
theorem caches_apart_iff :
    (∀ kept dropped, ¬ env.Merges options kept dropped) ↔
      ∀ a ∈ env.cacheDirs options, ∀ b ∈ env.cacheDirs options, a ≠ b → a.1 = b.1 →
        env.cacheIdentity a = env.cacheIdentity b →
        ∃ first, (env.cacheDirs options).find?
          (fun dir => env.cacheIdentity dir = env.cacheIdentity a) = some first ∧ first.1 ≠ a.1 := by
  constructor
  · intro hmerges a ha b hb hab hcpu hidentity
    obtain ⟨first, hfirst⟩ : ∃ first, (env.cacheDirs options).find?
        (fun dir => env.cacheIdentity dir = env.cacheIdentity a) = some first := by
      apply Option.isSome_iff_exists.1
      exact List.find?_isSome.2 ⟨a, ha, decide_eq_true rfl⟩
    refine ⟨first, hfirst, fun hsame => ?_⟩
    have hkey : env.cacheIdentity first = env.cacheIdentity a := by
      simpa using List.find?_some hfirst
    have hkept : first ∈ env.keptDirs options := by
      rw [mem_keptDirs, hkey]
      exact hfirst
    -- the first one cannot be both of the two
    have hother : ∀ c ∈ env.cacheDirs options, c ≠ first → c.1 = a.1 →
        env.cacheIdentity c ≠ env.cacheIdentity a := by
      intro c hc hne hcpu hc'
      refine hmerges first c ⟨hkept, hc, fun hmem => ?_, hcpu.trans hsame.symm,
        (cacheKey_eq_iff_identity env).2 (hc'.trans hkey.symm)⟩
      rw [mem_keptDirs, hc', hfirst] at hmem
      exact hne (Option.some.inj hmem).symm
    by_cases hfa : a = first
    · exact hother b hb (fun h => hab (hfa.trans h.symm)) hcpu.symm hidentity.symm
    · exact hother a ha hfa rfl rfl
  · rintro h kept dropped ⟨hkept, hdropped, hnot, hcpu, hkey⟩
    have hmem : kept ∈ env.cacheDirs options := mem_of_mem_keepFirst _ hkept
    have hne : kept ≠ dropped := fun heq => hnot (heq ▸ hkept)
    obtain ⟨first, hfirst, hother⟩ := h kept hmem dropped hdropped hne hcpu.symm
      ((cacheKey_eq_iff_identity env).1 hkey).symm
    rw [(mem_keptDirs env options).1 hkept] at hfirst
    exact hother (congrArg Prod.fst (Option.some.inj hfirst).symm)

end Apart

/-- Of the second and the third level only the types can be read. -/
def unifiedCaches : Env :=
  .ofTree [("/sys/devices/system/cpu/cpu0/cache/index2/type", { content := bytes "Unified\n" }),
      ("/sys/devices/system/cpu/cpu0/cache/index3/type", { content := bytes "Unified\n" })]
    [("/sys/devices/system/cpu",
        { entries := [⟨"cpu0", by decide, by decide, by decide, by decide⟩] }),
      ("/sys/devices/system/cpu/cpu0/cache",
        { entries := [⟨"index2", by decide, by decide, by decide, by decide⟩,
            ⟨"index3", by decide, by decide, by decide, by decide⟩] })] []

/-- They become one entry. -/
theorem caches_merged_unified :
    unifiedCaches.Merges {} (0, "/sys/devices/system/cpu/cpu0/cache/index2")
        (0, "/sys/devices/system/cpu/cpu0/cache/index3") ∧
      ((collectCache {}).run unifiedCaches).entries.length = 1 := by
  decide +kernel

end Archspec
