import Archspec.Readings

/-!
# The CPU directories

The directories `cpu.cc` and `cache.cc` go through are the entries of `devices/system/cpu` with a
number behind `cpu`, in the order of these numbers.
-/

namespace Archspec

open Lib Program

/-- The directory of the CPUs. -/
def cpuRoot (options : CollectOptions) : Bytes := sysPath options "/devices/system/cpu"

/-- The id and the path of an entry with a number behind `cpu`. -/
def cpuDirOf (root : Bytes) (entry : EntryName) : Option (UInt64 × Bytes) :=
  (numberedEntry "cpu" entry.name).map fun id => (id, joinPath root entry.name)

/-- The entry of CPU 2. -/
def cpu2 : EntryName := ⟨"cpu2", by decide, by decide, by decide, by decide⟩

/-- The entry of CPU 10, in front of `cpu2` by name and behind it by number. -/
def cpu10 : EntryName := ⟨"cpu10", by decide, by decide, by decide, by decide⟩

/-- The CPU directories of an environment, in order. -/
def Env.cpuDirs (env : Env) (options : CollectOptions) : List (UInt64 × Bytes) :=
  ((env.names (cpuRoot options)).filterMap (cpuDirOf (cpuRoot options))).insertionSort cpuDirLe

theorem run_cpuDirs (env : Env) (options : CollectOptions) :
    (cpuDirs options).run env = env.cpuDirs options := by
  unfold cpuDirs
  rw [run_bind, run_listDir, run_pure]
  rfl

theorem mem_cpuDirs {env : Env} {options : CollectOptions} {cpu : UInt64 × Bytes} :
    cpu ∈ env.cpuDirs options ↔
      ∃ entry ∈ env.names (cpuRoot options), cpuDirOf (cpuRoot options) entry = some cpu := by
  rw [Env.cpuDirs, List.mem_insertionSort, List.mem_filterMap]

/-! ## The order -/

instance : Std.Total cpuDirLe where
  total a b := by
    unfold cpuDirLe
    by_cases h : a.1 = b.1
    · rcases lexLe_total a.2 b.2 with hle | hle
      · exact Or.inl (Or.inr ⟨h, hle⟩)
      · exact Or.inr (Or.inr ⟨h.symm, hle⟩)
    · rcases UInt64.lt_or_lt_of_ne h with hlt | hlt
      · exact Or.inl (Or.inl hlt)
      · exact Or.inr (Or.inl hlt)

instance : IsTrans (UInt64 × Bytes) cpuDirLe where
  trans a b c := by
    unfold cpuDirLe
    rintro (hab | ⟨hab, hlab⟩) (hbc | ⟨hbc, hlbc⟩)
    · exact Or.inl (UInt64.lt_trans hab hbc)
    · exact Or.inl (hbc ▸ hab)
    · exact Or.inl (hab ▸ hbc)
    · exact Or.inr ⟨hab.trans hbc, lexLe_trans hlab hlbc⟩

theorem cpuDirLe.id_le {a b : UInt64 × Bytes} (h : cpuDirLe a b) : a.1 ≤ b.1 := by
  rcases h with hlt | ⟨heq, -⟩
  · exact UInt64.le_of_lt hlt
  · exact UInt64.le_of_eq heq

theorem parseU64_decimal_eq (n : ℕ) :
    parseU64 (decimal n) = if 2 ^ 64 ≤ n then none else some (UInt64.ofNat n) := by
  obtain ⟨c, s, hs, -, hminus, -, -⟩ := decimal_cons n
  have hhead : ¬ ((decimal n).head? = none ∨ (decimal n).head? = some 45) := by
    rw [hs]
    simpa using hminus
  rw [parseU64, trim_decimal, if_neg hhead, cString_decimal, strtoull_decimal]
  split <;> rfl

theorem parseU64_decimal {n : ℕ} (h : n < 2 ^ 64) :
    parseU64 (decimal n) = some (UInt64.ofNat n) := by
  rw [parseU64_decimal_eq, if_neg (Nat.not_le.2 h)]

/-- The directory of a CPU has the number of the CPU. -/
theorem numberedEntry_cpu (id : UInt32) :
    numberedEntry "cpu" (bytes "cpu" ++ decimal id.toNat) = some id.toUInt64 := by
  have hlt : id.toUInt64.toNat < 2 ^ 32 := id.toNat_lt
  have hnumber : parseU64 (decimal id.toNat) = some id.toUInt64 := by
    rw [parseU64_decimal (lt_trans id.toNat_lt (by decide))]
    exact congrArg some (UInt64.toNat_inj.1 (by simp))
  have hpre : startsWith (bytes "cpu" ++ decimal id.toNat) "cpu" = true :=
    List.isPrefixOf_iff_prefix.2 (List.prefix_append _ _)
  have hle : ¬ id.toUInt64 > 0xFFFFFFFF := by
    apply UInt64.not_lt.2
    apply UInt64.le_iff_toNat_le.2
    exact Nat.le_of_lt_succ hlt
  rw [numberedEntry, hpre, List.drop_left, hnumber]
  exact if_neg hle

theorem length_names_lt (env : Env) (path : Bytes) : (env.names path).length < 2 ^ 63 := by
  unfold Env.names
  split
  · decide
  · rename_i listing _
    rw [List.length_insertionSort]
    exact listing.length_lt

theorem length_cpuDirs_lt (env : Env) (options : CollectOptions) :
    (env.cpuDirs options).length < 2 ^ 63 := by
  rw [Env.cpuDirs, List.length_insertionSort]
  exact lt_of_le_of_lt (List.length_filterMap_le _ _) (length_names_lt env _)

end Archspec
