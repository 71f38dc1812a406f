import Archspec.Readings

/-!
# The families of a feature report

The 48 feature fields belong to three families.  `x86Flags` and `armFlags` list the fields of two of
them with the flag names each field stands for, and `riscvLetters` lists those of the third with
their extension letters.  A report has all its fields unavailable for the reason the raw flags are,
or the fields of one family, and then a field of the first two tells whether one of its names is a
word of the raw flags (`features_consistent`).
-/

namespace Archspec

open Lib Program

/-! ## The fields of each family -/

/-- The fields of the x86 family with their flag names. -/
def x86Flags : List ((IsaFeatures → BoolField) × List Bytes) :=
  [(IsaFeatures.x86Fpu, ["fpu"]), (IsaFeatures.x86Mmx, ["mmx"]), (IsaFeatures.x86Sse, ["sse"]),
    (IsaFeatures.x86Sse2, ["sse2"]), (IsaFeatures.x86Sse3, ["sse3", "pni"]),
    (IsaFeatures.x86Ssse3, ["ssse3"]), (IsaFeatures.x86Sse41, ["sse4_1", "sse4.1"]),
    (IsaFeatures.x86Sse42, ["sse4_2", "sse4.2"]), (IsaFeatures.x86Avx, ["avx"]),
    (IsaFeatures.x86Avx2, ["avx2"]), (IsaFeatures.x86Avx512f, ["avx512f"]),
    (IsaFeatures.x86Avx512dq, ["avx512dq"]), (IsaFeatures.x86Avx512cd, ["avx512cd"]),
    (IsaFeatures.x86Avx512bw, ["avx512bw"]), (IsaFeatures.x86Avx512vl, ["avx512vl"]),
    (IsaFeatures.x86Aes, ["aes"]), (IsaFeatures.x86Sha, ["sha", "sha_ni"]),
    (IsaFeatures.x86Pclmulqdq, ["pclmulqdq"]), (IsaFeatures.x86Rdrand, ["rdrand"]),
    (IsaFeatures.x86Rdseed, ["rdseed"]), (IsaFeatures.x86Xsave, ["xsave"]),
    (IsaFeatures.x86Xsaveopt, ["xsaveopt"]), (IsaFeatures.x86Xsavec, ["xsavec"]),
    (IsaFeatures.x86Vmx, ["vmx"]), (IsaFeatures.x86Ept, ["ept"]), (IsaFeatures.x86Svm, ["svm"]),
    (IsaFeatures.x86Npt, ["npt"]), (IsaFeatures.x86Tsc, ["tsc"]),
    (IsaFeatures.x86ConstantTsc, ["constant_tsc"]), (IsaFeatures.x86NonstopTsc, ["nonstop_tsc"]),
    (IsaFeatures.x86Rdtscp, ["rdtscp"])]

/-- The fields of the ARM family with their flag names. -/
def armFlags : List ((IsaFeatures → BoolField) × List Bytes) :=
  [(IsaFeatures.armNeon, ["neon", "asimd"]), (IsaFeatures.armAsimd, ["asimd"]),
    (IsaFeatures.armSve, ["sve"]), (IsaFeatures.armSve2, ["sve2"]), (IsaFeatures.armAes, ["aes"]),
    (IsaFeatures.armSha1, ["sha1"]), (IsaFeatures.armSha2, ["sha2"]),
    (IsaFeatures.armCrc32, ["crc32"]), (IsaFeatures.armPauth, ["pauth", "paca", "pacg"])]

/-- The fields of the RISC-V family with their letters. -/
def riscvLetters : List ((IsaFeatures → BoolField) × UInt8) :=
  [(IsaFeatures.riscvI, 'i'.toUInt8), (IsaFeatures.riscvM, 'm'.toUInt8),
    (IsaFeatures.riscvA, 'a'.toUInt8), (IsaFeatures.riscvF, 'f'.toUInt8),
    (IsaFeatures.riscvD, 'd'.toUInt8), (IsaFeatures.riscvC, 'c'.toUInt8),
    (IsaFeatures.riscvV, 'v'.toUInt8), (IsaFeatures.riscvH, 'h'.toUInt8)]

namespace FeatureFamily

/-- The families that have fields. -/
def known : List FeatureFamily := [x86, arm, riscv]

/-- The fields of a family. -/
def fields : FeatureFamily → List (IsaFeatures → BoolField)
  | x86 => x86Flags.map Prod.fst
  | arm => armFlags.map Prod.fst
  | riscv => riscvLetters.map Prod.fst
  | unknown => []

/-- The fields of a family that stand for flag names, with these names. -/
def flags : FeatureFamily → List ((IsaFeatures → BoolField) × List Bytes)
  | x86 => x86Flags
  | arm => armFlags
  | riscv | unknown => []

example : known.map (fun family => family.fields.length) = [31, 9, 8] := rfl

end FeatureFamily

/-- The fields of the families and the raw flags are all of a report. -/
theorem IsaFeatures.ext_of_fields {f g : IsaFeatures} (hraw : f.rawFlags = g.rawFlags)
    (h : ∀ family ∈ FeatureFamily.known, ∀ field ∈ family.fields, field f = field g) : f = g := by
  cases f
  cases g
  simp only [FeatureFamily.known, FeatureFamily.fields, x86Flags, armFlags, riscvLetters,
    List.map_cons, List.map_nil, List.forall_mem_cons] at h
  simp_all

/-! ## What each source gives -/

/-- No feature is there, for the reason the raw flags are not. -/
def IsaFeatures.NoFlags (report : IsaFeatures) : Prop :=
  report.rawFlags = .unavailable report.rawFlags.status ∧
    ∀ family ∈ FeatureFamily.known, ∀ field ∈ family.fields,
      field report = .unavailable report.rawFlags.status

/-- The raw flags are there, and of the three families only this one is. -/
structure IsaFeatures.OfFamily (report : IsaFeatures) (family : FeatureFamily) : Prop where
  raw : report.rawFlags.valid = true
  only : ∀ other ∈ FeatureFamily.known,
    (∀ field ∈ other.fields, (field report).valid = true) ↔ other = family
  others : ∀ other ∈ FeatureFamily.known, other ≠ family →
    ∀ field ∈ other.fields, field report = .unavailable .unsupported
  words : ∀ row ∈ family.flags,
    (row.1 report).value = true ↔ ∃ name ∈ row.2, IsWord report.rawFlags.value name

theorem noFeatures_noFlags (status : Status) : (noFeatures status).NoFlags := by
  refine ⟨rfl, fun family hf field hfield => ?_⟩
  have h : ∀ family ∈ FeatureFamily.known, family.fields.map (fun field => field (noFeatures status)) =
      List.replicate family.fields.length (.unavailable status) := by
    intro family hf
    cases family <;> rfl
  exact List.eq_of_mem_replicate (h family hf ▸ List.mem_map_of_mem hfield)

theorem boolFromFlag_eq (flags : Finset Bytes) (name : Bytes) :
    boolFromFlag flags name = anyFlag flags [name] := by
  simp [boolFromFlag, anyFlag]

theorem anyFlag_value_iff (raw : Bytes) (names : List Bytes) :
    (anyFlag (wordSet raw) names).value = true ↔ ∃ name ∈ names, IsWord raw name := by
  show (names.any fun name => decide (name ∈ wordSet raw)) = true ↔ _
  rw [List.any_eq_true]
  refine exists_congr fun name => and_congr_right fun _ => ?_
  rw [decide_eq_true_eq, wordSet, List.mem_toFinset, mem_splitWords]

/-- The fields of the source's family hold the flags, those of the others nothing. -/
theorem featuresOf_fields (raw : Bytes) (family other : FeatureFamily) (h : other ≠ family) :
    ∀ field ∈ other.fields, field (featuresOf ⟨raw, family⟩) = .unavailable .unsupported := by
  intro field hfield
  have hall : other.fields.map (fun field => field (featuresOf ⟨raw, family⟩)) =
      List.replicate other.fields.length (.unavailable .unsupported) := by
    cases family <;> cases other <;> first | rfl | exact absurd rfl h
  exact List.eq_of_mem_replicate (hall ▸ List.mem_map_of_mem hfield)

theorem featuresOf_flags (raw : Bytes) (family : FeatureFamily) :
    ∀ row ∈ family.flags, row.1 (featuresOf ⟨raw, family⟩) = anyFlag (wordSet raw) row.2 := by
  cases family
  · simp [FeatureFamily.flags, x86Flags, featuresOf, setX86Features, boolFromFlag_eq]
  · simp [FeatureFamily.flags, armFlags, featuresOf, setArmFeatures, boolFromFlag_eq]
  · exact fun row h => absurd h List.not_mem_nil
  · exact fun row h => absurd h List.not_mem_nil

theorem featuresOf_letters (raw : Bytes) :
    ∀ row ∈ riscvLetters,
      row.1 (featuresOf ⟨raw, .riscv⟩) = .ofValue (riscvHasExtension raw row.2) := by
  simp [riscvLetters, featuresOf, setRiscvFeatures]

theorem featuresOf_valid (raw : Bytes) (family : FeatureFamily) :
    ∀ field ∈ family.fields, (field (featuresOf ⟨raw, family⟩)).valid = true := by
  intro field hfield
  cases family with
  | x86 =>
    obtain ⟨row, hrow, rfl⟩ := List.mem_map.1 hfield
    rw [featuresOf_flags raw .x86 row hrow]
    rfl
  | arm =>
    obtain ⟨row, hrow, rfl⟩ := List.mem_map.1 hfield
    rw [featuresOf_flags raw .arm row hrow]
    rfl
  | riscv =>
    obtain ⟨row, hrow, rfl⟩ := List.mem_map.1 hfield
    rw [featuresOf_letters raw row hrow]
    rfl
  | unknown => exact absurd hfield List.not_mem_nil

theorem rawFlags_featuresOf (raw : Bytes) (family : FeatureFamily) :
    (featuresOf ⟨raw, family⟩).rawFlags = .ofValue raw := by
  cases family <;> rfl

theorem featuresOf_ofFamily (raw : Bytes) (family : FeatureFamily) :
    (featuresOf ⟨raw, family⟩).OfFamily family where
  raw := by rw [rawFlags_featuresOf]; rfl
  only := by
    intro other hother
    constructor
    · intro hvalid
      by_contra h
      obtain ⟨field, hfield⟩ : ∃ field, field ∈ other.fields := by
        cases other with
        | x86 | arm | riscv => exact ⟨_, List.mem_cons_self⟩
        | unknown => exact absurd hother (by decide)
      have hv := hvalid field hfield
      rw [featuresOf_fields raw family other h field hfield] at hv
      exact Bool.false_ne_true hv
    · rintro rfl
      exact featuresOf_valid raw other
  others := fun other _ => featuresOf_fields raw family other
  words := by
    intro row hrow
    rw [featuresOf_flags raw family row hrow, rawFlags_featuresOf]
    exact anyFlag_value_iff raw row.2

/-- A source with text is of a known family. -/
theorem family_findFeatureSource {block : KeyValueMap} (h : (findFeatureSource block).raw ≠ []) :
    (findFeatureSource block).family ∈ FeatureFamily.known := by
  revert h
  unfold findFeatureSource
  cases mapValue block "flags" with
  | some value => exact fun _ => (by decide : FeatureFamily.x86 ∈ FeatureFamily.known)
  | none =>
    cases mapValue block "Features" with
    | some value => exact fun _ => (by decide : FeatureFamily.arm ∈ FeatureFamily.known)
    | none =>
      cases mapValue block "isa" with
      | some value => exact fun _ => (by decide : FeatureFamily.riscv ∈ FeatureFamily.known)
      | none => exact fun h => absurd rfl h

/-! ## Every report -/

/-- Whatever cpuinfo holds, a report either has no features, for the reason it has no raw flags, or
it has those of exactly one family, and the x86 and ARM fields tell which words the raw flags
have. -/
theorem features_consistent (env : Env) (options : CollectOptions) :
    ((collectIsa options).run env).NoFlags ∨
      ∃ family ∈ FeatureFamily.known, ((collectIsa options).run env).OfFamily family := by
  rw [run_collectIsa]
  cases env.text (procPath options "/cpuinfo") with
  | none => exact Or.inl (noFeatures_noFlags _)
  | some text =>
    dsimp only
    cases parseColonBlocks text with
    | nil => exact Or.inl (noFeatures_noFlags _)
    | cons first rest =>
      dsimp only
      by_cases h : (findFeatureSource first).raw = []
      · rw [if_pos h]
        exact Or.inl (noFeatures_noFlags _)
      · rw [if_neg h]
        exact Or.inr ⟨_, family_findFeatureSource h, featuresOf_ofFamily _ _⟩

end Archspec
