import Archspec.Readings

/-!
# Sections that speak about the same thing

The sections of the features, of the counters and of virtualization each look up the flags of the
first cpuinfo block.  They agree (`FlagsAgree`) unless that block names its features in an `isa` line
alone, which `virtualization.cc` does not look for (`flags_agree_iff`).

The sections of the processor and of virtualization each scan the same three files for a hypervisor:
the one takes the first text that is not empty, the other the first one with a known hint.  They name
the same hypervisor (`SameHypervisor`) exactly if that makes no difference (`same_hypervisor_iff`).
-/

namespace Archspec

open Lib Program

theorem mapValue_ne_nil {block : KeyValueMap} {key value : Bytes}
    (h : mapValue block key = some value) : value ≠ [] := by
  simpa using (Option.filter_eq_some_iff.1 h).2

/-! ## The flags of the processor -/

/-- What the three sections say about the flags is the same, as whole fields. -/
structure FlagsAgree (info : SystemInfo) : Prop where
  vmx : info.virtualizationInfo.intelVmxAvailable = info.isaFeatures.x86Vmx
  svm : info.virtualizationInfo.amdSvmAvailable = info.isaFeatures.x86Svm
  tsc : info.perfInfo.rdtscAvailable = info.isaFeatures.x86Tsc
  rdtscp : info.perfInfo.rdtscpAvailable = info.isaFeatures.x86Rdtscp
  invariantTsc : info.perfInfo.invariantTsc =
    ⟨info.isaFeatures.x86ConstantTsc.valid, info.isaFeatures.x86ConstantTsc.status,
      info.isaFeatures.x86ConstantTsc.value || info.isaFeatures.x86NonstopTsc.value⟩

/-- The first block of cpuinfo names its features in an `isa` line alone. -/
def Env.IsaLineOnly (env : Env) (options : CollectOptions) : Prop :=
  ∃ block, (env.cpuBlocks options).head? = some block ∧ mapValue block "isa" ≠ none ∧
    mapValue block "flags" = none ∧ mapValue block "Features" = none

/-- What the lookups of the counters, of virtualization and of the features find together, and
whether the features stand in an `isa` line alone. -/
inductive FlagLookups : CpuFlagResult → CpuFlagResult → IsaFeatures → Prop → Prop where
  | failed {s : Status} (hs : s ≠ .ok) {isaLine : Prop} (h : ¬ isaLine) :
    FlagLookups { status := s } { status := s } (noFeatures s) isaLine
  | x86 (line : Bytes) {isaLine : Prop} (h : ¬ isaLine) :
    FlagLookups ⟨.ok, wordSet line, true⟩ ⟨.ok, wordSet line, true⟩ (featuresOf ⟨line, .x86⟩) isaLine
  | arm (line : Bytes) {isaLine : Prop} (h : ¬ isaLine) :
    FlagLookups ⟨.ok, wordSet line, false⟩ ⟨.ok, wordSet line, false⟩ (featuresOf ⟨line, .arm⟩)
      isaLine
  | riscv (line : Bytes) {isaLine : Prop} (h : isaLine) :
    FlagLookups ⟨.ok, wordSet line, false⟩ {} (featuresOf ⟨line, .riscv⟩) isaLine

/-- The lookups in the first block. -/
theorem flagLine_lookups (block : KeyValueMap) :
    FlagLookups (flagLine block ["flags", "Features", "isa"]) (flagLine block ["flags", "Features"])
      (if (findFeatureSource block).raw = [] then noFeatures .notFound
        else featuresOf (findFeatureSource block))
      (mapValue block "isa" ≠ none ∧ mapValue block "flags" = none ∧
        mapValue block "Features" = none) := by
  have harmKey : bytes "Features" ≠ bytes "flags" := by decide
  have hisaKey : bytes "isa" ≠ bytes "flags" := by decide
  cases hflags : mapValue block "flags" with
  | some line =>
    simpa [findFeatureSource, flagLine, hflags, mapValue_ne_nil hflags] using
      FlagLookups.x86 line not_false
  | none =>
    cases harm : mapValue block "Features" with
    | some line =>
      simpa [findFeatureSource, flagLine, hflags, harm, mapValue_ne_nil harm, harmKey] using
        FlagLookups.arm line not_false
    | none =>
      cases hisa : mapValue block "isa" with
      | some line =>
        simpa [findFeatureSource, flagLine, hflags, harm, hisa, mapValue_ne_nil hisa, hisaKey] using
          FlagLookups.riscv line trivial
      | none =>
        simpa [findFeatureSource, flagLine, hflags, harm, hisa] using
          FlagLookups.failed (show Status.notFound ≠ .ok by decide) not_false

theorem flagLookups (env : Env) (options : CollectOptions) :
    FlagLookups ((readCpuFlags options).run env) ((cpuFlags options).run env)
      ((collectIsa options).run env) (env.IsaLineOnly options) := by
  rw [readCpuFlags, cpuFlags, run_readFlagLine, run_readFlagLine, run_collectIsa, Env.IsaLineOnly,
    Env.cpuBlocks]
  cases env.text (procPath options "/cpuinfo") with
  | none => exact .failed (env.failure_ne_ok _) (by simp)
  | some text =>
    dsimp only
    cases parseColonBlocks text with
    | nil => exact .failed (by decide) (by simp)
    | cons first rest =>
      simp only [List.head?_cons, Option.some.injEq, exists_eq_left']
      exact flagLine_lookups first

section Lookups

variable {perfFlags virtualFlags : CpuFlagResult} {features : IsaFeatures} {isaLine : Prop}

/-- The counters and the features are looked up under the same keys. -/
theorem FlagLookups.tscFields_eq (h : FlagLookups perfFlags virtualFlags features isaLine) :
    tscFields perfFlags = (features.x86Tsc, features.x86Rdtscp,
      ⟨features.x86ConstantTsc.valid, features.x86ConstantTsc.status,
        features.x86ConstantTsc.value || features.x86NonstopTsc.value⟩) := by
  cases h with
  | failed hs => simp [tscFields, flagField, anyFlagField, noFeatures, markFeatureFields, hs,
      Field.unavailable]
  | x86 line => simp [tscFields, flagField, anyFlagField, featuresOf, setX86Features, boolFromFlag,
      anyFlag, Field.ofValue]
  | arm line => simp [tscFields, featuresOf, setArmFeatures, markFeatureFields, Field.unavailable]
  | riscv line => simp [tscFields, featuresOf, setRiscvFeatures, markFeatureFields,
      Field.unavailable]

/-- Virtualization and the features are not. -/
theorem FlagLookups.extensionFields_iff (h : FlagLookups perfFlags virtualFlags features isaLine) :
    extensionField virtualFlags "vmx" = features.x86Vmx ∧
      extensionField virtualFlags "svm" = features.x86Svm ↔ ¬ isaLine := by
  cases h with
  | failed hs h => simp [extensionField, noFeatures, markFeatureFields, hs, h]
  | x86 line h => simp [extensionField, featuresOf, setX86Features, h]
  | arm line h => simp [extensionField, featuresOf, setArmFeatures, markFeatureFields, h]
  | riscv line h =>
    simp [extensionField, featuresOf, setRiscvFeatures, markFeatureFields, Field.unavailable, h]

end Lookups

/-- Virtualization reports what its own lookup found. -/
theorem run_collectVirtualization_extensions (env : Env) (options : CollectOptions) :
    ((collectVirtualization options).run env).intelVmxAvailable =
        extensionField ((cpuFlags options).run env) "vmx" ∧
      ((collectVirtualization options).run env).amdSvmAvailable =
        extensionField ((cpuFlags options).run env) "svm" := by
  simp only [collectVirtualization, run_bind, run_pure, and_self]

/-- The three sections agree on the flags of the processor exactly if the first block of cpuinfo does
not name its features in an `isa` line alone. -/
theorem flags_agree_iff (arch : ArchType) (options : CollectOptions) (env : Env)
    (hisa : options.categories.Selects .isa) (hperf : options.categories.Selects .perf)
    (hvirtual : options.categories.Selects .virtualization) :
    FlagsAgree ((collectReport arch options).run env).system ↔ ¬ env.IsaLineOnly options := by
  have hi := run_report_section env options arch hisa
  have hp := run_report_section env options arch hperf
  have hv := run_report_section env options arch hvirtual
  simp only [SystemInfo.sectionOf, Category.collector] at hi hp hv
  obtain ⟨hvmx, hsvm⟩ := run_collectVirtualization_extensions env options
  have hlookups := flagLookups env options
  have htsc := hlookups.tscFields_eq
  rw [← hlookups.extensionFields_iff]
  constructor
  · intro h
    exact ⟨by rw [← hvmx, ← hv, ← hi, h.vmx], by rw [← hsvm, ← hv, ← hi, h.svm]⟩
  · intro h
    constructor
    · rw [hi, hv, hvmx, h.1]
    · rw [hi, hv, hsvm, h.2]
    all_goals
      rw [hi, hp]
      simp only [collectPerf, run_bind, run_pure, htsc]

/-- A host with this cpuinfo and nothing else. -/
def Env.ofCpuinfo (cpuinfo : OpenFile) : Env := .ofFiles [("/proc/cpuinfo", cpuinfo)]

theorem flags_agree_iff_x86 :
    FlagsAgree ((collectReport .unknown {}).run
      (Env.ofCpuinfo { content := bytes "flags : fpu vmx\n" })).system := by
  refine (flags_agree_iff .unknown {} _ (by decide) (by decide) (by decide)).2 ?_
  rintro ⟨block, hblock, -, hflags, -⟩
  obtain rfl := Option.some.inj hblock
  revert hflags
  decide

/-- On a RISC-V cpuinfo virtualization says `not_found` where the features say `unsupported`. -/
theorem flags_disagree_riscv :
    ¬ FlagsAgree ((collectReport .unknown {}).run
      (Env.ofCpuinfo { content := bytes "isa : rv64imafdc\n" })).system := by
  intro h
  have hvmx := h.vmx
  have hi := run_report_section (Env.ofCpuinfo { content := bytes "isa : rv64imafdc\n" }) {}
    .unknown (c := .isa) (by decide)
  have hv := run_report_section (Env.ofCpuinfo { content := bytes "isa : rv64imafdc\n" }) {}
    .unknown (c := .virtualization) (by decide)
  simp only [SystemInfo.sectionOf, Category.collector] at hi hv
  rw [hi, hv, (run_collectVirtualization_extensions _ _).1] at hvmx
  revert hvmx
  decide

/-! ## The hypervisor -/

/-- The trimmed first lines of the files that may name a hypervisor, as far as they can be read. -/
def Env.hypervisorTexts (env : Env) (options : CollectOptions) : List Bytes :=
  [sysPath options "/hypervisor/type", sysPath options "/class/dmi/id/product_name",
    sysPath options "/class/dmi/id/sys_vendor"].filterMap fun path => (env.line path).map trim

/-- The sections of the processor and of virtualization name the same hypervisor. -/
structure SameHypervisor (info : SystemInfo) : Prop where
  vendor : info.cpuInfo.hypervisorVendor.valid = true →
    info.virtualizationInfo.hypervisorVendor.valid = true →
      info.cpuInfo.hypervisorVendor = info.virtualizationInfo.hypervisorVendor
  running : info.cpuInfo.isVirtualized = .ofValue true →
    info.virtualizationInfo.runningUnderHypervisor = .ofValue true

/-- When the flags name a hypervisor: if any of the texts bears a hint, then the first one that is
not empty does; and if the flags come from an `isa` line, then one of them does. -/
def Env.HintFirst (env : Env) (options : CollectOptions) (block : KeyValueMap) : Prop :=
  bytes "hypervisor" ∈ wordSet (firstFlags block) →
    ((∃ text ∈ env.hypervisorTexts options, containsVirtualizationHint text = true) →
      ∃ text ∈ ((env.hypervisorTexts options).filter (· ≠ [])).head?,
        containsVirtualizationHint text = true) ∧
    (mapValue block "flags" = none → mapValue block "Features" = none →
      ∃ text ∈ env.hypervisorTexts options, containsVirtualizationHint text = true)

section Hypervisor

variable (env : Env) (options : CollectOptions)

theorem containsVirtualizationHint_ne_nil {text : Bytes}
    (h : containsVirtualizationHint text = true) : text ≠ [] := by
  rintro rfl
  revert h
  decide

/-- The field of the first accepted text. -/
def firstField (accept : Bytes → Bool) (texts : List Bytes) : StringField :=
  match texts.find? accept with
  | some text => .ofValue text
  | none => .unavailable .notFound

theorem run_detectedHypervisorVendor :
    (detectedHypervisorVendor options).run env =
      firstField containsVirtualizationHint (env.hypervisorTexts options) :=
  run_firstAccepted env _ _

theorem run_firstExistingHypervisorVendor :
    (firstExistingHypervisorVendor options).run env =
      firstField (fun text => !text.isEmpty) (env.hypervisorTexts options) :=
  run_firstAccepted env _ _

section Block

variable {env options} {block : KeyValueMap} (hblock : (env.cpuBlocks options).head? = some block)

include hblock

theorem run_readFile_cpuinfo :
    ∃ text, (readFile (procPath options "/cpuinfo")).run env = { status := .ok, value := text } ∧
      ∃ rest, parseColonBlocks text = block :: rest := by
  rw [Env.cpuBlocks] at hblock
  rw [run_readFile]
  cases htext : env.text (procPath options "/cpuinfo") with
  | none => simp [htext] at hblock
  | some text =>
    rw [htext] at hblock
    exact ⟨text, rfl, List.head?_eq_some_iff.1 hblock⟩

/-- What the processor section says about a hypervisor. -/
theorem run_collectCpu_hypervisor (hvendor : block.lookup (bytes "Hypervisor vendor") = none) :
    ((collectCpu options).run env).isVirtualized =
        isVirtualizedField (wordSet (firstFlags block)) .ok ∧
      ((collectCpu options).run env).hypervisorVendor =
        if bytes "hypervisor" ∈ wordSet (firstFlags block) then
          firstField (fun text => !text.isEmpty) (env.hypervisorTexts options)
        else .unavailable .notFound := by
  obtain ⟨text, hread, rest, hparse⟩ := run_readFile_cpuinfo hblock
  have hnone : stringFromMap block ["Hypervisor vendor"] = .unavailable .notFound := by
    simp [stringFromMap, mapValue, hvendor]
  simp only [collectCpu, cpuDetails, run_bind, run_pure, hread, hparse, if_true, List.headD_cons,
    true_and]
  rw [cpuHypervisorVendor, hnone]
  by_cases hword : bytes "hypervisor" ∈ wordSet (firstFlags block)
  · have hne : wordSet (firstFlags block) ≠ ∅ := Finset.ne_empty_of_mem hword
    simp [isVirtualizedField, hne, hword, run_firstExistingHypervisorVendor]
  · by_cases hne : wordSet (firstFlags block) = ∅
    · simp [isVirtualizedField, hne]
    · simp [isVirtualizedField, hne, hword]

/-- What the virtualization section says about it. -/
theorem run_collectVirtualization_hypervisor :
    ((collectVirtualization options).run env).runningUnderHypervisor =
        runningUnderHypervisorField (flagLine block ["flags", "Features"])
          (firstField containsVirtualizationHint (env.hypervisorTexts options)) ∧
      ((collectVirtualization options).run env).hypervisorVendor =
        firstField containsVirtualizationHint (env.hypervisorTexts options) := by
  obtain ⟨text, hread, rest, hparse⟩ := run_readFile_cpuinfo hblock
  simp only [collectVirtualization, cpuFlags, readFlagLine, run_bind, run_pure, hread, hparse,
    run_detectedHypervisorVendor, ne_eq, not_true_eq_false, if_false, and_self]

end Block

end Hypervisor

section Texts

variable {texts : List Bytes}

theorem valid_firstField {accept : Bytes → Bool} :
    (firstField accept texts).valid = true ↔ ∃ text ∈ texts, accept text = true := by
  rw [firstField]
  cases h : texts.find? accept with
  | none =>
    have hnone := List.find?_eq_none.1 h
    simpa using hnone
  | some text =>
    exact iff_of_true rfl ⟨text, List.mem_of_find?_eq_some h, List.find?_some h⟩

/-- The first text that is not empty is the first one with a hint exactly if it has one. -/
theorem firstField_eq_iff (hhint : ∃ text ∈ texts, containsVirtualizationHint text = true) :
    firstField (fun text => !text.isEmpty) texts = firstField containsVirtualizationHint texts ↔
      ∃ text ∈ (texts.filter (· ≠ [])).head?, containsVirtualizationHint text = true := by
  have hpred : (fun text : Bytes => !text.isEmpty) = fun text => decide (text ≠ []) := by
    funext text
    cases text <;> rfl
  have hsub : texts.find? containsVirtualizationHint =
      (texts.filter (· ≠ [])).find? containsVirtualizationHint := by
    rw [List.find?_filter]
    congr 1
    funext text
    by_cases htext : containsVirtualizationHint text = true
    · simp [htext, containsVirtualizationHint_ne_nil htext]
    · simp [htext]
  obtain ⟨hinted, hfind⟩ : ∃ hinted, texts.find? containsVirtualizationHint = some hinted :=
    Option.isSome_iff_exists.1 (List.find?_isSome.2 hhint)
  have hhinted := List.find?_some hfind
  rw [firstField, firstField, hpred, ← List.head?_filter, hfind]
  rw [hsub] at hfind
  cases htexts : texts.filter (· ≠ []) with
  | nil =>
    rw [htexts] at hfind
    cases hfind
  | cons text rest =>
    rw [htexts, List.find?_cons] at hfind
    simp only [List.head?_cons, Option.mem_def, Option.some.injEq, exists_eq_left']
    constructor
    · intro h
      have heq : text = hinted := congrArg Field.value h
      rw [heq, hhinted]
    · intro h
      rw [h] at hfind
      rw [Option.some.inj hfind]

end Texts

/-- Where the flags name a hypervisor, virtualization misses it only when they stand in an `isa`
line. -/
theorem running_iff {block : KeyValueMap} (hword : bytes "hypervisor" ∈ wordSet (firstFlags block))
    (vendor : StringField) :
    runningUnderHypervisorField (flagLine block ["flags", "Features"]) vendor = .ofValue true ↔
      (mapValue block "flags" = none → mapValue block "Features" = none → vendor.valid = true) := by
  cases hflags : mapValue block "flags" with
  | some line =>
    have hline : firstFlags block = line := by simp [firstFlags, hflags]
    rw [hline] at hword
    simp [flagLine, hflags, runningUnderHypervisorField, hword]
  | none =>
    cases harm : mapValue block "Features" with
    | some line =>
      have hline : firstFlags block = line := by simp [firstFlags, hflags, harm]
      rw [hline] at hword
      simp [flagLine, hflags, harm, runningUnderHypervisorField, hword]
    | none =>
      cases hvalid : vendor.valid with
      | false =>
        simp [flagLine, hflags, harm, runningUnderHypervisorField, hvalid, Field.unavailable,
          Field.ofValue]
      | true => simp [flagLine, hflags, harm, runningUnderHypervisorField, hvalid]

/-- For a cpuinfo whose first block names no hypervisor vendor, the sections of the processor and of
virtualization name the same hypervisor exactly if the texts with a hint come first. -/
theorem same_hypervisor_iff (arch : ArchType) (options : CollectOptions) (env : Env)
    (hcpu : options.categories.Selects .cpu) (hvirtual : options.categories.Selects .virtualization)
    (block : KeyValueMap) (hblock : (env.cpuBlocks options).head? = some block)
    (hvendor : block.lookup (bytes "Hypervisor vendor") = none) :
    SameHypervisor ((collectReport arch options).run env).system ↔
      env.HintFirst options block := by
  have hc := run_report_section env options arch hcpu
  have hv := run_report_section env options arch hvirtual
  simp only [SystemInfo.sectionOf, Category.collector] at hc hv
  obtain ⟨hvirtualized, hcpuVendor⟩ := run_collectCpu_hypervisor hblock hvendor
  obtain ⟨hrunning, hvirtualVendor⟩ := run_collectVirtualization_hypervisor hblock
  rw [← hc] at hvirtualized hcpuVendor
  rw [← hv] at hrunning hvirtualVendor
  by_cases hword : bytes "hypervisor" ∈ wordSet (firstFlags block)
  · have hne : wordSet (firstFlags block) ≠ ∅ := Finset.ne_empty_of_mem hword
    have htrue : isVirtualizedField (wordSet (firstFlags block)) .ok = .ofValue true := by
      simp [isVirtualizedField, hne, hword]
    have hrun := running_iff hword
      (firstField containsVirtualizationHint (env.hypervisorTexts options))
    rw [valid_firstField] at hrun
    rw [if_pos hword] at hcpuVendor
    constructor
    · intro h _
      refine ⟨fun hhint => ?_, fun hflags harm => ?_⟩
      · have hsome : ∃ text ∈ env.hypervisorTexts options, (!text.isEmpty) = true := by
          obtain ⟨text, hmem, htext⟩ := hhint
          have hnil := containsVirtualizationHint_ne_nil htext
          exact ⟨text, hmem, by simpa using hnil⟩
        have hvendors := h.vendor
        rw [hcpuVendor, hvirtualVendor] at hvendors
        exact (firstField_eq_iff hhint).1
          (hvendors (valid_firstField.2 hsome) (valid_firstField.2 hhint))
      · have hrunning' := h.running (hvirtualized.trans htrue)
        rw [hrunning] at hrunning'
        exact hrun.1 hrunning' hflags harm
    · intro h
      obtain ⟨hfirst, hsome⟩ := h hword
      constructor
      · rw [hcpuVendor, hvirtualVendor]
        intro _ hhint
        rw [valid_firstField] at hhint
        exact (firstField_eq_iff hhint).2 (hfirst hhint)
      · intro _
        rw [hrunning]
        exact hrun.2 hsome
  · have hfalse : isVirtualizedField (wordSet (firstFlags block)) .ok ≠ .ofValue true := by
      unfold isVirtualizedField
      split <;> simp [hword, Field.ofValue, Field.unavailable]
    rw [if_neg hword] at hcpuVendor
    refine iff_of_true ⟨?_, ?_⟩ fun h => absurd h hword
    · rw [hcpuVendor]
      intro h
      exact absurd h (by simp)
    · rw [hvirtualized]
      intro h
      exact absurd h hfalse

/-- A guest that tells its hypervisor in the flags, and in these DMI texts. -/
def Env.guest (productName sysVendor : OpenFile) : Env :=
  .ofFiles [("/proc/cpuinfo", { content := bytes "flags : fpu hypervisor\n" }),
    ("/sys/class/dmi/id/product_name", productName), ("/sys/class/dmi/id/sys_vendor", sysVendor)]

/-- The only block of its cpuinfo. -/
def guestBlock : KeyValueMap := Finmap.singleton (bytes "flags") (bytes "fpu hypervisor")

theorem guest_cpuBlocks (productName sysVendor : OpenFile) :
    ((Env.guest productName sysVendor).cpuBlocks {}).head? = some guestBlock := rfl

theorem same_hypervisor_iff_guest :
    SameHypervisor ((collectReport .unknown {}).run
      (Env.guest { content := bytes "KVM\n" } { content := bytes "Red Hat\n" })).system := by
  refine (same_hypervisor_iff .unknown {} _ (by decide) (by decide) guestBlock
    (guest_cpuBlocks _ _) (by decide)).2 ?_
  intro _
  have htexts : (Env.guest { content := bytes "KVM\n" }
      { content := bytes "Red Hat\n" }).hypervisorTexts {} = ["KVM", "Red Hat"] := by decide
  rw [htexts]
  exact ⟨fun _ => ⟨"KVM", by decide, by decide⟩, fun _ _ => ⟨"KVM", by decide, by decide⟩⟩

/-- The product name of a QEMU guest is not the name of a hypervisor. -/
theorem hypervisors_differ_qemu :
    ∃ env : Env, ∃ block, (env.cpuBlocks {}).head? = some block ∧
      block.lookup (bytes "flags") ≠ none ∧ block.lookup (bytes "Hypervisor vendor") = none ∧
      ((collectReport .unknown {}).run env).system.cpuInfo.hypervisorVendor =
        .ofValue "Standard PC" ∧
      ((collectReport .unknown {}).run env).system.virtualizationInfo.hypervisorVendor =
        .ofValue "QEMU" ∧
      ¬ SameHypervisor ((collectReport .unknown {}).run env).system := by
  have hblock := guest_cpuBlocks { content := bytes "Standard PC\n" } { content := bytes "QEMU\n" }
  have hc := run_report_section (Env.guest { content := bytes "Standard PC\n" }
    { content := bytes "QEMU\n" }) {} .unknown (c := .cpu) (by decide)
  have hv := run_report_section (Env.guest { content := bytes "Standard PC\n" }
    { content := bytes "QEMU\n" }) {} .unknown (c := .virtualization) (by decide)
  have htexts : (Env.guest { content := bytes "Standard PC\n" }
      { content := bytes "QEMU\n" }).hypervisorTexts {} = ["Standard PC", "QEMU"] := by decide
  simp only [SystemInfo.sectionOf, Category.collector] at hc hv
  have hvendor := (run_collectCpu_hypervisor hblock (by decide)).2
  have hvirtual := (run_collectVirtualization_hypervisor hblock).2
  rw [← hc, if_pos (by decide), htexts] at hvendor
  rw [← hv, htexts] at hvirtual
  refine ⟨_, guestBlock, hblock, by decide, by decide, hvendor.trans (by decide),
    hvirtual.trans (by decide), fun h => ?_⟩
  have hsame := h.vendor
  rw [hvendor, hvirtual] at hsame
  revert hsame
  decide

end Archspec
