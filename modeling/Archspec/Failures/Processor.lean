import Archspec.Failures.Causes

/-!
# Failures of the collectors that read cpuinfo
-/

namespace Archspec

open Lib Program

section Collectors

variable {env : Env} {s : Status} {options : CollectOptions} (hs : s.Fails)

include hs

/-! ## CPU flags -/

omit hs in
theorem IsaFeatures.clear_of_members {features : IsaFeatures}
    (hx86 : ∀ m ∈ features.x86Members, m.2.Clear s) (harm : ∀ m ∈ features.armMembers, m.2.Clear s)
    (hriscv : ∀ m ∈ features.riscvMembers, m.2.Clear s) (hraw : features.rawFlags.status ≠ s) :
    features.node.Clear s := by
  rw [IsaFeatures.node, Node.clear_record, List.forall_mem_append, List.forall_mem_append,
    List.forall_mem_append, List.forall_mem_singleton, Node.clear_field]
  exact ⟨⟨⟨hx86, harm⟩, hriscv⟩, hraw⟩

omit hs in
theorem clear_field_bool (f : BoolField) : (f : Node).Clear s ↔ ¬ f.status = s :=
  Node.clear_field _

omit hs in
theorem noFeatures_clear {status : Status} (h : status ≠ s) : (noFeatures status).node.Clear s := by
  have hfield : ¬ (Field.unavailable status : BoolField).status = s := h
  apply IsaFeatures.clear_of_members
  case hraw => exact h
  all_goals
    simp only [noFeatures, markFeatureFields, IsaFeatures.x86Members, IsaFeatures.armMembers,
      IsaFeatures.riscvMembers, List.forall_mem_cons, clear_field_bool, hfield, not_false_eq_true,
      true_and]
    exact List.forall_mem_nil _

theorem boolFromFlag_ne (flags : Finset Bytes) (name : Bytes) :
    ¬ (boolFromFlag flags name).status = s := hs.ne_ok

theorem anyFlag_ne (flags : Finset Bytes) (names : List Bytes) :
    ¬ (anyFlag flags names).status = s := hs.ne_ok

theorem featuresOf_clear (hu : Status.unsupported ≠ s) (source : FeatureSource) :
    (featuresOf source).node.Clear s := by
  have h : ¬ (Field.unavailable .unsupported : BoolField).status = s := hu
  have hvalue : ∀ b : Bool, ¬ (Field.ofValue b).status = s := fun _ => hs.ne_ok
  unfold featuresOf
  split
  all_goals
    apply IsaFeatures.clear_of_members
    case hraw => exact hs.ne_ok
  all_goals
    simp only [setX86Features, setArmFeatures, setRiscvFeatures, markFeatureFields,
      IsaFeatures.x86Members, IsaFeatures.armMembers, IsaFeatures.riscvMembers,
      List.forall_mem_cons, clear_field_bool, boolFromFlag_ne hs, anyFlag_ne hs, hvalue, h,
      not_false_eq_true, true_and]
    exact List.forall_mem_nil _

omit hs in
/-- A cpuinfo that was delivered and is no cause has a block. -/
theorem parseError_ne_of_noBlock {c : Category} {root : Bytes} {cpuinfo : ReadResult}
    (hc : c ∈ [Category.cpu, .isa, .perf, .virtualization])
    (hcpuinfo : cpuinfo.Clear s (env.text (joinPath root "/cpuinfo")))
    (hfile : ¬ env.Causes c s (.openFile (joinPath root "/cpuinfo"))) (hok : cpuinfo.status = .ok)
    (hblocks : parseColonBlocks cpuinfo.value = []) : Status.parseError ≠ s := by
  rintro rfl
  exact hfile (.refusedCpuinfo hc (hcpuinfo.held_eq hok) (.inl hblocks))

theorem collectIsa_unless (hu : Status.unsupported ≠ s) :
    (collectIsa options).Unless env (env.Causes .isa s) fun features => features.node.Clear s := by
  refine (readFile_unless hs).bind fun cpuinfo ⟨hcpuinfo, hfile⟩ => ?_
  refine Unless.ite (fun _ => ?_) fun hok => ?_
  · rw [unless_pure_iff]
    exact noFeatures_clear hcpuinfo.status
  split
  · rename_i hblocks
    rw [unless_pure_iff]
    apply noFeatures_clear
    exact parseError_ne_of_noBlock (by decide) hcpuinfo hfile (not_not.1 hok) hblocks
  · rw [unless_pure_iff]
    split
    · exact noFeatures_clear hs.ne_notFound
    · exact featuresOf_clear hs hu _

theorem flagLine_ne (block : KeyValueMap) (keys : List Bytes) :
    (flagLine block keys).status ≠ s := by
  induction keys with
  | nil => exact hs.ne_notFound
  | cons key keys ih =>
    rw [flagLine]
    split
    · exact hs.ne_ok
    · exact ih

theorem readFlagLine_unless {c : Category}
    (hc : c ∈ [Category.cpu, .isa, .perf, .virtualization]) (keys : List Bytes) :
    (readFlagLine keys options).Unless env (env.Causes c s) fun result => result.status ≠ s := by
  refine (readFile_unless hs).bind fun cpuinfo ⟨hcpuinfo, hfile⟩ => ?_
  refine Unless.ite (fun _ => ?_) fun hok => ?_
  · rw [unless_pure_iff]
    exact hcpuinfo.status
  split
  · rename_i hblocks
    rw [unless_pure_iff]
    exact parseError_ne_of_noBlock hc hcpuinfo hfile (not_not.1 hok) hblocks
  · rw [unless_pure_iff]
    exact flagLine_ne hs _ keys

/-! ## Performance counters -/

theorem probeHardwareCounter_unless (hu : Status.unsupported ≠ s) (config : UInt64)
    (allowProbe : Bool) :
    (probeHardwareCounter config allowProbe).Unless env (env.Causes .perf s) fun field =>
      field.status ≠ s := by
  refine Unless.ite (fun _ => ?_) fun _ => ?_
  · rw [unless_pure_iff]
    exact hu
  intro hquiet
  have hcall : ¬ env.Causes .perf s (.perfEventOpen config) := hquiet _ List.mem_cons_self
  rw [run_bind, run_call, run_pure]
  cases houtcome : env (.perfEventOpen config) with
  | opened => exact hs.ne_ok
  | failed errno =>
    cases errno with
    | eacces =>
      rintro rfl
      exact hcall (.refusedCounter (.inl houtcome))
    | eperm =>
      rintro rfl
      exact hcall (.refusedCounter (.inr houtcome))
    | other =>
      rintro rfl
      exact hcall (.brokenCounter houtcome)
    | enodev | enoent | eopnotsupp | einval => exact hs.ne_ok

theorem fillHardwareCounterAvailability_unless (hu : Status.unsupported ≠ s) (allowProbe : Bool) :
    (fillHardwareCounterAvailability allowProbe).Unless env (env.Causes .perf s) fun counters =>
      counters.node.Clear s := by
  have hprobe : ∀ config, (probeHardwareCounter config allowProbe).Unless env (env.Causes .perf s)
      fun field => field.status ≠ s :=
    fun config => probeHardwareCounter_unless hs hu config allowProbe
  refine (hprobe 0).bind fun cycles h0 => ?_
  refine (hprobe 1).bind fun instructions h1 => ?_
  refine (hprobe 2).bind fun references h2 => ?_
  refine (hprobe 3).bind fun misses h3 => ?_
  refine (hprobe 4).bind fun branches h4 => ?_
  refine (hprobe 5).bind fun branchMisses h5 => ?_
  refine (hprobe 6).bind fun bus h6 => ?_
  refine (hprobe 9).bind fun refCycles h9 => ?_
  rw [unless_pure_iff]
  simp [PerfCounterAvailability.node, AnyField.status, *]

theorem tscFields_ne (hu : Status.unsupported ≠ s) {flags : CpuFlagResult} (h : flags.status ≠ s) :
    (tscFields flags).1.status ≠ s ∧ (tscFields flags).2.1.status ≠ s ∧
      (tscFields flags).2.2.status ≠ s := by
  unfold tscFields
  split
  · exact ⟨hu, hu, hu⟩
  · unfold flagField anyFlagField
    split
    · exact ⟨h, h, h⟩
    · exact ⟨hs.ne_ok, hs.ne_ok, hs.ne_ok⟩

theorem collectPerf_unless (hu : Status.unsupported ≠ s) :
    (collectPerf options).Unless env (env.Causes .perf s) fun info => info.node.Clear s := by
  refine (readI64Field_unless hs (by decide)).bind fun paranoid hparanoid => ?_
  refine (fillHardwareCounterAvailability_unless hs hu _).bind fun available havailable => ?_
  refine (readFlagLine_unless hs (by decide) _).bind fun flags hflags => ?_
  obtain ⟨htsc, htscp, hinvariant⟩ := tscFields_ne hs hu hflags
  rw [unless_pure_iff]
  simp [PerfCounterInfo.node, AnyField.status, *]

/-! ## Virtualization -/

theorem extensionField_ne (hu : Status.unsupported ≠ s) {flags : CpuFlagResult}
    (h : flags.status ≠ s) (name : Bytes) : (extensionField flags name).status ≠ s := by
  unfold extensionField
  split
  · exact hs.ne_ok
  · split
    · exact hu
    · exact h

theorem runningUnderHypervisorField_ne {flags : CpuFlagResult} (h : flags.status ≠ s)
    (vendor : StringField) : (runningUnderHypervisorField flags vendor).status ≠ s := by
  unfold runningUnderHypervisorField
  split
  · exact hs.ne_ok
  · exact h

theorem iommuPresent_unless :
    (iommuPresent options).Unless env (env.Causes .virtualization s) fun field =>
      field.status ≠ s := by
  refine (ask_unless _).bind fun isDir _ => ?_
  refine Unless.ite (fun _ => ?_) fun _ => ?_
  · refine listDir_unless.bind fun names _ => ?_
    rw [unless_pure_iff]
    exact hs.ne_ok
  · rw [unless_pure_iff]
    exact hs.ne_notFound

theorem collectVirtualization_unless (hu : Status.unsupported ≠ s) :
    (collectVirtualization options).Unless env (env.Causes .virtualization s) fun info =>
      info.node.Clear s := by
  refine (readFlagLine_unless hs (by decide) _).bind fun flags hflags => ?_
  refine (firstAccepted_unless hs _ _).bind fun vendor hvendor => ?_
  refine pathExists_unless.bind fun kvmExists _ => ?_
  have haccess : (if kvmExists then ask (.access (devPath options "/kvm"))
      else Pure.pure false : Collect Bool).Unless env (env.Causes .virtualization s)
        fun _ => True :=
    fun _ => trivial
  refine haccess.bind fun kvmAccess _ => ?_
  refine (iommuPresent_unless hs).bind fun iommu hiommu => ?_
  have hvmx := extensionField_ne hs hu hflags
  have hrunning := runningUnderHypervisorField_ne hs hflags vendor
  rw [unless_pure_iff]
  simp [VirtualizationInfo.node, AnyField.status, hs.ne_ok, *]

/-! ## Processor -/

theorem u64FromMap_ne {block : KeyValueMap} (hblock : RefusedBlock block → Status.parseError ≠ s)
    {keys : List Bytes} (hkeys : keys ∈ numberKeys) : (u64FromMap block keys).status ≠ s := by
  unfold u64FromMap
  split
  · rename_i text hvalue
    split
    · exact hs.ne_ok
    · rename_i hparse
      exact hblock (.number hkeys hvalue hparse)
  · exact hs.ne_notFound

theorem parseAddressSizes_ne {block : KeyValueMap}
    (hblock : RefusedBlock block → Status.parseError ≠ s) :
    (parseAddressSizes block).1.status ≠ s ∧ (parseAddressSizes block).2.status ≠ s := by
  have haddress : ∀ bits, (bits = none → Status.parseError ≠ s) →
      (addressField bits).status ≠ s := by
    rintro (_ | bits) hnone
    · exact hnone rfl
    · exact hs.ne_ok
  unfold parseAddressSizes
  split
  · exact ⟨hs.ne_notFound, hs.ne_notFound⟩
  · rename_i text hvalue
    exact ⟨haddress _ fun hnone => hblock (.sizes hvalue (.inl hnone)),
      haddress _ fun hnone => hblock (.sizes hvalue (.inr hnone))⟩

theorem fieldFromBlock_ne (block : KeyValueMap) (key : Bytes) :
    (fieldFromBlock block key).status ≠ s := by
  unfold fieldFromBlock
  split
  · exact hs.ne_ok
  · exact hs.ne_notFound

theorem addCpuinfoTopology_clear (blocks : List KeyValueMap) :
    ∀ entry ∈ addCpuinfoTopology blocks, entry.node.Clear s := by
  intro entry hentry
  obtain ⟨block, -, hblock⟩ := List.mem_filterMap.1 hentry
  obtain ⟨id, -, rfl⟩ := Option.map_eq_some_iff.1 hblock
  simp [CpuTopologyEntry.node, AnyField.status, fieldFromBlock_ne hs, hs.ne_ok, hs.ne_notFound]

theorem withFallback_ne {field : U32Field} (h : field.status ≠ s) (block : Option KeyValueMap)
    (key : Bytes) : (withFallback field block key).status ≠ s := by
  unfold withFallback
  split
  · exact h
  · split
    · exact hs.ne_ok
    · exact h

theorem numaNodeOf_ne (children : List EntryName) : (numaNodeOf children).status ≠ s := by
  unfold numaNodeOf
  split
  · exact hs.ne_ok
  · exact hs.ne_notFound

theorem cpuTopologyEntry_unless (byId : Finmap fun _ : UInt64 => KeyValueMap)
    (cpu : UInt64 × Bytes) :
    (cpuTopologyEntry byId cpu).Unless env (env.Causes .cpu s) fun entry => entry.node.Clear s := by
  refine (readU32Field_unless hs (by decide)).bind fun coreId hcoreId => ?_
  refine (readU32Field_unless hs (by decide)).bind fun packageId hpackageId => ?_
  refine (readStringField_unless hs).bind fun threads hthreads => ?_
  refine (readStringField_unless hs).bind fun cores hcores => ?_
  refine listDir_unless.bind fun children _ => ?_
  have hcore := withFallback_ne hs hcoreId (byId.lookup cpu.1) "core id"
  have hpackage := withFallback_ne hs hpackageId (byId.lookup cpu.1) "physical id"
  have hnuma := numaNodeOf_ne hs children
  rw [unless_pure_iff]
  simp [CpuTopologyEntry.node, AnyField.status, hs.ne_ok, *]

theorem cpuTopology_unless (blocks : List KeyValueMap) :
    (cpuTopology options blocks).Unless env (env.Causes .cpu s) fun entries =>
      ∀ e ∈ entries, e.node.Clear s := by
  have hcpus : (cpuDirs options).Unless env (env.Causes .cpu s) fun _ => True := fun _ => trivial
  refine hcpus.bind fun cpus _ => ?_
  have hentries : (gather (fun cpu => some <$> cpuTopologyEntry (blocksByProcessor blocks) cpu)
      cpus).Unless env (env.Causes .cpu s) fun entries => ∀ e ∈ entries, e.node.Clear s := by
    refine Unless.gather fun cpu _ => ?_
    rw [map_eq_pure_bind]
    refine (cpuTopologyEntry_unless hs _ cpu).bind fun entry hentry => ?_
    rw [unless_pure_iff]
    rintro _ ⟨⟩
    exact hentry
  refine hentries.bind fun entries h => ?_
  rw [unless_pure_iff]
  split
  · exact addCpuinfoTopology_clear hs blocks
  · exact h

theorem socketsField_ne (counts : TopologyCounts) : (socketsField counts).status ≠ s := by
  unfold socketsField
  split
  · exact hs.ne_ok
  · exact hs.ne_notFound

theorem coresPerSocketField_ne {cpuCores : U64Field} (h : cpuCores.status ≠ s)
    (counts : TopologyCounts) : (coresPerSocketField cpuCores counts).status ≠ s := by
  unfold coresPerSocketField
  split_ifs
  · exact h
  · exact hs.ne_ok
  · exact hs.ne_notFound

theorem threadsPerCoreField_ne (siblings cpuCores : U64Field) (counts : TopologyCounts) :
    (threadsPerCoreField siblings cpuCores counts).status ≠ s := by
  unfold threadsPerCoreField
  split_ifs
  · exact hs.ne_ok
  · exact hs.ne_ok
  · exact hs.ne_notFound

theorem cpuCountFallback_ne {field : U64Field} (h : field.status ≠ s) (blocks : List KeyValueMap)
    (threads : UInt32) : (cpuCountFallback field blocks threads).status ≠ s := by
  unfold cpuCountFallback
  split_ifs
  · exact h
  · exact hs.ne_ok
  · exact hs.ne_ok
  · exact h

theorem isVirtualizedField_ne (flags : Finset Bytes) {status : Status} (h : status ≠ s) :
    (isVirtualizedField flags status).status ≠ s := by
  unfold isVirtualizedField
  split
  · exact hs.ne_ok
  · rw [Field.status_unavailable]
    split
    · exact hs.ne_notFound
    · exact h

theorem cpuHypervisorVendor_unless (first : KeyValueMap) (isVirtualized : BoolField) :
    (cpuHypervisorVendor options first isVirtualized).Unless env (env.Causes .cpu s) fun field =>
      field.status ≠ s := by
  refine Unless.ite (fun _ => ?_) fun _ => ?_
  · rw [unless_pure_iff]
    exact stringFromMap_ne hs first _
  · refine Unless.ite (fun _ => firstAccepted_unless hs _ _) fun _ => ?_
    rw [unless_pure_iff]
    exact hs.ne_notFound

omit hs in
theorem not_refusedBlock_empty : ¬ RefusedBlock ∅ := by
  have hempty : ∀ key, mapValue ∅ key = none := by
    intro key
    rw [mapValue, Finmap.lookup_empty, Option.filter_none]
  rintro (⟨-, hvalue, -⟩ | ⟨hvalue, -⟩)
  · obtain ⟨key, -, hkey⟩ := List.exists_of_findSome?_eq_some hvalue
    rw [hempty] at hkey
    cases hkey
  · rw [hempty] at hvalue
    cases hvalue

omit hs in
/-- The first block of a cpuinfo that is no cause is as expected. -/
theorem firstBlock_refused {root : Bytes} {cpuinfo : ReadResult}
    (hcpuinfo : cpuinfo.Clear s (env.text (joinPath root "/cpuinfo")))
    (hfile : ¬ env.Causes .cpu s (.openFile (joinPath root "/cpuinfo"))) :
    RefusedBlock
        ((if cpuinfo.status = .ok then parseColonBlocks cpuinfo.value else []).headD ∅) →
      Status.parseError ≠ s := by
  by_cases hok : cpuinfo.status = .ok
  · rw [if_pos hok]
    rintro hrefused rfl
    cases hblocks : parseColonBlocks cpuinfo.value with
    | nil =>
      rw [hblocks] at hrefused
      exact not_refusedBlock_empty hrefused
    | cons first rest =>
      rw [hblocks] at hrefused
      have htext := hcpuinfo.held_eq hok
      exact hfile (.refusedCpuinfo (by decide) htext (.inr ⟨first, rest, hblocks, hrefused⟩))
  · rw [if_neg hok]
    exact fun hrefused => absurd hrefused not_refusedBlock_empty

theorem cpuDetails_unless {machine : StringField × ArchType} (hmachine : machine.1.status ≠ s) :
    (cpuDetails options machine).Unless env (env.Causes .cpu s) fun info => info.node.Clear s := by
  refine (readFile_unless hs).bind fun cpuinfo ⟨hcpuinfo, hfile⟩ => ?_
  refine (readCpuListCountField_unless hs (by decide)).bind fun present hpresent => ?_
  refine (readCpuListCountField_unless hs (by decide)).bind fun online honline => ?_
  refine (readCpuListCountField_unless hs (by decide)).bind fun possible hpossible => ?_
  refine (ask_unless _).bind fun threads _ => ?_
  refine (cpuTopology_unless hs _).bind fun topology htopology => ?_
  refine (cpuHypervisorVendor_unless hs _ _).bind fun vendor hvendor => ?_
  have hfirst := firstBlock_refused hcpuinfo hfile
  have hlist := Node.clear_list htopology
  have hnumber := fun (keys : List Bytes) (hkeys : keys ∈ numberKeys) =>
    u64FromMap_ne hs hfirst hkeys
  rw [unless_pure_iff]
  simp only [CpuInfo.node, Node.clear_record, List.forall_mem_cons, Node.clear_field,
    Node.clear_text, AnyField.status]
  exact ⟨trivial, hmachine, stringFromMap_ne hs _ _, stringFromMap_ne hs _ _,
    stringFromMap_ne hs _ _, cpuCountFallback_ne hs hpresent _ _,
    cpuCountFallback_ne hs honline _ _, cpuCountFallback_ne hs hpossible _ _,
    socketsField_ne hs _, coresPerSocketField_ne hs (hnumber _ (by decide)) _,
    threadsPerCoreField_ne hs _ _ _, hnumber _ (by decide), hnumber _ (by decide),
    hnumber _ (by decide), stringFromMap_ne hs _ _,
    (parseAddressSizes_ne hs hfirst).1, (parseAddressSizes_ne hs hfirst).2,
    isVirtualizedField_ne hs _ hcpuinfo.status, hvendor, hlist, by simp⟩

theorem collectCpu_unless :
    (collectCpu options).Unless env (env.Causes .cpu s) fun info => info.node.Clear s := by
  have harch : cpuArch.Unless env (env.Causes .cpu s) fun machine => machine.1.status ≠ s := by
    refine uname_unless.bind fun uts huts => ?_
    cases uts with
    | none =>
      rw [unless_pure_iff]
      exact huts rfl
    | some uts =>
      rw [unless_pure_iff]
      exact hs.ne_ok
  refine harch.bind fun machine hmachine => ?_
  exact cpuDetails_unless hs hmachine

end Collectors

end Archspec
