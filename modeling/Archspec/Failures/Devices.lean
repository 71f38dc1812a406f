import Archspec.Failures.Causes

/-!
# Failures of the device collectors
-/

namespace Archspec

open Lib Program

section Collectors

variable {env : Env} {s : Status} {options : CollectOptions} (hs : s.Fails)

include hs

/-! ## PCI and block devices -/

theorem pciDevice_unless (root : Bytes) (address : EntryName) :
    (pciDevice root address).Unless env (env.Causes .pci s) fun device =>
      ∀ d ∈ device, d.node.Clear s := by
  refine (ask_unless _).bind fun isDir _ => ?_
  refine Unless.ite (fun _ => ?_) fun _ => ?_
  · refine (readStringField_unless hs).bind fun vendorId hvendorId => ?_
    refine (readStringField_unless hs).bind fun deviceId hdeviceId => ?_
    refine (readStringField_unless hs).bind fun subVendor hsubVendor => ?_
    refine (readStringField_unless hs).bind fun subDevice hsubDevice => ?_
    refine (readStringField_unless hs).bind fun classId hclassId => ?_
    refine (readSymlinkBasenameField_unless hs).bind fun driver hdriver => ?_
    refine (readI64Field_unless hs (by decide)).bind fun numaNode hnumaNode => ?_
    refine (readSymlinkBasenameField_unless hs).bind fun group hgroup => ?_
    refine pathExists_unless.bind fun resource _ => ?_
    have hresource : (if resource then
        Field.ofValue (joinPath (joinPath root address.name) "resource")
        else .unavailable .notFound : StringField).status ≠ s := by
      split
      · exact hs.ne_ok
      · exact hs.ne_notFound
    rw [unless_pure_iff]
    rintro d ⟨⟩
    simp [PciDeviceInfo.node, AnyField.status, hs.ne_ok, *]
  · exact unless_none

theorem collectPci_unless :
    (collectPci options).Unless env (env.Causes .pci s) fun list => list.node.Clear s := by
  refine listDir_unless.bind fun names _ => ?_
  refine (Unless.gather fun address _ => pciDevice_unless hs _ address).bind fun entries h => ?_
  rw [unless_pure_iff]
  exact Node.clear_entries h

theorem readBoolNumber_unless {c : Category} {root name : Bytes}
    (hname : (name, .u64 1) ∈ c.numberFiles) :
    (readBoolNumber (joinPath root name)).Unless env (env.Causes c s) fun field =>
      field.status ≠ s := by
  refine (readU64Field_unless hs hname).bind fun value hvalue => ?_
  rw [unless_pure_iff]
  split
  · exact hs.ne_ok
  · exact hvalue

theorem blockDevice_unless (entry : EntryName) :
    (blockDevice options entry).Unless env (env.Causes .block s) fun device =>
      ∀ d ∈ device, d.node.Clear s := by
  refine Unless.ite (fun _ => ?_) fun _ => ?_
  · exact unless_none
  refine (ask_unless _).bind fun isDir _ => ?_
  refine Unless.ite (fun _ => ?_) fun _ => ?_
  · refine (readStringField_unless hs).bind fun model hmodel => ?_
    refine (readStringField_unless hs).bind fun vendor hvendor => ?_
    refine (readBoolNumber_unless hs (by decide)).bind fun rotational hrotational => ?_
    refine (readU64Field_unless hs (by decide)).bind fun size hsize => ?_
    refine (readU64Field_unless hs (by decide)).bind fun logical hlogical => ?_
    refine (readU64Field_unless hs (by decide)).bind fun physical hphysical => ?_
    refine (readStringField_unless hs).bind fun scheduler hscheduler => ?_
    rw [unless_pure_iff]
    rintro d ⟨⟩
    simp [BlockDeviceInfo.node, AnyField.status, hs.ne_ok, *]
  · exact unless_none

theorem collectBlock_unless :
    (collectBlock options).Unless env (env.Causes .block s) fun list => list.node.Clear s := by
  refine listDir_unless.bind fun names _ => ?_
  refine (Unless.gather fun entry _ => blockDevice_unless hs entry).bind fun entries h => ?_
  rw [unless_pure_iff]
  exact Node.clear_entries h

/-! ## GPUs -/

/-- What the hardware-monitor loop has found does not have the status. -/
def HwmonClear (s : Status) (fields : U64Field × U64Field) : Prop :=
  fields.1.status ≠ s ∧ fields.2.status ≠ s

omit hs in
theorem milliwatts_ne (hs : s.Fails) {powerMw : U64Field} (hpower : powerMw.status ≠ s)
    (powerUw : U64Field) : (milliwatts powerMw powerUw).status ≠ s := by
  rw [milliwatts]
  split
  · exact hs.ne_ok
  · exact hpower

theorem hwmonDirectory_unless (hwmonRoot : Bytes) {fields : U64Field × U64Field}
    (hfields : HwmonClear s fields) (hwmon : EntryName) :
    (hwmonDirectory hwmonRoot fields hwmon).Unless env (env.Causes .gpu s) (HwmonClear s) := by
  refine (keepValid_unless hfields.1 (readU64Field_unless hs (by decide))).bind
    fun temp htemp => ?_
  have hread : (milliwatts fields.2 <$>
      readU64Field (joinPath (joinPath hwmonRoot hwmon.name) "power1_average")).Unless env
        (env.Causes .gpu s) fun field => field.status ≠ s := by
    rw [map_eq_pure_bind]
    refine (readU64Field_unless hs (by decide)).bind fun power _ => ?_
    rw [unless_pure_iff]
    exact milliwatts_ne hs hfields.2 power
  refine (keepValid_unless hfields.2 hread).bind fun power hpower => ?_
  rw [unless_pure_iff]
  exact ⟨htemp, hpower⟩

theorem fillHwmonFields_unless (pciPath : Bytes) :
    (fillHwmonFields pciPath).Unless env (env.Causes .gpu s) (HwmonClear s) := by
  refine listDir_unless.bind fun hwmons _ => ?_
  refine Unless.foldlM (fun fields hfields hwmon _ => ?_) ⟨hs.ne_notFound, hs.ne_notFound⟩
  exact hwmonDirectory_unless hs _ hfields hwmon

theorem gpuFromPci_unless (hu : Status.unsupported ≠ s) (pciAddress pciPath : Bytes)
    (renderNodes : KeyValueMap) :
    (gpuFromPci pciAddress pciPath renderNodes).Unless env (env.Causes .gpu s) fun gpu =>
      gpu.node.Clear s := by
  refine (readStringField_unless hs).bind fun vendorId hvendorId => ?_
  refine (readStringField_unless hs).bind fun deviceId hdeviceId => ?_
  refine (readSymlinkBasenameField_unless hs).bind fun driver hdriver => ?_
  refine (firstU64_unless hs id hs.ne_notFound _ (numberFile_pair (by decide) (by decide))).bind
    fun total htotal => ?_
  refine (firstU64_unless hs id hs.ne_notFound _ (numberFile_pair (by decide) (by decide))).bind
    fun used hused => ?_
  refine (fillHwmonFields_unless hs pciPath).bind fun hwmon hhwmon => ?_
  obtain ⟨htemp, hpower⟩ := hhwmon
  have hname : (gpuName vendorId deviceId pciAddress).status ≠ s := by
    unfold gpuName
    split <;> exact hs.ne_ok
  have hrender : (renderNodeField renderNodes pciAddress).status ≠ s := by
    unfold renderNodeField
    split
    · exact hs.ne_ok
    · exact hs.ne_notFound
  have hcuda : (if vendorFromId vendorId = .nvidia then .unavailable .unsupported
      else .ofValue false : BoolField).status ≠ s := by
    split
    · exact hu
    · exact hs.ne_ok
  rw [unless_pure_iff]
  simp [GpuInfo.node, AnyField.status, hs.ne_ok, hs.ne_notFound, *]

/-- No GPU found so far has the status in one of its fields. -/
def GpuScan.Clear (s : Status) (scan : GpuScan) : Prop := ∀ gpu ∈ scan.entries, gpu.node.Clear s

theorem drmCard_unless (hu : Status.unsupported ≠ s) (renderNodes : KeyValueMap) {scan : GpuScan}
    (hscan : scan.Clear s) (card : EntryName) :
    (drmCard options renderNodes scan card).Unless env (env.Causes .gpu s) (GpuScan.Clear s) := by
  refine Unless.ite (fun _ => fun _ => hscan) fun _ => ?_
  refine (ask_unless _).bind fun target _ => ?_
  cases target with
  | none => exact fun _ => hscan
  | some target =>
    refine Unless.ite (fun _ => fun _ => hscan) fun _ => ?_
    refine (gpuFromPci_unless hs hu _ _ renderNodes).bind fun gpu hgpu => ?_
    rw [unless_pure_iff, GpuScan.Clear, List.forall_mem_append, List.forall_mem_singleton]
    refine ⟨hscan, ?_⟩
    -- the node of the card is the only field that changes
    simp only [GpuInfo.node, Node.clear_record, List.forall_mem_cons, Node.clear_field,
      AnyField.status, Field.status_ofValue] at hgpu ⊢
    obtain ⟨hvendor, hname, -, hgpu⟩ := hgpu
    exact ⟨hvendor, hname, hs.ne_ok, hgpu⟩

theorem pciGpu_unless (hu : Status.unsupported ≠ s) (renderNodes : KeyValueMap)
    (seen : Finset Bytes) (address : EntryName) :
    (pciGpu options renderNodes seen address).Unless env (env.Causes .gpu s) fun gpu =>
      ∀ g ∈ gpu, g.node.Clear s := by
  refine Unless.ite (fun _ => unless_none) fun _ => ?_
  refine (readStringField_unless hs).bind fun classId _ => ?_
  refine Unless.ite (fun _ => ?_) fun _ => unless_none
  rw [map_eq_pure_bind]
  refine (gpuFromPci_unless hs hu _ _ renderNodes).bind fun gpu hgpu => ?_
  rw [unless_pure_iff]
  rintro _ ⟨⟩
  exact hgpu

theorem collectGpu_unless (hu : Status.unsupported ≠ s) :
    (collectGpu options).Unless env (env.Causes .gpu s) fun list => list.node.Clear s := by
  have hnodes : (renderNodesByPci options).Unless env (env.Causes .gpu s) fun _ => True :=
    fun _ => trivial
  refine hnodes.bind fun renderNodes _ => ?_
  refine listDir_unless.bind fun cards _ => ?_
  have hstart : GpuScan.Clear s {} := fun gpu hgpu => absurd hgpu List.not_mem_nil
  refine (Unless.foldlM (fun scan hscan card _ => drmCard_unless hs hu renderNodes hscan card)
    hstart).bind fun scan hscan => ?_
  refine listDir_unless.bind fun addresses _ => ?_
  refine (Unless.gather fun address _ => pciGpu_unless hs hu renderNodes scan.seen address).bind
    fun rest hrest => ?_
  rw [unless_pure_iff]
  apply Node.clear_entries
  rw [List.forall_mem_append]
  exact ⟨hscan, hrest⟩

/-! ## Network interfaces -/

theorem readSpeedMbps_unless {root name : Bytes}
    (hname : (name, .i64) ∈ Category.net.numberFiles) :
    (readSpeedMbps (joinPath root name)).Unless env (env.Causes .net s) fun field =>
      field.status ≠ s := by
  refine (readI64Field_unless hs hname).bind fun value hvalue => ?_
  rw [unless_pure_iff]
  split_ifs
  · exact hvalue
  · exact hs.ne_notFound
  · exact hs.ne_ok

theorem addressesField_ne (texts : Option AddressTexts) (family : AddressTexts → List Bytes) :
    (addressesField texts family).status ≠ s := by
  unfold addressesField
  split
  · exact hs.ne_ok
  · exact hs.ne_notFound

theorem netInterface_unless (hr : NotRedacted options s) (addresses : AddressMap)
    (entry : EntryName) :
    (netInterface options addresses entry).Unless env (env.Causes .net s) fun net =>
      ∀ n ∈ net, n.node.Clear s := by
  refine (ask_unless _).bind fun isDir _ => ?_
  refine Unless.ite (fun _ => ?_) fun _ => ?_
  · refine (readStringField_unless hs).bind fun mac hmac => ?_
    refine (readU64Field_unless hs (by decide)).bind fun mtu hmtu => ?_
    refine (readSpeedMbps_unless hs (by decide)).bind fun speed hspeed => ?_
    refine (readStringField_unless hs).bind fun duplex hduplex => ?_
    refine (readBoolNumber_unless hs (by decide)).bind fun carrier hcarrier => ?_
    refine (readSymlinkBasenameField_unless hs).bind fun driver hdriver => ?_
    have haddresses := addressesField_ne hs (addresses.lookup entry.name)
    have hredacted := redactUnless_ne hr hmac
    have hipv4 := redactUnless_ne hr (haddresses (·.ipv4))
    have hipv6 := redactUnless_ne hr (haddresses (·.ipv6))
    rw [unless_pure_iff]
    rintro _ ⟨⟩
    simp [NetInterfaceInfo.node, AnyField.status, hs.ne_ok, *]
  · exact unless_none

theorem collectNet_unless (hr : NotRedacted options s) :
    (collectNet options).Unless env (env.Causes .net s) fun list => list.node.Clear s := by
  have haddresses : (collectAddresses options).Unless env (env.Causes .net s) fun _ => True :=
    fun _ => trivial
  refine haddresses.bind fun addresses _ => ?_
  refine listDir_unless.bind fun names _ => ?_
  refine (Unless.gather fun entry _ => netInterface_unless hs hr addresses entry).bind
    fun entries h => ?_
  rw [unless_pure_iff]
  exact Node.clear_entries h

end Collectors

end Archspec
