import Archspec.Readings
import Archspec.Encoding

/-!
# What the text of a report tells

The members of a `Field` are private: a field is made by `value`, by `unavailable` or by default, so
one without a value holds the default value (`Field.Built`).  Every collector keeps to that
(`run_collector_built`).

For records of built fields the encoders of `json.cc` lose nothing: `X.eq_of_json` recovers the
record of each type from its tree, and `collected_toJson_eq_iff` says that two collected reports have
the same text exactly if they have the same selected sections.
-/

namespace Archspec

open Lib Json Node Program

/-! ## Built fields -/

/-- What `value`, `unavailable` and the default constructor make. -/
def Field.Built {α : Type} [Inhabited α] (f : Field α) : Prop := f.valid = false → f.value = default

def AnyField.Built : AnyField → Prop
  | bool f => f.Built
  | u32 f => f.Built
  | u64 f => f.Built
  | i64 f => f.Built
  | string f => f.Built

/-- Every field of a node is built. -/
def Node.Built (n : Node) : Prop := n.Forall fun _ f => f.Built

section Built

variable {α : Type} [Inhabited α]

@[simp] theorem Field.built_ofValue (v : α) : (Field.ofValue v).Built := fun h => absurd h (by simp)

@[simp] theorem Field.built_unavailable (s : Status) : (Field.unavailable s : Field α).Built :=
  fun _ => rfl

@[simp] theorem Field.built_initial : (Field.initial : Field α).Built := fun _ => rfl

@[simp] theorem AnyField.built_bool (f : BoolField) : (AnyField.bool f).Built ↔ f.Built := Iff.rfl
@[simp] theorem AnyField.built_u32 (f : U32Field) : (AnyField.u32 f).Built ↔ f.Built := Iff.rfl
@[simp] theorem AnyField.built_u64 (f : U64Field) : (AnyField.u64 f).Built ↔ f.Built := Iff.rfl
@[simp] theorem AnyField.built_i64 (f : I64Field) : (AnyField.i64 f).Built ↔ f.Built := Iff.rfl
@[simp] theorem AnyField.built_string (f : StringField) : (AnyField.string f).Built ↔ f.Built :=
  Iff.rfl

theorem Node.built_list {β : Type} (entries : List β) (toNode : β → Node) :
    (list (entries.map toNode)).Built ↔ ∀ b ∈ entries, (toNode b).Built := by
  refine ⟨fun h b hb path f hf => ?_, fun h => forall_list_map entries toNode h fun _ _ _ => id⟩
  obtain ⟨i, hi⟩ := List.getElem?_of_mem (List.mem_map_of_mem (f := toNode) hb)
  exact h _ f (.entry hi hf)

end Built

/-! ## Fields -/

theorem statusCode_injective {s t : Status} (h : statusCode s = statusCode t) : s = t := by
  revert h
  cases s <;> cases t <;> decide

theorem AnyField.json_eq_iff (f g : AnyField) :
    f.json = g.json ↔ f.valid = g.valid ∧ f.status = g.status ∧
      (f.valid = true → f.valueJson = g.valueJson) := by
  have hcode : statusCode f.status = statusCode g.status ↔ f.status = g.status :=
    ⟨statusCode_injective, congrArg statusCode⟩
  rw [AnyField.json, AnyField.json]
  cases f.valid <;> cases g.valid <;> simp [hcode]

section Fields

variable {α : Type} [Inhabited α]

/-- Built fields with the same tree are equal. -/
theorem Field.eq_iff_of_built (toAny : Field α → AnyField)
    (hvalid : ∀ f, (toAny f).valid = f.valid) (hstatus : ∀ f, (toAny f).status = f.status)
    (hvalue : ∀ f g, (toAny f).valueJson = (toAny g).valueJson → f.value = g.value)
    {f g : Field α} (hf : f.Built) (hg : g.Built) : (toAny f).json = (toAny g).json ↔ f = g := by
  refine ⟨fun h => ?_, fun h => h ▸ rfl⟩
  rw [AnyField.json_eq_iff] at h
  simp only [hvalid, hstatus] at h
  obtain ⟨hv, hs, hval⟩ := h
  have hvalueEq : f.value = g.value := by
    cases hf' : f.valid with
    | true => exact hvalue f g (hval hf')
    | false => rw [hf hf', hg (hv ▸ hf')]
  obtain ⟨_, _, _⟩ := f
  obtain ⟨_, _, _⟩ := g
  simp only at hv hs hvalueEq
  rw [hv, hs, hvalueEq]

end Fields

@[simp] theorem Field.json_bool_inj {f g : BoolField} (hf : f.Built) (hg : g.Built) :
    (AnyField.bool f).json = (AnyField.bool g).json ↔ f = g :=
  Field.eq_iff_of_built .bool (fun _ => rfl) (fun _ => rfl) (fun _ _ h => Json.bool.inj h) hf hg

@[simp] theorem Field.json_u32_inj {f g : U32Field} (hf : f.Built) (hg : g.Built) :
    (AnyField.u32 f).json = (AnyField.u32 g).json ↔ f = g :=
  Field.eq_iff_of_built .u32 (fun _ => rfl) (fun _ => rfl)
    (fun _ _ h => UInt32.toNat_inj.1 (Int.ofNat_inj.1 (Json.number.inj h).1)) hf hg

@[simp] theorem Field.json_u64_inj {f g : U64Field} (hf : f.Built) (hg : g.Built) :
    (AnyField.u64 f).json = (AnyField.u64 g).json ↔ f = g :=
  Field.eq_iff_of_built .u64 (fun _ => rfl) (fun _ => rfl)
    (fun _ _ h => UInt64.toNat_inj.1 (Int.ofNat_inj.1 (Json.number.inj h).1)) hf hg

@[simp] theorem Field.json_i64_inj {f g : I64Field} (hf : f.Built) (hg : g.Built) :
    (AnyField.i64 f).json = (AnyField.i64 g).json ↔ f = g :=
  Field.eq_iff_of_built .i64 (fun _ => rfl) (fun _ => rfl)
    (fun _ _ h => Int64.toInt_inj.1 (Json.number.inj h).1) hf hg

@[simp] theorem Field.json_string_inj {f g : StringField} (hf : f.Built) (hg : g.Built) :
    (AnyField.string f).json = (AnyField.string g).json ↔ f = g :=
  Field.eq_iff_of_built .string (fun _ => rfl) (fun _ => rfl) (fun _ _ h => Json.string.inj h) hf hg

/-! ## Records -/

theorem CpuTopologyEntry.eq_of_json {a b : CpuTopologyEntry} (h : a.node.json = b.node.json)
    (ha : a.node.Built) (hb : b.node.Built) : a = b := by
  cases a; cases b
  simp_all [CpuTopologyEntry.node, Node.Built]

theorem CacheInfo.eq_of_json {a b : CacheInfo} (h : a.node.json = b.node.json)
    (ha : a.node.Built) (hb : b.node.Built) : a = b := by
  cases a; cases b
  simp_all [CacheInfo.node, Node.Built]

theorem NumaNodeInfo.eq_of_json {a b : NumaNodeInfo} (h : a.node.json = b.node.json)
    (ha : a.node.Built) (hb : b.node.Built) : a = b := by
  cases a; cases b
  simp_all [NumaNodeInfo.node, Node.Built]

theorem PciDeviceInfo.eq_of_json {a b : PciDeviceInfo} (h : a.node.json = b.node.json)
    (ha : a.node.Built) (hb : b.node.Built) : a = b := by
  cases a; cases b
  simp_all [PciDeviceInfo.node, Node.Built]

theorem GpuInfo.eq_of_json {a b : GpuInfo} (h : a.node.json = b.node.json)
    (ha : a.node.Built) (hb : b.node.Built) : a = b := by
  cases a; cases b
  simp_all [GpuInfo.node, Node.Built]

theorem BlockDeviceInfo.eq_of_json {a b : BlockDeviceInfo} (h : a.node.json = b.node.json)
    (ha : a.node.Built) (hb : b.node.Built) : a = b := by
  cases a; cases b
  simp_all [BlockDeviceInfo.node, Node.Built]

theorem NetInterfaceInfo.eq_of_json {a b : NetInterfaceInfo} (h : a.node.json = b.node.json)
    (ha : a.node.Built) (hb : b.node.Built) : a = b := by
  cases a; cases b
  simp_all [NetInterfaceInfo.node, Node.Built]

theorem ThermalZoneInfo.eq_of_json {a b : ThermalZoneInfo} (h : a.node.json = b.node.json)
    (ha : a.node.Built) (hb : b.node.Built) : a = b := by
  cases a; cases b
  simp_all [ThermalZoneInfo.node, Node.Built]

theorem PerfCounterAvailability.eq_of_json {a b : PerfCounterAvailability}
    (h : a.node.json = b.node.json) (ha : a.node.Built) (hb : b.node.Built) : a = b := by
  cases a; cases b
  simp_all [PerfCounterAvailability.node, Node.Built]

/-- Lists with the same trees are equal when their entries are told apart by theirs. -/
theorem entries_eq_of_json {α : Type} {toNode : α → Node}
    (heq : ∀ a b, (toNode a).json = (toNode b).json → (toNode a).Built → (toNode b).Built → a = b)
    {as bs : List α} (h : as.map (fun a => (toNode a).json) = bs.map fun b => (toNode b).json)
    (ha : ∀ a ∈ as, (toNode a).Built) (hb : ∀ b ∈ bs, (toNode b).Built) : as = bs := by
  induction as generalizing bs with
  | nil => exact (List.map_eq_nil_iff.1 h.symm).symm
  | cons a as ih =>
    cases bs with
    | nil => cases h
    | cons b bs =>
      rw [List.map_cons, List.map_cons] at h
      obtain ⟨hhead, htail⟩ := List.cons.inj h
      rw [heq a b hhead (ha a List.mem_cons_self) (hb b List.mem_cons_self),
        ih htail (fun a' h' => ha a' (List.mem_cons_of_mem a h')) fun b' h' =>
          hb b' (List.mem_cons_of_mem b h')]

/-- Records that are one list of entries. -/
theorem entries_eq_of_record {α : Type} {toNode : α → Node}
    (heq : ∀ a b, (toNode a).json = (toNode b).json → (toNode a).Built → (toNode b).Built → a = b)
    {as bs : List α}
    (h : (record [("entries", list (as.map toNode))]).json =
      (record [("entries", list (bs.map toNode))]).json)
    (ha : (record [("entries", list (as.map toNode))]).Built)
    (hb : (record [("entries", list (bs.map toNode))]).Built) : as = bs := by
  simp only [json_record, json_list, List.map_cons, List.map_nil, Json.object.injEq,
    List.cons.injEq, Prod.mk.injEq, Json.array.injEq, List.map_map, true_and, and_true] at h
  have hbuilt : ∀ cs : List α, (record [("entries", list (cs.map toNode))]).Built →
      ∀ c ∈ cs, (toNode c).Built := fun cs hcs =>
    (built_list cs toNode).1 ((forall_record _).1 hcs _ List.mem_cons_self)
  exact entries_eq_of_json heq h (hbuilt as ha) (hbuilt bs hb)

theorem OsInfo.eq_of_json {a b : OsInfo} (h : a.node.json = b.node.json) (ha : a.node.Built)
    (hb : b.node.Built) : a = b := by
  cases a; cases b
  simp_all [OsInfo.node, Node.Built]

theorem CpuInfo.eq_of_json {a b : CpuInfo} (h : a.node.json = b.node.json) (ha : a.node.Built)
    (hb : b.node.Built) : a = b := by
  have hlist : ∀ info : CpuInfo, info.node.Built → ∀ entry ∈ info.topology, entry.node.Built :=
    fun info hinfo => (built_list info.topology _).1
      ((forall_record _).1 hinfo ("topology", _) (by simp))
  have htopology : a.topology = b.topology := by
    refine entries_eq_of_json (fun _ _ => CpuTopologyEntry.eq_of_json) ?_ (hlist a ha) (hlist b hb)
    simp only [CpuInfo.node, json_record, List.map_cons, Json.object.injEq, List.cons.injEq,
      Prod.mk.injEq, json_list, Json.array.injEq, List.map_map] at h
    exact h.2.2.2.2.2.2.2.2.2.2.2.2.2.2.2.2.2.2.2.1.2
  cases a; cases b
  simp_all [CpuInfo.node, Node.Built]

theorem IsaFeatures.eq_of_json {a b : IsaFeatures} (h : a.node.json = b.node.json)
    (ha : a.node.Built) (hb : b.node.Built) : a = b := by
  cases a; cases b
  simp_all [IsaFeatures.node, Node.Built, IsaFeatures.x86Members, IsaFeatures.armMembers,
    IsaFeatures.riscvMembers]

theorem MemoryInfo.eq_of_json {a b : MemoryInfo} (h : a.node.json = b.node.json)
    (ha : a.node.Built) (hb : b.node.Built) : a = b := by
  have hlist : ∀ info : MemoryInfo, info.node.Built → ∀ node ∈ info.numaNodes, node.node.Built :=
    fun info hinfo => (built_list info.numaNodes _).1
      ((forall_record _).1 hinfo ("numa_nodes", _) (by simp))
  have hnodes : a.numaNodes = b.numaNodes := by
    refine entries_eq_of_json (fun _ _ => NumaNodeInfo.eq_of_json) ?_ (hlist a ha) (hlist b hb)
    simp only [MemoryInfo.node, json_record, List.map_cons, Json.object.injEq, List.cons.injEq,
      Prod.mk.injEq, json_list, Json.array.injEq, List.map_map] at h
    exact h.2.2.2.2.2.2.2.2.2.2.2.2.1.2
  cases a; cases b
  simp_all [MemoryInfo.node, Node.Built]

theorem PerfCounterInfo.eq_of_json {a b : PerfCounterInfo} (h : a.node.json = b.node.json)
    (ha : a.node.Built) (hb : b.node.Built) : a = b := by
  have hbuilt : ∀ info : PerfCounterInfo, info.node.Built → info.available.node.Built :=
    fun info hinfo => (forall_record _).1 hinfo ("available", info.available.node) (by simp)
  have havailable : a.available = b.available := by
    refine PerfCounterAvailability.eq_of_json ?_ (hbuilt a ha) (hbuilt b hb)
    simp only [PerfCounterInfo.node, json_record, List.map_cons, Json.object.injEq,
      List.cons.injEq, Prod.mk.injEq] at h
    exact h.2.1.2
  cases a; cases b
  simp_all [PerfCounterInfo.node, Node.Built]

theorem PowerInfo.eq_of_json {a b : PowerInfo} (h : a.node.json = b.node.json)
    (ha : a.node.Built) (hb : b.node.Built) : a = b := by
  cases a; cases b
  simp_all [PowerInfo.node, Node.Built]

theorem VirtualizationInfo.eq_of_json {a b : VirtualizationInfo} (h : a.node.json = b.node.json)
    (ha : a.node.Built) (hb : b.node.Built) : a = b := by
  cases a; cases b
  simp_all [VirtualizationInfo.node, Node.Built]

theorem PlatformInfo.eq_of_json {a b : PlatformInfo} (h : a.node.json = b.node.json)
    (ha : a.node.Built) (hb : b.node.Built) : a = b := by
  cases a; cases b
  simp_all [PlatformInfo.node, Node.Built]

/-- The section of a category is determined by its tree. -/
theorem Category.eq_of_json (c : Category) {s s' : c.Section}
    (h : (c.node s).json = (c.node s').json) (hs : (c.node s).Built) (hs' : (c.node s').Built) :
    s = s' := by
  cases c with
  | os => exact OsInfo.eq_of_json h hs hs'
  | cpu => exact CpuInfo.eq_of_json h hs hs'
  | isa => exact IsaFeatures.eq_of_json h hs hs'
  | cache => exact congrArg CacheList.mk (entries_eq_of_record (fun _ _ => CacheInfo.eq_of_json) h hs hs')
  | memory => exact MemoryInfo.eq_of_json h hs hs'
  | pci =>
    exact congrArg PciDeviceList.mk (entries_eq_of_record (fun _ _ => PciDeviceInfo.eq_of_json) h hs hs')
  | gpu => exact congrArg GpuList.mk (entries_eq_of_record (fun _ _ => GpuInfo.eq_of_json) h hs hs')
  | perf => exact PerfCounterInfo.eq_of_json h hs hs'
  | block =>
    exact congrArg BlockDeviceList.mk
      (entries_eq_of_record (fun _ _ => BlockDeviceInfo.eq_of_json) h hs hs')
  | net =>
    exact congrArg NetInterfaceList.mk
      (entries_eq_of_record (fun _ _ => NetInterfaceInfo.eq_of_json) h hs hs')
  | thermal =>
    exact congrArg ThermalInfo.mk
      (entries_eq_of_record (fun _ _ => ThermalZoneInfo.eq_of_json) h hs hs')
  | power => exact PowerInfo.eq_of_json h hs hs'
  | virtualization => exact VirtualizationInfo.eq_of_json h hs hs'
  | platform => exact PlatformInfo.eq_of_json h hs hs'

/-! ## Whole texts -/

/-- The fields of the selected sections are built. -/
def Report.Built (report : Report) : Prop :=
  ∀ c, report.categories.Selects c → (report.system.nodeOf c).Built

theorem selected_eq_iff (mask mask' : CollectCategory) :
    mask.selected = mask'.selected ↔ ∀ c, mask.Selects c ↔ mask'.Selects c := by
  constructor
  · intro h c
    rw [← mask.mem_selected, h, mask'.mem_selected]
  · intro h
    refine List.filter_congr fun c _ => ?_
    rw [Bool.eq_iff_iff]
    exact h c

/-- The parts of equal trees of reports. -/
theorem Report.parts_of_json_eq {report report' : Report} (h : report.node.json = report'.node.json) :
    report.categories.selected = report'.categories.selected ∧
      ∀ c ∈ report.categories.selected,
        (report.system.nodeOf c).json = (report'.system.nodeOf c).json := by
  simp only [Report.node, Report.data, json_record, json_list, List.map_cons, List.map_nil,
    Json.object.injEq, List.cons.injEq, Prod.mk.injEq, Json.array.injEq, List.map_map, true_and,
    and_true] at h
  obtain ⟨hcategories, hdata⟩ := h
  have hselected : report.categories.selected = report'.categories.selected := by
    refine List.map_injective_iff.2 (fun c d hcd => ?_) hcategories
    simp only [Function.comp_apply, json_text, Json.string.injEq] at hcd
    exact Category.name_injective hcd
  refine ⟨hselected, fun c hc => ?_⟩
  rw [← hselected] at hdata
  exact (Prod.mk.inj (List.map_inj_left.1 hdata c hc)).2

/-- The text of a report of built fields tells its selected sections. -/
theorem Report.toJson_eq_iff {report report' : Report} (h : report.Built) (h' : report'.Built) :
    report.toJson = report'.toJson ↔
      (∀ c, report.categories.Selects c ↔ report'.categories.Selects c) ∧
        ∀ c, report.categories.Selects c →
          report.system.sectionOf c = report'.system.sectionOf c := by
  constructor
  · intro htext
    rw [report.toJson_eq_render, report'.toJson_eq_render] at htext
    obtain ⟨hselected, hsections⟩ := Report.parts_of_json_eq (render_injective htext)
    have hsame := (selected_eq_iff _ _).1 hselected
    refine ⟨hsame, fun c hc => c.eq_of_json ?_ (h c hc) (h' c ((hsame c).1 hc))⟩
    exact hsections c ((report.categories.mem_selected).2 hc)
  · rintro ⟨hsame, hsections⟩
    have hselected := (selected_eq_iff _ _).2 hsame
    have hdata : report.data = report'.data := by
      rw [Report.data, Report.data, ← hselected]
      refine List.map_congr_left fun c hc => ?_
      rw [SystemInfo.nodeOf, SystemInfo.nodeOf, hsections c (report.categories.mem_selected.1 hc)]
    rw [report.toJson_eq_render, report'.toJson_eq_render, Report.node, Report.node, hselected, hdata]

/-! ## What the readers build -/

section Readers

variable (env : Env) (path : Bytes)

@[simp] theorem built_readParsed {α : Type} [Inhabited α] (parse : Bytes → Option α) :
    ((readParsed parse path).run env).Built := by
  rw [run_readParsed]
  cases env.line path with
  | none => exact Field.built_unavailable _
  | some line =>
    dsimp only
    cases parse line
    · exact Field.built_unavailable _
    · exact Field.built_ofValue _

@[simp] theorem built_readStringField (trimValue : Bool) :
    ((readStringField path trimValue).run env).Built := built_readParsed env path _

@[simp] theorem built_readU64Field (multiplier : UInt64) :
    ((readU64Field path multiplier).run env).Built := built_readParsed env path _

@[simp] theorem built_readU32Field : ((readU32Field path).run env).Built :=
  built_readParsed env path _

@[simp] theorem built_readI64Field : ((readI64Field path).run env).Built :=
  built_readParsed env path _

@[simp] theorem built_readSizeBytesField : ((readSizeBytesField path).run env).Built :=
  built_readParsed env path _

@[simp] theorem built_readSymlinkBasenameField :
    ((readSymlinkBasenameField path).run env).Built := by
  unfold readSymlinkBasenameField
  rw [run_bind]
  cases (readSymlinkTarget path).run env <;> simp

@[simp] theorem built_ite {α : Type} [Inhabited α] {c : Prop} [Decidable c] {f g : Field α}
    (hf : f.Built) (hg : g.Built) : (if c then f else g).Built := by
  split
  · exact hf
  · exact hg

@[simp] theorem built_stringFromMap (values : KeyValueMap) (keys : List Bytes) :
    (stringFromMap values keys).Built := by
  unfold stringFromMap
  split <;> simp

@[simp] theorem built_u64FromMap (values : KeyValueMap) (keys : List Bytes) :
    (u64FromMap values keys).Built := by
  unfold u64FromMap
  split
  · split <;> simp
  · simp

@[simp] theorem built_readBoolNumber : ((readBoolNumber path).run env).Built := by
  simp [readBoolNumber]

@[simp] theorem built_firstU64 (convert : UInt64 → UInt64) (lastStatus : Status)
    (paths : List Bytes) : ((firstU64 convert lastStatus paths).run env).Built := by
  induction paths generalizing lastStatus with
  | nil => simp [firstU64]
  | cons path paths ih => simp [firstU64, run_ite, ih]

@[simp] theorem built_firstAccepted (accept : Bytes → Bool) (paths : List Bytes) :
    ((firstAccepted accept paths).run env).Built := by
  rw [run_firstAccepted]
  split <;> simp

end Readers

/-! ## What the collectors build -/

/-- The entries that a `gather` loop keeps. -/
theorem built_gather {α β : Type} {f : α → Collect (Option β)} {toNode : β → Node} (env : Env)
    (as : List α) (h : ∀ a b, (f a).run env = some b → (toNode b).Built) :
    (record [("entries", list (((gather f as).run env).map toNode))]).Built := by
  refine (forall_record _).2 (List.forall_mem_singleton.2 ((built_list _ _).2 fun b hb => ?_))
  rw [run_gather, List.mem_filterMap] at hb
  obtain ⟨a, -, ha⟩ := hb
  exact h a b ha

section Collectors

variable (env : Env) (options : CollectOptions)

theorem pciDevice_built (root : Bytes) (address : EntryName) (device : PciDeviceInfo)
    (h : (pciDevice root address).run env = some device) : device.node.Built := by
  unfold pciDevice at h
  simp only [run_bind, run_ite, run_pure] at h
  split at h
  · cases h
    simp [PciDeviceInfo.node, Node.Built]
  · cases h

theorem collectPci_built : ((collectPci options).run env).node.Built := by
  simp only [collectPci, run_bind, run_pure]
  exact built_gather env _ fun address device => pciDevice_built env _ address device

theorem blockDevice_built (entry : EntryName) (device : BlockDeviceInfo)
    (h : (blockDevice options entry).run env = some device) : device.node.Built := by
  unfold blockDevice at h
  simp only [run_bind, run_ite, run_pure] at h
  split at h
  · cases h
  · split at h
    · cases h
      simp [BlockDeviceInfo.node, Node.Built]
    · cases h

theorem collectBlock_built : ((collectBlock options).run env).node.Built := by
  simp only [collectBlock, run_bind, run_pure]
  exact built_gather env _ (blockDevice_built env options)

@[simp] theorem built_keepValid {α : Type} [Inhabited α] {field : Field α}
    {read : Collect (Field α)} (hfield : field.Built) (hread : (read.run env).Built) :
    ((keepValid field read).run env).Built := by
  rw [keepValid, run_ite, run_pure]
  exact built_ite hfield hread

theorem hwmonDirectory_built (hwmonRoot : Bytes) {fields : U64Field × U64Field}
    (h : fields.1.Built ∧ fields.2.Built) (hwmon : EntryName) :
    ((hwmonDirectory hwmonRoot fields hwmon).run env).1.Built ∧
      ((hwmonDirectory hwmonRoot fields hwmon).run env).2.Built := by
  simp [hwmonDirectory, milliwatts, h.1, h.2]

theorem fillHwmonFields_built (pciPath : Bytes) :
    ((fillHwmonFields pciPath).run env).1.Built ∧ ((fillHwmonFields pciPath).run env).2.Built := by
  simp only [fillHwmonFields, run_bind, run_foldlM]
  exact List.foldlRecOn (motive := fun fields : U64Field × U64Field =>
    fields.1.Built ∧ fields.2.Built) _ _ ⟨Field.built_initial, Field.built_initial⟩
    fun fields h hwmon _ => hwmonDirectory_built env _ h hwmon

theorem gpuFromPci_built (pciAddress pciPath : Bytes) (renderNodes : KeyValueMap) :
    ((gpuFromPci pciAddress pciPath renderNodes).run env).node.Built := by
  have hhwmon := fillHwmonFields_built env pciPath
  have hrender : (renderNodeField renderNodes pciAddress).Built := by
    unfold renderNodeField
    split <;> simp
  simp [gpuFromPci, firstU64File, gpuName, GpuInfo.node, Node.Built, hhwmon, hrender]

theorem drmCard_built (renderNodes : KeyValueMap) {scan : GpuScan}
    (h : ∀ gpu ∈ scan.entries, gpu.node.Built) (card : EntryName) :
    ∀ gpu ∈ ((drmCard options renderNodes scan card).run env).entries, gpu.node.Built := by
  unfold drmCard
  rw [run_ite]
  split
  · exact h
  · rw [run_bind]
    cases (readSymlinkTarget _).run env with
    | none => exact h
    | some target =>
      dsimp only
      rw [run_ite]
      split
      · exact h
      · rw [run_bind, run_pure]
        refine List.forall_mem_append.2 ⟨h, List.forall_mem_singleton.2 ?_⟩
        have hgpu := gpuFromPci_built env (basename target)
          (joinPath (sysPath options "/bus/pci/devices") (basename target)) renderNodes
        simp only [GpuInfo.node, Node.Built, forall_record, List.forall_mem_cons, forall_field,
          AnyField.built_string, Field.built_ofValue] at hgpu ⊢
        obtain ⟨hvendor, hname, -, hgpu⟩ := hgpu
        exact ⟨hvendor, hname, trivial, hgpu⟩

theorem pciGpu_built (renderNodes : KeyValueMap) (seen : Finset Bytes) (address : EntryName)
    (gpu : GpuInfo) (h : (pciGpu options renderNodes seen address).run env = some gpu) :
    gpu.node.Built := by
  unfold pciGpu at h
  simp only [run_bind, run_ite, run_pure, run_map] at h
  split at h
  · cases h
  · split at h
    · cases h
      exact gpuFromPci_built env _ _ _
    · cases h

theorem collectGpu_built : ((collectGpu options).run env).node.Built := by
  simp only [collectGpu, run_bind, run_pure, run_foldlM]
  refine (forall_record _).2 (List.forall_mem_singleton.2 ((built_list _ _).2 ?_))
  refine List.forall_mem_append.2 ⟨?_, fun gpu hgpu => ?_⟩
  · exact List.foldlRecOn (motive := fun scan : GpuScan => ∀ gpu ∈ scan.entries, gpu.node.Built)
      _ _ (fun _ h => absurd h List.not_mem_nil) fun scan h card _ =>
        drmCard_built env options _ h card
  · rw [run_gather, List.mem_filterMap] at hgpu
    obtain ⟨address, -, h⟩ := hgpu
    exact pciGpu_built env options _ _ address gpu h

theorem netInterface_built (addresses : AddressMap) (entry : EntryName) (net : NetInterfaceInfo)
    (h : (netInterface options addresses entry).run env = some net) : net.node.Built := by
  have hfield : ∀ texts family, (addressesField texts family).Built := by
    rintro (_ | texts) family <;> simp [addressesField]
  unfold netInterface at h
  simp only [run_bind, run_ite, run_pure] at h
  split at h
  · cases h
    simp [NetInterfaceInfo.node, Node.Built, redactUnless, readSpeedMbps, hfield]
  · cases h

theorem collectNet_built : ((collectNet options).run env).node.Built := by
  simp only [collectNet, run_bind, run_pure]
  exact built_gather env _ (netInterface_built env options _)

theorem thermalZone_built (root : Bytes) (entry : EntryName) (zone : ThermalZoneInfo)
    (h : (thermalZone root entry).run env = some zone) : zone.node.Built := by
  unfold thermalZone at h
  simp only [run_bind, run_ite, run_pure] at h
  split at h
  · cases h
    simp [ThermalZoneInfo.node, Node.Built]
  · cases h

theorem collectThermal_built : ((collectThermal options).run env).node.Built := by
  simp only [collectThermal, run_bind, run_pure]
  exact built_gather env _ (thermalZone_built env _)

theorem powerSupply_built (root : Bytes) {scan : PowerScan}
    (h : scan.batteryStatus.Built ∧ scan.batteryCapacityPercent.Built) (entry : EntryName) :
    ((powerSupply root scan entry).run env).batteryStatus.Built ∧
      ((powerSupply root scan entry).run env).batteryCapacityPercent.Built := by
  simp only [powerSupply, run_bind, run_ite, run_pure]
  split_ifs
  · exact h
  · simp [h.1, h.2]
  · exact h
  · exact h

theorem collectPower_built : ((collectPower options).run env).node.Built := by
  have hscan : ∀ (root : Bytes) (names : List EntryName),
      ((names.foldlM (powerSupply root) {}).run env).batteryStatus.Built ∧
        ((names.foldlM (powerSupply root) {}).run env).batteryCapacityPercent.Built := by
    intro root names
    rw [run_foldlM]
    exact List.foldlRecOn (motive := fun scan : PowerScan =>
      scan.batteryStatus.Built ∧ scan.batteryCapacityPercent.Built) _ _
      ⟨Field.built_initial, Field.built_initial⟩ fun scan h entry _ =>
        powerSupply_built env root h entry
  simp only [collectPower, run_bind, run_pure]
  obtain ⟨hstatus, hcapacity⟩ := hscan (sysPath options "/class/power_supply")
    ((listDir (sysPath options "/class/power_supply")).run env)
  generalize (List.foldlM _ _ _ : Collect PowerScan).run env = scan at hstatus hcapacity ⊢
  have hbattery : (onBatteryField scan).Built := by
    unfold onBatteryField
    split_ifs <;> simp
  simp [PowerInfo.node, Node.Built, readKhzAsMhz, hbattery, hstatus, hcapacity]

theorem collectSecureBoot_built : ((collectSecureBoot options).run env).Built := by
  simp only [collectSecureBoot, run_bind]
  split
  · simp
  · simp only [run_bind, run_pure, secureBootField]
    split
    · simp
    · split <;> simp

theorem collectPlatform_built : ((collectPlatform options).run env).node.Built := by
  have hboot := collectSecureBoot_built env options
  simp [collectPlatform, PlatformInfo.node, Node.Built, run_ite, hboot]

/-! ### Caches and memory -/

theorem CacheScan.add_built {scan : CacheScan} (h : ∀ cache ∈ scan.entries, cache.node.Built)
    {new : CacheInfo} (hnew : new.node.Built) :
    ∀ cache ∈ (scan.add new).entries, cache.node.Built := by
  unfold CacheScan.add
  split
  · exact h
  · exact List.forall_mem_append.2 ⟨h, List.forall_mem_singleton.2 hnew⟩

theorem cacheIndex_built (cpu : UInt64) (path : Bytes) :
    ((cacheIndex cpu path).run env).node.Built := by
  simp [cacheIndex, CacheInfo.node, Node.Built]

theorem cpuCaches_built {scan : CacheScan} (h : ∀ cache ∈ scan.entries, cache.node.Built)
    (cpu : UInt64 × Bytes) :
    ∀ cache ∈ ((cpuCaches scan cpu).run env).entries, cache.node.Built := by
  simp only [cpuCaches, run_bind, run_foldlM, run_ite, run_pure]
  refine List.foldlRecOn (motive := fun scan : CacheScan => ∀ cache ∈ scan.entries, cache.node.Built)
    _ _ h fun scan h index _ => ?_
  split
  · exact CacheScan.add_built h (cacheIndex_built env _ _)
  · exact h

theorem collectCache_built : ((collectCache options).run env).node.Built := by
  simp only [collectCache, run_bind, run_pure, run_foldlM]
  refine (forall_record _).2 (List.forall_mem_singleton.2 ((built_list _ _).2 ?_))
  exact List.foldlRecOn (motive := fun scan : CacheScan => ∀ cache ∈ scan.entries, cache.node.Built)
    _ _ (fun _ h => absurd h List.not_mem_nil) fun scan h cpu _ => cpuCaches_built env h cpu

@[simp] theorem built_pageSizeField (page : Int64) : (pageSizeField page).Built := by
  unfold pageSizeField
  split <;> simp

@[simp] theorem built_meminfoFileField (meminfo : ReadResult) (key : Bytes) :
    (meminfoFileField meminfo key).Built := by
  unfold meminfoFileField meminfoField
  split
  · split <;> simp
  · simp

theorem numaNode_built (root : Bytes) (entry : EntryName) (node : NumaNodeInfo)
    (h : (numaNode root entry).run env = some node) : node.node.Built := by
  unfold numaNode at h
  split at h
  · cases h
  · simp only [run_bind, run_pure] at h
    cases h
    simp [NumaNodeInfo.node, Node.Built]

theorem collectMemory_built : ((collectMemory options).run env).node.Built := by
  have hnodes : (list (((collectNumaNodes options).run env).map (·.node))).Built := by
    refine (built_list _ _).2 fun node hnode => ?_
    simp only [collectNumaNodes, run_bind, run_gather, List.mem_filterMap] at hnode
    obtain ⟨entry, -, h⟩ := hnode
    exact numaNode_built env _ entry node h
  rw [Node.Built] at hnodes
  simp [collectMemory, transparentHugepagesEnabled, MemoryInfo.node, Node.Built, hnodes]

/-! ### The processor and its flags -/

theorem noFeatures_built (status : Status) : (noFeatures status).node.Built := by
  simp [noFeatures, markFeatureFields, IsaFeatures.node, Node.Built, IsaFeatures.x86Members,
    IsaFeatures.armMembers, IsaFeatures.riscvMembers]

theorem featuresOf_built (source : FeatureSource) : (featuresOf source).node.Built := by
  unfold featuresOf
  split <;>
  simp [setX86Features, setArmFeatures, setRiscvFeatures, boolFromFlag, anyFlag, markFeatureFields,
    IsaFeatures.node, Node.Built, IsaFeatures.x86Members, IsaFeatures.armMembers,
    IsaFeatures.riscvMembers]

theorem collectIsa_built : ((collectIsa options).run env).node.Built := by
  rw [run_collectIsa]
  split
  · exact noFeatures_built _
  · split
    · exact noFeatures_built _
    · split
      · exact noFeatures_built _
      · exact featuresOf_built _

theorem collectPerf_built : ((collectPerf options).run env).node.Built := by
  have hprobe : ∀ config, ((probeHardwareCounter config options.allowPerfOpen).run env).Built := by
    intro config
    unfold probeHardwareCounter
    rw [run_ite, run_bind, run_call]
    split
    · simp
    · rw [run_pure]
      obtain _ | _ | _ | _ | _ | _ | _ | _ := env (.perfEventOpen config) <;>
      simp [PerfOpen.counterField]
  have htsc : ∀ flags, (tscFields flags).1.Built ∧ (tscFields flags).2.1.Built ∧
      (tscFields flags).2.2.Built := by
    intro flags
    unfold tscFields
    split <;> simp [flagField, anyFlagField, boolFromFlag, anyFlag]
  simp [collectPerf, readPerfEventParanoid, fillHardwareCounterAvailability, PerfCounterInfo.node,
    PerfCounterAvailability.node, Node.Built, hprobe, htsc]

theorem collectVirtualization_built : ((collectVirtualization options).run env).node.Built := by
  have hextension : ∀ flags name, (extensionField flags name).Built := by
    intro flags name
    unfold extensionField
    split_ifs <;> simp [boolFromFlag]
  have hiommu : ((iommuPresent options).run env).Built := by
    simp only [iommuPresent, run_bind, run_ite, run_pure]
    split <;> simp
  simp [collectVirtualization, detectedHypervisorVendor, runningUnderHypervisorField,
    VirtualizationInfo.node, Node.Built, hextension, hiommu]

@[simp] theorem built_withFallback {field : U32Field} (h : field.Built)
    (block : Option KeyValueMap) (key : Bytes) : (withFallback field block key).Built := by
  unfold withFallback
  split
  · exact h
  · split
    · exact Field.built_ofValue _
    · exact h

theorem cpuTopologyEntry_built (byId : Finmap fun _ : UInt64 => KeyValueMap)
    (cpu : UInt64 × Bytes) : ((cpuTopologyEntry byId cpu).run env).node.Built := by
  have hnuma : ∀ children, (numaNodeOf children).Built := by
    intro children
    unfold numaNodeOf
    split <;> simp
  simp [cpuTopologyEntry, CpuTopologyEntry.node, Node.Built, hnuma]

theorem addCpuinfoTopology_built (blocks : List KeyValueMap) :
    ∀ entry ∈ addCpuinfoTopology blocks, entry.node.Built := by
  intro entry hentry
  obtain ⟨block, -, h⟩ := List.mem_filterMap.1 hentry
  obtain ⟨processor, -, rfl⟩ := Option.map_eq_some_iff.1 h
  have hfield : ∀ key, (fieldFromBlock block key).Built := by
    intro key
    unfold fieldFromBlock
    split <;> simp
  simp [CpuTopologyEntry.node, Node.Built, hfield]

theorem cpuTopology_built (blocks : List KeyValueMap) :
    ∀ entry ∈ (cpuTopology options blocks).run env, entry.node.Built := by
  simp only [cpuTopology, run_bind, run_pure, run_gather, run_map, List.filterMap_eq_map']
  split
  · exact addCpuinfoTopology_built blocks
  · refine List.forall_mem_map.2 fun cpu _ => ?_
    exact cpuTopologyEntry_built env _ cpu

theorem collectCpu_built : ((collectCpu options).run env).node.Built := by
  have hmachine : (cpuArch.run env).1.Built := by
    simp only [cpuArch, run_bind, run_call]
    cases env .uname <;> simp
  have hcount : ∀ {field : U64Field} blocks threads, field.Built →
      (cpuCountFallback field blocks threads).Built := by
    intro field blocks threads h
    unfold cpuCountFallback
    split_ifs <;> first | exact h | exact Field.built_ofValue _
  have haddress : ∀ block, (parseAddressSizes block).1.Built ∧ (parseAddressSizes block).2.Built := by
    intro block
    have hfield : ∀ bits, (addressField bits).Built := by
      rintro (_ | bits) <;> simp [addressField]
    unfold parseAddressSizes
    split <;> simp [hfield]
  have hvendor : ∀ first isVirtualized,
      ((cpuHypervisorVendor options first isVirtualized).run env).Built := by
    intro first isVirtualized
    simp only [cpuHypervisorVendor, run_ite, run_pure]
    split_ifs <;> simp [firstExistingHypervisorVendor]
  have hsockets : ∀ counts, (socketsField counts).Built := by
    intro counts
    unfold socketsField
    split <;> simp
  have hcores : ∀ counts {cores : U64Field}, cores.Built →
      (coresPerSocketField cores counts).Built := by
    intro counts cores h
    unfold coresPerSocketField
    split_ifs <;> simp [h]
  have hthreads : ∀ counts siblings cores, (threadsPerCoreField siblings cores counts).Built := by
    intro counts siblings cores
    unfold threadsPerCoreField
    split_ifs <;> simp
  have htopology : ∀ blocks,
      (list (((cpuTopology options blocks).run env).map (·.node))).Built := fun blocks =>
    (built_list _ _).2 (cpuTopology_built env options blocks)
  simp only [Node.Built] at htopology
  simp [collectCpu, cpuDetails, CpuInfo.node, Node.Built, readCpuListCountField, isVirtualizedField,
    hmachine, hcount, haddress, hvendor, hsockets, hcores, hthreads, htopology]

/-! ### Whole reports -/

theorem collectOs_built : ((collectOs options).run env).node.Built := by
  have huname : ∀ string, (unameField (env .uname) string).Built := by
    intro string
    unfold unameField
    split <;> simp
  have hrelease : ∀ osRelease keys, (osReleaseField osRelease keys).Built := by
    intro osRelease keys
    unfold osReleaseField
    split <;> simp
  simp [collectOs, OsInfo.node, Node.Built, redactUnless, huname, hrelease]

end Collectors

/-- The fields of every collected section are built. -/
theorem run_collector_built (env : Env) (options : CollectOptions) (c : Category) :
    (c.node ((c.collector options).run env)).Built := by
  cases c with
  | os => exact collectOs_built env options
  | cpu => exact collectCpu_built env options
  | isa => exact collectIsa_built env options
  | cache => exact collectCache_built env options
  | memory => exact collectMemory_built env options
  | pci => exact collectPci_built env options
  | gpu => exact collectGpu_built env options
  | perf => exact collectPerf_built env options
  | block => exact collectBlock_built env options
  | net => exact collectNet_built env options
  | thermal => exact collectThermal_built env options
  | power => exact collectPower_built env options
  | virtualization => exact collectVirtualization_built env options
  | platform => exact collectPlatform_built env options

theorem run_collectReport_built (env : Env) (arch : ArchType) (options : CollectOptions) :
    ((collectReport arch options).run env).Built := by
  intro c hc
  rw [run_collectReport] at hc
  rw [SystemInfo.nodeOf, run_report_section env options arch hc]
  exact run_collector_built env options c

/-- The text of a collected report tells all of it: two collections, on any two machines and with
any options, give the same text exactly if they select the same categories and every selected section
is the same on both. -/
theorem collected_toJson_eq_iff (env env' : Env) (arch arch' : ArchType)
    (options options' : CollectOptions) :
    ((collectReport arch options).run env).toJson =
        ((collectReport arch' options').run env').toJson ↔
      (∀ c, options.categories.Selects c ↔ options'.categories.Selects c) ∧
        ∀ c, options.categories.Selects c →
          (c.collector options).run env = (c.collector options').run env' := by
  rw [Report.toJson_eq_iff (run_collectReport_built env arch options)
    (run_collectReport_built env' arch' options')]
  simp only [run_collectReport]
  refine and_congr_right fun hsame => forall₂_congr fun c hc => ?_
  rw [run_collect_sectionOf, run_collect_sectionOf, if_pos hc, if_pos ((hsame c).1 hc)]

end Archspec
