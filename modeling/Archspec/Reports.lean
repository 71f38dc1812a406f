import Archspec.Answers
import Archspec.Encoding

/-!
# What holds of every collected report

Results for every mask, all options and any answers of the system, drawn from `collector_meets` and
`collect_meets`:

* `collected_valid_iff_ok`: a field is valid exactly if its status is `ok`, in the report and in its
  text;
* `collected_path_within`: every path given to the file system lies within a configured root;
* `unselected_initial_iff`: when the sections that are not selected are in their default state.
-/

namespace Archspec

open Lib Json

/-! ## The default state -/

/-- A default field. -/
def AnyField.Initial (f : AnyField) : Prop := f.valid = false ∧ f.status = .notFound

namespace Node

/-- The default state of a node: default fields, `unknown` enumerations and empty lists. -/
inductive Initial : Node → Prop where
  | field {f : AnyField} (h : f.Initial) : Initial (field f)
  | text : Initial (text "unknown")
  | list : Initial (list [])
  | record {members : List (Bytes × Node)} (h : ∀ m ∈ members, Initial m.2) :
      Initial (record members)

@[simp] theorem initial_field (f : AnyField) : (field f).Initial ↔ f.Initial :=
  ⟨fun h => by cases h; assumption, .field⟩

@[simp] theorem initial_text (name : Bytes) : (text name).Initial ↔ name = "unknown" :=
  ⟨fun h => by cases h; rfl, fun h => h ▸ .text⟩

@[simp] theorem initial_list (entries : List Node) : (list entries).Initial ↔ entries = [] :=
  ⟨fun h => by cases h; rfl, fun h => h ▸ .list⟩

@[simp] theorem initial_record (members : List (Bytes × Node)) :
    (record members).Initial ↔ ∀ m ∈ members, m.2.Initial :=
  ⟨fun h => by cases h; assumption, .record⟩

end Node

section Fresh

@[simp] theorem AnyField.initial_bool : (AnyField.bool .initial).Initial := ⟨rfl, rfl⟩
@[simp] theorem AnyField.initial_u32 : (AnyField.u32 .initial).Initial := ⟨rfl, rfl⟩
@[simp] theorem AnyField.initial_u64 : (AnyField.u64 .initial).Initial := ⟨rfl, rfl⟩
@[simp] theorem AnyField.initial_i64 : (AnyField.i64 .initial).Initial := ⟨rfl, rfl⟩
@[simp] theorem AnyField.initial_string : (AnyField.string .initial).Initial := ⟨rfl, rfl⟩

theorem ArchType.toString_eq_unknown {arch : ArchType} (h : arch.toString = bytes "unknown") :
    arch = .unknown := by
  revert h
  cases arch <;> decide

/-- A fresh section is in its default state, apart from the architecture. -/
theorem fresh_initial_iff (arch : ArchType) (c : Category) :
    ((SystemInfo.fresh arch).nodeOf c).Initial ↔ c = .cpu → arch = .unknown := by
  cases c with
  | cpu =>
    have hunknown : arch.toString = bytes "unknown" ↔ arch = .unknown :=
      ⟨ArchType.toString_eq_unknown, fun h => h ▸ rfl⟩
    simp [SystemInfo.nodeOf, SystemInfo.fresh, SystemInfo.sectionOf, Category.node, CpuInfo.node,
      hunknown]
  | isa =>
    simp [SystemInfo.nodeOf, SystemInfo.fresh, SystemInfo.sectionOf, Category.node,
      IsaFeatures.node, IsaFeatures.x86Members, IsaFeatures.armMembers, IsaFeatures.riscvMembers]
  | perf =>
    simp [SystemInfo.nodeOf, SystemInfo.fresh, SystemInfo.sectionOf, Category.node,
      PerfCounterInfo.node, PerfCounterAvailability.node]
  | _ =>
    simp [SystemInfo.nodeOf, SystemInfo.fresh, SystemInfo.sectionOf, Category.node, OsInfo.node,
      CacheList.node, MemoryInfo.node, PciDeviceList.node, GpuList.node, BlockDeviceList.node,
      NetInterfaceList.node, ThermalInfo.node, PowerInfo.node, VirtualizationInfo.node,
      PlatformInfo.node]

end Fresh

theorem Node.Initial.forall_initial {n : Node} (h : n.Initial) :
    n.Forall fun _ f => f.Initial := by
  induction h with
  | field h => exact (Node.forall_field _).2 h
  | text => exact Node.forall_text _
  | list => exact (Node.forall_list []).2 fun i n hi => absurd hi (by simp)
  | record _ ih => exact (Node.forall_record _).2 ih

/-- The fields of a fresh section are default fields whatever the architecture is. -/
theorem fresh_fields_initial (arch : ArchType) (c : Category) :
    ((SystemInfo.fresh arch).nodeOf c).Forall fun _ f => f.Initial := by
  by_cases hc : c = .cpu
  · subst hc
    simp [SystemInfo.nodeOf, SystemInfo.fresh, SystemInfo.sectionOf, Category.node, CpuInfo.node,
      Node.forall_list]
  · exact ((fresh_initial_iff arch c).2 fun h => absurd h hc).forall_initial

/-! ## The collection as a whole -/

/-- The calls of a collection, and the sections it returns. -/
theorem collect_guarded (arch : ArchType) (options : CollectOptions) :
    (collect arch options).Meets
      (fun call => ∃ c, options.categories.Selects c ∧ Footprint options c call)
      fun info => ∀ c, if options.categories.Selects c then
          SectionGuarded options c (info.sectionOf c)
        else info.sectionOf c = (SystemInfo.fresh arch).sectionOf c :=
  collect_meets (fun c hc => (collector_meets options c).mono (fun _ h => ⟨c, hc, h⟩) fun _ => id)
    arch

theorem collectReport_returns {arch : ArchType} {options : CollectOptions} {report : Report}
    (h : (collectReport arch options).Returns report) :
    report.categories = options.categories ∧ (collect arch options).Returns report.system := by
  obtain ⟨info, hinfo, ⟨⟩⟩ := Program.returns_bind_iff.1 h
  exact ⟨rfl, hinfo⟩

/-! ## Validity and status -/

/-- Every field is valid exactly if its status is `ok`. -/
theorem collected_fields {arch : ArchType} {options : CollectOptions} {info : SystemInfo}
    (h : (collect arch options).Returns info) (c : Category) :
    (info.nodeOf c).Forall fun _ f => f.valid = true ↔ f.status = .ok := by
  have hc := (collect_guarded arch options).returns h c
  split at hc
  · exact Node.Forall.mono hc fun path f hf => hf.1
  · rw [SystemInfo.nodeOf, hc]
    refine (fresh_fields_initial arch c).mono fun path f hf => ?_
    rw [hf.1, hf.2]
    decide

theorem statusCode_eq_ok {s : Status} : statusCode s = bytes "ok" ↔ s = .ok := by
  cases s <;> decide

theorem Node.json_ne_bool (n : Node) (v : Bool) : n.json ≠ .bool v := by
  cases n <;> simp [AnyField.json]

/-- The only object in the tree of a field is its own. -/
theorem AnyField.hasObject_json {f : AnyField} {members : List (Bytes × Json)}
    (h : f.json.HasObject members) {v : Bool} {s : Bytes}
    (hvalid : (bytes "valid", Json.bool v) ∈ members)
    (hstatus : (bytes "status", Json.string s) ∈ members) :
    v = f.valid ∧ s = statusCode f.status := by
  have hkeys : bytes "valid" ≠ bytes "status" ∧ bytes "valid" ≠ bytes "value" ∧
      bytes "status" ≠ bytes "value" := by decide
  rw [AnyField.json] at h
  cases h with
  | here =>
    have hv : v = f.valid := by
      split at hvalid <;> simpa [hkeys.1, hkeys.2.1] using hvalid
    have hs : s = statusCode f.status := by
      split at hstatus <;> simpa [hkeys.1.symm, hkeys.2.2] using hstatus
    exact ⟨hv, hs⟩
  | member hm h =>
    exfalso
    rcases List.mem_append.1 hm with hm | hm
    · rcases List.mem_pair.1 hm with rfl | rfl <;> cases h
    · split at hm
      · obtain rfl := List.mem_singleton.1 hm
        cases f <;> cases h
      · exact absurd hm List.not_mem_nil

/-- In the tree of a node, an object with a boolean member `valid` and a textual member `status` is
the object of a field. -/
theorem Node.hasObject_json {n : Node} {P : AnyField → Prop} (hn : n.Forall fun _ f => P f)
    {members : List (Bytes × Json)} (h : n.json.HasObject members) {v : Bool} {s : Bytes}
    (hvalid : (bytes "valid", Json.bool v) ∈ members)
    (hstatus : (bytes "status", Json.string s) ∈ members) :
    ∃ f, P f ∧ v = f.valid ∧ s = statusCode f.status := by
  induction n using Node.induct with
  | field f =>
    rw [json_field] at h
    exact ⟨f, (forall_field f).1 hn, AnyField.hasObject_json h hvalid hstatus⟩
  | text name =>
    rw [json_text] at h
    cases h
  | list entries ih =>
    rw [json_list] at h
    cases h with
    | item hj h =>
      obtain ⟨n, hmem, rfl⟩ := List.mem_map.1 hj
      obtain ⟨i, hi⟩ := List.getElem?_of_mem hmem
      exact ih n hmem ((forall_list entries).1 hn i n hi) h
  | record ms ih =>
    rw [json_record] at h
    cases h with
    | here =>
      obtain ⟨m, -, hm⟩ := List.mem_map.1 hvalid
      exact absurd (Prod.mk.inj hm).2 (m.2.json_ne_bool v)
    | member hm h =>
      obtain ⟨m, hmem, rfl⟩ := List.mem_map.1 hm
      exact ih m hmem ((forall_record ms).1 hn m hmem) h

/-- In every report a collection may return, a field is valid exactly if its status is `ok`; and so
in its text, which a parser accepts: no object pairs `valid` with a status that contradicts it. -/
theorem collected_valid_iff_ok (arch : ArchType) (options : CollectOptions) (report : Report)
    (h : (collectReport arch options).Returns report) :
    (∀ c path f, (report.system.nodeOf c).HasField path f → (f.valid = true ↔ f.status = .ok)) ∧
    ∃ tree, parse report.toJson = some tree ∧
      ∀ members v s, tree.HasObject members → (bytes "valid", Json.bool v) ∈ members →
        (bytes "status", Json.string s) ∈ members → (v = true ↔ s = "ok") := by
  obtain ⟨-, hinfo⟩ := collectReport_returns h
  have hfields := collected_fields hinfo
  refine ⟨hfields, report.node.json, ?_, fun members v s hobj hvalid hstatus => ?_⟩
  · rw [report.toJson_eq_render, parse_render]
  · have hnode : report.node.Forall fun _ f => f.valid = true ↔ f.status = .ok := by
      have hdata : (Node.record report.data).Forall fun _ f => f.valid = true ↔ f.status = .ok := by
        refine (Node.forall_record _).2 fun m hm => ?_
        obtain ⟨c, -, rfl⟩ := List.mem_map.1 hm
        exact hfields c
      have hnames : (Node.list (report.categories.selected.map fun c => .text c.name)).Forall
          fun _ f => f.valid = true ↔ f.status = .ok :=
        Node.forall_list_map _ _ (fun c _ => Node.forall_text _) fun _ _ _ => id
      simp only [Report.node, Node.forall_record, List.forall_mem_cons, Node.forall_text]
      exact ⟨trivial, by simp, hnames, (Node.forall_record _).1 hdata, by simp⟩
    obtain ⟨f, hf, rfl, rfl⟩ := Node.hasObject_json hnode hobj hvalid hstatus
    rw [hf, statusCode_eq_ok]

theorem collected_valid_iff_ok_failing :
    (∀ c path f, (((collectReport .x86 {}).run Env.failing).system.nodeOf c).HasField path f →
      (f.valid = true ↔ f.status = .ok)) ∧
    ∃ tree, parse ((collectReport .x86 {}).run Env.failing).toJson = some tree ∧
      ∀ members v s, tree.HasObject members → (bytes "valid", Json.bool v) ∈ members →
        (bytes "status", Json.string s) ∈ members → (v = true ↔ s = "ok") :=
  collected_valid_iff_ok .x86 {} _ (Program.returns_run _ _)

/-! ## Confinement -/

/-- Every path a collection gives to the file system is a configured root, the empty root counting
as `/`, followed by a remainder that never climbs above it. -/
theorem collected_path_within (arch : ArchType) (options : CollectOptions) (call : Primitive)
    (h : (collect arch options).Issues call) (path : Bytes) (hpath : call.path? = some path) :
    ∃ root ∈ options.roots, ∃ rest depth, path = effectiveRoot root ++ rest ∧
      (rest = [] ∨ rest.head? = some 47 ∨ (effectiveRoot root).getLast? = some 47) ∧
      walk 0 (components rest) = some depth := by
  obtain ⟨c, -, hcall⟩ := (collect_guarded arch options).issues h
  have hunder : Under options 0 path := by
    rcases hcall with hfile | hhost
    · cases call <;> cases hpath
      all_goals first | exact hfile.1 | exact hfile
    · cases call <;> cases hpath
      all_goals exact absurd hhost id
  obtain ⟨root, hroot, rest, depth, hrest, hsep, hwalk, -⟩ := hunder
  exact ⟨root, hroot, rest, depth, hrest, hsep, hwalk⟩

theorem collected_path_within_cpuinfo :
    ∃ root ∈ ({ categories := .isa } : CollectOptions).roots, ∃ rest depth,
      bytes "/proc/cpuinfo" = effectiveRoot root ++ rest ∧
      (rest = [] ∨ rest.head? = some 47 ∨ (effectiveRoot root).getLast? = some 47) ∧
      walk 0 (components rest) = some depth :=
  collected_path_within .x86 { categories := .isa } (.openFile "/proc/cpuinfo")
    (Program.Issues.here _ _) "/proc/cpuinfo" rfl

/-! ## The sections that are not selected -/

/-- Equal texts of whole records have equal sections as trees. -/
theorem SystemInfo.nodeOf_json_eq {info info' : SystemInfo} (h : info.toJson = info'.toJson)
    (c : Category) : (info.nodeOf c).json = (info'.nodeOf c).json := by
  rw [info.toJson_eq_render, info'.toJson_eq_render] at h
  have hnode := render_injective h
  simp only [SystemInfo.node, Node.json_record, List.map_map, Json.object.injEq] at hnode
  have hc := List.map_inj_left.1 hnode c c.mem_all
  exact (Prod.mk.inj hc).2

theorem fresh_cpu_json {arch arch' : ArchType}
    (h : ((SystemInfo.fresh arch).nodeOf .cpu).json = ((SystemInfo.fresh arch').nodeOf .cpu).json) :
    arch.toString = arch'.toString := by
  simp only [SystemInfo.nodeOf, SystemInfo.sectionOf, Category.node, CpuInfo.node, Node.json_record,
    List.map_cons, Json.object.injEq] at h
  simpa [SystemInfo.fresh] using (List.cons.inj h).1

/-- The sections that are not selected are in their default state, and the text of the whole record
depends only on the options and the environment, exactly if the processor section is selected: its
architecture is the one member that is not initialized. -/
theorem unselected_initial_iff (options : CollectOptions) :
    ((∀ arch info, (collectSystem arch options).Returns info →
        ∀ c, ¬ options.categories.Selects c → (info.nodeOf c).Initial) ↔
      options.categories.Selects .cpu) ∧
    ∀ env : Env,
      (∀ arch arch', ((collectSystem arch options).run env).toJson =
        ((collectSystem arch' options).run env).toJson) ↔ options.categories.Selects .cpu := by
  have hcpu : ∀ env : Env, ¬ options.categories.Selects .cpu → ∀ arch,
      ((collectSystem arch options).run env).nodeOf .cpu =
        (SystemInfo.fresh arch).nodeOf .cpu := by
    intro env hnot arch
    rw [SystemInfo.nodeOf, collectSystem, run_collect_sectionOf, if_neg hnot]
    rfl
  refine ⟨⟨fun h => ?_, fun hsel arch info hinfo c hc => ?_⟩, fun env => ⟨fun h => ?_, ?_⟩⟩
  · by_contra hnot
    have hinitial := h .x86 _ (Program.returns_run Env.failing _) .cpu hnot
    rw [hcpu _ hnot, fresh_initial_iff] at hinitial
    exact absurd (hinitial rfl) (by decide)
  · have hsection := (collect_guarded arch options).returns hinfo c
    rw [if_neg hc] at hsection
    rw [SystemInfo.nodeOf, hsection]
    refine (fresh_initial_iff arch c).2 ?_
    rintro rfl
    exact absurd hsel hc
  · by_contra hnot
    have hjson := SystemInfo.nodeOf_json_eq (h .x86 .arm) .cpu
    rw [hcpu _ hnot, hcpu _ hnot] at hjson
    exact absurd (fresh_cpu_json hjson) (by decide)
  · intro hsel arch arch'
    refine congrArg SystemInfo.toJson (SystemInfo.ext_sections fun c => ?_)
    rw [collectSystem, collectSystem, run_collect_sectionOf, run_collect_sectionOf]
    split
    · rfl
    · rename_i hc
      refine fresh_sectionOf_eq ?_ arch arch'
      rintro rfl
      exact hc hsel

theorem unselected_initial_cpu :
    (∀ arch info, (collectSystem arch { categories := .cpu }).Returns info →
      ∀ c, ¬ CollectCategory.cpu.Selects c → (info.nodeOf c).Initial) ∧
    ∀ arch arch', ((collectSystem arch { categories := .cpu }).run Env.failing).toJson =
      ((collectSystem arch' { categories := .cpu }).run Env.failing).toJson :=
  ⟨(unselected_initial_iff { categories := .cpu }).1.2 (by decide),
    ((unselected_initial_iff { categories := .cpu }).2 Env.failing).2 (by decide)⟩

/-- A mask without the processor leaks what the storage held. -/
theorem unselected_arch_leaks :
    ¬ CollectCategory.os.Selects .cpu ∧
    ¬ (((collectSystem .x86 { categories := .os }).run Env.failing).nodeOf .cpu).Initial ∧
    ((collectSystem .x86 { categories := .os }).run Env.failing).toJson ≠
      ((collectSystem .arm { categories := .os }).run Env.failing).toJson := by
  have hnot : ¬ CollectCategory.os.Selects .cpu := by decide
  have hcpu : ∀ arch, ((collectSystem arch { categories := .os }).run Env.failing).nodeOf .cpu =
      (SystemInfo.fresh arch).nodeOf .cpu := by
    intro arch
    rw [SystemInfo.nodeOf, collectSystem, run_collect_sectionOf, if_neg hnot]
    rfl
  refine ⟨hnot, ?_, fun h => ?_⟩
  · rw [hcpu, fresh_initial_iff]
    exact fun h => absurd (h rfl) (by decide)
  · have hjson := SystemInfo.nodeOf_json_eq h .cpu
    rw [hcpu, hcpu] at hjson
    exact absurd (fresh_cpu_json hjson) (by decide)

end Archspec
