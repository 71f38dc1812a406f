import Archspec.CommandLines
import Archspec.Lib.Lookup

/-!
# The text report as a view of the JSON report

`treeText` writes the text of a report from the tree of its JSON text alone, with lookups in the
tree.  `text_of_json` says that this is what the tool prints: on any machine and with any accepted
options, the output with `--format text` is the view of the output with `--json`.  A program that
has the JSON report has everything the text report says.
-/

namespace Archspec

open Lib Json Program

/-! ## The view -/

/-- The text of the value of a field. -/
def valueView : Json → Bytes
  | .string text => text
  | .number mantissa _ => decimalInt mantissa
  | _ => []

/-- The text of a field: its value when it has one, its status otherwise. -/
def fieldView (field : Json) : Bytes :=
  match field.get "value" with
  | some value => valueView value
  | none => "unavailable (" ++ ((field.get "status").getD .null).text ++ ")"

/-- One line of a section. -/
def lineView (label text : Bytes) : Bytes := "  " ++ label ++ ": " ++ text ++ "\n"

/-- The lines of a section, from their labels and the keys of their fields. -/
def linesView (lines : List (Bytes × Bytes)) (s : Json) : Bytes :=
  lines.flatMap fun line => lineView line.1 (fieldView ((s.get line.2).getD .null))

/-- The section of a category in the tree of a report. -/
def sectionTree (tree : Json) (c : Category) : Option Json := (tree.get "data").bind (get c.name)

def sectionView (tree : Json) (c : Category) (view : Json → Bytes) : Bytes :=
  (sectionTree tree c).elim [] view

/-- The number of items behind a key. -/
def countView (key : Bytes) (s : Json) : Bytes := decimal ((s.get key).getD .null).items.length

/-- The text report of the tree of a JSON report. -/
def treeText (tree : Json) : Bytes :=
  "ArchSpec Inspect " ++ (((tree.get "producer").bind (get "version")).getD .null).text ++ "\n" ++
  sectionView tree .os (fun s => "\nOS\n" ++
    linesView [("kernel", "kernel_name"), ("kernel release", "kernel_release"),
      ("distribution", "distro_name"), ("hostname", "hostname")] s) ++
  sectionView tree .cpu (fun s => "\nCPU\n" ++
    lineView "architecture" ((s.get "arch").getD .null).text ++
    linesView [("model", "model_name"), ("online CPUs", "online_cpu_count"),
      ("sockets", "sockets"), ("cores per socket", "cores_per_socket"),
      ("threads per core", "threads_per_core")] s) ++
  sectionView tree .memory (fun s => "\nMemory\n" ++
    linesView [("total KiB", "total_kb"), ("available KiB", "available_kb")] s ++
    lineView "NUMA nodes" (countView "numa_nodes" s)) ++
  ([(.cache, "cache entries"), (.pci, "PCI devices"), (.gpu, "GPUs"), (.block, "block devices"),
    (.net, "network interfaces"), (.thermal, "thermal zones")] : List (Category × Bytes)).flatMap
      fun count => sectionView tree count.1 fun s =>
        "\n" ++ count.2 ++ ": " ++ countView "entries" s ++ "\n"

/-! ## Fields and sections -/

section Fields

/-- A line that the tool prints for a field, from the tree of the field. -/
theorem lineView_field {α : Type} [Printed α] (f : Field α) (toAny : Field α → AnyField)
    (hvalid : (toAny f).valid = f.valid) (hstatus : (toAny f).status = f.status)
    (hvalue : valueView (toAny f).valueJson = Printed.text f.value) (label : Bytes) :
    lineView label (fieldView (toAny f).json) = fieldText label f := by
  rw [fieldText, AnyField.json, hvalid, hstatus, lineView, fieldView]
  cases hf : f.valid
  · simp +decide only [get_object_cons, get_object_nil, List.cons_append, List.nil_append,
      if_true, if_false, Option.getD_some, text_string, List.append_assoc]
  · simp +decide only [get_object_cons, get_object_nil, List.cons_append, List.nil_append,
      if_true, if_false, hvalue, List.append_assoc]

theorem lineView_string (f : StringField) (label : Bytes) :
    lineView label (fieldView (AnyField.string f).json) = fieldText label f :=
  lineView_field f .string rfl rfl rfl label

theorem lineView_u64 (f : U64Field) (label : Bytes) :
    lineView label (fieldView (AnyField.u64 f).json) = fieldText label f := by
  refine lineView_field f .u64 rfl rfl ?_ label
  show decimalInt f.value.toNat = decimal f.value.toNat
  rw [decimalInt, if_neg (by omega), Int.natAbs_natCast]

end Fields

/-- The section of a category in the tree of a report: there when the category is selected. -/
theorem sectionTree_report (report : Report) (c : Category) :
    sectionTree report.node.json c =
      if report.categories.Selects c then some (report.system.nodeOf c).json else none := by
  rw [Report.node_json, Report.data, List.map_map, sectionTree, reportTree]
  simp +decide only [get_object_cons, if_true, if_false, Option.bind_some]
  have hget := get_object_map (fun _ _ => Category.name_injective)
    (fun c => (report.system.nodeOf c).json) report.categories.selected c
  simp only [CollectCategory.mem_selected] at hget
  exact hget

theorem sectionView_report (report : Report) (c : Category) {view : Json → Bytes} {text : Bytes}
    (h : view (report.system.nodeOf c).json = text) :
    sectionView report.node.json c view = sectionText report c.flag text := by
  rw [sectionView, sectionTree_report, sectionText]
  show _ = if report.categories.Selects c then text else []
  split
  · exact h
  · rfl

/-- The number of entries of a section that is a list. -/
theorem countView_entries {key : Bytes} {s : Json} {entries : List Json}
    (h : s.get key = some (.array entries)) : countView key s = decimal entries.length := by
  rw [countView, h]
  rfl

/-- The lines of a section are those of its fields. -/
theorem linesView_cons (label key : Bytes) (lines : List (Bytes × Bytes)) (s : Json) :
    linesView ((label, key) :: lines) s =
      lineView label (fieldView ((s.get key).getD .null)) ++ linesView lines s := rfl

theorem lineView_architecture (text : Bytes) :
    lineView "architecture" text = "  architecture: " ++ text ++ "\n" := by
  have hlabel : bytes "  " ++ bytes "architecture" ++ bytes ": " = "  architecture: " := by decide
  rw [lineView, hlabel]

section Sections

variable (report : Report)

theorem osView_report :
    sectionView report.node.json .os (fun s => "\nOS\n" ++
      linesView [("kernel", "kernel_name"), ("kernel release", "kernel_release"),
        ("distribution", "distro_name"), ("hostname", "hostname")] s) =
    sectionText report .os
      ("\nOS\n" ++ fieldText "kernel" report.system.osInfo.kernelName ++
        fieldText "kernel release" report.system.osInfo.kernelRelease ++
        fieldText "distribution" report.system.osInfo.distroName ++
        fieldText "hostname" report.system.osInfo.hostname) := by
  apply sectionView_report report .os
  show _ ++ linesView _ report.system.osInfo.node.json = _
  simp +decide only [linesView_cons, OsInfo.node, Node.json_record, Node.json_field, List.map_cons,
    List.map_nil, get_object_cons, if_true, if_false, Option.getD_some, lineView_string,
    List.append_assoc]
  rw [linesView, List.flatMap_nil, List.append_nil]

theorem cpuView_report :
    sectionView report.node.json .cpu (fun s => "\nCPU\n" ++
      lineView "architecture" ((s.get "arch").getD .null).text ++
      linesView [("model", "model_name"), ("online CPUs", "online_cpu_count"),
        ("sockets", "sockets"), ("cores per socket", "cores_per_socket"),
        ("threads per core", "threads_per_core")] s) =
    sectionText report .cpu
      ("\nCPU\n" ++ "  architecture: " ++ report.system.cpuInfo.arch.toString ++ "\n" ++
        fieldText "model" report.system.cpuInfo.modelName ++
        fieldText "online CPUs" report.system.cpuInfo.onlineCpuCount ++
        fieldText "sockets" report.system.cpuInfo.sockets ++
        fieldText "cores per socket" report.system.cpuInfo.coresPerSocket ++
        fieldText "threads per core" report.system.cpuInfo.threadsPerCore) := by
  apply sectionView_report report .cpu
  show _ ++ lineView _ ((report.system.cpuInfo.node.json.get "arch").getD .null).text ++
    linesView _ report.system.cpuInfo.node.json = _
  simp +decide only [linesView_cons, CpuInfo.node, Node.json_record, Node.json_field,
    Node.json_text, List.map_cons, List.map_nil, get_object_cons, if_true, if_false,
    Option.getD_some, text_string, lineView_architecture, lineView_string, lineView_u64,
    List.append_assoc]
  rw [linesView, List.flatMap_nil, List.append_nil]

theorem memoryView_report (h : report.system.memoryInfo.numaNodes.length < 2 ^ 64) :
    sectionView report.node.json .memory (fun s => "\nMemory\n" ++
      linesView [("total KiB", "total_kb"), ("available KiB", "available_kb")] s ++
      lineView "NUMA nodes" (countView "numa_nodes" s)) =
    sectionText report .memory
      ("\nMemory\n" ++ fieldText "total KiB" report.system.memoryInfo.totalKb ++
        fieldText "available KiB" report.system.memoryInfo.availableKb ++
        fieldText "NUMA nodes"
          (Field.ofValue (UInt64.ofNat report.system.memoryInfo.numaNodes.length))) := by
  apply sectionView_report report .memory
  show _ ++ linesView _ report.system.memoryInfo.node.json ++
    lineView _ (countView _ report.system.memoryInfo.node.json) = _
  have hcount : countView "numa_nodes" report.system.memoryInfo.node.json =
      decimal report.system.memoryInfo.numaNodes.length := by
    have hget : report.system.memoryInfo.node.json.get "numa_nodes" =
        some (.array ((report.system.memoryInfo.numaNodes.map (·.node)).map Node.json)) := by
      simp +decide only [MemoryInfo.node, Node.json_record, Node.json_list, List.map_cons,
        get_object_cons, if_true, if_false]
    rw [countView_entries hget, List.length_map, List.length_map]
  have hnodes : lineView "NUMA nodes" (decimal report.system.memoryInfo.numaNodes.length) =
      fieldText "NUMA nodes"
        (Field.ofValue (UInt64.ofNat report.system.memoryInfo.numaNodes.length)) := by
    rw [lineView, fieldText, Field.valid_ofValue, if_pos rfl]
    show _ = _ ++ decimal (UInt64.ofNat _).toNat ++ _
    rw [UInt64.toNat_ofNat_of_lt' h]
  rw [hcount, hnodes]
  simp +decide only [linesView_cons, MemoryInfo.node, Node.json_record, Node.json_field,
    List.map_cons, get_object_cons, if_true, if_false, Option.getD_some, lineView_u64,
    List.append_assoc]
  rw [linesView, List.flatMap_nil, List.nil_append]

/-- A section that is a list of entries. -/
theorem entriesView_report (c : Category) {label : Bytes} {entries : List Node}
    (h : report.system.nodeOf c = .record [("entries", .list entries)]) :
    sectionView report.node.json c
        (fun s => "\n" ++ label ++ ": " ++ countView "entries" s ++ "\n") =
      sectionText report c.flag (countText label entries.length) := by
  apply sectionView_report report c
  have hcount : countView "entries" (report.system.nodeOf c).json = decimal entries.length := by
    have hget : (report.system.nodeOf c).json.get "entries" =
        some (.array (entries.map Node.json)) := by
      rw [h, Node.json_record, List.map_cons, get_object_cons, if_pos rfl, Node.json_list]
    rw [countView_entries hget, List.length_map]
  rw [hcount]
  rfl

end Sections

/-- The text of a report is the view of its tree. -/
theorem reportText_eq_treeText (report : Report)
    (h : report.system.memoryInfo.numaNodes.length < 2 ^ 64) :
    reportText report = treeText report.node.json := by
  have hversion : (((report.node.json.get "producer").bind (get "version")).getD .null).text =
      version := by
    rw [Report.node_json, reportTree]
    simp +decide only [get_object_cons, if_true, if_false, Option.bind_some, Option.getD_some,
      text_string]
  rw [treeText, osView_report, cpuView_report, memoryView_report report h, hversion]
  simp only [List.flatMap_cons, List.flatMap_nil, List.append_nil]
  rw [entriesView_report report .cache (CacheList.node.eq_1 _),
    entriesView_report report .pci (PciDeviceList.node.eq_1 _),
    entriesView_report report .gpu (GpuList.node.eq_1 _),
    entriesView_report report .block (BlockDeviceList.node.eq_1 _),
    entriesView_report report .net (NetInterfaceList.node.eq_1 _),
    entriesView_report report .thermal (ThermalInfo.node.eq_1 _)]
  simp only [List.length_map, reportText, List.append_assoc]
  rfl

/-! ## The two formats of the tool -/

/-- A directory has fewer than `2 ^ 63` entries, and so has the list of NUMA nodes. -/
theorem length_numaNodes (env : Env) (arch : ArchType) (options : CollectOptions) :
    ((collectReport arch options).run env).system.memoryInfo.numaNodes.length < 2 ^ 64 := by
  have hnames : ∀ path, ((listDir path).run env).length < 2 ^ 63 := by
    intro path
    rw [listDir, run_bind, run_call]
    cases hlisting : env (.listDirectory path) with
    | none => exact Nat.two_pow_pos 63
    | some listing =>
      show (listing.entries.insertionSort _).length < _
      rw [List.length_insertionSort]
      exact listing.length_lt
  have hcollected : ((collectMemory options).run env).numaNodes.length < 2 ^ 63 := by
    have hnodes : ((collectMemory options).run env).numaNodes =
        (collectNumaNodes options).run env := by
      simp only [collectMemory, run_bind, run_pure]
    rw [hnodes, collectNumaNodes, run_bind, run_gather]
    exact (List.length_filterMap_le _ _).trans_lt (hnames _)
  have hsection := run_collect_sectionOf env options arch .memory
  rw [run_collectReport]
  show (((collect arch options).run env).sectionOf .memory).numaNodes.length < _
  rw [hsection]
  split
  · show ((collectMemory options).run env).numaNodes.length < _
    omega
  · exact Nat.two_pow_pos 64

section Formats

variable {program : Bytes} {args : List Bytes} {settings : Settings}

/-- More options behind an accepted vector. -/
theorem parseArguments_append {more : List Bytes}
    (h : parseArguments (program :: args) = .ok settings)
    (hmore : ∀ item ∈ reading more, ¬ item.Ends ∧ ¬ item.Wrong) :
    parseArguments (program :: (args ++ more)) =
      .ok ((reading more).foldl Settings.update settings) := by
  obtain ⟨hgood, rfl⟩ := parseArguments_eq_ok_iff.1 h
  have hreading : reading (args ++ more) = reading args ++ reading more :=
    reading_append more fun item hitem => complete_of_reading hitem (hgood item hitem).2
  rw [parseArguments_eq_ok_iff, hreading, List.foldl_append]
  exact ⟨List.forall_mem_append.2 ⟨hgood, hmore⟩, rfl⟩

theorem parseArguments_json (h : parseArguments (program :: args) = .ok settings) :
    parseArguments (program :: (args ++ [bytes "--json"])) = .ok { settings with format := "json" } := by
  have hmore : ∀ item ∈ reading ["--json"], ¬ item.Ends ∧ ¬ item.Wrong := by
    simp +decide [reading, Item.Ends, Item.Wrong]
  rw [parseArguments_append h hmore]
  rfl

theorem parseArguments_text (h : parseArguments (program :: args) = .ok settings) :
    parseArguments (program :: (args ++ [bytes "--format", "text"])) =
      .ok { settings with format := "text" } := by
  have hmore : ∀ item ∈ reading ["--format", "text"], ¬ item.Ends ∧ ¬ item.Wrong := by
    simp +decide [reading, Item.Ends, Item.Wrong]
  rw [parseArguments_append h hmore]
  rfl

/-- On any machine and with any accepted options, the text report is the view of the JSON report:
what the tool prints with `--format text` is computed by `treeText` from the tree of what it prints
with `--json`. -/
theorem text_of_json (arch : ArchType) (h : parseArguments (program :: args) = .ok settings)
    (env : Env) :
    ∃ text tree, parse text = some tree ∧
      (main arch (program :: (args ++ [bytes "--json"]))).run env =
        { exitCode := 0, stdout := text ++ "\n" } ∧
      (main arch (program :: (args ++ [bytes "--format", "text"]))).run env =
        { exitCode := 0, stdout := treeText tree } := by
  refine ⟨((collectReport arch settings.options).run env).toJson,
    ((collectReport arch settings.options).run env).node.json, ?_, ?_, ?_⟩
  · rw [Report.toJson_eq_render, parse_render]
  · rw [main, parseArguments_json h]
    simp only [run_bind, run_pure, Settings.print, if_true]
  · rw [main, parseArguments_text h]
    have htext : bytes "text" ≠ "json" := by decide
    simp only [run_bind, run_pure, Settings.print, if_neg htext]
    rw [reportText_eq_treeText _ (length_numaNodes env arch settings.options)]

/-- A machine with a size of the memory and a thermal zone. -/
def printedMachine : Env :=
  .ofTree [("/proc/meminfo",
        { content := bytes "MemTotal: 32590124 kB\nMemAvailable: 20481024 kB\n" }),
      ("/sys/class/thermal/thermal_zone3/type", { content := bytes "acpitz\n" })]
    [("/sys/class/thermal",
      { entries := [⟨"thermal_zone3", by decide, by decide, by decide, by decide⟩] })] []

/-- What is printed there is the view of a tree that the tool prints as well. -/
theorem text_of_json_memory :
    ((main .unknown ["archspec-inspect", "--categories", "memory,thermal", "--format", "text"]).run
        printedMachine).stdout =
      bytes "ArchSpec Inspect 0.2.0\n\nMemory\n  total KiB: 32590124\n" ++
        "  available KiB: 20481024\n  NUMA nodes: 0\n\nthermal zones: 1\n" ∧
    ∃ text tree, parse text = some tree ∧
      (main .unknown ["archspec-inspect", "--categories", "memory,thermal", "--json"]).run
        printedMachine = { exitCode := 0, stdout := text ++ "\n" } ∧
      (main .unknown ["archspec-inspect", "--categories", "memory,thermal", "--format", "text"]).run
        printedMachine = { exitCode := 0, stdout := treeText tree } :=
  ⟨by decide +kernel, text_of_json .unknown
    (show parseArguments ("archspec-inspect" :: [bytes "--categories", "memory,thermal"]) =
      .ok { options := { categories := .memory ||| .thermal, includeSensitive := false } } from rfl)
    printedMachine⟩

end Formats

end Archspec
