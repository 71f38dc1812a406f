import Archspec.CategoryLists
import Archspec.Encoding

/-!
# Options that hide a part of the report

Two options decide what a report shows, and both are projections of the report that shows
everything, on the same machine.

* `redacted_is_projection`: without sensitive data, a report is the full one with the sensitive
  fields overwritten (`Report.redact`), and nothing else changed.
* `restricted_is_projection`: the tree of a report under a mask is the tree of the report under all
  categories, its list of categories and its data cut down to those of the mask.  In particular no
  section depends on which others are selected.
-/

namespace Archspec

open Lib Json Program

/-! ## Redaction -/

/-- The sensitive fields overwritten. -/
def OsInfo.redact (info : OsInfo) : OsInfo :=
  { info with hostname := .unavailable .redacted, cmdline := .unavailable .redacted }

def NetInterfaceInfo.redact (info : NetInterfaceInfo) : NetInterfaceInfo :=
  { info with
    macAddress := .unavailable .redacted
    ipv4Addresses := .unavailable .redacted
    ipv6Addresses := .unavailable .redacted }

def NetInterfaceList.redact (list : NetInterfaceList) : NetInterfaceList :=
  ⟨list.entries.map (·.redact)⟩

/-- The section of a category without its sensitive fields. -/
def Category.redact : (c : Category) → c.Section → c.Section
  | os, s => s.redact
  | net, s => s.redact
  | cpu, s | isa, s | cache, s | memory, s | pci, s | gpu, s | perf, s | block, s | thermal, s
  | power, s | virtualization, s | platform, s => s

/-- A report without its sensitive fields; sections that are not selected stay as they are. -/
def Report.redact (report : Report) : Report :=
  { report with
    system := Category.all.foldl (fun info c =>
      if report.categories.Selects c then info.assign c (c.redact (info.sectionOf c)) else info)
      report.system }

theorem sectionOf_foldl_redact (mask : CollectCategory) (c : Category) (cs : List Category)
    (hcs : cs.Nodup) (info : SystemInfo) :
    (cs.foldl (fun info c =>
        if mask.Selects c then info.assign c (c.redact (info.sectionOf c)) else info)
      info).sectionOf c =
      if c ∈ cs ∧ mask.Selects c then c.redact (info.sectionOf c) else info.sectionOf c := by
  induction cs generalizing info with
  | nil => simp
  | cons d cs ih =>
    obtain ⟨hd, hcs⟩ := List.nodup_cons.1 hcs
    rw [List.foldl_cons, ih hcs]
    by_cases hcd : c = d
    · subst hcd
      simp only [hd, false_and, if_false, List.mem_cons_self, true_and]
      split <;> simp
    · have hother : (if mask.Selects d then info.assign d (d.redact (info.sectionOf d))
          else info).sectionOf c = info.sectionOf c := by
        split
        · exact info.sectionOf_assign_of_ne _ hcd
        · rfl
      simp only [List.mem_cons, hcd, false_or, hother]

/-- The sections of a report without sensitive fields. -/
theorem Report.redact_sectionOf (report : Report) (c : Category) :
    report.redact.system.sectionOf c =
      if report.categories.Selects c then c.redact (report.system.sectionOf c)
      else report.system.sectionOf c := by
  rw [Report.redact, sectionOf_foldl_redact _ _ _ (by decide)]
  simp only [Category.mem_all, true_and]

/-- The same options with or without sensitive data. -/
def CollectOptions.withSensitive (options : CollectOptions) (includeSensitive : Bool) :
    CollectOptions := { options with includeSensitive }

section Redaction

variable (env : Env) (options : CollectOptions)

theorem run_collectOs_redact :
    (collectOs (options.withSensitive false)).run env =
      ((collectOs (options.withSensitive true)).run env).redact := by
  simp only [collectOs, run_bind, run_pure]
  rfl

theorem run_netInterface_redact (addresses : AddressMap) (entry : EntryName) :
    (netInterface (options.withSensitive false) addresses entry).run env =
      ((netInterface (options.withSensitive true) addresses entry).run env).map (·.redact) := by
  simp only [netInterface, run_bind, run_ite, run_pure]
  rw [apply_ite (Option.map _)]
  rfl

theorem run_collectNet_redact :
    (collectNet (options.withSensitive false)).run env =
      ((collectNet (options.withSensitive true)).run env).redact := by
  simp only [collectNet, run_bind, run_gather, run_pure, NetInterfaceList.redact,
    List.map_filterMap, run_netInterface_redact]
  rfl

/-- Every collector: only the sensitive fields differ. -/
theorem run_collector_redact (c : Category) :
    (c.collector (options.withSensitive false)).run env =
      c.redact ((c.collector (options.withSensitive true)).run env) := by
  cases c with
  | os => exact run_collectOs_redact env options
  | net => exact run_collectNet_redact env options
  | _ => rfl

/-- A report without sensitive data is the full report of the same machine with the host name, the
kernel command line and the addresses of the interfaces overwritten, and nothing else changed; so is
its text. -/
theorem redacted_is_projection (arch : ArchType) :
    (collectReport arch (options.withSensitive false)).run env =
      ((collectReport arch (options.withSensitive true)).run env).redact ∧
    ((collectReport arch (options.withSensitive false)).run env).toJson =
      ((collectReport arch (options.withSensitive true)).run env).redact.toJson := by
  have hreport : (collectReport arch (options.withSensitive false)).run env =
      ((collectReport arch (options.withSensitive true)).run env).redact := by
    have hsystem : (collect arch (options.withSensitive false)).run env =
        ((collectReport arch (options.withSensitive true)).run env).redact.system := by
      refine SystemInfo.ext_sections fun c => ?_
      rw [Report.redact_sectionOf, run_collectReport, run_collect_sectionOf, run_collect_sectionOf,
        run_collector_redact]
      by_cases hc : options.categories.Selects c
      · exact (if_pos hc).trans ((congrArg _ (if_pos hc).symm).trans (if_pos hc).symm)
      · exact (if_neg hc).trans ((if_neg hc).symm.trans (if_neg hc).symm)
    rw [run_collectReport, hsystem, run_collectReport]
    rfl
  exact ⟨hreport, congrArg Report.toJson hreport⟩

end Redaction

/-! ## Category masks -/

/-- The same options with another mask. -/
def CollectOptions.withCategories (options : CollectOptions) (categories : CollectCategory) :
    CollectOptions := { options with categories }

/-- The tree of a report with this list of categories and these data. -/
def reportTree (categories : List Bytes) (data : List (Bytes × Json)) : Json :=
  .object
    [("schema_version", .string "1.0.0"),
     ("producer", .object [("name", .string "archspec-inspect"), ("version", .string "0.2.0")]),
     ("collected_categories", .array (categories.map .string)),
     ("data", .object data)]

theorem Report.node_json (report : Report) :
    report.node.json = reportTree (report.categories.selected.map Category.name)
      (report.data.map fun m => (m.1, m.2.json)) := by
  simp [Report.node, reportTree, Function.comp_def]

theorem selected_all : CollectCategory.all.selected = Category.all :=
  List.filter_eq_self.2 fun c _ => all_selects c

/-- The name is the one of a category of the mask. -/
def CollectCategory.names (mask : CollectCategory) (name : Bytes) : Bool :=
  mask.selected.any fun c => c.name == name

theorem CollectCategory.names_name (mask : CollectCategory) (c : Category) :
    mask.names c.name = hasCategory mask c.flag := by
  rw [Bool.eq_iff_iff, CollectCategory.names, List.any_eq_true]
  constructor
  · rintro ⟨d, hd, hname⟩
    obtain rfl := Category.name_injective (beq_iff_eq.1 hname)
    exact mask.mem_selected.1 hd
  · exact fun hc => ⟨c, mask.mem_selected.2 hc, beq_self_eq_true _⟩

section Restriction

variable (env : Env) (arch : ArchType) (options : CollectOptions)

/-- The data under a mask, from the sections that the collectors return. -/
theorem run_data (mask : CollectCategory) :
    ((collectReport arch (options.withCategories mask)).run env).data =
      mask.selected.map fun c => (c.name, c.node ((c.collector options).run env)) := by
  rw [Report.data, run_collectReport]
  refine List.map_congr_left fun c hc => ?_
  have hselects : (options.withCategories mask).categories.Selects c := mask.mem_selected.1 hc
  rw [SystemInfo.nodeOf, run_collect_sectionOf, if_pos hselects]
  cases c <;> rfl

/-- The text under a mask is the text of the tree of the selected names and sections. -/
theorem run_toJson (mask : CollectCategory) :
    ((collectReport arch (options.withCategories mask)).run env).toJson =
      (reportTree (mask.selected.map Category.name)
        (mask.selected.map fun c =>
          (c.name, (c.node ((c.collector options).run env)).json))).render := by
  rw [Report.toJson_eq_render, Report.node_json, run_data, run_collectReport, List.map_map]
  rfl

/-- The report under a mask is the report under all categories cut down to the mask: the full text
parses to a tree of names and data, and the text under the mask to the tree of those names and
members that belong to a category of the mask. -/
theorem restricted_is_projection (mask : CollectCategory) :
    ∃ names data,
      parse ((collectReport arch (options.withCategories .all)).run env).toJson =
        some (reportTree names data) ∧
      parse ((collectReport arch (options.withCategories mask)).run env).toJson =
        some (reportTree (names.filter mask.names) (data.filter fun m => mask.names m.1)) := by
  rw [run_toJson, run_toJson, parse_render, parse_render]
  refine ⟨_, _, rfl, ?_⟩
  simp only [selected_all, List.filter_map, Function.comp_def, mask.names_name]
  rfl

end Restriction

end Archspec
