import Archspec.CommandLines
import Archspec.Lib.Lookup

/-!
# The contract of the command line

* `option_order`: the order of options does not matter unless two different ones set the same
  setting (`Item.Conflicts`).
* `capabilities_contract`: what `--capabilities` prints is a JSON document, and the formats and the
  categories it lists are the ones the tool accepts, collects and names in a report.
-/

namespace Archspec

open Lib Json Program

/-! ## The order of options -/

/-- The names of the options that set one setting, for each setting. -/
def settingGroups : List (List Bytes) :=
  [["--json", "--format"], ["--categories"], ["--procfs-root"], ["--sysfs-root"], ["--etc-root"],
    ["--dev-root"], ["--allow-slow"], ["--allow-vendor-libs"], ["--allow-perf"],
    ["--redact", "--include-sensitive"]]

/-- Two options set the same setting. -/
def Item.Conflicts (a b : Item) : Prop := ∃ names ∈ settingGroups, a.name ∈ names ∧ b.name ∈ names

section Order

variable {a b : Item}

/-- One setting behind two options of which at most one sets it. -/
theorem setting_comm (h : ¬ a.Conflicts b) {names : List Bytes} (hnames : names ∈ settingGroups)
    {α : Type} (x y z : α) :
    (if b.name ∈ names then x else if a.name ∈ names then y else z) =
      if a.name ∈ names then y else if b.name ∈ names then x else z := by
  by_cases ha : a.name ∈ names
  · have hb : b.name ∉ names := fun hb => h ⟨names, hnames, ha, hb⟩
    rw [if_neg hb, if_pos ha, if_pos ha]
  · rw [if_neg ha, if_neg ha]

/-- Two options that do not conflict may change places. -/
theorem update_comm (h : a.Conflicts b → a = b) (settings : Settings) :
    (settings.update a).update b = (settings.update b).update a := by
  by_cases hab : a = b
  · rw [hab]
  · have hcomm := fun names hnames => @setting_comm a b (fun hc => hab (h hc)) names hnames
    unfold Settings.update
    dsimp only
    rw [hcomm [bytes "--json", "--format"] (by decide), hcomm [bytes "--categories"] (by decide),
      hcomm [bytes "--procfs-root"] (by decide), hcomm [bytes "--sysfs-root"] (by decide),
      hcomm [bytes "--etc-root"] (by decide), hcomm [bytes "--dev-root"] (by decide),
      hcomm [bytes "--allow-slow"] (by decide), hcomm [bytes "--allow-vendor-libs"] (by decide),
      hcomm [bytes "--allow-perf"] (by decide),
      hcomm [bytes "--redact", "--include-sensitive"] (by decide)]

/-- The order of options does not matter: two vectors whose options are the same up to order, none
of which ends the program, lead to the same exit code and the same output, if no two different
options of them set the same setting. -/
theorem option_order (arch : ArchType) (program : Bytes) {args args' : List Bytes}
    (hperm : (reading args).Perm (reading args')) (hends : ∀ item ∈ reading args, ¬ item.Ends)
    (hconflicts : ∀ a ∈ reading args, ∀ b ∈ reading args, a.Conflicts b → a = b) (env : Env) :
    ((main arch (program :: args)).run env).exitCode =
        ((main arch (program :: args')).run env).exitCode ∧
      ((main arch (program :: args)).run env).stdout =
        ((main arch (program :: args')).run env).stdout := by
  by_cases hwrong : ∃ item ∈ reading args, item.Wrong
  · have hwrong' : ∃ item ∈ reading args', item.Wrong := by
      obtain ⟨item, hitem, hwrong⟩ := hwrong
      exact ⟨item, hperm.mem_iff.1 hitem, hwrong⟩
    have hends' : ∀ item ∈ reading args', ¬ item.Ends := fun item hitem =>
      hends item (hperm.mem_iff.2 hitem)
    obtain ⟨message, h⟩ := parseArguments_wrong program hwrong hends
    obtain ⟨message', h'⟩ := parseArguments_wrong program hwrong' hends'
    rw [main, main, h, h']
    exact ⟨rfl, rfl⟩
  · have hgood : ∀ item ∈ reading args, ¬ item.Ends ∧ ¬ item.Wrong := fun item hitem =>
      ⟨hends item hitem, fun h => hwrong ⟨item, hitem, h⟩⟩
    have hgood' : ∀ item ∈ reading args', ¬ item.Ends ∧ ¬ item.Wrong := fun item hitem =>
      hgood item (hperm.mem_iff.2 hitem)
    have hsettings : (reading args).foldl Settings.update {} =
        (reading args').foldl Settings.update {} :=
      hperm.foldl_eq' (fun a ha b hb settings => update_comm (hconflicts a ha b hb) settings) {}
    have h := (@parseArguments_eq_ok_iff program args _).2 ⟨hgood, rfl⟩
    have h' := (@parseArguments_eq_ok_iff program args' _).2 ⟨hgood', rfl⟩
    rw [main, main, h, h', hsettings]
    exact ⟨rfl, rfl⟩

theorem option_order_json :
    ((main .unknown ["archspec-inspect", "--json", "--allow-perf"]).run Env.failing).exitCode =
        ((main .unknown ["archspec-inspect", "--allow-perf", "--json"]).run Env.failing).exitCode ∧
      ((main .unknown ["archspec-inspect", "--json", "--allow-perf"]).run Env.failing).stdout =
        ((main .unknown ["archspec-inspect", "--allow-perf", "--json"]).run Env.failing).stdout := by
  refine @option_order .unknown "archspec-inspect" ["--json", "--allow-perf"]
    ["--allow-perf", "--json"] (List.Perm.swap _ _ _) ?_ ?_ Env.failing
  · simp +decide [reading, Item.Ends]
  · simp +decide [reading, Item.Conflicts]

end Order

/-! ## The advertised contract -/

/-- The document that `--capabilities` prints. -/
def capabilities : Json :=
  .object
    [("name", .string "archspec-inspect"), ("version", .string version),
     ("report_schema_version", .string reportSchemaVersion),
     ("formats", .array [.string "text", .string "json"]),
     ("categories", .array (cliCategories.map fun entry => .string entry.1)),
     ("safe_by_default", .bool true), ("supports_redaction", .bool true)]

/-- The strings of a list of the document. -/
def advertised (key : Bytes) : List Bytes := ((capabilities.get key).getD .null).items.map Json.text

/-- `print_capabilities` writes the document and a newline. -/
theorem capabilitiesText_eq : capabilitiesText = capabilities.render ++ "\n" := by decide +kernel

theorem advertised_formats : advertised "formats" = [bytes "text", "json"] := by decide +kernel

theorem advertised_categories : advertised "categories" = Category.all.map Category.name := by
  decide +kernel

theorem mem_advertised_categories {name : Bytes} :
    name ∈ advertised "categories" ↔ IsCategory name := by
  rw [advertised_categories, List.mem_map]
  exact ⟨fun ⟨c, _, hc⟩ => ⟨c, hc.symm⟩, fun ⟨c, hc⟩ => ⟨c, c.mem_all, hc.symm⟩⟩

/-- The lists the tool accepts: `all`, and every non-empty list of categories. -/
theorem parseCategories_ok_iff (text : Bytes) :
    (∃ mask, parseCategories text = .ok mask) ↔
      text = "all" ∨ (text ≠ [] ∧ ∀ name ∈ getlines 44 text, IsCategory name) := by
  constructor
  · intro h
    by_cases hall : text = "all"
    · exact .inl hall
    · exact .inr ⟨fun hnil => parseCategories_refused (.inr hnil) h, cliAcceptsList_names h hall⟩
  · rintro (rfl | ⟨hnil, hnames⟩)
    · exact ⟨.all, by decide⟩
    · have hnone : text ≠ "none" := by
        rintro rfl
        exact not_isCategory_none (hnames "none" (by decide))
      have hall : text ≠ "all" := by
        rintro rfl
        exact not_isCategory.2 (hnames "all" (by decide))
      rw [parseCategories_eq hall (not_or.2 ⟨hnone, hnil⟩)]
      exact (selectCategory_step.foldlM_ok_iff _ _).2 hnames

/-- The categories of an accepted list. -/
theorem parseCategories_names {text : Bytes} {mask : CollectCategory}
    (h : parseCategories text = .ok mask) (c : Category) :
    mask.Selects c ↔ text = "all" ∨ c.name ∈ getlines 44 text := by
  by_cases hall : text = "all"
  · subst hall
    cases h
    exact iff_of_true (all_selects c) (.inl rfl)
  · have hwhole : ¬ (text = "none" ∨ text = []) := fun hwhole => parseCategories_refused hwhole ⟨_, h⟩
    rw [parseCategories_eq hall hwhole] at h
    rw [selectCategory_step.foldlM_selects_iff h c, or_iff_right (not_none_selects c),
      or_iff_right hall]
    exact ⟨fun ⟨name, hname, hc⟩ => hc ▸ hname, fun hname => ⟨c.name, hname, rfl⟩⟩

section Tool

variable (arch : ArchType) (program : Bytes)

/-- A vector with one option that consumes a value. -/
theorem exitCode_value {name : Bytes} (hname : name ∈ valueOptions) (value : Bytes) (env : Env) :
    ((main arch [program, name, value]).run env).exitCode = 0 ↔
      ¬ ({ name, value := some value } : Item).Wrong := by
  have hreading : reading [name, value] = [{ name, value := some value }] := by
    rw [reading, if_pos hname, reading]
  have hends : ∀ item ∈ reading [name, value], ¬ item.Ends := by
    rw [hreading, List.forall_mem_singleton]
    exact notMem_endingOptions (List.mem_append_right _ hname)
  by_cases hwrong : ({ name, value := some value } : Item).Wrong
  · obtain ⟨message, h⟩ := parseArguments_wrong program
      (by rw [hreading]; exact ⟨_, List.mem_singleton_self _, hwrong⟩) hends
    rw [main, h]
    exact iff_of_false (show 2 ≠ 0 by decide) (not_not_intro hwrong)
  · have hgood : ∀ item ∈ reading [name, value], ¬ item.Ends ∧ ¬ item.Wrong := by
      rw [hreading, List.forall_mem_singleton] at hends ⊢
      exact ⟨hends, hwrong⟩
    rw [main, parseArguments_eq_ok_iff.2 ⟨hgood, rfl⟩]
    simp only [run_bind, run_pure]
    exact iff_of_true trivial hwrong

theorem exitCode_format (format : Bytes) (env : Env) :
    ((main arch [program, "--format", format]).run env).exitCode = 0 ↔
      format ∈ advertised "formats" := by
  have hname : bytes "--format" ∈ valueOptions ∧ bytes "--format" ≠ "--categories" := by decide
  rw [exitCode_value arch program hname.1, wrong_value_iff hname.1, advertised_formats]
  simp only [hname.2, false_and, or_false, true_and, List.mem_cons, List.not_mem_nil]
  rw [← not_or, not_not]

theorem exitCode_categories (list : Bytes) (env : Env) :
    ((main arch [program, "--categories", list]).run env).exitCode = 0 ↔
      list = "all" ∨ (list ≠ [] ∧ ∀ name ∈ getlines 44 list, name ∈ advertised "categories") := by
  have hname : bytes "--categories" ∈ valueOptions ∧ bytes "--categories" ≠ "--format" := by decide
  rw [exitCode_value arch program hname.1, wrong_value_iff hname.1]
  simp only [hname.2, false_and, false_or, true_and, mem_advertised_categories]
  rw [← parseCategories_ok_iff]
  cases parseCategories list with
  | error message => exact iff_of_false (fun h => h ⟨message, rfl⟩) (fun ⟨_, h⟩ => by cases h)
  | ok mask => exact iff_of_true (fun ⟨_, h⟩ => by cases h) ⟨mask, rfl⟩

/-- The report of an accepted list names the advertised categories that are in the list. -/
theorem main_categories {list : Bytes} {mask : CollectCategory}
    (h : parseCategories list = .ok mask) (env : Env) :
    ∃ data, (main arch [program, "--json", "--categories", list]).run env =
      { exitCode := 0
        stdout := (reportTree ((advertised "categories").filter fun name =>
          list = "all" ∨ name ∈ getlines 44 list) data).render ++ "\n" } := by
  have hgood : ∀ item ∈ reading ["--json", "--categories", list], ¬ item.Ends ∧ ¬ item.Wrong := by
    simp +decide [reading, Item.Ends, Item.Wrong, h]
  have hsettings : (reading ["--json", "--categories", list]).foldl Settings.update {} =
      { options := { categories := mask, includeSensitive := false }, format := "json" } := by
    simp +decide [reading, Settings.update, Item.format, Item.categories, Item.text, h]
    rfl
  have hmain : (main arch [program, "--json", "--categories", list]).run env =
      { exitCode := 0
        stdout := ((collectReport arch (CollectOptions.withCategories
          { includeSensitive := false } mask)).run env).toJson ++ "\n" } := by
    rw [main, parseArguments_eq_ok_iff.2 ⟨hgood, rfl⟩, hsettings]
    simp only [run_bind, run_pure, Settings.print, if_true]
    rfl
  have hnames : mask.selected.map Category.name = (advertised "categories").filter fun name =>
      list = "all" ∨ name ∈ getlines 44 list := by
    rw [advertised_categories, List.filter_map]
    refine congrArg (List.map Category.name) (List.filter_congr fun c _ => ?_)
    rw [Bool.eq_iff_iff, Function.comp_apply, decide_eq_true_iff]
    exact parseCategories_names h c
  rw [hmain, run_toJson, hnames]
  exact ⟨_, rfl⟩

end Tool

/-- What `--capabilities` prints is a JSON document, and the tool keeps what it says: the formats it
lists are the ones that are accepted, the lists of the categories it lists are, with `all`, the
lists that are accepted, and a report names those of the list.  (A comma at the end of a list does
not begin another name.) -/
theorem capabilities_contract (arch : ArchType) (program : Bytes) (env : Env) :
    ((main arch [program, "--capabilities"]).run env =
        { exitCode := 0, stdout := capabilities.render ++ "\n" } ∧
      parse capabilities.render = some capabilities) ∧
    (∀ format, ((main arch [program, "--format", format]).run env).exitCode = 0 ↔
      format ∈ advertised "formats") ∧
    ∀ list,
      (((main arch [program, "--categories", list]).run env).exitCode = 0 ↔
        list = "all" ∨ (list ≠ [] ∧ ∀ name ∈ getlines 44 list, name ∈ advertised "categories")) ∧
      (((main arch [program, "--categories", list]).run env).exitCode = 0 →
        ∃ data, (main arch [program, "--json", "--categories", list]).run env =
          { exitCode := 0
            stdout := (reportTree ((advertised "categories").filter fun name =>
              list = "all" ∨ name ∈ getlines 44 list) data).render ++ "\n" }) := by
  refine ⟨⟨?_, parse_render capabilities⟩, fun format => exitCode_format arch program format env,
    fun list => ⟨exitCode_categories arch program list env, fun hexit => ?_⟩⟩
  · rw [← capabilitiesText_eq]
    rfl
  · rw [exitCode_categories] at hexit
    simp only [mem_advertised_categories] at hexit
    obtain ⟨mask, h⟩ := (parseCategories_ok_iff list).2 hexit
    exact main_categories arch program h env

end Archspec
