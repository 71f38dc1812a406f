import Archspec.Arguments
import Archspec.CategoryLists
import Archspec.Fidelity
import Archspec.Footprint
import Archspec.Projections

/-!
# Writing argument vectors

The way back from options to an argument vector of the tool.  `reading_arguments` and
`arguments_reading` say that the reading of a vector and its writing are inverse to each other, and
`parseArguments_eq_ok_iff` which vectors lead to a collection and with which settings.

`CollectOptions.commandLine` writes options as a vector, and `main_commandLine` says what the tool
prints for it.
-/

namespace Archspec

open Lib Program

/-! ## Items as arguments -/

/-- The arguments an item is read from. -/
def Item.arguments (item : Item) : List Bytes := item.name :: item.value.toList

/-- The item has a value when its option consumes one. -/
def Item.Complete (item : Item) : Prop := item.value.isSome = true ↔ item.name ∈ valueOptions

instance (item : Item) : Decidable item.Complete := inferInstanceAs (Decidable (_ ↔ _))

/-- The reading gives back the items that were written. -/
theorem reading_arguments {items : List Item} (h : ∀ item ∈ items, item.Complete) :
    reading (items.flatMap Item.arguments) = items := by
  induction items with
  | nil => rfl
  | cons item items ih =>
    obtain ⟨hitem, hitems⟩ := List.forall_mem_cons.1 h
    rw [List.flatMap_cons, Item.arguments, List.cons_append]
    obtain ⟨name, value⟩ := item
    cases value with
    | none =>
      have hname : name ∉ valueOptions := fun hmem => by simpa using hitem.2 hmem
      rw [reading.eq_def]
      simp only [hname, if_false, Option.toList_none, List.nil_append, ih hitems]
    | some value =>
      have hname : name ∈ valueOptions := hitem.1 rfl
      rw [reading.eq_def]
      simp only [hname, if_true, Option.toList_some, List.singleton_append, ih hitems]

/-- The writing gives back the arguments that were read. -/
theorem arguments_reading (args : List Bytes) : (reading args).flatMap Item.arguments = args := by
  induction args using reading.induct with
  | case1 => rfl
  | case2 name hname => simp [reading, hname, Item.arguments]
  | case3 name hname value rest ih => simp [reading, hname, Item.arguments, ih]
  | case4 name rest hname ih =>
    rw [reading.eq_def]
    simp [hname, Item.arguments, ih]

/-- Only the options that consume a value are read with one. -/
theorem name_of_reading (args : List Bytes) :
    ∀ item ∈ reading args, item.value.isSome = true → item.name ∈ valueOptions := by
  induction args using reading.induct with
  | case1 => exact fun item hitem => absurd hitem List.not_mem_nil
  | case2 name hname => simp [reading, hname]
  | case3 name hname value rest ih =>
    rw [reading, if_pos hname]
    exact List.forall_mem_cons.2 ⟨fun _ => hname, ih⟩
  | case4 name rest hname ih =>
    rw [reading.eq_def]
    simp only [hname, if_false]
    exact List.forall_mem_cons.2 ⟨fun h => by simp at h, ih⟩

/-- An item that was read and is not wrong is complete. -/
theorem complete_of_reading {args : List Bytes} {item : Item} (hitem : item ∈ reading args)
    (hwrong : ¬ item.Wrong) : item.Complete := by
  refine ⟨name_of_reading args item hitem, fun hname => ?_⟩
  by_contra hvalue
  rw [Option.not_isSome_iff_eq_none] at hvalue
  exact hwrong (.inr (.inl ⟨hname, hvalue⟩))

/-- The reading of a vector that ends with a whole option. -/
theorem reading_append {args : List Bytes} (more : List Bytes)
    (h : ∀ item ∈ reading args, item.Complete) :
    reading (args ++ more) = reading args ++ reading more := by
  induction args using reading.induct with
  | case1 => rfl
  | case2 name hname =>
    rw [reading, if_pos hname] at h
    have hvalue := (h _ (List.mem_singleton_self _)).2 hname
    simp at hvalue
  | case3 name hname value rest ih =>
    rw [reading, if_pos hname] at h ⊢
    rw [List.cons_append, List.cons_append, reading, if_pos hname,
      ih (List.forall_mem_cons.1 h).2, List.cons_append]
  | case4 name rest hname ih =>
    rw [reading.eq_def] at h
    simp only [hname, if_false] at h
    rw [List.cons_append, reading.eq_def, reading.eq_def (name :: rest)]
    simp only [hname, if_false, ih (List.forall_mem_cons.1 h).2, List.cons_append]

/-- A vector written from such items asks for a collection with their settings. -/
theorem parseArguments_arguments {items : List Item} (program : Bytes)
    (hcomplete : ∀ item ∈ items, item.Complete) (h : ∀ item ∈ items, ¬ item.Ends ∧ ¬ item.Wrong) :
    parseArguments (program :: items.flatMap Item.arguments) =
      .ok (items.foldl Settings.update {}) := by
  have hreading : reading ((program :: items.flatMap Item.arguments).drop 1) = items :=
    reading_arguments hcomplete
  have hturns : (program :: items.flatMap Item.arguments).length ≤
      1 + (program :: items.flatMap Item.arguments).length := by omega
  have hloop := loop_collects _ hturns {} (by rwa [hreading])
  rwa [hreading] at hloop

/-- Exactly the vectors of such items lead to a collection. -/
theorem parseArguments_eq_ok_iff {program : Bytes} {args : List Bytes} {settings : Settings} :
    parseArguments (program :: args) = .ok settings ↔
      (∀ item ∈ reading args, ¬ item.Ends ∧ ¬ item.Wrong) ∧
        settings = (reading args).foldl Settings.update {} := by
  have hloop : Looped {} (reading args) (parseArguments (program :: args)) :=
    loop_spec (program :: args) (show _ ≤ 1 + _ by omega) {}
  constructor
  · intro h
    rw [h] at hloop
    cases hloop with
    | collects hitems => exact ⟨hitems, rfl⟩
  · rintro ⟨hitems, rfl⟩
    have hcomplete : ∀ item ∈ reading args, item.Complete := fun item hitem =>
      complete_of_reading hitem (hitems item hitem).2
    have h := parseArguments_arguments program hcomplete hitems
    rwa [arguments_reading] at h

/-- A vector with a wrong item and none that ends the program is refused. -/
theorem parseArguments_wrong (program : Bytes) {args : List Bytes}
    (hwrong : ∃ item ∈ reading args, item.Wrong) (hends : ∀ item ∈ reading args, ¬ item.Ends) :
    ∃ message, parseArguments (program :: args) = .error (usageError message) := by
  have hloop : Looped {} (reading args) (parseArguments (program :: args)) :=
    loop_spec (program :: args) (show _ ≤ 1 + _ by omega) {}
  obtain ⟨item, hitem, hwrong⟩ := hwrong
  have hrejected : Rejected (reading args) := by
    obtain ⟨before, behind, heq⟩ := List.append_of_mem hitem
    rw [heq] at hends
    exact ⟨before, item, behind, heq, hwrong, fun i hi => hends i (List.mem_append_left _ hi)⟩
  generalize parseArguments (program :: args) = result at hloop
  cases hloop with
  | ends hitems => exact absurd hrejected hitems
  | wrong _ message => exact ⟨message, rfl⟩
  | collects hitems => exact absurd hwrong (hitems item hitem).2

/-! ## Category lists -/

/-- A list of categories for the tool. -/
def categoryList (mask : CollectCategory) : Bytes :=
  if mask = .all then "all" else List.intercalate (bytes ",") (mask.selected.map Category.name)

theorem name_plain (c : Category) : c.name ≠ [] ∧ (44 : UInt8) ∉ c.name := by
  cases c <;> decide

theorem not_isCategory_none : ¬ IsCategory "none" := by
  rintro ⟨c, hname⟩
  revert hname
  cases c <;> decide

/-- The tool reads the list of a mask that selects something as that mask. -/
theorem parseCategories_categoryList {mask : CollectCategory} (h : ∃ c, mask.Selects c) :
    ∃ mask', parseCategories (categoryList mask) = .ok mask' ∧
      ∀ c, mask'.Selects c ↔ mask.Selects c := by
  rw [categoryList]
  split
  · rename_i hall
    exact ⟨.all, by decide, fun c => by rw [hall]⟩
  · obtain ⟨c, hc⟩ := h
    have hne : mask.selected.map Category.name ≠ [] :=
      List.ne_nil_of_mem (List.mem_map_of_mem (mask.mem_selected.2 hc))
    have hnames : listNames (List.intercalate (bytes ",") (mask.selected.map Category.name)) =
        mask.selected.map Category.name := by
      refine List.splitOn_intercalate 44 (fun name hname => ?_) hne
      obtain ⟨d, -, rfl⟩ := List.mem_map.1 hname
      exact (name_plain d).2
    have hcategories : ∀ name ∈ mask.selected.map Category.name, IsCategory name := by
      intro name hname
      obtain ⟨d, -, rfl⟩ := List.mem_map.1 hname
      exact ⟨d, rfl⟩
    generalize List.intercalate (bytes ",") (mask.selected.map Category.name) = text at hnames
    have hempty : [] ∉ listNames text := by
      rw [hnames]
      intro hmem
      exact not_isCategory.1 (hcategories [] hmem)
    have hlines := getlines_eq_listNames hempty
    have hmemOf : ∀ {whole : Bytes}, text = whole → listNames whole = [whole] →
        IsCategory whole := by
      rintro whole rfl hwhole
      exact hcategories text (by rw [← hnames, hwhole]; exact List.mem_singleton_self text)
    have hall : text ≠ "all" := fun htext => not_isCategory.2 (hmemOf htext (by decide))
    have hwhole : ¬ (text = "none" ∨ text = []) := by
      rintro (htext | rfl)
      · exact not_isCategory_none (hmemOf htext (by decide))
      · exact hempty (by decide)
    rw [parseCategories_eq hall hwhole, hlines, hnames]
    obtain ⟨mask', hmask'⟩ := (selectCategory_step.foldlM_ok_iff _ .none).2 hcategories
    refine ⟨mask', hmask', fun d => ?_⟩
    rw [selectCategory_step.foldlM_selects_iff hmask' d, or_iff_right (not_none_selects d)]
    constructor
    · rintro ⟨name, hname, rfl⟩
      obtain ⟨e, he, hed⟩ := List.mem_map.1 hname
      rw [← Category.name_injective hed]
      exact mask.mem_selected.1 he
    · intro hd
      exact ⟨d.name, List.mem_map_of_mem (mask.mem_selected.2 hd), rfl⟩

/-! ## Options as a command line -/

/-- Options as options of the tool. -/
def CollectOptions.items (options : CollectOptions) : List Item :=
  [{ name := "--json" },
   { name := if options.includeSensitive then "--include-sensitive" else "--redact" }] ++
  (if options.allowPerfOpen then [{ name := "--allow-perf" }] else []) ++
  (if options.allowSlowProbes then [{ name := "--allow-slow" }] else []) ++
  (if options.allowVendorLibraries then [{ name := "--allow-vendor-libs" }] else []) ++
  [{ name := "--categories", value := some (categoryList options.categories) },
   { name := "--procfs-root", value := some options.procfsRoot },
   { name := "--sysfs-root", value := some options.sysfsRoot },
   { name := "--etc-root", value := some options.etcRoot },
   { name := "--dev-root", value := some options.devRoot }]

/-- An argument vector of the tool for a JSON report with these options. -/
def CollectOptions.commandLine (options : CollectOptions) : List Bytes :=
  "archspec-inspect" :: options.items.flatMap Item.arguments

section CommandLine

variable {options : CollectOptions} {mask : CollectCategory}

/-- What holds of every switch, of the list of categories and of every root holds of the items. -/
theorem forall_mem_items {P : Item → Prop} (hswitch : ∀ name ∈ switches, P { name })
    (hcategories : P { name := "--categories", value := some (categoryList options.categories) })
    (hroot : ∀ name ∈ [bytes "--procfs-root", "--sysfs-root", "--etc-root", "--dev-root"],
      ∀ root ∈ options.roots, P { name, value := some root }) :
    ∀ item ∈ options.items, P item := by
  have hflag : ∀ (flag : Bool) (name : Bytes), name ∈ switches →
      ∀ item ∈ (if flag then [{ name }] else [] : List Item), P item := by
    intro flag name hname item hitem
    split at hitem
    · rw [List.mem_singleton.1 hitem]
      exact hswitch name hname
    · exact absurd hitem List.not_mem_nil
  have hsensitive : ∀ flag : Bool,
      (if flag then bytes "--include-sensitive" else "--redact") ∈ switches := by
    decide
  simp only [List.forall_mem_cons, CollectOptions.roots] at hroot
  simp only [CollectOptions.items, List.forall_mem_append, List.forall_mem_cons]
  exact ⟨⟨⟨⟨⟨hswitch _ (by decide), hswitch _ (hsensitive _), by simp⟩, hflag _ _ (by decide)⟩,
    hflag _ _ (by decide)⟩, hflag _ _ (by decide)⟩,
    hcategories, hroot.1.1, hroot.2.1.2.1, hroot.2.2.1.2.2.1, hroot.2.2.2.1.2.2.2.1, by simp⟩

theorem items_complete : ∀ item ∈ options.items, item.Complete := by
  apply forall_mem_items
  · decide
  · simp +decide [Item.Complete]
  · simp +decide [Item.Complete]

theorem items_good (hmask : parseCategories (categoryList options.categories) = .ok mask) :
    ∀ item ∈ options.items, ¬ item.Ends ∧ ¬ item.Wrong := by
  apply forall_mem_items
  · intro name hname
    refine ⟨notMem_endingOptions (List.mem_append_left _ hname), ?_⟩
    exact not_wrong (List.mem_append_right _ hname)
  · simp +decide [Item.Ends, Item.Wrong, hmask]
  · simp +decide [Item.Ends, Item.Wrong]

/-- Switches that are written when their flags are set. -/
theorem foldl_flags (perf slow vendor : Bool) (options : CollectOptions) (format : Bytes) :
    ((if perf then [{ name := "--allow-perf" }] else []) ++
        (if slow then [{ name := "--allow-slow" }] else []) ++
        (if vendor then [{ name := "--allow-vendor-libs" }] else []) : List Item).foldl
      Settings.update { options, format } =
    { options := { options with
        allowPerfOpen := perf || options.allowPerfOpen
        allowSlowProbes := slow || options.allowSlowProbes
        allowVendorLibraries := vendor || options.allowVendorLibraries }
      format } := by
  cases perf <;> cases slow <;> cases vendor <;> rfl

/-- The tool reads the options back, with the mask it reads from the list. -/
theorem foldl_items (hmask : parseCategories (categoryList options.categories) = .ok mask) :
    options.items.foldl Settings.update {} =
      { options := options.withCategories mask, format := "json" } := by
  have hcategories : Item.categories
      { name := "--categories", value := some (categoryList options.categories) } = mask := by
    rw [Item.categories, Item.text, Option.getD_some, hmask]
    rfl
  have hsensitive : ∀ flag : Bool,
      [{ name := "--json" },
        { name := if flag then "--include-sensitive" else "--redact" }].foldl Settings.update {} =
      { options := { includeSensitive := flag }, format := "json" } := by
    rintro (_ | _) <;> rfl
  rw [CollectOptions.items, List.foldl_append, List.append_assoc, List.append_assoc,
    List.foldl_append, ← List.append_assoc, hsensitive, foldl_flags]
  simp only [Bool.or_false]
  rw [← hcategories]
  rfl

end CommandLine

/-- Masks that select the same categories give the same text. -/
theorem toJson_congr (env : Env) (arch : ArchType) (options : CollectOptions)
    {mask mask' : CollectCategory} (h : ∀ c, mask.Selects c ↔ mask'.Selects c) :
    ((collectReport arch (options.withCategories mask)).run env).toJson =
      ((collectReport arch (options.withCategories mask')).run env).toJson := by
  have hselected : mask.selected = mask'.selected := (selected_eq_iff mask mask').2 h
  rw [run_toJson, run_toJson, hselected]

/-- The tool with the command line of options that select a category prints their JSON report. -/
theorem main_commandLine (env : Env) (arch : ArchType) {options : CollectOptions}
    (h : ∃ c, options.categories.Selects c) :
    (main arch options.commandLine).run env =
      { exitCode := 0, stdout := ((collectReport arch options).run env).toJson ++ "\n" } := by
  obtain ⟨mask, hmask, hselects⟩ := parseCategories_categoryList h
  have harguments : parseArguments options.commandLine =
      .ok { options := options.withCategories mask, format := "json" } := by
    rw [CollectOptions.commandLine, parseArguments_arguments _ items_complete (items_good hmask),
      foldl_items hmask]
  rw [main, harguments]
  simp only [run_bind, run_pure, Settings.print, if_pos]
  rw [toJson_congr env arch options hselects]
  rfl

/-- A byte of a joined list is one of the separator or of an entry. -/
theorem notMem_intercalate {b : UInt8} {separator : Bytes} (hseparator : b ∉ separator)
    {entries : List Bytes} (h : ∀ entry ∈ entries, b ∉ entry) :
    b ∉ List.intercalate separator entries := by
  induction entries with
  | nil => exact List.not_mem_nil
  | cons entry entries ih =>
    obtain ⟨hentry, hentries⟩ := List.forall_mem_cons.1 h
    cases entries with
    | nil => rwa [List.intercalate_singleton]
    | cons next entries =>
      rw [List.intercalate_cons_cons, List.mem_append, List.mem_append, not_or, not_or]
      exact ⟨⟨hentry, hseparator⟩, ih hentries⟩

theorem zero_notMem_categoryList (mask : CollectCategory) : 0 ∉ categoryList mask := by
  rw [categoryList]
  split
  · decide
  · refine notMem_intercalate (by decide) fun name hname => ?_
    obtain ⟨c, -, rfl⟩ := List.mem_map.1 hname
    cases c <;> decide

theorem zero_notMem_commandLine {options : CollectOptions} (h : ∀ root ∈ options.roots, 0 ∉ root) :
    ∀ argument ∈ options.commandLine, 0 ∉ argument := by
  have hlist := zero_notMem_categoryList options.categories
  obtain ⟨categories, procfs, sysfs, etc, dev, slow, vendor, perf, sensitive⟩ := options
  simp only [CollectOptions.roots, List.forall_mem_cons] at h
  cases slow <;> cases vendor <;> cases perf <;> cases sensitive <;>
    simp +decide [CollectOptions.commandLine, CollectOptions.items, Item.arguments, h, hlist]

end Archspec
