import Archspec.Cli

/-!
# What an argument vector means

The reference reading of the arguments of the tool: from left to right, as options that each consume
no or one value (`reading`).  An item of it may end the program (`Item.Ends`) or be wrong
(`Item.Wrong`); a vector is rejected when a wrong item comes before every item that ends the program
(`Rejected`).

`main_contract` compares `main` with that reading, by the step lemma `turn_spec` and the run lemma
`loop_spec`.  Each setting of a collection is the one of the last option that sets it
(`foldl_update`).
-/

namespace Archspec

open Lib

/-! ## The reference reading -/

/-- An option, with the value behind it. -/
structure Item where
  name : Bytes
  value : Option Bytes := none

/-- The options that consume a value. -/
def valueOptions : List Bytes :=
  ["--format", "--categories", "--procfs-root", "--sysfs-root", "--etc-root", "--dev-root"]

/-- The options that end the program. -/
def endingOptions : List Bytes := ["--help", "-h", "--version", "--capabilities"]

/-- The other options. -/
def switches : List Bytes :=
  ["--json", "--redact", "--include-sensitive", "--allow-perf", "--allow-slow",
    "--allow-vendor-libs"]

/-- The arguments as options with their values. -/
def reading : List Bytes → List Item
  | [] => []
  | name :: rest =>
    if name ∈ valueOptions then
      match rest with
      | [] => [{ name }]
      | value :: rest => { name, value := some value } :: reading rest
    else { name } :: reading rest

namespace Item

variable (item : Item)

/-- The option ends the program with success. -/
def Ends : Prop := item.name ∈ endingOptions

/-- An unknown option, a missing value, an unknown format or a rejected category list. -/
def Wrong : Prop :=
  item.name ∉ endingOptions ++ switches ++ valueOptions ∨
  (item.name ∈ valueOptions ∧ item.value = none) ∨
  (item.name = "--format" ∧ ∃ value, item.value = some value ∧ value ≠ "text" ∧ value ≠ "json") ∨
  (item.name = "--categories" ∧
    ∃ value message, item.value = some value ∧ parseCategories value = .error message)

end Item

/-- A wrong item comes before every item that ends the program. -/
def Rejected (items : List Item) : Prop :=
  ∃ before item behind, items = before ++ item :: behind ∧ item.Wrong ∧ ∀ i ∈ before, ¬ i.Ends

/-- The last item with one of these names. -/
def lastOf (names : List Bytes) (items : List Item) : Option Item :=
  (items.filter fun item => decide (item.name ∈ names)).getLast?

/-! ## One option -/

namespace Item

variable (item : Item)

/-- The text behind an option. -/
def text : Bytes := item.value.getD []

/-- The format an option sets. -/
def format : Bytes := if item.name = "--json" then "json" else item.text

/-- The categories an option sets. -/
def categories : CollectCategory := (parseCategories item.text).toOption.getD .none

end Item

/-- The settings behind an option that is neither wrong nor ends the program. -/
def Settings.update (settings : Settings) (item : Item) : Settings where
  format := if item.name ∈ [bytes "--json", "--format"] then item.format else settings.format
  options :=
    { categories :=
        if item.name ∈ [bytes "--categories"] then item.categories else settings.options.categories
      procfsRoot :=
        if item.name ∈ [bytes "--procfs-root"] then item.text else settings.options.procfsRoot
      sysfsRoot :=
        if item.name ∈ [bytes "--sysfs-root"] then item.text else settings.options.sysfsRoot
      etcRoot := if item.name ∈ [bytes "--etc-root"] then item.text else settings.options.etcRoot
      devRoot := if item.name ∈ [bytes "--dev-root"] then item.text else settings.options.devRoot
      allowSlowProbes :=
        if item.name ∈ [bytes "--allow-slow"] then true else settings.options.allowSlowProbes
      allowVendorLibraries :=
        if item.name ∈ [bytes "--allow-vendor-libs"] then true
        else settings.options.allowVendorLibraries
      allowPerfOpen :=
        if item.name ∈ [bytes "--allow-perf"] then true else settings.options.allowPerfOpen
      includeSensitive :=
        if item.name ∈ [bytes "--redact", "--include-sensitive"] then
          decide (item.name = "--include-sensitive")
        else settings.options.includeSensitive }

section Step

variable {argv : List Bytes} {index : ℕ} {name value : Bytes}

theorem drop_eq_cons (h : argv[index]? = some name) :
    argv.drop index = name :: argv.drop (index + 1) := by
  obtain ⟨hlt, rfl⟩ := List.getElem?_eq_some_iff.1 h
  exact List.drop_eq_getElem_cons hlt

theorem reading_drop (h : argv[index]? = some name) (hname : name ∉ valueOptions) :
    reading (argv.drop index) = { name } :: reading (argv.drop (index + 1)) := by
  rw [drop_eq_cons h]
  rw [reading.eq_def]
  exact if_neg hname

theorem reading_drop_missing (h : argv[index]? = some name) (hname : name ∈ valueOptions)
    (hvalue : argv[index + 1]? = none) : reading (argv.drop index) = [{ name }] := by
  rw [drop_eq_cons h, List.drop_eq_nil_of_le (List.getElem?_eq_none_iff.1 hvalue), reading,
    if_pos hname]

theorem reading_drop_value (h : argv[index]? = some name) (hname : name ∈ valueOptions)
    (hvalue : argv[index + 1]? = some value) :
    reading (argv.drop index) = { name, value := some value } :: reading (argv.drop (index + 2)) := by
  rw [drop_eq_cons h, drop_eq_cons hvalue, reading, if_pos hname]

theorem notMem_valueOptions (h : name ∈ endingOptions ++ switches) : name ∉ valueOptions := by
  have hnames : ∀ name ∈ endingOptions ++ switches, name ∉ valueOptions := by decide
  exact hnames name h

theorem notMem_endingOptions (h : name ∈ switches ++ valueOptions) : name ∉ endingOptions := by
  have hnames : ∀ name ∈ switches ++ valueOptions, name ∉ endingOptions := by decide
  exact hnames name h

theorem not_wrong {item : Item} (h : item.name ∈ endingOptions ++ switches) : ¬ item.Wrong := by
  have hvalue := notMem_valueOptions h
  have hnames : bytes "--format" ∈ valueOptions ∧ bytes "--categories" ∈ valueOptions := by decide
  rintro (hunknown | ⟨hmissing, -⟩ | ⟨hformat, -⟩ | ⟨hcategories, -⟩)
  · exact hunknown (List.mem_append_left _ h)
  · exact hvalue hmissing
  · exact hvalue (hformat ▸ hnames.1)
  · exact hvalue (hcategories ▸ hnames.2)

/-- An option with its value is wrong for one of two reasons. -/
theorem wrong_value_iff (hname : name ∈ valueOptions) (value : Bytes) :
    ({ name, value := some value } : Item).Wrong ↔
      (name = "--format" ∧ value ≠ "text" ∧ value ≠ "json") ∨
        (name = "--categories" ∧ ∃ message, parseCategories value = .error message) := by
  have hknown : name ∈ endingOptions ++ switches ++ valueOptions := List.mem_append_right _ hname
  constructor
  · rintro (hunknown | ⟨-, ⟨⟩⟩ | ⟨hformat, _, ⟨⟩, hvalue⟩ | ⟨hcategories, _, message, ⟨⟩, hvalue⟩)
    · exact absurd hknown hunknown
    · exact Or.inl ⟨hformat, hvalue⟩
    · exact Or.inr ⟨hcategories, message, hvalue⟩
  · rintro (⟨hformat, hvalue⟩ | ⟨hcategories, message, hvalue⟩)
    · exact Or.inr (Or.inr (Or.inl ⟨hformat, value, rfl, hvalue⟩))
    · exact Or.inr (Or.inr (Or.inr ⟨hcategories, value, message, rfl, hvalue⟩))

/-- What a turn of the loop may do at an item of the reading, with the items behind it. -/
inductive Turned (argv : List Bytes) (index : ℕ) (settings : Settings) (item : Item)
    (items : List Item) : Except Outcome (ℕ × Settings) → Prop where
  | ends (h : item.Ends) (stdout : Bytes) :
    Turned argv index settings item items (.error { exitCode := 0, stdout })
  | wrong (h : item.Wrong) (hends : ¬ item.Ends) (message : Bytes) :
    Turned argv index settings item items (.error (usageError message))
  | next (hends : ¬ item.Ends) (hwrong : ¬ item.Wrong) {next : ℕ} (hlt : index < next)
      (hitems : reading (argv.drop next) = items) :
    Turned argv index settings item items (.ok (next, settings.update item))

/-- A turn at an option whose value is missing. -/
theorem turn_missing (hname : name ∈ valueOptions) (hvalue : argv[index + 1]? = none)
    (settings : Settings) : Turned argv index settings { name } [] (turn argv index settings name) := by
  have hwrong : ({ name } : Item).Wrong := Or.inr (Or.inl ⟨hname, rfl⟩)
  have hends : ¬ ({ name } : Item).Ends := notMem_endingOptions (List.mem_append_right _ hname)
  have htake : takeValue argv index name = .error (usageError (name ++ " requires a value")) := by
    rw [takeValue, hvalue]
  have hturn : turn argv index settings name =
      .error (usageError (name ++ " requires a value")) := by
    simp only [valueOptions, List.mem_cons, List.not_mem_nil, or_false] at hname
    rcases hname with rfl | rfl | rfl | rfl | rfl | rfl
    all_goals
      simp +decide only [turn, htake, rootSetter, if_false, if_true]
      rfl
  rw [hturn]
  exact .wrong hwrong hends _

section WithValue

variable (hvalue : argv[index + 1]? = some value) (settings : Settings)

include hvalue

theorem takeValue_eq (name : Bytes) : takeValue argv index name = .ok (value, index + 1) := by
  rw [takeValue, hvalue]

theorem turn_format :
    Turned argv index settings { name := "--format", value := some value }
      (reading (argv.drop (index + 2))) (turn argv index settings "--format") := by
  have hname : bytes "--format" ∈ valueOptions ∧ bytes "--format" ≠ "--categories" := by decide
  have hends : ¬ ({ name := "--format", value := some value } : Item).Ends :=
    notMem_endingOptions (List.mem_append_right _ hname.1)
  have hwrong := wrong_value_iff hname.1 value
  by_cases hformat : value ≠ "text" ∧ value ≠ "json"
  · have hturn : turn argv index settings "--format" =
        .error (usageError ("unknown format '" ++ value ++ "'")) := by
      simp +decide only [turn, takeValue_eq hvalue, if_false, if_true]
      exact if_pos hformat
    rw [hturn]
    exact .wrong (hwrong.2 (Or.inl ⟨rfl, hformat⟩)) hends _
  · have hturn : turn argv index settings "--format" =
        .ok (index + 2, settings.update { name := "--format", value := some value }) := by
      simp +decide only [turn, takeValue_eq hvalue, if_false, if_true]
      exact if_neg hformat
    rw [hturn]
    refine .next hends (fun hbad => ?_) (by omega) rfl
    rcases hwrong.1 hbad with ⟨-, hbad⟩ | ⟨hother, -⟩
    · exact hformat hbad
    · exact hname.2 hother

theorem turn_categories :
    Turned argv index settings { name := "--categories", value := some value }
      (reading (argv.drop (index + 2))) (turn argv index settings "--categories") := by
  have hname : bytes "--categories" ∈ valueOptions ∧ bytes "--categories" ≠ "--format" := by decide
  have hends : ¬ ({ name := "--categories", value := some value } : Item).Ends :=
    notMem_endingOptions (List.mem_append_right _ hname.1)
  have hwrong := wrong_value_iff hname.1 value
  cases hcategories : parseCategories value with
  | error message =>
    have hturn : turn argv index settings "--categories" = .error (usageError message) := by
      simp +decide only [turn, takeValue_eq hvalue, if_false, if_true]
      simp only [bind, Except.bind, hcategories]
    rw [hturn]
    exact .wrong (hwrong.2 (Or.inr ⟨rfl, message, hcategories⟩)) hends _
  | ok categories =>
    have hitem : ({ name := "--categories", value := some value } : Item).categories =
        categories := by
      rw [Item.categories, Item.text, Option.getD_some, hcategories]
      rfl
    have hturn : turn argv index settings "--categories" =
        .ok (index + 2, settings.update { name := "--categories", value := some value }) := by
      simp +decide only [turn, takeValue_eq hvalue, Settings.update, if_false, if_true]
      simp only [bind, Except.bind, hcategories, hitem]
    rw [hturn]
    refine .next hends (fun hbad => ?_) (by omega) rfl
    rcases hwrong.1 hbad with ⟨hother, -⟩ | ⟨-, message, hbad⟩
    · exact hname.2 hother
    · rw [hcategories] at hbad
      cases hbad

theorem turn_root (hname : name ∈ valueOptions)
    (hgood : name ≠ "--format" ∧ name ≠ "--categories") :
    Turned argv index settings { name, value := some value } (reading (argv.drop (index + 2)))
      (turn argv index settings name) := by
  have hends : ¬ ({ name, value := some value } : Item).Ends :=
    notMem_endingOptions (List.mem_append_right _ hname)
  have hwrong := wrong_value_iff hname value
  have hturn : turn argv index settings name =
      .ok (index + 2, settings.update { name, value := some value }) := by
    simp only [valueOptions, List.mem_cons, List.not_mem_nil, or_false] at hname
    rcases hname with rfl | rfl | rfl | rfl | rfl | rfl
    · exact absurd rfl hgood.1
    · exact absurd rfl hgood.2
    all_goals
      simp +decide only [turn, takeValue_eq hvalue, rootSetter, if_false, if_true]
      rfl
  rw [hturn]
  refine .next hends (fun hbad => ?_) (by omega) rfl
  rcases hwrong.1 hbad with ⟨hother, -⟩ | ⟨hother, -⟩
  · exact hgood.1 hother
  · exact hgood.2 hother

end WithValue

/-- A turn at an option that consumes a value. -/
theorem turn_value (h : argv[index]? = some name) (hname : name ∈ valueOptions)
    (settings : Settings) :
    ∃ item items, reading (argv.drop index) = item :: items ∧
      Turned argv index settings item items (turn argv index settings name) := by
  cases hvalue : argv[index + 1]? with
  | none =>
    exact ⟨{ name }, [], reading_drop_missing h hname hvalue, turn_missing hname hvalue settings⟩
  | some value =>
    refine ⟨{ name, value := some value }, _, reading_drop_value h hname hvalue, ?_⟩
    by_cases hformat : name = "--format"
    · subst hformat
      exact turn_format hvalue settings
    · by_cases hcategories : name = "--categories"
      · subst hcategories
        exact turn_categories hvalue settings
      · exact turn_root hvalue settings hname ⟨hformat, hcategories⟩

/-- The step lemma: a turn of the loop treats the next item of the reading. -/
theorem turn_spec (h : argv[index]? = some name) (settings : Settings) :
    ∃ item items, reading (argv.drop index) = item :: items ∧
      Turned argv index settings item items (turn argv index settings name) := by
  by_cases hends : ({ name } : Item).Ends
  · have hname : name ∈ endingOptions := hends
    refine ⟨{ name }, _, reading_drop h (notMem_valueOptions (List.mem_append_left _ hname)), ?_⟩
    simp only [endingOptions, List.mem_cons, List.not_mem_nil, or_false] at hname
    rcases hname with rfl | rfl | rfl | rfl
    all_goals exact .ends hends _
  by_cases hswitch : name ∈ switches
  · refine ⟨{ name }, _, reading_drop h (notMem_valueOptions (List.mem_append_right _ hswitch)), ?_⟩
    have hwrong : ¬ ({ name } : Item).Wrong := not_wrong (List.mem_append_right _ hswitch)
    simp only [switches, List.mem_cons, List.not_mem_nil, or_false] at hswitch
    rcases hswitch with rfl | rfl | rfl | rfl | rfl | rfl
    all_goals exact .next hends hwrong (Nat.lt_succ_self _) rfl
  by_cases hvalue : name ∈ valueOptions
  · exact turn_value h hvalue settings
  · refine ⟨{ name }, _, reading_drop h hvalue, ?_⟩
    have hname : name ∉ endingOptions := hends
    have hwrong : ({ name } : Item).Wrong := by
      refine Or.inl fun hmem => ?_
      rcases List.mem_append.1 hmem with hmem | hmem
      · rcases List.mem_append.1 hmem with hmem | hmem
        · exact hname hmem
        · exact hswitch hmem
      · exact hvalue hmem
    have hturn : turn argv index settings name =
        .error (usageError ("unknown option '" ++ name ++ "' (try --help)")) := by
      simp only [endingOptions, switches, valueOptions, List.mem_cons, List.not_mem_nil, or_false,
        not_or] at hname hswitch hvalue
      simp [turn, rootSetter, hname, hswitch, hvalue]
    rw [hturn]
    exact .wrong hwrong hends _

end Step

/-! ## The whole vector -/

theorem rejected_cons_iff (item : Item) (items : List Item) :
    Rejected (item :: items) ↔ item.Wrong ∨ (¬ item.Ends ∧ Rejected items) := by
  constructor
  · rintro ⟨before, wrong, behind, heq, hwrong, hbefore⟩
    cases before with
    | nil =>
      obtain ⟨rfl, rfl⟩ := List.cons.inj heq
      exact Or.inl hwrong
    | cons first before =>
      obtain ⟨rfl, rfl⟩ := List.cons.inj heq
      have hrest := fun i hi => hbefore i (List.mem_cons_of_mem _ hi)
      exact Or.inr ⟨hbefore item List.mem_cons_self, before, wrong, behind, rfl, hwrong, hrest⟩
  · rintro (hwrong | ⟨hends, before, wrong, behind, rfl, hwrong, hbefore⟩)
    · exact ⟨[], item, items, rfl, hwrong, fun i hi => absurd hi List.not_mem_nil⟩
    · refine ⟨item :: before, wrong, behind, rfl, hwrong, fun i hi => ?_⟩
      rcases List.mem_cons.1 hi with rfl | hi
      · exact hends
      · exact hbefore i hi

/-- What the loop may do with the items of the reading that are left. -/
inductive Looped (settings : Settings) (items : List Item) : Except Outcome Settings → Prop where
  | ends (hitems : ¬ Rejected items) (stdout : Bytes) :
    Looped settings items (.error { exitCode := 0, stdout })
  | wrong (hitems : Rejected items) (message : Bytes) :
    Looped settings items (.error (usageError message))
  | collects (hitems : ∀ item ∈ items, ¬ item.Ends ∧ ¬ item.Wrong) :
    Looped settings items (.ok (items.foldl Settings.update settings))

/-- The run lemma, by induction on the number of turns, which is enough for the arguments left. -/
theorem loop_spec (argv : List Bytes) {turns index : ℕ} (hturns : argv.length ≤ index + turns)
    (settings : Settings) :
    Looped settings (reading (argv.drop index)) (loop argv turns index settings) := by
  induction turns generalizing index settings with
  | zero =>
    rw [List.drop_eq_nil_of_le (by omega), reading, loop]
    exact .collects fun item hitem => absurd hitem List.not_mem_nil
  | succ turns ih =>
    rw [loop]
    cases hname : argv[index]? with
    | none =>
      rw [List.drop_eq_nil_of_le (List.getElem?_eq_none_iff.1 hname), reading]
      exact .collects fun item hitem => absurd hitem List.not_mem_nil
    | some name =>
      obtain ⟨item, items, hreading, hturn⟩ := turn_spec hname settings
      rw [hreading]
      dsimp only
      generalize turn argv index settings name = result at hturn
      cases hturn with
      | ends hends stdout =>
        refine .ends (fun h => ?_) stdout
        rcases (rejected_cons_iff item items).1 h with hwrong | ⟨hnot, -⟩
        · exact not_wrong (List.mem_append_left _ hends) hwrong
        · exact hnot hends
      | wrong hwrong hends message =>
        exact .wrong ((rejected_cons_iff item items).2 (Or.inl hwrong)) message
      | @next hends hwrong next hlt hitems =>
        subst hitems
        have hrest := ih (show argv.length ≤ next + turns by omega) (settings.update item)
        have hcons := rejected_cons_iff item (reading (argv.drop next))
        show Looped _ _ (loop argv turns next (settings.update item))
        generalize loop argv turns next (settings.update item) = result at hrest
        cases hrest with
        | ends hitems stdout =>
          refine .ends (fun h => ?_) stdout
          rcases hcons.1 h with h | ⟨-, h⟩
          · exact hwrong h
          · exact hitems h
        | wrong hitems message => exact .wrong (hcons.2 (Or.inr ⟨hends, hitems⟩)) message
        | collects hitems =>
          refine .collects fun i hi => ?_
          rcases List.mem_cons.1 hi with rfl | hi
          · exact ⟨hends, hwrong⟩
          · exact hitems i hi

/-- The loop takes every item that is neither wrong nor ends the program. -/
theorem loop_collects (argv : List Bytes) {turns index : ℕ} (hturns : argv.length ≤ index + turns)
    (settings : Settings)
    (h : ∀ item ∈ reading (argv.drop index), ¬ item.Ends ∧ ¬ item.Wrong) :
    loop argv turns index settings =
      .ok ((reading (argv.drop index)).foldl Settings.update settings) := by
  induction turns generalizing index settings with
  | zero =>
    rw [List.drop_eq_nil_of_le (by omega), reading]
    rfl
  | succ turns ih =>
    rw [loop]
    cases hname : argv[index]? with
    | none =>
      rw [List.drop_eq_nil_of_le (List.getElem?_eq_none_iff.1 hname), reading]
      rfl
    | some name =>
      obtain ⟨item, items, hreading, hturn⟩ := turn_spec hname settings
      rw [hreading] at h ⊢
      obtain ⟨⟨hends, hwrong⟩, hrest⟩ := List.forall_mem_cons.1 h
      dsimp only
      generalize turn argv index settings name = result at hturn
      cases hturn with
      | ends h => exact absurd h hends
      | wrong h => exact absurd h hwrong
      | @next _ _ next hlt hitems =>
        subst hitems
        show loop argv turns next (settings.update item) = _
        rw [ih (by omega) _ hrest, List.foldl_cons]

/-! ## The settings of a collection -/

/-- A setting that the options with some names set, and no others, is the one of the last of them. -/
theorem foldl_update {α : Type} (setting : Settings → α) (names : List Bytes) (value : Item → α)
    (h : ∀ settings item, setting (Settings.update settings item) =
      if item.name ∈ names then value item else setting settings)
    (items : List Item) (settings : Settings) :
    setting (items.foldl Settings.update settings) =
      ((lastOf names items).map value).getD (setting settings) := by
  induction items using List.reverseRecOn with
  | nil => rfl
  | append_singleton items item ih =>
    rw [List.foldl_append, List.foldl_cons, List.foldl_nil, h, ih, lastOf, lastOf,
      List.filter_append, List.filter_singleton]
    by_cases hname : item.name ∈ names
    · simp [hname]
    · simp [hname]

theorem lastOf_mem {names : List Bytes} {items : List Item} {item : Item}
    (h : lastOf names items = some item) : item ∈ items ∧ item.name ∈ names := by
  have hmem := List.mem_of_getLast? h
  rw [List.mem_filter] at hmem
  exact ⟨hmem.1, of_decide_eq_true hmem.2⟩

/-- The settings are those of the last options that set them. -/
structure Follows (items : List Item) (settings : Settings) : Prop where
  includeSensitive : settings.options.includeSensitive = true ↔
    ∃ item, lastOf [bytes "--redact", "--include-sensitive"] items = some item ∧
      item.name = "--include-sensitive"
  allowPerfOpen : settings.options.allowPerfOpen = true ↔ ∃ item ∈ items, item.name = "--allow-perf"
  format : settings.format =
    ((lastOf [bytes "--json", "--format"] items).map Item.format).getD "text"
  defaultCategories : lastOf [bytes "--categories"] items = none → settings.options.categories = .all
  categories : ∀ item, lastOf [bytes "--categories"] items = some item →
    ∃ value, item.value = some value ∧ parseCategories value = .ok settings.options.categories
  procfsRoot : settings.options.procfsRoot =
    ((lastOf [bytes "--procfs-root"] items).map Item.text).getD "/proc"
  sysfsRoot : settings.options.sysfsRoot =
    ((lastOf [bytes "--sysfs-root"] items).map Item.text).getD "/sys"
  etcRoot : settings.options.etcRoot =
    ((lastOf [bytes "--etc-root"] items).map Item.text).getD "/etc"
  devRoot : settings.options.devRoot =
    ((lastOf [bytes "--dev-root"] items).map Item.text).getD "/dev"

theorem lastOf_eq_none_iff {names : List Bytes} {items : List Item} :
    lastOf names items = none ↔ ∀ item ∈ items, item.name ∉ names := by
  rw [lastOf, List.getLast?_eq_none_iff, List.filter_eq_nil_iff]
  simp only [decide_eq_true_iff]

/-- The settings behind items that are neither wrong nor end the program follow them. -/
theorem foldl_update_follows {items : List Item} (h : ∀ item ∈ items, ¬ item.Ends ∧ ¬ item.Wrong) :
    Follows items (items.foldl Settings.update {}) where
  includeSensitive := by
    rw [foldl_update (·.options.includeSensitive) _ _ (fun _ _ => rfl)]
    cases lastOf [bytes "--redact", "--include-sensitive"] items <;> simp
  allowPerfOpen := by
    rw [foldl_update (·.options.allowPerfOpen) _ _ (fun _ _ => rfl)]
    cases hlast : lastOf [bytes "--allow-perf"] items with
    | none =>
      refine iff_of_false (by simp) ?_
      rintro ⟨item, hitem, hname⟩
      exact lastOf_eq_none_iff.1 hlast item hitem (List.mem_singleton.2 hname)
    | some item =>
      obtain ⟨hmem, hname⟩ := lastOf_mem hlast
      exact iff_of_true rfl ⟨item, hmem, List.mem_singleton.1 hname⟩
  format := foldl_update (·.format) _ _ (fun _ _ => rfl) items {}
  defaultCategories := by
    intro hnone
    rw [foldl_update (·.options.categories) _ _ (fun _ _ => rfl), hnone]
    rfl
  categories := by
    intro item hitem
    rw [foldl_update (·.options.categories) _ _ (fun _ _ => rfl), hitem]
    obtain ⟨hmem, hname⟩ := lastOf_mem hitem
    replace hname := List.mem_singleton.1 hname
    have hwrong := (h item hmem).2
    have hvalue : bytes "--categories" ∈ valueOptions := by decide
    cases htext : item.value with
    | none => exact absurd (Or.inr (Or.inl ⟨hname ▸ hvalue, htext⟩)) hwrong
    | some value =>
      refine ⟨value, rfl, ?_⟩
      cases hparse : parseCategories value with
      | error message =>
        exact absurd (Or.inr (Or.inr (Or.inr ⟨hname, value, message, htext, hparse⟩))) hwrong
      | ok categories =>
        rw [Option.map_some, Option.getD_some, Item.categories, Item.text, htext, Option.getD_some,
          hparse]
        rfl
  procfsRoot := foldl_update (·.options.procfsRoot) _ _ (fun _ _ => rfl) items {}
  sysfsRoot := foldl_update (·.options.sysfsRoot) _ _ (fun _ _ => rfl) items {}
  etcRoot := foldl_update (·.options.etcRoot) _ _ (fun _ _ => rfl) items {}
  devRoot := foldl_update (·.options.devRoot) _ _ (fun _ _ => rfl) items {}

/-- The last option that sets the format sets JSON. -/
def AsksForJson (items : List Item) : Prop :=
  ∃ item, lastOf [bytes "--json", "--format"] items = some item ∧
    (item.name = "--json" ∨ item.value = some (bytes "json"))

theorem Item.format_eq_json_iff {item : Item} :
    item.format = "json" ↔ item.name = "--json" ∨ item.value = some (bytes "json") := by
  rw [Item.format, Item.text]
  by_cases hname : item.name = "--json"
  · rw [if_pos hname]
    exact iff_of_true rfl (Or.inl hname)
  · rw [if_neg hname, or_iff_right hname]
    cases item.value with
    | none => exact iff_of_false (by decide) (Option.some_ne_none _).symm
    | some value => rw [Option.getD_some, Option.some.injEq]

theorem Follows.asksForJson_iff {items : List Item} {settings : Settings}
    (h : Follows items settings) : AsksForJson items ↔ settings.format = "json" := by
  rw [h.format, AsksForJson]
  cases lastOf [bytes "--json", "--format"] items with
  | none => exact iff_of_false (by simp) (by decide)
  | some item => simp [Item.format_eq_json_iff]

/-- The contract of the tool.  The exit code is 2 exactly if the arguments are rejected, and then
nothing is printed and nothing is collected.  A collection runs exactly if no item ends the program
or is wrong.  Its settings are those of the last options that set them, and the report is printed as
JSON if the last of the options for the format says so, as a text otherwise. -/
theorem main_contract (arch : ArchType) (argv : List Bytes) :
    (∀ env, ((main arch argv).run env).exitCode = 2 ↔ Rejected (reading (argv.drop 1))) ∧
    (Rejected (reading (argv.drop 1)) →
      (∀ env, ((main arch argv).run env).stdout = []) ∧ ∀ call, ¬ (main arch argv).Issues call) ∧
    (∀ call, (main arch argv).Issues call → ∃ settings, parseArguments argv = .ok settings) ∧
    ((∃ settings, parseArguments argv = .ok settings) ↔
      ∀ item ∈ reading (argv.drop 1), ¬ item.Ends ∧ ¬ item.Wrong) ∧
    ∀ settings, parseArguments argv = .ok settings →
      Follows (reading (argv.drop 1)) settings ∧
      (AsksForJson (reading (argv.drop 1)) →
        main arch argv = do
          let report ← collectReport arch settings.options
          return { exitCode := 0, stdout := report.toJson ++ "\n" }) ∧
      (¬ AsksForJson (reading (argv.drop 1)) →
        main arch argv = do
          let report ← collectReport arch settings.options
          return { exitCode := 0, stdout := reportText report }) := by
  have hloop : Looped {} (reading (argv.drop 1)) (parseArguments argv) :=
    loop_spec argv (by omega) {}
  have hcollects : (∀ item ∈ reading (argv.drop 1), ¬ item.Ends ∧ ¬ item.Wrong) →
      ∃ settings, parseArguments argv = .ok settings :=
    fun hitems => ⟨_, loop_collects argv (by omega) {} hitems⟩
  unfold main
  generalize parseArguments argv = result at hloop hcollects
  cases hloop with
  | ends hitems stdout =>
    refine ⟨fun env => iff_of_false (show 0 ≠ 2 by decide) hitems, fun h => absurd h hitems, ?_,
      iff_of_false ?_ fun h => ?_, ?_⟩
    · rintro call ⟨⟩
    · rintro ⟨settings, ⟨⟩⟩
    · obtain ⟨settings, ⟨⟩⟩ := hcollects h
    · rintro settings ⟨⟩
  | wrong hitems message =>
    refine ⟨fun env => iff_of_true rfl hitems, fun _ => ⟨fun env => rfl, ?_⟩, ?_,
      iff_of_false ?_ fun h => ?_, ?_⟩
    · rintro call ⟨⟩
    · rintro call ⟨⟩
    · rintro ⟨settings, ⟨⟩⟩
    · obtain ⟨settings, ⟨⟩⟩ := hcollects h
    · rintro settings ⟨⟩
  | collects hitems =>
    have hnot : ¬ Rejected (reading (argv.drop 1)) := by
      rintro ⟨before, item, behind, heq, hwrong, -⟩
      refine (hitems item ?_).2 hwrong
      rw [heq]
      exact List.mem_append_right _ List.mem_cons_self
    have hfollows := foldl_update_follows hitems
    refine ⟨fun env => ?_, fun h => absurd h hnot, fun call _ => ⟨_, rfl⟩,
      iff_of_true ⟨_, rfl⟩ hitems, ?_⟩
    · simp only [Program.run_bind, Program.run_pure]
      exact iff_of_false (show 0 ≠ 2 by decide) hnot
    · rintro settings ⟨⟩
      refine ⟨hfollows, fun hjson => ?_, fun hjson => ?_⟩
      · simp only [Settings.print, if_pos (hfollows.asksForJson_iff.1 hjson)]
      · simp only [Settings.print, if_neg (hfollows.asksForJson_iff.not.1 hjson)]

example : (reading ["--etc-root", "--include-sensitive", "--json"]).map Item.name =
    ["--etc-root", "--json"] := rfl

end Archspec
