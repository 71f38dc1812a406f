import Archspec.Binding
import Archspec.Cli

/-!
# One language of category lists

Both front ends fold a step over the comma-separated names of a list (`selectCategory` and
`Python.parseCategoryName`).  `ListStep` is what such a step has to satisfy, and from it follow the
lists that are accepted and the categories they select.  The front ends differ in two ways: the tool
knows `all` only as the whole list, and its `getline` loop does not see an empty last name.
-/

namespace Archspec

open Lib

/-! ## Masks -/

theorem selects_or (a b : CollectCategory) (c : Category) :
    (a ||| b).Selects c ↔ a.Selects c ∨ b.Selects c := by
  have hbits : ((a ||| b) &&& c.flag).bits = (a &&& c.flag).bits ||| (b &&& c.flag).bits :=
    UInt64.toBitVec_inj.1 BitVec.and_or_distrib_right
  simp only [CollectCategory.Selects, hasCategory, bne_iff_ne, ne_eq, hbits, UInt64.or_eq_zero_iff]
  exact not_and_or

theorem flag_selects_iff (c d : Category) : d.flag.Selects c ↔ c = d := by
  have h : ∀ c ∈ Category.all, ∀ d ∈ Category.all, d.flag.Selects c ↔ c = d := by decide
  exact h c c.mem_all d d.mem_all

theorem all_selects (c : Category) : CollectCategory.all.Selects c := by
  have h : ∀ c ∈ Category.all, CollectCategory.all.Selects c := by decide
  exact h c c.mem_all

theorem not_none_selects (c : Category) : ¬ CollectCategory.none.Selects c := by
  have h : ∀ c ∈ Category.all, ¬ CollectCategory.none.Selects c := by decide
  exact h c c.mem_all

/-! ## Steps over the names of a list -/

/-- A step over names: which names it accepts, and which categories a name adds. -/
structure ListStep {ε : Type} (step : CollectCategory → Bytes → Except ε CollectCategory)
    (accepts : Bytes → Prop) (covers : Bytes → Category → Prop) : Prop where
  ok_iff : ∀ mask name, (∃ mask', step mask name = .ok mask') ↔ accepts name
  selects_iff : ∀ {mask name mask'}, step mask name = .ok mask' →
    ∀ c, mask'.Selects c ↔ mask.Selects c ∨ covers name c

section Fold

variable {ε : Type} {step : CollectCategory → Bytes → Except ε CollectCategory}
  {accepts : Bytes → Prop} {covers : Bytes → Category → Prop}

theorem ListStep.foldlM_ok_iff (h : ListStep step accepts covers) (names : List Bytes)
    (mask : CollectCategory) :
    (∃ mask', names.foldlM step mask = .ok mask') ↔ ∀ name ∈ names, accepts name := by
  induction names generalizing mask with
  | nil => exact iff_of_true ⟨mask, rfl⟩ fun name hname => absurd hname List.not_mem_nil
  | cons name names ih =>
    rw [List.foldlM_cons, List.forall_mem_cons, ← h.ok_iff mask name]
    cases hstep : step mask name with
    | error e =>
      refine iff_of_false ?_ ?_
      · rintro ⟨mask', ⟨⟩⟩
      · rintro ⟨⟨mask', ⟨⟩⟩, -⟩
    | ok mask' => exact (ih mask').trans (and_iff_right ⟨mask', rfl⟩).symm

theorem ListStep.foldlM_selects_iff (h : ListStep step accepts covers) {names : List Bytes}
    {mask mask' : CollectCategory} (hfold : names.foldlM step mask = .ok mask') (c : Category) :
    mask'.Selects c ↔ mask.Selects c ∨ ∃ name ∈ names, covers name c := by
  induction names generalizing mask with
  | nil =>
    cases hfold
    simp
  | cons name names ih =>
    rw [List.foldlM_cons] at hfold
    cases hstep : step mask name with
    | error e =>
      rw [hstep] at hfold
      cases hfold
    | ok next =>
      rw [hstep] at hfold
      rw [ih hfold, h.selects_iff hstep c, or_assoc, List.exists_mem_cons_iff]

end Fold

/-! ## The two front ends -/

/-- The name of a category. -/
def IsCategory (name : Bytes) : Prop := ∃ c : Category, name = c.name

/-- The lookup in the table of names. -/
theorem find_category (name : Bytes) :
    (∃ c : Category, name = c.name ∧
      cliCategories.find? (fun entry => name = entry.1) = some (c.name, c.flag)) ∨
    (¬ IsCategory name ∧ cliCategories.find? (fun entry => name = entry.1) = none) := by
  have htable : cliCategories = Category.all.map fun c => (c.name, c.flag) := rfl
  rw [htable, List.find?_map]
  cases hfind : Category.all.find? ((fun entry : Bytes × CollectCategory => decide (name = entry.1)) ∘
      fun c => (c.name, c.flag)) with
  | none =>
    refine Or.inr ⟨?_, rfl⟩
    rintro ⟨c, hname⟩
    have hc := List.find?_eq_none.1 hfind c c.mem_all
    simp [hname] at hc
  | some c =>
    have hc := List.find?_some hfind
    exact Or.inl ⟨c, by simpa using hc, rfl⟩

theorem selectCategory_step :
    ListStep selectCategory IsCategory fun name c => name = c.name where
  ok_iff := by
    intro mask name
    unfold selectCategory
    rcases find_category name with ⟨c, hname, hfind⟩ | ⟨hname, hfind⟩
    · rw [hfind]
      exact iff_of_true ⟨_, rfl⟩ ⟨c, hname⟩
    · rw [hfind]
      refine iff_of_false ?_ hname
      rintro ⟨mask', ⟨⟩⟩
  selects_iff := by
    intro mask name mask' hstep c
    unfold selectCategory at hstep
    rcases find_category name with ⟨d, rfl, hfind⟩ | ⟨-, hfind⟩
    · rw [hfind] at hstep
      cases hstep
      rw [selects_or, flag_selects_iff]
      exact or_congr_right ⟨fun h => h ▸ rfl, fun h => (Category.name_injective h).symm⟩
    · rw [hfind] at hstep
      cases hstep

/-- The names the Python binding accepts. -/
def PythonAccepts (name : Bytes) : Prop := name = "all" ∨ IsCategory name

/-- No category has the empty name or the name of all of them. -/
theorem not_isCategory : ¬ IsCategory [] ∧ ¬ IsCategory "all" := by
  have h : ∀ c ∈ Category.all, [] ≠ c.name ∧ bytes "all" ≠ c.name := by decide
  refine ⟨?_, ?_⟩
  · rintro ⟨c, hname⟩
    exact (h c c.mem_all).1 hname
  · rintro ⟨c, hname⟩
    exact (h c c.mem_all).2 hname

theorem parseCategoryName_step :
    ListStep Python.parseCategoryName PythonAccepts fun name c => name = "all" ∨ name = c.name where
  ok_iff := by
    intro mask name
    unfold Python.parseCategoryName PythonAccepts
    by_cases hnil : name = []
    · subst hnil
      refine iff_of_false ?_ ?_
      · rintro ⟨mask', ⟨⟩⟩
      · rintro (hname | hname)
        · exact absurd hname (by decide)
        · exact not_isCategory.1 hname
    by_cases hall : name = "all"
    · rw [if_neg hnil, if_pos hall]
      exact iff_of_true ⟨_, rfl⟩ (Or.inl hall)
    rw [if_neg hnil, if_neg hall, Python.addCategory]
    have htable : Python.kCategories = cliCategories := rfl
    rcases find_category name with ⟨c, hname, hfind⟩ | ⟨hname, hfind⟩
    · rw [htable, hfind]
      exact iff_of_true ⟨_, rfl⟩ (Or.inr ⟨c, hname⟩)
    · rw [htable, hfind]
      refine iff_of_false ?_ (not_or.2 ⟨hall, hname⟩)
      rintro ⟨mask', ⟨⟩⟩
  selects_iff := by
    intro mask name mask' hstep c
    unfold Python.parseCategoryName at hstep
    by_cases hnil : name = []
    · rw [if_pos hnil] at hstep
      cases hstep
    by_cases hall : name = "all"
    · rw [if_neg hnil, if_pos hall] at hstep
      cases hstep
      exact iff_of_true (all_selects c) (Or.inr (Or.inl hall))
    have htable : Python.kCategories = cliCategories := rfl
    rw [if_neg hnil, if_neg hall, Python.addCategory, htable] at hstep
    rcases find_category name with ⟨d, rfl, hfind⟩ | ⟨-, hfind⟩
    · rw [hfind] at hstep
      cases hstep
      rw [selects_or, flag_selects_iff]
      refine or_congr_right ⟨fun h => Or.inr (h ▸ rfl), ?_⟩
      rintro (h | h)
      · exact absurd h hall
      · exact (Category.name_injective h).symm
    · rw [hfind] at hstep
      cases hstep

/-! ## Whole lists -/

/-- The names of a list. -/
def listNames (text : Bytes) : List Bytes := text.splitOn 44

/-- The tool accepts a list. -/
def CliAcceptsList (text : Bytes) : Prop := ∃ mask, parseCategories text = .ok mask

/-- The Python binding accepts a `str`. -/
def PythonAcceptsList (text : Bytes) : Prop :=
  ∃ mask, Python.parseCategories (.str (some text)) = .ok mask

section Lists

variable {text : Bytes}

theorem python_parseCategories (h : 0 ∉ text) :
    Python.parseCategories (.str (some text)) =
      (listNames text).foldlM Python.parseCategoryName .none := by
  rw [Python.parseCategories, cString_eq_self h, listNames]

theorem pythonAcceptsList_iff (h : 0 ∉ text) :
    PythonAcceptsList text ↔ ∀ name ∈ listNames text, name = "all" ∨ IsCategory name := by
  rw [PythonAcceptsList, python_parseCategories h]
  exact parseCategoryName_step.foldlM_ok_iff _ _

/-- A list other than `all` and the two that are refused as a whole. -/
theorem parseCategories_eq (hall : text ≠ "all") (hempty : ¬ (text = "none" ∨ text = [])) :
    parseCategories text = (getlines 44 text).foldlM selectCategory .none := by
  rw [parseCategories, if_neg hall, if_neg hempty]

theorem parseCategories_refused (h : text = "none" ∨ text = []) : ¬ CliAcceptsList text := by
  rintro ⟨mask, hmask⟩
  have hall : text ≠ "all" := by
    rcases h with rfl | rfl <;> decide
  rw [parseCategories, if_neg hall, if_pos h] at hmask
  cases hmask

theorem cliAcceptsList_names (h : CliAcceptsList text) (hall : text ≠ "all") :
    ∀ name ∈ getlines 44 text, IsCategory name := by
  have hempty : ¬ (text = "none" ∨ text = []) := fun hempty => parseCategories_refused hempty h
  rw [CliAcceptsList, parseCategories_eq hall hempty] at h
  exact (selectCategory_step.foldlM_ok_iff _ _).1 h

theorem all_notMem (h : CliAcceptsList text) (hall : text ≠ "all") :
    bytes "all" ∉ listNames text := by
  intro hmem
  rw [listNames, splitOn_eq_getlines] at hmem
  rcases List.mem_append.1 hmem with hmem | hmem
  · exact not_isCategory.2 (cliAcceptsList_names h hall _ hmem)
  · split at hmem
    · exact absurd (List.mem_singleton.1 hmem) (by decide)
    · exact absurd hmem List.not_mem_nil

/-- When no name is empty, `getline` delivers every name. -/
theorem getlines_eq_listNames (h : [] ∉ listNames text) : getlines 44 text = listNames text := by
  have hsplit := splitOn_eq_getlines 44 text
  rw [← listNames] at hsplit
  split at hsplit
  · rw [hsplit] at h
    exact absurd (List.mem_append_right _ (List.mem_singleton.2 rfl)) h
  · rw [hsplit, List.append_nil]

/-- Without a comma at the end, and with `all` alone or not at all, the front ends agree. -/
theorem cliAcceptsList_iff (h : 0 ∉ text) (hlast : text.getLast? ≠ some 44)
    (hall : bytes "all" ∈ listNames text → text = "all") :
    CliAcceptsList text ↔ PythonAcceptsList text := by
  rw [pythonAcceptsList_iff h]
  by_cases htext : text = "all"
  · subst htext
    refine iff_of_true ⟨.all, by decide⟩ fun name hname => Or.inl ?_
    have hnames : listNames "all" = ["all"] := by decide
    rw [hnames] at hname
    exact List.mem_singleton.1 hname
  by_cases hnil : text = []
  · subst hnil
    refine iff_of_false (parseCategories_refused (Or.inr rfl)) fun hnames => ?_
    rcases hnames [] (by decide) with hname | hname
    · exact absurd hname (by decide)
    · exact not_isCategory.1 hname
  by_cases hnone : text = "none"
  · subst hnone
    refine iff_of_false (parseCategories_refused (Or.inl rfl)) fun hnames => ?_
    rcases hnames "none" (by decide) with hname | ⟨c, hname⟩
    · exact absurd hname (by decide)
    · revert hname
      cases c <;> decide
  have hlines : listNames text = getlines 44 text := by
    rw [listNames, splitOn_eq_getlines, if_neg (not_or.2 ⟨hnil, hlast⟩), List.append_nil]
  rw [CliAcceptsList, parseCategories_eq htext (not_or.2 ⟨hnone, hnil⟩),
    selectCategory_step.foldlM_ok_iff, hlines]
  refine forall₂_congr fun name hname => ⟨Or.inr, ?_⟩
  rintro (rfl | hcategory)
  · exact absurd (hall (hlines ▸ hname)) htext
  · exact hcategory

/-- The categories a list selects in the Python binding. -/
theorem python_selects_iff (h : 0 ∉ text) {mask : CollectCategory}
    (hmask : Python.parseCategories (.str (some text)) = .ok mask) (c : Category) :
    mask.Selects c ↔ ∃ name ∈ listNames text, name = "all" ∨ name = c.name := by
  rw [python_parseCategories h] at hmask
  rw [parseCategoryName_step.foldlM_selects_iff hmask c, or_iff_right (not_none_selects c)]

/-- What `getline` delivers has every name before the last comma. -/
theorem mem_getlines_of_mem_dropLast {name : Bytes} (h : name ∈ (listNames text).dropLast) :
    name ∈ getlines 44 text := by
  rw [listNames, splitOn_eq_getlines] at h
  split at h
  · rwa [List.dropLast_concat] at h
  · rw [List.append_nil] at h
    exact List.mem_of_mem_dropLast h

end Lists

/-- The two front ends and their lists.  They accept the same lists, if the list does not end with a
comma and `all` is not one of several names, which the tool rejects.  The Python binding accepts a
list exactly if every name is `all` or a category, and it selects the categories with a name in the
list, `all` standing for every category; the tool selects the same when both accept.  The tool
accepts no list other than `all` with another name than those of categories before the last comma.
An empty name is accepted by the binding nowhere, and by the tool not before the last comma. -/
theorem category_lists (text : Bytes) (h : 0 ∉ text) :
    (text.getLast? ≠ some 44 → (bytes "all" ∈ listNames text → text = "all") →
      (CliAcceptsList text ↔ PythonAcceptsList text)) ∧
    (bytes "all" ∈ listNames text → text ≠ "all" → ¬ CliAcceptsList text) ∧
    (PythonAcceptsList text ↔ ∀ name ∈ listNames text, name = "all" ∨ IsCategory name) ∧
    (∀ mask, Python.parseCategories (.str (some text)) = .ok mask → ∀ c : Category,
      mask.Selects c ↔ ∃ name ∈ listNames text, name = "all" ∨ name = c.name) ∧
    (∀ mask mask', parseCategories text = .ok mask →
      Python.parseCategories (.str (some text)) = .ok mask' → ∀ c : Category,
        (mask.Selects c ↔ mask'.Selects c) ∧
        (mask.Selects c ↔ ∃ name ∈ listNames text, name = "all" ∨ name = c.name)) ∧
    (CliAcceptsList text → text ≠ "all" → ∀ name ∈ (listNames text).dropLast, IsCategory name) ∧
    ([] ∈ listNames text → ¬ PythonAcceptsList text) ∧
    ([] ∈ (listNames text).dropLast → ¬ CliAcceptsList text) := by
  have hempty : [] ∈ listNames text → ¬ PythonAcceptsList text := by
    intro hmem haccepts
    rcases (pythonAcceptsList_iff h).1 haccepts [] hmem with hname | hname
    · exact absurd hname (by decide)
    · exact not_isCategory.1 hname
  have hbefore : CliAcceptsList text → text ≠ "all" →
      ∀ name ∈ (listNames text).dropLast, IsCategory name := fun haccepts htext name hname =>
    cliAcceptsList_names haccepts htext name (mem_getlines_of_mem_dropLast hname)
  refine ⟨cliAcceptsList_iff h, fun hmem htext haccepts => all_notMem haccepts htext hmem,
    pythonAcceptsList_iff h, fun mask => python_selects_iff h, ?_, hbefore, hempty, ?_⟩
  · intro mask mask' hmask hmask' c
    have hpython := python_selects_iff h hmask' c
    have hcli : mask.Selects c ↔ ∃ name ∈ listNames text, name = "all" ∨ name = c.name := by
      by_cases htext : text = "all"
      · subst htext
        cases hmask
        exact iff_of_true (all_selects c) ⟨"all", by decide, Or.inl rfl⟩
      · have hall := all_notMem ⟨mask, hmask⟩ htext
        have hlines := getlines_eq_listNames fun hmem => hempty hmem ⟨mask', hmask'⟩
        have hwhole : ¬ (text = "none" ∨ text = []) :=
          fun hwhole => parseCategories_refused hwhole ⟨mask, hmask⟩
        rw [parseCategories_eq htext hwhole] at hmask
        rw [selectCategory_step.foldlM_selects_iff hmask c, or_iff_right (not_none_selects c), hlines]
        refine exists_congr fun name => and_congr_right fun hname => (or_iff_right ?_).symm
        rintro rfl
        exact hall hname
    exact ⟨hcli.trans hpython.symm, hcli⟩
  · intro hmem haccepts
    by_cases htext : text = "all"
    · subst htext
      revert hmem
      decide
    · exact not_isCategory.1 (hbefore haccepts htext [] hmem)

theorem category_lists_cpu : CliAcceptsList "cpu,isa" ↔ PythonAcceptsList "cpu,isa" :=
  (category_lists "cpu,isa" (by decide)).1 (by decide) (by decide)

/-- A comma at the end is accepted by the tool alone, `all` beside another name by the binding
alone. -/
theorem category_lists_differ :
    (CliAcceptsList "os," ∧ ¬ PythonAcceptsList "os,") ∧
    (¬ CliAcceptsList "all,os" ∧ PythonAcceptsList "all,os") := by
  refine ⟨⟨⟨.os, by decide⟩, ?_⟩, ?_, ⟨.all, by decide⟩⟩
  · rintro ⟨mask, hmask⟩
    have herror : Python.parseCategories (.str (some "os,")) =
        .error (.valueError "category names must not be empty") := by decide
    rw [herror] at hmask
    cases hmask
  · rintro ⟨mask, hmask⟩
    have herror : parseCategories "all,os" = .error "unknown category 'all'" := by decide
    rw [herror] at hmask
    cases hmask

end Archspec
