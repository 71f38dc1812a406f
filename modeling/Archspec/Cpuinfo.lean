import Archspec.Readings

/-!
# The blocks of cpuinfo

`parseColonBlocks` fills one map after another as it goes over the lines.  Here its result is given
by the text alone: blank lines separate the stanzas, a line with a colon is an entry of its stanza,
a stanza without entries is no block, and the last entry of a key is the one that counts
(`parseColonBlocks_eq`, `lookup_blockOf`).
-/

namespace Archspec

open Lib Program

/-! ## Stanzas -/

/-- The key and the value of a line with a colon. -/
def lineEntry (line : Bytes) : Option (Bytes × Bytes) :=
  (splitFirst 58 line).map fun entry => (trim entry.1, trim entry.2)

/-- The line holds only blanks. -/
def isBlankLine (line : Bytes) : Bool := (trim line).isEmpty

/-- The entries of each run of lines between blank lines, of the runs that have any. -/
def stanzas (text : Bytes) : List (List (Bytes × Bytes)) :=
  (((lines text).splitOnP isBlankLine).map fun run => run.filterMap lineEntry).filter (· ≠ [])

/-- The map filled with entries in turn. -/
def blockOf (entries : List (Bytes × Bytes)) : KeyValueMap :=
  entries.foldl (fun block entry => block.insert entry.1 entry.2) ∅

/-- The last entry of a key. -/
def lastEntry (entries : List (Bytes × Bytes)) (key : Bytes) : Option Bytes :=
  entries.reverse.lookup key

theorem blockOf_concat (entries : List (Bytes × Bytes)) (key value : Bytes) :
    blockOf (entries ++ [(key, value)]) = (blockOf entries).insert key value := by
  rw [blockOf, List.foldl_append]
  rfl

theorem lookup_blockOf (entries : List (Bytes × Bytes)) (key : Bytes) :
    (blockOf entries).lookup key = lastEntry entries key := by
  induction entries using List.reverseRecOn with
  | nil => rfl
  | append_singleton entries entry ih =>
    obtain ⟨k, value⟩ := entry
    rw [blockOf_concat, lastEntry, List.reverse_append, List.reverse_singleton,
      List.singleton_append, List.lookup_cons]
    by_cases h : key = k
    · subst h
      rw [Finmap.lookup_insert, beq_self_eq_true]
    · rw [Finmap.lookup_insert_of_ne _ h, ih, beq_false_of_ne h]
      rfl

/-- The value of a key in a block, empty values not counted. -/
theorem mapValue_blockOf (entries : List (Bytes × Bytes)) (key : Bytes) :
    mapValue (blockOf entries) key = (lastEntry entries key).filter (· ≠ []) := by
  rw [mapValue, lookup_blockOf]

theorem blockOf_eq_empty_iff (entries : List (Bytes × Bytes)) : blockOf entries = ∅ ↔ entries = [] := by
  constructor
  · intro h
    cases entries using List.reverseRecOn with
    | nil => rfl
    | append_singleton entries entry =>
      have hkey := lookup_blockOf (entries ++ [entry]) entry.1
      rw [h, lastEntry, List.reverse_append, List.reverse_singleton, List.singleton_append,
        List.lookup_cons_self] at hkey
      exact absurd hkey (by simp)
  · rintro rfl
    rfl

/-! ## The parse -/

/-- The blocks of a state of the line loop at the end of the text. -/
def finishedBlocks (state : List KeyValueMap × KeyValueMap) : List KeyValueMap :=
  if state.2 = ∅ then state.1 else state.1 ++ [state.2]

/-- The blocks of the runs of lines, when the first run goes on with entries read before. -/
def blocksOfRuns (entries : List (Bytes × Bytes)) : List (List Bytes) → List KeyValueMap
  | [] => []
  | run :: runs =>
    (((entries ++ run.filterMap lineEntry) :: runs.map (·.filterMap lineEntry)).filter
      (· ≠ [])).map blockOf

theorem finishedBlocks_append (blocks : List KeyValueMap) (entries : List (Bytes × Bytes)) :
    finishedBlocks (blocks, blockOf entries) = blocks ++ ([entries].filter (· ≠ [])).map blockOf := by
  rw [finishedBlocks]
  by_cases h : entries = []
  · rw [if_pos ((blockOf_eq_empty_iff entries).2 h)]
    simp [h]
  · rw [if_neg (fun hb => h ((blockOf_eq_empty_iff entries).1 hb))]
    simp [h]

/-- A blank line ends the block of the entries read. -/
theorem colonBlocksLine_blank (blocks : List KeyValueMap) (entries : List (Bytes × Bytes))
    {line : Bytes} (h : trim line = []) :
    colonBlocksLine (blocks, blockOf entries) line =
      (blocks ++ ([entries].filter (· ≠ [])).map blockOf, blockOf []) := by
  rw [← finishedBlocks_append, finishedBlocks, colonBlocksLine, if_pos h]
  dsimp only
  split
  · rename_i hb
    rw [hb]
    rfl
  · rfl

/-- Any other line adds its entry. -/
theorem colonBlocksLine_entry (blocks : List KeyValueMap) (entries : List (Bytes × Bytes))
    {line : Bytes} (h : trim line ≠ []) :
    colonBlocksLine (blocks, blockOf entries) line =
      (blocks, blockOf (entries ++ (lineEntry line).toList)) := by
  rw [colonBlocksLine, if_neg h, lineEntry]
  cases splitFirst 58 line with
  | none => rw [Option.map_none, Option.toList_none, List.append_nil]
  | some entry => rw [Option.map_some, Option.toList_some, blockOf_concat]

/-- The line loop, from any finished blocks and any entries of the pending one. -/
theorem finishedBlocks_foldl (ls : List Bytes) (blocks : List KeyValueMap)
    (entries : List (Bytes × Bytes)) :
    finishedBlocks (ls.foldl colonBlocksLine (blocks, blockOf entries)) =
      blocks ++ blocksOfRuns entries (ls.splitOnP isBlankLine) := by
  induction ls generalizing blocks entries with
  | nil =>
    rw [List.foldl_nil, finishedBlocks_append, List.splitOnP_nil, blocksOfRuns]
    simp
  | cons line ls ih =>
    rw [List.foldl_cons, List.splitOnP_cons_eq_if_modifyHead]
    obtain ⟨run, runs, hruns⟩ := List.exists_cons_of_ne_nil (List.splitOnP_ne_nil isBlankLine ls)
    by_cases h : trim line = []
    · rw [if_pos (by simp [isBlankLine, h]), colonBlocksLine_blank blocks entries h, ih, hruns]
      simp [blocksOfRuns, List.filter_cons]
      split <;> simp
    · rw [if_neg (by simp [isBlankLine, h]), colonBlocksLine_entry blocks entries h, ih, hruns,
        List.modifyHead_cons, blocksOfRuns, blocksOfRuns, List.append_assoc]
      cases hline : lineEntry line with
      | none => simp [hline]
      | some entry => simp [hline]

/-- The blocks of a text are its stanzas. -/
theorem parseColonBlocks_eq (text : Bytes) : parseColonBlocks text = (stanzas text).map blockOf := by
  have h := finishedBlocks_foldl (lines text) [] []
  obtain ⟨run, runs, hruns⟩ :=
    List.exists_cons_of_ne_nil (List.splitOnP_ne_nil isBlankLine (lines text))
  rw [hruns, List.nil_append, blocksOfRuns, List.nil_append] at h
  rw [stanzas, hruns, List.map_cons]
  exact h

/-! ## How many blocks there are -/

theorem length_getlines_le (delim : UInt8) (s : Bytes) : (getlines delim s).length ≤ s.length := by
  induction s with
  | nil => exact Nat.le_refl _
  | cons c s ih =>
    rw [getlines]
    split
    · simpa using ih
    · split
      · simp
      · rename_i l ls hlines
        rw [hlines] at ih
        simp only [List.length_cons] at ih ⊢
        omega

theorem length_runs_le (ls : List Bytes) :
    ((ls.splitOnP isBlankLine).filter (· ≠ [])).length ≤ ls.length := by
  induction ls with
  | nil => simp
  | cons line ls ih =>
    rw [List.splitOnP_cons_eq_if_modifyHead]
    obtain ⟨run, runs, hruns⟩ := List.exists_cons_of_ne_nil (List.splitOnP_ne_nil isBlankLine ls)
    rw [hruns] at ih ⊢
    split
    · simpa using Nat.le_succ_of_le ih
    · have hle := (List.Sublist.filter (· ≠ []) (List.sublist_cons_self run runs)).length_le
      simp only [List.modifyHead_cons, List.filter_cons, ne_eq, reduceCtorEq, not_false_eq_true,
        decide_true, if_true, List.length_cons] at hle ih ⊢
      omega

theorem length_stanzas_le (text : Bytes) : (stanzas text).length ≤ text.length := by
  calc (stanzas text).length
      ≤ (((lines text).splitOnP isBlankLine).filter (· ≠ [])).length := by
        rw [stanzas, List.filter_map, List.length_map, ← List.countP_eq_length_filter,
          ← List.countP_eq_length_filter]
        apply List.countP_mono_left
        intro run _ h
        rw [decide_eq_true_eq]
        rintro rfl
        simp at h
    _ ≤ (lines text).length := length_runs_le (lines text)
    _ ≤ text.length := length_getlines_le 10 text

end Archspec
