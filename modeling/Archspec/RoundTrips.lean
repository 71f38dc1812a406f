import Archspec.Collectors.Machine
import Archspec.Cpuinfo
import Archspec.Lib.Lines

/-!
# Blocks and assignments as they are written

`RendersBlocks` says that lines render a list of maps, and `WritesPairs` that lines are the
assignments of an os-release file.  `parseColonBlocks` and `parseOsRelease` read back what was
written (`parseColonBlocks_render`, `parseOsRelease_render`).
-/

namespace Archspec

open Lib

/-! ## Entries -/

/-- The entries of the map, in some order. -/
def Lists (entries : List (Bytes × Bytes)) (block : KeyValueMap) : Prop :=
  (entries.map Prod.fst).Nodup ∧
    ∀ key value, block.lookup key = some value ↔ (key, value) ∈ entries

theorem lookup_eq_some_iff {entries : List (Bytes × Bytes)} (h : (entries.map Prod.fst).Nodup)
    (key value : Bytes) : entries.lookup key = some value ↔ (key, value) ∈ entries := by
  induction entries with
  | nil => simp
  | cons entry entries ih =>
    obtain ⟨k, v⟩ := entry
    obtain ⟨hk, h⟩ := List.nodup_cons.1 h
    rw [List.lookup_cons, List.mem_cons, Prod.mk.injEq]
    by_cases hkey : key = k
    · subst hkey
      have hnot : (key, value) ∉ entries := fun hmem => hk (List.mem_map.2 ⟨_, hmem, rfl⟩)
      simp [hnot, eq_comm]
    · rw [beq_false_of_ne hkey, ih h]
      simp [hkey]

/-- A map is filled with its entries in any order. -/
theorem lookup_blockOf_iff {entries : List (Bytes × Bytes)} (h : (entries.map Prod.fst).Nodup)
    (key value : Bytes) : (blockOf entries).lookup key = some value ↔ (key, value) ∈ entries := by
  have hreverse : (entries.reverse.map Prod.fst).Nodup := by
    rw [List.map_reverse]
    exact List.nodup_reverse.2 h
  rw [lookup_blockOf, lastEntry, lookup_eq_some_iff hreverse, List.mem_reverse]

theorem Lists.blockOf_eq {entries : List (Bytes × Bytes)} {block : KeyValueMap}
    (h : Lists entries block) : blockOf entries = block := by
  apply Finmap.ext_lookup
  intro key
  apply Option.ext
  intro value
  rw [lookup_blockOf_iff h.1, h.2]

/-! ## Blocks -/

/-- A line that is neither blank nor has a colon. -/
def IsRemark (line : Bytes) : Prop := ¬ Blank line ∧ 58 ∉ line

instance (line : Bytes) : Decidable (IsRemark line) := inferInstanceAs (Decidable (_ ∧ _))

/-- The key, a colon and the value, with blanks around the two. -/
def IsEntryLine (key value line : Bytes) : Prop :=
  ∃ a b c d, Blank a ∧ Blank b ∧ Blank c ∧ Blank d ∧
    line = a ++ (key ++ b) ++ 58 :: (c ++ (value ++ d))

/-- The lines of the entries of one map, remarks among them. -/
inductive RendersEntries : List (Bytes × Bytes) → List Bytes → Prop where
  | nil : RendersEntries [] []
  | remark {line : Bytes} {entries : List (Bytes × Bytes)} {ls : List Bytes} (hline : IsRemark line)
      (hrest : RendersEntries entries ls) : RendersEntries entries (line :: ls)
  | entry {key value line : Bytes} {entries : List (Bytes × Bytes)} {ls : List Bytes}
      (hline : IsEntryLine key value line) (hrest : RendersEntries entries ls) :
      RendersEntries ((key, value) :: entries) (line :: ls)

/-- The lines of a list of maps: blank lines separate the maps, and may stand around them, as remarks
may anywhere. -/
inductive RendersBlocks : List KeyValueMap → List Bytes → Prop where
  | nil {ls : List Bytes} (hls : ∀ line ∈ ls, Blank line ∨ IsRemark line) : RendersBlocks [] ls
  | cons {gap ls rest : List Bytes} {entries : List (Bytes × Bytes)} {block : KeyValueMap}
      {blocks : List KeyValueMap} (hgap : ∀ line ∈ gap, Blank line ∨ IsRemark line)
      (hentries : Lists entries block) (hls : RendersEntries entries ls)
      (hseparated : blocks = [] ∨ ∃ line ∈ rest.head?, Blank line)
      (hrest : RendersBlocks blocks rest) : RendersBlocks (block :: blocks) (gap ++ (ls ++ rest))

/-- Keys and values that can be told from the blanks and the colon around them. -/
def Renderable (block : KeyValueMap) : Prop :=
  ∀ key value, block.lookup key = some value → Trimmed key ∧ Trimmed value ∧ 58 ∉ key

theorem finishedBlocks_empty (done : List KeyValueMap) : finishedBlocks (done, ∅) = done := if_pos rfl

theorem colonBlocksLine_of_blank (state : List KeyValueMap × KeyValueMap) {line : Bytes}
    (h : Blank line) : colonBlocksLine state line = (finishedBlocks state, ∅) := by
  rw [colonBlocksLine, if_pos (trim_eq_nil_iff.2 h), finishedBlocks]
  by_cases hcurrent : state.2 = ∅
  · rw [if_pos hcurrent, if_pos hcurrent, ← hcurrent]
  · rw [if_neg hcurrent, if_neg hcurrent]

theorem colonBlocksLine_of_remark (state : List KeyValueMap × KeyValueMap) {line : Bytes}
    (h : IsRemark line) : colonBlocksLine state line = state := by
  rw [colonBlocksLine, if_neg fun hnil => h.1 (trim_eq_nil_iff.1 hnil), splitFirst_eq_none h.2]

theorem colonBlocksLine_of_entry (state : List KeyValueMap × KeyValueMap) {key value line : Bytes}
    (h : IsEntryLine key value line) (hkey : Trimmed key) (hvalue : Trimmed value)
    (hcolon : 58 ∉ key) :
    colonBlocksLine state line = (state.1, state.2.insert key value) := by
  obtain ⟨a, b, c, d, ha, hb, hc, hd, rfl⟩ := h
  have hnot : ∀ {s : Bytes}, Blank s → (58 : UInt8) ∉ s := by
    intro s hs hmem
    exact absurd (hs 58 hmem) (by decide)
  have hbefore : (58 : UInt8) ∉ a ++ (key ++ b) := by
    simp only [List.mem_append, not_or]
    exact ⟨hnot ha, hcolon, hnot hb⟩
  have hne : trim (a ++ (key ++ b) ++ 58 :: (c ++ (value ++ d))) ≠ [] := by
    intro hnil
    have hblank := trim_eq_nil_iff.1 hnil
    exact hnot hblank (List.mem_append_right _ List.mem_cons_self)
  rw [colonBlocksLine, if_neg hne, splitFirst_append hbefore]
  dsimp only
  rw [trim_padded key ha hb, trim_padded value hc hd, trim_of_trimmed hkey, trim_of_trimmed hvalue]

/-- The entries of a map are added to the pending one. -/
theorem foldl_entries {entries : List (Bytes × Bytes)} {ls : List Bytes}
    (h : RendersEntries entries ls)
    (hentries : ∀ entry ∈ entries, Trimmed entry.1 ∧ Trimmed entry.2 ∧ 58 ∉ entry.1)
    (done : List KeyValueMap) (before : List (Bytes × Bytes)) :
    ls.foldl colonBlocksLine (done, blockOf before) = (done, blockOf (before ++ entries)) := by
  induction h generalizing before with
  | nil => rw [List.append_nil, List.foldl_nil]
  | remark hline _ ih => rw [List.foldl_cons, colonBlocksLine_of_remark _ hline, ih hentries]
  | @entry key value line entries ls hline _ ih =>
    obtain ⟨⟨hkey, hvalue, hcolon⟩, hentries⟩ := List.forall_mem_cons.1 hentries
    rw [List.foldl_cons, colonBlocksLine_of_entry _ hline hkey hvalue hcolon, ← blockOf_concat,
      ih hentries, List.append_assoc, List.singleton_append]

/-- Blank lines and remarks only finish the pending map. -/
theorem finishedBlocks_foldl_gap {gap : List Bytes}
    (hgap : ∀ line ∈ gap, Blank line ∨ IsRemark line) (state : List KeyValueMap × KeyValueMap) :
    finishedBlocks (gap.foldl colonBlocksLine state) = finishedBlocks state := by
  induction gap generalizing state with
  | nil => rfl
  | cons line gap ih =>
    obtain ⟨hline, hgap⟩ := List.forall_mem_cons.1 hgap
    rw [List.foldl_cons, ih hgap]
    rcases hline with hline | hline
    · rw [colonBlocksLine_of_blank state hline, finishedBlocks_empty]
    · rw [colonBlocksLine_of_remark state hline]

/-- With no pending map they change nothing. -/
theorem foldl_gap {gap : List Bytes} (hgap : ∀ line ∈ gap, Blank line ∨ IsRemark line)
    (done : List KeyValueMap) : gap.foldl colonBlocksLine (done, ∅) = (done, ∅) := by
  induction gap with
  | nil => rfl
  | cons line gap ih =>
    obtain ⟨hline, hgap⟩ := List.forall_mem_cons.1 hgap
    rw [List.foldl_cons]
    rcases hline with hline | hline
    · rw [colonBlocksLine_of_blank _ hline, finishedBlocks_empty, ih hgap]
    · rw [colonBlocksLine_of_remark _ hline, ih hgap]

/-- The line loop over the lines of a list of maps, with no pending map in front of them. -/
theorem finishedBlocks_foldl_render {blocks : List KeyValueMap} {ls : List Bytes}
    (h : RendersBlocks blocks ls) (hblocks : ∀ block ∈ blocks, block ≠ ∅ ∧ Renderable block)
    (done : List KeyValueMap) :
    finishedBlocks (ls.foldl colonBlocksLine (done, ∅)) = done ++ blocks := by
  induction h generalizing done with
  | nil hls => rw [foldl_gap hls, finishedBlocks_empty, List.append_nil]
  | @cons gap ls rest entries block blocks hgap hentries hls hseparated hrest ih =>
    obtain ⟨⟨hne, hrenderable⟩, hblocks⟩ := List.forall_mem_cons.1 hblocks
    have hentries' : ∀ entry ∈ entries, Trimmed entry.1 ∧ Trimmed entry.2 ∧ 58 ∉ entry.1 :=
      fun entry hentry => hrenderable _ _ ((hentries.2 entry.1 entry.2).2 hentry)
    have hpending := foldl_entries hls hentries' done []
    rw [List.nil_append, hentries.blockOf_eq] at hpending
    have hfinished : finishedBlocks (done, block) = done ++ [block] := if_neg hne
    rw [List.foldl_append, List.foldl_append, foldl_gap hgap]
    refine (congrArg (fun state => finishedBlocks (rest.foldl colonBlocksLine state)) hpending).trans ?_
    rcases hseparated with rfl | ⟨line, hline, hblank⟩
    · cases hrest with
      | nil hrest => rw [finishedBlocks_foldl_gap hrest, hfinished]
    · -- the blank line finishes the map, and would change nothing after it was finished
      obtain ⟨rest, rfl⟩ := List.head?_eq_some_iff.1 hline
      have hih := ih hblocks (done ++ [block])
      rw [List.foldl_cons, colonBlocksLine_of_blank _ hblank] at hih ⊢
      rw [hfinished]
      rw [finishedBlocks_empty, List.append_assoc, List.singleton_append] at hih
      exact hih

/-- A rendered list of maps is read back. -/
theorem parseColonBlocks_render (blocks : List KeyValueMap) (ls : List Bytes) (text : Bytes)
    (hblocks : ∀ block ∈ blocks, block ≠ ∅ ∧ Renderable block) (hls : RendersBlocks blocks ls)
    (htext : Writes ls text) : parseColonBlocks text = blocks := by
  have hparse : parseColonBlocks text =
      finishedBlocks ((lines text).foldl colonBlocksLine ([], ∅)) := rfl
  have hrender := finishedBlocks_foldl_render hls hblocks []
  rw [List.nil_append] at hrender
  rw [hparse, ← hrender]
  rcases lines_of_writes htext with hlines | hlines
  · rw [hlines]
  · have hempty : ∀ line ∈ [([] : Bytes)], Blank line ∨ IsRemark line :=
      List.forall_mem_singleton.2 (Or.inl blank_nil)
    rw [hlines, List.foldl_append, finishedBlocks_foldl_gap hempty]

theorem lists_blockOf {entries : List (Bytes × Bytes)} (h : (entries.map Prod.fst).Nodup) :
    Lists entries (blockOf entries) := ⟨h, lookup_blockOf_iff h⟩

theorem renderable_of_entries {entries : List (Bytes × Bytes)} {block : KeyValueMap}
    (h : Lists entries block)
    (hentries : ∀ entry ∈ entries, Trimmed entry.1 ∧ Trimmed entry.2 ∧ 58 ∉ entry.1) :
    Renderable block :=
  fun key value hvalue => hentries (key, value) ((h.2 key value).1 hvalue)

theorem parseColonBlocks_render_two :
    parseColonBlocks "processor\t: 0\n# none\nflags : a:b\n \nprocessor:1" =
      [blockOf [("processor", "0"), ("flags", "a:b")], blockOf [("processor", "1")]] := by
  have hfirst : Lists [("processor", "0"), ("flags", "a:b")] _ := lists_blockOf (by decide)
  have hsecond : Lists [("processor", "1")] _ := lists_blockOf (by decide)
  refine parseColonBlocks_render _ ["processor\t: 0", "# none", "flags : a:b", " ", "processor:1"] _ ?_
    ?_ ⟨by decide, Or.inr (by decide)⟩
  · refine List.forall_mem_cons.2 ⟨⟨?_, ?_⟩, List.forall_mem_singleton.2 ⟨?_, ?_⟩⟩
    · exact fun h => nomatch (blockOf_eq_empty_iff _).1 h
    · exact renderable_of_entries hfirst (by decide)
    · exact fun h => nomatch (blockOf_eq_empty_iff _).1 h
    · exact renderable_of_entries hsecond (by decide)
  · refine @RendersBlocks.cons [] _ [" ", "processor:1"] _ _ _ (by decide) hfirst
      (.entry ?_ (.remark (by decide) (.entry ?_ .nil))) (Or.inr ⟨" ", rfl, by decide⟩)
      (@RendersBlocks.cons [" "] _ [] _ _ _ ?_ hsecond (.entry ?_ .nil) (Or.inl rfl) (.nil (by decide)))
    · exact ⟨[], "\t", " ", [], by decide, by decide, by decide, by decide, by decide⟩
    · exact ⟨[], " ", " ", [], by decide, by decide, by decide, by decide, by decide⟩
    · exact List.forall_mem_singleton.2 (Or.inl (by decide))
    · exact ⟨[], [], [], [], by decide, by decide, by decide, by decide, by decide⟩

/-! ## Assignments -/

/-- A letter, a digit or an underscore. -/
def isKeyByte (c : UInt8) : Bool :=
  (48 ≤ c && c ≤ 57) || (65 ≤ c && c ≤ 90) || (97 ≤ c && c ≤ 122) || c == 95

/-- A byte of a value that is written without quotes: also a dot or a dash. -/
def isBareByte (c : UInt8) : Bool := isKeyByte c || c == 46 || c == 45

/-- A byte between double quotes: a backslash stands before a double quote, a backslash, a dollar and a
backquote. -/
def quotedByte (c : UInt8) : Bytes :=
  if c = 34 ∨ c = 92 ∨ c = 36 ∨ c = 96 then [92, c] else [c]

/-- The ways a value may be written. -/
inductive Encodes (value : Bytes) : Bytes → Prop where
  | bare (hne : value ≠ []) (hvalue : ∀ c ∈ value, isBareByte c = true) : Encodes value value
  | single (hvalue : 39 ∉ value) : Encodes value (39 :: (value ++ [39]))
  | double : Encodes value (34 :: (value.flatMap quotedByte ++ [34]))

/-- A line that is no assignment: a blank line, a comment, or a line without an equals sign. -/
def IsSkipped (line : Bytes) : Prop :=
  Blank line ∨ (∃ a comment, Blank a ∧ line = a ++ 35 :: comment) ∨ 61 ∉ line

/-- The lines of the assignments, one a line, with blanks around them and other lines among them. -/
inductive WritesPairs : List (Bytes × Bytes) → List Bytes → Prop where
  | nil : WritesPairs [] []
  | skipped {line : Bytes} {pairs : List (Bytes × Bytes)} {ls : List Bytes} (hline : IsSkipped line)
      (hrest : WritesPairs pairs ls) : WritesPairs pairs (line :: ls)
  | assignment {a b key value encoded : Bytes} {pairs : List (Bytes × Bytes)} {ls : List Bytes}
      (ha : Blank a) (hb : Blank b) (hvalue : Encodes value encoded) (hrest : WritesPairs pairs ls) :
      WritesPairs ((key, value) :: pairs) ((a ++ (key ++ 61 :: encoded ++ b)) :: ls)

theorem keyByte_facts : ∀ c, isKeyByte c = true → isSpace c = false ∧ c ≠ 35 ∧ c ≠ 61 :=
  forall_byte (by decide +kernel)

theorem bareByte_facts : ∀ c, isBareByte c = true → isSpace c = false ∧ c ≠ 34 ∧ c ≠ 39 :=
  forall_byte (by decide +kernel)

/-- Only double quotes take backslashes away. -/
theorem unescape_single (s : Bytes) : unescape 39 false s = s := by
  induction s with
  | nil => rfl
  | cons c s ih =>
    rw [unescape, if_neg Bool.false_ne_true, if_neg fun h => absurd h.1 (by decide), ih]

/-- The backslashes that double quotes need are taken away. -/
theorem unescape_quoted (s : Bytes) : unescape 34 false (s.flatMap quotedByte) = s := by
  induction s with
  | nil => rfl
  | cons c s ih =>
    rw [List.flatMap_cons, quotedByte]
    split
    · rw [List.cons_append, List.singleton_append, unescape, if_neg Bool.false_ne_true,
        if_pos ⟨rfl, rfl⟩, unescape, if_pos rfl, ih]
    · rename_i hc
      rw [List.singleton_append, unescape, if_neg Bool.false_ne_true,
        if_neg fun h => hc (Or.inr (Or.inl h.2)), ih]

/-- A text in quotes is unescaped between them. -/
theorem unquoteValue_quotes {quote : UInt8} (hquote : quote = 34 ∨ quote = 39) (s : Bytes) :
    unquoteValue (quote :: (s ++ [quote])) = unescape quote false s := by
  have htrimmed : Trimmed (quote :: (s ++ [quote])) := by
    have hspace : isSpace quote = false := by rcases hquote with rfl | rfl <;> decide
    constructor
    · rintro c ⟨⟩
      exact hspace
    · intro c hc
      rw [← List.cons_append, List.getLast?_concat] at hc
      cases hc
      exact hspace
  obtain ⟨c, t, ht⟩ := List.exists_cons_of_ne_nil (List.append_ne_nil_of_right_ne_nil s
    (List.cons_ne_nil quote []))
  have hlast : (c :: t).getLast? = some quote := by rw [← ht, List.getLast?_concat]
  have hguard : ¬ ((quote ≠ 34 ∧ quote ≠ 39) ∨ (c :: t).getLast? ≠ some quote) := by
    rintro (⟨h34, h39⟩ | hne)
    · exact hquote.elim h34 h39
    · exact hne hlast
  rw [unquoteValue, trim_of_trimmed htrimmed, ht]
  dsimp only
  rw [if_neg hguard, ← ht, List.dropLast_concat]

/-- Trimming leaves an encoded value alone. -/
theorem Encodes.trimmed {value encoded : Bytes} (h : Encodes value encoded) : Trimmed encoded := by
  cases h with
  | bare _ hvalue =>
    exact ⟨fun c hc => (bareByte_facts c (hvalue c (List.mem_of_mem_head? hc))).1,
      fun c hc => (bareByte_facts c (hvalue c (List.mem_of_mem_getLast? hc))).1⟩
  | single =>
    refine ⟨by rintro c ⟨⟩; decide, fun c hc => ?_⟩
    rw [← List.cons_append, List.getLast?_concat] at hc
    cases hc
    decide
  | double =>
    refine ⟨by rintro c ⟨⟩; decide, fun c hc => ?_⟩
    rw [← List.cons_append, List.getLast?_concat] at hc
    cases hc
    decide

theorem Encodes.ne_nil {value encoded : Bytes} (h : Encodes value encoded) : encoded ≠ [] := by
  cases h with
  | bare hne => exact hne
  | single => exact List.cons_ne_nil _ _
  | double => exact List.cons_ne_nil _ _

/-- An encoded value is decoded. -/
theorem unquoteValue_encoded {value encoded : Bytes} (h : Encodes value encoded) :
    unquoteValue encoded = value := by
  cases h with
  | bare hne hvalue =>
    rw [unquoteValue, trim_of_trimmed (Encodes.bare hne hvalue).trimmed]
    split
    · rename_i quote c s
      obtain ⟨-, h34, h39⟩ := bareByte_facts quote (hvalue quote List.mem_cons_self)
      exact if_pos (Or.inl ⟨h34, h39⟩)
    · rfl
  | single => rw [unquoteValue_quotes (Or.inr rfl), unescape_single]
  | double => rw [unquoteValue_quotes (Or.inl rfl), unescape_quoted]

theorem osReleaseLine_skipped (values : KeyValueMap) {line : Bytes} (h : IsSkipped line) :
    osReleaseLine values line = values := by
  rw [osReleaseLine]
  rcases h with hblank | ⟨a, comment, ha, rfl⟩ | hequals
  · rw [trim_eq_nil_iff.2 hblank]
    rfl
  · exact if_pos (Or.inr (head?_trim ha (by decide) comment))
  · rw [splitFirst_eq_none fun hmem => hequals (mem_of_mem_trim hmem)]
    exact ite_self values

theorem osReleaseLine_assignment (values : KeyValueMap) {a b key value encoded : Bytes}
    (ha : Blank a) (hb : Blank b) (hkey : ∀ c ∈ key, isKeyByte c = true)
    (hvalue : Encodes value encoded) :
    osReleaseLine values (a ++ (key ++ 61 :: encoded ++ b)) = values.insert key value := by
  have hequals : (61 : UInt8) ∉ key := fun hmem => (keyByte_facts 61 (hkey 61 hmem)).2.2 rfl
  have hkeyTrim : trim key = key := trim_of_blankFree fun c hc => (keyByte_facts c (hkey c hc)).1
  obtain ⟨c, hc, hspace, hcomment⟩ : ∃ c, (key ++ 61 :: encoded).head? = some c ∧
      isSpace c = false ∧ c ≠ 35 := by
    cases key with
    | nil => exact ⟨61, rfl, by decide, by decide⟩
    | cons c key =>
      obtain ⟨hspace, hcomment, -⟩ := keyByte_facts c (hkey c List.mem_cons_self)
      exact ⟨c, rfl, hspace, hcomment⟩
  have htrimmed : Trimmed (key ++ 61 :: encoded) := by
    constructor
    · intro d hd
      rw [hc] at hd
      cases hd
      exact hspace
    · have hlast : (key ++ 61 :: encoded).getLast? = encoded.getLast? := by
        rw [List.getLast?_append, List.getLast?_cons, List.getLast?_eq_some_getLast hvalue.ne_nil]
        rfl
      rw [hlast]
      exact hvalue.trimmed.2
  rw [osReleaseLine, trim_padded _ ha hb, trim_of_trimmed htrimmed, hc,
    if_neg (by simp [hcomment]), splitFirst_append hequals]
  dsimp only
  rw [hkeyTrim, unquoteValue_encoded hvalue]

theorem foldl_osReleaseLine {pairs : List (Bytes × Bytes)} {ls : List Bytes}
    (h : WritesPairs pairs ls) (hkeys : ∀ pair ∈ pairs, ∀ c ∈ pair.1, isKeyByte c = true)
    (before : List (Bytes × Bytes)) :
    ls.foldl osReleaseLine (blockOf before) = blockOf (before ++ pairs) := by
  induction h generalizing before with
  | nil => rw [List.append_nil, List.foldl_nil]
  | skipped hline _ ih => rw [List.foldl_cons, osReleaseLine_skipped _ hline, ih hkeys]
  | assignment ha hb hvalue _ ih =>
    obtain ⟨hkey, hkeys⟩ := List.forall_mem_cons.1 hkeys
    rw [List.foldl_cons, osReleaseLine_assignment _ ha hb hkey hvalue, ← blockOf_concat, ih hkeys,
      List.append_assoc, List.singleton_append]

/-- The assignments of an os-release text are read back. -/
theorem parseOsRelease_render (pairs : List (Bytes × Bytes)) (ls : List Bytes) (text : Bytes)
    (hdistinct : (pairs.map Prod.fst).Nodup)
    (hkeys : ∀ pair ∈ pairs, ∀ c ∈ pair.1, isKeyByte c = true) (hls : WritesPairs pairs ls)
    (htext : Writes ls text) : Lists pairs (parseOsRelease text) := by
  have hfold := foldl_osReleaseLine hls hkeys []
  have hparse : parseOsRelease text = blockOf pairs := by
    rw [List.nil_append] at hfold
    rw [← hfold, parseOsRelease]
    rcases lines_of_writes htext with hlines | hlines
    · rw [hlines]
      rfl
    · rw [hlines, List.foldl_append, List.foldl_cons, List.foldl_nil,
        osReleaseLine_skipped _ (Or.inl blank_nil)]
      rfl
  rw [hparse]
  exact ⟨hdistinct, lookup_blockOf_iff hdistinct⟩

theorem parseOsRelease_render_three :
    Lists [("ID", "x.y"), ("NAME", "it's"), ("A", "")]
      (parseOsRelease "#\nID=x.y\n NAME=\"it's\"\t\n\nnone\nA=''\n") := by
  refine parseOsRelease_render _ ["#", "ID=x.y", " NAME=\"it's\"\t", "", "none", "A=''"] _ (by decide)
    (by decide) ?_ ⟨by decide, Or.inl (by decide)⟩
  refine .skipped (Or.inr (Or.inl ⟨[], [], by decide, rfl⟩)) ?_
  refine @WritesPairs.assignment [] [] _ _ "x.y" _ _ (by decide) (by decide)
    (.bare (by decide) (by decide)) ?_
  refine @WritesPairs.assignment " " "\t" _ _ "\"it's\"" _ _ (by decide) (by decide) .double ?_
  refine .skipped (Or.inl (by decide)) (.skipped (Or.inr (Or.inr (by decide))) ?_)
  exact @WritesPairs.assignment [] [] _ _ "''" _ _ (by decide) (by decide) (.single (by decide)) .nil

end Archspec
