import Archspec.Readings
import Archspec.Numbers

/-!
# Memory fields

`parseMeminfoValues` keeps the numbers of the lines that have one.  With at most one line for a key
the field of the key is the number of that line (`lookup_meminfo`), and a line without a number
leaves no trace: a field tells an absent line from a malformed one exactly when no line of its key is
malformed (`memory_told_iff`).
-/

namespace Archspec

open Lib Program

/-! ## Lines -/

/-- The key of a line with a colon. -/
def lineKey (line : Bytes) : Option Bytes := (splitFirst 58 line).map fun parts => trim parts.1

/-- The first word behind the colon. -/
def lineWord (line : Bytes) : Option Bytes := (splitFirst 58 line).bind fun parts => (splitWords parts.2).head?

/-- The lines that carry a key. -/
def linesOf (text key : Bytes) : List Bytes := (lines text).filter fun line => lineKey line = some key

theorem meminfoLine_lookup (values : MeminfoMap) (line key : Bytes) :
    (meminfoLine values line).lookup key =
      if lineKey line = some key then ((lineWord line).bind parseU64).or (values.lookup key)
      else values.lookup key := by
  rw [meminfoLine, lineKey, lineWord]
  cases splitFirst 58 line with
  | none => rfl
  | some parts =>
    obtain ⟨before, rest⟩ := parts
    rw [Option.map_some, Option.bind_some]
    dsimp only
    cases ((splitWords rest).head?).bind parseU64 with
    | none => rw [Option.none_or, ite_self]
    | some value =>
      by_cases hkey : trim before = key
      · subst hkey
        rw [if_pos rfl]
        exact Finmap.lookup_insert _
      · rw [if_neg fun h => hkey (Option.some.inj h)]
        exact Finmap.lookup_insert_of_ne _ (Ne.symm hkey)

/-- The last number that a line of the key has. -/
theorem lookup_parseMeminfoValues (text key : Bytes) :
    (parseMeminfoValues text).lookup key =
      (linesOf text key).reverse.findSome? fun line => (lineWord line).bind parseU64 := by
  rw [parseMeminfoValues, linesOf]
  induction lines text using List.reverseRecOn with
  | nil => rfl
  | append_singleton ls line ih =>
    rw [List.foldl_append, List.foldl_cons, List.foldl_nil, meminfoLine_lookup, ih, List.filter_append,
      List.reverse_append, List.filter_singleton]
    by_cases hkey : lineKey line = some key
    · rw [if_pos hkey, decide_eq_true hkey, cond_true, List.reverse_singleton, List.singleton_append,
        List.findSome?_cons]
      cases (lineWord line).bind parseU64 <;> rfl
    · rw [if_neg hkey, decide_eq_false hkey, cond_false, List.reverse_nil, List.nil_append]

/-- The number of the one line of a key. -/
theorem lookup_meminfo {text key : Bytes} (hone : (linesOf text key).length ≤ 1) :
    (parseMeminfoValues text).lookup key =
      (linesOf text key).head?.bind fun line => (lineWord line).bind parseU64 := by
  rw [lookup_parseMeminfoValues]
  match hlines : linesOf text key with
  | [] => rfl
  | [line] =>
    rw [List.reverse_singleton, List.findSome?_singleton]
    rfl
  | line :: line' :: rest =>
    rw [hlines] at hone
    exact absurd hone (by simp)

/-! ## Fields -/

/-- The field has the number of the line of its key, is malformed when that line has none, and is absent
only when there is no such line. -/
structure ToldApart (text key : Bytes) (field : U64Field) : Prop where
  number : ∀ line ∈ linesOf text key, ∀ word ∈ lineWord line, ∀ n, IsU64 word n → field = .ofValue n
  malformed : ∀ line ∈ linesOf text key, (∀ word ∈ lineWord line, ∀ n, ¬ IsU64 word n) →
    field.status = .parseError
  absent : field.status = .notFound → linesOf text key = []

/-- Of a text with at most one line for the key, the field of the key tells an absent line from a
malformed one exactly when every line of the key has a number. -/
theorem toldApart_iff {text key : Bytes} (hone : (linesOf text key).length ≤ 1) :
    ToldApart text key (meminfoField (parseMeminfoValues text) key) ↔
      ∀ line ∈ linesOf text key, ∃ word ∈ lineWord line, ∃ n, IsU64 word n := by
  have hfield : meminfoField (parseMeminfoValues text) key =
      ((linesOf text key).head?.bind fun line => (lineWord line).bind parseU64).elim
        (.unavailable .notFound) .ofValue := by
    rw [meminfoField, lookup_meminfo hone]
    cases (linesOf text key).head?.bind fun line => (lineWord line).bind parseU64 <;> rfl
  constructor
  · intro h line hline
    by_contra hnone
    have hmalformed := h.malformed line hline fun word hword n hn => hnone ⟨word, hword, n, hn⟩
    rw [hfield] at hmalformed
    cases hvalue : (linesOf text key).head?.bind fun line => (lineWord line).bind parseU64 with
    | none =>
      rw [hvalue] at hmalformed
      cases hmalformed
    | some value =>
      rw [hvalue] at hmalformed
      cases hmalformed
  · intro h
    match hlines : linesOf text key with
    | [] =>
      rw [hlines] at hfield
      exact ⟨by simp [hlines], by simp [hlines], fun _ => hlines⟩
    | [line] =>
      obtain ⟨word, hword, n, hn⟩ := h line (by simp [hlines])
      have hvalue : meminfoField (parseMeminfoValues text) key = .ofValue n := by
        rw [hfield, hlines, List.head?_cons, Option.bind_some, hword, Option.bind_some,
          parseU64_of_isU64 hn, Option.elim_some]
      rw [hvalue]
      refine ⟨fun line' hline' word' hword' n' hn' => ?_, fun line' hline' hnone => ?_, nofun⟩
      · rw [hlines, List.mem_singleton] at hline'
        subst hline'
        obtain rfl := Option.some.inj (hword.symm.trans hword')
        have heq := (parseU64_of_isU64 hn).symm.trans (parseU64_of_isU64 hn')
        rw [Option.some.inj heq]
      · rw [hlines, List.mem_singleton] at hline'
        subst hline'
        exact absurd hn (hnone word hword n)
    | line :: line' :: rest =>
      rw [hlines] at hone
      exact absurd hone (by simp)

/-- The fields that are read from the system-wide file, with their keys. -/
def systemKeys : List (Bytes × (MemoryInfo → U64Field)) :=
  [("MemTotal", (·.totalKb)), ("MemFree", (·.freeKb)), ("MemAvailable", (·.availableKb)),
    ("Buffers", (·.buffersKb)), ("Cached", (·.cachedKb)), ("SwapTotal", (·.swapTotalKb)),
    ("SwapFree", (·.swapFreeKb)), ("Hugepagesize", (·.hugepageSizeKb)),
    ("HugePages_Total", (·.hugepagesTotal)), ("HugePages_Free", (·.hugepagesFree))]

/-- The fields that are read from the file of a NUMA node; the number of the node stands in front of the
key. -/
def nodeKeys : List (Bytes × (NumaNodeInfo → U64Field)) :=
  [(" MemTotal", (·.totalKb)), (" MemFree", (·.freeKb))]

/-- The directories of the NUMA nodes. -/
def nodeRoot (options : CollectOptions) : Bytes := sysPath options "/devices/system/node"

/-- A field that the memory collector reads from a text under a key. -/
inductive Env.MemoryField (env : Env) (options : CollectOptions) : Bytes → Bytes → U64Field → Prop where
  | system {text key : Bytes} {field : MemoryInfo → U64Field}
      (htext : env.text (procPath options "/meminfo") = some text)
      (hkey : (key, field) ∈ systemKeys) :
      env.MemoryField options text key (field ((collectMemory options).run env))
  | node {entry : EntryName} {id : UInt64} {text key : Bytes} {field : NumaNodeInfo → U64Field}
      {info : NumaNodeInfo} (hentry : entry ∈ env.names (nodeRoot options))
      (hid : numberedEntry "node" entry.name = some id)
      (htext : env.text (joinPath (joinPath (nodeRoot options) entry.name) "meminfo") = some text)
      (hinfo : (numaNode (nodeRoot options) entry).run env = some info)
      (hkey : (key, field) ∈ nodeKeys) :
      env.MemoryField options text (bytes "Node " ++ decimal id.toNat ++ key) (field info)

section Run

variable (env : Env) (options : CollectOptions)

/-- The NUMA nodes of the report are those of the directories. -/
theorem run_collectMemory_numaNodes :
    ((collectMemory options).run env).numaNodes =
      (env.names (nodeRoot options)).filterMap fun entry =>
        (numaNode (nodeRoot options) entry).run env := by
  simp only [collectMemory, collectNumaNodes, run_bind, run_pure, run_gather, run_listDir, nodeRoot]

theorem meminfoFileField_ok {path text : Bytes} (htext : env.text path = some text) (key : Bytes) :
    meminfoFileField ((readFile path).run env) key = meminfoField (parseMeminfoValues text) key := by
  rw [run_readFile, htext]
  rfl

theorem run_collectMemory_field {key : Bytes} {field : MemoryInfo → U64Field}
    (hkey : (key, field) ∈ systemKeys) :
    field ((collectMemory options).run env) =
      meminfoFileField ((readFile (procPath options "/meminfo")).run env) key := by
  have hfields : ∀ entry ∈ systemKeys, entry.2 ((collectMemory options).run env) =
      meminfoFileField ((readFile (procPath options "/meminfo")).run env) entry.1 := by
    simp only [collectMemory, run_bind, run_pure, systemKeys, List.forall_mem_cons,
      List.not_mem_nil, false_implies, implies_true, and_self]
  exact hfields _ hkey

theorem run_numaNode_field {entry : EntryName} {id : UInt64} {key : Bytes}
    {field : NumaNodeInfo → U64Field} {info : NumaNodeInfo}
    (hid : numberedEntry "node" entry.name = some id)
    (hinfo : (numaNode (nodeRoot options) entry).run env = some info) (hkey : (key, field) ∈ nodeKeys) :
    field info = meminfoFileField
      ((readFile (joinPath (joinPath (nodeRoot options) entry.name) "meminfo")).run env)
      (bytes "Node " ++ decimal id.toNat ++ key) := by
  unfold numaNode at hinfo
  rw [hid] at hinfo
  simp only [run_bind, run_pure] at hinfo
  obtain rfl := Option.some.inj hinfo
  obtain hkey | hkey := List.mem_pair.mp hkey
  · cases hkey
    rfl
  · cases hkey
    rfl

/-- The fields of every NUMA node of the report come from the text of a numbered directory. -/
theorem exists_memoryField {info : NumaNodeInfo}
    (h : info ∈ ((collectMemory options).run env).numaNodes) :
    ∃ entry ∈ env.names (nodeRoot options), ∃ id, numberedEntry "node" entry.name = some id ∧
      ∀ text ∈ env.text (joinPath (joinPath (nodeRoot options) entry.name) "meminfo"),
        ∀ key field, (key, field) ∈ nodeKeys →
          env.MemoryField options text (bytes "Node " ++ decimal id.toNat ++ key) (field info) := by
  rw [run_collectMemory_numaNodes] at h
  obtain ⟨entry, hentry, hinfo⟩ := List.mem_filterMap.mp h
  refine ⟨entry, hentry, ?_⟩
  cases hid : numberedEntry "node" entry.name with
  | none =>
    unfold numaNode at hinfo
    rw [hid] at hinfo
    cases hinfo
  | some id => exact ⟨id, rfl, fun text htext key field hkey => .node hentry hid htext hinfo hkey⟩

/-- A field of the memory section is a field of the map of its text. -/
theorem Env.MemoryField.eq {env : Env} {options : CollectOptions} {text key : Bytes} {field : U64Field}
    (h : env.MemoryField options text key field) :
    field = meminfoField (parseMeminfoValues text) key := by
  cases h with
  | system htext hkey => rw [run_collectMemory_field env options hkey, meminfoFileField_ok env htext]
  | node hentry hid htext hinfo hkey =>
    rw [run_numaNode_field env options hid hinfo hkey, meminfoFileField_ok env htext]

/-- A field that the memory collector reads tells an absent line from a malformed one exactly when no
line of its key is malformed. -/
theorem memory_told_iff (env : Env) (options : CollectOptions) {text key : Bytes} {field : U64Field}
    (h : env.MemoryField options text key field) (hone : (linesOf text key).length ≤ 1) :
    ToldApart text key field ↔ ∀ line ∈ linesOf text key, ∃ word ∈ lineWord line, ∃ n, IsU64 word n := by
  rw [h.eq, toldApart_iff hone]

end Run

/-- A host with this meminfo and nothing else. -/
def Env.ofMeminfo (meminfo : OpenFile) : Env := .ofFiles [("/proc/meminfo", meminfo)]

theorem memory_told_iff_swap :
    ToldApart "MemTotal: 8 kB\nSwapFree: 7 kB\n" "SwapFree"
      ((collectMemory {}).run (Env.ofMeminfo { content := bytes "MemTotal: 8 kB\nSwapFree: 7 kB\n" })).swapFreeKb := by
  have hfield : Env.MemoryField (Env.ofMeminfo { content := bytes "MemTotal: 8 kB\nSwapFree: 7 kB\n" }) {}
      "MemTotal: 8 kB\nSwapFree: 7 kB\n" "SwapFree"
      ((collectMemory {}).run (Env.ofMeminfo { content := bytes "MemTotal: 8 kB\nSwapFree: 7 kB\n" })).swapFreeKb :=
    .system (by decide) (by simp [systemKeys])
  apply (memory_told_iff _ {} hfield (by decide)).2
  intro line hline
  have hword : lineWord line = some "7" := by
    revert line
    decide
  have hvalue : IsU64 "7" 7 := (parseU64_iff_isU64 (by decide) 7).1 (by decide)
  exact ⟨"7", hword, 7, hvalue⟩

/-- A line whose word is no number leaves its field absent. -/
theorem memory_told_malformed :
    Env.MemoryField (Env.ofMeminfo { content := bytes "MemTotal: x kB\n" }) {} "MemTotal: x kB\n" "MemTotal"
        ((collectMemory {}).run (Env.ofMeminfo { content := bytes "MemTotal: x kB\n" })).totalKb ∧
      (linesOf "MemTotal: x kB\n" "MemTotal").length ≤ 1 ∧
      ¬ ToldApart "MemTotal: x kB\n" "MemTotal"
        ((collectMemory {}).run (Env.ofMeminfo { content := bytes "MemTotal: x kB\n" })).totalKb := by
  refine ⟨.system (by decide) (by simp [systemKeys]), by decide, fun h => ?_⟩
  have habsent := h.absent (by decide)
  revert habsent
  decide

end Archspec
