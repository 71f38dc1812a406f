import Archspec.Internal

/-!
# Where a composed path leads

A path is read component by component: an empty component and `.` stay, `..` goes up, any other
component goes down.  `walk` follows components from a depth and fails when they climb above it, and
`Within root depth path` says that the path is the root followed by a remainder that ends at the
depth or deeper and never climbs above the root.

`Within.join` is the rule of `joinPath`; every path of a collector is built with it, from a literal
suffix, a directory name (`Within.join_name`) or the last component of a link target
(`Within.join_basename`).  A file in a subdirectory has the path `joinPath_file`.
-/

namespace Archspec

open Lib

/-! ## Components -/

/-- The components of a path. -/
def components (path : Bytes) : List Bytes := path.splitOn 47

/-- One component from a depth; none when it climbs above depth zero. -/
def descend (depth : ℕ) (c : Bytes) : Option ℕ :=
  if c = [] ∨ c = "." then some depth
  else if c = ".." then if depth = 0 then none else some (depth - 1)
  else some (depth + 1)

/-- Follow components from a depth. -/
def walk (depth : ℕ) (cs : List Bytes) : Option ℕ := cs.foldlM descend depth

theorem walk_append (depth : ℕ) (cs ds : List Bytes) :
    walk depth (cs ++ ds) = (walk depth cs).bind fun depth => walk depth ds :=
  List.foldlM_append

theorem descend_mono {depth depth' e : ℕ} {c : Bytes} (h : descend depth c = some e)
    (hle : depth ≤ depth') : ∃ e', e ≤ e' ∧ descend depth' c = some e' := by
  unfold descend at h ⊢
  split at h
  · rw [if_pos ‹_›]
    cases h
    exact ⟨depth', hle, rfl⟩
  · rw [if_neg ‹_›]
    split at h
    · rw [if_pos ‹_›]
      split at h
      · cases h
      · cases h
        exact ⟨depth' - 1, by omega, if_neg (by omega)⟩
    · rw [if_neg ‹_›]
      cases h
      exact ⟨depth' + 1, by omega, rfl⟩

/-- From a greater depth the walk ends at a greater depth. -/
theorem walk_mono {depth depth' e : ℕ} {cs : List Bytes} (h : walk depth cs = some e)
    (hle : depth ≤ depth') : ∃ e', e ≤ e' ∧ walk depth' cs = some e' := by
  induction cs generalizing depth depth' with
  | nil =>
    cases h
    exact ⟨depth', hle, rfl⟩
  | cons c cs ih =>
    rw [walk, List.foldlM_cons, Option.bind_eq_bind, Option.bind_eq_some_iff] at h
    obtain ⟨d, hd, hcs⟩ := h
    obtain ⟨d', hd', hstep⟩ := descend_mono hd hle
    obtain ⟨e', he', hrest⟩ := ih hcs hd'
    refine ⟨e', he', ?_⟩
    rw [walk, List.foldlM_cons, hstep]
    exact hrest

theorem components_append (s t : Bytes) :
    components (s ++ 47 :: t) = components s ++ components t :=
  List.splitOn_append_cons_self s t

theorem components_of_notMem {s : Bytes} (h : 47 ∉ s) : components s = [s] :=
  List.splitOn_eq_singleton h

/-- A leading separator adds an empty component. -/
theorem walk_components_slash (depth : ℕ) (s : Bytes) :
    walk depth (components (47 :: s)) = walk depth (components s) := by
  rw [← List.nil_append (47 :: s), components_append, walk_append]
  rfl

/-- The last component of a path. -/
def lastComponent (path : Bytes) : Bytes := path.rtakeWhile (· ≠ 47)

theorem lastComponent_append (s t : Bytes) : lastComponent (s ++ 47 :: t) = lastComponent t := by
  rw [lastComponent, lastComponent, List.rtakeWhile, List.rtakeWhile, List.reverse_append,
    List.reverse_cons, List.append_assoc, List.takeWhile_append]
  split
  · rename_i h
    rw [(List.takeWhile_prefix _).eq_of_length h, List.singleton_append,
      List.takeWhile_cons_of_neg (by simp), List.append_nil]
  · rfl

/-! ## Staying within a root -/

/-- A configured root as a path; the empty root counts as `/`. -/
def effectiveRoot (root : Bytes) : Bytes := if root = [] then "/" else root

/-- The path is the root and a remainder, separated by a `/`, that leads at least `depth` levels
below the root without climbing above it on the way. -/
def Within (root : Bytes) (depth : ℕ) (path : Bytes) : Prop :=
  ∃ rest e, path = effectiveRoot root ++ rest ∧
    (rest = [] ∨ rest.head? = some 47 ∨ (effectiveRoot root).getLast? = some 47) ∧
    walk 0 (components rest) = some e ∧ depth ≤ e

theorem Within.root (root : Bytes) : Within root 0 (effectiveRoot root) :=
  ⟨[], 0, (List.append_nil _).symm, Or.inl rfl, rfl, le_rfl⟩

theorem Within.mono {root path : Bytes} {depth depth' : ℕ} (h : Within root depth path)
    (hle : depth' ≤ depth) : Within root depth' path := by
  obtain ⟨rest, e, hpath, hsep, hwalk, he⟩ := h
  exact ⟨rest, e, hpath, hsep, hwalk, hle.trans he⟩

theorem effectiveRoot_ne_nil (root : Bytes) : effectiveRoot root ≠ [] := by
  unfold effectiveRoot
  split
  · decide
  · assumption

/-- What `joinPath` puts behind a path that is not `/`: the suffix, led by one `/`. -/
theorem joinPath_of_ne {path : Bytes} (hne : path ≠ []) (hroot : path ≠ "/") {c : UInt8}
    (s : Bytes) :
    joinPath path (c :: s) = path ++ 47 :: (if c = 47 then s else c :: s) := by
  rw [joinPath, if_neg (by simp [hne, hroot])]
  split
  · rename_i h
    rw [h]
  · rfl

theorem walk_components_trim (depth : ℕ) (c : UInt8) (s : Bytes) :
    walk depth (components (if c = 47 then s else c :: s)) = walk depth (components (c :: s)) := by
  split
  · rename_i h
    rw [h, walk_components_slash]
  · rfl

/-- The rule of path composition. -/
theorem Within.join {root path suffix : Bytes} {depth e : ℕ} (h : Within root depth path)
    (hwalk : walk depth (components suffix) = some e) : Within root e (joinPath path suffix) := by
  obtain ⟨rest, d, rfl, hsep, hrest, hd⟩ := h
  obtain ⟨e', he', hwalk'⟩ := walk_mono hwalk hd
  cases suffix with
  | nil =>
    cases hwalk
    exact ⟨rest, d, rfl, hsep, hrest, hd⟩
  | cons c s =>
    rw [← walk_components_trim] at hwalk'
    by_cases hroot : effectiveRoot root ++ rest = "/"
    · have hlen := congrArg List.length hroot
      have hpos := List.length_pos_iff.2 (effectiveRoot_ne_nil root)
      rw [List.length_append, show (bytes "/").length = 1 from rfl] at hlen
      obtain rfl : rest = [] := List.length_eq_zero_iff.1 (by omega)
      obtain rfl : 0 = d := Option.some.inj hrest
      rw [List.append_nil] at hroot
      refine ⟨if c = 47 then s else c :: s, e', ?_, Or.inr (Or.inr (by rw [hroot]; rfl)),
        hwalk', he'⟩
      rw [List.append_nil, hroot, joinPath, if_pos (Or.inr rfl)]
      rfl
    · rw [joinPath_of_ne (by simp [effectiveRoot_ne_nil]) hroot, List.append_assoc]
      refine ⟨rest ++ 47 :: _, e', rfl, Or.inr ?_, ?_, he'⟩
      · rcases hsep with rfl | hsep | hsep
        · exact Or.inl rfl
        · exact Or.inl (by rw [List.head?_append, hsep]; rfl)
        · exact Or.inr hsep
      · rw [components_append, walk_append, hrest]
        exact hwalk'

/-- A single component that is not `..` stays below. -/
theorem walk_components_name (depth : ℕ) {name : Bytes} (hslash : 47 ∉ name) (hdots : name ≠ "..") :
    ∃ e, depth ≤ e ∧ walk depth (components name) = some e := by
  rw [components_of_notMem hslash, walk, List.foldlM_cons, descend, if_neg hdots]
  split
  · exact ⟨depth, le_rfl, rfl⟩
  · exact ⟨depth + 1, Nat.le_succ depth, rfl⟩

/-- A directory name leads down. -/
theorem Within.join_name {root path : Bytes} {depth : ℕ} (h : Within root depth path)
    (entry : EntryName) : Within root depth (joinPath path entry.name) := by
  obtain ⟨e, he, hwalk⟩ := walk_components_name depth entry.no_slash entry.ne_dots
  exact (h.join hwalk).mono he

/-- A directory name and a suffix below it. -/
theorem Within.join_name_append {root path suffix : Bytes} {depth e : ℕ}
    (h : Within root depth path) (entry : EntryName)
    (hwalk : walk depth (components suffix) = some e) :
    Within root e (joinPath path (entry.name ++ 47 :: suffix)) := by
  obtain ⟨d, hd, hname⟩ := walk_components_name depth entry.no_slash entry.ne_dots
  obtain ⟨e', he', hsuffix⟩ := walk_mono hwalk hd
  refine (h.join ?_).mono he'
  rw [components_append, walk_append, hname]
  exact hsuffix

/-- `basename` leaves no separator, the root path apart. -/
theorem basename_notMem (path : Bytes) : basename path = "/" ∨ 47 ∉ basename path := by
  unfold basename
  split
  · exact Or.inr List.not_mem_nil
  · simp only
    split
    · exact Or.inl rfl
    · refine Or.inr fun h => ?_
      exact absurd (List.mem_rtakeWhile_imp h) (by decide)

/-- The last component of a link target leads at most one level up. -/
theorem Within.join_basename {root path : Bytes} {depth : ℕ} (h : Within root (depth + 1) path)
    (target : Bytes) : Within root depth (joinPath path (basename target)) := by
  rcases basename_notMem target with hbase | hslash
  · rw [hbase]
    exact (h.join (e := depth + 1) rfl).mono (Nat.le_succ depth)
  · by_cases hdots : basename target = ".."
    · rw [hdots]
      exact h.join (e := depth) rfl
    · obtain ⟨e, he, hwalk⟩ := walk_components_name (depth + 1) hslash hdots
      exact (h.join hwalk).mono (by omega)

theorem joinPath_empty (suffix : Bytes) : joinPath [] suffix = joinPath "/" suffix ∨ suffix = [] := by
  cases suffix with
  | nil => exact Or.inr rfl
  | cons c s => exact Or.inl rfl

/-- A path composed from a configured root and a suffix that is not empty. -/
theorem Within.ofRoot (root : Bytes) {suffix : Bytes} {e : ℕ} (hne : suffix ≠ [])
    (hwalk : walk 0 (components suffix) = some e) : Within root e (joinPath root suffix) := by
  have h := (Within.root root).join hwalk
  unfold effectiveRoot at h
  split at h
  · rename_i hroot
    rw [hroot, (joinPath_empty suffix).resolve_right hne]
    rwa [← hroot]
  · exact h

/-- The last component of a composed path is the one of the suffix. -/
theorem lastComponent_joinPath (path : Bytes) {suffix : Bytes} (hne : suffix ≠ []) :
    lastComponent (joinPath path suffix) = lastComponent suffix := by
  obtain ⟨c, s, rfl⟩ := List.exists_cons_of_ne_nil hne
  have htrim : lastComponent (if c = 47 then s else c :: s) = lastComponent (c :: s) := by
    split
    · rename_i h
      rw [h]
      exact (lastComponent_append [] s).symm
    · rfl
  rw [← htrim]
  by_cases hroot : path = [] ∨ path = "/"
  · rw [joinPath, if_pos hroot]
    exact lastComponent_append [] _
  · rw [not_or] at hroot
    rw [joinPath_of_ne hroot.1 hroot.2, lastComponent_append]

/-! ## Files in subdirectories -/

/-- A directory with the separator behind it. -/
def slashed (root : Bytes) : Bytes := if root = [] ∨ root = "/" then "/" else root ++ "/"

theorem joinPath_name (root : Bytes) {name : Bytes} (hne : name ≠ []) (hslash : 47 ∉ name) :
    joinPath root name = slashed root ++ name := by
  cases name with
  | nil => exact absurd rfl hne
  | cons c rest =>
    have hc : ¬ c = 47 := fun h => hslash (List.mem_cons.mpr (.inl h.symm))
    rw [joinPath, if_neg hc, if_neg hc, slashed]
    split
    · rfl
    · rw [List.append_assoc]
      rfl

theorem length_slashed_pos (root : Bytes) : 0 < (slashed root).length := by
  unfold slashed
  split
  · decide
  · rw [List.length_append]
    exact Nat.lt_add_left _ (by decide)

/-- The path of a file in a subdirectory. -/
theorem joinPath_file (root : Bytes) {name file : Bytes} (hname : name ≠ []) (hslash : 47 ∉ name)
    (hfile : file ≠ []) (hfileSlash : 47 ∉ file) :
    joinPath (joinPath root name) file = slashed root ++ (name ++ 47 :: file) := by
  have hlength : 2 ≤ (joinPath root name).length := by
    have hroot := length_slashed_pos root
    have hpos := List.length_pos_iff.mpr hname
    rw [joinPath_name root hname hslash, List.length_append]
    omega
  have hdir : slashed (joinPath root name) = joinPath root name ++ "/" := by
    refine if_neg ?_
    rintro (h | h) <;> rw [h] at hlength <;> exact absurd hlength (by decide)
  rw [joinPath_name _ hfile hfileSlash, hdir, joinPath_name root hname hslash, List.append_assoc,
    List.append_assoc]
  rfl

end Archspec
