import Archspec.Collectors.Devices
import Archspec.CpuDirs
import Archspec.Numbers
import Archspec.Readings

/-!
# Attribute files

A kernel shows an attribute of a device in a file with one line or as a link, and an attribute that
the device does not have has no file.  `Env.Shows print path shown` and `Env.Links path shown` say
what a path shows, and each reader gives back what was printed for it (`run_readParsed_shows`).
-/

namespace Archspec

open Lib Program

/-! ## What a path shows -/

/-- A line that a driver prints: no line end in it and no blanks around it. -/
structure Line where
  text : Bytes
  trimmed : Trimmed text := by decide
  one_line : 10 ∉ text := by decide

/-- The name at the end of a link. -/
structure LinkName where
  name : Bytes
  ne_nil : name ≠ [] := by decide
  no_separator : ∀ c ∈ name, isSeparator c = false := by decide

/-- The field of an attribute that a device has or has not. -/
def Field.ofOption {α : Type} [Inhabited α] : Option α → Field α
  | some value => .ofValue value
  | none => .unavailable .notFound

/-- The file holds the printed value on a line of its own, or is missing without one. -/
inductive Env.Shows {α : Type} (env : Env) (print : α → Bytes) (path : Bytes) :
    Option α → Prop where
  | value {a : α} {file : OpenFile} (hfile : env (.openFile path) = some file)
      (hgood : file.badLine = false) (hcontent : file.content = print a ++ [10]) :
      Shows env print path (some a)
  | absent (hfile : env (.openFile path) = none)
      (hpath : (env (.pathExists path)).pathErrorStatus = .notFound) : Shows env print path none

/-- The link ends in the name, or is missing without one. -/
inductive Env.Links (env : Env) (path : Bytes) : Option LinkName → Prop where
  | target {link : LinkName} {dir : Bytes}
      (hlink : env (.readSymlink path) = some (dir ++ 47 :: link.name)) : Links env path (some link)
  | absent (hlink : env (.readSymlink path) = none)
      (hpath : (env (.pathExists path)).pathErrorStatus = .notFound) : Links env path none

/-! ## The readers -/

section Attributes

variable {env : Env} {path : Bytes}

theorem firstLine_append {text : Bytes} (h : 10 ∉ text) : firstLine (text ++ [10]) = text := by
  have htext : ∀ c ∈ text, decide (c ≠ 10) = true := by
    intro c hc
    rw [decide_eq_true_eq]
    rintro rfl
    exact h hc
  rw [firstLine, List.takeWhile_append_of_pos htext, List.takeWhile_cons_of_neg (by decide),
    List.append_nil]

/-- A reader that parses what was printed gives the attribute back. -/
theorem run_readParsed_shows {α β : Type} [Inhabited β] {parse : Bytes → Option β}
    {print : α → Bytes} {value : α → β} {shown : Option α}
    (hline : ∀ a ∈ shown, 10 ∉ print a)
    (hparse : ∀ a ∈ shown, parse (print a) = some (value a))
    (h : env.Shows print path shown) :
    (readParsed parse path).run env = .ofOption (shown.map value) := by
  rw [run_readParsed]
  cases h with
  | @value a file hfile hgood hcontent =>
    have htext : env.line path = some (print a) := by
      rw [Env.line, hfile, Option.bind_some, hgood, if_neg Bool.false_ne_true, hcontent,
        firstLine_append (hline a rfl)]
    rw [htext]
    dsimp only
    rw [hparse a rfl]
    rfl
  | absent hfile hpath =>
    have htext : env.line path = none := by
      rw [Env.line, hfile, Option.bind_none]
    rw [htext, Env.failure, hfile]
    dsimp only
    rw [hpath]
    rfl

theorem run_readStringField_shows {shown : Option Line} (h : env.Shows Line.text path shown) :
    (readStringField path).run env = .ofOption (shown.map Line.text) := by
  apply run_readParsed_shows _ _ h
  · exact fun line _ => line.one_line
  · intro line _
    rw [if_pos rfl, trim_of_trimmed line.trimmed]

/-- A number, printed in decimal. -/
def printU64 (n : UInt64) : Bytes := decimal n.toNat

theorem notMem_decimal (n : ℕ) : 10 ∉ decimal n := by
  intro h
  exact forall_decimal (p := (· ≠ 10)) (by decide) n 10 h rfl

/-- The number is scaled, when the product fits. -/
theorem run_readU64Field_shows {shown : Option UInt64} (multiplier : UInt64)
    (hmultiplier : multiplier ≠ 0)
    (hfits : ∀ n ∈ shown, n.toNat * multiplier.toNat < 2 ^ 64)
    (h : env.Shows printU64 path shown) :
    (readU64Field path multiplier).run env = .ofOption (shown.map (· * multiplier)) := by
  apply run_readParsed_shows _ _ h
  · exact fun n _ => notMem_decimal n.toNat
  · intro n hn
    have hparsed : parseU64 (printU64 n) = some n := by
      rw [printU64, parseU64_decimal n.toNat_lt, UInt64.ofNat_toNat]
    have hproduct : (n * multiplier).toNat = n.toNat * multiplier.toNat := by
      rw [UInt64.toNat_mul, Nat.mod_eq_of_lt (hfits n hn)]
    show (parseU64 (printU64 n)).bind _ = _
    rw [hparsed, Option.bind_some]
    exact (scaled_eq_some_iff hmultiplier).2 hproduct

theorem run_readU64Field_shows_one {shown : Option UInt64}
    (h : env.Shows printU64 path shown) : (readU64Field path).run env = .ofOption shown := by
  have hfits : ∀ n ∈ shown, n.toNat * (1 : UInt64).toNat < 2 ^ 64 := by
    intro n _
    have hone : (1 : UInt64).toNat = 1 := rfl
    rw [hone, Nat.mul_one]
    exact n.toNat_lt
  have hread := run_readU64Field_shows 1 (by decide) hfits h
  simpa using hread

theorem isNumeral_decimal (n : ℕ) : IsNumeral (decimal n) n := by
  obtain ⟨run, hrun, hnumeral⟩ := isNumeral_of_numeral (numeral_decimal n)
  rw [List.append_nil] at hrun
  rwa [hrun]

theorem forall_decimalInt {p : UInt8 → Prop} (hminus : p 45) (h : ∀ d < 10, p (48 + d).toUInt8)
    (n : ℤ) : ∀ c ∈ decimalInt n, p c := by
  rw [decimalInt]
  split
  · exact List.forall_mem_cons.2 ⟨hminus, forall_decimal h _⟩
  · exact forall_decimal h _

theorem parseI64_decimalInt (n : Int64) : parseI64 (decimalInt n.toInt) = some n := by
  have hnul : 0 ∉ decimalInt n.toInt := by
    intro h
    exact forall_decimalInt (p := (· ≠ 0)) (by decide) (by decide) n.toInt 0 h rfl
  have htrim : trim (decimalInt n.toInt) = decimalInt n.toInt :=
    trim_of_blankFree (forall_decimalInt (by decide) (by decide) n.toInt)
  rw [parseI64_iff, cString_eq_self hnul]
  by_cases hneg : n.toInt < 0
  · refine ⟨[45], decimal n.toInt.natAbs, n.toInt.natAbs, ?_, isNumeral_decimal _, .inr ⟨rfl, ?_⟩⟩
    · rw [htrim, decimalInt, if_pos hneg]
      rfl
    · omega
  · refine ⟨[], decimal n.toInt.natAbs, n.toInt.natAbs, ?_, isNumeral_decimal _,
      .inl ⟨.inl rfl, ?_⟩⟩
    · rw [htrim, decimalInt, if_neg hneg]
      rfl
    · omega

/-- A signed number, printed in decimal. -/
def printI64 (n : Int64) : Bytes := decimalInt n.toInt

theorem run_readI64Field_shows {shown : Option Int64} (h : env.Shows printI64 path shown) :
    (readI64Field path).run env = .ofOption shown := by
  have hline : ∀ n ∈ shown, 10 ∉ printI64 n := by
    intro n _ hmem
    exact forall_decimalInt (p := (· ≠ 10)) (by decide) (by decide) n.toInt 10 hmem rfl
  have hread : (readI64Field path).run env = .ofOption (shown.map id) :=
    run_readParsed_shows hline (fun n _ => parseI64_decimalInt n) h
  rwa [Option.map_id] at hread

/-- A flag, printed as a number. -/
def printFlag (flag : Bool) : Bytes := if flag then "1" else "0"

theorem run_readBoolNumber_shows {shown : Option Bool} (h : env.Shows printFlag path shown) :
    (readBoolNumber path).run env = .ofOption shown := by
  have hline : ∀ flag ∈ shown, 10 ∉ printFlag flag := by
    rintro (_ | _) - <;> decide
  have hparse : ∀ flag ∈ shown, (do scaled (← parseU64 (printFlag flag)) 1) =
      some (if flag then (1 : UInt64) else 0) := by
    rintro (_ | _) -
    · show (parseU64 (decimal 0)).bind _ = _
      rw [parseU64_decimal (by decide)]
      rfl
    · show (parseU64 (decimal 1)).bind _ = _
      rw [parseU64_decimal (by decide)]
      rfl
  have hread : (readU64Field path).run env = _ := run_readParsed_shows hline hparse h
  rw [readBoolNumber, run_bind, run_pure, hread]
  cases shown with
  | none => rfl
  | some flag => cases flag <;> rfl

/-- A negative speed is no speed. -/
theorem run_readSpeedMbps_shows {shown : Option Int64} (h : env.Shows printI64 path shown) :
    (readSpeedMbps path).run env =
      .ofOption ((shown.filter fun speed => decide (0 ≤ speed)).map (·.toUInt64)) := by
  rw [readSpeedMbps, run_bind, run_pure, run_readI64Field_shows h]
  cases shown with
  | none => rfl
  | some speed =>
    by_cases hspeed : speed < 0
    · have hfilter : (some speed).filter (fun speed => decide (0 ≤ speed)) = none := by
        rw [Option.filter_some, if_neg]
        simpa using hspeed
      rw [hfilter]
      exact if_pos hspeed
    · have hfilter : (some speed).filter (fun speed => decide (0 ≤ speed)) = some speed := by
        rw [Option.filter_some, if_pos]
        simpa using hspeed
      rw [hfilter]
      exact if_neg hspeed

theorem basename_append (dir : Bytes) (link : LinkName) :
    basename (dir ++ 47 :: link.name) = link.name := by
  have hbody : (dir ++ 47 :: link.name).rdropWhile isSeparator = dir ++ 47 :: link.name := by
    rw [List.rdropWhile_eq_self_iff]
    intro hne
    have hlast : (dir ++ 47 :: link.name).getLast hne = link.name.getLast link.ne_nil := by
      rw [List.getLast_append_of_ne_nil _ (List.cons_ne_nil 47 link.name),
        List.getLast_cons link.ne_nil]
    rw [hlast, link.no_separator _ (List.getLast_mem link.ne_nil)]
    exact Bool.false_ne_true
  have hne : dir ++ 47 :: link.name ≠ [] :=
    List.append_ne_nil_of_right_ne_nil _ (List.cons_ne_nil _ _)
  have hname : ∀ c ∈ link.name.reverse, (!isSeparator c) = true := by
    intro c hc
    rw [link.no_separator c (List.mem_reverse.1 hc)]
    rfl
  rw [basename, if_neg hne, hbody]
  dsimp only
  rw [if_neg hne, List.rtakeWhile, List.reverse_append, List.reverse_cons, List.append_assoc,
    List.takeWhile_append_of_pos hname, List.singleton_append,
    List.takeWhile_cons_of_neg (by decide), List.append_nil, List.reverse_reverse]

theorem run_readSymlinkBasenameField_links {shown : Option LinkName} (h : env.Links path shown) :
    (readSymlinkBasenameField path).run env = .ofOption (shown.map LinkName.name) := by
  rw [readSymlinkBasenameField, run_bind, readSymlinkTarget, run_call]
  cases h with
  | @target link dir hlink =>
    rw [hlink]
    show Field.ofValue (basename (dir ++ 47 :: link.name)) = _
    rw [basename_append]
    rfl
  | absent hlink hpath =>
    rw [hlink]
    show Field.unavailable (env (.pathExists path)).pathErrorStatus = _
    rw [hpath]
    rfl

end Attributes

end Archspec
