import Archspec.Lib.Bytes

/-!
# JSON

The tree of a JSON text (`Json`), a parser for the grammar of RFC 8259 over bytes (`Json.parse`)
and the compact text of a tree (`Json.render`).

The parser reads a whole text with white space, all escapes and all number forms; bytes from 128 on
stand for themselves inside strings.  A number is kept as a decimal mantissa and exponent, so no
number is rounded, and an object keeps its members in order, repeated keys included.

The main result is `Json.parse_render`: the parser gives back the tree of a compact text.  For a
string alone, `parseString_quote` reads it back in front of any text, and every quote inside it is
escaped (`escapes_of_quote`).
-/

namespace Lib

/-- The tree of a JSON text; `number m e` is `m * 10 ^ e`. -/
inductive Json where
  | null
  | bool (b : Bool)
  | number (mantissa exponent : ℤ)
  | string (text : Bytes)
  | array (items : List Json)
  | object (members : List (Bytes × Json))

namespace Json

/-- Induction on a tree, through its items and members. -/
@[elab_as_elim]
theorem induct {P : Json → Prop} (null : P null) (bool : ∀ b, P (bool b))
    (number : ∀ m e, P (number m e)) (string : ∀ s, P (string s))
    (array : ∀ items, (∀ j ∈ items, P j) → P (array items))
    (object : ∀ members, (∀ m ∈ members, P m.2) → P (object members)) (j : Json) : P j :=
  @Json.rec P (fun items => ∀ j ∈ items, P j) (fun members => ∀ m ∈ members, P m.2)
    (fun m => P m.2) null bool number string array object
    (fun _ h => absurd h List.not_mem_nil)
    (fun _ _ h hs => List.forall_mem_cons.2 ⟨h, hs⟩)
    (fun _ h => absurd h List.not_mem_nil)
    (fun _ _ h hs => List.forall_mem_cons.2 ⟨h, hs⟩)
    (fun _ _ h => h) j

/-- No object repeats a key. -/
inductive DistinctKeys : Json → Prop where
  | null : DistinctKeys null
  | bool (b : Bool) : DistinctKeys (bool b)
  | number (m e : ℤ) : DistinctKeys (number m e)
  | string (s : Bytes) : DistinctKeys (string s)
  | array {items : List Json} (h : ∀ j ∈ items, DistinctKeys j) : DistinctKeys (array items)
  | object {members : List (Bytes × Json)} (hkeys : (members.map Prod.fst).Nodup)
      (h : ∀ m ∈ members, DistinctKeys m.2) : DistinctKeys (object members)

/-- The members of an object somewhere in the tree. -/
inductive HasObject : Json → List (Bytes × Json) → Prop where
  | here (members : List (Bytes × Json)) : HasObject (object members) members
  | item {items : List Json} {j : Json} {members : List (Bytes × Json)} (hj : j ∈ items)
      (h : HasObject j members) : HasObject (array items) members
  | member {ms : List (Bytes × Json)} {m : Bytes × Json} {members : List (Bytes × Json)}
      (hm : m ∈ ms) (h : HasObject m.2 members) : HasObject (object ms) members

/-! ## The parser -/

/-- Blank, tab, line feed and carriage return. -/
def isBlank (c : UInt8) : Bool := c == 32 || c == 9 || c == 10 || c == 13

def skipBlanks (s : Bytes) : Bytes := s.dropWhile isBlank

/-- The value of a hexadecimal digit. -/
def hexValue (c : UInt8) : Option ℕ := (digitValue c).filter (· < 16)

/-- The number of four hexadecimal digits. -/
def hexQuad (a b c d : UInt8) : Option ℕ := do
  let a ← hexValue a
  let b ← hexValue b
  let c ← hexValue c
  let d ← hexValue d
  return ((a * 16 + b) * 16 + c) * 16 + d

/-- What stands for a part of a string: a byte, or an escaped UTF-16 code unit. -/
inductive Piece where
  | byte (c : UInt8)
  | unit (u : ℕ)

/-- The byte sequence of a code point. -/
def encodePoint (u : ℕ) : Bytes :=
  if u < 0x80 then [u.toUInt8]
  else if u < 0x800 then [(0xC0 + u / 64).toUInt8, (0x80 + u % 64).toUInt8]
  else if u < 0x10000 then
    [(0xE0 + u / 4096).toUInt8, (0x80 + u / 64 % 64).toUInt8, (0x80 + u % 64).toUInt8]
  else
    [(0xF0 + u / 262144).toUInt8, (0x80 + u / 4096 % 64).toUInt8, (0x80 + u / 64 % 64).toUInt8,
      (0x80 + u % 64).toUInt8]

/-- The bytes of a string: a high and a low surrogate in sequence make one code point. -/
def joinPieces : List Piece → Bytes
  | [] => []
  | .byte c :: ps => c :: joinPieces ps
  | .unit h :: .unit l :: ps =>
    if 0xD800 ≤ h ∧ h < 0xDC00 ∧ 0xDC00 ≤ l ∧ l < 0xE000 then
      encodePoint (0x10000 + (h - 0xD800) * 0x400 + (l - 0xDC00)) ++ joinPieces ps
    else encodePoint h ++ joinPieces (.unit l :: ps)
  | .unit u :: ps => encodePoint u ++ joinPieces ps

/-- The byte a two-character escape stands for, by its letter. -/
def unescaped (c : UInt8) : Option UInt8 :=
  if c = 34 ∨ c = 92 ∨ c = 47 then some c
  else if c = 98 then some 8
  else if c = 102 then some 12
  else if c = 110 then some 10
  else if c = 114 then some 13
  else if c = 116 then some 9
  else none

/-- The characters of a string up to its closing quote. -/
def parseChars : Bytes → Option (List Piece × Bytes)
  | [] => none
  | 92 :: 117 :: a :: b :: c :: d :: s => do
    let u ← hexQuad a b c d
    let (ps, s) ← parseChars s
    return (.unit u :: ps, s)
  | 92 :: c :: s => do
    let c ← unescaped c
    let (ps, s) ← parseChars s
    return (.byte c :: ps, s)
  | c :: s =>
    if c = 34 then some ([], s)
    else if c < 32 ∨ c = 92 then none
    else do
      let (ps, s) ← parseChars s
      return (.byte c :: ps, s)

/-- A string, behind its opening quote. -/
def parseText (s : Bytes) : Option (Bytes × Bytes) :=
  (parseChars s).map fun p => (joinPieces p.1, p.2)

/-- A string at the front of a text. -/
def parseString : Bytes → Option (Bytes × Bytes)
  | 34 :: s => parseText s
  | _ => none

/-- The integer part of a number: a zero stands alone. -/
def parseInteger : Bytes → Option (ℕ × Bytes)
  | 48 :: s => some (0, s)
  | s => digits 10 s

/-- The mantissa of a number with its count of decimals: an integer part and maybe a fraction. -/
def parseMantissa (s : Bytes) : Option ((ℕ × ℕ) × Bytes) := do
  let (n, s) ← parseInteger s
  match s with
  | 46 :: f => do
    let rest ← digits 10 f
    let decimals := f.length - rest.2.length
    return ((n * 10 ^ decimals + rest.1, decimals), rest.2)
  | s => return ((n, 0), s)

/-- A signed exponent, if there is one. -/
def parseExponent : Bytes → Option (ℤ × Bytes)
  | [] => some (0, [])
  | c :: s =>
    if c = 101 ∨ c = 69 then do
      let (negative, s) := signed s
      let (n, s) ← digits 10 s
      return (if negative then -n else n, s)
    else some (0, c :: s)

def parseNumber (s : Bytes) : Option (Json × Bytes) := do
  let (negative, s) := if s.head? = some 45 then (true, s.tail) else (false, s)
  let ((n, decimals), s) ← parseMantissa s
  let (e, s) ← parseExponent s
  return (number (if negative then -n else n) (e - decimals), s)

/-- One or more items, separated by commas, up to the closing byte. -/
def sepBy {α : Type} (item : Bytes → Option (α × Bytes)) (close : UInt8) :
    ℕ → Bytes → Option (List α × Bytes)
  | 0, _ => none
  | fuel + 1, s => do
    let (a, s) ← item s
    match skipBlanks s with
    | [] => none
    | c :: s =>
      if c = close then some ([a], s)
      else if c = 44 then do
        let (as, s) ← sepBy item close fuel s
        return (a :: as, s)
      else none

/-- Items separated by commas, behind the opening byte. -/
def listOf {α : Type} (item : Bytes → Option (α × Bytes)) (close : UInt8) (fuel : ℕ) (s : Bytes) :
    Option (List α × Bytes) :=
  if (skipBlanks s).head? = some close then some ([], (skipBlanks s).tail)
  else sepBy item close fuel s

/-- A key and its value. -/
def member (value : Bytes → Option (Json × Bytes)) (s : Bytes) :
    Option ((Bytes × Json) × Bytes) :=
  match skipBlanks s with
  | 34 :: s => do
    let (key, s) ← parseText s
    match skipBlanks s with
    | 58 :: s => do
      let (j, s) ← value s
      return ((key, j), s)
    | _ => none
  | _ => none

/-- A value that is none of string, array and object. -/
def parseAtom (s : Bytes) : Option (Json × Bytes) :=
  if startsWith s "null" then some (null, s.drop 4)
  else if startsWith s "true" then some (bool true, s.drop 4)
  else if startsWith s "false" then some (bool false, s.drop 5)
  else parseNumber s

/-- A value at the front of a text. -/
def parseValue : ℕ → Bytes → Option (Json × Bytes)
  | 0, _ => none
  | fuel + 1, s =>
    match skipBlanks s with
    | 34 :: s => (parseText s).map fun p => (string p.1, p.2)
    | 91 :: s => (listOf (parseValue fuel) 93 fuel s).map fun p => (array p.1, p.2)
    | 123 :: s => (listOf (member (parseValue fuel)) 125 fuel s).map fun p => (object p.1, p.2)
    | s => parseAtom s

/-- The tree of a whole text.  Each level of nesting and each item takes a byte at least. -/
def parse (s : Bytes) : Option Json := do
  let (j, rest) ← parseValue (s.length + 1) s
  if skipBlanks rest = [] then some j else none

/-! ## Compact texts -/

/-- The letter of the two-character escape of a byte. -/
def shortEscape (c : UInt8) : Option UInt8 :=
  if c = 34 ∨ c = 92 then some c
  else if c = 8 then some 98
  else if c = 12 then some 102
  else if c = 10 then some 110
  else if c = 13 then some 114
  else if c = 9 then some 116
  else none

/-- A lower-case hexadecimal digit. -/
def hexDigit (n : ℕ) : UInt8 := (if n < 10 then 48 + n else 87 + n).toUInt8

/-- A byte inside a string: only quotes, backslashes and control bytes are escaped. -/
def escapeByte (c : UInt8) : Bytes :=
  match shortEscape c with
  | some letter => [92, letter]
  | none =>
    if c < 32 then [92, 117, 48, 48, hexDigit (c.toNat / 16), hexDigit (c.toNat % 16)] else [c]

/-- The text of a string. -/
def quote (s : Bytes) : Bytes := 34 :: s.flatMap escapeByte ++ [34]

/-- Texts separated by commas. -/
def commas (ts : List Bytes) : Bytes := List.intercalate [44] ts

mutual

/-- The compact text of a tree. -/
def render : Json → Bytes
  | null => "null"
  | bool b => if b then "true" else "false"
  | number m e => decimalInt m ++ if e = 0 then [] else 101 :: decimalInt e
  | string s => quote s
  | array items => 91 :: commas (renderItems items) ++ [93]
  | object members => 123 :: commas (renderMembers members) ++ [125]

def renderItems : List Json → List Bytes
  | [] => []
  | j :: js => render j :: renderItems js

def renderMembers : List (Bytes × Json) → List Bytes
  | [] => []
  | m :: ms => renderMember m :: renderMembers ms

def renderMember : Bytes × Json → Bytes
  | (key, j) => quote key ++ 58 :: render j

end

theorem renderItems_eq_map (js : List Json) : renderItems js = js.map render := by
  induction js with
  | nil => rfl
  | cons j js ih => rw [renderItems, ih, List.map_cons]

theorem renderMembers_eq_map (ms : List (Bytes × Json)) :
    renderMembers ms = ms.map fun m => quote m.1 ++ 58 :: render m.2 := by
  induction ms with
  | nil => rfl
  | cons m ms ih => rw [renderMembers, ih, List.map_cons, renderMember]

theorem render_array (items : List Json) :
    render (array items) = 91 :: commas (items.map render) ++ [93] := by
  rw [render, renderItems_eq_map]

theorem render_object (members : List (Bytes × Json)) :
    render (object members) =
      123 :: commas (members.map fun m => quote m.1 ++ 58 :: render m.2) ++ [125] := by
  rw [render, renderMembers_eq_map]

@[simp] theorem commas_nil : commas [] = [] := rfl

theorem commas_singleton (t : Bytes) : commas [t] = t := by simp [commas]

theorem commas_cons {t : Bytes} {ts : List Bytes} (h : ts ≠ []) :
    commas (t :: ts) = t ++ 44 :: commas ts := by
  obtain ⟨u, us, rfl⟩ := List.exists_cons_of_ne_nil h
  simp [commas, List.intercalate]

theorem commas_append_singleton (ts : List Bytes) (t : Bytes) :
    commas (ts ++ [t]) = (if ts.isEmpty then [] else commas ts ++ [44]) ++ t := by
  induction ts with
  | nil => exact commas_singleton t
  | cons u us ih =>
    rw [List.cons_append, commas_cons (by simp), ih]
    cases us with
    | nil => simp [commas_singleton]
    | cons v vs => simp [commas_cons]

/-! ## Reading back strings -/

/-- How the parser reads back an escaped byte. -/
def pieceOf (c : UInt8) : Piece :=
  if shortEscape c = none ∧ c < 32 then .unit c.toNat else .byte c

theorem unescaped_shortEscape {c letter : UInt8} (h : shortEscape c = some letter) :
    letter ≠ 117 ∧ unescaped letter = some c := by
  unfold shortEscape at h
  split_ifs at h with hc hc hc hc hc hc <;> cases h
  · rcases hc with rfl | rfl <;> decide
  all_goals subst hc; decide

theorem hexQuad_hexDigit {c : UInt8} (h : c < 32) :
    hexQuad 48 48 (hexDigit (c.toNat / 16)) (hexDigit (c.toNat % 16)) = some c.toNat := by
  have key : ∀ n < 32, hexQuad 48 48 (hexDigit (n / 16)) (hexDigit (n % 16)) = some n := by decide
  exact key _ h

theorem parseChars_escapeByte (c : UInt8) (s : Bytes) :
    parseChars (escapeByte c ++ s) = (parseChars s).map fun p => (pieceOf c :: p.1, p.2) := by
  unfold escapeByte pieceOf
  cases hc : shortEscape c with
  | some letter =>
    obtain ⟨hne, hletter⟩ := unescaped_shortEscape hc
    simp only [List.cons_append, List.nil_append, reduceCtorEq, false_and, if_false]
    rw [parseChars]
    · rw [hletter]
      cases parseChars s <;> rfl
    · exact fun _ _ _ _ _ h => absurd h hne
  | none =>
    by_cases h32 : c < 32
    · simp only [h32, if_true, true_and, List.cons_append, List.nil_append]
      rw [parseChars, hexQuad_hexDigit h32]
      cases parseChars s <;> rfl
    · have h34 : c ≠ 34 := by rintro rfl; exact absurd hc (by decide)
      have h92 : c ≠ 92 := by rintro rfl; exact absurd hc (by decide)
      simp only [h32, if_false, and_false, List.cons_append, List.nil_append]
      rw [parseChars]
      · simp only [h34, h32, h92, or_self, if_false]
        cases parseChars s <;> rfl
      · exact fun _ _ _ _ _ h => absurd h h92
      · exact fun _ _ h => absurd h h92

theorem parseChars_flatMap_escapeByte (s rest : Bytes) :
    parseChars (s.flatMap escapeByte ++ 34 :: rest) = some (s.map pieceOf, rest) := by
  induction s with
  | nil => rfl
  | cons c s ih =>
    rw [List.flatMap_cons, List.append_assoc, parseChars_escapeByte, ih, Option.map_some,
      List.map_cons]

theorem joinPieces_unit {u : ℕ} (hu : u < 128) (ps : List Piece) :
    joinPieces (.unit u :: ps) = u.toUInt8 :: joinPieces ps := by
  have hlow : ¬ 0xD800 ≤ u := by omega
  cases ps with
  | nil => simp [joinPieces, encodePoint, hu]
  | cons p ps => cases p <;> simp [joinPieces, encodePoint, hu, hlow]

theorem joinPieces_map_pieceOf (s : Bytes) : joinPieces (s.map pieceOf) = s := by
  induction s with
  | nil => rfl
  | cons c s ih =>
    rw [List.map_cons, pieceOf]
    split
    · rename_i h
      have hlt : c.toNat < 32 := h.2
      rw [joinPieces_unit (by omega), ih]
      simp
    · rw [joinPieces, ih]

theorem parseText_quote (s rest : Bytes) :
    parseText (s.flatMap escapeByte ++ 34 :: rest) = some (s, rest) := by
  rw [parseText, parseChars_flatMap_escapeByte, Option.map_some, joinPieces_map_pieceOf]

theorem parseString_quote (s rest : Bytes) : parseString (quote s ++ rest) = some (s, rest) := by
  rw [quote, List.append_assoc]
  exact parseText_quote s rest

theorem flatMap_escapeByte_injective :
    Function.Injective fun s : Bytes => s.flatMap escapeByte := by
  intro s t h
  have hst : quote s = quote t := congrArg (fun text => 34 :: text ++ [34]) h
  have hs := parseString_quote s []
  rw [hst, parseString_quote t []] at hs
  exact (Prod.mk.inj (Option.some.inj hs)).1.symm

/-! ## What stands inside the quotes -/

/-- What a byte is written with inside the quotes. -/
inductive Escape : Bytes → Prop where
  | short {letter : UInt8} (hletter : 32 ≤ letter) : Escape [92, letter]
  | unit {x y : UInt8} (hx : 48 ≤ x ∧ x ≠ 92) (hy : 48 ≤ y ∧ y ≠ 92) :
    Escape [92, 117, 48, 48, x, y]
  | literal {c : UInt8} (h32 : 32 ≤ c) (h34 : c ≠ 34) (h92 : c ≠ 92) : Escape [c]

theorem le_of_shortEscape {c letter : UInt8} (h : shortEscape c = some letter) : 32 ≤ letter := by
  unfold shortEscape at h
  split_ifs at h with hc hc hc hc hc hc <;> cases h
  · rcases hc with rfl | rfl <;> decide
  all_goals decide

theorem hexDigit_bounds {n : ℕ} (h : n < 16) : 48 ≤ hexDigit n ∧ hexDigit n ≠ 92 := by
  revert n
  decide

/-- The three forms an escaped byte takes. -/
theorem escape_escapeByte (c : UInt8) : Escape (escapeByte c) := by
  unfold escapeByte
  cases hc : shortEscape c with
  | some letter => exact .short (le_of_shortEscape hc)
  | none =>
    by_cases h32 : c < 32
    · have hlt : c.toNat < 32 := h32
      simp only [h32, if_true]
      exact .unit (hexDigit_bounds (by omega)) (hexDigit_bounds (by omega))
    · simp only [h32, if_false]
      refine .literal (UInt8.not_lt.1 h32) ?_ ?_
      · rintro rfl
        exact absurd hc (by decide)
      · rintro rfl
        exact absurd hc (by decide)

theorem Escape.printable {e : Bytes} (h : Escape e) : ∀ b ∈ e, 32 ≤ b := by
  cases h with
  | short hletter => simpa using hletter
  | unit hx hy =>
    have up : ∀ b : UInt8, 48 ≤ b → 32 ≤ b := fun b hb => UInt8.le_trans (by decide) hb
    simpa using ⟨up _ hx.1, up _ hy.1⟩
  | literal h32 => simpa using h32

theorem printable_flatMap_escapeByte (s : Bytes) : ∀ b ∈ s.flatMap escapeByte, 32 ≤ b := by
  intro b hb
  obtain ⟨c, -, hb⟩ := List.mem_flatMap.1 hb
  exact (escape_escapeByte c).printable b hb

/-- How many backslashes stand at the end of a text. -/
def backslashes (s : Bytes) : ℕ := (s.reverse.takeWhile (· == 92)).length

theorem backslashes_append (u v : Bytes) :
    backslashes (u ++ v) =
      if backslashes v = v.length then v.length + backslashes u else backslashes v := by
  unfold backslashes
  rw [List.reverse_append, List.takeWhile_append, List.length_reverse]
  split
  · rw [List.length_append, List.length_reverse]
  · rfl

/-- The next byte is escaped: the backslashes in front of it do not pair up. -/
def Escapes (s : Bytes) : Prop := backslashes s % 2 = 1

instance (s : Bytes) : Decidable (Escapes s) := inferInstanceAs (Decidable (_ = _))

/-- Backslashes that pair up do not change what a text behind them escapes. -/
theorem escapes_append {u : Bytes} (hu : ¬ Escapes u) (v : Bytes) :
    Escapes (u ++ v) ↔ Escapes v := by
  unfold Escapes at hu ⊢
  rw [backslashes_append]
  split <;> omega

theorem Escape.not_escapes {e : Bytes} (h : Escape e) : ¬ Escapes e := by
  cases h with
  | @short letter _ =>
    by_cases h92 : letter = 92
    · subst h92
      decide
    · simp [Escapes, backslashes, h92]
  | unit _ hy => simp [Escapes, backslashes, hy.2]
  | literal _ _ h92 => simp [Escapes, backslashes, h92]

/-- A quote inside an escape stands behind its backslash. -/
theorem Escape.before_quote {e before after : Bytes} (h : Escape e)
    (he : e = before ++ 34 :: after) : before = [92] := by
  have hmem : (34 : UInt8) ∈ e := by simp [he]
  cases h with
  | short _ =>
    cases before with
    | nil => exact absurd (List.cons.inj he).1 (by decide)
    | cons b before =>
      rw [List.cons_append] at he
      obtain ⟨rfl, hafter⟩ := List.cons.inj he
      have hlength := congrArg List.length hafter
      simp only [List.length_append, List.length_cons, List.length_nil] at hlength
      rw [List.length_eq_zero_iff.1 (show before.length = 0 by omega)]
  | unit hx hy =>
    have low : ∀ b : UInt8, 48 ≤ b → 34 ≠ b := by
      rintro b hb rfl
      exact absurd hb (by decide)
    simp [low _ hx.1, low _ hy.1] at hmem
  | literal _ h34 _ => exact absurd (List.mem_singleton.1 hmem).symm h34

/-- Every quote inside the quotes is escaped. -/
theorem escapes_of_quote (s : Bytes) :
    ∀ before after, s.flatMap escapeByte = before ++ 34 :: after → Escapes before := by
  induction s with
  | nil => simp
  | cons c s ih =>
    intro before after h
    have hc := escape_escapeByte c
    rw [List.flatMap_cons] at h
    rcases List.append_eq_append_iff.1 h with ⟨mid, hbefore, hs⟩ | ⟨mid, he, hs⟩
    · -- The quote stands behind the escape of the first byte, which pairs up its backslashes.
      rw [hbefore, escapes_append hc.not_escapes]
      exact ih mid after hs
    · cases mid with
      | nil => exact absurd (ih [] after hs.symm) (by decide)
      | cons m mid =>
        obtain ⟨rfl, -⟩ := List.cons.inj hs
        rw [hc.before_quote he]
        decide

/-! ## Reading back numbers -/

/-- What may follow a value inside a compact text. -/
def Follows (s : Bytes) : Prop := ∀ c ∈ s.head?, c = 44 ∨ c = 93 ∨ c = 125

theorem follows_nil : Follows [] := fun _ h => absurd h (by simp)

theorem follows_cons {c : UInt8} (s : Bytes) (h : c = 44 ∨ c = 93 ∨ c = 125) : Follows (c :: s) :=
  fun _ hd => Option.some.inj hd ▸ h

theorem Follows.noDigit {s : Bytes} (h : Follows s) : NoDigit s := by
  intro c hc
  rcases h c hc with rfl | rfl | rfl <;> decide

theorem Follows.skipBlanks_eq {s : Bytes} (h : Follows s) : skipBlanks s = s := by
  cases s with
  | nil => rfl
  | cons c s =>
    rcases h c rfl with rfl | rfl | rfl <;> rfl

theorem parseInteger_decimal (n : ℕ) {s : Bytes} (hs : NoDigit s) :
    parseInteger (decimal n ++ s) = some (n, s) := by
  obtain ⟨d, hd, t, ht, hzero⟩ := decimal_head n
  by_cases hn : n = 0
  · subst hn; rfl
  · have digit : ∀ d < 10, d ≠ 0 → (48 + d).toUInt8 ≠ 48 := by decide
    rw [← digits_decimal n hs, ht, List.cons_append, parseInteger]
    rintro _ h
    exact digit d hd (hzero hn) (List.cons.inj h).1

theorem parseMantissa_decimal (n : ℕ) {s : Bytes} (hs : NoDigit s) (hdot : s.head? ≠ some 46) :
    parseMantissa (decimal n ++ s) = some ((n, 0), s) := by
  rw [parseMantissa, parseInteger_decimal n hs]
  simp only [Option.bind_eq_bind, Option.bind_some]
  split
  · exact absurd rfl hdot
  · rfl

/-- The first byte of a numeral is not a sign. -/
theorem decimal_head_sign (n : ℕ) : ∃ c t, decimal n = c :: t ∧ c ≠ 45 ∧ c ≠ 43 := by
  obtain ⟨d, hd, t, ht, -⟩ := decimal_head n
  have digit : ∀ d < 10, (48 + d).toUInt8 ≠ 45 ∧ (48 + d).toUInt8 ≠ 43 := by decide
  exact ⟨_, t, ht, digit d hd⟩

theorem signed_decimal (n : ℕ) (s : Bytes) : signed (decimal n ++ s) = (false, decimal n ++ s) := by
  obtain ⟨c, t, ht, h45, h43⟩ := decimal_head_sign n
  rw [ht, List.cons_append, signed, if_neg h45, if_neg h43]

/-- The value of the numeral of an integer: its sign and its absolute value. -/
theorem sign_natAbs (e : ℤ) : (if decide (e < 0) then -(e.natAbs : ℤ) else e.natAbs) = e := by
  by_cases h : e < 0
  · rw [decide_eq_true h, if_pos rfl]
    omega
  · rw [decide_eq_false h, if_neg Bool.false_ne_true]
    omega

theorem parseExponent_follows {s : Bytes} (h : Follows s) : parseExponent s = some (0, s) := by
  cases s with
  | nil => rfl
  | cons c s =>
    rw [parseExponent, if_neg]
    rcases h c rfl with rfl | rfl | rfl <;> decide

theorem parseExponent_decimalInt (e : ℤ) {s : Bytes} (h : Follows s) :
    parseExponent (101 :: decimalInt e ++ s) = some (e, s) := by
  rw [List.cons_append, parseExponent, if_pos (Or.inl rfl)]
  have hsigned : signed (decimalInt e ++ s) = (decide (e < 0), decimal e.natAbs ++ s) := by
    unfold decimalInt
    split
    · rw [List.cons_append, signed, if_pos rfl, decide_eq_true ‹_›]
    · rw [signed_decimal, decide_eq_false ‹_›]
  simp only [hsigned, digits_decimal e.natAbs h.noDigit, Option.bind_eq_bind, Option.bind_some,
    Option.pure_def, sign_natAbs]

/-- The exponent in the text of a number. -/
theorem parseExponent_render (e : ℤ) {s : Bytes} (h : Follows s) :
    parseExponent ((if e = 0 then [] else 101 :: decimalInt e) ++ s) = some (e, s) := by
  split
  · rename_i he
    rw [he, List.nil_append, parseExponent_follows h]
  · exact parseExponent_decimalInt e h

theorem parseNumber_render (m e : ℤ) {s : Bytes} (h : Follows s) :
    parseNumber (render (number m e) ++ s) = some (number m e, s) := by
  have hexp := parseExponent_render e h
  have hnext : NoDigit ((if e = 0 then [] else 101 :: decimalInt e) ++ s) ∧
      ((if e = 0 then [] else 101 :: decimalInt e) ++ s).head? ≠ some 46 := by
    split
    · refine ⟨h.noDigit, fun hc => ?_⟩
      rcases h 46 hc with h | h | h <;> exact absurd h (by decide)
    · refine ⟨?_, by rw [List.cons_append, List.head?_cons]; decide⟩
      rintro c hc
      cases hc
      decide
  rw [render, List.append_assoc]
  generalize ((if e = 0 then [] else 101 :: decimalInt e) ++ s) = t at hexp hnext
  have hsign : (if (decimalInt m ++ t).head? = some 45 then (true, (decimalInt m ++ t).tail)
      else (false, decimalInt m ++ t)) = (decide (m < 0), decimal m.natAbs ++ t) := by
    unfold decimalInt
    split
    · rw [decide_eq_true ‹_›]; rfl
    · obtain ⟨c, u, hu, h45, -⟩ := decimal_head_sign m.natAbs
      rw [hu, decide_eq_false ‹_›, if_neg]
      exact fun hc => h45 (Option.some.inj hc)
  rw [parseNumber, hsign]
  simp only [parseMantissa_decimal m.natAbs hnext.1 hnext.2, hexp, Option.bind_eq_bind,
    Option.bind_some, Option.pure_def, sign_natAbs, Int.natCast_zero, Int.sub_zero]

/-! ## Reading back values -/

/-- The text of an item: not empty, and it begins neither with a blank nor with the closing byte. -/
def StartsItem (close : UInt8) (t : Bytes) : Prop :=
  ∃ c s, t = c :: s ∧ isBlank c = false ∧ c ≠ close

theorem skipBlanks_cons {c : UInt8} (s : Bytes) (h : isBlank c = false) :
    skipBlanks (c :: s) = c :: s := by
  rw [skipBlanks, List.dropWhile_cons, h]
  rfl

section Lists

variable {α : Type} {item : Bytes → Option (α × Bytes)} {close : UInt8} {text : α → Bytes}

theorem sepBy_commas (hclose : close = 93 ∨ close = 125) {as : List α} (has : as ≠ [])
    (h : ∀ a ∈ as, ∀ s, Follows s → item (text a ++ s) = some (a, s)) {fuel : ℕ}
    (hfuel : as.length ≤ fuel) (rest : Bytes) :
    sepBy item close fuel (commas (as.map text) ++ close :: rest) = some (as, rest) := by
  induction as generalizing fuel with
  | nil => exact absurd rfl has
  | cons a as ih =>
    obtain _ | fuel := fuel
    · exact absurd hfuel (by simp)
    have ha := h a List.mem_cons_self
    by_cases hnil : as = []
    · have hend : Follows (close :: rest) := follows_cons rest (Or.inr hclose)
      subst hnil
      rw [List.map_singleton, commas_singleton, sepBy, ha _ hend]
      simp [hend.skipBlanks_eq]
    · have hcomma : Follows (44 :: (commas (as.map text) ++ close :: rest)) :=
        follows_cons _ (Or.inl rfl)
      have hne : (44 : UInt8) ≠ close := by rcases hclose with rfl | rfl <;> decide
      have ih' := ih hnil (fun a' ha' => h a' (List.mem_cons_of_mem _ ha'))
        (Nat.le_of_succ_le_succ hfuel)
      rw [List.map_cons, commas_cons (by simpa using hnil), List.append_assoc, List.cons_append,
        sepBy, ha _ hcomma]
      simp only [Option.bind_eq_bind, Option.bind_some, hcomma.skipBlanks_eq, if_neg hne, if_true,
        ih', Option.pure_def]

/-- The rule for a bracketed list: every item reads back where a value may end. -/
theorem listOf_commas (hclose : close = 93 ∨ close = 125) {as : List α}
    (hstart : ∀ a ∈ as, StartsItem close (text a))
    (h : ∀ a ∈ as, ∀ s, Follows s → item (text a ++ s) = some (a, s)) {fuel : ℕ}
    (hfuel : as.length ≤ fuel) (rest : Bytes) :
    listOf item close fuel (commas (as.map text) ++ close :: rest) = some (as, rest) := by
  cases as with
  | nil =>
    have hend : Follows (close :: rest) := follows_cons rest (Or.inr hclose)
    rw [List.map_nil, commas_nil, List.nil_append, listOf, hend.skipBlanks_eq]
    exact if_pos rfl
  | cons a as =>
    rw [listOf, if_neg, sepBy_commas hclose (List.cons_ne_nil a as) h hfuel]
    obtain ⟨c, s, hs, hblank, hne⟩ := hstart a List.mem_cons_self
    have hcommas : ∃ u, commas ((a :: as).map text) = c :: u := by
      cases as with
      | nil => exact ⟨s, by rw [List.map_singleton, commas_singleton, hs]⟩
      | cons b bs => exact ⟨_, by rw [List.map_cons, commas_cons (by simp), hs, List.cons_append]⟩
    obtain ⟨u, hu⟩ := hcommas
    rw [hu, List.cons_append, skipBlanks_cons _ hblank, List.head?_cons]
    exact fun h => hne (Option.some.inj h)

end Lists

theorem length_le_length_commas {t : Bytes} {ts : List Bytes} (h : t ∈ ts) :
    t.length ≤ (commas ts).length := by
  induction ts with
  | nil => exact absurd h List.not_mem_nil
  | cons u us ih =>
    by_cases hus : us = []
    · subst hus
      rw [commas_singleton, List.mem_singleton.1 h]
    · rw [commas_cons hus, List.length_append, List.length_cons]
      rcases List.mem_cons.1 h with rfl | h
      · omega
      · have := ih h
        omega

theorem card_le_length_commas (ts : List Bytes) : ts.length ≤ (commas ts).length + 1 := by
  induction ts with
  | nil => exact Nat.zero_le _
  | cons u us ih =>
    by_cases hus : us = []
    · subst hus
      rw [List.length_singleton]
      omega
    · rw [commas_cons hus, List.length_append, List.length_cons, List.length_cons]
      omega

/-- The first byte of a number: a minus sign or a digit. -/
theorem render_number_head (m e : ℤ) :
    ∃ c s, render (number m e) = c :: s ∧ (c = 45 ∨ ∃ d < 10, c = (48 + d).toUInt8) := by
  rw [render, decimalInt]
  split
  · exact ⟨45, _, List.cons_append, Or.inl rfl⟩
  · obtain ⟨d, hd, s, hs, -⟩ := decimal_head m.natAbs
    exact ⟨_, _, by rw [hs, List.cons_append], Or.inr ⟨d, hd, rfl⟩⟩

/-- A number begins like no other value. -/
theorem number_head {c : UInt8} (h : c = 45 ∨ ∃ d < 10, c = (48 + d).toUInt8) :
    isBlank c = false ∧ c ∉ ([34, 91, 123, 93, 125, 110, 116, 102] : Bytes) := by
  have digit : ∀ d < 10, isBlank (48 + d).toUInt8 = false ∧
      (48 + d).toUInt8 ∉ ([34, 91, 123, 93, 125, 110, 116, 102] : Bytes) := by decide
  rcases h with rfl | ⟨d, hd, rfl⟩
  · decide
  · exact digit d hd

/-- The first byte of a value is neither a blank nor a closing bracket. -/
theorem startsItem_render (j : Json) {close : UInt8} (hclose : close = 93 ∨ close = 125) :
    StartsItem close (render j) := by
  have head : ∀ {c : UInt8}, isBlank c = false ∧ c ∉ ([93, 125] : Bytes) →
      isBlank c = false ∧ c ≠ close := by
    rintro c ⟨hblank, hc⟩
    refine ⟨hblank, ?_⟩
    rcases hclose with rfl | rfl
    · exact fun h => hc (by simp [h])
    · exact fun h => hc (by simp [h])
  cases j with
  | null => exact ⟨110, "ull", rfl, head (by decide)⟩
  | bool b =>
    cases b
    · exact ⟨102, "alse", rfl, head (by decide)⟩
    · exact ⟨116, "rue", rfl, head (by decide)⟩
  | number m e =>
    obtain ⟨c, s, hs, hc⟩ := render_number_head m e
    obtain ⟨hblank, hnot⟩ := number_head hc
    refine ⟨c, s, hs, head ⟨hblank, fun h => hnot ?_⟩⟩
    simp only [List.mem_cons] at h ⊢
    tauto
  | string s => exact ⟨34, _, rfl, head (by decide)⟩
  | array items => exact ⟨91, _, rfl, head (by decide)⟩
  | object members => exact ⟨123, _, rfl, head (by decide)⟩

theorem parseAtom_number {c : UInt8} (s : Bytes)
    (hc : c ∉ ([34, 91, 123, 93, 125, 110, 116, 102] : Bytes)) :
    parseAtom (c :: s) = parseNumber (c :: s) := by
  simp only [List.mem_cons, List.not_mem_nil, or_false, not_or] at hc
  obtain ⟨-, -, -, -, -, hn, ht, hf⟩ := hc
  rw [parseAtom, if_neg, if_neg, if_neg]
  · exact Bool.not_eq_true _ ▸ startsWith_cons_of_ne (Ne.symm hf) s "alse"
  · exact Bool.not_eq_true _ ▸ startsWith_cons_of_ne (Ne.symm ht) s "rue"
  · exact Bool.not_eq_true _ ▸ startsWith_cons_of_ne (Ne.symm hn) s "ull"

/-- A value that begins like none of string, array and object is an atom. -/
theorem parseValue_atom {c : UInt8} (hblank : isBlank c = false) (h34 : c ≠ 34) (h91 : c ≠ 91)
    (h123 : c ≠ 123) (fuel : ℕ) (s : Bytes) :
    parseValue (fuel + 1) (c :: s) = parseAtom (c :: s) := by
  rw [parseValue, skipBlanks_cons s hblank]
  split
  · exact absurd (List.cons.inj ‹_›).1 h34
  · exact absurd (List.cons.inj ‹_›).1 h91
  · exact absurd (List.cons.inj ‹_›).1 h123
  · rfl

theorem member_quote {value : Bytes → Option (Json × Bytes)} {m : Bytes × Json} {s : Bytes}
    (h : value (render m.2 ++ s) = some (m.2, s)) :
    member value (quote m.1 ++ 58 :: render m.2 ++ s) = some (m, s) := by
  simp only [quote, List.cons_append, List.append_assoc, List.nil_append]
  rw [member, skipBlanks_cons _ (by decide)]
  simp only [parseText_quote, Option.bind_eq_bind, Option.bind_some,
    skipBlanks_cons _ (show isBlank 58 = false by decide), h, Option.pure_def]

/-- The parser reads back a rendered value in any place where a value may end. -/
theorem parseValue_render (j : Json) {fuel : ℕ} (hfuel : (render j).length ≤ fuel) {rest : Bytes}
    (hrest : Follows rest) : parseValue fuel (render j ++ rest) = some (j, rest) := by
  induction j using Json.induct generalizing fuel rest with
  | null =>
    obtain _ | fuel := fuel
    · exact absurd hfuel (by decide)
    · exact parseValue_atom (by decide) (by decide) (by decide) (by decide) fuel _
  | bool b =>
    obtain _ | fuel := fuel
    · exact absurd hfuel (by cases b <;> decide)
    · cases b <;>
        exact parseValue_atom (by decide) (by decide) (by decide) (by decide) fuel _
  | number m e =>
    obtain ⟨c, s, hs, hc⟩ := render_number_head m e
    obtain ⟨hblank, hnot⟩ := number_head hc
    obtain _ | fuel := fuel
    · exact absurd hfuel (by simp [hs])
    have hne : c ≠ 34 ∧ c ≠ 91 ∧ c ≠ 123 := by
      simp only [List.mem_cons, not_or] at hnot
      exact ⟨hnot.1, hnot.2.1, hnot.2.2.1⟩
    rw [← parseNumber_render m e hrest, hs, List.cons_append,
      parseValue_atom hblank hne.1 hne.2.1 hne.2.2, parseAtom_number _ hnot]
  | string s =>
    obtain _ | fuel := fuel
    · exact absurd hfuel (by simp [render, quote])
    rw [render, quote, List.cons_append, List.cons_append, List.append_assoc, parseValue,
      skipBlanks_cons _ (by decide)]
    simp only [List.cons_append, List.nil_append, parseText_quote, Option.map_some]
  | array items ih =>
    rw [render_array] at hfuel ⊢
    have hlen := card_le_length_commas (items.map render)
    rw [List.length_map] at hlen
    rw [List.cons_append, List.length_cons, List.length_append, List.length_singleton] at hfuel
    obtain _ | fuel := fuel
    · omega
    have hitem : ∀ j ∈ items, ∀ s, Follows s →
        parseValue fuel (render j ++ s) = some (j, s) := by
      intro j hj s hs
      have := length_le_length_commas (List.mem_map_of_mem (f := render) hj)
      exact ih j hj (by omega) hs
    rw [List.cons_append, List.cons_append, List.append_assoc, parseValue,
      skipBlanks_cons _ (by decide)]
    simp only [List.cons_append, List.nil_append]
    rw [listOf_commas (Or.inl rfl) (fun j _ => startsItem_render j (Or.inl rfl)) hitem (by omega),
      Option.map_some]
  | object members ih =>
    rw [render_object] at hfuel ⊢
    have hlen := card_le_length_commas (members.map fun m => quote m.1 ++ 58 :: render m.2)
    rw [List.length_map] at hlen
    rw [List.cons_append, List.length_cons, List.length_append, List.length_singleton] at hfuel
    obtain _ | fuel := fuel
    · omega
    have hitem : ∀ m ∈ members, ∀ s, Follows s →
        member (parseValue fuel) (quote m.1 ++ 58 :: render m.2 ++ s) = some (m, s) := by
      intro m hm s hs
      have := length_le_length_commas
        (List.mem_map_of_mem (f := fun m => quote m.1 ++ 58 :: render m.2) hm)
      rw [List.length_append, List.length_cons] at this
      exact member_quote (ih m hm (by omega) hs)
    have hstart : ∀ m ∈ members, StartsItem 125 (quote m.1 ++ 58 :: render m.2) :=
      fun m _ => ⟨34, _, rfl, by decide, by decide⟩
    rw [List.cons_append, List.cons_append, List.append_assoc, parseValue,
      skipBlanks_cons _ (by decide)]
    simp only [List.cons_append, List.nil_append]
    rw [listOf_commas (Or.inr rfl) hstart hitem (by omega), Option.map_some]

/-- A compact text is accepted in full, and its tree is the rendered one. -/
theorem parse_render (j : Json) : parse (render j) = some j := by
  have h := parseValue_render j (Nat.le_succ _) follows_nil
  rw [List.append_nil] at h
  rw [parse, h]
  rfl

theorem render_injective {j j' : Json} (h : render j = render j') : j = j' := by
  have hj := parse_render j
  rw [h, parse_render] at hj
  exact (Option.some.inj hj).symm

end Json
end Lib
