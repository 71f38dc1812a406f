import Archspec.Encoding

/-!
# Strings on the stream

`escape_json` writes to one `std::ostringstream` and switches its number base, width and fill for a
control byte.  `OStream` is that stream and `escapeTurn` one turn of the loop; the turns leave the
stream in decimal and without a width (`OStream.Plain`), so no turn sees what an earlier one set and
the text is `escapeJson` (`escapeJson_eq_stream`).

The main result is `jsonString_decodes`: a JSON decoder reads a string back and stops behind it,
whatever follows.
-/

namespace Archspec

open Lib Json

/-- A `std::ostringstream`: number base, width of the next item, fill byte and text. -/
structure OStream where
  base : ℕ := 10
  width : ℕ := 0
  fill : UInt8 := 32
  text : Bytes := []

namespace OStream

/-- Writes an item, filled up on its left to the width; the width lasts for one item. -/
def put (out : OStream) (item : Bytes) : OStream :=
  { out with width := 0, text := out.text ++ item.leftpad out.width out.fill }

/-- Writes a number that is not negative. -/
def putInt (out : OStream) (n : ℕ) : OStream :=
  out.put ((Nat.toDigits out.base n).map fun c => c.toNat.toUInt8)

def hex (out : OStream) : OStream := { out with base := 16 }

def dec (out : OStream) : OStream := { out with base := 10 }

def setw (out : OStream) (width : ℕ) : OStream := { out with width }

def setfill (out : OStream) (fill : UInt8) : OStream := { out with fill }

/-- Nothing is pending: decimal, and no width for the next item. -/
structure Plain (out : OStream) : Prop where
  base : out.base = 10
  width : out.width = 0

theorem Plain.put {out : OStream} (h : out.Plain) (item : Bytes) :
    (out.put item).Plain ∧ (out.put item).text = out.text ++ item := by
  refine ⟨⟨h.base, rfl⟩, ?_⟩
  simp [OStream.put, h.width, List.leftpad]

/-- Behind the digits of a control byte the stream is plain again; the fill stays but pads nothing. -/
theorem Plain.put_control {out : OStream} (h : out.Plain) (n : ℕ) :
    ((((out.put "\\u").hex.setw 4).setfill 48).putInt n).dec.Plain ∧
      ((((out.put "\\u").hex.setw 4).setfill 48).putInt n).dec.text =
        out.text ++ ("\\u" ++ hexPadded 4 n) := by
  refine ⟨⟨rfl, rfl⟩, ?_⟩
  show (out.put "\\u").text ++ hexPadded 4 n = _
  rw [(h.put "\\u").2, List.append_assoc]

end OStream

/-- One turn of the loop of `escape_json`. -/
def escapeTurn (out : OStream) (c : UInt8) : OStream :=
  if c = 34 then out.put "\\\""
  else if c = 92 then out.put "\\\\"
  else if c = 8 then out.put "\\b"
  else if c = 12 then out.put "\\f"
  else if c = 10 then out.put "\\n"
  else if c = 13 then out.put "\\r"
  else if c = 9 then out.put "\\t"
  else if c < 0x20 then ((((out.put "\\u").hex.setw 4).setfill 48).putInt c.toNat).dec
  else out.put [c]

/-- A turn leaves the stream plain and writes the bytes of `escapeJsonByte`. -/
theorem escapeTurn_plain {out : OStream} (h : out.Plain) (c : UInt8) :
    (escapeTurn out c).Plain ∧ (escapeTurn out c).text = out.text ++ escapeJsonByte c := by
  unfold escapeTurn escapeJsonByte
  split_ifs
  all_goals first | exact h.put _ | exact h.put_control c.toNat

/-- The loop from any plain stream, by induction on the bytes left. -/
theorem foldl_escapeTurn_plain {out : OStream} (h : out.Plain) (input : Bytes) :
    (input.foldl escapeTurn out).Plain ∧
      (input.foldl escapeTurn out).text = out.text ++ escapeJson input := by
  induction input generalizing out with
  | nil => exact ⟨h, (List.append_nil _).symm⟩
  | cons c input ih =>
    obtain ⟨hplain, htext⟩ := escapeTurn_plain h c
    obtain ⟨hrun, hout⟩ := ih hplain
    refine ⟨hrun, ?_⟩
    rw [List.foldl_cons, hout, htext, List.append_assoc]
    rfl

theorem escapeJson_eq_stream (input : Bytes) :
    escapeJson input = (input.foldl escapeTurn {}).text := by
  have hplain : ({} : OStream).Plain := ⟨rfl, rfl⟩
  rw [(foldl_escapeTurn_plain hplain input).2]
  rfl

/-- A decoder gives back the bytes of a string and what follows it. -/
theorem jsonString_decodes :
    (∀ s rest, parseString (jsonString s ++ rest) = some (s, rest)) ∧
      Function.Injective escapeJson ∧
      ∀ s, (∀ b ∈ escapeJson s, 32 ≤ b) ∧
        ∀ before after, escapeJson s = before ++ 34 :: after → Escapes before := by
  refine ⟨fun s rest => ?_, ?_, fun s => ?_⟩
  · rw [jsonString_eq_quote]
    exact parseString_quote s rest
  · rw [funext escapeJson_eq_flatMap]
    exact flatMap_escapeByte_injective
  · rw [escapeJson_eq_flatMap]
    exact ⟨printable_flatMap_escapeByte s, escapes_of_quote s⟩

-- A quote behind a backslash, and a hexadecimal digit behind a NUL.
example : jsonString [92, 34, 0, 65] = "\"\\\\\\\"\\u0000A\"" := by decide

end Archspec
