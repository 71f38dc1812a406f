import Mathlib.Data.Finmap
import Mathlib.Data.List.Sort
import Archspec.Host

/-!
# Shared helpers of the collectors

The functions of `internal.hh`: path composition, the readers that turn a file, a directory or a
symbolic link into a value or a status, and the parsers of numbers, CPU lists, sizes and
`key : value` blocks.
-/

namespace Archspec

open Lib

/-! ## Paths -/

/-- A path separator, in the sense of `basename`. -/
def isSeparator (c : UInt8) : Bool := c == 47 || c == 92

/-- The last component of a path, trailing separators ignored. -/
def basename (path : Bytes) : Bytes :=
  if path = [] then []
  else
    let body := path.rdropWhile isSeparator
    if body = [] then "/" else body.rtakeWhile fun c => !isSeparator c

def joinPath (root suffix : Bytes) : Bytes :=
  match suffix with
  | [] => root
  | c :: rest =>
    if root = [] ∨ root = "/" then 47 :: (if c = 47 then rest else suffix)
    else if c = 47 then root ++ suffix
    else root ++ 47 :: suffix

def procPath (options : CollectOptions) (suffix : Bytes) : Bytes :=
  joinPath options.procfsRoot suffix

def sysPath (options : CollectOptions) (suffix : Bytes) : Bytes :=
  joinPath options.sysfsRoot suffix

def etcPath (options : CollectOptions) (suffix : Bytes) : Bytes :=
  joinPath options.etcRoot suffix

def devPath (options : CollectOptions) (suffix : Bytes) : Bytes :=
  joinPath options.devRoot suffix

/-! ## Numbers -/

/-- The largest 64-bit value. -/
def u64Max : UInt64 := 0xFFFFFFFFFFFFFFFF

/-- The check both integer parsers make after the conversion of `trimmed`: only blanks follow. -/
def conversion {α : Type} : Converted α → Option α
  | .number value rest => if rest.all isSpace then some value else none
  | _ => none

/-- The out parameter is written exactly when the result is there. -/
def parseU64 (text : Bytes) : Option UInt64 :=
  let trimmed := trim text
  if trimmed.head? = none ∨ trimmed.head? = some 45 then none
  else conversion (strtoull (cString trimmed) 0)

def parseI64 (text : Bytes) : Option Int64 :=
  let trimmed := trim text
  if trimmed = [] then none else conversion (strtoll (cString trimmed) 0)

/-- The multiplier of a lower-case size suffix. -/
def sizeMultiplier (suffix : Bytes) : Option UInt64 :=
  if suffix = "k" ∨ suffix = "kb" ∨ suffix = "kib" then some 1024
  else if suffix = "m" ∨ suffix = "mb" ∨ suffix = "mib" then some (1024 * 1024)
  else if suffix = "g" ∨ suffix = "gb" ∨ suffix = "gib" then some (1024 * 1024 * 1024)
  else if suffix ≠ [] ∧ suffix ≠ "b" then none
  else some 1

/-- A product, refused when it does not fit. -/
def scaled (value multiplier : UInt64) : Option UInt64 :=
  if multiplier ≠ 0 ∧ value > u64Max / multiplier then none else some (value * multiplier)

def parseSizeBytes (text : Bytes) : Option UInt64 :=
  let value := trim text
  if value.head? = none ∨ value.head? = some 45 then none
  else match strtoull (cString value) 10 with
    | .number parsed rest => do
      let multiplier ← sizeMultiplier (lowered (trim rest))
      scaled parsed multiplier
    | _ => none

/-- The token loop of `cpuListCount`. -/
def cpuListCountFrom (count : UInt64) : List Bytes → Option UInt64
  | [] => some count
  | token :: tokens =>
    let token := trim token
    match splitFirst 45 token with
    | none =>
      match parseU64 token with
      | none => none
      | some _ => if count = u64Max then none else cpuListCountFrom (count + 1) tokens
    | some (first, last) =>
      match parseU64 first, parseU64 last with
      | some first, some last =>
        if last < first then none
        else
          -- the size of the full range wraps to zero
          let rangeCount := last - first + 1
          if rangeCount = 0 ∨ count > u64Max - rangeCount then none
          else cpuListCountFrom (count + rangeCount) tokens
      | _, _ => none

def cpuListCount (text : Bytes) : Option UInt64 :=
  let value := trim text
  if value = [] then some 0 else cpuListCountFrom 0 (value.splitOn 44)

/-! ## Words, quoted values and key-value blocks -/

/-- The set of words of a text. -/
def wordSet (text : Bytes) : Finset Bytes := (splitWords text).toFinset

def boolFromFlag (flags : Finset Bytes) (name : Bytes) : BoolField :=
  .ofValue (decide (name ∈ flags))

/-- The loop of `unquoteValue` over the bytes between the quotes. -/
def unescape (quote : UInt8) (escaped : Bool) : Bytes → Bytes
  | [] => []
  | c :: s =>
    if escaped then c :: unescape quote false s
    else if quote = 34 ∧ c = 92 then unescape quote true s
    else c :: unescape quote false s

def unquoteValue (value : Bytes) : Bytes :=
  match trim value with
  | quote :: c :: s =>
    if (quote ≠ 34 ∧ quote ≠ 39) ∨ (c :: s).getLast? ≠ some quote then quote :: c :: s
    else unescape quote false (c :: s).dropLast
  | value => value

/-- `std::map<std::string, std::string>`. -/
abbrev KeyValueMap := Finmap fun _ : Bytes => Bytes

/-- One line of `parseColonBlocks`: the finished blocks and the pending one. -/
def colonBlocksLine (state : List KeyValueMap × KeyValueMap) (line : Bytes) :
    List KeyValueMap × KeyValueMap :=
  let (blocks, current) := state
  if trim line = [] then if current = ∅ then (blocks, current) else (blocks ++ [current], ∅)
  else match splitFirst 58 line with
    | none => (blocks, current)
    | some (key, value) => (blocks, current.insert (trim key) (trim value))

def parseColonBlocks (text : Bytes) : List KeyValueMap :=
  let (blocks, current) := (lines text).foldl colonBlocksLine ([], ∅)
  if current = ∅ then blocks else blocks ++ [current]

/-- The non-empty value of a key. -/
def mapValue (values : KeyValueMap) (key : Bytes) : Option Bytes :=
  (values.lookup key).filter (· ≠ [])

/-- The value of the first key that has one. -/
def stringFromMap (values : KeyValueMap) (keys : List Bytes) : StringField :=
  match keys.findSome? (mapValue values) with
  | some value => .ofValue value
  | none => .unavailable .notFound

def u64FromMap (values : KeyValueMap) (keys : List Bytes) : U64Field :=
  match keys.findSome? (mapValue values) with
  | some text =>
    match parseU64 text with
    | some value => .ofValue value
    | none => .unavailable .parseError
  | none => .unavailable .notFound

/-! ## Readers -/

/-- `detail::ReadResult`. -/
structure ReadResult where
  status : Status := .notFound
  value : Bytes := []

/-- The status of a path that could not be opened, by whether it exists. -/
def Existence.pathErrorStatus : Existence → Status
  | .yes => .permDenied
  | .no none | .no (some .noSuchFileOrDirectory) | .no (some .notADirectory) => .notFound
  | .no (some .permissionDenied) | .no (some .operationNotPermitted) => .permDenied
  | .no (some .other) => .internalError

def statusForPathError (path : Bytes) : Collect Status := do
  let existence ← ask (.pathExists path)
  return existence.pathErrorStatus

def pathExists (path : Bytes) : Collect Bool := do
  let existence ← ask (.pathExists path)
  return existence = .yes

def pathIsDir (path : Bytes) : Collect Bool := ask (.isDirectory path)

def readFile (path : Bytes) : Collect ReadResult := do
  match ← ask (.openFile path) with
  | none => do
    let status ← statusForPathError path
    return { status }
  | some file =>
    return if file.badCopy then { status := .internalError }
      else { status := .ok, value := file.content }

def readFirstLine (path : Bytes) : Collect ReadResult := do
  match ← ask (.openFile path) with
  | none => do
    let status ← statusForPathError path
    return { status }
  | some file =>
    return if file.badLine then { status := .internalError }
      else { status := .ok, value := firstLine file.content }

/-- The readers of one line: the status of a failed read, the parse of the line otherwise. -/
def readParsed {α : Type} [Inhabited α] (parse : Bytes → Option α) (path : Bytes) :
    Collect (Field α) := do
  let result ← readFirstLine path
  if result.status ≠ .ok then return .unavailable result.status
  else match parse result.value with
    | some value => return .ofValue value
    | none => return .unavailable .parseError

def readStringField (path : Bytes) (trimValue : Bool := true) : Collect StringField :=
  readParsed (fun line => some (if trimValue then trim line else line)) path

def readU64Field (path : Bytes) (multiplier : UInt64 := 1) : Collect U64Field :=
  readParsed (fun line => do scaled (← parseU64 line) multiplier) path

def readU32Field (path : Bytes) : Collect U32Field :=
  readParsed (fun line => do
    let value ← parseU64 line
    if value > 0xFFFFFFFF then none else some value.toUInt32) path

def readI64Field (path : Bytes) : Collect I64Field := readParsed parseI64 path

def readCpuListCountField (path : Bytes) : Collect U64Field := readParsed cpuListCount path

def readSizeBytesField (path : Bytes) : Collect U64Field := readParsed parseSizeBytes path

/-- A read that is made only while the field has no value. -/
def keepValid {α : Type} (field : Field α) (read : Collect (Field α)) : Collect (Field α) :=
  if field.valid then return field else read

/-- The names in a directory, sorted; empty when it cannot be opened. -/
def listDir (path : Bytes) : Collect (List EntryName) := do
  match ← ask (.listDirectory path) with
  | none => return []
  | some listing => return listing.entries.insertionSort fun a b => lexLe a.name b.name

def readSymlinkTarget (path : Bytes) : Collect (Option Bytes) := ask (.readSymlink path)

def readSymlinkBasenameField (path : Bytes) : Collect StringField := do
  match ← readSymlinkTarget path with
  | none => do
    let status ← statusForPathError path
    return .unavailable status
  | some target => return .ofValue (basename target)

end Archspec
