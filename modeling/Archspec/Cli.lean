import Archspec.Encode

/-!
# The command line tool

`archspec-inspect.cc`: the parser of category lists, the texts the tool prints, and `main`.  The
loop over the arguments works on an index, as the source does: `takeValue` advances it past a value.
An early `return` of `main` is an error of the loop (`Except Outcome`).
-/

namespace Archspec

open Lib

/-! ## Categories -/

/-- The table of `archspec-inspect.cc`. -/
def cliCategories : List (Bytes × CollectCategory) :=
  [("os", .os), ("cpu", .cpu), ("isa", .isa), ("cache", .cache), ("memory", .memory), ("pci", .pci),
   ("gpu", .gpu), ("perf", .perf), ("block", .block), ("net", .net), ("thermal", .thermal),
   ("power", .power), ("virtualization", .virtualization), ("platform", .platform)]

/-- One name of a category list. -/
def selectCategory (selected : CollectCategory) (name : Bytes) : Except Bytes CollectCategory :=
  match cliCategories.find? fun entry => name = entry.1 with
  | some entry => .ok (selected ||| entry.2)
  | none => .error ("unknown category '" ++ name ++ "'")

/-- The categories of a list, or the message why it is rejected. -/
def parseCategories (text : Bytes) : Except Bytes CollectCategory :=
  if text = "all" then .ok .all
  else if text = "none" ∨ text = [] then
    .error "category list must contain at least one category"
  else (getlines 44 text).foldlM selectCategory .none

/-! ## Printed texts -/

def helpText : Bytes :=
  "archspec-inspect " ++ version ++ "\n" ++
  "Collect a safe, structured description of the local system.\n\n" ++
  "Usage: archspec-inspect [options]\n\n" ++
  "  --format text|json       Output format (default: text)\n" ++
  "  --json                   Alias for --format json\n" ++
  "  --categories LIST        Comma-separated categories or 'all'\n" ++
  "  --include-sensitive      Include hostname, command line, and addresses\n" ++
  "  --redact                 Hide sensitive fields (the default)\n" ++
  "  --allow-perf             Permit perf_event_open capability probes\n" ++
  "  --allow-slow             Permit opt-in slow probes\n" ++
  "  --allow-vendor-libs      Permit opt-in vendor library probes\n" ++
  "  --procfs-root PATH       Read Linux procfs data below PATH\n" ++
  "  --sysfs-root PATH        Read Linux sysfs data below PATH\n" ++
  "  --etc-root PATH          Read operating-system metadata below PATH\n" ++
  "  --dev-root PATH          Resolve device paths below PATH\n" ++
  "  --capabilities           Print the machine-readable CLI contract\n" ++
  "  --version                Print the program version\n" ++
  "  --help                   Show this help\n\n" ++
  "Categories: os,cpu,isa,cache,memory,pci,gpu,perf,block,net,thermal," ++
  "power,virtualization,platform\n"

/-- The text of a printed value. -/
class Printed (α : Type) where
  text : α → Bytes

instance : Printed Bytes := ⟨id⟩
instance : Printed UInt64 := ⟨fun value => decimal value.toNat⟩

/-- `print_field`. -/
def fieldText {α : Type} [Printed α] (label : Bytes) (field : Field α) : Bytes :=
  "  " ++ label ++ ": " ++
    (if field.valid then Printed.text field.value
      else "unavailable (" ++ statusCode field.status ++ ")") ++ "\n"

/-- One section of `print_text`, printed when its category was collected. -/
def sectionText (report : Report) (category : CollectCategory) (text : Bytes) : Bytes :=
  if hasCategory report.categories category then text else []

/-- The line with the number of entries of a section. -/
def countText (label : Bytes) (count : ℕ) : Bytes := "\n" ++ label ++ ": " ++ decimal count ++ "\n"

/-- `print_text`. -/
def reportText (report : Report) : Bytes :=
  let info := report.system
  "ArchSpec Inspect " ++ version ++ "\n" ++
  sectionText report .os
    ("\nOS\n" ++ fieldText "kernel" info.osInfo.kernelName ++
      fieldText "kernel release" info.osInfo.kernelRelease ++
      fieldText "distribution" info.osInfo.distroName ++
      fieldText "hostname" info.osInfo.hostname) ++
  sectionText report .cpu
    ("\nCPU\n" ++ "  architecture: " ++ info.cpuInfo.arch.toString ++ "\n" ++
      fieldText "model" info.cpuInfo.modelName ++
      fieldText "online CPUs" info.cpuInfo.onlineCpuCount ++
      fieldText "sockets" info.cpuInfo.sockets ++
      fieldText "cores per socket" info.cpuInfo.coresPerSocket ++
      fieldText "threads per core" info.cpuInfo.threadsPerCore) ++
  sectionText report .memory
    ("\nMemory\n" ++ fieldText "total KiB" info.memoryInfo.totalKb ++
      fieldText "available KiB" info.memoryInfo.availableKb ++
      fieldText "NUMA nodes"
        (Field.ofValue (UInt64.ofNat info.memoryInfo.numaNodes.length))) ++
  sectionText report .cache (countText "cache entries" info.cacheList.entries.length) ++
  sectionText report .pci (countText "PCI devices" info.pciDevices.entries.length) ++
  sectionText report .gpu (countText "GPUs" info.gpuList.entries.length) ++
  sectionText report .block (countText "block devices" info.blockDevices.entries.length) ++
  sectionText report .net (countText "network interfaces" info.netInterfaces.entries.length) ++
  sectionText report .thermal (countText "thermal zones" info.thermalInfo.entries.length)

/-- `print_capabilities`. -/
def capabilitiesText : Bytes :=
  "\x7b\"name\":\"archspec-inspect\",\"version\":\"" ++ version ++
  "\",\"report_schema_version\":\"" ++ reportSchemaVersion ++
  "\",\"formats\":[\"text\",\"json\"],\"categories\":[" ++
  List.intercalate (bytes ",") (cliCategories.map fun entry => "\"" ++ entry.1 ++ "\"") ++
  "],\"safe_by_default\":true,\"supports_redaction\":true\x7d\n"

/-! ## The loop over the arguments -/

/-- How the process ends. -/
structure Outcome where
  exitCode : ℕ
  stdout : Bytes := []
  stderr : Bytes := []

/-- The local state of `main`. -/
structure Settings where
  options : CollectOptions := { includeSensitive := false }
  format : Bytes := "text"

/-- The return with code 2 behind a message. -/
def usageError (message : Bytes) : Outcome :=
  { exitCode := 2, stderr := "archspec-inspect: " ++ message ++ "\n" }

/-- The value behind the option at an index, with its own index. -/
def takeValue (argv : List Bytes) (index : ℕ) (option : Bytes) : Except Outcome (Bytes × ℕ) :=
  match argv[index + 1]? with
  | none => .error (usageError (option ++ " requires a value"))
  | some value => .ok (value, index + 1)

/-- The option that a root argument sets. -/
def rootSetter (argument : Bytes) : Option (CollectOptions → Bytes → CollectOptions) :=
  if argument = "--procfs-root" then some fun options root => { options with procfsRoot := root }
  else if argument = "--sysfs-root" then some fun options root => { options with sysfsRoot := root }
  else if argument = "--etc-root" then some fun options root => { options with etcRoot := root }
  else if argument = "--dev-root" then some fun options root => { options with devRoot := root }
  else none

/-- One turn of the loop: the next index and the new state. -/
def turn (argv : List Bytes) (index : ℕ) (settings : Settings) (argument : Bytes) :
    Except Outcome (ℕ × Settings) :=
  let options := settings.options
  if argument = "--help" ∨ argument = "-h" then .error { exitCode := 0, stdout := helpText }
  else if argument = "--version" then
    .error { exitCode := 0, stdout := "archspec-inspect " ++ version ++ "\n" }
  else if argument = "--capabilities" then .error { exitCode := 0, stdout := capabilitiesText }
  else if argument = "--json" then .ok (index + 1, { settings with format := "json" })
  else if argument = "--redact" then
    .ok (index + 1, { settings with options := { options with includeSensitive := false } })
  else if argument = "--include-sensitive" then
    .ok (index + 1, { settings with options := { options with includeSensitive := true } })
  else if argument = "--allow-perf" then
    .ok (index + 1, { settings with options := { options with allowPerfOpen := true } })
  else if argument = "--allow-slow" then
    .ok (index + 1, { settings with options := { options with allowSlowProbes := true } })
  else if argument = "--allow-vendor-libs" then
    .ok (index + 1, { settings with options := { options with allowVendorLibraries := true } })
  else if argument = "--format" then do
    let (value, index) ← takeValue argv index argument
    if value ≠ "text" ∧ value ≠ "json" then .error (usageError ("unknown format '" ++ value ++ "'"))
    else .ok (index + 1, { settings with format := value })
  else if argument = "--categories" then do
    let (value, index) ← takeValue argv index argument
    match parseCategories value with
    | .error message => .error (usageError message)
    | .ok categories => .ok (index + 1, { settings with options := { options with categories } })
  else match rootSetter argument with
    | some setRoot => do
      let (value, index) ← takeValue argv index argument
      .ok (index + 1, { settings with options := setRoot options value })
    | none => .error (usageError ("unknown option '" ++ argument ++ "' (try --help)"))

/-- The loop of `main` from an index on; the number of arguments bounds the number of turns. -/
def loop (argv : List Bytes) : ℕ → ℕ → Settings → Except Outcome Settings
  | 0, _, settings => .ok settings
  | turns + 1, index, settings =>
    match argv[index]? with
    | none => .ok settings
    | some argument => do
      let (index, settings) ← turn argv index settings argument
      loop argv turns index settings

/-- What the arguments ask for: an early return, or the settings of a collection. -/
def parseArguments (argv : List Bytes) : Except Outcome Settings := loop argv argv.length 1 {}

/-- What a collection prints. -/
def Settings.print (settings : Settings) (report : Report) : Bytes :=
  if settings.format = "json" then report.toJson ++ "\n" else reportText report

/-- `main`; `arch` is what the storage of the collected record held. -/
def main (arch : ArchType) (argv : List Bytes) : Collect Outcome :=
  match parseArguments argv with
  | .error outcome => return outcome
  | .ok settings => do
    let report ← collectReport arch settings.options
    return { exitCode := 0, stdout := settings.print report }

end Archspec
