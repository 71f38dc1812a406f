import Archspec.Collectors.Processor
import Archspec.Collectors.Devices

/-!
# The remaining collectors

`os.cc`, `cache.cc`, `memory.cc`, `thermal.cc`, `power.cc` and `platform.cc`.
-/

namespace Archspec

open Lib

/-! ## Operating system -/

/-- One line of `parseOsRelease`. -/
def osReleaseLine (values : KeyValueMap) (line : Bytes) : KeyValueMap :=
  let line := trim line
  if line.head? = none ∨ line.head? = some 35 then values
  else match splitFirst 61 line with
    | none => values
    | some (key, value) => values.insert (trim key) (unquoteValue value)

def parseOsRelease (text : Bytes) : KeyValueMap := (lines text).foldl osReleaseLine ∅

/-- A distribution field: the status of a failed read, or the first key with a value. -/
def osReleaseField (osRelease : ReadResult) (keys : List Bytes) : StringField :=
  if osRelease.status ≠ .ok then .unavailable osRelease.status
  else stringFromMap (parseOsRelease osRelease.value) keys

/-- A string of `uname`. -/
def unameField (uts : Option Utsname) (string : Utsname → Bytes) : StringField :=
  match uts with
  | some uts => .ofValue (string uts)
  | none => .unavailable .internalError

/-- The page size of the host. -/
def pageSizeField (page : Int64) : U64Field :=
  if page > 0 then .ofValue page.toUInt64 else .unavailable .notFound

def collectOs (options : CollectOptions) : Collect OsInfo := do
  let uts ← ask .uname
  let page ← ask .pageSize
  let target ← ask .target
  let cmdline ← readStringField (procPath options "/cmdline") false
  let osRelease ← readFile (etcPath options "/os-release")
  return { kernelName := unameField uts (·.sysname)
           kernelRelease := unameField uts (·.release)
           kernelVersion := unameField uts (·.version)
           machine := unameField uts (·.machine)
           hostname := redactUnless options.includeSensitive (unameField uts (·.nodename))
           pageSize := pageSizeField page
           wordSize := .ofValue (target.pointerBytes * 8)
           endianness := .ofValue (if target.littleEndian then "little" else "big")
           cmdline := redactUnless options.includeSensitive cmdline
           distroName := osReleaseField osRelease ["PRETTY_NAME", "NAME"]
           distroVersion := osReleaseField osRelease ["VERSION_ID", "VERSION"]
           distroId := osReleaseField osRelease ["ID"] }

/-! ## Caches -/

def cacheTypeFromString (value : Bytes) : CacheType :=
  if lowered value = "data" then .data
  else if lowered value = "instruction" then .instruction
  else if lowered value = "unified" then .unified
  else .unknown

/-- A key component, with a placeholder for an unavailable field. -/
def keyPart {α : Type} (field : Field α) (text : α → Bytes) : Bytes :=
  if field.valid then text field.value else "?"

/-- The identity of a cache: the CPU is a part of it only when the sharing list is unavailable. -/
def cacheKey (cache : CacheInfo) : Bytes :=
  keyPart cache.level (fun n => decimal n.toNat) ++ "|" ++ cache.type.toString ++
    "|" ++ keyPart cache.size (fun n => decimal n.toNat) ++ "|" ++ keyPart cache.sharedCpuList id ++
    (if !cache.sharedCpuList.valid && cache.cpuId.valid then
      bytes "|cpu=" ++ decimal cache.cpuId.value.toNat else [])

/-- The cache of one index directory. -/
def cacheIndex (cpu : UInt64) (path : Bytes) : Collect CacheInfo := do
  let level ← readU32Field (joinPath path "level")
  let size ← readSizeBytesField (joinPath path "size")
  let lineSize ← readU64Field (joinPath path "coherency_line_size")
  let associativity ← readU64Field (joinPath path "ways_of_associativity")
  let sets ← readU64Field (joinPath path "number_of_sets")
  let sharedCpuList ← readStringField (joinPath path "shared_cpu_list")
  let type ← readStringField (joinPath path "type")
  return { cpuId := .ofValue cpu.toUInt32
           level, size, lineSize, associativity, sets, sharedCpuList
           type := if type.valid then cacheTypeFromString type.value else .unknown }

/-- The keys seen and the entries so far. -/
structure CacheScan where
  seen : Finset Bytes := ∅
  entries : List CacheInfo := []

/-- Keep a cache whose key is new. -/
def CacheScan.add (scan : CacheScan) (cache : CacheInfo) : CacheScan :=
  if cacheKey cache ∈ scan.seen then scan
  else { seen := insert (cacheKey cache) scan.seen, entries := scan.entries ++ [cache] }

/-- One CPU directory of the cache loop. -/
def cpuCaches (scan : CacheScan) (cpu : UInt64 × Bytes) : Collect CacheScan := do
  let cacheRoot := joinPath cpu.2 "cache"
  let names ← listDir cacheRoot
  names.foldlM (fun scan index => do
    if startsWith index.name "index" then
      let cache ← cacheIndex cpu.1 (joinPath cacheRoot index.name)
      return scan.add cache
    else return scan) scan

def collectCache (options : CollectOptions) : Collect CacheList := do
  let cpus ← cpuDirs options
  let scan ← cpus.foldlM cpuCaches {}
  return { entries := scan.entries }

/-! ## Memory -/

/-- The numbers of a meminfo text by key. -/
abbrev MeminfoMap := Finmap fun _ : Bytes => UInt64

/-- One line of `parseMeminfoValues`: the first word after the colon, if it is a number. -/
def meminfoLine (values : MeminfoMap) (line : Bytes) : MeminfoMap :=
  match splitFirst 58 line with
  | none => values
  | some (key, rest) =>
    match (splitWords rest).head?.bind parseU64 with
    | some value => values.insert (trim key) value
    | none => values

def parseMeminfoValues (text : Bytes) : MeminfoMap := (lines text).foldl meminfoLine ∅

def meminfoField (values : MeminfoMap) (key : Bytes) : U64Field :=
  match values.lookup key with
  | some value => .ofValue value
  | none => .unavailable .notFound

/-- A field of a meminfo file: the status of a failed read, or the value of the key. -/
def meminfoFileField (meminfo : ReadResult) (key : Bytes) : U64Field :=
  if meminfo.status = .ok then meminfoField (parseMeminfoValues meminfo.value) key
  else .unavailable meminfo.status

/-- The selected mode stands in brackets. -/
def hugepagesSelected (value : Bytes) : Bool :=
  match (splitFirst 91 value).bind fun p => splitFirst 93 p.2 with
  | some (selected, _) => if selected ≠ [] then selected ≠ "never" else !Lib.contains value "never"
  | none => !Lib.contains value "never"

def transparentHugepagesEnabled (options : CollectOptions) : Collect BoolField := do
  let result ← readFirstLine (sysPath options "/kernel/mm/transparent_hugepage/enabled")
  return if result.status ≠ .ok then .unavailable result.status
    else .ofValue (hugepagesSelected result.value)

/-- The entry of one NUMA node directory. -/
def numaNode (root : Bytes) (entry : EntryName) : Collect (Option NumaNodeInfo) := do
  match numberedEntry "node" entry.name with
  | none => return none
  | some id => do
    let nodePath := joinPath root entry.name
    let cpuList ← readStringField (joinPath nodePath "cpulist")
    let meminfo ← readFile (joinPath nodePath "meminfo")
    let pre := bytes "Node " ++ decimal id.toNat
    return some { nodeId := .ofValue id.toUInt32
                  totalKb := meminfoFileField meminfo (pre ++ " MemTotal")
                  freeKb := meminfoFileField meminfo (pre ++ " MemFree")
                  cpuList }

def collectNumaNodes (options : CollectOptions) : Collect (List NumaNodeInfo) := do
  let root := sysPath options "/devices/system/node"
  let names ← listDir root
  Program.gather (numaNode root) names

def collectMemory (options : CollectOptions) : Collect MemoryInfo := do
  let meminfo ← readFile (procPath options "/meminfo")
  let page ← ask .pageSize
  let transparentHugepagesEnabled ← transparentHugepagesEnabled options
  let numaNodes ← collectNumaNodes options
  return { totalKb := meminfoFileField meminfo "MemTotal"
           freeKb := meminfoFileField meminfo "MemFree"
           availableKb := meminfoFileField meminfo "MemAvailable"
           buffersKb := meminfoFileField meminfo "Buffers"
           cachedKb := meminfoFileField meminfo "Cached"
           swapTotalKb := meminfoFileField meminfo "SwapTotal"
           swapFreeKb := meminfoFileField meminfo "SwapFree"
           hugepageSizeKb := meminfoFileField meminfo "Hugepagesize"
           hugepagesTotal := meminfoFileField meminfo "HugePages_Total"
           hugepagesFree := meminfoFileField meminfo "HugePages_Free"
           pageSizeBytes := pageSizeField page
           transparentHugepagesEnabled, numaNodes }

/-! ## Thermal zones -/

/-- The entry of one thermal zone directory. -/
def thermalZone (root : Bytes) (entry : EntryName) : Collect (Option ThermalZoneInfo) := do
  if startsWith entry.name "thermal_zone" then
    let path := joinPath root entry.name
    let type ← readStringField (joinPath path "type")
    let temp ← readStringField (joinPath path "temp")
    return some { name := .ofValue entry.name, type, temp }
  else return none

def collectThermal (options : CollectOptions) : Collect ThermalInfo := do
  let root := sysPath options "/class/thermal"
  let names ← listDir root
  let entries ← Program.gather (thermalZone root) names
  return { entries }

/-! ## Power -/

/-- Kilohertz, reported in megahertz. -/
def readKhzAsMhz (paths : List Bytes) : Collect U64Field := firstU64 (· / 1000) .notFound paths

def isMainsType (type : Bytes) : Bool :=
  type = "Mains" || type = "AC" || type = "USB" || type = "USB_C"

/-- What the supply loop has found so far. -/
structure PowerScan where
  batteryStatus : StringField := .initial
  batteryCapacityPercent : U64Field := .initial
  sawBattery : Bool := false
  sawMains : Bool := false
  anyMainsOnline : Bool := false

/-- One power supply. -/
def powerSupply (root : Bytes) (scan : PowerScan) (entry : EntryName) : Collect PowerScan := do
  let path := joinPath root entry.name
  let type ← readStringField (joinPath path "type")
  if !type.valid then return scan
  else if type.value = "Battery" then
    let batteryStatus ← keepValid scan.batteryStatus (readStringField (joinPath path "status"))
    let batteryCapacityPercent ← keepValid scan.batteryCapacityPercent
      (readU64Field (joinPath path "capacity"))
    return { scan with sawBattery := true, batteryStatus, batteryCapacityPercent }
  else if isMainsType type.value then
    let online ← readU64Field (joinPath path "online")
    return { scan with sawMains := true, anyMainsOnline := scan.anyMainsOnline ||
      (online.valid && online.value != 0) }
  else return scan

def onBatteryField (scan : PowerScan) : BoolField :=
  if scan.sawBattery then
    if scan.sawMains then .ofValue (!scan.anyMainsOnline)
    else if scan.batteryStatus.valid then .ofValue (scan.batteryStatus.value = "Discharging")
    else .unavailable .notFound
  else if scan.sawMains then .ofValue false
  else .unavailable .notFound

def collectPower (options : CollectOptions) : Collect PowerInfo := do
  let root := sysPath options "/class/power_supply"
  let names ← listDir root
  let scan ← names.foldlM (powerSupply root) {}
  let cpufreq := sysPath options "/devices/system/cpu/cpu0/cpufreq"
  let cpuGovernor ← readStringField (joinPath cpufreq "scaling_governor")
  let cpuCurrentFreqMhz ← readKhzAsMhz
    [joinPath cpufreq "scaling_cur_freq", joinPath cpufreq "cpuinfo_cur_freq"]
  let cpuMinFreqMhz ← readKhzAsMhz
    [joinPath cpufreq "scaling_min_freq", joinPath cpufreq "cpuinfo_min_freq"]
  let cpuMaxFreqMhz ← readKhzAsMhz
    [joinPath cpufreq "scaling_max_freq", joinPath cpufreq "cpuinfo_max_freq"]
  return { onBattery := onBatteryField scan
           batteryStatus := scan.batteryStatus
           batteryCapacityPercent := scan.batteryCapacityPercent
           cpuGovernor, cpuCurrentFreqMhz, cpuMinFreqMhz, cpuMaxFreqMhz }

/-! ## Platform -/

/-- The fifth byte of the variable holds the flag, behind four bytes of attributes. -/
def secureBootField (value : ReadResult) : BoolField :=
  if value.status ≠ .ok then .unavailable value.status
  else match value.value[4]? with
    | some flag => .ofValue (flag != 0)
    | none => .unavailable .parseError

def collectSecureBoot (options : CollectOptions) : Collect BoolField := do
  let efivars := sysPath options "/firmware/efi/efivars"
  let names ← listDir efivars
  match names.find? fun entry => startsWith entry.name "SecureBoot-" with
  | none => return .unavailable .notFound
  | some entry => do
    let value ← readFile (joinPath efivars entry.name)
    return secureBootField value

def collectPlatform (options : CollectOptions) : Collect PlatformInfo := do
  let dmi := sysPath options "/class/dmi/id"
  let systemVendor ← readStringField (joinPath dmi "sys_vendor")
  let productName ← readStringField (joinPath dmi "product_name")
  let productVersion ← readStringField (joinPath dmi "product_version")
  let boardVendor ← readStringField (joinPath dmi "board_vendor")
  let boardName ← readStringField (joinPath dmi "board_name")
  let biosVendor ← readStringField (joinPath dmi "bios_vendor")
  let biosVersion ← readStringField (joinPath dmi "bios_version")
  let biosDate ← readStringField (joinPath dmi "bios_date")
  let uefi ← pathIsDir (sysPath options "/firmware/efi")
  let secureBoot ← (if uefi then collectSecureBoot options else return .unavailable .notFound)
  return { systemVendor, productName, productVersion, boardVendor, boardName, biosVendor
           biosVersion, biosDate
           uefi := .ofValue uefi
           secureBoot }

end Archspec
