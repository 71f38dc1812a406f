import Archspec.Internal

/-!
# The device collectors

`pci.cc`, `gpu.cc`, `block.cc` and `net.cc`.
-/

namespace Archspec

open Lib

/-! ## PCI devices -/

/-- The entry of one PCI device directory. -/
def pciDevice (root : Bytes) (address : EntryName) : Collect (Option PciDeviceInfo) := do
  let path := joinPath root address.name
  if ← pathIsDir path then
    let vendorId ← readStringField (joinPath path "vendor")
    let deviceId ← readStringField (joinPath path "device")
    let subsystemVendorId ← readStringField (joinPath path "subsystem_vendor")
    let subsystemDeviceId ← readStringField (joinPath path "subsystem_device")
    let classId ← readStringField (joinPath path "class")
    let driver ← readSymlinkBasenameField (joinPath path "driver")
    let numaNode ← readI64Field (joinPath path "numa_node")
    let iommuGroup ← readSymlinkBasenameField (joinPath path "iommu_group")
    let resource := joinPath path "resource"
    let resourceExists ← pathExists resource
    return some { pciAddress := .ofValue address.name
                  vendorId, deviceId, subsystemVendorId, subsystemDeviceId, classId, driver
                  numaNode, iommuGroup
                  resourcePath := if resourceExists then .ofValue resource else .unavailable .notFound }
  else return none

def collectPci (options : CollectOptions) : Collect PciDeviceList := do
  let root := sysPath options "/bus/pci/devices"
  let names ← listDir root
  let entries ← Program.gather (pciDevice root) names
  return { entries }

/-! ## GPUs -/

def vendorFromId (vendorId : StringField) : GpuVendor :=
  if !vendorId.valid then .unknown
  else if vendorId.value = "0x8086" then .intel
  else if vendorId.value = "0x1002" ∨ vendorId.value = "0x1022" then .amd
  else if vendorId.value = "0x10de" then .nvidia
  else .unknown

def isDisplayClass (classId : StringField) : Bool :=
  classId.valid && startsWith classId.value "0x03"

/-- The render nodes by the last component of their device link; a later node replaces an
earlier one. -/
def renderNodesByPci (options : CollectOptions) : Collect KeyValueMap := do
  let drmRoot := sysPath options "/class/drm"
  let names ← listDir drmRoot
  names.foldlM (fun (nodes : KeyValueMap) entry => do
    if startsWith entry.name "renderD" then
      match ← readSymlinkTarget (joinPath drmRoot (entry.name ++ "/device")) with
      | some target =>
        return nodes.insert (basename target) (devPath options ("/dri/" ++ entry.name))
      | none => return nodes
    else return nodes) ∅

/-- The loop of `first_u64_file` and `read_khz_as_mhz`: the first value, converted, or else the last
status that was not `not_found`. -/
def firstU64 (convert : UInt64 → UInt64) (lastStatus : Status) : List Bytes → Collect U64Field
  | [] => return .unavailable lastStatus
  | path :: paths => do
    let value ← readU64Field path
    if value.valid then return .ofValue (convert value.value)
    else firstU64 convert (if value.status ≠ .notFound then value.status else lastStatus) paths

def firstU64File (paths : List Bytes) : Collect U64Field := firstU64 id .notFound paths

/-- Microwatts, reported in milliwatts; without a value the field so far stays. -/
def milliwatts (powerMw powerUw : U64Field) : U64Field :=
  if powerUw.valid then .ofValue (powerUw.value / 1000) else powerMw

/-- One directory of `fill_hwmon_fields`: the temperature and the power so far. -/
def hwmonDirectory (hwmonRoot : Bytes) (fields : U64Field × U64Field) (hwmon : EntryName) :
    Collect (U64Field × U64Field) := do
  let path := joinPath hwmonRoot hwmon.name
  let temp ← keepValid fields.1 (readU64Field (joinPath path "temp1_input"))
  let power ← keepValid fields.2
    (milliwatts fields.2 <$> readU64Field (joinPath path "power1_average"))
  return (temp, power)

/-- `temp_millidegree_c` and `power_mw`. -/
def fillHwmonFields (pciPath : Bytes) : Collect (U64Field × U64Field) := do
  let hwmonRoot := joinPath pciPath "hwmon"
  let hwmons ← listDir hwmonRoot
  hwmons.foldlM (hwmonDirectory hwmonRoot) (.initial, .initial)

def gpuName (vendorId deviceId : StringField) (pciAddress : Bytes) : StringField :=
  if vendorId.valid && deviceId.valid then .ofValue (vendorId.value ++ 58 :: deviceId.value)
  else .ofValue pciAddress

def renderNodeField (renderNodes : KeyValueMap) (pciAddress : Bytes) : StringField :=
  match renderNodes.lookup pciAddress with
  | some node => .ofValue node
  | none => .initial

def gpuFromPci (pciAddress pciPath : Bytes) (renderNodes : KeyValueMap) : Collect GpuInfo := do
  let vendorId ← readStringField (joinPath pciPath "vendor")
  let deviceId ← readStringField (joinPath pciPath "device")
  let driver ← readSymlinkBasenameField (joinPath pciPath "driver")
  let vramTotalBytes ← firstU64File
    [joinPath pciPath "mem_info_vram_total", joinPath pciPath "mem_info_vis_vram_total"]
  let vramUsedBytes ← firstU64File
    [joinPath pciPath "mem_info_vram_used", joinPath pciPath "mem_info_vis_vram_used"]
  let hwmon ← fillHwmonFields pciPath
  return { vendor := vendorFromId vendorId
           name := gpuName vendorId deviceId pciAddress
           renderNode := renderNodeField renderNodes pciAddress
           pciAddress := .ofValue pciAddress
           vendorId, deviceId, driver, vramTotalBytes, vramUsedBytes
           tempMillidegreeC := hwmon.1
           powerMw := hwmon.2
           cudaAvailable := if vendorFromId vendorId = .nvidia then .unavailable .unsupported
             else .ofValue false
           cudaComputeCapability := .unavailable .unsupported }

/-- The addresses seen and the entries so far. -/
structure GpuScan where
  seen : Finset Bytes := ∅
  entries : List GpuInfo := []

/-- One name of the DRM pass. -/
def drmCard (options : CollectOptions) (renderNodes : KeyValueMap) (scan : GpuScan)
    (card : EntryName) : Collect GpuScan := do
  let drmRoot := sysPath options "/class/drm"
  let pciRoot := sysPath options "/bus/pci/devices"
  if !startsWith card.name "card" || card.name.contains 45 then return scan
  else match ← readSymlinkTarget (joinPath drmRoot (card.name ++ "/device")) with
    | none => return scan
    | some target =>
      let pciAddress := basename target
      if pciAddress ∈ scan.seen then return scan
      else do
        let gpu ← gpuFromPci pciAddress (joinPath pciRoot pciAddress) renderNodes
        let drmCard : StringField := .ofValue (devPath options ("/dri/" ++ card.name))
        return { seen := insert pciAddress scan.seen
                 entries := scan.entries ++ [{ gpu with drmCard }] }

/-- One name of the PCI pass. -/
def pciGpu (options : CollectOptions) (renderNodes : KeyValueMap) (seen : Finset Bytes)
    (address : EntryName) : Collect (Option GpuInfo) := do
  if address.name ∈ seen then return none
  else do
    let pciPath := joinPath (sysPath options "/bus/pci/devices") address.name
    let classId ← readStringField (joinPath pciPath "class")
    if isDisplayClass classId then some <$> gpuFromPci address.name pciPath renderNodes
    else return none

def collectGpu (options : CollectOptions) : Collect GpuList := do
  let renderNodes ← renderNodesByPci options
  let cards ← listDir (sysPath options "/class/drm")
  let scan ← cards.foldlM (drmCard options renderNodes) {}
  let addresses ← listDir (sysPath options "/bus/pci/devices")
  let rest ← Program.gather (pciGpu options renderNodes scan.seen) addresses
  return { entries := scan.entries ++ rest }

/-! ## Block devices -/

def isPseudoBlockDevice (name : Bytes) : Bool := startsWith name "loop" || startsWith name "ram"

/-- A number read as a truth value; `block.cc` and `net.cc` have the same function. -/
def readBoolNumber (path : Bytes) : Collect BoolField := do
  let value ← readU64Field path
  return if value.valid then .ofValue (value.value != 0) else .unavailable value.status

/-- The entry of one block device directory. -/
def blockDevice (options : CollectOptions) (entry : EntryName) :
    Collect (Option BlockDeviceInfo) := do
  let path := joinPath (sysPath options "/block") entry.name
  if isPseudoBlockDevice entry.name then return none
  else if ← pathIsDir path then
    let model ← readStringField (joinPath path "device/model")
    let vendor ← readStringField (joinPath path "device/vendor")
    let rotational ← readBoolNumber (joinPath path "queue/rotational")
    let sizeBytes ← readU64Field (joinPath path "size") 512
    let logicalBlockSize ← readU64Field (joinPath path "queue/logical_block_size")
    let physicalBlockSize ← readU64Field (joinPath path "queue/physical_block_size")
    let scheduler ← readStringField (joinPath path "queue/scheduler")
    return some { name := .ofValue entry.name
                  path := .ofValue (devPath options ("/" ++ entry.name))
                  model, vendor, rotational, sizeBytes, logicalBlockSize, physicalBlockSize
                  scheduler }
  else return none

def collectBlock (options : CollectOptions) : Collect BlockDeviceList := do
  let names ← listDir (sysPath options "/block")
  let entries ← Program.gather (blockDevice options) names
  return { entries }

/-! ## Network interfaces -/

/-- `InterfaceAddresses`. -/
structure AddressTexts where
  ipv4 : List Bytes := []
  ipv6 : List Bytes := []
  deriving DecidableEq

def joinValues (values : List Bytes) : Bytes := List.intercalate [44] values

/-- The address texts by interface name. -/
abbrev AddressMap := Finmap fun _ : Bytes => AddressTexts

/-- One element of the list of `getifaddrs`. -/
def addAddress (addresses : AddressMap) (iface : InterfaceAddress) : AddressMap :=
  let texts := (addresses.lookup iface.name).getD {}
  match iface.address with
  | some (.inet, some text) =>
    addresses.insert iface.name { texts with ipv4 := texts.ipv4 ++ [text] }
  | some (.inet6, some text) =>
    addresses.insert iface.name { texts with ipv6 := texts.ipv6 ++ [text] }
  | _ => addresses

/-- The addresses of the running host, asked for only below the real `/sys`. -/
def collectAddresses (options : CollectOptions) : Collect AddressMap := do
  if options.sysfsRoot ≠ "/sys" then return ∅
  else match ← ask .getifaddrs with
    | none => return ∅
    | some interfaces => return interfaces.foldl addAddress ∅

/-- A negative speed counts as absent. -/
def readSpeedMbps (path : Bytes) : Collect U64Field := do
  let value ← readI64Field path
  return if !value.valid then .unavailable value.status
    else if value.value < 0 then .unavailable .notFound
    else .ofValue value.value.toUInt64

/-- An address field, before redaction. -/
def addressesField (texts : Option AddressTexts) (family : AddressTexts → List Bytes) :
    StringField :=
  match texts with
  | some texts => .ofValue (joinValues (family texts))
  | none => .unavailable .notFound

/-- What replaces a sensitive field in a report without sensitive data. -/
def redactUnless (includeSensitive : Bool) (field : StringField) : StringField :=
  if includeSensitive then field else .unavailable .redacted

/-- The entry of one interface directory. -/
def netInterface (options : CollectOptions) (addresses : AddressMap) (entry : EntryName) :
    Collect (Option NetInterfaceInfo) := do
  let path := joinPath (sysPath options "/class/net") entry.name
  if ← pathIsDir path then
    let macAddress ← readStringField (joinPath path "address")
    let mtu ← readU64Field (joinPath path "mtu")
    let speedMbps ← readSpeedMbps (joinPath path "speed")
    let duplex ← readStringField (joinPath path "duplex")
    let carrier ← readBoolNumber (joinPath path "carrier")
    let driver ← readSymlinkBasenameField (joinPath path "device/driver")
    let found := addresses.lookup entry.name
    return some { name := .ofValue entry.name
                  macAddress := redactUnless options.includeSensitive macAddress
                  ipv4Addresses := redactUnless options.includeSensitive (addressesField found (·.ipv4))
                  ipv6Addresses := redactUnless options.includeSensitive (addressesField found (·.ipv6))
                  mtu, speedMbps, duplex, carrier, driver }
  else return none

def collectNet (options : CollectOptions) : Collect NetInterfaceList := do
  let addresses ← collectAddresses options
  let names ← listDir (sysPath options "/class/net")
  let entries ← Program.gather (netInterface options addresses) names
  return { entries }

end Archspec
