import Archspec.Attributes
import Archspec.Enumeration
import Archspec.Fidelity

/-!
# The devices of a machine and the sections about them

A device is a directory under its name with its attributes in it.  An `Inventory` is a list of
devices with their attributes, and `Env.ShowsInventory` says that the machine shows these devices,
in directories that may be listed in any order and hold other entries too.

The main result is `inventory_reported`: the sections of the PCI devices, the block devices, the
network interfaces and the thermal zones are the inventory, sorted by name.  It rests on the round
trip of each attribute and on one lemma about a listing that is sorted and filtered
(`run_gather_lists`).  The entries leave nothing out, so that the text of a report tells the
inventory (`inventory_of_text`).
-/

namespace Archspec

open Lib Program

/-! ## Directories of devices -/

/-- The directory lists the entries and perhaps others, in any order. -/
def Env.Lists (env : Env) (root : Bytes) (entries others : List EntryName) : Prop :=
  ∃ listing, env (.listDirectory root) = some listing ∧ listing.entries.Perm (others ++ entries)

/-- Sorting by name commutes with leaving entries out. -/
theorem filter_insertionSort (keep : EntryName → Bool) (entries : List EntryName) :
    (entries.insertionSort entryLe).filter keep = (entries.filter keep).insertionSort entryLe := by
  have hsorted := (List.pairwise_insertionSort entryLe entries).filter keep
  have hperm : ((entries.insertionSort entryLe).filter keep).Perm (entries.filter keep) :=
    (List.perm_insertionSort entryLe entries).filter keep
  have hsort := List.perm_insertionSort entryLe (entries.filter keep)
  refine (hperm.trans hsort.symm).eq_of_pairwise (fun a b _ _ hab hba => ?_) hsorted
    (List.pairwise_insertionSort entryLe _)
  exact EntryName.eq_of_name_eq (lexLe_antisymm hab hba)

theorem Env.Lists.names_eq {env : Env} {root : Bytes} {entries others : List EntryName}
    (h : env.Lists root entries others) :
    env.names root = (others ++ entries).insertionSort entryLe := by
  obtain ⟨listing, hlisting, hperm⟩ := h
  rw [Env.names, hlisting]
  exact insertionSort_perm_eq hperm

section Listed

variable {α β : Type} {env : Env} {root : Bytes} {items : List α} {name : α → EntryName}
  {others : List EntryName}

/-- The items in the order of their names. -/
def sortedBy (name : α → EntryName) (items : List α) : List α :=
  items.insertionSort fun a b => entryLe (name a) (name b)

/-- A loop over the names of a directory visits its items in the order of their names, and passes
over the other entries. -/
theorem run_gather_lists {f : EntryName → Collect (Option β)} {value : α → β}
    (h : env.Lists root (items.map name) others)
    (hitems : ∀ a ∈ items, (f (name a)).run env = some (value a))
    (hothers : ∀ entry ∈ others, (f entry).run env = none) :
    (gather f (env.names root)).run env = (sortedBy name items).map value := by
  let keep : EntryName → Bool := fun entry => ((f entry).run env).isSome
  have hkeep : (others ++ items.map name).filter keep = items.map name := by
    rw [List.filter_append, List.filter_eq_nil_iff.2, List.nil_append, List.filter_eq_self.2]
    · intro entry hentry
      obtain ⟨a, ha, rfl⟩ := List.mem_map.1 hentry
      show ((f (name a)).run env).isSome = true
      rw [hitems a ha]
      rfl
    · intro entry hentry
      show ¬ ((f entry).run env).isSome = true
      rw [hothers entry hentry]
      exact Bool.false_ne_true
  have hsorted : (items.map name).insertionSort entryLe = (sortedBy name items).map name :=
    (List.map_insertionSort _ _ name items fun a _ b _ => Iff.rfl).symm
  have hfilter : (env.names root).filter keep = (sortedBy name items).map name := by
    rw [h.names_eq, filter_insertionSort, hkeep, hsorted]
  have hloop : (env.names root).filterMap (fun entry => (f entry).run env) =
      ((env.names root).filter keep).filterMap fun entry => (f entry).run env := by
    rw [List.filterMap_filter]
    congr 1
    funext entry
    show (f entry).run env = if ((f entry).run env).isSome then (f entry).run env else none
    cases (f entry).run env <;> rfl
  rw [run_gather, hloop, hfilter, List.filterMap_map, ← List.filterMap_eq_map]
  apply List.filterMap_congr
  intro a ha
  exact hitems a ((List.mem_insertionSort _).1 ha)

end Listed

/-! ## The inventory -/

/-- The path of an entry below a directory of the sysfs root. -/
def entryPath (options : CollectOptions) (dir : Bytes) (entry : EntryName) : Bytes :=
  joinPath (sysPath options dir) entry.name

@[ext] structure PciDevice where
  address : EntryName
  vendorId : Option Line := none
  deviceId : Option Line := none
  subsystemVendorId : Option Line := none
  subsystemDeviceId : Option Line := none
  classId : Option Line := none
  driver : Option LinkName := none
  numaNode : Option Int64 := none
  iommuGroup : Option LinkName := none
  resource : Bool := false

/-- A block device that is neither a loop device nor a RAM disk. -/
@[ext] structure BlockDevice where
  name : EntryName
  model : Option Line := none
  vendor : Option Line := none
  rotational : Option Bool := none
  sectors : Option UInt64 := none
  logicalBlockSize : Option UInt64 := none
  physicalBlockSize : Option UInt64 := none
  scheduler : Option Line := none
  not_pseudo : isPseudoBlockDevice name.name = false := by decide
  sectors_fit : ∀ n ∈ sectors, n.toNat * 512 < 2 ^ 64 := by decide

@[ext] structure NetInterface where
  name : EntryName
  macAddress : Option Line := none
  mtu : Option UInt64 := none
  speedMbps : Option Int64 := none
  duplex : Option Line := none
  carrier : Option Bool := none
  driver : Option LinkName := none

@[ext] structure ThermalZone where
  name : EntryName
  type : Option Line := none
  temp : Option Line := none
  is_zone : startsWith name.name "thermal_zone" = true := by decide

/-- The devices of a machine. -/
structure Inventory where
  pci : List PciDevice := []
  block : List BlockDevice := []
  net : List NetInterface := []
  zones : List ThermalZone := []

/-! ## What the machine shows -/

section Shows

variable (env : Env) (options : CollectOptions)

structure Env.ShowsPci (device : PciDevice) (path : Bytes) : Prop where
  dir : env (.isDirectory path) = true
  vendorId : env.Shows Line.text (joinPath path "vendor") device.vendorId
  deviceId : env.Shows Line.text (joinPath path "device") device.deviceId
  subsystemVendorId :
    env.Shows Line.text (joinPath path "subsystem_vendor") device.subsystemVendorId
  subsystemDeviceId :
    env.Shows Line.text (joinPath path "subsystem_device") device.subsystemDeviceId
  classId : env.Shows Line.text (joinPath path "class") device.classId
  driver : env.Links (joinPath path "driver") device.driver
  numaNode : env.Shows printI64 (joinPath path "numa_node") device.numaNode
  iommuGroup : env.Links (joinPath path "iommu_group") device.iommuGroup
  resource : env (.pathExists (joinPath path "resource")) = .yes ↔ device.resource = true

structure Env.ShowsBlock (device : BlockDevice) (path : Bytes) : Prop where
  dir : env (.isDirectory path) = true
  model : env.Shows Line.text (joinPath path "device/model") device.model
  vendor : env.Shows Line.text (joinPath path "device/vendor") device.vendor
  rotational : env.Shows printFlag (joinPath path "queue/rotational") device.rotational
  sectors : env.Shows printU64 (joinPath path "size") device.sectors
  logicalBlockSize :
    env.Shows printU64 (joinPath path "queue/logical_block_size") device.logicalBlockSize
  physicalBlockSize :
    env.Shows printU64 (joinPath path "queue/physical_block_size") device.physicalBlockSize
  scheduler : env.Shows Line.text (joinPath path "queue/scheduler") device.scheduler

structure Env.ShowsNet (device : NetInterface) (path : Bytes) : Prop where
  dir : env (.isDirectory path) = true
  macAddress : env.Shows Line.text (joinPath path "address") device.macAddress
  mtu : env.Shows printU64 (joinPath path "mtu") device.mtu
  speedMbps : env.Shows printI64 (joinPath path "speed") device.speedMbps
  duplex : env.Shows Line.text (joinPath path "duplex") device.duplex
  carrier : env.Shows printFlag (joinPath path "carrier") device.carrier
  driver : env.Links (joinPath path "device/driver") device.driver

structure Env.ShowsZone (zone : ThermalZone) (path : Bytes) : Prop where
  type : env.Shows Line.text (joinPath path "type") zone.type
  temp : env.Shows Line.text (joinPath path "temp") zone.temp

/-- The directory lists the devices, shows each of them, and has other entries that are passed
over. -/
def Env.ShowsAll {α : Type} (dir : Bytes) (name : α → EntryName) (items : List α)
    (shown : α → Bytes → Prop) (passed : EntryName → Prop) : Prop :=
  (∃ others, env.Lists (sysPath options dir) (items.map name) others ∧
    ∀ entry ∈ others, passed entry) ∧
  ∀ a ∈ items, shown a (entryPath options dir (name a))

/-- The entry is not a directory. -/
def Env.NoDirectory (dir : Bytes) (entry : EntryName) : Prop :=
  env (.isDirectory (entryPath options dir entry)) = false

structure Env.ShowsInventory (inventory : Inventory) : Prop where
  pci : env.ShowsAll options "/bus/pci/devices" PciDevice.address inventory.pci env.ShowsPci
    (env.NoDirectory options "/bus/pci/devices")
  block : env.ShowsAll options "/block" BlockDevice.name inventory.block env.ShowsBlock
    fun entry => isPseudoBlockDevice entry.name = true ∨ env.NoDirectory options "/block" entry
  net : env.ShowsAll options "/class/net" NetInterface.name inventory.net env.ShowsNet
    (env.NoDirectory options "/class/net")
  zones : env.ShowsAll options "/class/thermal" ThermalZone.name inventory.zones env.ShowsZone
    fun entry => startsWith entry.name "thermal_zone" = false

end Shows

/-! ## The entries -/

section Entries

variable (options : CollectOptions)

/-- The entry of a PCI device. -/
def PciDevice.info (device : PciDevice) : PciDeviceInfo where
  pciAddress := .ofValue device.address.name
  vendorId := .ofOption (device.vendorId.map Line.text)
  deviceId := .ofOption (device.deviceId.map Line.text)
  subsystemVendorId := .ofOption (device.subsystemVendorId.map Line.text)
  subsystemDeviceId := .ofOption (device.subsystemDeviceId.map Line.text)
  classId := .ofOption (device.classId.map Line.text)
  driver := .ofOption (device.driver.map LinkName.name)
  numaNode := .ofOption device.numaNode
  iommuGroup := .ofOption (device.iommuGroup.map LinkName.name)
  resourcePath := .ofOption (if device.resource then
    some (joinPath (entryPath options "/bus/pci/devices" device.address) "resource") else none)

/-- The entry of a block device. -/
def BlockDevice.info (device : BlockDevice) : BlockDeviceInfo where
  name := .ofValue device.name.name
  path := .ofValue (devPath options ("/" ++ device.name.name))
  model := .ofOption (device.model.map Line.text)
  vendor := .ofOption (device.vendor.map Line.text)
  rotational := .ofOption device.rotational
  sizeBytes := .ofOption (device.sectors.map (· * 512))
  logicalBlockSize := .ofOption device.logicalBlockSize
  physicalBlockSize := .ofOption device.physicalBlockSize
  scheduler := .ofOption (device.scheduler.map Line.text)

/-- The entry of a network interface, with the addresses that the host has for it. -/
def NetInterface.info (addresses : AddressMap) (device : NetInterface) : NetInterfaceInfo where
  name := .ofValue device.name.name
  macAddress := redactUnless options.includeSensitive
    (.ofOption (device.macAddress.map Line.text))
  ipv4Addresses := redactUnless options.includeSensitive
    (addressesField (addresses.lookup device.name.name) (·.ipv4))
  ipv6Addresses := redactUnless options.includeSensitive
    (addressesField (addresses.lookup device.name.name) (·.ipv6))
  mtu := .ofOption device.mtu
  speedMbps := .ofOption
    ((device.speedMbps.filter fun speed => decide (0 ≤ speed)).map (·.toUInt64))
  duplex := .ofOption (device.duplex.map Line.text)
  carrier := .ofOption device.carrier
  driver := .ofOption (device.driver.map LinkName.name)

/-- The entry of a thermal zone. -/
def ThermalZone.info (zone : ThermalZone) : ThermalZoneInfo where
  name := .ofValue zone.name.name
  type := .ofOption (zone.type.map Line.text)
  temp := .ofOption (zone.temp.map Line.text)

end Entries

/-! ## The sections -/

section Sections

variable {env : Env} {options : CollectOptions}

theorem run_pciDevice_shows {device : PciDevice}
    (h : env.ShowsPci device (entryPath options "/bus/pci/devices" device.address)) :
    (pciDevice (sysPath options "/bus/pci/devices") device.address).run env =
      some (device.info options) := by
  have hresource := h.resource
  unfold entryPath at h hresource
  simp only [pciDevice, run_bind, run_pure, pathIsDir, ask, run_call, h.dir, if_true, pathExists,
    run_readStringField_shows h.vendorId, run_readStringField_shows h.deviceId,
    run_readStringField_shows h.subsystemVendorId, run_readStringField_shows h.subsystemDeviceId,
    run_readStringField_shows h.classId, run_readI64Field_shows h.numaNode,
    run_readSymlinkBasenameField_links h.driver, run_readSymlinkBasenameField_links h.iommuGroup]
  rw [PciDevice.info]
  by_cases hexists : device.resource = true
  · simp only [hresource.2 hexists, hexists, decide_true, if_true, entryPath]
    rfl
  · simp only [mt hresource.1 hexists, hexists, decide_false, if_false, Bool.false_eq_true]
    rfl

theorem run_blockDevice_shows {device : BlockDevice}
    (h : env.ShowsBlock device (entryPath options "/block" device.name)) :
    (blockDevice options device.name).run env = some (device.info options) := by
  have hfits : ∀ n ∈ device.sectors, n.toNat * (512 : UInt64).toNat < 2 ^ 64 := device.sectors_fit
  unfold entryPath at h
  simp only [blockDevice, run_bind, run_pure, pathIsDir, ask, run_call, h.dir, if_true,
    device.not_pseudo, Bool.false_eq_true, if_false, run_readStringField_shows h.model,
    run_readStringField_shows h.vendor, run_readBoolNumber_shows h.rotational,
    run_readU64Field_shows 512 (by decide) hfits h.sectors,
    run_readU64Field_shows_one h.logicalBlockSize, run_readU64Field_shows_one h.physicalBlockSize,
    run_readStringField_shows h.scheduler, BlockDevice.info]

theorem run_netInterface_shows {device : NetInterface} (addresses : AddressMap)
    (h : env.ShowsNet device (entryPath options "/class/net" device.name)) :
    (netInterface options addresses device.name).run env =
      some (device.info options addresses) := by
  unfold entryPath at h
  simp only [netInterface, run_bind, run_pure, pathIsDir, ask, run_call, h.dir, if_true,
    run_readStringField_shows h.macAddress, run_readU64Field_shows_one h.mtu,
    run_readSpeedMbps_shows h.speedMbps, run_readStringField_shows h.duplex,
    run_readBoolNumber_shows h.carrier, run_readSymlinkBasenameField_links h.driver,
    NetInterface.info]

theorem run_thermalZone_shows {zone : ThermalZone}
    (h : env.ShowsZone zone (entryPath options "/class/thermal" zone.name)) :
    (thermalZone (sysPath options "/class/thermal") zone.name).run env = some zone.info := by
  unfold entryPath at h
  simp only [thermalZone, run_bind, run_pure, zone.is_zone, if_true,
    run_readStringField_shows h.type, run_readStringField_shows h.temp, ThermalZone.info]

/-- The entries of a section are those of the devices, sorted by name. -/
theorem Env.ShowsAll.gather {α β : Type} {dir : Bytes} {name : α → EntryName} {items : List α}
    {shown : α → Bytes → Prop} {passed : EntryName → Prop} {f : EntryName → Collect (Option β)}
    {value : α → β} (h : env.ShowsAll options dir name items shown passed)
    (hitems : ∀ a ∈ items, shown a (entryPath options dir (name a)) →
      (f (name a)).run env = some (value a))
    (hpassed : ∀ entry, passed entry → (f entry).run env = none) :
    (Program.gather f (env.names (sysPath options dir))).run env =
      (sortedBy name items).map value := by
  obtain ⟨⟨others, hlists, hothers⟩, hshows⟩ := h
  apply run_gather_lists hlists
  · exact fun a ha => hitems a ha (hshows a ha)
  · exact fun entry hentry => hpassed entry (hothers entry hentry)

section Collectors

variable {inventory : Inventory} (h : env.ShowsInventory options inventory)

include h

theorem run_collectPci_shows :
    ((collectPci options).run env).entries =
      (sortedBy PciDevice.address inventory.pci).map (PciDevice.info options) := by
  simp only [collectPci, run_bind, run_pure, run_listDir]
  apply h.pci.gather
  · exact fun device _ hshows => run_pciDevice_shows hshows
  · intro entry hentry
    unfold Env.NoDirectory entryPath at hentry
    simp only [pciDevice, run_bind, run_pure, pathIsDir, ask, run_call, hentry, Bool.false_eq_true,
      if_false]

theorem run_collectBlock_shows :
    ((collectBlock options).run env).entries =
      (sortedBy BlockDevice.name inventory.block).map (BlockDevice.info options) := by
  simp only [collectBlock, run_bind, run_pure, run_listDir]
  apply h.block.gather
  · exact fun device _ hshows => run_blockDevice_shows hshows
  · intro entry hentry
    unfold Env.NoDirectory entryPath at hentry
    rcases hentry with hpseudo | hdir
    · simp only [blockDevice, hpseudo, if_true, run_pure]
    · simp only [blockDevice, run_ite, run_bind, run_pure, pathIsDir, ask, run_call, hdir,
        Bool.false_eq_true, if_false, ite_self]

theorem run_collectNet_shows :
    ((collectNet options).run env).entries =
      (sortedBy NetInterface.name inventory.net).map
        (NetInterface.info options ((collectAddresses options).run env)) := by
  simp only [collectNet, run_bind, run_pure, run_listDir]
  apply h.net.gather
  · exact fun device _ hshows => run_netInterface_shows _ hshows
  · intro entry hentry
    unfold Env.NoDirectory entryPath at hentry
    simp only [netInterface, run_bind, run_pure, pathIsDir, ask, run_call, hentry,
      Bool.false_eq_true, if_false]

theorem run_collectThermal_shows :
    ((collectThermal options).run env).entries =
      (sortedBy ThermalZone.name inventory.zones).map ThermalZone.info := by
  simp only [collectThermal, run_bind, run_pure, run_listDir]
  apply h.zones.gather
  · exact fun zone _ hshows => run_thermalZone_shows hshows
  · intro entry hentry
    simp only [thermalZone, hentry, Bool.false_eq_true, if_false, run_pure]

end Collectors

end Sections

/-- The sections about devices are the inventory that the machine shows, sorted by name. -/
theorem inventory_reported (env : Env) (arch : ArchType) (options : CollectOptions)
    {inventory : Inventory} (h : env.ShowsInventory options inventory) :
    (options.categories.Selects .pci →
      ((collectReport arch options).run env).system.pciDevices.entries =
        (sortedBy PciDevice.address inventory.pci).map (PciDevice.info options)) ∧
    (options.categories.Selects .block →
      ((collectReport arch options).run env).system.blockDevices.entries =
        (sortedBy BlockDevice.name inventory.block).map (BlockDevice.info options)) ∧
    (options.categories.Selects .net →
      ((collectReport arch options).run env).system.netInterfaces.entries =
        (sortedBy NetInterface.name inventory.net).map
          (NetInterface.info options ((collectAddresses options).run env))) ∧
    (options.categories.Selects .thermal →
      ((collectReport arch options).run env).system.thermalInfo.entries =
        (sortedBy ThermalZone.name inventory.zones).map ThermalZone.info) := by
  refine ⟨fun hc => ?_, fun hc => ?_, fun hc => ?_, fun hc => ?_⟩
  · have hsection : ((collectReport arch options).run env).system.pciDevices =
        (collectPci options).run env := run_report_section env options arch hc
    rw [hsection]
    exact run_collectPci_shows h
  · have hsection : ((collectReport arch options).run env).system.blockDevices =
        (collectBlock options).run env := run_report_section env options arch hc
    rw [hsection]
    exact run_collectBlock_shows h
  · have hsection : ((collectReport arch options).run env).system.netInterfaces =
        (collectNet options).run env := run_report_section env options arch hc
    rw [hsection]
    exact run_collectNet_shows h
  · have hsection : ((collectReport arch options).run env).system.thermalInfo =
        (collectThermal options).run env := run_report_section env options arch hc
    rw [hsection]
    exact run_collectThermal_shows h

/-! ## The inventory of a text -/

theorem Line.text_injective : Function.Injective Line.text := by
  rintro ⟨text, _, _⟩ ⟨text', _, _⟩ h
  cases h
  rfl

theorem LinkName.name_injective : Function.Injective LinkName.name := by
  rintro ⟨name, _, _⟩ ⟨name', _, _⟩ h
  cases h
  rfl

theorem Field.ofValue_inj {α : Type} {a b : α} : Field.ofValue a = Field.ofValue b ↔ a = b :=
  ⟨fun h => congrArg Field.value h, fun h => congrArg Field.ofValue h⟩

theorem Field.ofOption_inj {α : Type} [Inhabited α] {a b : Option α} :
    Field.ofOption a = Field.ofOption b ↔ a = b := by
  refine ⟨fun h => ?_, fun h => congrArg Field.ofOption h⟩
  cases a with
  | none =>
    cases b with
    | none => rfl
    | some b => cases congrArg Field.valid h
  | some a =>
    cases b with
    | none => cases congrArg Field.valid h
    | some b => exact congrArg some (congrArg Field.value h)

theorem map_text_inj {a b : Option Line} : a.map Line.text = b.map Line.text ↔ a = b :=
  (Option.map_injective Line.text_injective).eq_iff

theorem map_name_inj {a b : Option LinkName} : a.map LinkName.name = b.map LinkName.name ↔ a = b :=
  (Option.map_injective LinkName.name_injective).eq_iff

theorem PciDevice.info_injective (options : CollectOptions) :
    Function.Injective (PciDevice.info options) := by
  intro device device' h
  have haddress : device.address.name = device'.address.name :=
    Field.ofValue_inj.1 (congrArg PciDeviceInfo.pciAddress h)
  have hresource : device.resource = device'.resource := by
    have hpath := Field.ofOption_inj.1 (congrArg PciDeviceInfo.resourcePath h)
    cases hd : device.resource <;> cases hd' : device'.resource
    all_goals first | rfl | (rw [hd, hd'] at hpath; cases hpath)
  simp only [PciDevice.info, PciDeviceInfo.mk.injEq, Field.ofOption_inj, map_text_inj,
    map_name_inj] at h
  obtain ⟨-, hvendor, hdevice, hsubVendor, hsubDevice, hclass, hdriver, hnuma, hgroup, -⟩ := h
  exact PciDevice.ext (EntryName.eq_of_name_eq haddress) hvendor hdevice hsubVendor hsubDevice
    hclass hdriver hnuma hgroup hresource

/-- Sizes that fit tell the numbers of sectors apart. -/
theorem sectors_eq {sectors sectors' : Option UInt64}
    (hfit : ∀ n ∈ sectors, n.toNat * 512 < 2 ^ 64) (hfit' : ∀ n ∈ sectors', n.toNat * 512 < 2 ^ 64)
    (h : sectors.map (· * 512) = sectors'.map (· * 512)) : sectors = sectors' := by
  cases sectors with
  | none =>
    cases sectors' with
    | none => rfl
    | some n => cases h
  | some m =>
    cases sectors' with
    | none => cases h
    | some n =>
      have hm := hfit m rfl
      have hn := hfit' n rfl
      have hproduct : (m * 512).toNat = (n * 512).toNat :=
        congrArg UInt64.toNat (Option.some.inj h)
      have hfactor : (512 : UInt64).toNat = 512 := rfl
      rw [UInt64.toNat_mul, UInt64.toNat_mul, hfactor, Nat.mod_eq_of_lt hm, Nat.mod_eq_of_lt hn]
        at hproduct
      have hnat : m.toNat = n.toNat := by omega
      rw [UInt64.toNat_inj.1 hnat]

theorem BlockDevice.info_injective (options : CollectOptions) :
    Function.Injective (BlockDevice.info options) := by
  intro device device' h
  have hname : device.name.name = device'.name.name :=
    Field.ofValue_inj.1 (congrArg BlockDeviceInfo.name h)
  have hsectors : device.sectors = device'.sectors :=
    sectors_eq device.sectors_fit device'.sectors_fit
      (Field.ofOption_inj.1 (congrArg BlockDeviceInfo.sizeBytes h))
  simp only [BlockDevice.info, BlockDeviceInfo.mk.injEq, Field.ofOption_inj, map_text_inj] at h
  obtain ⟨-, hmodel, hvendor, -, hrotational, -, hlogical, hphysical, hscheduler⟩ := h
  exact BlockDevice.ext (EntryName.eq_of_name_eq hname) hmodel hvendor hrotational hsectors
    hlogical hphysical hscheduler

theorem ThermalZone.info_injective : Function.Injective ThermalZone.info := by
  intro zone zone' h
  have hname : zone.name.name = zone'.name.name :=
    Field.ofValue_inj.1 (congrArg ThermalZoneInfo.name h)
  simp only [ThermalZone.info, ThermalZoneInfo.mk.injEq, Field.ofOption_inj, map_text_inj] at h
  obtain ⟨-, htype, htemp⟩ := h
  exact ThermalZone.ext (EntryName.eq_of_name_eq hname) htype htemp

/-- What a report can tell of an interface: a negative speed is none, and the hardware address is
sensitive. -/
def NetInterface.visible (includeSensitive : Bool) (device : NetInterface) : NetInterface :=
  { device with
    macAddress := if includeSensitive then device.macAddress else none
    speedMbps := device.speedMbps.filter fun speed => decide (0 ≤ speed) }

theorem NetInterface.visible_eq_of_info_eq {options : CollectOptions}
    {addresses addresses' : AddressMap} {device device' : NetInterface}
    (h : device.info options addresses = device'.info options addresses') :
    device.visible options.includeSensitive = device'.visible options.includeSensitive := by
  have hname : device.name.name = device'.name.name :=
    Field.ofValue_inj.1 (congrArg NetInterfaceInfo.name h)
  have hmac : (if options.includeSensitive then device.macAddress else none) =
      if options.includeSensitive then device'.macAddress else none := by
    cases hinclude : options.includeSensitive with
    | false => rfl
    | true =>
      have hfield := congrArg NetInterfaceInfo.macAddress h
      simp only [NetInterface.info, hinclude, redactUnless, if_true] at hfield
      exact map_text_inj.1 (Field.ofOption_inj.1 hfield)
  have hspeed : device.speedMbps.filter (fun speed => decide (0 ≤ speed)) =
      device'.speedMbps.filter fun speed => decide (0 ≤ speed) := by
    have hfield := Field.ofOption_inj.1 (congrArg NetInterfaceInfo.speedMbps h)
    refine Option.map_injective ?_ hfield
    rintro ⟨a⟩ ⟨b⟩ hab
    exact congrArg Int64.ofUInt64 hab
  simp only [NetInterface.info, NetInterfaceInfo.mk.injEq, Field.ofOption_inj, map_text_inj,
    map_name_inj] at h
  obtain ⟨-, -, -, -, hmtu, -, hduplex, hcarrier, hdriver⟩ := h
  exact NetInterface.ext (EntryName.eq_of_name_eq hname) hmac hmtu hspeed hduplex hcarrier hdriver

/-- Lists with the same images agree in all that the images tell. -/
theorem map_eq_map_of {α β γ : Type} {f f' : α → β} {g : α → γ}
    (hg : ∀ a b, f a = f' b → g a = g b) {l l' : List α} (h : l.map f = l'.map f') :
    l.map g = l'.map g := by
  induction l generalizing l' with
  | nil =>
    cases l' with
    | nil => rfl
    | cons b l' => cases h
  | cons a l ih =>
    cases l' with
    | nil => cases h
    | cons b l' =>
      rw [List.map_cons, List.map_cons, List.cons.injEq] at h
      rw [List.map_cons, List.map_cons, hg a b h.1, ih h.2]

/-- Equal sections are about the same devices, as far as the entries tell. -/
theorem perm_map_of_entries_eq {α β γ : Type} {name : α → EntryName} {value value' : α → β}
    {g : α → γ} (hg : ∀ a b, value a = value' b → g a = g b) {l l' : List α}
    (h : (sortedBy name l).map value = (sortedBy name l').map value') :
    (l.map g).Perm (l'.map g) := by
  have hsorted : (sortedBy name l).map g = (sortedBy name l').map g := map_eq_map_of hg h
  have hperm : ((sortedBy name l).map g).Perm (l.map g) := (List.perm_insertionSort _ l).map g
  have hperm' : ((sortedBy name l').map g).Perm (l'.map g) := (List.perm_insertionSort _ l').map g
  exact hperm.symm.trans ((List.Perm.of_eq hsorted).trans hperm')

theorem perm_of_entries_eq {α β : Type} {name : α → EntryName} {value : α → β}
    (hvalue : Function.Injective value) {l l' : List α}
    (h : (sortedBy name l).map value = (sortedBy name l').map value) : l.Perm l' := by
  have hperm := perm_map_of_entries_eq (g := id) (fun a b => @hvalue a b) h
  rwa [List.map_id, List.map_id] at hperm

/-- The text of a report tells the devices: machines with the same text show the same inventory, up
to the order of the devices and what a report leaves out of an interface. -/
theorem inventory_of_text (env env' : Env) (arch arch' : ArchType) (options : CollectOptions)
    {inventory inventory' : Inventory} (h : env.ShowsInventory options inventory)
    (h' : env'.ShowsInventory options inventory')
    (htext : ((collectReport arch options).run env).toJson =
      ((collectReport arch' options).run env').toJson) :
    (options.categories.Selects .pci → inventory.pci.Perm inventory'.pci) ∧
    (options.categories.Selects .block → inventory.block.Perm inventory'.block) ∧
    (options.categories.Selects .net →
      (inventory.net.map (NetInterface.visible options.includeSensitive)).Perm
        (inventory'.net.map (NetInterface.visible options.includeSensitive))) ∧
    (options.categories.Selects .thermal → inventory.zones.Perm inventory'.zones) := by
  obtain ⟨-, hsections⟩ := (Report.toJson_eq_iff (run_collectReport_built env arch options)
    (run_collectReport_built env' arch' options)).1 htext
  have hsame : ∀ c, options.categories.Selects c →
      (c.collector options).run env = (c.collector options).run env' := by
    intro c hc
    have hreports := hsections c (by rwa [run_collectReport])
    rwa [run_report_section env options arch hc,
      run_report_section env' options arch' hc] at hreports
  refine ⟨fun hc => ?_, fun hc => ?_, fun hc => ?_, fun hc => ?_⟩
  · have hentries := congrArg PciDeviceList.entries (hsame .pci hc)
    rw [Category.collector, run_collectPci_shows h, run_collectPci_shows h'] at hentries
    exact perm_of_entries_eq (PciDevice.info_injective options) hentries
  · have hentries := congrArg BlockDeviceList.entries (hsame .block hc)
    rw [Category.collector, run_collectBlock_shows h, run_collectBlock_shows h'] at hentries
    exact perm_of_entries_eq (BlockDevice.info_injective options) hentries
  · have hentries := congrArg NetInterfaceList.entries (hsame .net hc)
    rw [Category.collector, run_collectNet_shows h, run_collectNet_shows h'] at hentries
    exact perm_map_of_entries_eq (fun _ _ => NetInterface.visible_eq_of_info_eq) hentries
  · have hentries := congrArg ThermalInfo.entries (hsame .thermal hc)
    rw [Category.collector, run_collectThermal_shows h, run_collectThermal_shows h'] at hentries
    exact perm_of_entries_eq ThermalZone.info_injective hentries

/-- A machine with a device of each kind, and with entries that are no devices. -/
def Inventory.workstation : Inventory where
  pci := [{ address := { name := "0000:03:00.0" }, vendorId := some { text := "0x10ec" }
            driver := some { name := "r8169" }, numaNode := some (-1), resource := true }]
  block := [{ name := { name := "nvme7n1" }, sectors := some 2048, logicalBlockSize := some 4096 }]
  net := [{ name := { name := "enp3s0" }, mtu := some 9000, speedMbps := some (-1) }]
  zones := [{ name := { name := "thermal_zone7" }, type := some { text := "x86_pkg_temp" } },
            { name := { name := "thermal_zone42" } }]

def Env.workstation : Env
  | .listDirectory path =>
    if path = "/sys/bus/pci/devices" then some ⟨[{ name := "0000:03:00.0" }], by decide⟩
    else if path = "/sys/block" then
      some ⟨[{ name := "nvme7n1" }, { name := "loop7" }], by decide⟩
    else if path = "/sys/class/net" then
      some ⟨[{ name := "bonding_masters" }, { name := "enp3s0" }], by decide⟩
    else some ⟨[{ name := "thermal_zone7" }, { name := "cooling_device7" },
      { name := "thermal_zone42" }], by decide⟩
  | .isDirectory path => path ≠ "/sys/class/net/bonding_masters"
  | .pathExists path =>
    if path = "/sys/bus/pci/devices/0000:03:00.0/resource" then .yes else .no none
  | .openFile path =>
    if path = "/sys/bus/pci/devices/0000:03:00.0/vendor" then some { content := "0x10ec\n" }
    else if path = "/sys/bus/pci/devices/0000:03:00.0/numa_node" then some { content := "-1\n" }
    else if path = "/sys/block/nvme7n1/size" then some { content := "2048\n" }
    else if path = "/sys/block/nvme7n1/queue/logical_block_size" then some { content := "4096\n" }
    else if path = "/sys/class/net/enp3s0/mtu" then some { content := "9000\n" }
    else if path = "/sys/class/net/enp3s0/speed" then some { content := "-1\n" }
    else if path = "/sys/class/thermal/thermal_zone7/type" then
      some { content := "x86_pkg_temp\n" }
    else none
  | .readSymlink path =>
    if path = "/sys/bus/pci/devices/0000:03:00.0/driver" then
      some "../../../../bus/pci/drivers/r8169"
    else none
  | call => Env.failing call

theorem workstation_showsInventory : Env.workstation.ShowsInventory {} Inventory.workstation where
  pci := by
    refine ⟨⟨[], ⟨_, rfl, .refl _⟩, by simp⟩, List.forall_mem_singleton.2 ?_⟩
    exact
      { dir := rfl
        vendorId := .value rfl rfl rfl
        deviceId := .absent rfl rfl
        subsystemVendorId := .absent rfl rfl
        subsystemDeviceId := .absent rfl rfl
        classId := .absent rfl rfl
        driver := .target (show _ = some (bytes "../../../../bus/pci/drivers" ++ _) from rfl)
        numaNode := .value rfl rfl rfl
        iommuGroup := .absent rfl rfl
        resource := iff_of_true rfl rfl }
  block := by
    refine ⟨⟨[{ name := "loop7" }], ⟨_, rfl, .swap _ _ _⟩, ?_⟩, List.forall_mem_singleton.2 ?_⟩
    · exact List.forall_mem_singleton.2 (.inl rfl)
    · exact
        { dir := rfl
          model := .absent rfl rfl
          vendor := .absent rfl rfl
          rotational := .absent rfl rfl
          sectors := .value rfl rfl rfl
          logicalBlockSize := .value rfl rfl rfl
          physicalBlockSize := .absent rfl rfl
          scheduler := .absent rfl rfl }
  net := by
    refine ⟨⟨[{ name := "bonding_masters" }], ⟨_, rfl, .refl _⟩, ?_⟩,
      List.forall_mem_singleton.2 ?_⟩
    · exact List.forall_mem_singleton.2 rfl
    · exact
        { dir := rfl
          macAddress := .absent rfl rfl
          mtu := .value rfl rfl rfl
          speedMbps := .value rfl rfl rfl
          duplex := .absent rfl rfl
          carrier := .absent rfl rfl
          driver := .absent rfl rfl }
  zones := by
    refine ⟨⟨[{ name := "cooling_device7" }], ⟨_, rfl, .swap _ _ _⟩, ?_⟩, ?_⟩
    · exact List.forall_mem_singleton.2 rfl
    · refine List.forall_mem_cons.2 ⟨⟨.value rfl rfl rfl, .absent rfl rfl⟩, ?_⟩
      exact List.forall_mem_singleton.2 ⟨.absent rfl rfl, .absent rfl rfl⟩

theorem inventory_reported_workstation :
    Env.workstation.ShowsInventory {} Inventory.workstation ∧
      ((collectReport .unknown {}).run Env.workstation).system.pciDevices.entries =
        (sortedBy PciDevice.address Inventory.workstation.pci).map (PciDevice.info {}) ∧
      ((collectReport .unknown {}).run Env.workstation).system.blockDevices.entries =
        (sortedBy BlockDevice.name Inventory.workstation.block).map (BlockDevice.info {}) ∧
      ((collectReport .unknown {}).run Env.workstation).system.netInterfaces.entries =
        (sortedBy NetInterface.name Inventory.workstation.net).map
          (NetInterface.info {} ((collectAddresses {}).run Env.workstation)) ∧
      ((collectReport .unknown {}).run Env.workstation).system.thermalInfo.entries =
        (sortedBy ThermalZone.name Inventory.workstation.zones).map ThermalZone.info := by
  obtain ⟨hpci, hblock, hnet, hthermal⟩ :=
    inventory_reported Env.workstation .unknown {} workstation_showsInventory
  exact ⟨workstation_showsInventory, hpci (by decide), hblock (by decide), hnet (by decide),
    hthermal (by decide)⟩

/-- The same machine, with the zones taken the other way round. -/
theorem inventory_of_text_workstation :
    Inventory.workstation.zones.Perm Inventory.workstation.zones.reverse := by
  have hshows := workstation_showsInventory
  obtain ⟨⟨others, ⟨listing, hlisting, hperm⟩, hothers⟩, hzones⟩ := hshows.zones
  have hreversed : Env.workstation.ShowsInventory {}
      { Inventory.workstation with zones := Inventory.workstation.zones.reverse } :=
    { hshows with
      zones := by
        refine ⟨⟨others, ⟨listing, hlisting, hperm.trans ?_⟩, hothers⟩, fun zone hzone => ?_⟩
        · exact ((List.reverse_perm _).symm.map ThermalZone.name).append_left others
        · exact hzones zone (List.mem_reverse.1 hzone) }
  exact (inventory_of_text Env.workstation Env.workstation .unknown .unknown {} hshows hreversed
    rfl).2.2.2 (by decide)

end Archspec
