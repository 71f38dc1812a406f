import Archspec.Core

/-!
# The addresses of the network interfaces

`collect_addresses` walks the list of `getifaddrs` once and files each address under the name of its
interface and its family.  `addressesOf` says which texts belong to an interface, without the map:
those of the list, in its order.  `lookup_foldl_addAddress` is the invariant of the walk, and
`interface_addresses` is the result for a report.
-/

namespace Archspec

open Lib Program

/-! ## The list of addresses -/

/-- The text of an element of the list that belongs to an interface and a family. -/
def InterfaceAddress.textFor (name : Bytes) (family : AddressFamily) (iface : InterfaceAddress) :
    Option Bytes :=
  if iface.name = name then
    iface.address.bind fun address => if address.1 = family then address.2 else none
  else none

/-- The texts of one family of an interface, in the order of the list. -/
def addressesOf (interfaces : List InterfaceAddress) (name : Bytes) (family : AddressFamily) :
    List Bytes := interfaces.filterMap (InterfaceAddress.textFor name family)

/-- What a report may know of the addresses of the host: nothing below another root. -/
def Env.hostAddresses (env : Env) (options : CollectOptions) : List InterfaceAddress :=
  if options.sysfsRoot = "/sys" then (env .getifaddrs).getD [] else []

/-! ## The walk over the list -/

/-- More texts filed under a name; without any, the name stays as it is. -/
def fileTexts (texts : Option AddressTexts) (ipv4 ipv6 : List Bytes) : Option AddressTexts :=
  if ipv4 = [] ∧ ipv6 = [] then texts
  else some { ipv4 := (texts.getD {}).ipv4 ++ ipv4, ipv6 := (texts.getD {}).ipv6 ++ ipv6 }

section Walk

variable (texts : Option AddressTexts)

@[simp] theorem fileTexts_nil : fileTexts texts [] [] = texts := if_pos ⟨rfl, rfl⟩

@[simp] theorem fileTexts_ipv4 (text : Bytes) :
    fileTexts texts [text] [] =
      some { ipv4 := (texts.getD {}).ipv4 ++ [text], ipv6 := (texts.getD {}).ipv6 } := by
  simp [fileTexts]

@[simp] theorem fileTexts_ipv6 (text : Bytes) :
    fileTexts texts [] [text] =
      some { ipv4 := (texts.getD {}).ipv4, ipv6 := (texts.getD {}).ipv6 ++ [text] } := by
  simp [fileTexts]

/-- Texts that are filed one after the other are filed together. -/
theorem fileTexts_fileTexts (ipv4 ipv6 ipv4' ipv6' : List Bytes) :
    fileTexts (fileTexts texts ipv4 ipv6) ipv4' ipv6' =
      fileTexts texts (ipv4 ++ ipv4') (ipv6 ++ ipv6') := by
  by_cases h : ipv4 = [] ∧ ipv6 = []
  · rw [h.1, h.2, fileTexts_nil, List.nil_append, List.nil_append]
  · by_cases h' : ipv4' = [] ∧ ipv6' = []
    · rw [h'.1, h'.2, fileTexts_nil, List.append_nil, List.append_nil]
    · have hboth : ¬ (ipv4 ++ ipv4' = [] ∧ ipv6 ++ ipv6' = []) := by
        simp only [List.append_eq_nil_iff]
        tauto
      simp only [fileTexts, if_neg h, if_neg h', if_neg hboth, Option.getD_some, List.append_assoc]

variable (addresses : AddressMap) (name : Bytes)

/-- One element files its text under its name. -/
theorem lookup_addAddress (iface : InterfaceAddress) :
    (addAddress addresses iface).lookup name =
      fileTexts (addresses.lookup name) (iface.textFor name .inet).toList
        (iface.textFor name .inet6).toList := by
  obtain ⟨other, address⟩ := iface
  rw [addAddress]
  by_cases hname : other = name
  · subst hname
    rcases address with _ | ⟨family, _ | text⟩
    · simp [InterfaceAddress.textFor]
    · cases family <;> simp [InterfaceAddress.textFor]
    · cases family <;> simp [InterfaceAddress.textFor, Finmap.lookup_insert]
  · have hother : ∀ texts, (addresses.insert other texts).lookup name = addresses.lookup name :=
      fun texts => Finmap.lookup_insert_of_ne addresses (Ne.symm hname)
    rcases address with _ | ⟨family, _ | text⟩
    · simp [InterfaceAddress.textFor, hname]
    · cases family <;> simp [InterfaceAddress.textFor, hname]
    · cases family <;> simp [InterfaceAddress.textFor, hname, hother]

/-- The walk files the texts of the list. -/
theorem lookup_foldl_addAddress (interfaces : List InterfaceAddress) :
    (interfaces.foldl addAddress addresses).lookup name =
      fileTexts (addresses.lookup name) (addressesOf interfaces name .inet)
        (addressesOf interfaces name .inet6) := by
  induction interfaces generalizing addresses with
  | nil => exact (fileTexts_nil _).symm
  | cons iface interfaces ih =>
    rw [List.foldl_cons, ih, lookup_addAddress, fileTexts_fileTexts, addressesOf, addressesOf,
      addressesOf, addressesOf, List.filterMap_cons, List.filterMap_cons]
    congr 1
    · cases iface.textFor name .inet <;> rfl
    · cases iface.textFor name .inet6 <;> rfl

end Walk

/-! ## Reports -/

section Reports

variable (env : Env) (options : CollectOptions)

theorem lookup_collectAddresses (name : Bytes) :
    ((collectAddresses options).run env).lookup name =
      fileTexts none (addressesOf (env.hostAddresses options) name .inet)
        (addressesOf (env.hostAddresses options) name .inet6) := by
  have hnone : (∅ : AddressMap).lookup name = none := Finmap.lookup_empty name
  rw [collectAddresses, Env.hostAddresses]
  by_cases hroot : options.sysfsRoot = "/sys"
  · rw [if_neg (not_not_intro hroot), if_pos hroot, run_bind, ask, run_call]
    cases env .getifaddrs with
    | none => exact hnone
    | some interfaces =>
      rw [run_pure, lookup_foldl_addAddress, hnone, Option.getD_some]
  · rw [if_pos hroot, if_neg hroot, run_pure]
    exact hnone

/-- The field for the texts of one family: it is there when the interface has an address at all. -/
def expectedAddresses (interfaces : List InterfaceAddress) (name : Bytes) (family : AddressFamily) :
    StringField :=
  if addressesOf interfaces name .inet = [] ∧ addressesOf interfaces name .inet6 = [] then
    .unavailable .notFound
  else .ofValue (joinValues (addressesOf interfaces name family))

/-- The address fields of an interface are those of the host, and the addresses can be read back
from the joined text as long as none of them has a comma. -/
structure NetInterfaceInfo.HasAddresses (net : NetInterfaceInfo)
    (interfaces : List InterfaceAddress) : Prop where
  ipv4 : net.ipv4Addresses = expectedAddresses interfaces net.name.value .inet
  ipv6 : net.ipv6Addresses = expectedAddresses interfaces net.name.value .inet6
  ipv4_split : addressesOf interfaces net.name.value .inet ≠ [] →
    (∀ text ∈ addressesOf interfaces net.name.value .inet, 44 ∉ text) →
    net.ipv4Addresses.value.splitOn 44 = addressesOf interfaces net.name.value .inet
  ipv6_split : addressesOf interfaces net.name.value .inet6 ≠ [] →
    (∀ text ∈ addressesOf interfaces net.name.value .inet6, 44 ∉ text) →
    net.ipv6Addresses.value.splitOn 44 = addressesOf interfaces net.name.value .inet6

/-- The texts of a family are read back from its field. -/
theorem splitOn_expectedAddresses {interfaces : List InterfaceAddress} {name : Bytes}
    {family : AddressFamily} (hfamily : family = .inet ∨ family = .inet6)
    (hne : addressesOf interfaces name family ≠ [])
    (hcomma : ∀ text ∈ addressesOf interfaces name family, 44 ∉ text) :
    (expectedAddresses interfaces name family).value.splitOn 44 =
      addressesOf interfaces name family := by
  have hsome : ¬ (addressesOf interfaces name .inet = [] ∧
      addressesOf interfaces name .inet6 = []) := by
    rintro ⟨hipv4, hipv6⟩
    rcases hfamily with rfl | rfl
    · exact hne hipv4
    · exact hne hipv6
  rw [expectedAddresses, if_neg hsome]
  exact List.splitOn_intercalate 44 hcomma hne

theorem addressesField_filed (interfaces : List InterfaceAddress) (name : Bytes) :
    addressesField (fileTexts none (addressesOf interfaces name .inet)
        (addressesOf interfaces name .inet6)) (·.ipv4) = expectedAddresses interfaces name .inet ∧
      addressesField (fileTexts none (addressesOf interfaces name .inet)
        (addressesOf interfaces name .inet6)) (·.ipv6) =
          expectedAddresses interfaces name .inet6 := by
  unfold fileTexts expectedAddresses
  split
  · exact ⟨rfl, rfl⟩
  · exact ⟨rfl, rfl⟩

/-- In every report with sensitive data, on any machine, each interface has its addresses: those
that `getifaddrs` lists under its name, by family and in the order of the list, and none when the
report reads another tree than the live `/sys`. -/
theorem interface_addresses (arch : ArchType) (hnet : options.categories.Selects .net)
    (hsensitive : options.includeSensitive = true) :
    ∀ net ∈ ((collectReport arch options).run env).system.netInterfaces.entries,
      net.HasAddresses (env.hostAddresses options) := by
  intro net hmem
  have hsection : ((collectReport arch options).run env).system.netInterfaces =
      (collectNet options).run env := run_report_section env options arch hnet
  rw [hsection] at hmem
  simp only [collectNet, run_bind, run_gather, run_pure, List.mem_filterMap] at hmem
  obtain ⟨entry, -, hentry⟩ := hmem
  simp only [netInterface, run_bind, run_ite, run_pure, lookup_collectAddresses, hsensitive,
    redactUnless, if_true] at hentry
  split at hentry
  · cases hentry
    obtain ⟨hipv4, hipv6⟩ := addressesField_filed (env.hostAddresses options) entry.name
    exact
      { ipv4 := hipv4
        ipv6 := hipv6
        ipv4_split := fun hne hcomma =>
          hipv4 ▸ splitOn_expectedAddresses (.inl rfl) hne hcomma
        ipv6_split := fun hne hcomma =>
          hipv6 ▸ splitOn_expectedAddresses (.inr rfl) hne hcomma }
  · cases hentry

end Reports

/-- A host with addresses of both families on one interface and none on another. -/
def Env.twoInterfaces : Env
  | .getifaddrs =>
    some [⟨"wlan0", some (.inet, some "10.0.0.7")⟩, ⟨"wlan0", some (.inet6, some "fe80::7")⟩,
      ⟨"wlan0", none⟩, ⟨"wlan0", some (.inet, some "10.0.0.8")⟩]
  | .listDirectory _ => some ⟨[{ name := "wlan0" }, { name := "docker0" }], by decide⟩
  | .isDirectory _ => true
  | call => Env.failing call

theorem interface_addresses_two :
    addressesOf (Env.twoInterfaces.hostAddresses {}) "wlan0" .inet = [bytes "10.0.0.7", "10.0.0.8"] ∧
    ∀ net ∈ ((collectReport .unknown { categories := .net, includeSensitive := true }).run
        Env.twoInterfaces).system.netInterfaces.entries,
      net.HasAddresses (Env.twoInterfaces.hostAddresses {}) :=
  ⟨by decide, interface_addresses Env.twoInterfaces { categories := .net, includeSensitive := true }
    .unknown (by decide) rfl⟩

end Archspec
