import Archspec.Reports

/-!
# Redaction is noninterference

Two environments that differ only in sensitive data (`SameButSensitive`): the host name, the kernel
command line, the hardware addresses of the interfaces and the network addresses.  A collection
without sensitive data returns the same report in both (`redacted_report_eq`).

Every collector but three makes no call about sensitive data at all, so `Meets.run_congr` applies.
The collectors of the operating system and of the network do ask, and overwrite what they got; the
one of the processor asks for the machine name, which comes along with the host name.
-/

namespace Archspec

open Lib Program

/-- The paths of the files with sensitive data. -/
def SensitivePath (options : CollectOptions) (path : Bytes) : Prop :=
  path = procPath options "/cmdline" ∨
    ∃ iface : Bytes, path = joinPath (joinPath (sysPath options "/class/net") iface) "address"

/-- The environments differ only in the host name, in the outcome and content of the sensitive files
and in the network addresses. -/
structure SameButSensitive (options : CollectOptions) (env env' : Env) : Prop where
  uname : (env .uname).map (fun uts => { uts with nodename := [] }) =
    (env' .uname).map fun uts => { uts with nodename := [] }
  openFile : ∀ path, ¬ SensitivePath options path → env (.openFile path) = env' (.openFile path)
  pathExists : ∀ path, ¬ SensitivePath options path →
    env (.pathExists path) = env' (.pathExists path)
  isDirectory : ∀ path, env (.isDirectory path) = env' (.isDirectory path)
  listDirectory : ∀ path, env (.listDirectory path) = env' (.listDirectory path)
  readSymlink : ∀ path, env (.readSymlink path) = env' (.readSymlink path)
  access : ∀ path, env (.access path) = env' (.access path)
  pageSize : env .pageSize = env' .pageSize
  hardwareConcurrency : env .hardwareConcurrency = env' .hardwareConcurrency
  perfEventOpen : ∀ config, env (.perfEventOpen config) = env' (.perfEventOpen config)
  target : env .target = env' .target

theorem SensitivePath.lastComponent {options : CollectOptions} {path : Bytes}
    (h : SensitivePath options path) :
    lastComponent path = "cmdline" ∨ lastComponent path = "address" := by
  rcases h with rfl | ⟨iface, rfl⟩
  · left
    rw [procPath, lastComponent_joinPath _ (by decide)]
    decide
  · right
    rw [lastComponent_joinPath _ (by decide)]
    decide

/-- A path that ends in another component is not sensitive. -/
theorem not_sensitivePath {options : CollectOptions} {path : Bytes}
    (hcmdline : Archspec.lastComponent path ≠ "cmdline")
    (haddress : Archspec.lastComponent path ≠ "address") : ¬ SensitivePath options path := by
  intro h
  rcases h.lastComponent with h | h
  · exact hcmdline h
  · exact haddress h

namespace SameButSensitive

variable {options : CollectOptions} {env env' : Env} (h : SameButSensitive options env env')

include h

/-- Calls on files that are not sensitive are answered alike. -/
theorem files {c : Category} (hos : c ≠ .os) (hnet : c ≠ .net) (call : Primitive)
    (hcall : Files options c call) : env call = env' call := by
  have hpath : ∀ path, Readable c path → ¬ SensitivePath options path := fun path hread =>
    not_sensitivePath (fun hlast => hos (hread.1 hlast)) fun hlast => hnet (hread.2 hlast)
  cases call with
  | openFile path => exact h.openFile path (hpath path hcall.2)
  | pathExists path => exact h.pathExists path (hpath path hcall.2)
  | isDirectory path => exact h.isDirectory path
  | listDirectory path => exact h.listDirectory path
  | readSymlink path => exact h.readSymlink path
  | access path => exact h.access path
  | _ => exact absurd hcall id

/-- The readers of one path, when it is not sensitive. -/
theorem reads {path : Bytes} (hcmdline : lastComponent path ≠ "cmdline")
    (haddress : lastComponent path ≠ "address") :
    Reads (fun call => env call = env' call) path :=
  have hpath := not_sensitivePath hcmdline haddress
  ⟨h.openFile path hpath, h.pathExists path hpath, h.readSymlink path⟩

theorem reads_joinPath (path : Bytes) {suffix : Bytes}
    (hs : suffix ≠ [] ∧ lastComponent suffix ≠ "cmdline" ∧ lastComponent suffix ≠ "address") :
    Reads (fun call => env call = env' call) (joinPath path suffix) := by
  have hlast := lastComponent_joinPath path hs.1
  exact h.reads (hlast ▸ hs.2.1) (hlast ▸ hs.2.2)

/-- A string of `uname` other than the host name. -/
theorem unameField_eq (string : Utsname → Bytes)
    (hstring : ∀ uts : Utsname, string { uts with nodename := [] } = string uts) :
    unameField (env .uname) string = unameField (env' .uname) string := by
  have hfield : ∀ uts : Option Utsname, unameField uts string =
      unameField (uts.map fun uts => { uts with nodename := [] }) string := by
    rintro (_ | uts)
    · rfl
    · simp only [unameField, Option.map_some, hstring]
  rw [hfield, h.uname, ← hfield]

/-- The host name and the command line are overwritten. -/
theorem run_collectOs (hinclude : options.includeSensitive = false) :
    (collectOs options).run env = (collectOs options).run env' := by
  have hrelease : (readFile (etcPath options "/os-release")).run env =
      (readFile (etcPath options "/os-release")).run env' :=
    (readFile_meets (h.reads_joinPath _ (by decide))).run_congr fun _ => id
  simp only [collectOs, run_bind, run_call, run_pure, hrelease, hinclude, redactUnless,
    Bool.false_eq_true, if_false, h.pageSize, h.target, h.unameField_eq (·.sysname) fun _ => rfl,
    h.unameField_eq (·.release) fun _ => rfl, h.unameField_eq (·.version) fun _ => rfl,
    h.unameField_eq (·.machine) fun _ => rfl]
  rfl

theorem run_cpuArch : cpuArch.run env = cpuArch.run env' := by
  have huname := h.uname
  simp only [cpuArch, run_bind, run_call]
  generalize env .uname = uts at huname ⊢
  generalize env' .uname = uts' at huname ⊢
  obtain _ | uts := uts <;> obtain _ | uts' := uts'
  · rfl
  · cases huname
  · cases huname
  · rw [Option.map_some, Option.map_some] at huname
    have hmachine : uts.machine = uts'.machine :=
      (Utsname.mk.inj (Option.some.inj huname)).2.2.2.2
    simp only [run_pure, hmachine]

/-- Of `uname` the processor section uses the machine name alone. -/
theorem run_collectCpu : (collectCpu options).run env = (collectCpu options).run env' := by
  have hmeets : ∀ machine : StringField × ArchType, machine.1.Plain →
      (cpuDetails options machine).Meets (fun call => env call = env' call)
        fun info => info.node.Plain :=
    fun machine => cpuDetails_meets (h.files (by decide) (by decide)) h.hardwareConcurrency
  have harch : cpuArch.Meets (fun _ => True) fun machine => machine.1.Plain :=
    cpuArch_meets trivial
  rw [collectCpu, run_bind, run_bind, h.run_cpuArch]
  exact (hmeets _ (harch.run env')).run_congr fun _ => id

/-- The hardware address and the network addresses of an interface are overwritten. -/
theorem run_netInterface (hinclude : options.includeSensitive = false)
    (addresses addresses' : AddressMap) (entry : EntryName) :
    (netInterface options addresses entry).run env =
      (netInterface options addresses' entry).run env' := by
  have hreads : ∀ suffix : Bytes, (suffix ≠ [] ∧ lastComponent suffix ≠ "cmdline" ∧
      lastComponent suffix ≠ "address") → Reads (fun call => env call = env' call)
        (joinPath (joinPath (sysPath options "/class/net") entry.name) suffix) :=
    fun _ => h.reads_joinPath _
  have hmtu := (readU64Field_meets (hreads "mtu" (by decide))).run_congr fun _ => id
  have hspeed := (readSpeedMbps_meets (hreads "speed" (by decide))).run_congr fun _ => id
  have hduplex := (readStringField_meets (hreads "duplex" (by decide))).run_congr fun _ => id
  have hcarrier := (readBoolNumber_meets (hreads "carrier" (by decide))).run_congr fun _ => id
  have hdriver := (readSymlinkBasenameField_meets
    (hreads "device/driver" (by decide))).run_congr fun _ => id
  unfold netInterface pathIsDir
  rw [run_bind, run_bind, run_call, run_call, h.isDirectory]
  rw [run_ite, run_ite]
  split
  · simp only [run_bind, run_pure, hmtu, hspeed, hduplex, hcarrier, hdriver, hinclude, redactUnless,
      Bool.false_eq_true, if_false]
  · rfl

theorem run_collectNet (hinclude : options.includeSensitive = false) :
    (collectNet options).run env = (collectNet options).run env' := by
  have hlist : (listDir (sysPath options "/class/net")).Meets (fun call => env call = env' call)
      fun _ => True := listDir_meets (h.listDirectory _)
  have hnames := hlist.run_congr fun _ => id
  simp only [collectNet, run_bind, run_gather, run_pure, hnames]
  congr 1
  exact List.filterMap_congr fun entry _ => h.run_netInterface hinclude _ _ entry

theorem run_collector (hinclude : options.includeSensitive = false) (c : Category) :
    (c.collector options).run env = (c.collector options).run env' := by
  by_cases hos : c = .os
  · subst hos
    exact h.run_collectOs hinclude
  by_cases hnet : c = .net
  · subst hnet
    exact h.run_collectNet hinclude
  by_cases hcpu : c = .cpu
  · subst hcpu
    exact h.run_collectCpu
  refine (collector_meets options c).run_congr fun call hcall => ?_
  rcases hcall with hfile | hhost
  · exact h.files hos hnet call hfile
  · cases call with
    | uname => exact absurd hhost (by simp [HostFact, hos, hcpu])
    | getifaddrs => exact absurd hhost.1 hnet
    | pageSize => exact h.pageSize
    | hardwareConcurrency => exact h.hardwareConcurrency
    | perfEventOpen config => exact h.perfEventOpen config
    | target => exact h.target
    | _ => exact absurd hhost id

end SameButSensitive

/-- Without sensitive data, environments that differ only in sensitive data give equal reports, with
equal texts; and there the redacted fields are the sensitive ones of the selected categories. -/
theorem redacted_report_eq (arch : ArchType) (options : CollectOptions)
    (hinclude : options.includeSensitive = false) (env env' : Env)
    (h : SameButSensitive options env env') :
    (collectReport arch options).run env = (collectReport arch options).run env' ∧
    ((collectReport arch options).run env).toJson =
      ((collectReport arch options).run env').toJson ∧
    ∀ c, options.categories.Selects c → ∀ path f,
      (((collectReport arch options).run env).system.nodeOf c).HasField path f →
        (f.status = .redacted ↔ c.Sensitive path) := by
  have hreport : (collectReport arch options).run env = (collectReport arch options).run env' := by
    rw [run_collectReport, run_collectReport]
    refine congrArg _ (SystemInfo.ext_sections fun c => ?_)
    rw [run_collect_sectionOf, run_collect_sectionOf, h.run_collector hinclude c]
  refine ⟨hreport, congrArg Report.toJson hreport, fun c hc path f hf => ?_⟩
  have hguarded := (collect_guarded arch options).run env c
  rw [if_pos hc] at hguarded
  rw [run_collectReport] at hf
  rw [(hguarded path f hf).2]
  exact and_iff_right hinclude

/-- A host that tells its name and its command line. -/
def Env.telling (nodename : Bytes) (cmdline : OpenFile) : Env
  | .uname => some ⟨"Linux", nodename, "6.1.0", "#1 SMP", "x86_64"⟩
  | call => Env.ofFiles [("/proc/cmdline", cmdline)] call

theorem redacted_report_eq_telling :
    ((collectReport .x86 { includeSensitive := false }).run
      (Env.telling "atlas" { content := bytes "root=/dev/sda1" })).toJson =
    ((collectReport .x86 { includeSensitive := false }).run
      (Env.telling "boreas" { content := bytes "quiet" })).toJson := by
  refine (redacted_report_eq .x86 { includeSensitive := false } rfl _ _ ?_).2.1
  have hlookup : ∀ file path, ¬ SensitivePath { includeSensitive := false } path →
      List.lookup path [(bytes "/proc/cmdline", file)] = (none : Option OpenFile) := by
    intro file path hpath
    have hne : (path == bytes "/proc/cmdline") = false := beq_false_of_ne fun h => hpath (Or.inl h)
    rw [List.lookup_cons, hne, List.lookup_nil]
  refine ⟨rfl, fun path hpath => ?_, fun path hpath => ?_, fun _ => rfl, fun _ => rfl,
    fun _ => rfl, fun _ => rfl, rfl, rfl, fun _ => rfl, rfl⟩
  · simp only [Env.telling, Env.ofFiles, hlookup _ path hpath]
  · simp only [Env.telling, Env.ofFiles, hlookup _ path hpath]

end Archspec
