import Archspec.Readings
import Archspec.Answers

/-!
# Offline snapshots

A snapshot is a tree that all configured roots point into.  Two hosts on which the file system answers
alike below the roots (`SameTree`) may differ in what the running system tells about itself.  A report
without the fields about the running system (`SystemInfo.captured`) is the same on both, with one
exception: a CPU count that neither its own file nor cpuinfo tells is the number of threads of the
host.  `snapshot_iff` has the exact condition (`Env.CountsCaptured`).
-/

namespace Archspec

open Lib Program

/-- The file system answers alike below the configured roots. -/
def SameTree (options : CollectOptions) (env env' : Env) : Prop :=
  ∀ call path, call.path? = some path → Under options 0 path → env call = env' call

/-- A record without the fields about the running system. -/
def SystemInfo.captured (info : SystemInfo) : SystemInfo :=
  { info with
    osInfo :=
      { info.osInfo with
        kernelName := .initial, kernelVersion := .initial, kernelRelease := .initial
        machine := .initial, hostname := .initial, pageSize := .initial, wordSize := .initial
        endianness := .initial }
    cpuInfo := { info.cpuInfo with arch := .unknown, archName := .initial }
    memoryInfo := { info.memoryInfo with pageSizeBytes := .initial } }

/-- A section without the fields about the running system. -/
def Category.captured (c : Category) (s : c.Section) : c.Section :=
  ((SystemInfo.fresh .unknown).assign c s).captured.sectionOf c

theorem captured_sectionOf (info : SystemInfo) (c : Category) :
    info.captured.sectionOf c = c.captured (info.sectionOf c) := by
  cases c <;> rfl

/-- The CPU counts are in the tree: cpuinfo has a block, or each count has a file with a CPU list. -/
def Env.CountsCaptured (env : Env) (options : CollectOptions) : Prop :=
  env.cpuBlocks options ≠ [] ∨
    ∀ path ∈ cpuCountFiles options, ∃ line, env.line path = some line ∧
      (cpuListCount line).isSome = true

/-- A CPU count does not fall back on the host. -/
theorem cpuCountFallback_eq {env : Env} {options : CollectOptions} {path : Bytes}
    (hpath : path ∈ cpuCountFiles options)
    (hcounts : env.CountsCaptured options) (threads threads' : UInt32) :
    cpuCountFallback ((readCpuListCountField path).run env) (env.cpuBlocks options) threads =
      cpuCountFallback ((readCpuListCountField path).run env) (env.cpuBlocks options) threads' := by
  unfold cpuCountFallback
  rcases hcounts with hblocks | hfiles
  · simp [hblocks]
  · obtain ⟨line, hline, hcount⟩ := hfiles path hpath
    obtain ⟨count, hcount⟩ := Option.isSome_iff_exists.1 hcount
    rw [readCpuListCountField, run_readParsed, hline]
    simp [hcount]

namespace SameTree

variable {options : CollectOptions} {env env' : Env} (h : SameTree options env env')

include h

theorem files {c : Category} (call : Primitive) (hcall : Files options c call) :
    env call = env' call := by
  cases call with
  | openFile path => exact h _ path rfl hcall.1
  | pathExists path => exact h _ path rfl hcall.1
  | isDirectory path => exact h _ path rfl hcall
  | listDirectory path => exact h _ path rfl hcall
  | readSymlink path => exact h _ path rfl hcall
  | access path => exact h _ path rfl hcall
  | _ => exact absurd hcall id

/-- A program that only asks the files of a category has the same result. -/
theorem run_eq {α : Type} {p : Collect α} {c : Category} {post : α → Prop}
    (hp : p.Meets (Files options c) post) : p.run env = p.run env' :=
  hp.run_congr h.files

theorem run_collector {c : Category} (hsys : options.sysfsRoot ≠ "/sys")
    (hperf : options.allowPerfOpen = false) (hos : c ≠ .os) (hcpu : c ≠ .cpu)
    (hmemory : c ≠ .memory) : (c.collector options).run env = (c.collector options).run env' := by
  refine (collector_meets options c).run_congr fun call hcall => ?_
  rcases hcall with hfile | hhost
  · exact h.files call hfile
  · exfalso
    cases call with
    | uname => exact hhost.elim hos hcpu
    | pageSize => exact hhost.elim hos hmemory
    | target => exact hos hhost
    | hardwareConcurrency => exact hcpu hhost
    | getifaddrs => exact hsys hhost.2
    | perfEventOpen config => exact absurd (hperf.symm.trans hhost.2) (by decide)
    | _ => exact hhost

theorem run_collectOs :
    ({ (collectOs options).run env with
        kernelName := .initial, kernelVersion := .initial, kernelRelease := .initial
        machine := .initial, hostname := .initial, pageSize := .initial, wordSize := .initial
        endianness := .initial } : OsInfo) =
      { (collectOs options).run env' with
        kernelName := .initial, kernelVersion := .initial, kernelRelease := .initial
        machine := .initial, hostname := .initial, pageSize := .initial, wordSize := .initial
        endianness := .initial } := by
  have hcmdline : (readStringField (procPath options "/cmdline") false).run env =
      (readStringField (procPath options "/cmdline") false).run env' :=
    h.run_eq (c := .os) (readStringField_meets (reads_procPath (fun _ => id) (by decide)) false)
  have hrelease : (readFile (etcPath options "/os-release")).run env =
      (readFile (etcPath options "/os-release")).run env' :=
    h.run_eq (c := .os)
      (readFile_meets (reads_ofRoot (fun _ => id) (etcRoot_mem options) (by decide)))
  simp only [collectOs, run_bind, run_pure, hcmdline, hrelease]

theorem run_collectMemory :
    ({ (collectMemory options).run env with pageSizeBytes := .initial } : MemoryInfo) =
      { (collectMemory options).run env' with pageSizeBytes := .initial } := by
  have hmeminfo : (readFile (procPath options "/meminfo")).run env =
      (readFile (procPath options "/meminfo")).run env' :=
    h.run_eq (c := .memory) (readFile_meets (reads_procPath (fun _ => id) (by decide)))
  have hhuge : (transparentHugepagesEnabled options).run env =
      (transparentHugepagesEnabled options).run env' :=
    h.run_eq (transparentHugepagesEnabled_meets fun _ => id)
  have hnodes : (collectNumaNodes options).run env = (collectNumaNodes options).run env' :=
    h.run_eq (collectNumaNodes_meets fun _ => id)
  simp only [collectMemory, run_bind, run_pure, hmeminfo, hhuge, hnodes]

theorem run_collectCpu (hcounts : env.CountsCaptured options) :
    ({ (collectCpu options).run env with arch := .unknown, archName := .initial } : CpuInfo) =
      { (collectCpu options).run env' with arch := .unknown, archName := .initial } := by
  have hreads : ∀ {suffix : Bytes}, ReadableBelow 0 .cpu suffix →
      Reads (Files options .cpu) (sysPath options suffix) := reads_sysPath fun _ => id
  have hcpuinfo : (readFile (procPath options "/cpuinfo")).run env =
      (readFile (procPath options "/cpuinfo")).run env' :=
    h.run_eq (c := .cpu) (readFile_meets (reads_procPath (fun _ => id) (by decide)))
  have hpresent : (readCpuListCountField (sysPath options "/devices/system/cpu/present")).run env =
      (readCpuListCountField (sysPath options "/devices/system/cpu/present")).run env' :=
    h.run_eq (readCpuListCountField_meets (hreads (by decide)))
  have honline : (readCpuListCountField (sysPath options "/devices/system/cpu/online")).run env =
      (readCpuListCountField (sysPath options "/devices/system/cpu/online")).run env' :=
    h.run_eq (readCpuListCountField_meets (hreads (by decide)))
  have hpossible : (readCpuListCountField (sysPath options "/devices/system/cpu/possible")).run env =
      (readCpuListCountField (sysPath options "/devices/system/cpu/possible")).run env' :=
    h.run_eq (readCpuListCountField_meets (hreads (by decide)))
  have htopology : ∀ blocks, (cpuTopology options blocks).run env =
      (cpuTopology options blocks).run env' :=
    fun blocks => h.run_eq (cpuTopology_meets (fun _ => id) blocks)
  have hvendor : ∀ first virtualized, (cpuHypervisorVendor options first virtualized).run env =
      (cpuHypervisorVendor options first virtualized).run env' :=
    fun first virtualized => h.run_eq (cpuHypervisorVendor_meets (fun _ => id) first virtualized)
  have hcount : ∀ path ∈ cpuCountFiles options, _ := fun path hpath =>
    cpuCountFallback_eq hpath hcounts (env .hardwareConcurrency) (env' .hardwareConcurrency)
  simp only [cpuCountFiles, List.forall_mem_cons, List.not_mem_nil, IsEmpty.forall_iff,
    implies_true, and_true] at hcount
  obtain ⟨hcount₁, hcount₂, hcount₃⟩ := hcount
  have hblocks := cpuBlocks_eq env options
  rw [hcpuinfo] at hblocks
  rw [hpresent] at hcount₁
  rw [honline] at hcount₂
  rw [hpossible] at hcount₃
  simp only [collectCpu, cpuDetails, run_bind, run_pure, run_call, hcpuinfo, hpresent, honline,
    hpossible, htopology, hvendor, hblocks, hcount₁, hcount₂, hcount₃]

end SameTree

/-- The host with another number of threads. -/
def Env.withThreads (env : Env) (threads : UInt32) : Env
  | .hardwareConcurrency => threads
  | call => env call

theorem sameTree_withThreads (options : CollectOptions) (env : Env) (threads : UInt32) :
    SameTree options env (env.withThreads threads) := by
  intro call path hpath _
  cases call with
  | hardwareConcurrency => cases hpath
  | _ => rfl

/-- A count without a CPU list is the number of threads when cpuinfo has no block. -/
theorem cpuCountFallback_threads (env : Env) {path : Bytes}
    (hpath : ¬ ∃ line, env.line path = some line ∧ (cpuListCount line).isSome = true)
    (threads : UInt32) :
    (cpuCountFallback ((readCpuListCountField path).run env) [] threads).valid =
        decide (threads ≠ 0) ∧
      (threads ≠ 0 → cpuCountFallback ((readCpuListCountField path).run env) [] threads =
        .ofValue threads.toUInt64) := by
  have hinvalid : ((readCpuListCountField path).run env).valid = false := by
    rw [readCpuListCountField, run_readParsed]
    cases hline : env.line path with
    | none => rfl
    | some line =>
      cases hcount : cpuListCount line with
      | none => simp [hcount]
      | some count => exact absurd ⟨line, hline, by rw [hcount]; rfl⟩ hpath
  by_cases hthreads : threads = 0
  · simp [cpuCountFallback, hinvalid, hthreads]
  · simp [cpuCountFallback, hinvalid, hthreads]

/-- If the counts are not in the tree, some number of threads makes a difference. -/
theorem exists_threads {env : Env} {options : CollectOptions}
    (hcounts : ¬ env.CountsCaptured options) :
    ∃ threads, ((collectCpu options).run env).counts ≠
      ((collectCpu options).run (env.withThreads threads)).counts := by
  obtain ⟨hblocks, hfiles⟩ := not_or.1 hcounts
  replace hblocks : env.cpuBlocks options = [] := not_not.1 hblocks
  obtain ⟨path, hpath, hline⟩ : ∃ path ∈ cpuCountFiles options,
      ¬ ∃ line, env.line path = some line ∧ (cpuListCount line).isSome = true := by
    by_contra h
    exact hfiles fun path hpath => by_contra fun hline => h ⟨path, hpath, hline⟩
  let threads : UInt32 := if env .hardwareConcurrency = 1 then 2 else 1
  have hne : threads ≠ 0 ∧ threads ≠ env .hardwareConcurrency := by
    by_cases hone : env .hardwareConcurrency = 1
    · simp [threads, hone]
    · simp [threads, hone, Ne.symm hone]
  refine ⟨threads, fun heq => ?_⟩
  have hblocks' : (env.withThreads threads).cpuBlocks options = [] := hblocks
  have hthreads : env.withThreads threads .hardwareConcurrency = threads := rfl
  rw [CpuInfo.counts, CpuInfo.counts, run_collectCpu_counts, run_collectCpu_counts, hblocks,
    hblocks', hthreads] at heq
  have hcount := List.map_inj_left.1 heq path hpath
  rw [(cpuCountFallback_threads (env.withThreads threads) hline threads).2 hne.1] at hcount
  by_cases hzero : env .hardwareConcurrency = 0
  · have hvalid := (cpuCountFallback_threads env hline (env .hardwareConcurrency)).1
    rw [hcount, hzero] at hvalid
    exact absurd hvalid (by simp)
  · rw [(cpuCountFallback_threads env hline _).2 hzero] at hcount
    exact hne.2 (UInt32.toUInt64_inj.1 (congrArg Field.value hcount)).symm

/-- Equal sections apart from the running system make equal captured records. -/
theorem SameTree.captured_eq {options : CollectOptions} {env env' : Env}
    (h : SameTree options env env') (hsys : options.sysfsRoot ≠ "/sys")
    (hperf : options.allowPerfOpen = false)
    (hcounts : options.categories.Selects .cpu → env.CountsCaptured options)
    (arch arch' : ArchType) :
    ((collect arch options).run env).captured = ((collect arch' options).run env').captured := by
  refine SystemInfo.ext_sections fun c => ?_
  rw [captured_sectionOf, captured_sectionOf, run_collect_sectionOf, run_collect_sectionOf]
  split
  · cases c with
    | os => exact h.run_collectOs
    | cpu => exact h.run_collectCpu (hcounts ‹_›)
    | memory => exact h.run_collectMemory
    | _ =>
      refine congrArg _ (h.run_collector hsys hperf ?_ ?_ ?_) <;> decide
  · cases c <;> rfl

/-- A report on a snapshot, without the fields about the running system, is the same on every host
exactly if the CPU counts are in the tree or the processor section is not selected. -/
theorem snapshot_iff (arch : ArchType) (options : CollectOptions)
    (hsys : options.sysfsRoot ≠ "/sys") (hperf : options.allowPerfOpen = false) (env : Env) :
    (∀ arch' env', SameTree options env env' →
      ((collectReport arch options).run env).system.captured =
        ((collectReport arch' options).run env').system.captured) ↔
      (options.categories.Selects .cpu → env.CountsCaptured options) := by
  constructor
  · intro h hcpu
    by_contra hcounts
    obtain ⟨threads, hthreads⟩ := exists_threads hcounts
    have hcaptured := h arch _ (sameTree_withThreads options env threads)
    have hc := run_report_section env options arch hcpu
    have hc' := run_report_section (env.withThreads threads) options arch hcpu
    simp only [SystemInfo.sectionOf, Category.collector] at hc hc'
    rw [← hc, ← hc'] at hthreads
    exact hthreads (congrArg (fun info => info.cpuInfo.counts) hcaptured)
  · intro hcounts arch' env' h
    rw [run_collectReport, run_collectReport]
    exact h.captured_eq hsys hperf hcounts arch arch'

/-- A snapshot below `/snap`. -/
def snapshotOptions : CollectOptions :=
  { procfsRoot := "/snap/proc", sysfsRoot := "/snap/sys", etcRoot := "/snap/etc"
    devRoot := "/snap/dev", includeSensitive := false }

/-- With one processor block in cpuinfo the number of threads makes no difference. -/
theorem snapshot_iff_cpuinfo :
    ((collectReport .unknown snapshotOptions).run
      (Env.ofFiles [("/snap/proc/cpuinfo", { content := bytes "processor : 0\n" })])).system.captured =
    ((collectReport .unknown snapshotOptions).run
      (Env.withThreads (Env.ofFiles [("/snap/proc/cpuinfo", { content := bytes "processor : 0\n" })])
        8)).system.captured := by
  refine (snapshot_iff .unknown snapshotOptions (by decide) rfl _).2 (fun _ => Or.inl ?_) .unknown _
    (sameTree_withThreads _ _ 8)
  decide

/-- An empty snapshot has as many CPUs as the host that reads it. -/
theorem snapshot_counts_differ :
    ∃ options : CollectOptions, options.sysfsRoot ≠ "/sys" ∧ options.allowPerfOpen = false ∧
      ∃ env env' : Env, SameTree options env env' ∧
        ((collectReport .unknown options).run env).system.cpuInfo.onlineCpuCount = .ofValue 4 ∧
        ((collectReport .unknown options).run env').system.cpuInfo.onlineCpuCount = .ofValue 8 ∧
        ((collectReport .unknown options).run env).system.captured ≠
          ((collectReport .unknown options).run env').system.captured := by
  have hselects : snapshotOptions.categories.Selects .cpu := by decide
  have honline : ∀ threads : UInt32, threads ≠ 0 →
      ((collectReport .unknown snapshotOptions).run
        (Env.failing.withThreads threads)).system.cpuInfo.onlineCpuCount =
          .ofValue threads.toUInt64 := by
    intro threads hthreads
    have hc := run_report_section (Env.failing.withThreads threads) snapshotOptions .unknown hselects
    simp only [SystemInfo.sectionOf, Category.collector] at hc
    have hcounts := run_collectCpu_counts (Env.failing.withThreads threads) snapshotOptions
    rw [← hc] at hcounts
    simp only [cpuCountFiles, List.map_cons, List.map_nil, List.cons.injEq] at hcounts
    rw [hcounts.2.1]
    refine (cpuCountFallback_threads _ ?_ threads).2 hthreads
    rintro ⟨line, ⟨⟩, -⟩
  have h4 := honline 4 (by decide)
  have h8 := honline 8 (by decide)
  refine ⟨snapshotOptions, by decide, rfl, Env.failing.withThreads 4, Env.failing.withThreads 8, ?_,
    h4, h8, fun h => ?_⟩
  · intro call path hpath _
    cases call with
    | hardwareConcurrency => cases hpath
    | _ => rfl
  · have hcount := congrArg (fun info => info.cpuInfo.onlineCpuCount) h
    replace hcount := h4.symm.trans (hcount.trans h8)
    revert hcount
    decide

end Archspec
