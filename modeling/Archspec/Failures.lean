import Archspec.Failures.Devices
import Archspec.Failures.Machine
import Archspec.Failures.Processor

/-!
# Where a failure status comes from

Each field of a report says why it has no value.  A status that a section does not have by design
is there only because its collector made a call whose answer accounts for it
(`failures_accounted`).  The collectors are taken up in `Failures.Devices`, `Failures.Processor`
and `Failures.Machine`, one status at a time: unless a call of the run is a cause of it, no field
has it.
-/

namespace Archspec

open Lib Program

/-! ## Whole reports -/

/-- The statuses that the fields of a section have by design. -/
def Category.Expects (options : CollectOptions) (c : Category) (s : Status) : Prop :=
  s = .ok ∨ s = .notFound ∨
    (s = .unsupported ∧ c ∈ [Category.isa, .gpu, .perf, .virtualization]) ∨
    (s = .redacted ∧ c ∈ [Category.os, .net] ∧ options.includeSensitive = false)

section Reports

variable (env : Env) {options : CollectOptions}

/-- Unless a call of the run is a cause of an unexpected status, no field of the section has it. -/
theorem collector_unless {c : Category} {s : Status} (h : ¬ c.Expects options s) :
    (c.collector options).Unless env (env.Causes c s) fun info => (c.node info).Clear s := by
  simp only [Category.Expects, not_or] at h
  obtain ⟨hok, hnotFound, hunsupported, hredacted⟩ := h
  have hs : s.Fails := ⟨Ne.symm hok, Ne.symm hnotFound⟩
  have hu : c ∈ [Category.isa, .gpu, .perf, .virtualization] → Status.unsupported ≠ s :=
    fun hc heq => hunsupported ⟨heq.symm, hc⟩
  have hr : c ∈ [Category.os, .net] → NotRedacted options s :=
    fun hc hinclude heq => hredacted ⟨heq.symm, hc, hinclude⟩
  cases c with
  | os => exact collectOs_unless hs (hr (by decide))
  | cpu => exact collectCpu_unless hs
  | isa => exact collectIsa_unless hs (hu (by decide))
  | cache => exact collectCache_unless hs
  | memory => exact collectMemory_unless hs
  | pci => exact collectPci_unless hs
  | gpu => exact collectGpu_unless hs (hu (by decide))
  | perf => exact collectPerf_unless hs (hu (by decide))
  | block => exact collectBlock_unless hs
  | net => exact collectNet_unless hs (hr (by decide))
  | thermal => exact collectThermal_unless hs
  | power => exact collectPower_unless hs
  | virtualization => exact collectVirtualization_unless hs (hu (by decide))
  | platform => exact collectPlatform_unless hs

/-- A collection makes the calls of the collectors of its categories. -/
theorem mem_trace_foldlM {c : Category} {call : Primitive} (hc : options.categories.Selects c)
    (hcall : call ∈ (c.collector options).trace env) {cs : List Category} (hcs : c ∈ cs)
    (info : SystemInfo) :
    call ∈ (cs.foldlM (fun info c => fill options info c (c.collector options))
      info).trace env := by
  induction cs generalizing info with
  | nil => exact absurd hcs List.not_mem_nil
  | cons d cs ih =>
    rw [List.foldlM_cons, trace_bind, List.mem_append]
    obtain rfl | hcs := List.mem_cons.1 hcs
    · left
      replace hc : hasCategory options.categories c.flag = true := hc
      rw [fill, if_pos hc, map_eq_pure_bind, trace_bind]
      exact List.mem_append_left _ hcall
    · right
      exact ih hcs _

theorem mem_trace_collectReport (arch : ArchType) {c : Category} {call : Primitive}
    (hc : options.categories.Selects c) (hcall : call ∈ (c.collector options).trace env) :
    call ∈ (collectReport arch options).trace env := by
  rw [collectReport, trace_bind, collect_eq_foldlM]
  exact List.mem_append_left _ (mem_trace_foldlM env hc hcall c.mem_all _)

end Reports

/-- The status of every field of a report is expected in its section, or else the collector of the
section has made a call that accounts for it. -/
theorem failures_accounted (env : Env) (arch : ArchType) (options : CollectOptions) (c : Category) :
    (((collectReport arch options).run env).system.nodeOf c).Forall fun _ f =>
      c.Expects options f.status ∨
        ∃ call ∈ (c.collector options).trace env,
          call ∈ (collectReport arch options).trace env ∧ env.Causes c f.status call := by
  intro path f hf
  by_cases hc : options.categories.Selects c
  · rw [SystemInfo.nodeOf, run_report_section env options arch hc] at hf
    by_cases hexpects : c.Expects options f.status
    · exact .inl hexpects
    · have hunless := collector_unless env hexpects
      have hhas : ¬ (c.node ((c.collector options).run env)).Clear f.status :=
        fun hclear => hclear path f hf rfl
      obtain ⟨call, hcall, hcause⟩ := hunless.exists_bad hhas
      exact .inr ⟨call, hcall, mem_trace_collectReport env arch hc hcall, hcause⟩
  · rw [SystemInfo.nodeOf, run_collectReport, run_collect_sectionOf, if_neg hc] at hf
    have hinitial : f.Initial := fresh_fields_initial arch c path f hf
    exact .inl (.inr (.inl hinitial.2))

end Archspec
