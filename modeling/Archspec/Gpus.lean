import Archspec.Collectors.Devices
import Archspec.Cpuinfo
import Archspec.Lib.KeepFirst

/-!
# The GPUs of a report

The DRM pass makes an entry for every device a card node links to, the PCI pass one for every display
device that has none yet.  So the addresses are distinct, and they are those of the cards and of the
display devices (`gpus_enumerated`).  But the DRM pass takes the end of any link for a PCI address
(`addresses_listed_iff`).
-/

namespace Archspec

open Lib Program

/-! ## The last component of a path -/

/-- The path ends in the component `name`, up to separators. -/
def LastComponent (path name : Bytes) : Prop :=
  ∃ before after, path = before ++ (name ++ after) ∧ name ≠ [] ∧
    (∀ c ∈ name, isSeparator c = false) ∧ (∀ c ∈ after, isSeparator c = true) ∧
    ∀ c ∈ before.getLast?, isSeparator c = true

/-- A path with a component ends in its last one. -/
theorem basename_spec {path : Bytes} (h : ∃ c ∈ path, isSeparator c = false) :
    LastComponent path (basename path) := by
  obtain ⟨c, hc, hsep⟩ := h
  have hpath : path ≠ [] := List.ne_nil_of_mem hc
  have hbody : path.rdropWhile isSeparator ≠ [] := by
    intro hnil
    rw [List.rdropWhile_eq_nil_iff.1 hnil c hc] at hsep
    cases hsep
  have hbase : basename path =
      (path.rdropWhile isSeparator).rtakeWhile fun c => !isSeparator c := by
    rw [basename, if_neg hpath]
    exact if_neg hbody
  refine ⟨(path.rdropWhile isSeparator).rdropWhile fun c => !isSeparator c,
    path.rtakeWhile isSeparator, ?_, ?_, ?_, ?_, ?_⟩
  · rw [hbase, ← List.append_assoc, List.rdropWhile_append_rtakeWhile,
      List.rdropWhile_append_rtakeWhile]
  · rw [hbase]
    intro hnil
    have hlast := List.rtakeWhile_eq_nil_iff.1 hnil hbody
    rw [Bool.not_eq_true, Bool.not_eq_false'] at hlast
    exact List.rdropWhile_last_not isSeparator path hbody hlast
  · rw [hbase]
    intro d hd
    have hd' := List.mem_rtakeWhile_imp hd
    rwa [Bool.not_eq_true'] at hd'
  · exact fun d hd => List.mem_rtakeWhile_imp hd
  · intro d hd
    have hne : ((path.rdropWhile isSeparator).rdropWhile fun c => !isSeparator c) ≠ [] := by
      intro hnil
      rw [hnil] at hd
      cases hd
    have hlast := List.rdropWhile_last_not _ _ hne
    rw [List.getLast?_eq_some_getLast hne] at hd
    rw [Option.mem_some_iff.1 hd] at hlast
    simpa using hlast

/-! ## The DRM nodes -/

/-- The directories of the DRM nodes and of the PCI devices. -/
def drmRoot (options : CollectOptions) : Bytes := sysPath options "/class/drm"
def pciRoot (options : CollectOptions) : Bytes := sysPath options "/bus/pci/devices"

/-- The node of a display controller, not that of one of its connectors. -/
def isCard (name : Bytes) : Bool := startsWith name "card" && !name.contains 45

/-- The node of a render device. -/
def isRender (name : Bytes) : Bool := startsWith name "renderD"

/-- The last component of the device link of a node. -/
def Env.deviceOf (env : Env) (options : CollectOptions) (name : Bytes) : Option Bytes :=
  (env (.readSymlink (joinPath (drmRoot options) (name ++ "/device")))).map basename

/-- The name and the device of an entry that is a node of the kind, when its link can be read. -/
def Env.nodeOf (env : Env) (options : CollectOptions) (isNode : Bytes → Bool) (entry : EntryName) :
    Option (Bytes × Bytes) :=
  if isNode entry.name then
    (env.deviceOf options entry.name).map fun device => (entry.name, device)
  else none

/-- The nodes of a kind whose device link can be read, with their devices. -/
def Env.nodes (env : Env) (options : CollectOptions) (isNode : Bytes → Bool) : List (Bytes × Bytes) :=
  (env.names (drmRoot options)).filterMap (env.nodeOf options isNode)

/-- The path of a node below the device root. -/
def driPath (options : CollectOptions) (name : Bytes) : Bytes := devPath options ("/dri/" ++ name)

theorem mem_nodes {env : Env} {options : CollectOptions} {isNode : Bytes → Bool}
    {name device : Bytes} :
    (name, device) ∈ env.nodes options isNode ↔
      (∃ entry ∈ env.names (drmRoot options), entry.name = name) ∧ isNode name = true ∧
        env.deviceOf options name = some device := by
  rw [Env.nodes, List.mem_filterMap]
  constructor
  · rintro ⟨entry, hlisted, hentry⟩
    rw [Env.nodeOf] at hentry
    split at hentry
    · obtain ⟨device', hlink, heq⟩ := Option.map_eq_some_iff.1 hentry
      obtain ⟨rfl, rfl⟩ := Prod.mk.inj heq
      exact ⟨⟨entry, hlisted, rfl⟩, ‹_›, hlink⟩
    · cases hentry
  · rintro ⟨⟨entry, hlisted, rfl⟩, hnode, hlink⟩
    exact ⟨entry, hlisted, by rw [Env.nodeOf, if_pos hnode, hlink]; rfl⟩

section Run

variable (env : Env) (options : CollectOptions)

/-- The map of render nodes is filled with the nodes in turn. -/
theorem run_renderNodesByPci :
    (renderNodesByPci options).run env =
      blockOf ((env.nodes options isRender).map fun node => (node.2, driPath options node.1)) := by
  rw [renderNodesByPci, run_bind, run_listDir, run_foldlM, blockOf, List.foldl_map, Env.nodes,
    List.foldl_filterMap]
  refine List.foldl_ext _ _ _ fun nodes entry _ => ?_
  rw [Env.nodeOf, isRender]
  by_cases h : startsWith entry.name "renderD" = true
  · rw [if_pos h, if_pos h, run_bind, readSymlinkTarget, ask, run_call, Env.deviceOf, drmRoot]
    cases env (.readSymlink (joinPath (sysPath options "/class/drm") (entry.name ++ "/device"))) <;> rfl
  · rw [if_neg h, if_neg h, run_pure]

/-! ## The two passes -/

/-- What the files of a device say. -/
def Env.gpuAt (device : Bytes) : GpuInfo :=
  (gpuFromPci device (joinPath (pciRoot options) device) ((renderNodesByPci options).run env)).run env

/-- The entry of a card node. -/
def Env.cardGpu (node : Bytes × Bytes) : GpuInfo :=
  { env.gpuAt options node.2 with drmCard := .ofValue (driPath options node.1) }

/-- The class of a PCI device is that of a display controller. -/
def Env.isDisplay (name : Bytes) : Bool :=
  ((env.line (joinPath (joinPath (pciRoot options) name) "class")).map trim).any
    fun text => startsWith text "0x03"

/-- The names of the PCI devices that are display controllers. -/
def Env.displayDevices : List Bytes :=
  ((env.names (pciRoot options)).map EntryName.name).filter (env.isDisplay options)

/-- One card of the DRM pass. -/
def Env.addCard (scan : GpuScan) (node : Bytes × Bytes) : GpuScan :=
  if node.2 ∈ scan.seen then scan
  else { seen := insert node.2 scan.seen, entries := scan.entries ++ [env.cardGpu options node] }

theorem run_drmCard (scan : GpuScan) (card : EntryName) :
    (drmCard options ((renderNodesByPci options).run env) scan card).run env =
      match env.nodeOf options isCard card with
      | some node => env.addCard options scan node
      | none => scan := by
  have hskip : (!startsWith card.name "card" || card.name.contains 45) = !isCard card.name := by
    rw [isCard, Bool.not_and, Bool.not_not]
  rw [drmCard, hskip, Env.nodeOf]
  by_cases h : isCard card.name = true
  · rw [if_pos h, h, if_neg (by decide), run_bind, readSymlinkTarget, ask, run_call, Env.deviceOf,
      drmRoot]
    cases env (.readSymlink (joinPath (sysPath options "/class/drm") (card.name ++ "/device"))) with
    | none => rfl
    | some target =>
      dsimp only
      rw [run_ite, Option.map_some, Option.map_some]
      simp only [Env.addCard, run_bind, run_pure]
      rfl
  · rw [if_neg h, Bool.eq_false_of_not_eq_true h]
    rfl

/-- The DRM pass keeps the first card of each device. -/
theorem foldl_addCard (nodes : List (Bytes × Bytes)) (scan : GpuScan) :
    (nodes.foldl (env.addCard options) scan).entries =
        scan.entries ++ (keepFirst Prod.snd scan.seen nodes).map (env.cardGpu options) ∧
      ∀ device, device ∈ (nodes.foldl (env.addCard options) scan).seen ↔
        device ∈ scan.seen ∨ device ∈ nodes.map Prod.snd := by
  induction nodes generalizing scan with
  | nil => simp [keepFirst]
  | cons node nodes ih =>
    rw [List.foldl_cons, keepFirst, (ih _).1]
    by_cases hseen : node.2 ∈ scan.seen
    · rw [Env.addCard, if_pos hseen, if_pos hseen]
      refine ⟨rfl, fun device => ?_⟩
      rw [(ih _).2, List.map_cons, List.mem_cons]
      constructor
      · exact Or.imp_right Or.inr
      · rintro (h | rfl | h)
        · exact Or.inl h
        · exact Or.inl hseen
        · exact Or.inr h
    · rw [Env.addCard, if_neg hseen, if_neg hseen]
      refine ⟨by rw [List.map_cons, List.append_assoc]; rfl, fun device => ?_⟩
      rw [(ih _).2, List.map_cons, List.mem_cons, Finset.mem_insert]
      tauto

theorem run_pciGpu (seen : Finset Bytes) (address : EntryName) :
    (pciGpu options ((renderNodesByPci options).run env) seen address).run env =
      if address.name ∉ seen ∧ env.isDisplay options address.name = true then
        some (env.gpuAt options address.name)
      else none := by
  have hclass : isDisplayClass ((readStringField (joinPath (joinPath (pciRoot options) address.name)
      "class")).run env) = env.isDisplay options address.name := by
    rw [run_readStringField, Env.isDisplay]
    cases env.line (joinPath (joinPath (pciRoot options) address.name) "class") <;> rfl
  rw [pciGpu]
  by_cases hseen : address.name ∈ seen
  · rw [if_pos hseen, if_neg fun h => h.1 hseen, run_pure]
  · rw [pciRoot] at hclass
    rw [if_neg hseen, run_bind, hclass, run_ite, run_map, run_pure]
    by_cases hdisplay : env.isDisplay options address.name = true
    · rw [if_pos hdisplay, if_pos ⟨hseen, hdisplay⟩]
      rfl
    · rw [if_neg hdisplay, if_neg fun h => hdisplay h.2]

/-- The PCI pass goes through the display devices that have no entry yet. -/
theorem filterMap_pciGpu (seen : Finset Bytes) (addresses : List EntryName) :
    (addresses.filterMap fun address =>
      (pciGpu options ((renderNodesByPci options).run env) seen address).run env) =
      (((addresses.map EntryName.name).filter (env.isDisplay options)).filter
        fun device => device ∉ seen).map (env.gpuAt options) := by
  induction addresses with
  | nil => rfl
  | cons address addresses ih =>
    rw [List.filterMap_cons, run_pciGpu, ih, List.map_cons, List.filter_cons]
    by_cases hdisplay : env.isDisplay options address.name = true
    · by_cases hseen : address.name ∈ seen
      · simp [hdisplay, hseen]
      · simp [hdisplay, hseen]
    · simp [hdisplay]

/-- The entries: the first card of each device, and the display devices without a card. -/
theorem run_collectGpu :
    ((collectGpu options).run env).entries =
      (keepFirst Prod.snd ∅ (env.nodes options isCard)).map (env.cardGpu options) ++
        ((env.displayDevices options).filter fun device =>
          device ∉ (env.nodes options isCard).map Prod.snd).map (env.gpuAt options) := by
  have hscan : ((env.names (drmRoot options)).foldl (fun scan card =>
      (drmCard options ((renderNodesByPci options).run env) scan card).run env) {}) =
      (env.nodes options isCard).foldl (env.addCard options) {} := by
    rw [Env.nodes, List.foldl_filterMap]
    refine List.foldl_ext _ _ _ fun scan card _ => ?_
    rw [run_drmCard]
    cases env.nodeOf options isCard card <;> rfl
  obtain ⟨hentries, hseen⟩ := foldl_addCard env options (env.nodes options isCard) {}
  rw [collectGpu, run_bind, run_bind, run_listDir, run_bind, run_foldlM, run_bind, run_listDir,
    run_bind, run_gather, run_pure]
  show List.append _ _ = _
  rw [← drmRoot, ← pciRoot, hscan, filterMap_pciGpu, hentries, Env.displayDevices]
  have hfilter : ∀ device, decide (device ∉ ((env.nodes options isCard).foldl (env.addCard options)
      {}).seen) = decide (device ∉ (env.nodes options isCard).map Prod.snd) := by
    intro device
    rw [decide_eq_decide, hseen]
    simp
  simp only [hfilter]
  rfl

/-- What holds of the entries of the cards and of the display devices without a card holds of all. -/
theorem forall_mem_collectGpu {P : GpuInfo → Prop} :
    (∀ gpu ∈ ((collectGpu options).run env).entries, P gpu) ↔
      (∀ node ∈ keepFirst Prod.snd ∅ (env.nodes options isCard), P (env.cardGpu options node)) ∧
        ∀ device ∈ env.displayDevices options,
          device ∉ (env.nodes options isCard).map Prod.snd → P (env.gpuAt options device) := by
  rw [run_collectGpu, List.forall_mem_append, List.forall_mem_map, List.forall_mem_map]
  simp only [List.mem_filter, decide_eq_true_eq, and_imp]

/-! ## The enumeration -/

/-- The field is the path of a node of the kind that links to the device, and it is there when there is
such a node. -/
def Env.NodeField (isNode : Bytes → Bool) (device : Bytes) (field : StringField) : Prop :=
  (∀ path, field.value? = some path →
      ∃ name, (name, device) ∈ env.nodes options isNode ∧ path = driPath options name) ∧
    ((∃ name, (name, device) ∈ env.nodes options isNode) → field.valid = true)

/-- The entries are the devices of the cards and the display devices, each once, with their nodes. -/
structure Env.Enumerated (entries : List GpuInfo) : Prop where
  valid : ∀ gpu ∈ entries, gpu.pciAddress.valid = true
  distinct : (entries.map fun gpu => gpu.pciAddress.value).Nodup
  complete : ∀ device, (device ∈ entries.map fun gpu => gpu.pciAddress.value) ↔
    (∃ name, (name, device) ∈ env.nodes options isCard) ∨ device ∈ env.displayDevices options
  drmCard : ∀ gpu ∈ entries, env.NodeField options isCard gpu.pciAddress.value gpu.drmCard
  renderNode : ∀ gpu ∈ entries, env.NodeField options isRender gpu.pciAddress.value gpu.renderNode

theorem pciAddress_gpuAt (device : Bytes) :
    (env.gpuAt options device).pciAddress = .ofValue device := by
  simp only [Env.gpuAt, gpuFromPci, run_bind, run_pure]

theorem pciAddress_cardGpu (node : Bytes × Bytes) :
    (env.cardGpu options node).pciAddress = .ofValue node.2 := pciAddress_gpuAt env options node.2

/-- Every entry has an address. -/
theorem valid_pciAddress :
    ∀ gpu ∈ ((collectGpu options).run env).entries, gpu.pciAddress.valid = true := by
  rw [forall_mem_collectGpu]
  constructor
  · intro node _
    rw [pciAddress_cardGpu, Field.valid_ofValue]
  · intro device _ _
    rw [pciAddress_gpuAt, Field.valid_ofValue]

theorem drmCard_gpuAt (device : Bytes) : (env.gpuAt options device).drmCard = .initial := by
  simp only [Env.gpuAt, gpuFromPci, run_bind, run_pure]

theorem renderNode_gpuAt (device : Bytes) :
    env.NodeField options isRender device (env.gpuAt options device).renderNode := by
  have hfield : (env.gpuAt options device).renderNode =
      renderNodeField ((renderNodesByPci options).run env) device := by
    simp only [Env.gpuAt, gpuFromPci, run_bind, run_pure]
  rw [hfield, renderNodeField, run_renderNodesByPci, lookup_blockOf, lastEntry]
  constructor
  · intro path hpath
    cases hlookup : List.lookup device ((env.nodes options isRender).map
        fun node => (node.2, driPath options node.1)).reverse with
    | none =>
      rw [hlookup] at hpath
      cases hpath
    | some path' =>
      rw [hlookup] at hpath
      obtain rfl := Option.some.inj hpath
      obtain ⟨before, after, hmem, -⟩ := List.lookup_eq_some_iff.1 hlookup
      have hin : (device, path') ∈ ((env.nodes options isRender).map
          fun node => (node.2, driPath options node.1)).reverse := by
        rw [hmem]
        exact List.mem_append_right _ List.mem_cons_self
      obtain ⟨node, hnode, heq⟩ := List.mem_map.1 (List.mem_reverse.1 hin)
      obtain ⟨rfl, rfl⟩ := Prod.mk.inj heq
      exact ⟨node.1, hnode, rfl⟩
  · rintro ⟨name, hname⟩
    cases hlookup : List.lookup device ((env.nodes options isRender).map
        fun node => (node.2, driPath options node.1)).reverse with
    | some path => rfl
    | none =>
      have hne := List.lookup_eq_none_iff.1 hlookup (device, driPath options name)
        (List.mem_reverse.2 (List.mem_map.2 ⟨(name, device), hname, rfl⟩))
      simp at hne

theorem exists_node_iff {isNode : Bytes → Bool} {device : Bytes} :
    (∃ name, (name, device) ∈ env.nodes options isNode) ↔
      device ∈ (env.nodes options isNode).map Prod.snd := by
  constructor
  · rintro ⟨name, hname⟩
    exact List.mem_map.2 ⟨_, hname, rfl⟩
  · intro hdevice
    obtain ⟨⟨name, device⟩, hnode, rfl⟩ := List.mem_map.1 hdevice
    exact ⟨name, hnode⟩

/-- The addresses in the order of the entries. -/
theorem addresses_collectGpu :
    (((collectGpu options).run env).entries.map fun gpu => gpu.pciAddress.value) =
      (keepFirst Prod.snd ∅ (env.nodes options isCard)).map Prod.snd ++
        (env.displayDevices options).filter fun device =>
          device ∉ (env.nodes options isCard).map Prod.snd := by
  rw [run_collectGpu, List.map_append, List.map_map, List.map_map]
  congr 1
  · refine List.map_congr_left fun node _ => ?_
    rw [Function.comp_apply, pciAddress_cardGpu, Field.value_ofValue]
  · calc _ = List.map id _ := by
          refine List.map_congr_left fun device _ => ?_
          rw [Function.comp_apply, pciAddress_gpuAt, Field.value_ofValue, id]
      _ = _ := List.map_id _

theorem enumerated_collectGpu (hnames : ((env.names (pciRoot options)).map EntryName.name).Nodup) :
    env.Enumerated options ((collectGpu options).run env).entries := by
  refine ⟨valid_pciAddress env options, ?_, ?_, ?_, ?_⟩
  · rw [addresses_collectGpu, List.nodup_append']
    refine ⟨nodup_keys _ _ _, (hnames.filter _).filter _, fun device hcard hrest => ?_⟩
    have hnot := (List.mem_filter.1 hrest).2
    rw [decide_eq_true_eq] at hnot
    exact hnot ((mem_keys _).1 hcard).1
  · intro device
    rw [addresses_collectGpu, List.mem_append, mem_keys, List.mem_filter, exists_node_iff]
    simp only [Finset.notMem_empty, not_false_eq_true, and_true, decide_eq_true_eq]
    tauto
  · rw [forall_mem_collectGpu]
    constructor
    · intro node hnode
      rw [pciAddress_cardGpu]
      refine ⟨fun path hpath => ⟨node.1, mem_of_mem_keepFirst _ hnode, ?_⟩, fun _ => rfl⟩
      exact (Option.some.inj hpath).symm
    · intro device _ hnot
      rw [pciAddress_gpuAt, drmCard_gpuAt]
      refine ⟨fun path hpath => ?_, fun hname => ?_⟩
      · cases hpath
      · exact absurd ((exists_node_iff env options).1 hname) hnot
  · rw [forall_mem_collectGpu]
    constructor
    · intro node _
      rw [pciAddress_cardGpu]
      exact renderNode_gpuAt env options node.2
    · intro device _ _
      rw [pciAddress_gpuAt]
      exact renderNode_gpuAt env options device

/-- The nodes of a kind are the entries of `class/drm` of that kind with a device link that can be read,
and the device of a node is the last component of its link. -/
theorem mem_nodes_iff_link {isNode : Bytes → Bool} {name device : Bytes} :
    (name, device) ∈ env.nodes options isNode ↔
      (∃ entry ∈ env.names (drmRoot options), entry.name = name) ∧ isNode name = true ∧
        ∃ target, env (.readSymlink (joinPath (drmRoot options) (name ++ "/device"))) = some target ∧
          device = basename target ∧
          ((∃ c ∈ target, isSeparator c = false) → LastComponent target device) := by
  rw [mem_nodes, Env.deviceOf, Option.map_eq_some_iff]
  refine and_congr_right fun _ => and_congr_right fun _ => exists_congr fun target =>
    and_congr_right fun _ => ?_
  constructor
  · rintro rfl
    exact ⟨rfl, basename_spec⟩
  · rintro ⟨rfl, -⟩
    rfl

/-- If no name is listed twice, every device of a card and every display device has one entry, with the
nodes that link to it.  A device of a node is the last component of the link of the node. -/
theorem gpus_enumerated (hnames : ((env.names (pciRoot options)).map EntryName.name).Nodup) :
    env.Enumerated options ((collectGpu options).run env).entries ∧
      ∀ isNode name device, (name, device) ∈ env.nodes options isNode ↔
        (∃ entry ∈ env.names (drmRoot options), entry.name = name) ∧ isNode name = true ∧
          ∃ target,
            env (.readSymlink (joinPath (drmRoot options) (name ++ "/device"))) = some target ∧
            device = basename target ∧
            ((∃ c ∈ target, isSeparator c = false) → LastComponent target device) :=
  ⟨enumerated_collectGpu env options hnames, fun _ _ _ => mem_nodes_iff_link env options⟩

/-- Every address is an entry of `bus/pci/devices` if and only if every card links to one. -/
theorem addresses_listed_iff :
    (∀ gpu ∈ ((collectGpu options).run env).entries, gpu.pciAddress.valid = true →
        gpu.pciAddress.value ∈ (env.names (pciRoot options)).map EntryName.name) ↔
      ∀ name device, (name, device) ∈ env.nodes options isCard →
        device ∈ (env.names (pciRoot options)).map EntryName.name := by
  rw [forall_mem_collectGpu]
  simp only [pciAddress_cardGpu, pciAddress_gpuAt, Field.valid_ofValue, Field.value_ofValue,
    forall_const]
  constructor
  · rintro ⟨hcards, -⟩ name device hnode
    obtain ⟨kept, hkept, rfl⟩ := exists_kept Prod.snd hnode
    exact hcards kept hkept
  · intro h
    refine ⟨fun node hnode => ?_, fun device hdisplay _ => (List.mem_filter.1 hdisplay).1⟩
    exact h node.1 node.2 (mem_of_mem_keepFirst _ hnode)

end Run

/-! ## Two machines -/

/-- The class file of a display device. -/
def displayClass : OpenFile := { content := bytes "0x030000\n" }

/-- The entry of the device behind bus 1. -/
def busOne : EntryName := ⟨"0000:01:00.0", by decide, by decide, by decide, by decide⟩

/-- A device with a card, a connector and a render node, and a display device without a card. -/
def twoGpus : Env :=
  .ofTree [("/sys/bus/pci/devices/0000:00:02.0/class", displayClass),
      ("/sys/bus/pci/devices/0000:01:00.0/class", { content := bytes "0x030200\n" })]
    [("/sys/class/drm",
        { entries := [⟨"card0", by decide, by decide, by decide, by decide⟩,
            ⟨"card0-HDMI-A-1", by decide, by decide, by decide, by decide⟩,
            ⟨"renderD128", by decide, by decide, by decide, by decide⟩] }),
      ("/sys/bus/pci/devices",
        { entries := [busOne, ⟨"0000:00:02.0", by decide, by decide, by decide, by decide⟩] })]
    [("/sys/class/drm/card0/device", "../../../0000:00:02.0"),
      ("/sys/class/drm/renderD128/device", "../../../0000:00:02.0")]

/-- The addresses of the two, and the node that links to the first. -/
theorem gpus_enumerated_two :
    (((collectGpu {}).run twoGpus).entries.map fun gpu => gpu.pciAddress.value) =
        [bytes "0000:00:02.0", bytes "0000:01:00.0"] ∧
      (bytes "card0", bytes "0000:00:02.0") ∈ twoGpus.nodes {} isCard ∧
      twoGpus.Enumerated {} ((collectGpu {}).run twoGpus).entries :=
  ⟨by decide +kernel, by decide +kernel, (gpus_enumerated twoGpus {} (by decide +kernel)).1⟩

/-- A virtual machine: its card is that of a virtio device below the PCI device. -/
def virtioGpu : Env :=
  .ofTree [("/sys/bus/pci/devices/0000:00:02.0/class", displayClass)]
    [("/sys/class/drm", { entries := [⟨"card0", by decide, by decide, by decide, by decide⟩] }),
      ("/sys/bus/pci/devices",
        { entries := [⟨"0000:00:02.0", by decide, by decide, by decide, by decide⟩] })]
    [("/sys/class/drm/card0/device", "../../../virtio0")]

/-- The report has the one GPU twice, once with an address that is no PCI device. -/
theorem addresses_virtio :
    (((collectGpu {}).run virtioGpu).entries.map fun gpu => gpu.pciAddress) =
        [.ofValue "virtio0", .ofValue "0000:00:02.0"] ∧
      ¬ ∀ gpu ∈ ((collectGpu {}).run virtioGpu).entries, gpu.pciAddress.valid = true →
        gpu.pciAddress.value ∈ (virtioGpu.names (pciRoot {})).map EntryName.name := by
  decide +kernel

end Archspec
