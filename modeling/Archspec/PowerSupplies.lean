import Archspec.Readings
import Archspec.Paths

/-!
# The power source

Of a power supply the verdict on the power source reads the type, the status of a battery and the
`online` file of a mains adapter (`Supply`).  The verdict is a function of the supplies in the order of
their names (`run_onBattery`), and only the status of the first battery that has one can bring that
order in.  So renaming the supplies leaves the verdict alone exactly when there is an adapter or the
batteries agree (`onBattery_renamed_iff`).

A read of zero and a failed read of `online` count alike.  A verdict that the machine runs on battery is
read off the files exactly when there is no battery, some adapter is online or every adapter says
whether it is (`onBattery_read_iff`).
-/

namespace Archspec

open Lib Program

/-! ## Supplies -/

/-- What the verdict on the power source reads of a supply. -/
structure Supply where
  type : Option Bytes
  status : Option Bytes
  online : U64Field

namespace Supply

variable (supply : Supply)

def isBattery : Bool := supply.type = some (bytes "Battery")

def isMains : Bool := supply.type.any isMainsType

/-- The `online` file was read as a number. -/
def isOnline : Bool := supply.isMains && (supply.online.valid && supply.online.value != 0)

/-- The status of a battery. -/
def batteryText : Option Bytes := if supply.isBattery then supply.status else none

variable {supply}

theorem not_isMains_of_isBattery (h : supply.isBattery = true) : supply.isMains = false := by
  rw [isMains, of_decide_eq_true h]
  decide

end Supply

/-- The verdict on the supplies in the order of their names. -/
def verdict (supplies : List Supply) : BoolField :=
  if supplies.any Supply.isBattery then
    if supplies.any Supply.isMains then .ofValue (!supplies.any Supply.isOnline)
    else match supplies.findSome? Supply.batteryText with
      | some status => .ofValue (status = bytes "Discharging")
      | none => .unavailable .notFound
  else if supplies.any Supply.isMains then .ofValue false
  else .unavailable .notFound

/-- The directory of the power supplies. -/
def supplyRoot (options : CollectOptions) : Bytes := sysPath options "/class/power_supply"

section Run

variable (env : Env) (root : Bytes)

/-- What the files of a directory say. -/
def Env.supplyAt (name : Bytes) : Supply where
  type := (env.line (joinPath (joinPath root name) "type")).map trim
  status := (env.line (joinPath (joinPath root name) "status")).map trim
  online := (readU64Field (joinPath (joinPath root name) "online")).run env

theorem supplyAt_type (name : Bytes) :
    (env.supplyAt root name).type = (env.line (joinPath (joinPath root name) "type")).map trim := rfl

@[simp] theorem supplyAt_status (name : Bytes) :
    (env.supplyAt root name).status = (env.line (joinPath (joinPath root name) "status")).map trim := rfl

@[simp] theorem supplyAt_online (name : Bytes) :
    (env.supplyAt root name).online = (readU64Field (joinPath (joinPath root name) "online")).run env := rfl

def Env.supplies : List Supply := (env.names root).map fun entry => env.supplyAt root entry.name

/-! ## The supply loop -/

/-- What the loop has found so far is what these supplies tell. -/
structure PowerScan.Tells (scan : PowerScan) (supplies : List Supply) : Prop where
  battery : scan.sawBattery = supplies.any Supply.isBattery
  mains : scan.sawMains = supplies.any Supply.isMains
  online : scan.anyMainsOnline = supplies.any Supply.isOnline
  status : scan.batteryStatus.value? = supplies.findSome? Supply.batteryText

theorem PowerScan.Tells.concat {scan scan' : PowerScan} {supplies : List Supply} {supply : Supply}
    (h : scan.Tells supplies) (hbattery : scan'.sawBattery = (scan.sawBattery || supply.isBattery))
    (hmains : scan'.sawMains = (scan.sawMains || supply.isMains))
    (honline : scan'.anyMainsOnline = (scan.anyMainsOnline || supply.isOnline))
    (hstatus : scan'.batteryStatus.value? = scan.batteryStatus.value?.or supply.batteryText) :
    scan'.Tells (supplies ++ [supply]) := by
  constructor
  · rw [hbattery, h.battery, List.any_append, List.any_cons, List.any_nil, Bool.or_false]
  · rw [hmains, h.mains, List.any_append, List.any_cons, List.any_nil, Bool.or_false]
  · rw [honline, h.online, List.any_append, List.any_cons, List.any_nil, Bool.or_false]
  · rw [hstatus, h.status, List.findSome?_append, List.findSome?_singleton]

/-- The status is read while there is none. -/
theorem run_keepValid_status (field : StringField) (path : Bytes) :
    ((keepValid field (readStringField path)).run env).value? =
      field.value?.or ((env.line path).map trim) := by
  unfold keepValid
  rw [run_ite, run_pure]
  by_cases hvalid : field.valid = true
  · rw [if_pos hvalid, value?_of_valid hvalid, Option.some_or]
  · rw [if_neg hvalid, value?_of_not_valid hvalid, Option.none_or, run_readStringField_value]

theorem run_powerSupply_tells {scan : PowerScan} {supplies : List Supply} (h : scan.Tells supplies)
    (entry : EntryName) :
    ((powerSupply root scan entry).run env).Tells (supplies ++ [env.supplyAt root entry.name]) := by
  have htype := supplyAt_type env root entry.name
  rw [powerSupply, run_bind, run_readStringField]
  cases hline : env.line (joinPath (joinPath root entry.name) "type") with
  | none =>
    rw [hline, Option.map_none] at htype
    have hisBattery : (env.supplyAt root entry.name).isBattery = false := by
      rw [Supply.isBattery, htype]
      rfl
    have hisMains : (env.supplyAt root entry.name).isMains = false := by
      rw [Supply.isMains, htype, Option.any_none]
    apply h.concat <;> simp [hisBattery, hisMains, Supply.isOnline, Supply.batteryText]
  | some line =>
    rw [hline, Option.map_some] at htype
    by_cases hbattery : trim line = bytes "Battery"
    · have hisBattery : (env.supplyAt root entry.name).isBattery = true := by
        rw [Supply.isBattery, htype, hbattery]
        decide
      have hisMains := Supply.not_isMains_of_isBattery hisBattery
      apply h.concat
      · simp [hbattery, hisBattery]
      · simp [hbattery, hisMains]
      · simp [hbattery, hisMains, Supply.isOnline]
      · simp [hbattery, hisBattery, Supply.batteryText, run_keepValid_status]
    · have hisBattery : (env.supplyAt root entry.name).isBattery = false := by
        rw [Supply.isBattery, htype]
        simpa using hbattery
      have hisMains : (env.supplyAt root entry.name).isMains = isMainsType (trim line) := by
        rw [Supply.isMains, htype, Option.any_some]
      by_cases hmains : isMainsType (trim line) = true
      · apply h.concat <;> simp [hbattery, hmains, hisBattery, hisMains, Supply.isOnline,
          Supply.batteryText]
      · apply h.concat <;> simp [hbattery, hmains, hisBattery, hisMains, Supply.isOnline,
          Supply.batteryText]

theorem foldl_powerSupply_tells (entries : List EntryName) :
    (entries.foldl (fun scan entry => (powerSupply root scan entry).run env) {}).Tells
      (entries.map fun entry => env.supplyAt root entry.name) := by
  induction entries using List.reverseRecOn with
  | nil => exact ⟨rfl, rfl, rfl, rfl⟩
  | append_singleton entries entry ih =>
    rw [List.foldl_append, List.foldl_cons, List.foldl_nil, List.map_append, List.map_singleton]
    exact run_powerSupply_tells env root ih entry

theorem onBatteryField_eq {scan : PowerScan} {supplies : List Supply} (h : scan.Tells supplies) :
    onBatteryField scan = verdict supplies := by
  have hstatus := h.status
  unfold onBatteryField verdict
  rw [← h.battery, ← h.mains, ← h.online, ← hstatus, Field.value?]
  cases scan.batteryStatus.valid <;> rfl

/-- The verdict of a report. -/
theorem run_onBattery (options : CollectOptions) :
    ((collectPower options).run env).onBattery = verdict (env.supplies (supplyRoot options)) := by
  unfold collectPower
  simp only [run_bind, run_pure, run_listDir, run_foldlM]
  exact onBatteryField_eq (foldl_powerSupply_tells env _ _)

end Run

/-! ## Reading the verdict -/

theorem batteryText_eq_some_iff {supply : Supply} {text : Bytes} :
    supply.batteryText = some text ↔ supply.isBattery = true ∧ supply.status = some text := by
  rw [Supply.batteryText]
  split <;> simp [*]

theorem isOnline_iff {supply : Supply} :
    supply.isOnline = true ↔
      supply.isMains = true ∧ supply.online.valid = true ∧ supply.online.value ≠ 0 := by
  rw [Supply.isOnline, Bool.and_eq_true, Bool.and_eq_true, bne_iff_ne]

/-- Without an adapter the first battery with a status decides. -/
theorem verdict_of_text {supplies : List Supply} {text : Bytes}
    (hmains : ∀ supply ∈ supplies, ¬ supply.isMains = true)
    (htext : supplies.findSome? Supply.batteryText = some text) :
    verdict supplies = .ofValue (text = bytes "Discharging") := by
  obtain ⟨supply, hmem, hsupply⟩ := List.exists_of_findSome?_eq_some htext
  have hbattery := (batteryText_eq_some_iff.mp hsupply).1
  rw [verdict, List.any_eq_true.mpr ⟨supply, hmem, hbattery⟩, List.any_eq_false.mpr hmains, htext]
  rfl

/-- The files say that the machine runs on battery. -/
def SaysOnBattery (supplies : List Supply) : Prop :=
  (∃ supply ∈ supplies, supply.isBattery = true) ∧
    ((∃ supply ∈ supplies, supply.isMains = true) ∧
        (∀ supply ∈ supplies, supply.isMains = true →
          supply.online.valid = true ∧ supply.online.value = 0) ∨
      (∀ supply ∈ supplies, ¬ supply.isMains = true) ∧
        ∃ supply ∈ supplies, supply.isBattery = true ∧ supply.status = some (bytes "Discharging"))

theorem verdict_true_iff {supplies : List Supply} :
    (verdict supplies).valid = true ∧ (verdict supplies).value = true ↔
      (∃ supply ∈ supplies, supply.isBattery = true) ∧
        ((∃ supply ∈ supplies, supply.isMains = true) ∧ (∀ supply ∈ supplies, ¬ supply.isOnline = true) ∨
          (∀ supply ∈ supplies, ¬ supply.isMains = true) ∧
            supplies.findSome? Supply.batteryText = some (bytes "Discharging")) := by
  rw [← List.any_eq_true, ← List.any_eq_true, ← List.any_eq_false, ← List.any_eq_false, verdict]
  cases supplies.any Supply.isBattery with
  | false => cases supplies.any Supply.isMains <;> simp
  | true =>
    cases supplies.any Supply.isMains with
    | true => simp
    | false => cases supplies.findSome? Supply.batteryText <;> simp

theorem verdict_read_iff {supplies : List Supply} :
    ((verdict supplies).valid = true → (verdict supplies).value = true → SaysOnBattery supplies) ↔
      (∀ supply ∈ supplies, ¬ supply.isBattery = true) ∨
        (∃ supply ∈ supplies, supply.isOnline = true) ∨
          ∀ supply ∈ supplies, supply.isMains = true → supply.online.valid = true := by
  rw [← and_imp, verdict_true_iff]
  constructor
  · intro h
    by_contra hcon
    push Not at hcon
    obtain ⟨hbattery, honline, supply, hmem, hmains, hfailed⟩ := hcon
    obtain ⟨-, ⟨-, hread⟩ | ⟨hnone, -⟩⟩ := h ⟨hbattery, .inl ⟨⟨supply, hmem, hmains⟩, honline⟩⟩
    · exact hfailed (hread supply hmem hmains).1
    · exact hnone supply hmem hmains
  · rintro (hnone | ⟨supply, hmem, honline⟩ | hread) ⟨⟨battery, hbattery, hisBattery⟩, hverdict⟩
    · exact absurd hisBattery (hnone battery hbattery)
    · obtain ⟨-, hoffline⟩ | ⟨hmains, -⟩ := hverdict
      · exact absurd honline (hoffline supply hmem)
      · exact absurd (isOnline_iff.mp honline).1 (hmains supply hmem)
    · refine ⟨⟨battery, hbattery, hisBattery⟩, ?_⟩
      obtain ⟨hmains, hoffline⟩ | ⟨hmains, htext⟩ := hverdict
      · refine .inl ⟨hmains, fun supply hmem hisMains => ⟨hread supply hmem hisMains, ?_⟩⟩
        by_contra hvalue
        exact hoffline supply hmem (isOnline_iff.mpr ⟨hisMains, hread supply hmem hisMains, hvalue⟩)
      · obtain ⟨supply, hmem, hsupply⟩ := List.exists_of_findSome?_eq_some htext
        exact .inr ⟨hmains, supply, hmem, batteryText_eq_some_iff.mp hsupply⟩

/-- A verdict that the machine runs on battery is what the files say exactly if there is no battery, some
adapter is online or every adapter says whether it is. -/
theorem onBattery_read_iff (env : Env) (options : CollectOptions) :
    (((collectPower options).run env).onBattery.valid = true →
        ((collectPower options).run env).onBattery.value = true →
          SaysOnBattery (env.supplies (supplyRoot options))) ↔
      (∀ supply ∈ env.supplies (supplyRoot options), ¬ supply.isBattery = true) ∨
        (∃ supply ∈ env.supplies (supplyRoot options), supply.isOnline = true) ∨
          ∀ supply ∈ env.supplies (supplyRoot options), supply.isMains = true →
            supply.online.valid = true := by
  rw [run_onBattery]
  exact verdict_read_iff

/-- A host with a battery and an adapter that does not say whether it is online. -/
def silentAdapter : Env :=
  .ofTree [("/sys/class/power_supply/AC/type", { content := bytes "Mains\n" }),
      ("/sys/class/power_supply/BAT0/type", { content := bytes "Battery\n" }),
      ("/sys/class/power_supply/BAT0/status", { content := bytes "Charging\n" })]
    [("/sys/class/power_supply",
        { entries := [⟨"AC", by decide, by decide, by decide, by decide⟩,
            ⟨"BAT0", by decide, by decide, by decide, by decide⟩] })]
    []

/-- The machine is said to run on battery although no file says so. -/
theorem onBattery_silent_adapter :
    ((collectPower {}).run silentAdapter).onBattery = .ofValue true ∧
      ¬ SaysOnBattery (silentAdapter.supplies (supplyRoot {})) := by
  constructor
  · decide +kernel
  · unfold SaysOnBattery
    decide +kernel

/-! ## Renamed supplies -/

/-- The batteries with a status agree on whether it is `Discharging`. -/
def BatteriesAgree (supplies : List Supply) : Prop :=
  ∀ supply ∈ supplies, ∀ other ∈ supplies, ∀ text ∈ supply.batteryText, ∀ text' ∈ other.batteryText,
    (text = bytes "Discharging" ↔ text' = bytes "Discharging")

/-- The order of the supplies matters only for batteries that disagree. -/
theorem verdict_congr {supplies supplies' : List Supply}
    (hmem : ∀ supply, supply ∈ supplies' ↔ supply ∈ supplies)
    (h : (∃ supply ∈ supplies, supply.isMains = true) ∨ BatteriesAgree supplies) :
    verdict supplies' = verdict supplies := by
  have hany : ∀ p : Supply → Bool, supplies'.any p = supplies.any p := by
    intro p
    rw [Bool.eq_iff_iff, List.any_eq_true, List.any_eq_true]
    simp only [hmem]
  rw [verdict, verdict, hany, hany, hany]
  obtain hmains | hagree := h
  · rw [List.any_eq_true.mpr hmains]
    rfl
  · cases htext : supplies.findSome? Supply.batteryText with
    | none =>
      have hnone : supplies'.findSome? Supply.batteryText = none := by
        rw [List.findSome?_eq_none_iff] at htext ⊢
        exact fun supply hsupply => htext supply ((hmem supply).mp hsupply)
      rw [hnone]
    | some text =>
      obtain ⟨supply, hsupply, heq⟩ := List.exists_of_findSome?_eq_some htext
      cases htext' : supplies'.findSome? Supply.batteryText with
      | none =>
        rw [List.findSome?_eq_none_iff] at htext'
        rw [htext' supply ((hmem supply).mpr hsupply)] at heq
        cases heq
      | some text' =>
        obtain ⟨other, hother, heq'⟩ := List.exists_of_findSome?_eq_some htext'
        have hsame := hagree other ((hmem other).mp hother) supply hsupply text' heq' text heq
        simp only [hsame]

/-- The files that say something about a supply. -/
def supplyFiles : List Bytes := ["type", "status", "capacity", "online"]

/-- The file that one environment has at a path is the one the other has at a path. -/
def SameFile (env env' : Env) (path path' : Bytes) : Prop :=
  env (.openFile path) = env' (.openFile path') ∧ env (.pathExists path) = env' (.pathExists path')

/-- The directories of `env'` are those of `env` under new names. -/
structure Env.Renamed (env env' : Env) (root : Bytes) (σ : Bytes → Bytes) : Prop where
  names : Set.BijOn σ {name | ∃ entry ∈ env.names root, entry.name = name}
    {name | ∃ entry ∈ env'.names root, entry.name = name}
  files : ∀ entry ∈ env.names root, ∀ file ∈ supplyFiles,
    SameFile env' env (joinPath (joinPath root (σ entry.name)) file)
      (joinPath (joinPath root entry.name) file)

theorem SameFile.line_eq {env env' : Env} {path path' : Bytes} (h : SameFile env env' path path') :
    env.line path = env'.line path' := by
  rw [Env.line, Env.line, h.1]

theorem SameFile.failure_eq {env env' : Env} {path path' : Bytes} (h : SameFile env env' path path') :
    env.failure path = env'.failure path' := by
  unfold Env.failure
  rw [h.2]
  cases hfile : env (.openFile path) with
  | none => rw [show env' (.openFile path') = none from h.1.symm.trans hfile]
  | some file => rw [show env' (.openFile path') = some file from h.1.symm.trans hfile]

theorem SameFile.run_readU64Field {env env' : Env} {path path' : Bytes}
    (h : SameFile env env' path path') :
    (readU64Field path).run env = (readU64Field path').run env' := by
  unfold readU64Field
  rw [run_readParsed, run_readParsed, h.line_eq, h.failure_eq]

theorem supplyAt_congr {env env' : Env} {root name name' : Bytes}
    (h : ∀ file ∈ supplyFiles,
      SameFile env' env (joinPath (joinPath root name') file) (joinPath (joinPath root name) file)) :
    env'.supplyAt root name' = env.supplyAt root name := by
  unfold Env.supplyAt
  rw [(h "type" (by decide)).line_eq, (h "status" (by decide)).line_eq,
    (h "online" (by decide)).run_readU64Field]

theorem Env.Renamed.mem_supplies {env env' : Env} {root : Bytes} {σ : Bytes → Bytes}
    (h : env.Renamed env' root σ) (supply : Supply) :
    supply ∈ env'.supplies root ↔ supply ∈ env.supplies root := by
  unfold Env.supplies
  rw [List.mem_map, List.mem_map]
  constructor
  · rintro ⟨entry', hentry', rfl⟩
    obtain ⟨-, ⟨entry, hentry, rfl⟩, hname⟩ := h.names.surjOn ⟨entry', hentry', rfl⟩
    exact ⟨entry, hentry, by rw [← hname, supplyAt_congr (h.files entry hentry)]⟩
  · rintro ⟨entry, hentry, rfl⟩
    obtain ⟨entry', hentry', hname⟩ := h.names.mapsTo ⟨entry, hentry, rfl⟩
    exact ⟨entry', hentry', by rw [hname, supplyAt_congr (h.files entry hentry)]⟩

/-! ## Two directories swapped -/

/-- The path with another name for the subdirectory. -/
def renamePath (root : Bytes) (σ : Bytes → Bytes) (path : Bytes) : Bytes :=
  match splitFirst 47 (path.drop (slashed root).length) with
  | some (name, file) => slashed root ++ (σ name ++ 47 :: file)
  | none => path

theorem renamePath_file (root : Bytes) (σ : Bytes → Bytes) {name file : Bytes} (hslash : 47 ∉ name) :
    renamePath root σ (slashed root ++ (name ++ 47 :: file)) =
      slashed root ++ (σ name ++ 47 :: file) := by
  rw [renamePath, List.drop_left, splitFirst_append hslash]

/-- The files of the subdirectories under new names. -/
def Env.renameFiles (env : Env) (root : Bytes) (σ : Bytes → Bytes) : Env
  | .openFile path => env (.openFile (renamePath root σ path))
  | .pathExists path => env (.pathExists (renamePath root σ path))
  | call => env call

section Swap

variable {env : Env} {root : Bytes} {first second : EntryName}

theorem exists_swapped (hfirst : first ∈ env.names root) (hsecond : second ∈ env.names root)
    {entry : EntryName} (hentry : entry ∈ env.names root) :
    ∃ entry' ∈ env.names root, entry'.name = Equiv.swap first.name second.name entry.name := by
  by_cases hleft : entry.name = first.name
  · exact ⟨second, hsecond, by rw [hleft, Equiv.swap_apply_left]⟩
  · by_cases hright : entry.name = second.name
    · exact ⟨first, hfirst, by rw [hright, Equiv.swap_apply_right]⟩
    · exact ⟨entry, hentry, (Equiv.swap_apply_of_ne_of_ne hleft hright).symm⟩

/-- With the files of two directories swapped, the directories are those of before under swapped names. -/
theorem renamed_swap (hfirst : first ∈ env.names root) (hsecond : second ∈ env.names root) :
    env.Renamed (env.renameFiles root (Equiv.swap first.name second.name)) root
      (Equiv.swap first.name second.name) := by
  have hmapsTo : Set.MapsTo (Equiv.swap first.name second.name)
      {name | ∃ entry ∈ env.names root, entry.name = name}
      {name | ∃ entry ∈ env.names root, entry.name = name} := by
    rintro _ ⟨entry, hentry, rfl⟩
    exact exists_swapped hfirst hsecond hentry
  constructor
  · refine Set.InvOn.bijOn ⟨?_, ?_⟩ hmapsTo hmapsTo
    · exact fun name _ => Equiv.swap_apply_self first.name second.name name
    · exact fun name _ => Equiv.swap_apply_self first.name second.name name
  · intro entry hentry file hfile
    obtain ⟨entry', -, hname⟩ := exists_swapped hfirst hsecond hentry
    have hparts : ∀ file ∈ supplyFiles, file ≠ [] ∧ 47 ∉ file := by decide
    obtain ⟨hne, hslash⟩ := hparts file hfile
    have hpath : renamePath root (Equiv.swap first.name second.name)
        (joinPath (joinPath root (Equiv.swap first.name second.name entry.name)) file) =
          joinPath (joinPath root entry.name) file := by
      rw [← hname, joinPath_file root entry'.ne_nil entry'.no_slash hne hslash,
        renamePath_file root _ entry'.no_slash, hname, Equiv.swap_apply_self,
        joinPath_file root entry.ne_nil entry.no_slash hne hslash]
    rw [← hpath]
    exact ⟨rfl, rfl⟩

theorem supplies_swap (hfirst : first ∈ env.names root) (hsecond : second ∈ env.names root) :
    (env.renameFiles root (Equiv.swap first.name second.name)).supplies root =
      (env.names root).map fun entry =>
        env.supplyAt root (Equiv.swap first.name second.name entry.name) := by
  have hrenamed := renamed_swap hfirst hsecond
  apply List.map_congr_left
  intro entry hentry
  obtain ⟨entry', hentry', hname⟩ := exists_swapped hfirst hsecond hentry
  have hsupply := supplyAt_congr (hrenamed.files entry' hentry')
  rwa [hname, Equiv.swap_apply_self] at hsupply

/-- Swapped with another battery, the battery that decides hands the decision over. -/
theorem findSome_swap {entries before after : List EntryName} (hentries : entries = before ++ first :: after)
    (hbefore : ∀ entry ∈ before, (env.supplyAt root entry.name).batteryText = none) {text text' : Bytes}
    (hfirst : (env.supplyAt root first.name).batteryText = some text)
    (hsecond : (env.supplyAt root second.name).batteryText = some text') :
    (entries.map fun entry =>
        env.supplyAt root (Equiv.swap first.name second.name entry.name)).findSome? Supply.batteryText =
      some text' := by
  rw [hentries, List.findSome?_map, List.findSome?_eq_some_iff]
  refine ⟨before, first, after, rfl, ?_, fun entry hentry => ?_⟩
  · rw [Function.comp_apply, Equiv.swap_apply_left]
    exact hsecond
  · have hnone := hbefore entry hentry
    have hleft : entry.name ≠ first.name := by
      intro h
      rw [h, hfirst] at hnone
      cases hnone
    have hright : entry.name ≠ second.name := by
      intro h
      rw [h, hsecond] at hnone
      cases hnone
    rw [Function.comp_apply, Equiv.swap_apply_of_ne_of_ne hleft hright]
    exact hnone

/-- If swapping two batteries does not change the verdict, the first battery with a status agrees with
every other. -/
theorem decides_of_renamed (hmains : ∀ supply ∈ env.supplies root, ¬ supply.isMains = true)
    (h : ∀ (env' : Env) (σ : Bytes → Bytes), env.Renamed env' root σ →
      verdict (env'.supplies root) = verdict (env.supplies root)) {text : Bytes}
    (htext : (env.supplies root).findSome? Supply.batteryText = some text) :
    ∀ supply ∈ env.supplies root, ∀ text' ∈ supply.batteryText,
      (text = bytes "Discharging" ↔ text' = bytes "Discharging") := by
  intro supply hsupply text' htext'
  have hfirst := htext
  unfold Env.supplies at hfirst hsupply
  rw [List.findSome?_map, List.findSome?_eq_some_iff] at hfirst
  obtain ⟨before, first, after, hnames, hfirst, hbefore⟩ := hfirst
  obtain ⟨second, hsecond, rfl⟩ := List.mem_map.mp hsupply
  have hmem : first ∈ env.names root := by
    rw [hnames]
    exact List.mem_append_right _ List.mem_cons_self
  have hrenamed := renamed_swap hmem hsecond
  have hswapped := findSome_swap hnames hbefore hfirst htext'
  rw [← supplies_swap hmem hsecond] at hswapped
  have hmains' : ∀ supply ∈ (env.renameFiles root (Equiv.swap first.name second.name)).supplies root,
      ¬ supply.isMains = true :=
    fun supply hsupply => hmains supply ((hrenamed.mem_supplies supply).mp hsupply)
  have heq := h _ _ hrenamed
  rw [verdict_of_text hmains htext, verdict_of_text hmains' hswapped] at heq
  exact (decide_eq_decide.mp (congrArg Field.value heq)).symm

end Swap

/-- The verdict does not depend on the names of the supplies exactly if there is an adapter or the
batteries agree. -/
theorem onBattery_renamed_iff (env : Env) (options : CollectOptions) :
    (∀ (env' : Env) (σ : Bytes → Bytes), env.Renamed env' (supplyRoot options) σ →
        ((collectPower options).run env').onBattery = ((collectPower options).run env).onBattery) ↔
      (∃ supply ∈ env.supplies (supplyRoot options), supply.isMains = true) ∨
        BatteriesAgree (env.supplies (supplyRoot options)) := by
  simp only [run_onBattery]
  generalize supplyRoot options = root
  constructor
  · intro h
    rw [or_iff_not_imp_left]
    intro hmains supply hsupply other hother text htext text' htext'
    cases hfirst : (env.supplies root).findSome? Supply.batteryText with
    | none =>
      rw [List.findSome?_eq_none_iff] at hfirst
      rw [hfirst supply hsupply] at htext
      cases htext
    | some first =>
      have hdecides := decides_of_renamed (fun supply hmem h => hmains ⟨supply, hmem, h⟩) h hfirst
      exact (hdecides supply hsupply text htext).symm.trans (hdecides other hother text' htext')
  · intro h env' σ hrenamed
    exact verdict_congr hrenamed.mem_supplies h

/-- A host with two batteries, of which the first is discharging. -/
def twoBatteries : Env :=
  .ofTree [("/sys/class/power_supply/BAT0/type", { content := bytes "Battery\n" }),
      ("/sys/class/power_supply/BAT0/status", { content := bytes "Discharging\n" }),
      ("/sys/class/power_supply/BAT1/type", { content := bytes "Battery\n" }),
      ("/sys/class/power_supply/BAT1/status", { content := bytes "Charging\n" })]
    [("/sys/class/power_supply",
        { entries := [⟨"BAT0", by decide, by decide, by decide, by decide⟩,
            ⟨"BAT1", by decide, by decide, by decide, by decide⟩] })]
    []

/-- With the names of the batteries swapped the verdict is the opposite. -/
theorem onBattery_swapped_batteries :
    twoBatteries.Renamed (twoBatteries.renameFiles (supplyRoot {}) (Equiv.swap (bytes "BAT0") (bytes "BAT1")))
        (supplyRoot {}) (Equiv.swap (bytes "BAT0") (bytes "BAT1")) ∧
      ((collectPower {}).run twoBatteries).onBattery = .ofValue true ∧
      ((collectPower {}).run (twoBatteries.renameFiles (supplyRoot {})
        (Equiv.swap (bytes "BAT0") (bytes "BAT1")))).onBattery = .ofValue false := by
  have hnames : twoBatteries.names (supplyRoot {}) =
      [⟨"BAT0", by decide, by decide, by decide, by decide⟩,
        ⟨"BAT1", by decide, by decide, by decide, by decide⟩] := rfl
  refine ⟨@renamed_swap twoBatteries (supplyRoot {}) ⟨"BAT0", by decide, by decide, by decide, by decide⟩
    ⟨"BAT1", by decide, by decide, by decide, by decide⟩ ?_ ?_, ?_, ?_⟩
  · rw [hnames]
    exact List.mem_cons_self
  · rw [hnames]
    exact List.mem_cons_of_mem _ List.mem_cons_self
  · decide +kernel
  · decide +kernel

end Archspec
