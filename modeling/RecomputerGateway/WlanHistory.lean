import RecomputerGateway.WlanConfig

namespace RecomputerGateway.Wlan

/-!
# What earlier files leave behind

Applying a file deletes the interfaces and makes one anew, but it edits the
radio in place.  The options of the radio after a sequence of files are those
that were written last.
-/

open UciStore

/-- A file that `apply_wifi_config` applies. -/
structure ValidFile where
  text : List Char
  valid : (parse text).Valid

namespace ValidFile

def settings (file : ValidFile) : Settings :=
  parse file.text

def IsStation (file : ValidFile) : Prop :=
  file.settings.IsStation

instance (file : ValidFile) : Decidable file.IsStation :=
  inferInstanceAs (Decidable file.settings.IsStation)

end ValidFile

/-- The files are applied one after the other. -/
def applyAll (files : List ValidFile) (wireless : Wireless) : Wireless :=
  files.foldl (fun wireless file => (applyWifiConfig file.text wireless).2)
    wireless

/-- The sections that the script edits are equal. -/
def SameOptions (first second : Wireless) : Prop :=
  ∀ name ∈ [SectionName.radio0, .defaultRadio0, .wifinet0],
    first.config.committed name = second.config.committed name

/-- The edits for all files. -/
def historyEdits (files : List ValidFile) : List WirelessEdit :=
  files.flatMap fun file => file.settings.edits

/-! ## The configuration after a history -/

theorem committed_applyAll
    (files : List ValidFile)
    {wireless : Wireless}
    (settled : wireless.config.staged = wireless.config.committed) :
    (applyAll files wireless).config.committed =
      applyEdits (historyEdits files) wireless.config.committed := by
  induction files generalizing wireless with
  | nil =>
      rfl
  | cons file rest inductionHypothesis =>
      have applied :
          (applyWifiConfig file.text wireless).2 =
            (wireless.edit file.settings.edits).commit.reload := by
        rw [applyWifiConfig, applySettings_of_valid file.valid]
        rfl
      have later :
          (applyAll rest
              (wireless.edit file.settings.edits).commit.reload
            ).config.committed =
            applyEdits (historyEdits rest)
              (applyEdits file.settings.edits wireless.config.staged) :=
        inductionHypothesis rfl
      rw [applyAll, List.foldl_cons, applied, historyEdits,
        List.flatMap_cons, applyEdits_append, ← settled]
      exact later

theorem initializeDefaultAp_settled
    (serial : Option (List Char))
    (installed : Wireless) :
    (initializeDefaultAp serial installed).config.staged =
      (initializeDefaultAp serial installed).config.committed :=
  rfl

/-! ## The edits of one file -/

theorem edits_cases
    (file : ValidFile) :
    (¬ file.IsStation ∧ file.settings.edits = file.settings.apEdits) ∨
      (file.IsStation ∧ file.settings.edits = file.settings.staEdits) := by
  rcases file.valid with ⟨isAccessPoint, -⟩ | ⟨isStation, -⟩
  · exact .inl ⟨isAccessPoint.not_isStation, if_pos isAccessPoint⟩
  · have notAccessPoint : ¬ (parse file.text).IsAccessPoint :=
      fun isAccessPoint => isAccessPoint.not_isStation isStation
    exact .inr ⟨isStation, if_neg notAccessPoint⟩

/-- The interfaces are deleted. -/
theorem deleteSection_mem_edits
    (file : ValidFile) :
    .deleteSection .defaultRadio0 ∈ file.settings.edits ∧
      .deleteSection .wifinet0 ∈ file.settings.edits := by
  rcases edits_cases file with ⟨-, edits⟩ | ⟨-, edits⟩ <;> rw [edits]
  · simp [Settings.apEdits, accessPointEdits]
  · simp [Settings.staEdits, stationEdits]

/-- The edits leave the radio alone. -/
def SpareRadio (edits : List WirelessEdit) : Prop :=
  ∀ edit ∈ edits,
    edit.Keeps .radio0 ∧ ∀ option, edit.written? .radio0 option = none

theorem spareRadio_encrypted
    (password : List Char) :
    SpareRadio (encrypted password) := by
  simp [SpareRadio, encrypted, Edit.Keeps, Edit.written?]

theorem spareRadio_unencrypted : SpareRadio unencrypted := by
  simp [SpareRadio, unencrypted, Edit.Keeps, Edit.written?]

theorem SpareRadio.keeps
    {edits : List WirelessEdit}
    (spare : SpareRadio edits) :
    ∀ edit ∈ edits, edit.Keeps .radio0 :=
  fun edit member => (spare edit member).1

theorem SpareRadio.lastWritten?
    {edits : List WirelessEdit}
    (spare : SpareRadio edits)
    (option : OptionName) :
    UciStore.lastWritten? .radio0 option edits = none := by
  have nothing : edits.filterMap (Edit.written? .radio0 option) = [] := by
    rw [List.filterMap_eq_nil_iff]
    exact fun edit member => (spare edit member).2 option
  rw [UciStore.lastWritten?, nothing]
  rfl

theorem keeps_accessPointEdits
    (ssid : List Char)
    {security : List WirelessEdit}
    (spare : SpareRadio security) :
    ∀ edit ∈ accessPointEdits ssid security, edit.Keeps .radio0 := by
  simpa [accessPointEdits, Edit.Keeps] using spare.keeps

theorem keeps_stationEdits
    (ssid : List Char)
    {security : List WirelessEdit}
    (spare : SpareRadio security) :
    ∀ edit ∈ stationEdits ssid security, edit.Keeps .radio0 := by
  simpa [stationEdits, Edit.Keeps] using spare.keeps

/-- What an access point writes to the radio: no country. -/
def accessPointRadio : OptionName → Option (Option (List Char))
  | .disabled => some (some "0".toList)
  | .band => some (some "2g".toList)
  | .channel => some (some "6".toList)
  | .htmode => some none
  | _ => none

/-- What a station writes to the radio. -/
def stationRadio : OptionName → Option (Option (List Char))
  | .disabled => some (some "0".toList)
  | .band => some (some "2g".toList)
  | .htmode => some (some "HT20".toList)
  | .channel => some (some "auto".toList)
  | .country => some (some "CN".toList)
  | _ => none

theorem lastWritten?_accessPointEdits
    (ssid : List Char)
    {security : List WirelessEdit}
    (spare : SpareRadio security)
    (option : OptionName) :
    lastWritten? .radio0 option (accessPointEdits ssid security) =
      accessPointRadio option := by
  rw [accessPointEdits, lastWritten?_append, spare.lastWritten?]
  cases option <;> rfl

theorem lastWritten?_stationEdits
    (ssid : List Char)
    {security : List WirelessEdit}
    (spare : SpareRadio security)
    (option : OptionName) :
    lastWritten? .radio0 option (stationEdits ssid security) =
      stationRadio option := by
  rw [stationEdits, lastWritten?_append, spare.lastWritten?]
  cases option <;> rfl

theorem spareRadio_ite
    (condition : Prop)
    [Decidable condition]
    (password : List Char) :
    SpareRadio (if condition then encrypted password else unencrypted) := by
  split
  · exact spareRadio_encrypted password
  · exact spareRadio_unencrypted

/-- The radio is neither made nor deleted. -/
theorem keeps_edits
    (file : ValidFile) :
    ∀ edit ∈ file.settings.edits, edit.Keeps .radio0 := by
  rcases edits_cases file with ⟨-, edits⟩ | ⟨-, edits⟩ <;> rw [edits]
  · exact keeps_accessPointEdits _ (spareRadio_ite _ _)
  · exact keeps_stationEdits _ (spareRadio_ite _ _)

theorem lastWritten?_edits
    (file : ValidFile)
    (option : OptionName) :
    lastWritten? .radio0 option file.settings.edits =
      if file.IsStation then stationRadio option
      else accessPointRadio option := by
  rcases edits_cases file with ⟨mode, edits⟩ | ⟨mode, edits⟩ <;> rw [edits]
  · rw [if_neg mode]
    exact lastWritten?_accessPointEdits _ (spareRadio_ite _ _) option
  · rw [if_pos mode]
    exact lastWritten?_stationEdits _ (spareRadio_ite _ _) option

/-! ## The radio after a history -/

/-- The country stays once a station has set it. -/
theorem lastWritten?_country
    (files : List ValidFile) :
    lastWritten? .radio0 .country (historyEdits files) =
      if ∃ file ∈ files, file.IsStation then some (some "CN".toList)
      else none := by
  induction files with
  | nil =>
      rw [if_neg (by simp)]
      rfl
  | cons file rest inductionHypothesis =>
      rw [historyEdits, List.flatMap_cons, lastWritten?_append,
        lastWritten?_edits]
      rw [historyEdits] at inductionHypothesis
      rw [inductionHypothesis]
      by_cases later : ∃ other ∈ rest, other.IsStation
      · have some : ∃ other ∈ file :: rest, other.IsStation :=
          later.imp fun other found => ⟨.tail _ found.1, found.2⟩
        rw [if_pos later, if_pos some]
        rfl
      · rw [if_neg later, Option.none_or]
        by_cases isStation : file.IsStation
        · rw [if_pos isStation, if_pos ⟨file, .head _, isStation⟩]
          rfl
        · have none : ¬ ∃ other ∈ file :: rest, other.IsStation := by
            rintro ⟨other, member, found⟩
            rcases List.mem_cons.mp member with rfl | member
            · exact isStation found
            · exact later ⟨other, member, found⟩
          rw [if_neg isStation, if_neg none]
          rfl

/-- Every file writes to the same options of the radio, but for the country. -/
theorem lastWritten?_or_history
    (files : List ValidFile)
    (last : ValidFile)
    {option : OptionName}
    (notCountry : option ≠ .country) :
    (lastWritten? .radio0 option last.settings.edits).or
        (lastWritten? .radio0 option (historyEdits files)) =
      lastWritten? .radio0 option last.settings.edits := by
  cases writes : lastWritten? .radio0 option last.settings.edits with
  | some value =>
      rfl
  | none =>
      rw [Option.none_or]
      have nobody
          (file : ValidFile) :
          lastWritten? .radio0 option file.settings.edits = none := by
        rw [lastWritten?_edits] at writes ⊢
        have neither :
            stationRadio option = none ∧ accessPointRadio option = none := by
          split at writes <;> cases option <;>
            simp_all [stationRadio, accessPointRadio]
        rw [neither.1, neither.2, ite_self]
      induction files with
      | nil =>
          rfl
      | cons file rest inductionHypothesis =>
          rw [historyEdits, List.flatMap_cons, lastWritten?_append,
            nobody file, Option.or_none]
          exact inductionHypothesis

theorem historyEdits_concat
    (files : List ValidFile)
    (last : ValidFile) :
    historyEdits (files ++ [last]) =
      historyEdits files ++ last.settings.edits := by
  simp [historyEdits]

theorem keeps_historyEdits
    (files : List ValidFile) :
    ∀ edit ∈ historyEdits files, edit.Keeps .radio0 := by
  intro edit member
  obtain ⟨file, -, inFile⟩ := List.mem_flatMap.mp member
  exact keeps_edits file edit inFile

/-- The radio's options after two histories that end with the same file. -/
theorem radio0_eq_iff
    (first second : List ValidFile)
    (last : ValidFile)
    (package : WirelessPackage) :
    applyEdits (historyEdits (first ++ [last])) package .radio0 =
        applyEdits (historyEdits (second ++ [last])) package .radio0 ↔
      ∀ radio, package .radio0 = some radio →
        ((lastWritten? .radio0 .country last.settings.edits).or
            (lastWritten? .radio0 .country (historyEdits first))).getD
              (radio.options .country) =
          ((lastWritten? .radio0 .country last.settings.edits).or
            (lastWritten? .radio0 .country (historyEdits second))).getD
              (radio.options .country) := by
  rw [applyEdits_of_keeps (keeps_historyEdits _),
    applyEdits_of_keeps (keeps_historyEdits _)]
  cases package .radio0 with
  | none =>
      simp
  | some radio =>
      simp only [Option.map_some, Option.some.injEq, forall_eq',
        historyEdits_concat, Section.written, lastWritten?_append,
        Section.mk.injEq, true_and]
      constructor
      · intro same
        exact congrFun same .country
      · intro sameCountry
        funext option
        by_cases isCountry : option = .country
        · rw [isCountry]
          exact sameCountry
        · rw [lastWritten?_or_history first last isCountry,
            lastWritten?_or_history second last isCountry]

/-- The interfaces never depend on the history. -/
theorem interfaces_eq
    (first second : List ValidFile)
    (last : ValidFile)
    (package : WirelessPackage)
    {name : SectionName}
    (deleted : .deleteSection name ∈ last.settings.edits) :
    applyEdits (historyEdits (first ++ [last])) package name =
      applyEdits (historyEdits (second ++ [last])) package name := by
  rw [historyEdits_concat, historyEdits_concat, applyEdits_append,
    applyEdits_append]
  exact applyEdits_eq_of_deleted deleted _ _

/--
Two histories with the same last file leave the same options, unless that is an
access point and only one history has a station, whose country stays.
-/
theorem sameOptions_iff
    (serial : Option (List Char))
    (installed : Wireless)
    (first second : List ValidFile)
    (last : ValidFile) :
    SameOptions
        (applyAll (first ++ [last]) (initializeDefaultAp serial installed))
        (applyAll (second ++ [last]) (initializeDefaultAp serial installed)) ↔
      last.IsStation ∨
        (∀ radio,
          (initializeDefaultAp serial installed).config.committed .radio0 =
            some radio →
          radio.options .country = some "CN".toList) ∨
        ((∃ file ∈ first, file.IsStation) ↔
          ∃ file ∈ second, file.IsStation) := by
  obtain ⟨start, isStart⟩ :
      ∃ start,
        start = (initializeDefaultAp serial installed).config.committed :=
    ⟨_, rfl⟩
  have settled := initializeDefaultAp_settled serial installed
  have deleted := deleteSection_mem_edits last
  have radioOnly :
      SameOptions
          (applyAll (first ++ [last]) (initializeDefaultAp serial installed))
          (applyAll (second ++ [last])
            (initializeDefaultAp serial installed)) ↔
        applyEdits (historyEdits (first ++ [last])) start .radio0 =
          applyEdits (historyEdits (second ++ [last])) start .radio0 := by
    simp only [SameOptions, List.forall_mem_cons, List.not_mem_nil,
      false_implies, implies_true, and_true,
      committed_applyAll _ settled, ← isStart,
      interfaces_eq first second last start deleted.1,
      interfaces_eq first second last start deleted.2]
  rw [radioOnly, radio0_eq_iff, ← isStart, lastWritten?_edits,
    lastWritten?_country, lastWritten?_country]
  by_cases isStation : last.IsStation
  · rw [if_pos isStation]
    exact iff_of_true (fun _ _ => rfl) (.inl isStation)
  · rw [if_neg isStation]
    simp only [accessPointRadio, Option.none_or, isStation, false_or]
    by_cases inFirst : ∃ file ∈ first, file.IsStation <;>
      by_cases inSecond : ∃ file ∈ second, file.IsStation
    · simp [inFirst, inSecond]
    · simp [inFirst, inSecond, eq_comm]
    · simp [inFirst, inSecond]
    · simp [inFirst, inSecond]

/-- A device with a radio that has no options yet. -/
def radioInstalled : Wireless :=
  let package : WirelessPackage :=
    Function.update (fun _ => none) .radio0
      (some { type := "wifi-device".toList, options := fun _ => none })
  { config := { staged := package, committed := package }
    running := package }

def accessPointFile : ValidFile where
  text := "MODE=ap\nAP_SSID=lab\n".toList
  valid := by decide +kernel

def stationFile : ValidFile where
  text := "MODE=sta\nSTA_SSID=lab\n".toList
  valid := by decide +kernel

/-- The country of the station stays when the access point is applied. -/
theorem sameOptions_differs :
    ¬ SameOptions
        (applyAll [stationFile, accessPointFile]
          (initializeDefaultAp none radioInstalled))
        (applyAll [accessPointFile]
          (initializeDefaultAp none radioInstalled)) := by
  intro same
  have sameCountry :=
    congrArg (Option.map fun radio => radio.options .country)
      (same .radio0 (.head _))
  exact absurd sameCountry (by decide +kernel)

end RecomputerGateway.Wlan
