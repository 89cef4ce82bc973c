import ChainRemote.Installer.EnrollOverlay

/-!
# What the installer stages

The overlay that the panel appends is staged as it was written, whatever is installed. Without the
marker the bundle or the installed file is staged, except that a marker in another case is taken for
the marker, and that data of a company in another case is taken for data of a company.
-/

namespace ChainRemote.Installer.OverlayRoundTrip

open Lib AgentCustomTxt EnrollOverlay

/-- The bytes of the marker. -/
def markerBytes : List UInt8 := magic.map fun c => UInt8.ofNat c.toNat

/-- Settings of the panel under a marker in any case are an overlay. -/
theorem settings_carried {base tail : List UInt8} (tenantSlug enrollKey : List UInt16)
    (unattendedAgent : Bool) (based : base ≠ [])
    (fits : (encodeUtf8 (buildAgentCustomTxt tenantSlug enrollKey unattendedAgent)).length <
      2147483648)
    (marked : (ascii tail).map lower = magic.map lower) :
    CarriesOverlay
      (base ++ encodeUtf8 (buildAgentCustomTxt tenantSlug enrollKey unattendedAgent) ++
        toLe 4 (encodeUtf8 (buildAgentCustomTxt tenantSlug enrollKey unattendedAgent)).length ++
        tail)
      (encodeUtf8 (buildAgentCustomTxt tenantSlug enrollKey unattendedAgent)) := by
  have filled : encodeUtf8 (buildAgentCustomTxt tenantSlug enrollKey unattendedAgent) ≠ [] := by
    intro empty
    have none := decodeUtf8_encode (buildAgentCustomTxt tenantSlug enrollKey unattendedAgent)
    rw [empty] at none
    cases none
  apply CarriesOverlay.intro _ _ _ based filled fits marked
  · rw [decodeUtf8_encode]
    exact holds_of_part (tenantSlug_part _ _ _)
  · rw [decodeUtf8_encode]
    exact holds_of_part (enrollKey_part _ _ _)

/-- An installer of the panel carries its settings as an overlay. -/
theorem overlay_carried {base setup : List UInt8} {tenantSlug enrollKey : List UInt16}
    {unattendedAgent : Bool}
    (made : overlay base tenantSlug enrollKey unattendedAgent = some setup) :
    CarriesOverlay setup
      (encodeUtf8 (buildAgentCustomTxt tenantSlug enrollKey unattendedAgent)) := by
  unfold overlay at made
  simp only at made
  split at made
  case isTrue => cases made
  case isFalse large =>
    split at made
    case isTrue => cases made
    case isFalse fits =>
      have based : base ≠ [] := List.ne_nil_of_length_pos (by omega)
      rw [← Option.some.inj made]
      exact settings_carried _ _ _ based (by omega) (by decide)

/-- An overlay is staged as it is read. -/
theorem script_carried {disk : Disk} {setup config : List UInt8} (given : disk.setup = some setup)
    (carried : CarriesOverlay setup config) :
    (script disk).stage = some (writeAllText (decodeUtf8 config)) := by
  rw [script_stage, extract_carried given carried, write]

/-- The installed file is staged. -/
def StagesInstalled (disk : Disk) : Prop :=
  ∃ file, disk.existing = some file ∧ (extract disk).1 = .installed (readAllText file)

/-- The bundle or the installed file is staged, the latter exactly when it has data of a company. -/
def FallsBack (disk : Disk) : Prop :=
  ((extract disk).1 = .bundled ∨ StagesInstalled disk) ∧
    (StagesInstalled disk ↔
      ∃ file, disk.existing = some file ∧ TenantData exactly (readAllText file))

/-- Whatever data of a company the installed file has is in the case that the agent reads. -/
def SpelledAsRead (disk : Disk) : Prop :=
  ∀ file, disk.existing = some file → TenantData ignoringCase (readAllText file) →
    TenantData exactly (readAllText file)

/-- Without an overlay the script stages the installed file where it has data of a company in any
case. -/
theorem stagesInstalled_bare {disk : Disk} {setup : List UInt8} (given : disk.setup = some setup)
    (bare : ¬ ∃ config, CarriesOverlay setup config) :
    StagesInstalled disk ↔
      ∃ file, disk.existing = some file ∧ TenantData ignoringCase (readAllText file) := by
  unfold StagesInstalled
  rw [extract_bare given bare]
  cases disk.existing with
  | none =>
    constructor
    · rintro ⟨file, impossible, -⟩
      cases impossible
    · rintro ⟨file, impossible, -⟩
      cases impossible
  | some file =>
    rw [preserve_some]
    constructor
    · rintro ⟨other, same, kept⟩
      cases same
      by_cases data : TenantData ignoringCase (readAllText file)
      · exact ⟨file, rfl, data⟩
      · rw [if_neg data] at kept
        cases kept
    · rintro ⟨other, same, data⟩
      cases same
      exact ⟨file, rfl, if_pos data⟩

/-- Without an overlay the script stages the bundle or the installed file. -/
theorem bundled_or_installed {disk : Disk} {setup : List UInt8} (given : disk.setup = some setup)
    (bare : ¬ ∃ config, CarriesOverlay setup config) :
    (extract disk).1 = .bundled ∨ StagesInstalled disk := by
  by_cases kept : StagesInstalled disk
  · exact .inr kept
  · left
    rw [stagesInstalled_bare given bare] at kept
    rw [extract_bare given bare]
    cases installed : disk.existing with
    | none => rfl
    | some file => rw [preserve_some, if_neg fun data => kept ⟨file, installed, data⟩]

/-- The script falls back as it should exactly when the setup file has no overlay under a marker in
another case and the installed file has no data of a company in another case only. -/
theorem fallsBack_iff {disk : Disk} {setup : List UInt8} (given : disk.setup = some setup) :
    FallsBack disk ↔ (¬ ∃ config, CarriesOverlay setup config) ∧ SpelledAsRead disk := by
  constructor
  · rintro ⟨either, exact⟩
    have bare : ¬ ∃ config, CarriesOverlay setup config := by
      rintro ⟨config, carried⟩
      have staged : (extract disk).1 = .overlay (decodeUtf8 config) := by
        rw [extract_carried given carried]
      cases either with
      | inl bundled =>
        rw [staged] at bundled
        cases bundled
      | inr installed =>
        obtain ⟨file, -, kept⟩ := installed
        rw [staged] at kept
        cases kept
    refine ⟨bare, fun file installed data => ?_⟩
    obtain ⟨other, same, spelled⟩ :=
      exact.mp ((stagesInstalled_bare given bare).mpr ⟨file, installed, data⟩)
    rw [installed] at same
    cases same
    exact spelled
  · rintro ⟨bare, spelled⟩
    refine ⟨bundled_or_installed given bare, ?_⟩
    rw [stagesInstalled_bare given bare]
    constructor
    · rintro ⟨file, installed, data⟩
      exact ⟨file, installed, spelled file installed data⟩
    · rintro ⟨file, installed, data⟩
      exact ⟨file, installed, data.widen⟩

/-- An installer of the panel stages its settings as they were written, whatever is installed. Any
other setup file falls back exactly when it has no overlay, whatever the case of its marker, and the
installed file has no data of a company in another case only. -/
theorem overlay_round_trip_iff (base setup : List UInt8) (tenantSlug enrollKey : List UInt16)
    (unattendedAgent : Bool) (made : overlay base tenantSlug enrollKey unattendedAgent = some setup)
    (disk : Disk) (given : disk.setup = some setup) (plain : List UInt8) (other : Disk)
    (otherGiven : other.setup = some plain) :
    (script disk).stage =
        some (encodeUtf8 (buildAgentCustomTxt tenantSlug enrollKey unattendedAgent)) ∧
      (FallsBack other ↔ (¬ ∃ config, CarriesOverlay plain config) ∧ SpelledAsRead other) := by
  constructor
  · rw [script_carried given (overlay_carried made), decodeUtf8_encode, writeAllText]
  · exact fallsBack_iff otherGiven

/-- A file that starts with zeros and has no overlay. -/
def plainSetup : List UInt8 := List.replicate 20 0

/-- Settings of an agent without a key and with unattended access, in the case given. -/
def unattendedFile (answer : String) : List UInt8 :=
  encodeUtf8 (jsonObject [("conn-type", jsonString (units "incoming")),
    ("unattended", jsonString (units answer))])

theorem plainSetup_bare : ¬ ∃ config, CarriesOverlay plainSetup config := by
  rintro ⟨config, carried⟩
  have read := readOverlay_carried carried
  have nothing : readOverlay plainSetup = none := by decide +kernel
  rw [nothing] at read
  cases read

/-- The installer of a shop, and an update over an agent with unattended access. -/
theorem shop_round_trip :
    ∃ setup, overlay (List.replicate 1024 0) (units "shop") (units "key") true = some setup ∧
      (script ⟨some setup, none, some (unattendedFile "Y"), false⟩).stage =
        some (encodeUtf8 (buildAgentCustomTxt (units "shop") (units "key") true)) ∧
      ¬ markerBytes <:+ plainSetup ∧
      FallsBack ⟨some plainSetup, none, some (unattendedFile "Y"), false⟩ := by
  have isMade :
      (overlay (List.replicate 1024 0) (units "shop") (units "key") true).isSome = true := by
    decide +kernel
  have unmarked : ¬ markerBytes <:+ plainSetup := by decide +kernel
  obtain ⟨setup, made⟩ := Option.isSome_iff_exists.mp isMade
  have exact := overlay_round_trip_iff _ _ _ _ _ made
    ⟨some setup, none, some (unattendedFile "Y"), false⟩ rfl plainSetup
    ⟨some plainSetup, none, some (unattendedFile "Y"), false⟩ rfl
  refine ⟨setup, made, exact.1, unmarked, exact.2.mpr ⟨plainSetup_bare, fun file installed _ => ?_⟩⟩
  cases installed
  decide +kernel

/-- The marker in lower case. -/
def loweredMarker : List UInt8 := "crenrol1".toList.map fun c => UInt8.ofNat c.toNat

/-- A setup file whose marker is in lower case. -/
def loweredSetup : List UInt8 :=
  let config := encodeUtf8 (buildAgentCustomTxt (units "shop") (units "key") true)
  [0] ++ config ++ toLe 4 config.length ++ loweredMarker

/-- A marker in lower case is taken for the marker, and an answer in lower case for unattended
access. -/
theorem other_case_taken :
    ¬ markerBytes <:+ loweredSetup ∧ ¬ FallsBack ⟨some loweredSetup, none, none, false⟩ ∧
    ¬ markerBytes <:+ plainSetup ∧
    ¬ FallsBack ⟨some plainSetup, none, some (unattendedFile "y"), false⟩ := by
  refine ⟨by decide +kernel, ?_, by decide +kernel, ?_⟩
  · intro back
    have carried : CarriesOverlay loweredSetup
        (encodeUtf8 (buildAgentCustomTxt (units "shop") (units "key") true)) :=
      settings_carried _ _ _ (List.cons_ne_nil _ _) (by decide +kernel) (by decide +kernel)
    exact ((fallsBack_iff rfl).mp back).1 ⟨_, carried⟩
  · intro back
    have spelled := ((fallsBack_iff rfl).mp back).2 (unattendedFile "y") rfl (by decide +kernel)
    revert spelled
    decide +kernel

end ChainRemote.Installer.OverlayRoundTrip
