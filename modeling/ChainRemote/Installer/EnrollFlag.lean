import Mathlib.Tactic.Tauto
import ChainRemote.Installer.EnrollOverlay

/-!
# The warning about a missing key

The script leaves a flag for the installer, which tells a human that the agent will never enroll.
The exits of the script without an overlay do not reach the verdict, so that there the flag stays as
an earlier run left it.
-/

namespace ChainRemote.Installer.EnrollFlag

open Lib AgentCustomTxt EnrollOverlay

/-- The text has an enrollment key that is not empty. -/
def HasKey (text : List Char) : Prop := Holds (enrollKeyPattern exactly) text

/-- The flag is there exactly when the staged file has no key. -/
def Truthful (disk : Disk) : Prop := disk.flag = true ↔ ¬ HasKey (stagedText disk)

/-- The text that is staged without an overlay: that of the installed file if it has data of a
company, else that of the bundle. -/
def fallbackText (disk : Disk) : List Char :=
  match disk.existing with
  | none => stagedText disk
  | some file =>
    if TenantData ignoringCase (readAllText file) then readAllText file else stagedText disk

/-- A text that was written has a key when it is read again exactly when it had one. -/
theorem key_rewritten {same : Char → Char → Bool} (other : same '"' '\uFEFF' = false)
    (text : List Char) :
    Holds (enrollKeyPattern same) (readAllText (writeAllText text)) ↔
      Holds (enrollKeyPattern same) text := by
  cases readAllText_write text with
  | inl same => rw [same]
  | inr marked =>
    conv => rhs; rw [marked]
    exact (holds_cons other _).symm

/-- The verdict is right where a key is there in any case only if it is there in the case that is
read. -/
theorem truthful_verdict (disk : Disk) :
    Truthful (verdict disk) ↔
      (Holds (enrollKeyPattern ignoringCase) (stagedText disk) → HasKey (stagedText disk)) := by
  have widen : HasKey (stagedText disk) → Holds (enrollKeyPattern ignoringCase) (stagedText disk) :=
    enrollKey_widen
  rw [← found_iff] at widen ⊢
  change ((!found (enrollKeyPattern ignoringCase) (stagedText disk)) = true ↔
    ¬ HasKey (stagedText disk)) ↔ _
  rw [Bool.not_eq_true', ← Bool.not_eq_true]
  tauto

/-- Without an overlay the staged file has a key exactly when the fallback has. -/
theorem key_preserved (disk : Disk) :
    HasKey (stagedText (write disk (preserve disk.existing))) ↔ HasKey (fallbackText disk) := by
  unfold fallbackText
  cases disk.existing with
  | none => rfl
  | some file =>
    rw [preserve_some]
    by_cases data : TenantData ignoringCase (readAllText file)
    · simp only
      rw [if_pos data, if_pos data]
      exact key_rewritten (by decide) _
    · simp only
      rw [if_neg data, if_neg data]
      rfl

/-- After an overlay was staged, the flag is truthful exactly when the key of the overlay, if it has
one, is in the case that is read. -/
theorem truthful_overlaid {disk : Disk} {setup config : List UInt8}
    (given : disk.setup = some setup) (carried : CarriesOverlay setup config) :
    Truthful (script disk) ↔
      (Holds (enrollKeyPattern ignoringCase) (decodeUtf8 config) → HasKey (decodeUtf8 config)) := by
  have ended : script disk = verdict (write disk (.overlay (decodeUtf8 config))) := by
    rw [script, extract_carried given carried]
    rfl
  have staged : stagedText (write disk (.overlay (decodeUtf8 config))) =
      readAllText (writeAllText (decodeUtf8 config)) := rfl
  rw [ended, truthful_verdict, staged, key_rewritten (by decide), HasKey,
    key_rewritten (by decide), HasKey]

/-- Without an overlay the flag is truthful exactly when it already told whether the fallback has a
key. -/
theorem truthful_bare {disk : Disk} {setup : List UInt8} (given : disk.setup = some setup)
    (bare : ¬ ∃ config, CarriesOverlay setup config) :
    Truthful (script disk) ↔ (disk.flag = true ↔ ¬ HasKey (fallbackText disk)) := by
  have ended : script disk = write disk (preserve disk.existing) := by
    rw [script, extract_bare given bare]
    rfl
  have kept (staged : Staged) : (write disk staged).flag = disk.flag := by
    cases staged <;> rfl
  rw [Truthful, ended, kept, key_preserved]

/-- After the script the flag is truthful exactly when the setup file has an overlay whose key, if
it has one, is in the case that is read, or the setup file has no overlay and the flag already told
whether the fallback has a key. -/
theorem flag_truthful_iff (setup : List UInt8) (stage existing : Option (List UInt8))
    (flag : Bool) :
    Truthful (script ⟨some setup, stage, existing, flag⟩) ↔
      (∃ config, CarriesOverlay setup config ∧
        (Holds (enrollKeyPattern ignoringCase) (decodeUtf8 config) → HasKey (decodeUtf8 config))) ∨
      (¬ ∃ config, CarriesOverlay setup config) ∧
        (flag = true ↔ ¬ HasKey (fallbackText ⟨some setup, stage, existing, flag⟩)) := by
  by_cases overlaid : ∃ config, CarriesOverlay setup config
  · obtain ⟨config, carried⟩ := overlaid
    rw [truthful_overlaid rfl carried]
    constructor
    · intro spelled
      exact .inl ⟨config, carried, spelled⟩
    · rintro (⟨other, also, spelled⟩ | ⟨bare, -⟩)
      · have same := Option.some.inj ((readOverlay_carried carried).symm.trans
          (readOverlay_carried also))
        rw [same]
        exact spelled
      · exact (bare ⟨config, carried⟩).elim
  · rw [truthful_bare rfl overlaid]
    constructor
    · intro told
      exact .inr ⟨overlaid, told⟩
    · rintro (⟨config, carried, -⟩ | ⟨-, told⟩)
      · exact (overlaid ⟨config, carried⟩).elim
      · exact told

/-- The bundled settings, whose key is empty. -/
def bundle : List UInt8 :=
  encodeUtf8 (buildAgentCustomTxt (units "betaposlab") [] false)

/-- An installer whose end was lost on the way, on a machine without an agent: the bundle has no
key, and no flag tells. -/
theorem lost_tail_untold :
    (script ⟨some (List.replicate 20 0), some bundle, none, false⟩).flag = false ∧
      ¬ Truthful (script ⟨some (List.replicate 20 0), some bundle, none, false⟩) := by
  have silent : (script ⟨some (List.replicate 20 0), some bundle, none, false⟩).flag = false := by
    decide +kernel
  have keyless : ¬ HasKey
      (stagedText (script ⟨some (List.replicate 20 0), some bundle, none, false⟩)) := by
    rw [HasKey, ← found_iff]
    decide +kernel
  refine ⟨silent, fun truthful => ?_⟩
  have told := truthful.mpr keyless
  rw [silent] at told
  cases told

end ChainRemote.Installer.EnrollFlag
