import ChainRemote.Lib.Pattern
import ChainRemote.Lib.TextFile

/-!
# The custom.txt of a company's installer

The panel writes the settings of a company as JSON and appends them to the base installer, followed
by their length and a marker. Company names and keys are strings of 16-bit units, as JavaScript has
them; the JSON text is well-formed Unicode, since a surrogate that stands alone is escaped.
-/

namespace ChainRemote.Installer.AgentCustomTxt

open Lib

/-- The units of a string that the source spells out. -/
def units (text : String) : List UInt16 := encodeUtf16 text.toList

/-- A unit as an escape. -/
def unicodeEscape (n : ℕ) : List Char :=
  ['\\', 'u', Nat.digitChar (n / 4096 % 16), Nat.digitChar (n / 256 % 16),
    Nat.digitChar (n / 16 % 16), Nat.digitChar (n % 16)]

/-- A code point within a JSON string. -/
def quoteCodePoint : Char ⊕ UInt16 → List Char
  | .inl c =>
    if c = '\x08' then ['\\', 'b']
    else if c = '\t' then ['\\', 't']
    else if c = '\n' then ['\\', 'n']
    else if c = '\x0c' then ['\\', 'f']
    else if c = '\r' then ['\\', 'r']
    else if c = '"' then ['\\', '"']
    else if c = '\\' then ['\\', '\\']
    else if c.toNat < 0x20 then unicodeEscape c.toNat
    else [c]
  | .inr unit => unicodeEscape unit.toNat

/-- A string in JSON. -/
def jsonString (value : List UInt16) : List Char :=
  '"' :: (codePoints value).flatMap quoteCodePoint ++ ['"']

/-- An object in JSON, from its members. -/
def jsonObject (members : List (String × List Char)) : List Char :=
  '{' :: [','].intercalate
    (members.map fun member => jsonString (units member.1) ++ ':' :: member.2) ++ ['}']

/-- The custom.txt of a company. -/
def buildAgentCustomTxt (tenantSlug enrollKey : List UInt16) (unattendedAgent : Bool) :
    List Char :=
  jsonObject <|
    [("conn-type", jsonString (units "incoming")),
      ("tenant-slug", jsonString tenantSlug),
      ("enroll-key", jsonString enrollKey)] ++
    (if unattendedAgent then [("unattended", jsonString (units "Y"))] else []) ++
    [("default-settings",
        jsonObject [("allow-remote-config-modification", jsonString (units "Y"))]),
      ("override-settings",
        jsonObject
          [("approve-mode", jsonString (units (if unattendedAgent then "both" else "click")))])]

/-- The marker at the end of an installer with an overlay. -/
def magic : List Char := "CRENROL1".toList

/-- The installer of a company; none where the base is too small or the length does not fit. -/
def overlay (base : List UInt8) (tenantSlug enrollKey : List UInt16) (unattendedAgent : Bool) :
    Option (List UInt8) :=
  if base.length < 1024 then none
  else
    let cfg := encodeUtf8 (buildAgentCustomTxt tenantSlug enrollKey unattendedAgent)
    if 2147483648 ≤ cfg.length then none
    else some (base ++ cfg ++ toLe 4 cfg.length ++ magic.map fun c => UInt8.ofNat c.toNat)

/-- What is joined is a part of the whole. -/
theorem part_intercalate {parts : List (List Char)} {part : List Char} (member : part ∈ parts)
    (between : List Char) : part <:+: between.intercalate parts := by
  induction parts with
  | nil => cases member
  | cons first rest ih =>
    cases rest with
    | nil =>
      have whole : between.intercalate [first] = part := by
        rw [List.intercalate_singleton, List.mem_singleton.mp member]
      exact whole ▸ List.infix_refl part
    | cons second others =>
      rw [List.intercalate_cons_cons]
      cases List.mem_cons.mp member with
      | inl here =>
        rw [here, List.append_assoc]
        exact (List.prefix_append _ _).isInfix
      | inr later => exact (ih later).trans (List.suffix_append _ _).isInfix

/-- The name of a member is a part of the object. -/
theorem name_part {members : List (String × List Char)} {name : String} {value : List Char}
    (member : (name, value) ∈ members) : jsonString (units name) <:+: jsonObject members := by
  have entry : jsonString (units name) ++ ':' :: value ∈
      members.map fun member => jsonString (units member.1) ++ ':' :: member.2 :=
    List.mem_map.mpr ⟨_, member, rfl⟩
  have inside := part_intercalate entry [',']
  rw [jsonObject]
  exact ((List.prefix_append _ _).isInfix.trans inside).trans
    ((List.suffix_cons _ _).isInfix.trans (List.prefix_append _ _).isInfix)

/-- The settings name the company. -/
theorem tenantSlug_part (tenantSlug enrollKey : List UInt16) (unattendedAgent : Bool) :
    "tenant-slug".toList <:+: buildAgentCustomTxt tenantSlug enrollKey unattendedAgent := by
  have named : "tenant-slug".toList <:+: jsonString (units "tenant-slug") :=
    ⟨['"'], ['"'], by decide⟩
  have member : ("tenant-slug", jsonString tenantSlug) ∈
      [("conn-type", jsonString (units "incoming")), ("tenant-slug", jsonString tenantSlug),
        ("enroll-key", jsonString enrollKey)] := by simp
  exact named.trans (name_part (List.mem_append_left _ (List.mem_append_left _ member)))

/-- The settings name the key. -/
theorem enrollKey_part (tenantSlug enrollKey : List UInt16) (unattendedAgent : Bool) :
    "enroll-key".toList <:+: buildAgentCustomTxt tenantSlug enrollKey unattendedAgent := by
  have named : "enroll-key".toList <:+: jsonString (units "enroll-key") :=
    ⟨['"'], ['"'], by decide⟩
  have member : ("enroll-key", jsonString enrollKey) ∈
      [("conn-type", jsonString (units "incoming")), ("tenant-slug", jsonString tenantSlug),
        ("enroll-key", jsonString enrollKey)] := by simp
  exact named.trans (name_part (List.mem_append_left _ (List.mem_append_left _ member)))

end ChainRemote.Installer.AgentCustomTxt
