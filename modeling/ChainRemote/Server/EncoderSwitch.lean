import ChainRemote.Lib.Lowercase
import ChainRemote.Lib.Machine
import ChainRemote.Server.EncoderChoice
import Mathlib.Logic.Function.Basic

/-!
# Encoders and the peers they encode for

The connections tell `Encoder` what their peers decode, and every video service sets up an encoder
for the format that was negotiated and checks before each frame that it still is. The format is one
for all services and is also what an encoder falls back to. Each lock is one step.

The services set a format that they read before: a peer that comes between the two, or another
service that sets one before the first reads back, is what the runs of the theorem leave out.
-/

namespace ChainRemote.Server.EncoderSwitch

open Lib EncoderChoice

/-! ## Configurations -/

/-- `VpxVideoCodecId`. -/
inductive VpxVideoCodecId
  | vp8
  | vp9
deriving DecidableEq

/-- `DataFormat` of the crate hwcodec. -/
inductive DataFormat
  | h264
  | h265
  | other
deriving DecidableEq

/-- `EncoderCfg`, as far as it names a format. -/
inductive EncoderCfg
  | vpx (codec : VpxVideoCodecId)
  | aom
  | hwRam (name : List Char)
  | vRam (dataFormat : DataFormat)
deriving DecidableEq

/-- The crate's encoders in memory: which name has which format, and how Rust lowers a name. -/
structure Names where
  lowercase : Lowercase
  /-- `Encoder::format_from_name`. -/
  formatFromName : List Char → Option DataFormat

variable (names : Names)

/-- `name.contains(pattern)` after `to_lowercase`. -/
def Names.contains (name : List Char) (pattern : List Char) : Bool :=
  decide (pattern <:+: names.lowercase.toLowercase name)

/-- What `set_fallback` makes of a configuration; `none` where it returns. -/
def EncoderCfg.fallbackFormat : EncoderCfg → Option CodecFormat
  | .vpx .vp8 => some .vp8
  | .vpx .vp9 => some .vp9
  | .aom => some .av1
  | .hwRam name =>
    if names.contains name "vp8".toList then some .vp8
    else if names.contains name "vp9".toList then some .vp9
    else if names.contains name "av1".toList then some .av1
    else if names.contains name "h264".toList then some .h264
    else some .h265
  | .vRam .h264 => some .h264
  | .vRam .h265 => some .h265
  | .vRam .other => none

/-- The format of the frames that an encoder of this configuration makes; `none` where it makes
none. -/
def EncoderCfg.frames : EncoderCfg → Option CodecFormat
  | .vpx .vp8 => some .vp8
  | .vpx .vp9 => some .vp9
  | .aom => some .av1
  | .hwRam name =>
    match names.formatFromName name with
    | some .h264 => some .h264
    | some .h265 => some .h265
    | _ => none
  | .vRam .h264 => some .h264
  | .vRam .h265 => some .h265
  | .vRam .other => none

/-- `get_encoder_config` for a negotiated format, after `VRamEncoder::try_get` found an encoder or
not and `HwRamEncoder::try_get` returned a name or not. -/
def getEncoderConfig (vram : Bool) (hw : Option (List Char)) : CodecFormat → EncoderCfg
  | .h264 =>
    if vram then .vRam .h264
    else match hw with
      | some name => .hwRam name
      | none => .vpx .vp9
  | .h265 =>
    if vram then .vRam .h265
    else match hw with
      | some name => .hwRam name
      | none => .vpx .vp9
  | .vp8 => .vpx .vp8
  | .vp9 => .vpx .vp9
  | .av1 => .aom
  | .unknown => .vpx .vp9

/-- The crate's law for the encoder it has for a format: it encodes in the format, and its name
tells. -/
def Names.Tells (format : CodecFormat) (name : List Char) : Prop :=
  (EncoderCfg.hwRam name).frames names = some format ∧
    ¬ HasIgnoringCase "vp8".toList name ∧ ¬ HasIgnoringCase "vp9".toList name ∧
      ¬ HasIgnoringCase "av1".toList name ∧
      (format = .h264 ↔ HasIgnoringCase "h264".toList name)

/-- The configuration falls back to the format of its own frames. -/
def EncoderCfg.Told (cfg : EncoderCfg) (format : CodecFormat) : Prop :=
  cfg.frames names = some format ∧ cfg.fallbackFormat names = some format

variable {names}

theorem contains_iff {name pattern : List Char} (plain : ∀ d ∈ pattern, PlainLetter d) :
    names.contains name pattern = true ↔ HasIgnoringCase pattern name := by
  unfold Names.contains
  rw [decide_eq_true_iff]
  exact names.lowercase.infix_iff plain [] name []

/-- A name that tells falls back to what it encodes. -/
theorem told_of_tells {format : CodecFormat} {name : List Char} (tells : names.Tells format name) :
    (EncoderCfg.hwRam name).Told names format := by
  obtain ⟨encodes, vp8, vp9, av1, h264⟩ := tells
  refine ⟨encodes, ?_⟩
  unfold EncoderCfg.fallbackFormat
  dsimp only
  rw [if_neg (mt (contains_iff (plain_of_all (by decide))).mp vp8),
    if_neg (mt (contains_iff (plain_of_all (by decide))).mp vp9),
    if_neg (mt (contains_iff (plain_of_all (by decide))).mp av1)]
  have either : format = .h264 ∨ format = .h265 := by
    unfold EncoderCfg.frames at encodes
    dsimp only at encodes
    split at encodes
    · exact .inl (Option.some.inj encodes).symm
    · exact .inr (Option.some.inj encodes).symm
    · cases encodes
  by_cases named : HasIgnoringCase "h264".toList name
  · rw [if_pos ((contains_iff (plain_of_all (by decide))).mpr named), h264.mpr named]
  · rw [if_neg (mt (contains_iff (plain_of_all (by decide))).mp named)]
    rcases either with rfl | rfl
    · exact absurd (h264.mp rfl) named
    · rfl

/-- The configuration for a format is told apart: it makes VP9 or that format. -/
theorem getEncoderConfig_told (vram : Bool) {hw : Option (List Char)} {format : CodecFormat}
    (tells : ∀ name ∈ hw, names.Tells format name) :
    (getEncoderConfig vram hw format).Told names .vp9 ∨
      (getEncoderConfig vram hw format).Told names format := by
  cases format with
  | vp8 => exact .inr ⟨rfl, rfl⟩
  | vp9 => exact .inr ⟨rfl, rfl⟩
  | av1 => exact .inr ⟨rfl, rfl⟩
  | unknown => exact .inl ⟨rfl, rfl⟩
  | h264 =>
    cases vram with
    | true => exact .inr ⟨rfl, rfl⟩
    | false =>
      cases hw with
      | none => exact .inl ⟨rfl, rfl⟩
      | some name => exact .inr (told_of_tells (tells name rfl))
  | h265 =>
    cases vram with
    | true => exact .inr ⟨rfl, rfl⟩
    | false =>
      cases hw with
      | none => exact .inl ⟨rfl, rfl⟩
      | some name => exact .inr (told_of_tells (tells name rfl))

/-! ## The services and the peers -/

/-- `EncodingUpdate`. -/
inductive EncodingUpdate
  | update (id : Int) (decoding : SupportedDecoding)
  | remove (id : Int)
  | newOnlyVP9 (id : Int)
  | check
deriving DecidableEq

/-- The entries of `PEER_DECODINGS` after an update. -/
def EncodingUpdate.apply (decodings : List (Int × SupportedDecoding)) :
    EncodingUpdate → List (Int × SupportedDecoding)
  | .update id decoding => (id, decoding) :: decodings.filter fun entry => entry.1 != id
  | .remove id => decodings.filter fun entry => entry.1 != id
  | .newOnlyVP9 id =>
    (id, { abilityVp9 := 1 }) :: decodings.filter fun entry => entry.1 != id
  | .check => decodings

/-- The update brings what a peer decodes. -/
def EncodingUpdate.brings : EncodingUpdate → Bool
  | .update .. => true
  | .newOnlyVP9 _ => true
  | .remove _ => false
  | .check => false

/-- `use_i444`, for what the peers decode. -/
def useI444 (peers : List SupportedDecoding) (cfg : EncoderCfg) : Bool :=
  let preferI444 := peers.all fun s => s.preferChroma == .known .i444
  let i444Useable := match cfg with
    | .vpx .vp8 => false
    | .vpx .vp9 => peers.all (·.i444.vp9)
    | .aom => peers.all (·.i444.av1)
    | .hwRam _ => false
    | .vRam _ => false
  preferI444 && i444Useable && !peers.isEmpty

/-- Where a video service is with its encoder: in `setup_encoder`, or in the loop. -/
inductive Phase
  /-- There is no encoder, and none is being set up. -/
  | stopped
  /-- `get_encoder_config` returned. -/
  | configured (cfg : EncoderCfg)
  /-- `set_fallback` returned. -/
  | fallen (cfg : EncoderCfg)
  /-- `codec_format` and `use_i444` are read. -/
  | ready (cfg : EncoderCfg) (codecFormat : CodecFormat) (useI444 : Bool)
  /-- `setup_encoder` failed, for the first time. -/
  | failed
  /-- At the top of the loop. -/
  | running (cfg : EncoderCfg) (codecFormat : CodecFormat) (useI444 : Bool)
  /-- The format is still the negotiated one. -/
  | checked (cfg : EncoderCfg) (codecFormat : CodecFormat) (useI444 : Bool)
  /-- So is the chroma. -/
  | cleared (cfg : EncoderCfg) (codecFormat : CodecFormat) (useI444 : Bool)
deriving DecidableEq

/-- The shared state and the services. -/
structure State where
  /-- `PEER_DECODINGS`, in some order. -/
  decodings : List (Int × SupportedDecoding)
  /-- `ENCODE_CODEC_FORMAT`. -/
  format : CodecFormat
  /-- `USABLE_ENCODING`. -/
  usable : Option SupportedEncoding
  services : Nat → Phase

/-- What the peers decode. -/
def State.peers (s : State) : List SupportedDecoding := s.decodings.map Prod.snd

/-- A service goes on. -/
def State.go (s : State) (i : Nat) (phase : Phase) : State :=
  { s with services := Function.update s.services i phase }

/-- What takes a lock, or ends an encoder. -/
inductive Event
  /-- `Encoder::update`, with the entries in the order of the map afterwards. -/
  | update (change : EncodingUpdate) (encoders : Encoders) (order : List (Int × SupportedDecoding))
  /-- `get_encoder_config` reads the format and asks for encoders. -/
  | configure (i : Nat) (vram : Bool) (hw : Option (List Char))
  | setFallback (i : Nat)
  /-- `negotiated_codec` and `use_i444` in `setup_encoder`. -/
  | read (i : Nat)
  /-- `Encoder::new`. -/
  | create (i : Nat) (ok : Bool)
  /-- After the first failure `run` falls back to VP9, and sets up again. -/
  | fallBack (i : Nat)
  /-- The check of the format in the loop. -/
  | checkFormat (i : Nat)
  /-- The check of the chroma. -/
  | checkChroma (i : Nat)
  /-- A frame is encoded and sent. -/
  | frame (i : Nat)
  /-- An error, a switch for another reason, or the end of the service. -/
  | stop (i : Nat)

variable (names)

/-- The step of an event; `none` where it cannot happen. -/
def step (s : State) : Event → Option State
  | .update change encoders order =>
    if order.Perm (change.apply s.decodings) then
      some { s with
        decodings := order
        format := encoders.negotiate (order.map Prod.snd)
        usable := some (encoders.usable (order.map Prod.snd)) }
    else none
  | .configure i vram hw =>
    match s.services i with
    | .stopped => some (s.go i (.configured (getEncoderConfig vram hw s.format)))
    | _ => none
  | .setFallback i =>
    match s.services i with
    | .configured cfg =>
      some { s.go i (.fallen cfg) with format := (cfg.fallbackFormat names).getD s.format }
    | _ => none
  | .read i =>
    match s.services i with
    | .fallen cfg => some (s.go i (.ready cfg s.format (useI444 s.peers cfg)))
    | _ => none
  | .create i ok =>
    match s.services i with
    | .ready cfg codecFormat i444 =>
      if ok then some (s.go i (.running cfg codecFormat i444))
      else
        match cfg with
        | .hwRam _ => some { s.go i .failed with format := .vp9 }
        | .vRam _ => some { s.go i .failed with format := .vp9 }
        | _ => some (s.go i .failed)
    | _ => none
  | .fallBack i =>
    match s.services i with
    | .failed => some { s.go i .stopped with format := .vp9 }
    | _ => none
  | .checkFormat i =>
    match s.services i with
    | .running cfg codecFormat i444 =>
      if codecFormat = s.format then some (s.go i (.checked cfg codecFormat i444))
      else some (s.go i .stopped)
    | _ => none
  | .checkChroma i =>
    match s.services i with
    | .checked cfg codecFormat i444 =>
      if useI444 s.peers cfg = i444 then some (s.go i (.cleared cfg codecFormat i444))
      else some (s.go i .stopped)
    | _ => none
  | .frame i =>
    match s.services i with
    | .cleared cfg codecFormat i444 => some (s.go i (.running cfg codecFormat i444))
    | _ => none
  | .stop i => some (s.go i .stopped)

/-- The statics at the start of the process. -/
def start : State where
  decodings := []
  format := .vp9
  usable := none
  services _ := .stopped

/-- The services and the peers, interleaved. -/
def encoderSwitch : Machine State Event where
  start s := s = start
  step := step names

/-- The runs of the theorem: no peer brings what it decodes while a service is between its
configuration and `set_fallback`, what a service set it reads back, and the crate's names tell. -/
def Orderly (s : State) : Event → Prop
  | .update change _ _ => change.brings = true → ∀ i cfg, s.services i ≠ .configured cfg
  | .configure _ _ hw => ∀ name ∈ hw, names.Tells s.format name
  | .read i => ∀ cfg, s.services i = .fallen cfg → cfg.fallbackFormat names = some s.format
  | _ => True

/-- What holds of a service: its configuration tells its format, which all peers understand as long
as it is still to be set, and which it compares with the negotiated one. -/
def Phase.Fits (peers : List SupportedDecoding) : Phase → Prop
  | .stopped => True
  | .configured cfg => ∃ format, cfg.Told names format ∧ Understood peers format
  | .fallen cfg => ∃ format, cfg.Told names format
  | .ready cfg codecFormat _ => cfg.Told names codecFormat
  | .failed => True
  | .running cfg codecFormat _ => cfg.Told names codecFormat
  | .checked cfg codecFormat _ => cfg.Told names codecFormat
  | .cleared cfg codecFormat _ => cfg.Told names codecFormat

/-- What every orderly run keeps. -/
structure Sound (s : State) : Prop where
  understood : Understood s.peers s.format
  services : ∀ i, (s.services i).Fits names s.peers

variable {names}

/-- Fewer peers understand no less. -/
theorem understood_of_subset {peers others : List SupportedDecoding} (fewer : others ⊆ peers)
    {format : CodecFormat} (understood : Understood peers format) : Understood others format :=
  understood.imp id fun all s inside => all s (fewer inside)

/-- Fewer peers leave a service as it is, and so do others where nothing is to be set. -/
theorem Phase.Fits.others {phase : Phase} {peers others : List SupportedDecoding}
    (fits : phase.Fits names peers)
    (fewer : others ⊆ peers ∨ ∀ cfg, phase ≠ .configured cfg) : phase.Fits names others := by
  cases phase with
  | configured cfg =>
    obtain ⟨format, told, understood⟩ := fits
    rcases fewer with fewer | settled
    · exact ⟨format, told, understood_of_subset fewer understood⟩
    · exact absurd rfl (settled cfg)
  | _ => exact fits

/-- Updates that bring nothing leave no new peers. -/
theorem apply_subset {change : EncodingUpdate} (quiet : change.brings = false)
    (decodings : List (Int × SupportedDecoding)) : change.apply decodings ⊆ decodings := by
  cases change with
  | update id decoding => cases quiet
  | newOnlyVP9 id => cases quiet
  | remove id => exact List.filter_subset_self _
  | check => exact List.Subset.refl _

/-- A service that goes on leaves the peers, and the others. -/
theorem Sound.go {s : State} (sound : Sound names s) {i : Nat} {phase : Phase}
    (fits : phase.Fits names s.peers) : Sound names (s.go i phase) := by
  refine ⟨sound.understood, fun j => ?_⟩
  show (Function.update s.services i phase j).Fits names s.peers
  by_cases own : j = i
  · rw [own, Function.update_self]
    exact fits
  · rw [Function.update_of_ne own]
    exact sound.services j

/-- So does a format that all peers understand. -/
theorem Sound.set {s : State} (sound : Sound names s) {format : CodecFormat}
    (understood : Understood s.peers format) : Sound names { s with format } :=
  ⟨understood, sound.services⟩

/-- Every orderly step leaves the state sound. -/
theorem Sound.step {s t : State} {e : Event} (sound : Sound names s) (orderly : Orderly names s e)
    (next : EncoderSwitch.step names s e = some t) : Sound names t := by
  have vp9 : Understood s.peers .vp9 := .inl rfl
  have stopped : Phase.stopped.Fits names s.peers := trivial
  have failed : Phase.failed.Fits names s.peers := trivial
  cases e with
  | update change encoders order =>
    simp only [EncoderSwitch.step] at next
    split at next
    · rename_i same
      cases next
      refine ⟨negotiate_understood encoders _, fun i => (sound.services i).others ?_⟩
      cases brings : change.brings with
      | true => exact .inr (orderly brings i)
      | false =>
        refine .inl (List.map_subset _ fun entry inside => ?_)
        exact apply_subset brings _ (same.mem_iff.mp inside)
    · cases next
  | configure i vram hw =>
    simp only [EncoderSwitch.step] at next
    split at next
    · cases next
      refine sound.go ?_
      rcases getEncoderConfig_told vram orderly with told | told
      · exact ⟨.vp9, told, vp9⟩
      · exact ⟨s.format, told, sound.understood⟩
    · cases next
  | setFallback i =>
    simp only [EncoderSwitch.step] at next
    split at next
    · rename_i cfg at'
      cases next
      have fits := sound.services i
      rw [at'] at fits
      obtain ⟨format, told, understood⟩ := fits
      have fits : (Phase.fallen cfg).Fits names s.peers := ⟨format, told⟩
      rw [told.2]
      exact (sound.go fits).set understood
    · cases next
  | read i =>
    simp only [EncoderSwitch.step] at next
    split at next
    · rename_i cfg at'
      cases next
      have fits := sound.services i
      rw [at'] at fits
      obtain ⟨format, told⟩ := fits
      have same : s.format = format := Option.some.inj ((orderly cfg at').symm.trans told.2)
      exact sound.go (same ▸ told)
    · cases next
  | create i ok =>
    simp only [EncoderSwitch.step] at next
    split at next
    · rename_i cfg codecFormat i444 at'
      have fits := sound.services i
      rw [at'] at fits
      split at next
      · cases next
        exact sound.go fits
      · split at next <;> cases next
        · exact (sound.go failed).set vp9
        · exact (sound.go failed).set vp9
        · exact sound.go failed
    · cases next
  | fallBack i =>
    simp only [EncoderSwitch.step] at next
    split at next
    · cases next
      exact (sound.go stopped).set vp9
    · cases next
  | checkFormat i =>
    simp only [EncoderSwitch.step] at next
    split at next
    · rename_i cfg codecFormat i444 at'
      have fits := sound.services i
      rw [at'] at fits
      split at next
      · cases next
        exact sound.go fits
      · cases next
        exact sound.go trivial
    · cases next
  | checkChroma i =>
    simp only [EncoderSwitch.step] at next
    split at next
    · rename_i cfg codecFormat i444 at'
      have fits := sound.services i
      rw [at'] at fits
      split at next
      · cases next
        exact sound.go fits
      · cases next
        exact sound.go trivial
    · cases next
  | frame i =>
    simp only [EncoderSwitch.step] at next
    split at next
    · rename_i cfg codecFormat i444 at'
      have fits := sound.services i
      rw [at'] at fits
      cases next
      exact sound.go fits
    · cases next
  | stop i =>
    cases next
    exact sound.go trivial

variable (names)

/-- A machine without hardware encoders. -/
def software : Encoders where
  disableAv1 := false
  vramOption := false
  vramAvailable _ := false
  hwcodecOption := false
  hwTryGet _ := none
  av1Test := ['Y']
  totalMemory := 16 * 1024 * 1024 * 1024

/-- A peer that decodes AV1 and prefers it. -/
def modern : SupportedDecoding :=
  { abilityVp9 := 1, abilityAv1 := 1, prefer := .known .av1 }

/-- Two such peers, a service that sets up an encoder for them, and its checks. -/
theorem two_modern : ∃ s, (encoderSwitch names).Reaches (Orderly names) s ∧
    s.services 0 = .cleared .aom .av1 false ∧ s.peers = [modern, modern] := by
  have first : (encoderSwitch names).Runs (Orderly names) start _ :=
    .step (.update (.update 1 modern) software [(1, modern)]) .refl (fun _ _ _ => nofun) rfl
  have second : (encoderSwitch names).Runs (Orderly names) start _ :=
    .step (.update (.update 2 modern) software [(2, modern), (1, modern)]) first
      (fun _ _ _ => nofun) rfl
  have configured : (encoderSwitch names).Runs (Orderly names) start _ :=
    .step (.configure 0 false none) second nofun rfl
  have fallen : (encoderSwitch names).Runs (Orderly names) start _ :=
    .step (.setFallback 0) configured trivial rfl
  have ready : (encoderSwitch names).Runs (Orderly names) start _ :=
    .step (.read 0) fallen (fun _ here => Phase.fallen.inj here ▸ rfl) rfl
  have running : (encoderSwitch names).Runs (Orderly names) start _ :=
    .step (.create 0 true) ready trivial rfl
  have checked : (encoderSwitch names).Runs (Orderly names) start _ :=
    .step (.checkFormat 0) running trivial rfl
  have cleared : (encoderSwitch names).Runs (Orderly names) start _ :=
    .step (.checkChroma 0) checked trivial rfl
  exact ⟨_, ⟨start, rfl, cleared⟩, rfl, rfl⟩

/-- A peer that decodes VP9 only comes between the configuration and `set_fallback`. -/
def latePeer : List Event :=
  [.update (.update 1 modern) software [(1, modern)], .configure 0 false none,
    .update (.newOnlyVP9 2) software [(2, { abilityVp9 := 1 }), (1, modern)], .setFallback 0,
    .read 0, .create 0 true, .checkFormat 0]

/-- The guard is needed: the service then encodes AV1 for that peer, and does not notice. -/
theorem late_peer_not_understood : ∃ s, (encoderSwitch names).Reaches Machine.free s ∧
    s.services 0 = .checked .aom .av1 false ∧ ¬ Understood s.peers .av1 := by
  refine ⟨(encoderSwitch names).play Machine.free start latePeer,
    ⟨start, rfl, Machine.runs_play _ _ _ _⟩, rfl, ?_⟩
  rintro (vp9 | all)
  · cases vp9
  · cases all { abilityVp9 := 1 } List.mem_cons_self

end ChainRemote.Server.EncoderSwitch
