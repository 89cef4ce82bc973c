import ChainRemote.Lib.Tally

/-!
# The choice of an encoder

`Encoder::update` of `libs/scrap/src/common/codec.rs` chooses one video codec for all the peers of a
server, from what each of them decodes and prefers and from the encoders there are. The peers come
in the order of a hash map, which is any.
-/

namespace ChainRemote.Server.EncoderChoice

open Lib

/-- `CodecFormat`. -/
inductive CodecFormat
  | vp8
  | vp9
  | av1
  | h264
  | h265
  | unknown
deriving DecidableEq

/-- `PreferCodec`. -/
inductive PreferCodec
  | auto
  | vp9
  | h264
  | h265
  | vp8
  | av1
deriving DecidableEq

/-- `Chroma`. -/
inductive Chroma
  | i420
  | i444
deriving DecidableEq

/-- An enumeration in a message: a value, or a number that is none. -/
inductive EnumOrUnknown (α : Type)
  | known (value : α)
  | unknown (number : Int)
deriving DecidableEq

/-- `enum_value_or`. -/
def EnumOrUnknown.valueOr {α : Type} (default : α) : EnumOrUnknown α → α
  | known value => value
  | unknown _ => default

/-- `CodecAbility`, as far as it is read. -/
structure CodecAbility where
  vp9 : Bool := false
  av1 : Bool := false
deriving DecidableEq

/-- `SupportedDecoding`: what a peer decodes. -/
structure SupportedDecoding where
  abilityVp8 : Int := 0
  abilityVp9 : Int := 0
  abilityAv1 : Int := 0
  abilityH264 : Int := 0
  abilityH265 : Int := 0
  prefer : EnumOrUnknown PreferCodec := .known .auto
  preferChroma : EnumOrUnknown Chroma := .known .i420
  i444 : CodecAbility := {}
deriving DecidableEq

/-- What `Encoder::update` reads of the machine and its options. -/
structure Encoders where
  /-- `disable_av1`. -/
  disableAv1 : Bool
  /-- `enable_vram_option(true)`, false where it is not built in. -/
  vramOption : Bool
  /-- Whether `VRamEncoder::available` lists an encoder. -/
  vramAvailable : CodecFormat → Bool
  /-- `enable_hwcodec_option`, false where it is not built in. -/
  hwcodecOption : Bool
  /-- The name in `HwRamEncoder::try_get`. -/
  hwTryGet : CodecFormat → Option (List Char)
  /-- The option `av1-test`. -/
  av1Test : List Char
  /-- `system.total_memory()`, in bytes. -/
  totalMemory : Nat

/-- `SupportedEncoding`, as far as `update` stores it. -/
structure SupportedEncoding where
  vp8 : Bool
  av1 : Bool
  h264 : Bool
  h265 : Bool
deriving DecidableEq

/-- There are peers and all of them have the ability. -/
def allSupport (peers : List SupportedDecoding) (ability : SupportedDecoding → Int) : Bool :=
  decide (peers.length > 0) && peers.all fun s => decide (ability s > 0)

namespace Encoders

variable (encoders : Encoders) (peers : List SupportedDecoding)

/-- `h264vram_encoding` and `h265vram_encoding`. -/
def vramEncoding (format : CodecFormat) (ability : SupportedDecoding → Int) : Bool :=
  encoders.vramOption && (allSupport peers ability && encoders.vramAvailable format)

/-- `h264hw_encoding` and `h265hw_encoding`. -/
def hwEncoding (format : CodecFormat) (ability : SupportedDecoding → Int) : Option (List Char) :=
  if encoders.hwcodecOption && allSupport peers ability then encoders.hwTryGet format else none

/-- Whether some hardware encodes in the format for all peers. -/
def hardware (format : CodecFormat) (ability : SupportedDecoding → Int) : Bool :=
  encoders.vramEncoding peers format ability || (encoders.hwEncoding peers format ability).isSome

/-- What `update` stores in `USABLE_ENCODING`. -/
def usable : SupportedEncoding where
  vp8 := allSupport peers (·.abilityVp8)
  av1 := allSupport peers (·.abilityAv1) && !encoders.disableAv1
  h264 := allSupport peers (·.abilityH264) && encoders.hardware peers .h264 (·.abilityH264)
  h265 := allSupport peers (·.abilityH265) && encoders.hardware peers .h265 (·.abilityH265)

/-- Which peers have a vote: those that prefer what can be used. -/
def hasVote (s : SupportedDecoding) : Bool :=
  s.prefer == .known .vp9
    || s.prefer == .known .vp8 && (encoders.usable peers).vp8
    || s.prefer == .known .av1 && (encoders.usable peers).av1
    || s.prefer == .known .h264 && (encoders.usable peers).h264
    || s.prefer == .known .h265 && (encoders.usable peers).h265

/-- `preferences`. -/
def preferences : List (EnumOrUnknown PreferCodec) :=
  (peers.filter (encoders.hasVote peers)).map (·.prefer)

/-- `preference`: the most frequent one. -/
def preference : PreferCodec :=
  ((mostFrequent (encoders.preferences peers)).getD (.known .auto)).valueOr .auto

/-- `auto_codec`. -/
def autoCodec : CodecFormat :=
  let software :=
    if (encoders.usable peers).av1 && encoders.av1Test != ['N'] then CodecFormat.av1
    else .vp9
  let withH264 := if (encoders.usable peers).h264 then .h264 else software
  let withH265 := if (encoders.usable peers).h265 then .h265 else withH264
  if withH265 = .vp9 ∨ withH265 = .av1 then
    if (encoders.usable peers).vp8 && decide (encoders.totalMemory ≤ 4 * 1024 * 1024 * 1024) then
      .vp8
    else withH265
  else withH265

/-- What `update` stores in `ENCODE_CODEC_FORMAT`. -/
def negotiate : CodecFormat :=
  match encoders.preference peers with
  | .vp8 => .vp8
  | .vp9 => .vp9
  | .av1 => .av1
  | .h264 =>
    if encoders.hardware peers .h264 (·.abilityH264) then .h264 else encoders.autoCodec peers
  | .h265 =>
    if encoders.hardware peers .h265 (·.abilityH265) then .h265 else encoders.autoCodec peers
  | .auto => encoders.autoCodec peers

end Encoders

/-- The peer says that it decodes the format. -/
def SupportedDecoding.decodes (s : SupportedDecoding) : CodecFormat → Bool
  | .vp8 => decide (s.abilityVp8 > 0)
  | .vp9 => decide (s.abilityVp9 > 0)
  | .av1 => decide (s.abilityAv1 > 0)
  | .h264 => decide (s.abilityH264 > 0)
  | .h265 => decide (s.abilityH265 > 0)
  | .unknown => false

/-- All peers decode the format; VP9 is taken for granted. -/
def Understood (peers : List SupportedDecoding) (format : CodecFormat) : Prop :=
  format = .vp9 ∨ ∀ s ∈ peers, s.decodes format = true

/-- The format that a preference names. -/
def PreferCodec.format : PreferCodec → Option CodecFormat
  | .auto => none
  | .vp8 => some .vp8
  | .vp9 => some .vp9
  | .av1 => some .av1
  | .h264 => some .h264
  | .h265 => some .h265

/-- This machine has an encoder for the format: hardware for H264 and H265, and no AV1 where it is
off. -/
def Encoders.Has (encoders : Encoders) : CodecFormat → Prop
  | .vp8 => True
  | .vp9 => True
  | .av1 => encoders.disableAv1 = false
  | .unknown => False
  | format =>
    (encoders.vramOption = true ∧ encoders.vramAvailable format = true) ∨
      encoders.hwcodecOption = true ∧ (encoders.hwTryGet format).isSome = true

variable {encoders : Encoders} {peers : List SupportedDecoding}

theorem allSupport_iff {ability : SupportedDecoding → Int} :
    allSupport peers ability = true ↔ peers ≠ [] ∧ ∀ s ∈ peers, ability s > 0 := by
  unfold allSupport
  rw [Bool.and_eq_true, decide_eq_true_iff, List.all_eq_true]
  exact and_congr List.length_pos_iff (forall₂_congr fun _ _ => decide_eq_true_iff)

theorem allSupport_perm {others : List SupportedDecoding} (same : peers.Perm others)
    (ability : SupportedDecoding → Int) : allSupport peers ability = allSupport others ability := by
  rw [Bool.eq_iff_iff, allSupport_iff, allSupport_iff]
  refine and_congr (not_congr ⟨fun none => ?_, fun none => ?_⟩) (forall_congr' fun s => ?_)
  · exact List.perm_nil.mp (none ▸ same.symm)
  · exact List.perm_nil.mp (none ▸ same)
  · rw [same.mem_iff]

/-- Where hardware encodes, the machine has it and all peers decode it. -/
theorem hardware_spec {format : CodecFormat} {ability : SupportedDecoding → Int}
    (encodes : encoders.hardware peers format ability = true) :
    allSupport peers ability = true ∧
      ((encoders.vramOption = true ∧ encoders.vramAvailable format = true) ∨
        encoders.hwcodecOption = true ∧ (encoders.hwTryGet format).isSome = true) := by
  unfold Encoders.hardware at encodes
  rcases Bool.or_eq_true_iff.mp encodes with vram | hw
  · unfold Encoders.vramEncoding at vram
    rw [Bool.and_eq_true, Bool.and_eq_true] at vram
    exact ⟨vram.2.1, .inl ⟨vram.1, vram.2.2⟩⟩
  · unfold Encoders.hwEncoding at hw
    split at hw
    · rename_i both
      rw [Bool.and_eq_true] at both
      exact ⟨both.2, .inr ⟨both.1, hw⟩⟩
    · cases hw

/-- A format that can be used: there are peers, all of them decode it and the machine encodes it. -/
def Usable (encoders : Encoders) (peers : List SupportedDecoding) (format : CodecFormat) : Prop :=
  peers ≠ [] ∧ (∀ s ∈ peers, s.decodes format = true) ∧ encoders.Has format

theorem usable_vp8 (flag : (encoders.usable peers).vp8 = true) : Usable encoders peers .vp8 := by
  have all := allSupport_iff.mp flag
  exact ⟨all.1, fun s inside => decide_eq_true (all.2 s inside), trivial⟩

theorem usable_av1 (flag : (encoders.usable peers).av1 = true) : Usable encoders peers .av1 := by
  obtain ⟨flag, on⟩ := Bool.and_eq_true_iff.mp flag
  have all := allSupport_iff.mp flag
  exact ⟨all.1, fun s inside => decide_eq_true (all.2 s inside), (Bool.not_eq_true' _).mp on⟩

theorem usable_h264 (flag : (encoders.usable peers).h264 = true) : Usable encoders peers .h264 := by
  obtain ⟨flag, encodes⟩ := Bool.and_eq_true_iff.mp flag
  have all := allSupport_iff.mp flag
  exact ⟨all.1, fun s inside => decide_eq_true (all.2 s inside), (hardware_spec encodes).2⟩

theorem usable_h265 (flag : (encoders.usable peers).h265 = true) : Usable encoders peers .h265 := by
  obtain ⟨flag, encodes⟩ := Bool.and_eq_true_iff.mp flag
  have all := allSupport_iff.mp flag
  exact ⟨all.1, fun s inside => decide_eq_true (all.2 s inside), (hardware_spec encodes).2⟩

/-- Left to itself the server takes VP9 or what can be used. -/
theorem autoCodec_spec (encoders : Encoders) (peers : List SupportedDecoding) :
    encoders.autoCodec peers = .vp9 ∨ Usable encoders peers (encoders.autoCodec peers) := by
  let Fine : CodecFormat → Prop := fun format => format = .vp9 ∨ Usable encoders peers format
  show Fine (encoders.autoCodec peers)
  unfold Encoders.autoCodec
  have software : Fine (if (encoders.usable peers).av1 && encoders.av1Test != ['N'] then .av1
      else .vp9) :=
    iteInduction (fun av1 => .inr (usable_av1 (Bool.and_eq_true_iff.mp av1).1)) fun _ => .inl rfl
  have withH264 := iteInduction (motive := Fine) (c := (encoders.usable peers).h264 = true)
    (fun h264 => .inr (usable_h264 h264)) fun _ => software
  have withH265 := iteInduction (motive := Fine) (c := (encoders.usable peers).h265 = true)
    (fun h265 => .inr (usable_h265 h265)) fun _ => withH264
  exact iteInduction
    (fun _ => iteInduction (fun vp8 => .inr (usable_vp8 (Bool.and_eq_true_iff.mp vp8).1))
      fun _ => withH265)
    fun _ => withH265

theorem hasVote_iff {s : SupportedDecoding} :
    encoders.hasVote peers s = true ↔
      s.prefer = .known .vp9 ∨ (s.prefer = .known .vp8 ∧ (encoders.usable peers).vp8 = true) ∨
        (s.prefer = .known .av1 ∧ (encoders.usable peers).av1 = true) ∨
        (s.prefer = .known .h264 ∧ (encoders.usable peers).h264 = true) ∨
        s.prefer = .known .h265 ∧ (encoders.usable peers).h265 = true := by
  simp only [Encoders.hasVote, Bool.or_eq_true, Bool.and_eq_true, beq_iff_eq, or_assoc]

/-- A preferred format that wins is negotiated, and can be used if it is not VP9. -/
theorem negotiate_of_vote {s : SupportedDecoding} (vote : encoders.hasVote peers s = true)
    {p : PreferCodec} (prefers : s.prefer = .known p) (wins : encoders.preference peers = p) :
    p.format = some (encoders.negotiate peers) ∧
      (encoders.negotiate peers = .vp9 ∨ Usable encoders peers (encoders.negotiate peers)) := by
  unfold Encoders.negotiate
  rw [wins]
  rcases hasVote_iff.mp vote with vp9 | ⟨vp8, flag⟩ | ⟨av1, flag⟩ | ⟨h264, flag⟩ | ⟨h265, flag⟩
  · obtain rfl := EnumOrUnknown.known.inj (prefers.symm.trans vp9)
    exact ⟨rfl, .inl rfl⟩
  · obtain rfl := EnumOrUnknown.known.inj (prefers.symm.trans vp8)
    exact ⟨rfl, .inr (usable_vp8 flag)⟩
  · obtain rfl := EnumOrUnknown.known.inj (prefers.symm.trans av1)
    exact ⟨rfl, .inr (usable_av1 flag)⟩
  · obtain rfl := EnumOrUnknown.known.inj (prefers.symm.trans h264)
    have encodes := (Bool.and_eq_true_iff.mp flag).2
    dsimp only
    rw [if_pos encodes]
    exact ⟨rfl, .inr (usable_h264 flag)⟩
  · obtain rfl := EnumOrUnknown.known.inj (prefers.symm.trans h265)
    have encodes := (Bool.and_eq_true_iff.mp flag).2
    dsimp only
    rw [if_pos encodes]
    exact ⟨rfl, .inr (usable_h265 flag)⟩

/-- Whom the most frequent preference belongs to. -/
theorem exists_winner (nonempty : encoders.preferences peers ≠ []) :
    ∃ s ∈ peers, encoders.hasVote peers s = true ∧
      ∃ p, s.prefer = .known p ∧ encoders.preference peers = p ∧
        ∀ q, (encoders.preferences peers).count q ≤ (encoders.preferences peers).count s.prefer := by
  obtain ⟨winner, found⟩ := Option.isSome_iff_exists.mp (mostFrequent_isSome nonempty)
  obtain ⟨inside, most⟩ := mostFrequent_spec found
  obtain ⟨s, member, rfl⟩ := List.mem_map.mp inside
  obtain ⟨among, vote⟩ := List.mem_filter.mp member
  have named : ∃ p, s.prefer = .known p := by
    rcases hasVote_iff.mp vote with same | ⟨same, -⟩ | ⟨same, -⟩ | ⟨same, -⟩ | ⟨same, -⟩
    all_goals exact ⟨_, same⟩
  obtain ⟨p, prefers⟩ := named
  refine ⟨s, among, vote, p, prefers, ?_, most⟩
  unfold Encoders.preference
  rw [found, prefers]
  rfl

/-- Without a vote the server is left to itself. -/
theorem negotiate_of_none (none' : encoders.preferences peers = []) :
    encoders.negotiate peers = encoders.autoCodec peers := by
  unfold Encoders.negotiate Encoders.preference
  rw [none']
  rfl

/-- The negotiated format is VP9 or can be used. -/
theorem negotiate_usable (encoders : Encoders) (peers : List SupportedDecoding) :
    encoders.negotiate peers = .vp9 ∨ Usable encoders peers (encoders.negotiate peers) := by
  by_cases votes : encoders.preferences peers = []
  · rw [negotiate_of_none votes]
    exact autoCodec_spec encoders peers
  · obtain ⟨s, -, vote, p, prefers, wins, -⟩ := exists_winner votes
    exact (negotiate_of_vote vote prefers wins).2

/-- So all peers decode it. -/
theorem negotiate_understood (encoders : Encoders) (peers : List SupportedDecoding) :
    Understood peers (encoders.negotiate peers) :=
  (negotiate_usable encoders peers).imp id fun usable => usable.2.1

theorem usable_perm {others : List SupportedDecoding} (same : peers.Perm others) :
    encoders.usable peers = encoders.usable others := by
  unfold Encoders.usable Encoders.hardware Encoders.vramEncoding Encoders.hwEncoding
  simp only [allSupport_perm same]

theorem preferences_perm {others : List SupportedDecoding} (same : peers.Perm others) :
    (encoders.preferences peers).Perm (encoders.preferences others) := by
  have alike : encoders.hasVote peers = encoders.hasVote others := by
    unfold Encoders.hasVote
    rw [usable_perm same]
  unfold Encoders.preferences
  rw [alike]
  exact (same.filter _).map _

/-- The order of the peers matters for the preference only. -/
theorem negotiate_perm {others : List SupportedDecoding} (same : peers.Perm others)
    (alike : encoders.preference peers = encoders.preference others) :
    encoders.negotiate peers = encoders.negotiate others := by
  unfold Encoders.negotiate Encoders.autoCodec Encoders.hardware Encoders.vramEncoding
    Encoders.hwEncoding
  rw [alike, usable_perm same]
  simp only [allSupport_perm same]

/-- A preference is ahead: more peers that have a vote share it than any other. -/
def Ahead (encoders : Encoders) (peers : List SupportedDecoding)
    (p : EnumOrUnknown PreferCodec) : Prop :=
  p ∈ encoders.preferences peers ∧ ∀ q ∈ encoders.preferences peers, q ≠ p →
    (encoders.preferences peers).count q < (encoders.preferences peers).count p

/-- For all peers, encoders and options: every format negotiated is VP9 or one that there are peers
for, that all of them decode and that this machine encodes; if some peer prefers what can be used,
it is what the most of these peers prefer, and else what the server takes by itself; and in
whichever order the peers come, it is the same if one preference is ahead or none has a vote. -/
theorem negotiated (encoders : Encoders) (peers : List SupportedDecoding) :
    (encoders.negotiate peers = .vp9 ∨ Usable encoders peers (encoders.negotiate peers)) ∧
      (if encoders.preferences peers = [] then
        encoders.negotiate peers = encoders.autoCodec peers
      else
        ∃ p, p.format = some (encoders.negotiate peers) ∧ .known p ∈ encoders.preferences peers ∧
          ∀ q, (encoders.preferences peers).count q ≤
            (encoders.preferences peers).count (.known p)) ∧
      ∀ others, peers.Perm others →
        (encoders.preferences peers = [] ∨ ∃ p, Ahead encoders peers p) →
        encoders.negotiate others = encoders.negotiate peers := by
  refine ⟨negotiate_usable encoders peers, ?_, ?_⟩
  · by_cases votes : encoders.preferences peers = []
    · rw [if_pos votes]
      exact negotiate_of_none votes
    · rw [if_neg votes]
      obtain ⟨s, among, vote, p, prefers, wins, most⟩ := exists_winner votes
      refine ⟨p, (negotiate_of_vote vote prefers wins).1, ?_, prefers ▸ most⟩
      exact List.mem_map.mpr ⟨s, List.mem_filter.mpr ⟨among, vote⟩, prefers⟩
  · intro others same decided
    refine (negotiate_perm same ?_).symm
    have votes : (encoders.preferences peers).Perm (encoders.preferences others) :=
      preferences_perm same
    unfold Encoders.preference
    rcases decided with none' | ⟨p, inside, ahead⟩
    · rw [none'] at votes ⊢
      rw [List.nil_perm.mp votes]
    · rw [mostFrequent_of_perm votes inside ahead,
        mostFrequent_of_perm (List.Perm.refl _) inside ahead]

end ChainRemote.Server.EncoderChoice
