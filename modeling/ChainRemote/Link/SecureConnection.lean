/-!
# Connecting to a peer

`Client::connect` of `src/client.rs` races the addresses of a peer, falls back to the relay and
hands the stream to `secure_connection`. The rendezvous server vouches for the key of the peer, and
the peer is to prove that key with its first frame. The network is an input: who answers, what the
other end sends first and whether it takes what is sent. The cryptography and the message formats
are parameters.

A frame that proves nothing does not end the connection. The stream then goes on without a key, so
a connection is as trustworthy as the signature of the server exactly where the other end proves
the key, falls silent or takes nothing.
-/

namespace ChainRemote.Link.SecureConnection

/-- Bytes on the wire. -/
abbrev Bytes := List UInt8

/-- `IdPk`. -/
structure IdPk where
  id : String
  pk : Bytes
deriving DecidableEq, Repr

/-- The member of a received `Message`. -/
inductive Union
  | signedId (id : Bytes)
  | other
deriving DecidableEq, Repr

/-- Functions outside this model. -/
structure Ambient where
  /-- `crate::decode64`. -/
  decode64 : String → Option Bytes
  /-- `config::RS_PUB_KEY`. -/
  rsPubKey : String
  /-- `sign::verify`: the message of a key in signed bytes. -/
  verify : Bytes → Bytes → Option Bytes
  /-- A signed message starts with its signature. -/
  verify_short : ∀ key signed, signed.length < 64 → verify key signed = none
  /-- `IdPk::parse_from_bytes`. -/
  parseIdPk : Bytes → Option IdPk
  /-- `Message::parse_from_bytes`, with the member that is set. -/
  parseMessage : Bytes → Option (Option Union)
  /-- `box_::seal` of a message to a public key from a secret key. -/
  sealBox : Bytes → Bytes → Bytes → Bytes

variable (amb : Ambient)

/-- `get_pk`. -/
def getPk (pk : Bytes) : Option Bytes := if pk.length = 32 then some pk else none

/-- `get_rs_pk`. -/
def getRsPk (text : String) : Option Bytes := (amb.decode64 text).bind getPk

/-- `decode_id_pk`. -/
def decodeIdPk (signed key : Bytes) : Option (String × Bytes) := do
  let message ← amb.verify key signed
  let res ← amb.parseIdPk message
  let pk ← getPk res.pk
  return (res.id, pk)

/-- What `create_symmetric_key_msg` draws. -/
structure Draw where
  ourPk : Bytes
  ourSk : Bytes
  key : Bytes

/-- `create_symmetric_key_msg`: our public key, the sealed key and the key. -/
def createSymmetricKeyMsg (draw : Draw) (theirPk : Bytes) : Bytes × Bytes × Bytes :=
  (draw.ourPk, amb.sealBox draw.key theirPk draw.ourSk, draw.key)

/-- A message that is sent during the handshake. -/
inductive Outgoing
  /-- `Message::new()`. -/
  | empty
  | publicKey (asymmetricValue symmetricValue : Bytes)
deriving DecidableEq, Repr

/-- A stream: what was sent, and the key that was set. -/
structure Stream where
  sent : List Outgoing := []
  key : Option Bytes := none
deriving DecidableEq, Repr

/-- What `conn.next()` gives within `READ_TIMEOUT`. -/
inductive Frame
  | bytes (bytes : Bytes)
  | error (text : String)
  | closed
  | silent
deriving DecidableEq

/-- The other end of a stream. -/
structure Remote where
  /-- What it sends first. -/
  frame : Frame
  /-- The error with which a send to it fails. -/
  refusal : Option String := none

/-- `conn.send`. -/
def Remote.send (remote : Remote) (message : Outgoing) (stream : Stream) : Except String Stream :=
  match remote.refusal with
  | some error => .error error
  | none => .ok { stream with sent := stream.sent ++ [message] }

/-- The key of the peer that the server vouches for. -/
def signPk (peerId : String) (signedIdPk : Bytes) (key : String) : Option Bytes :=
  if signedIdPk = [] then none
  else
    match getRsPk amb (if key = "" then amb.rsPubKey else key) with
    | none => none
    | some rsPk =>
      match decodeIdPk amb signedIdPk rsPk with
      | none => none
      | some (id, pk) => if id = peerId then some pk else none

/-- `secure_connection`: the stream afterwards, and the key of the peer. -/
def secureConnection (draw : Draw) (peerId : String) (signedIdPk : Bytes) (key : String)
    (remote : Remote) (conn : Stream) : Except String (Stream × Option Bytes) := do
  match signPk amb peerId signedIdPk key with
  | none =>
    let conn ← remote.send .empty conn
    return (conn, none)
  | some signPk =>
    match remote.frame with
    | .silent => throw "deadline has elapsed"
    | .closed => throw "Reset by the peer"
    | .error text => throw text
    | .bytes bytes =>
      match amb.parseMessage bytes with
      | some (some (.signedId id)) =>
        match decodeIdPk amb id signPk with
        | some (id, theirPk) =>
          if id = peerId then
            let (asymmetricValue, symmetricValue, key) := createSymmetricKeyMsg amb draw theirPk
            let conn ← remote.send (.publicKey asymmetricValue symmetricValue) conn
            return ({ conn with key := some key }, some signPk)
          else
            let conn ← remote.send .empty conn
            return (conn, some signPk)
        | none =>
          -- "fall back to non-secure connection in case pk mismatch"
          let conn ← remote.send (.publicKey [] []) conn
          return (conn, some signPk)
      | some _ =>
        let conn ← remote.send .empty conn
        return (conn, some signPk)
      | none =>
        let conn ← remote.send .empty conn
        return (conn, some signPk)

/-- `NatType`. -/
inductive NatType
  | unknown
  | asymmetric
  | symmetric
deriving DecidableEq, Repr

/-- `CONNECT_TIMEOUT` in milliseconds. -/
def connectTimeout : Nat := 18000

/-- `DIRECT_WINDOW_MS`. -/
def directWindowMs : Nat := 3000

/-- An address that is dialled. -/
inductive Route
  /-- The door that the router opened. -/
  | upnp (endpoint : String)
  | tcp
  | udp
  | ipv6
deriving DecidableEq, Repr

/-- The name of a route in the logs. -/
def Route.typ : Route → String
  | .upnp _ => "UPnP"
  | .tcp => "TCP"
  | .udp => "UDP"
  | .ipv6 => "IPv6"

/-- A request to connect: the arguments of `Client::connect` and what it looks up. -/
structure Request where
  peerId : String
  signedIdPk : Bytes
  key : String
  relayServer : String
  isLocal : Bool
  peerNatType : NatType
  myNatType : NatType
  /-- `crate::get_nat_type(100)`. -/
  probedNatType : NatType
  /-- In milliseconds. -/
  punchTimeUsed : Nat
  /-- `direct_failures` of the peer. -/
  directFailures : Int
  /-- `chainremote_direct::is_retry_due`. -/
  retryDue : Bool
  /-- `upnp_endpoint_of`. -/
  upnpEndpoint : String
  udpSocketNat : Bool
  udpSocketV6 : Bool
  forceRelay : Bool

namespace Request

variable (request : Request)

/-- The failures that narrow the window: an old record is ignored once. -/
def failures : Int :=
  if 0 < request.directFailures ∧ request.retryDue then 0 else request.directFailures

/-- The window of a peer behind a relay, before it is rounded up. -/
def punchWindow : Nat :=
  let myNatType :=
    if request.myNatType = .unknown then request.probedNatType else request.myNatType
  let rest := request.punchTimeUsed * if 0 < request.failures then 3 else 6
  if request.peerNatType = .asymmetric then
    match myNatType with
    | .asymmetric =>
      let window :=
        if 0 < request.failures then request.punchTimeUsed * 6 else connectTimeout
      if window = 0 then rest else window
    | .symmetric => 1000
    | .unknown => rest
  else rest

/-- How long the addresses are tried. -/
def window : Nat :=
  let window :=
    if request.isLocal ∨ request.peerNatType = .symmetric then 1000
    else max 1000 (if request.relayServer = "" then connectTimeout else request.punchWindow)
  if request.relayServer = "" then window else min window directWindowMs

/-- The addresses that are dialled. -/
def routes : List Route :=
  (if request.upnpEndpoint = "" then [] else [.upnp request.upnpEndpoint]) ++ [.tcp] ++
    (if request.udpSocketNat then [.udp] else []) ++ if request.udpSocketV6 then [.ipv6] else []

/-- With a relay to fall back to, the addresses are tried for one to three seconds. -/
theorem window_bounds (relayed : request.relayServer ≠ "") :
    1000 ≤ request.window ∧ request.window ≤ directWindowMs := by
  simp only [window, if_neg relayed, directWindowMs]
  split <;> omega

end Request

/-- Who answers. -/
structure Network where
  /-- The addresses that answer within a window, first to last. -/
  answers : Nat → List (Route × Remote)
  /-- The relay, or why it cannot be reached. -/
  relay : Except String Remote

/-- `select_ok`: the first of the dialled addresses that answers. -/
def selectOk (request : Request) (network : Network) : Option (Route × Remote) :=
  (network.answers request.window).find? fun answer => decide (answer.1 ∈ request.routes)

/-- The other end of the stream and how it was reached; `none` is the relay. -/
def reach (request : Request) (network : Network) : Except String (Option Route × Remote) :=
  match selectOk request network, request.forceRelay with
  | some (route, remote), false => .ok (some route, remote)
  | _, _ =>
    if request.relayServer = "" then .error "Failed to make direct connection to remote desktop"
    else
      match network.relay with
      | .ok remote => .ok (none, remote)
      | .error error => .error ("Failed to connect via relay server: " ++ error)

/-- What `Client::connect` returns. -/
structure Connected where
  stream : Stream
  direct : Bool
  pk : Option Bytes
  /-- A KCP session comes with the stream that won the race. -/
  kcp : Bool
  typ : String
deriving DecidableEq, Repr

/-- `Client::connect`. -/
def connect (draw : Draw) (request : Request) (network : Network) : Except String Connected := do
  let (route, remote) ← reach request network
  let (stream, pk) ←
    secureConnection amb draw request.peerId request.signedIdPk request.key remote {}
  let won := (selectOk request network).map Prod.fst
  return {
    stream, pk
    direct := route.isSome
    kcp := won == some .udp || won == some .ipv6
    typ := (route.map Route.typ).getD "Relay" }

/-- The stream is keyed with a symmetric key that was sealed to a public key which `key` signed for
the peer; `signed` is what the owner of each key signed. -/
def Keyed (signed : Bytes → Bytes → Prop) (draw : Draw) (peerId : String) (key : Bytes)
    (connected : Connected) : Prop :=
  ∃ message theirPk, signed key message ∧ amb.parseIdPk message = some ⟨peerId, theirPk⟩ ∧
    connected.stream.key = some draw.key ∧
    .publicKey draw.ourPk (amb.sealBox draw.key theirPk draw.ourSk) ∈ connected.stream.sent

/-- The other end sends first a signed id of the peer that verifies under the key. -/
def Remote.Proves (remote : Remote) (peerId : String) (key : Bytes) : Prop :=
  ∃ bytes id theirPk, remote.frame = .bytes bytes ∧
    amb.parseMessage bytes = some (some (.signedId id)) ∧
    decodeIdPk amb id key = some (peerId, theirPk)

/-- The other end sends nothing, or takes nothing. -/
def Remote.Stops (remote : Remote) : Prop :=
  (∀ bytes, remote.frame ≠ .bytes bytes) ∨ remote.refusal.isSome

section Handshake

variable {amb} {signed : Bytes → Bytes → Prop} {draw : Draw} {peerId : String} {key : Bytes}
variable {remote : Remote} {conn : Stream}

/-- A key that the server vouches for is the one that the peer has to prove. -/
theorem signPk_eq {signedIdPk rsPk : Bytes} {text : String}
    (server : getRsPk amb (if text = "" then amb.rsPubKey else text) = some rsPk)
    (named : decodeIdPk amb signedIdPk rsPk = some (peerId, key)) :
    signPk amb peerId signedIdPk text = some key := by
  have stored : signedIdPk ≠ [] := by
    intro empty
    have short := amb.verify_short rsPk signedIdPk (by simp [empty])
    simp [decodeIdPk, short] at named
  simp only [signPk, if_neg stored, server, named, if_true]

/-- A send goes through where the other end takes it. -/
theorem send_eq_ok {message : Outgoing} {after : Stream} :
    remote.send message conn = .ok after ↔
      remote.refusal = none ∧ after = { conn with sent := conn.sent ++ [message] } := by
  unfold Remote.send
  cases remote.refusal with
  | some error => simp
  | none => simp [eq_comm]

/-- What verifies names its message. -/
theorem decodeIdPk_eq_some {bytes theirPk : Bytes}
    (decoded : decodeIdPk amb bytes key = some (peerId, theirPk)) :
    ∃ message, amb.verify key bytes = some message ∧
      amb.parseIdPk message = some ⟨peerId, theirPk⟩ := by
  simp only [decodeIdPk, Option.bind_eq_bind, Option.bind_eq_some_iff, getPk] at decoded
  obtain ⟨message, verified, res, parsed, pk, sized, same⟩ := decoded
  split at sized
  · cases sized
    cases same
    exact ⟨message, verified, parsed⟩
  · cases sized

/-- A handshake that succeeds with a key to prove has one of two ends: the frame proved the key and
the stream is keyed, or it proved nothing and the stream is not. -/
theorem secureConnection_cases {signedIdPk : Bytes} {text : String} {after : Stream}
    {pk : Option Bytes} (vouched : signPk amb peerId signedIdPk text = some key)
    (done : secureConnection amb draw peerId signedIdPk text remote conn = .ok (after, pk)) :
    (∃ bytes, remote.frame = .bytes bytes) ∧ remote.refusal = none ∧
      ((∃ bytes id theirPk, remote.frame = .bytes bytes ∧
          amb.parseMessage bytes = some (some (.signedId id)) ∧
          decodeIdPk amb id key = some (peerId, theirPk) ∧ after.key = some draw.key ∧
          .publicKey draw.ourPk (amb.sealBox draw.key theirPk draw.ourSk) ∈ after.sent) ∨
        ¬ remote.Proves amb peerId key ∧ after.key = conn.key) := by
  simp only [secureConnection, vouched] at done
  -- A message that carries no proof leaves the stream as it was, but for the message.
  have plain : ∀ {message : Outgoing} {signPk : Bytes},
      (do
        let conn ← remote.send message conn
        return (conn, some signPk)) = Except.ok (after, pk) →
      remote.refusal = none ∧ after.key = conn.key := by
    intro message signPk sent
    cases went : remote.send message conn with
    | error error => simp [went, bind, Except.bind] at sent
    | ok stream =>
      obtain ⟨taken, same⟩ := send_eq_ok.mp went
      simp only [went, bind, Except.bind, pure, Except.pure, Except.ok.injEq, Prod.mk.injEq]
        at sent
      refine ⟨taken, ?_⟩
      rw [← sent.1, same]
  split at done
  · cases done
  · cases done
  · cases done
  · rename_i bytes received
    refine ⟨⟨bytes, received⟩, ?_⟩
    -- Where the frame is no proof, no other reading of it is one.
    have unproved : (∀ id theirPk, amb.parseMessage bytes = some (some (.signedId id)) →
        decodeIdPk amb id key ≠ some (peerId, theirPk)) → ¬ remote.Proves amb peerId key := by
      rintro none' ⟨other, id, theirPk, received', parsed, decoded⟩
      rw [received] at received'
      cases received'
      exact none' id theirPk parsed decoded
    split at done
    · rename_i id parsed
      split at done
      · rename_i other theirPk decoded
        split at done
        · rename_i same
          subst same
          cases went : remote.send (.publicKey draw.ourPk
              (amb.sealBox draw.key theirPk draw.ourSk)) conn with
          | error error =>
            simp [createSymmetricKeyMsg, went, bind, Except.bind] at done
          | ok stream =>
            obtain ⟨taken, same⟩ := send_eq_ok.mp went
            simp only [createSymmetricKeyMsg, went, bind, Except.bind, pure, Except.pure,
              Except.ok.injEq, Prod.mk.injEq] at done
            refine ⟨taken, .inl ⟨bytes, id, theirPk, received, parsed, decoded, ?_, ?_⟩⟩
            · rw [← done.1]
            · rw [← done.1, same]
              exact List.mem_append_right _ List.mem_cons_self
        · rename_i differs
          obtain ⟨taken, kept⟩ := plain done
          refine ⟨taken, .inr ⟨unproved ?_, kept⟩⟩
          intro id' theirPk' parsed' decoded'
          rw [parsed] at parsed'
          cases parsed'
          rw [decoded] at decoded'
          cases decoded'
          exact differs rfl
      · rename_i failed
        obtain ⟨taken, kept⟩ := plain done
        refine ⟨taken, .inr ⟨unproved ?_, kept⟩⟩
        intro id' theirPk' parsed' decoded'
        rw [parsed] at parsed'
        cases parsed'
        rw [failed] at decoded'
        cases decoded'
    · rename_i union other parsed
      obtain ⟨taken, kept⟩ := plain done
      refine ⟨taken, .inr ⟨unproved ?_, kept⟩⟩
      intro id' theirPk' parsed'
      rw [parsed] at parsed'
      cases parsed'
      exact (other id' rfl).elim
    · rename_i failed
      obtain ⟨taken, kept⟩ := plain done
      refine ⟨taken, .inr ⟨unproved ?_, kept⟩⟩
      intro id' theirPk' parsed'
      rw [failed] at parsed'
      cases parsed'

/-- A handshake that was vouched for succeeds once a frame arrives and the answer is taken,
whatever the frame says. -/
theorem secureConnection_completes {signedIdPk bytes : Bytes} {text : String}
    (vouched : signPk amb peerId signedIdPk text = some key)
    (received : remote.frame = .bytes bytes) (taken : remote.refusal = none) :
    ∃ after, secureConnection amb draw peerId signedIdPk text remote conn = .ok after := by
  have sends : ∀ message, remote.send message conn =
      .ok { conn with sent := conn.sent ++ [message] } :=
    fun message => send_eq_ok.mpr ⟨taken, rfl⟩
  simp only [secureConnection, vouched, received, sends, createSymmetricKeyMsg]
  repeat' split
  all_goals exact ⟨_, rfl⟩

end Handshake

/-- `Client::connect` succeeds with a key that the peer signed exactly where whoever is reached
proves the key of the peer, sends nothing or takes nothing. -/
theorem connect_keyed_iff {amb : Ambient} {signed : Bytes → Bytes → Prop}
    (unforgeable : ∀ key bytes message, amb.verify key bytes = some message → signed key message)
    {draw : Draw} {request : Request} {network : Network} {rsPk key : Bytes}
    (server : getRsPk amb (if request.key = "" then amb.rsPubKey else request.key) = some rsPk)
    (named : decodeIdPk amb request.signedIdPk rsPk = some (request.peerId, key)) :
    (∀ connected, connect amb draw request network = .ok connected →
        Keyed amb signed draw request.peerId key connected) ↔
      ∀ route remote, reach request network = .ok (route, remote) →
        remote.Proves amb request.peerId key ∨ remote.Stops := by
  have vouched := signPk_eq server named
  constructor
  · intro trusted route remote reached
    cases received : remote.frame with
    | error text => exact .inr (.inl (by simp [received]))
    | closed => exact .inr (.inl (by simp [received]))
    | silent => exact .inr (.inl (by simp [received]))
    | bytes bytes =>
      cases taken : remote.refusal with
      | some error => exact .inr (.inr (by simp [taken]))
      | none =>
        have completes : ∃ after, secureConnection amb draw request.peerId request.signedIdPk
            request.key remote {} = .ok after :=
          secureConnection_completes vouched received taken
        obtain ⟨⟨stream, pk⟩, done⟩ := completes
        have returned : ∃ connected, connect amb draw request network = .ok connected ∧
            connected.stream = stream := by
          simp only [connect, reached, bind, Except.bind, done]
          exact ⟨_, rfl, rfl⟩
        obtain ⟨connected, returned, same⟩ := returned
        obtain ⟨-, -, -, -, keyed, -⟩ := trusted connected returned
        obtain ⟨-, -, proved | ⟨-, kept⟩⟩ := secureConnection_cases vouched done
        · obtain ⟨bytes, id, theirPk, received, parsed, decoded, -⟩ := proved
          exact .inl ⟨bytes, id, theirPk, received, parsed, decoded⟩
        · rw [same, kept] at keyed
          cases keyed
  · intro honest connected returned
    cases reached : reach request network with
    | error error => simp [connect, reached, bind, Except.bind] at returned
    | ok found =>
      obtain ⟨route, remote⟩ := found
      cases done : secureConnection amb draw request.peerId request.signedIdPk request.key
          remote {} with
      | error error => simp [connect, reached, done, bind, Except.bind] at returned
      | ok result =>
        obtain ⟨stream, pk⟩ := result
        have same : connected.stream = stream := by
          simp only [connect, reached, done, bind, Except.bind, pure, Except.pure,
            Except.ok.injEq] at returned
          rw [← returned]
        obtain ⟨⟨bytes, received⟩, taken, proved | ⟨unproved, -⟩⟩ :=
          secureConnection_cases vouched done
        · obtain ⟨-, id, theirPk, -, -, decoded, keyed, sent⟩ := proved
          obtain ⟨message, verified, parsed⟩ := decodeIdPk_eq_some decoded
          refine ⟨message, theirPk, unforgeable key id message verified, parsed, ?_, ?_⟩
          · rw [same]
            exact keyed
          · rw [same]
            exact sent
        · rcases honest route remote reached with proves | silent | refuses
          · exact absurd proves unproved
          · exact absurd received (silent bytes)
          · rw [taken] at refuses
            cases refuses

section Sample

/-- The key of the server, of the device and of its stream. -/
def serverKey : Bytes := List.replicate 32 1

def deviceKey : Bytes := List.replicate 32 2

def streamKey : Bytes := List.replicate 32 3

/-- An `IdPk` of the device, in its wire format. -/
def encodedIdPk (pk : Bytes) : Bytes :=
  [10, 9] ++ "123456789".toList.map (fun c => UInt8.ofNat c.toNat) ++ [18, 32] ++ pk

/-- What the server signed, with its signature. -/
def serverSigned : Bytes := List.replicate 64 7 ++ encodedIdPk deviceKey

/-- What the device signed, with its signature. -/
def deviceSigned : Bytes := List.replicate 64 8 ++ encodedIdPk streamKey

/-- What each key signed. -/
def sampleSigned (key message : Bytes) : Prop :=
  (key = serverKey ∧ message = encodedIdPk deviceKey) ∨
    (key = deviceKey ∧ message = encodedIdPk streamKey)

/-- The two signatures, and readers of the messages that occur. -/
def sample : Ambient where
  decode64 text :=
    if text = "AQEBAQEBAQEBAQEBAQEBAQEBAQEBAQEBAQEBAQEBAQE=" then some serverKey else none
  rsPubKey := ""
  verify key signed :=
    if key = serverKey ∧ signed = serverSigned then some (encodedIdPk deviceKey)
    else if key = deviceKey ∧ signed = deviceSigned then some (encodedIdPk streamKey)
    else none
  verify_short := by
    intro key signed short
    have server : signed ≠ serverSigned := fun same => by
      rw [same] at short
      exact absurd short (by decide)
    have device : signed ≠ deviceSigned := fun same => by
      rw [same] at short
      exact absurd short (by decide)
    simp [server, device]
  parseIdPk message :=
    some
      { id := String.ofList (((message.drop 2).take 9).map fun byte => Char.ofNat byte.toNat)
        pk := message.drop 13 }
  parseMessage bytes :=
    match bytes with
    | 26 :: _ :: 10 :: _ :: id => some (some (.signedId id))
    | _ => none
  sealBox message theirPk ourSk := message ++ theirPk ++ ourSk

/-- A request for the device, whose router opened a door. -/
def sampleRequest : Request where
  peerId := "123456789"
  signedIdPk := serverSigned
  key := "AQEBAQEBAQEBAQEBAQEBAQEBAQEBAQEBAQEBAQEBAQE="
  relayServer := "relay"
  isLocal := false
  peerNatType := .asymmetric
  myNatType := .asymmetric
  probedNatType := .asymmetric
  punchTimeUsed := 200
  directFailures := 0
  retryDue := false
  upnpEndpoint := "203.0.113.7:21118"
  udpSocketNat := false
  udpSocketV6 := false
  forceRelay := false

/-- Somebody answers at the door. -/
def doorAnsweredBy (remote : Remote) : Network where
  answers _ := [(.upnp "203.0.113.7:21118", remote)]
  relay := .error "unreachable"

def sampleDraw : Draw := { ourPk := [4], ourSk := [5], key := [6] }

theorem sample_unforgeable (key bytes message : Bytes)
    (verified : sample.verify key bytes = some message) : sampleSigned key message := by
  simp only [sample] at verified
  split at verified
  · rename_i server
    cases verified
    exact .inl ⟨server.1, rfl⟩
  · split at verified
    · rename_i device
      cases verified
      exact .inr ⟨device.1, rfl⟩
    · cases verified

theorem sample_server :
    getRsPk sample (if sampleRequest.key = "" then sample.rsPubKey else sampleRequest.key) =
      some serverKey := by
  decide +kernel

theorem sample_named :
    decodeIdPk sample sampleRequest.signedIdPk serverKey = some ("123456789", deviceKey) := by
  decide +kernel

/-- The device answers at the door. -/
def device : Remote := { frame := .bytes ([26, 111, 10, 109] ++ deviceSigned) }

theorem connect_keyed_iff_device :
    ∃ connected, connect sample sampleDraw sampleRequest (doorAnsweredBy device) = .ok connected ∧
      Keyed sample sampleSigned sampleDraw "123456789" deviceKey connected := by
  have proves : device.Proves sample "123456789" deviceKey :=
    ⟨_, deviceSigned, streamKey, rfl, rfl, by decide +kernel⟩
  have keyed : (∀ connected,
      connect sample sampleDraw sampleRequest (doorAnsweredBy device) = .ok connected →
        Keyed sample sampleSigned sampleDraw "123456789" deviceKey connected) ↔ _ :=
    connect_keyed_iff sample_unforgeable sample_server sample_named
  have completes : ∃ connected,
      connect sample sampleDraw sampleRequest (doorAnsweredBy device) = .ok connected := ⟨_, rfl⟩
  obtain ⟨connected, returned⟩ := completes
  refine ⟨connected, returned, keyed.mpr ?_ connected returned⟩
  intro route remote reached
  have same : reach sampleRequest (doorAnsweredBy device) =
      .ok (some (.upnp "203.0.113.7:21118"), device) := rfl
  rw [same] at reached
  cases reached
  exact .inl proves

/-- Somebody else answers at the door, with a frame that is no message. -/
def stranger : Remote := { frame := .bytes [255] }

/-- The connection succeeds without a key although the server vouched for the device. -/
theorem connect_unkeyed_stranger :
    getRsPk sample (if sampleRequest.key = "" then sample.rsPubKey else sampleRequest.key) =
        some serverKey ∧
      decodeIdPk sample sampleRequest.signedIdPk serverKey = some ("123456789", deviceKey) ∧
      ∃ connected, connect sample sampleDraw sampleRequest (doorAnsweredBy stranger) =
          .ok connected ∧ connected.typ = "UPnP" ∧ connected.stream.key = none ∧
        ¬ Keyed sample sampleSigned sampleDraw "123456789" deviceKey connected := by
  refine ⟨sample_server, sample_named, _, rfl, rfl, rfl, ?_⟩
  rintro ⟨-, -, -, -, keyed, -⟩
  cases keyed

end Sample

end ChainRemote.Link.SecureConnection
