import OrbitBuild.Core.Node
import OrbitBuild.Foundation.Base64Url
import OrbitBuild.Foundation.Wire

/-! # The Beacon

A Beacon is the ticket of a Doc as text: `orbit-v1-` and the base64url text of the
ticket's postcard bytes. How postcard writes a ticket is a parameter; the results
rely on it being a self-delimiting format. The texts that are accepted are exactly
those whose payload starts with a ticket, so a cut is always noticed, and bytes after
the ticket never are.
-/

namespace OrbitBuild

variable {curve : Curve}

/-- What a ticket allows its holder to do with the Doc. -/
inductive Capability
  | write (secret : Bytes32)
  | read (id : Bytes32)
  deriving DecidableEq

/-- The ticket of a Doc: its capability and the peers to start from. -/
structure DocTicket (curve : Curve) where
  capability : Capability
  nodes : List (EndpointAddr curve)
  deriving DecidableEq

/-- A ticket as the membership credential. -/
structure Beacon (curve : Curve) where
  docTicket : DocTicket curve
  deriving DecidableEq

/-- `BEACON_PREFIX`. -/
def beaconPrefix : String := "orbit-v1-"

namespace Beacon

def new (docTicket : DocTicket curve) : Beacon curve := ⟨docTicket⟩

/-- The text of a payload. -/
def payloadText (payload : List UInt8) : String := beaconPrefix ++ Base64Url.encode payload

variable (format : Wire (DocTicket curve))

def serialize (beacon : Beacon curve) : String := payloadText (format.put beacon.docTicket)

/-- The Beacon of a text, or the outermost message of the error. -/
def deserialize (s : String) : Except String (Beacon curve) :=
  match stripPrefix (Utf8.encode beaconPrefix) (Utf8.encode s) with
  | none => .error ("Beacon must start with '" ++ beaconPrefix ++ "'")
  | some encoded =>
      match Base64Url.decode encoded with
      | none => .error "failed to decode Beacon base64url payload"
      | some payload =>
          match format.fromBytes payload with
          | none => .error "failed to decode Beacon postcard payload"
          | some docTicket => .ok ⟨docTicket⟩

/-- `Display`. -/
def display (beacon : Beacon curve) : String := serialize format beacon

/-- `FromStr`. -/
def fromStr (s : String) : Except String (Beacon curve) := deserialize format s

/-! ## The three layers of the text -/

/-- The text of a payload is the prefix and the payload in base64url. -/
theorem utf8_payloadText (payload : List UInt8) :
    Utf8.encode (payloadText payload) =
      Utf8.encode beaconPrefix ++ Utf8.encode (Base64Url.encode payload) := by
  rw [payloadText, Utf8.encode_append]

/-- Different payloads have different texts. -/
theorem payloadText_injective {first second : List UInt8}
    (same : payloadText first = payloadText second) : first = second := by
  have bytes := congrArg Utf8.encode same
  rw [utf8_payloadText, utf8_payloadText, List.append_cancel_left_eq] at bytes
  have decoded := Base64Url.decode_encode first
  rw [bytes, Base64Url.decode_encode] at decoded
  exact (Option.some.inj decoded).symm

variable {format}

/-- The accepted texts are those of the payloads that start with a ticket. -/
theorem deserialize_eq_ok {s : String} {beacon : Beacon curve} :
    deserialize format s = .ok beacon ↔
      ∃ payload, s = payloadText payload ∧ format.fromBytes payload = some beacon.docTicket := by
  unfold deserialize
  constructor
  · intro decoded
    split at decoded
    · cases decoded
    · next encoded stripped =>
        split at decoded
        · cases decoded
        · next payload read =>
            split at decoded
            · cases decoded
            · next docTicket taken =>
                cases decoded
                refine ⟨payload, Utf8.encode_injective ?_, taken⟩
                rw [stripPrefix_eq_some.mp stripped, Base64Url.decode_eq_some.mp read,
                  utf8_payloadText]
  · intro both
    obtain ⟨payload, rfl, taken⟩ := both
    have stripped := stripPrefix_eq_some.mpr (utf8_payloadText payload)
    simp only [stripped, Base64Url.decode_encode, taken]

/-- The text of a payload can be printed. -/
theorem printable_payloadText (payload : List UInt8) : Text.Printable (payloadText payload) := by
  have shown : (beaconPrefix.toList.all fun char => 0x20 < char.toNat ∧ char.toNat < 0x7F) =
      true := rfl
  have front : Text.Printable beaconPrefix := fun char member =>
    of_decide_eq_true (List.all_eq_true.mp shown char member)
  exact front.append (Base64Url.encode_printable payload)

/-- A cut inside the payload leaves a cut payload. -/
theorem payload_of_prefix {first second : List UInt8}
    (cut : (payloadText first).toList <+: (payloadText second).toList) : first <+: second := by
  obtain ⟨more, whole⟩ := cut
  have bytes := congrArg (fun chars => Utf8.encode (String.ofList chars)) whole
  simp only [String.ofList_append, String.ofList_toList, Utf8.encode_append, utf8_payloadText,
    List.append_assoc, List.append_cancel_left_eq] at bytes
  exact Base64Url.prefix_of_decode ⟨_, bytes⟩ (Base64Url.decode_encode first)

end Beacon

/-! ## Postcard -/

/-- Thirty-two bytes after their number. -/
def Bytes32.counted : Wire Bytes32 :=
  Wire.restrict (Wire.counted Wire.byte)
    (fun bytes => if length : bytes.length = 32 then some ⟨bytes, length⟩ else none) Subtype.val

namespace DocTicket

def capabilityWire : Wire Capability :=
  Wire.restrict (Wire.either Bytes32.counted (Wire.block 32))
    (fun raw => some (raw.elim Capability.write Capability.read))
    fun
      | .write secret => .inl secret
      | .read id => .inr id

def portWire : Wire UInt16 :=
  Wire.restrict Wire.varint (fun value => if value < 65536 then some (.ofNat value) else none)
    UInt16.toNat

/-- The octets as they are, and the port. -/
def socketAddrWire : Wire SocketAddr :=
  Wire.restrict
    (Wire.either (Wire.pair (Wire.block 4) portWire) (Wire.pair (Wire.block 16) portWire))
    (fun raw => some (raw.elim (fun v4 => .v4 v4.1 v4.2) fun v6 => .v6 v6.1 v6.2))
    fun
      | .v4 octets port => .inl (octets, port)
      | .v6 octets port => .inr (octets, port)

/-- The URL of a relay as text, and an IP address in binary. -/
def transportAddrWire : Wire TransportAddr :=
  Wire.restrict (Wire.either Wire.text socketAddrWire)
    (fun raw => some (raw.elim .relay .ip))
    fun
      | .relay url => .inl url
      | .ip addr => .inr addr

/-- The public key, and the addresses after their number. -/
def endpointAddrWire : Wire (EndpointAddr curve) :=
  Wire.restrict (Wire.pair (Wire.block 32) (Wire.counted transportAddrWire))
    (fun raw => (PublicKey.fromBytes raw.1.1).map fun id => ⟨id, raw.2⟩)
    fun addr => (⟨addr.id.bytes, addr.id.length_eq⟩, addr.addrs)

/-- A format for tickets by the rules of postcard. -/
def postcard : Wire (DocTicket curve) :=
  Wire.restrict (Wire.pair capabilityWire (Wire.counted endpointAddrWire))
    (fun raw => some ⟨raw.1, raw.2⟩) fun ticket => (ticket.capability, ticket.nodes)

theorem capabilityWire_lawful : capabilityWire.Lawful := by
  refine Wire.restrict_lawful (Wire.either_lawful ?_ (Wire.block_lawful 32)) fun value => ?_
  · exact Wire.restrict_lawful (Wire.counted_lawful Wire.byte_lawful) fun value => dif_pos value.2
  · cases value <;> rfl

theorem portWire_lawful : portWire.Lawful := by
  refine Wire.restrict_lawful Wire.varint_lawful fun port => ?_
  rw [if_pos port.toNat_lt, UInt16.ofNat_toNat]

theorem socketAddrWire_lawful : socketAddrWire.Lawful := by
  refine Wire.restrict_lawful (Wire.either_lawful
    (Wire.pair_lawful (Wire.block_lawful 4) portWire_lawful)
    (Wire.pair_lawful (Wire.block_lawful 16) portWire_lawful)) fun addr => ?_
  cases addr <;> rfl

theorem transportAddrWire_lawful : transportAddrWire.Lawful := by
  refine Wire.restrict_lawful (Wire.either_lawful Wire.text_lawful socketAddrWire_lawful)
    fun addr => ?_
  cases addr <;> rfl

theorem endpointAddrWire_lawful : (endpointAddrWire : Wire (EndpointAddr curve)).Lawful := by
  refine Wire.restrict_lawful (Wire.pair_lawful (Wire.block_lawful 32)
    (Wire.counted_lawful transportAddrWire_lawful)) fun addr => ?_
  have key : (PublicKey.fromBytes addr.id.bytes : Option (PublicKey curve)) = some addr.id :=
    PublicKey.fromBytes_eq_some.mpr rfl
  rw [key, Option.map_some]

theorem postcard_lawful : (postcard : Wire (DocTicket curve)).Lawful :=
  Wire.restrict_lawful
    (Wire.pair_lawful capabilityWire_lawful (Wire.counted_lawful endpointAddrWire_lawful))
    fun _ => rfl

/-- A ticket to read one namespace, without peers. -/
def readOnly : DocTicket Curve.full := ⟨.read ⟨List.replicate 32 42, rfl⟩, []⟩

/-- The port 4433 of 192.0.2.1. -/
def documentationAddr : SocketAddr := .v4 ⟨[192, 0, 2, 1], rfl⟩ 4433

example : transportAddrWire.put (.ip documentationAddr) =
    [0x01, 0x00, 0xC0, 0x00, 0x02, 0x01, 0xD1, 0x22] := by
  change [1, 0, 192, 0, 2, 1] ++ Wire.putVarint 4433 = _
  rw [Wire.putVarint, Wire.putVarint]
  rfl

/-- A ticket to write, with a peer behind a relay. -/
def writable : DocTicket Curve.full :=
  ⟨.write ⟨List.replicate 32 7, rfl⟩,
    [⟨.ofByte 1, [.relay "https://relay.example/", .ip documentationAddr]⟩]⟩

end DocTicket

namespace Beacon

variable {format : Wire (DocTicket curve)}

/-! ## Round trip, truncation and slack -/

/-- **Every Beacon survives its text**, whether it is written by `serialize` or shown. -/
theorem parse_written
    (decodes : ∀ docTicket, format.fromBytes (format.put docTicket) = some docTicket)
    (docTicket : DocTicket curve) :
    deserialize format (serialize format (.new docTicket)) = .ok (.new docTicket) ∧
      fromStr format (display format (.new docTicket)) = .ok (.new docTicket) := by
  have parsed : deserialize format (serialize format (.new docTicket)) = .ok (.new docTicket) :=
    deserialize_eq_ok.mpr ⟨_, rfl, decodes docTicket⟩
  exact ⟨parsed, parsed⟩

theorem parse_written_writable :
    deserialize DocTicket.postcard (serialize DocTicket.postcard (.new .writable)) =
        .ok (.new .writable) ∧
      fromStr DocTicket.postcard (display DocTicket.postcard (.new .writable)) =
        .ok (.new .writable) :=
  parse_written DocTicket.postcard_lawful.fromBytes_put .writable

theorem serialize_readOnly :
    serialize DocTicket.postcard (.new .readOnly) =
      "orbit-v1-ASoqKioqKioqKioqKioqKioqKioqKioqKioqKioqKioqAA" := by
  have count : Wire.putVarint 0 = [0] := by rw [Wire.putVarint]; rfl
  have payload : DocTicket.postcard.put .readOnly = 1 :: List.replicate 32 42 ++ [0] := by
    change 1 :: List.replicate 32 42 ++ (Wire.putVarint 0 ++ []) = _
    rw [count, List.append_nil]
  rw [serialize, new, payload]
  decide

/-- **No cut is accepted.** A proper front part of a Beacon's text is refused. -/
theorem deserialize_truncated (lawful : format.Lawful) (docTicket : DocTicket curve) {s : String}
    (cut : s.toList <+: (serialize format (.new docTicket)).toList)
    (proper : s ≠ serialize format (.new docTicket)) :
    ∃ error, deserialize format s = .error error := by
  cases decoded : deserialize format s with
  | error error => exact ⟨error, rfl⟩
  | ok beacon =>
      obtain ⟨payload, rfl, taken⟩ := deserialize_eq_ok.mp decoded
      have shorter : payload <+: format.put docTicket := payload_of_prefix cut
      have different : payload ≠ format.put docTicket := fun same => proper (by rw [same]; rfl)
      rw [Wire.fromBytes, lawful.take_eq_none_of_prefix shorter different] at taken
      cases taken

theorem deserialize_truncated_readOnly :
    ∃ error, deserialize (DocTicket.postcard : Wire (DocTicket Curve.full))
      "orbit-v1-ASoqKioqKioqKioqKioqKioqKioqKioqKioqKioqKioq" = .error error :=
  deserialize_truncated DocTicket.postcard_lawful .readOnly
    (by rw [serialize_readOnly]; decide) (by rw [serialize_readOnly]; decide)

/-- **What is accepted.** An accepted text is that of one payload, and the ticket is
read off the front of it. The text is the Beacon's own exactly when the payload is
the ticket's own encoding; payload bytes after the ticket change nothing. -/
theorem serialize_of_deserialize (lawful : format.Lawful) {s : String} {beacon : Beacon curve}
    (decoded : deserialize format s = .ok beacon) :
    ∃ payload, (∀ other, s = payloadText other ↔ other = payload) ∧
      format.fromBytes payload = some beacon.docTicket ∧
      (serialize format beacon = s ↔ payload = format.put beacon.docTicket) ∧
      (∀ extra, deserialize format (payloadText (payload ++ extra)) = .ok beacon) ∧
      deserialize format (serialize format beacon) = .ok beacon := by
  obtain ⟨payload, rfl, taken⟩ := deserialize_eq_ok.mp decoded
  refine ⟨payload, fun other => ?_, taken, ?_, fun extra => ?_, ?_⟩
  · constructor
    · intro same
      exact (payloadText_injective same).symm
    · intro same
      rw [same]
  · constructor
    · intro same
      exact (payloadText_injective same).symm
    · intro same
      rw [same, serialize]
  · obtain ⟨unused, read⟩ := Wire.fromBytes_eq_some.mp taken
    exact deserialize_eq_ok.mpr
      ⟨_, rfl, Wire.fromBytes_eq_some.mpr ⟨unused ++ extra, lawful.take_append read extra⟩⟩
  · exact deserialize_eq_ok.mpr ⟨_, rfl, lawful.fromBytes_put beacon.docTicket⟩

/-- The ticket to read one namespace with a zero byte after it. -/
def unusedByte : String := "orbit-v1-ASoqKioqKioqKioqKioqKioqKioqKioqKioqKioqKioqAAA"

theorem deserialize_unusedByte :
    deserialize DocTicket.postcard unusedByte = .ok (.new .readOnly) := by
  decide

theorem serialize_of_deserialize_unusedByte :
    ∃ payload, (∀ other, unusedByte = payloadText other ↔ other = payload) ∧
      DocTicket.postcard.fromBytes payload = some DocTicket.readOnly ∧
      (serialize DocTicket.postcard (.new .readOnly) = unusedByte ↔
        payload = DocTicket.postcard.put .readOnly) ∧
      (∀ extra, deserialize DocTicket.postcard (payloadText (payload ++ extra)) =
        .ok (.new .readOnly)) ∧
      deserialize DocTicket.postcard (serialize DocTicket.postcard (.new .readOnly)) =
        .ok (.new .readOnly) :=
  serialize_of_deserialize DocTicket.postcard_lawful deserialize_unusedByte

/-- The text with an unused byte denotes the same Beacon and is not its own. -/
theorem unusedByte_accepted :
    deserialize DocTicket.postcard unusedByte = .ok (.new .readOnly) ∧
      serialize DocTicket.postcard (.new .readOnly) ≠ unusedByte := by
  rw [serialize_readOnly]
  exact ⟨deserialize_unusedByte, by decide⟩

end Beacon

end OrbitBuild
