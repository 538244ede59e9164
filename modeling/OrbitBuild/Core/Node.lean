import OrbitBuild.Foundation.Hex

/-! # Node identities, Doc keys and satellite entries

A node is known by its ed25519 public key. Which 32-byte strings are points of
the curve is left open (`Curve`); the code itself only relies on the zero string
being one, since it builds the placeholder address of an offline entry from it.
-/

namespace OrbitBuild

/-- A secret key, or the identifier of a namespace. -/
abbrev Bytes32 := { bytes : List UInt8 // bytes.length = 32 }

/-- The 32-byte strings that are public keys. -/
structure Curve where
  isPoint : List UInt8 → Bool
  isPoint_zero : isPoint (List.replicate 32 0) = true

/-- The most generous curve, on which every string is a point. -/
def Curve.full : Curve := ⟨fun _ => true, rfl⟩

/-- A public key: 32 bytes that encode a point. -/
structure PublicKey (curve : Curve) where
  bytes : List UInt8
  length_eq : bytes.length = 32
  onCurve : curve.isPoint bytes = true
  deriving DecidableEq

variable {curve : Curve}

namespace PublicKey

/-- `PublicKey::from_bytes` on a byte string of any length. -/
def fromBytes (bytes : List UInt8) : Option (PublicKey curve) :=
  if length : bytes.length = 32 then
    if point : curve.isPoint bytes = true then some ⟨bytes, length, point⟩ else none
  else none

/-- A key is built from its own bytes and no others. -/
theorem fromBytes_eq_some {bytes : List UInt8} {key : PublicKey curve} :
    fromBytes bytes = some key ↔ bytes = key.bytes := by
  constructor
  · intro accepted
    unfold fromBytes at accepted
    split at accepted
    · split at accepted
      · cases accepted
        rfl
      · cases accepted
    · cases accepted
  · rintro rfl
    rw [fromBytes, dif_pos key.length_eq, dif_pos key.onCurve]

/-- The key of the placeholder address, `from_bytes(&[0u8; 32]).unwrap()`. -/
def zero : PublicKey curve := ⟨List.replicate 32 0, List.length_replicate, curve.isPoint_zero⟩

/-- `Display`: the lower-case hexadecimal digits of the key. -/
def display (key : PublicKey curve) : String := Hex.encode key.bytes

/-- A key of one repeated byte. The bytes that are used are 1, 3, 6 and 9, for which the string
is a point of ed25519. -/
def ofByte (byte : UInt8) : PublicKey Curve.full :=
  ⟨List.replicate 32 byte, List.length_replicate, rfl⟩

/-- A key is determined by its bytes. -/
theorem ext_bytes {first second : PublicKey curve} (same : first.bytes = second.bytes) :
    first = second := by
  cases first
  cases second
  cases same
  rfl

/-- Different keys are displayed differently. -/
theorem display_injective {first second : PublicKey curve}
    (same : first.display = second.display) : first = second :=
  ext_bytes (Hex.encode_injective same)

/-- A displayed key is ASCII. -/
theorem display_ascii (key : PublicKey curve) : ∀ char ∈ key.display.toList, char.toNat < 0x80 :=
  Hex.encode_ascii key.bytes

end PublicKey

/-- An IP address with its port. An IPv6 address carries no flow label and no scope here:
they are not written into a ticket. -/
inductive SocketAddr
  | v4 (octets : { bytes : List UInt8 // bytes.length = 4 }) (port : UInt16)
  | v6 (octets : { bytes : List UInt8 // bytes.length = 16 }) (port : UInt16)
  deriving DecidableEq

/-- A way to reach an endpoint. -/
inductive TransportAddr
  | relay (url : String)
  | ip (addr : SocketAddr)
  deriving DecidableEq

/-- The address of an endpoint: its key and the ways to reach it. -/
structure EndpointAddr (curve : Curve) where
  id : PublicKey curve
  addrs : List TransportAddr
  deriving DecidableEq

/-- An address with no known way to reach the endpoint. -/
def EndpointAddr.new (id : PublicKey curve) : EndpointAddr curve := ⟨id, []⟩

/-- The prefix of every satellite's key in the Doc. -/
def satellitePrefix : List UInt8 := Utf8.encode "satellite/"

/-- The key a node registers under, `satellite/<node_id>`. -/
def satelliteKey (node : PublicKey curve) : List UInt8 :=
  satellitePrefix ++ Utf8.encode node.display

/-- `<[u8]>::strip_prefix`. -/
def stripPrefix (front key : List UInt8) : Option (List UInt8) :=
  if front.isPrefixOf key then some (key.drop front.length) else none

/-- The node a key names: strict lower-case hexadecimal text of a public key. -/
def parseNodeIdFromHex (hexBytes : List UInt8) : Option (PublicKey curve) := do
  guard (Utf8.isValid hexBytes)
  let bytes ← Hex.decode hexBytes
  if bytes.length = 32 then PublicKey.fromBytes bytes else none

/-- The states a satellite can be in. -/
inductive SatelliteStatus
  | idle
  | busy
  | offline
  deriving DecidableEq, Repr

/-- `Display` for a status. -/
def SatelliteStatus.display : SatelliteStatus → String
  | .idle => "idle"
  | .busy => "busy"
  | .offline => "offline"

/-- What a satellite stores in the Doc under its key. -/
structure SatelliteEntry (curve : Curve) where
  nativeArch : String
  platforms : List String
  status : String
  endpointAddr : EndpointAddr curve
  registeredAt : UInt64
  deriving DecidableEq

/-- What follows a prefix is what remains without it. -/
theorem stripPrefix_append (front rest : List UInt8) :
    stripPrefix front (front ++ rest) = some rest := by
  have isPrefix : front.isPrefixOf (front ++ rest) = true :=
    List.isPrefixOf_iff_prefix.mpr (List.prefix_append front rest)
  rw [stripPrefix, if_pos isPrefix, List.drop_left]

/-- Only a prefix that is there can be stripped. -/
theorem stripPrefix_eq_some {front key rest : List UInt8} :
    stripPrefix front key = some rest ↔ key = front ++ rest := by
  constructor
  · intro stripped
    unfold stripPrefix at stripped
    split at stripped
    · next isPrefix =>
        obtain ⟨tail, rfl⟩ := List.isPrefixOf_iff_prefix.mp isPrefix
        rw [List.drop_left] at stripped
        rw [Option.some.inj stripped]
    · cases stripped
  · rintro rfl
    exact stripPrefix_append front rest

/-- A displayed key is valid UTF-8. -/
theorem isValid_display (node : PublicKey curve) :
    Utf8.isValid (Utf8.encode node.display) = true := by
  rw [Utf8.isValid, Utf8.pieces_ascii (Utf8.bytes_ascii node.display_ascii), List.all_map]
  exact List.all_eq_true.mpr fun _ _ => rfl

/-- The reader takes the display of a key for that key, and takes nothing else. -/
theorem parseNodeIdFromHex_eq_some {hexBytes : List UInt8} {node : PublicKey curve} :
    parseNodeIdFromHex hexBytes = some node ↔ hexBytes = Utf8.encode node.display := by
  constructor
  · intro parsed
    simp only [parseNodeIdFromHex, Option.bind_eq_bind, Option.bind_eq_some_iff] at parsed
    obtain ⟨-, -, bytes, decoded, accepted⟩ := parsed
    split at accepted
    · rw [PublicKey.display, ← PublicKey.fromBytes_eq_some.mp accepted]
      exact Hex.decode_eq_some.mp decoded
    · cases accepted
  · rintro rfl
    have decoded : Hex.decode (Utf8.encode node.display) = some node.bytes :=
      Hex.decode_encode node.bytes
    simp only [parseNodeIdFromHex, isValid_display, guard_true, decoded, node.length_eq,
      PublicKey.fromBytes_eq_some.mpr rfl, Option.bind_eq_bind, Option.pure_def, Option.bind_some,
      ↓reduceIte]

/-- The peer a Doc key names, if it is a well-formed satellite key. -/
def keyPeer (key : List UInt8) : Option (PublicKey curve) :=
  (stripPrefix satellitePrefix key).bind parseNodeIdFromHex

/-- A key names a peer when it is the key that peer registers under. -/
theorem keyPeer_eq_some {key : List UInt8} {node : PublicKey curve} :
    keyPeer key = some node ↔ key = satelliteKey node := by
  simp only [keyPeer, Option.bind_eq_some_iff, stripPrefix_eq_some, parseNodeIdFromHex_eq_some]
  constructor
  · rintro ⟨rest, rfl, rfl⟩
    rfl
  · intro written
    exact ⟨_, written, rfl⟩

/-- A satellite's key in the Doc names the satellite. -/
theorem keyPeer_satelliteKey (node : PublicKey curve) :
    keyPeer (satelliteKey node) = some node :=
  keyPeer_eq_some.mpr rfl

/-- Different nodes register under different keys. -/
theorem satelliteKey_injective {first second : PublicKey curve}
    (same : satelliteKey first = satelliteKey second) : first = second := by
  have peer := keyPeer_satelliteKey first
  rw [same, keyPeer_satelliteKey] at peer
  exact (Option.some.inj peer).symm

/-- No node's key is a front part of another's, so a write drops no record of another key. -/
theorem satelliteKey_prefix {first second : PublicKey curve}
    (front : satelliteKey first <+: satelliteKey second) : first = second := by
  have length : ∀ node : PublicKey curve,
      (satelliteKey node).length = satellitePrefix.length + 64 := by
    intro node
    rw [satelliteKey, List.length_append, PublicKey.display, Hex.length_utf8_encode,
      node.length_eq]
  exact satelliteKey_injective (front.eq_of_length (by rw [length, length]))

variable (curve) in
/-- What is wrong with a text that is not the name of a node: its length, a byte
that is no lower-case digit, bytes that are no text, or a string off the curve. -/
def MalformedNodeId (hexBytes : List UInt8) : Prop :=
  hexBytes.length ≠ 64 ∨ (∃ byte ∈ hexBytes, Hex.digitValue byte = none) ∨
    Utf8.isValid hexBytes = false ∨
    ∃ bytes, Hex.decode hexBytes = some bytes ∧ curve.isPoint bytes = false

/-- A displayed key is a well-formed node id. -/
theorem not_malformed_display (node : PublicKey curve) :
    ¬ MalformedNodeId curve (Utf8.encode node.display) := by
  rintro (length | ⟨byte, member, unread⟩ | invalid | ⟨bytes, decoded, off⟩)
  · apply length
    rw [PublicKey.display, Hex.length_utf8_encode, node.length_eq]
  · have read := Hex.isSome_digitValue_of_mem member
    rw [unread] at read
    cases read
  · rw [isValid_display] at invalid
    cases invalid
  · rw [PublicKey.display, Hex.decode_encode] at decoded
    cases decoded
    rw [node.onCurve] at off
    cases off

/-- **The node names in Doc keys.** The name registration writes is read back as
the node; a name that is read is exactly the one registration writes, so a node
has one key; and a malformed name is ignored. -/
theorem nodeId_codec :
    (∀ node : PublicKey curve,
      (stripPrefix satellitePrefix (satelliteKey node)).bind parseNodeIdFromHex = some node) ∧
    (∀ (hexBytes : List UInt8) (node : PublicKey curve),
      parseNodeIdFromHex hexBytes = some node → satellitePrefix ++ hexBytes = satelliteKey node) ∧
    (∀ (first second : List UInt8) (node : PublicKey curve),
      keyPeer first = some node → keyPeer second = some node → first = second) ∧
    ∀ hexBytes : List UInt8, MalformedNodeId curve hexBytes →
      (parseNodeIdFromHex hexBytes : Option (PublicKey curve)) = none := by
  refine ⟨keyPeer_satelliteKey, ?_, ?_, ?_⟩
  · intro hexBytes node parsed
    rw [parseNodeIdFromHex_eq_some.mp parsed, satelliteKey]
  · intro first second node firstPeer secondPeer
    rw [keyPeer_eq_some.mp firstPeer, keyPeer_eq_some.mp secondPeer]
  · intro hexBytes malformed
    cases parsed : (parseNodeIdFromHex hexBytes : Option (PublicKey curve)) with
    | none => rfl
    | some node =>
        rw [parseNodeIdFromHex_eq_some.mp parsed] at malformed
        exact absurd malformed (not_malformed_display node)

end OrbitBuild
