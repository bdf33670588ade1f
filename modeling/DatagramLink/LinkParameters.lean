import DatagramLink.Bytes

namespace DatagramLink

/-- The version of the protocol that an end speaks. Only the major number decides who gets
along. -/
structure ProtocolVersion where
  major : UInt8
  minor : UInt8
  patch : UInt16
  deriving DecidableEq, Repr

/-- The version that this protocol is. -/
def ProtocolVersion.current : ProtocolVersion := ⟨1, 0, 0⟩

/-- The version as it stands in the text of an error. -/
def ProtocolVersion.describe (version : ProtocolVersion) : String :=
  s!"ProtocolVersion \x7b major: {version.major.toNat}, minor: {version.minor.toNat}, " ++
    s!"patch: {version.patch.toNat} \x7d"

/-- What the two ends tell each other when they reset the link: the protocol version and the
limits of their receive side. -/
structure LinkParameters where
  version : ProtocolVersion
  /-- The largest payload this side accepts in one packet. -/
  rxMtu : UInt16
  /-- How many packets may be unacknowledged at a time. -/
  window : UInt16
  timeoutMilliseconds : UInt16
  deriving DecidableEq, Repr

/-- The bytes of the parameters on the wire, and the payload of a handshake packet. -/
def LinkParameters.size : Nat := 10

/-- The parameters on the wire, each field low byte first. -/
def LinkParameters.encode (parameters : LinkParameters) : Bytes :=
  [parameters.version.major, parameters.version.minor] ++ le16 parameters.version.patch ++
    le16 parameters.rxMtu ++ le16 parameters.window ++ le16 parameters.timeoutMilliseconds

theorem LinkParameters.length_encode (parameters : LinkParameters) :
    parameters.encode.length = LinkParameters.size := rfl

/-- Why a byte string does not begin with link parameters. -/
inductive ParametersError where
  | incomplete (available : Nat)
  deriving DecidableEq, Repr

/-- The text of the error. -/
def ParametersError.message : ParametersError → String
  | .incomplete available =>
    s!"transport configuration requires {LinkParameters.size} bytes, got {available}"

/-- Reads the parameters off the front and leaves the rest. Any ten bytes can be read. -/
def LinkParameters.decode : Bytes → Except ParametersError (LinkParameters × Bytes)
  | major :: minor :: p₀ :: p₁ :: r₀ :: r₁ :: w₀ :: w₁ :: t₀ :: t₁ :: rest =>
    .ok (⟨⟨major, minor, ofLe16 p₀ p₁⟩, ofLe16 r₀ r₁, ofLe16 w₀ w₁, ofLe16 t₀ t₁⟩, rest)
  | short => .error (.incomplete short.length)

theorem LinkParameters.decode_encode (parameters : LinkParameters) (rest : Bytes) :
    LinkParameters.decode (parameters.encode ++ rest) = .ok (parameters, rest) := by
  simp only [LinkParameters.encode, le16, List.cons_append, List.nil_append,
    LinkParameters.decode, ofLe16_bytes]

/-- Why a peer is not accepted. -/
inductive Incompatibility where
  | version (peer here : ProtocolVersion)
  | window (size : UInt16)
  | noReceiveSpace
  deriving DecidableEq, Repr

/-- The text of the error. -/
def Incompatibility.message : Incompatibility → String
  | .version peer here =>
    s!"incompatible protocol version {peer.describe}, local version is {here.describe}"
  | .window size => s!"unsupported window size {size.toNat}"
  | .noReceiveSpace => "peer advertises a receive MTU of 0"

/-- Versions of one major number understand each other, and only a window of one packet is
supported. -/
def LinkParameters.checkPeer (here peer : LinkParameters) : Except Incompatibility Unit :=
  if peer.version.major ≠ here.version.major then .error (.version peer.version here.version)
  else if peer.window ≠ 1 then .error (.window peer.window)
  else if peer.rxMtu = 0 then .error .noReceiveSpace
  else .ok ()

end DatagramLink
