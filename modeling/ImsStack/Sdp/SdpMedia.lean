import ImsStack.Sdp.SdpText

/-!
`SdpMedia`: the m-line, with its media type, port, transport protocol and formats.
-/

namespace ImsStack.Sdp

open Platform.AString

inductive MediaType where
  | invalid | audio | video | text | application | message | other
  deriving DecidableEq, Repr

/-- `SdpMedia::MEDIA`; there is no text for the other types. -/
def MediaType.name : MediaType → String
  | .audio => "audio"
  | .video => "video"
  | .text => "text"
  | .application => "application"
  | .message => "message"
  | .invalid | .other => ""

inductive TransportProtocol where
  | invalid | udp | rtpAvp | rtpAvpf | rtpSavp | rtpSavpf | udpTlsRtpSavp | tcp | tcpMsrp
  | tcpTlsMsrp | other
  deriving DecidableEq, Repr

/-- `SdpMedia::TRANSPORT`. -/
def TransportProtocol.name : TransportProtocol → String
  | .udp => "udp"
  | .rtpAvp => "RTP/AVP"
  | .rtpAvpf => "RTP/AVPF"
  | .rtpSavp => "RTP/SAVP"
  | .rtpSavpf => "RTP/SAVPF"
  | .udpTlsRtpSavp => "UDP/TLS/RTP/SAVP"
  | .tcp => "tcp"
  | .tcpMsrp => "TCP/MSRP"
  | .tcpTlsMsrp => "TCP/TLS/MSRP"
  | .invalid | .other => ""

structure SdpMedia where
  mediaType : MediaType := .invalid
  strMediaType : Chars := []
  port : Int := 0
  numOfPort : Int := 0
  transportProtocol : TransportProtocol := .invalid
  strTransportProtocol : Chars := []
  formats : List Chars := []
  deriving DecidableEq, Repr

namespace SdpMedia

def decodeType (strMediaType : Chars) : MediaType :=
  ([MediaType.audio, .video, .text, .application, .message].find? fun type =>
    equalsIgnoreCaseLiteral strMediaType type.name).getD .other

/-- The port info: the port, and the number of ports behind a slash. -/
def decodePort (portInfo : Chars) : Option (Int × Int) :=
  match portInfo.dropWhile (· ≠ '/') with
  | [] => (toInt32? portInfo).map (·, 0)
  | _ :: strNumOfPort => do
    let port ← toInt32? (portInfo.takeWhile (· ≠ '/'))
    let numOfPort ← toInt32? strNumOfPort
    return (port, numOfPort)

def decodeTransportProtocol (strTransportProtocol : Chars) : TransportProtocol :=
  ([TransportProtocol.udp, .rtpAvp, .rtpAvpf, .rtpSavp, .rtpSavpf, .udpTlsRtpSavp, .tcp, .tcpMsrp,
    .tcpTlsMsrp].find? fun transport =>
      equalsIgnoreCaseLiteral strTransportProtocol transport.name).getD .other

/-- A protocol that is not one of the table: tokens with slashes between them. -/
def isOtherTransportProtocol (strTransportProtocol : Chars) : Bool :=
  if '/' ∈ strTransportProtocol then (split '/' strTransportProtocol).all isTokenString
  else isTokenString strTransportProtocol

def decode (value : Chars) : Option SdpMedia :=
  match splitLine 4 value with
  | some [strMediaType, portInfo, strTransportProtocol, payloads] => do
    let mediaType := decodeType strMediaType
    guard (mediaType = .other → isTokenString strMediaType)
    let (port, numOfPort) ← decodePort portInfo
    let transportProtocol := decodeTransportProtocol strTransportProtocol
    guard (transportProtocol = .other → isOtherTransportProtocol strTransportProtocol)
    -- An empty rest of the line is a null string, which splits into nothing.
    let formats := if payloads = [] then [] else split ' ' payloads
    guard (formats.all isTokenString)
    return { mediaType, strMediaType, port, numOfPort, transportProtocol, strTransportProtocol,
             formats }
  | _ => none

/-- The port, with the number of ports behind a slash. -/
def portValue (m : SdpMedia) : Chars :=
  setNumber m.port ++ if m.numOfPort ≠ 0 then '/' :: setNumber m.numOfPort else []

def value (m : SdpMedia) : Chars :=
  m.strMediaType ++ ' ' :: (m.portValue ++ ' ' :: (m.strTransportProtocol ++
    m.formats.flatMap (' ' :: ·)))

/-- `SdpMedia::SetValue` without a name for another transport protocol; what fails on the way is
left as it was. -/
def setValue (m : SdpMedia) (type : MediaType) (port : Int) (transportProtocol : TransportProtocol)
    (formats : List Chars) (otherType : Chars) : SdpMedia :=
  if type = .invalid ∨ transportProtocol = .invalid then m
  else if type = .other ∧ !isTokenString otherType then { m with mediaType := type }
  else
    let m := { m with
      mediaType := type
      strMediaType := if type = .other then otherType else type.name.toList
      port := port
      numOfPort := 0
      transportProtocol := transportProtocol }
    if transportProtocol = .other then m
    else
      let m := { m with strTransportProtocol := transportProtocol.name.toList }
      if formats.all isTokenString then { m with formats := formats } else m

end SdpMedia

end ImsStack.Sdp
