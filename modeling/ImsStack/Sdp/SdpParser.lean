import ImsStack.Sdp.SdpLines
import ImsStack.Sdp.SdpMedia
import ImsStack.Sdp.SdpAttribute

/-!
`SdpParser`, `SdpSessionDescription` and `SdpMediaDescription`: a text is cut into
lines, the lines in front of the first m-line are the session description and each
m-line begins a media description.  An encoded description is given by its lines.
-/

namespace ImsStack.Sdp

open Platform.AString

/-- The lines of a line class that has a text for the value. -/
def encodedLine (type : Char) (isValid : Bool) (value : Chars) : List Chars :=
  if isValid then [sdpLine type value] else []

structure SdpDescription where
  information : Option SdpInformation := none
  encryptionKey : Option SdpEncryptionKey := none
  bandwidths : List SdpBandwidth := []
  attributes : List SdpAttribute := []
  deriving DecidableEq, Repr

/-- An a-line with an rtpmap or an fmtp, which has to parse. -/
def isFormatAttribute (body : Chars) : Bool :=
  "rtpmap".toList.isPrefixOf body || "fmtp".toList.isPrefixOf body

namespace SdpDescription

/-- One turn of `SdpDescription::Decode`.  An a-line that does not parse is skipped unless it is
an rtpmap or an fmtp. -/
def decodeLine (d : SdpDescription) (line : Chars) : Option SdpDescription :=
  let body := lineBody line
  match line.head? with
  | some 'i' => do
    guard d.information.isNone
    let information ← SdpInformation.decode body
    return { d with information := some information }
  | some 'b' => do
    let bandwidth ← SdpBandwidth.decode body
    return { d with bandwidths := d.bandwidths ++ [bandwidth] }
  | some 'k' => do
    guard d.encryptionKey.isNone
    let key ← SdpEncryptionKey.decode body
    return { d with encryptionKey := some key }
  | some 'a' =>
    match SdpAttribute.decode body with
    | some a => some { d with attributes := d.attributes ++ [a] }
    | none => if isFormatAttribute body then none else some d
  | _ => some d

def decode (lines : List Chars) : Option SdpDescription := lines.foldlM decodeLine {}

def informationLines (d : SdpDescription) : List Chars :=
  d.information.toList.flatMap fun i => encodedLine 'i' (!i.information.isEmpty) i.information

def bandwidthLines (d : SdpDescription) : List Chars :=
  d.bandwidths.flatMap fun b => encodedLine 'b' (!b.strType.isEmpty) b.value

def keyLines (d : SdpDescription) : List Chars :=
  d.encryptionKey.toList.map fun k => sdpLine 'k' k.value

def attributeLines (d : SdpDescription) : List Chars :=
  d.attributes.flatMap fun a => encodedLine 'a' (!a.strAttribute.isEmpty) a.value

end SdpDescription

structure SdpTimeDescription where
  time : SdpTime
  repeatTimes : List SdpRepeatTime
  deriving DecidableEq, Repr

def SdpTimeDescription.lines (t : SdpTimeDescription) : List Chars :=
  sdpLine 't' t.time.value :: t.repeatTimes.flatMap fun r => encodedLine 'r' r.isValid r.value

/-- The lines of a session description read so far: the three lines that have to be there are
`none` until they have been read. -/
structure SessionLines where
  version : Option SdpVersion := none
  origin : Option SdpOrigin := none
  sessionName : Option SdpSessionName := none
  uri : Option SdpUri := none
  connection : Option SdpConnection := none
  timeDescriptions : List SdpTimeDescription := []
  timezone : Option SdpTimezone := none
  deriving DecidableEq, Repr

structure SdpSessionDescription extends SdpDescription where
  version : SdpVersion
  origin : SdpOrigin
  sessionName : SdpSessionName
  uri : Option SdpUri := none
  connection : Option SdpConnection := none
  timeDescriptions : List SdpTimeDescription := []
  timezone : Option SdpTimezone := none
  deriving DecidableEq, Repr

namespace SessionLines

/-- The loop of `SdpSessionDescription::Decode`.  A t-line takes the r-lines that follow it. -/
def decode : SessionLines → List Chars → Option SessionLines
  | d, [] => some d
  | d, line :: lines => do
    let body := lineBody line
    let d ← match line.head? with
      | some 'v' => do
        guard d.version.isNone
        let version ← SdpVersion.decode body
        pure { d with version := some version }
      | some 'o' => do
        guard d.origin.isNone
        let origin ← SdpOrigin.decode body
        pure { d with origin := some origin }
      | some 's' => do
        guard d.sessionName.isNone
        let sessionName ← SdpSessionName.decode body
        pure { d with sessionName := some sessionName }
      | some 'c' => do
        guard d.connection.isNone
        let connection ← SdpConnection.decode body
        pure { d with connection := some connection }
      | some 'u' => do
        guard d.uri.isNone
        let uri ← SdpUri.decode body
        pure { d with uri := some uri }
      | some 't' => do
        let time ← SdpTime.decode body
        let repeatLines := lines.takeWhile (·.head? = some 'r')
        let repeatTimes ← repeatLines.mapM fun line => SdpRepeatTime.decode (lineBody line)
        pure { d with timeDescriptions := d.timeDescriptions ++ [{ time, repeatTimes }] }
      | some 'z' => do
        guard d.timezone.isNone
        let timezone ← SdpTimezone.decode body
        pure { d with timezone := some timezone }
      | _ => pure d
    decode d lines

end SessionLines

namespace SdpSessionDescription

def decode (lines : List Chars) : Option SdpSessionDescription := do
  let d ← SessionLines.decode {} lines
  let version ← d.version
  let origin ← d.origin
  let sessionName ← d.sessionName
  guard (d.timeDescriptions ≠ [])
  let description ← SdpDescription.decode lines
  return { description with
    version, origin, sessionName
    uri := d.uri
    connection := d.connection
    timeDescriptions := d.timeDescriptions
    timezone := d.timezone }

/-- The lines of `SdpSessionDescription::Encode`: v, o, s, i, u, c, b, t with r, z, k, a. -/
def lines (d : SdpSessionDescription) : List Chars :=
  sdpLine 'v' d.version.value :: encodedLine 'o' d.origin.isValid d.origin.value ++
    sdpLine 's' d.sessionName.name :: d.informationLines ++
    d.uri.toList.flatMap (fun u => encodedLine 'u' (!u.uri.isEmpty) u.uri) ++
    d.connection.toList.flatMap (fun c => encodedLine 'c' c.isValid c.value) ++
    d.bandwidthLines ++ d.timeDescriptions.flatMap SdpTimeDescription.lines ++
    d.timezone.toList.flatMap (fun z => encodedLine 'z' (!z.zoneAdjustments.isEmpty) z.value) ++
    d.keyLines ++ d.attributeLines

end SdpSessionDescription

structure SdpMediaDescription extends SdpDescription where
  media : SdpMedia
  connections : List SdpConnection
  deriving DecidableEq, Repr

namespace SdpMediaDescription

/-- `SdpMediaDescription::Decode`, of an m-line and the lines up to the next m-line. -/
def decode (mediaLine : Chars) (lines : List Chars) : Option SdpMediaDescription := do
  let media ← SdpMedia.decode (lineBody mediaLine)
  let connections ← (lines.filter (·.head? = some 'c')).mapM fun line =>
    SdpConnection.decode (lineBody line)
  let description ← SdpDescription.decode lines
  return { description with media, connections }

/-- The lines of `SdpMediaDescription::Encode`: m, i, c, b, k, a. -/
def lines (d : SdpMediaDescription) : List Chars :=
  sdpLine 'm' d.media.value :: (d.informationLines ++
    d.connections.flatMap (fun c => encodedLine 'c' c.isValid c.value) ++ d.bandwidthLines ++
    d.keyLines ++ d.attributeLines)

end SdpMediaDescription

/-- The lines in front of the first m-line, and each m-line with the lines up to the next one. -/
def mediaSections : List Chars → List Chars × List (Chars × List Chars)
  | [] => ([], [])
  | line :: lines =>
    let (front, sections) := mediaSections lines
    if line.head? = some 'm' then ([], (line, front) :: sections) else (line :: front, sections)

structure SdpParser where
  sessionDescription : SdpSessionDescription
  mediaDescriptions : List SdpMediaDescription
  deriving DecidableEq, Repr

namespace SdpParser

def decodeLines (lines : List Chars) : Option SdpParser := do
  let sessionDescription ← SdpSessionDescription.decode (mediaSections lines).1
  let mediaDescriptions ← (mediaSections lines).2.mapM fun (mediaLine, lines) =>
    SdpMediaDescription.decode mediaLine lines
  return { sessionDescription, mediaDescriptions }

/-- `SdpParser::Decode`. -/
def decode (sdp : Chars) : Option SdpParser := decodeLines (splitLines sdp)

/-- The encodings of the session description and of the media descriptions. -/
def lines (p : SdpParser) : List Chars :=
  p.sessionDescription.lines ++ p.mediaDescriptions.flatMap SdpMediaDescription.lines

end SdpParser

/-- A text from its lines. -/
def encodeLines (lines : List Chars) : Chars := lines.flatMap (· ++ crlf)

def SdpParser.encode (p : SdpParser) : Chars := encodeLines p.lines

end ImsStack.Sdp
