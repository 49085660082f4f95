import ImsStack.Platform.AString

/-!
`SipMessageFraming`, which cuts the byte stream of a connection into messages,
and the receive loop of `SipStreamSocket` that drives it.  A pointer into the
buffer is the rest of the buffer behind it; the byte behind the end is the NUL
that `ByteArray` keeps there.
-/

namespace ImsStack.Framing

open Platform.AString

/-- `SipMessageFraming::STATE_*`. -/
inductive State where
  | idle | created | clen | body | done
  deriving DecidableEq, Repr

structure SipMessageFraming where
  state : State := .idle
  contentLength : Int := 0
  offset : Int := 0
  gotBodyStart : Bool := false
  messageBuffer : Chars := []
  deriving DecidableEq, Repr

namespace SipMessageFraming

def isEmpty (f : SipMessageFraming) : Bool := f.messageBuffer.isEmpty

def appendPacket (f : SipMessageFraming) (packet : Chars) : SipMessageFraming :=
  if packet = [] then f
  else
    let f := { f with messageBuffer := f.messageBuffer ++ packet }
    if f.state = .idle ∧ !f.isEmpty then { f with state := .created } else f

end SipMessageFraming

def crlfcrlf : Chars := ['\r', '\n', '\r', '\n']

/-- `IMS_StrStr(p, STR_CRLFCRLF) - p`; the search ends at the first NUL. -/
def strStrCrlfCrlf : Chars → Option Nat
  | [] => none
  | c :: s =>
    if c = nul then none
    else if crlfcrlf.isPrefixOf (c :: s) then some 0
    else (strStrCrlfCrlf s).map (· + 1)

/-- The scan for the end of a line: the line, the length of its end (CRLF, or CR
or LF alone) and what follows. -/
def splitLine : Chars → Chars × Nat × Chars
  | [] => ([], 0, [])
  | '\r' :: '\n' :: s => ([], 2, s)
  | '\r' :: s => ([], 1, s)
  | '\n' :: s => ([], 1, s)
  | c :: s =>
    let (line, endLength, rest) := splitLine s
    (c :: line, endLength, rest)

/-- The scan for the colon behind a header name.  The header starts at the last
CR or LF before the colon. -/
def lookupHeaderName (headerStart : Chars) : Chars → Chars × Chars
  | [] => (headerStart, [])
  | c :: s =>
    if c = ':' then (headerStart, c :: s)
    else if c = '\r' ∨ c = '\n' then lookupHeaderName (c :: s) s
    else lookupHeaderName headerStart s

def isContentLength (name : Chars) : Bool :=
  equalsIgnoreCase name ['l'] || equalsIgnoreCase name "Content-Length".toList

/-- How a scan of the header fields ends: somewhere in a header that is not
complete, whose length is left over, or behind the value of Content-Length, with
the bytes left over from the last one before the end of that line. -/
inductive HeaderScan where
  | incomplete (leftOver : Nat)
  | found (contentLength : Int) (leftOver : Nat)
  deriving DecidableEq, Repr

/-- One round of the loop of `ParseContentLength` over the header fields, from
the header name on; `next` goes on behind the header. -/
def scanHeader (next : Chars → HeaderScan) : Chars × Chars → HeaderScan
  | (headerStart, []) => .incomplete headerStart.length
  | (headerStart, colon) =>
    let name := headerStart.take (headerStart.length - colon.length)
    let headerStart := stripLeading headerStart
    let (line, endLength, rest) := splitLine colon
    if rest = [] then .incomplete headerStart.length
    else if isContentLength (strip name) then
      .found (toInt32 (strip (line.drop 1))) (rest.length + endLength + 1)
    else next rest

/-- The loop.  Each round goes on behind the end of a line, so `fuel` rounds are
enough for `fuel` bytes. -/
def scanHeaders : Nat → Chars → HeaderScan
  | 0, s => .incomplete s.length
  | fuel + 1, s => scanHeader (scanHeaders fuel) (lookupHeaderName s s)

/-- The bytes `ParseContentLength` looks at behind leading white space: up to
the empty line if there is one. -/
def headerSection (s : Chars) : Chars :=
  match strStrCrlfCrlf s with
  | some n => s.take (n + 4)
  | none => s

def isBlank (c : Char) : Bool := c == '\r' || c == '\n' || c == ' ' || c == '\t'

namespace SipMessageFraming

/-- What the scan of the header fields from `s` on, the end of a section of
`size` bytes, leaves in the framer. -/
def scanFields (f : SipMessageFraming) (size : Nat) (s : Chars) : SipMessageFraming :=
  if s = [] then { f with offset := f.offset + size }
  else
    match scanHeaders s.length s with
    | .incomplete leftOver => { f with offset := f.offset + (size - leftOver : Nat) }
    | .found contentLength leftOver =>
      { f with
        contentLength := contentLength
        offset := f.offset + (size - leftOver : Nat)
        state := .body }

def parseContentLength (f : SipMessageFraming) : SipMessageFraming :=
  let start := f.messageBuffer.drop f.offset.toNat
  let current := stripLeading start
  let fields := headerSection current
  -- `pEnd - pStart`
  let size := start.length - current.length + fields.length
  if size = 0 then f
  else if f.offset = 0 then
    let startLine := fields.dropWhile isBlank
    if startLine = [] then f else f.scanFields size (splitLine startLine).2.2
  else f.scanFields size fields

end SipMessageFraming

/-- The scan for the empty line before the message body; it stops three bytes
before the end. -/
def lookupBody : Chars → Bool × Chars
  | [] => (false, [])
  | c :: s =>
    if (c :: s).length ≤ 3 then (false, c :: s)
    else if crlfcrlf.isPrefixOf (c :: s) then (true, (c :: s).drop 4)
    else lookupBody s

namespace SipMessageFraming

/-- `ParseMessageBody` from the start position of the body on. -/
def takeBody (f : SipMessageFraming) (rest : Nat) : SipMessageFraming :=
  if rest = 0 ∧ f.contentLength = 0 then { f with state := .done }
  else if (rest : Int) < f.contentLength then f
  else { f with offset := f.offset + f.contentLength, state := .done }

def parseMessageBody (f : SipMessageFraming) : SipMessageFraming :=
  let bodyStart := f.messageBuffer.drop f.offset.toNat
  if f.gotBodyStart then f.takeBody bodyStart.length
  else
    let (doubleCrlf, current) := lookupBody bodyStart
    let f := { f with offset := f.offset + (bodyStart.length - current.length : Nat) }
    if current.length = 3 ∧ !doubleCrlf then f
    else { f with gotBodyStart := true }.takeBody current.length

def checkCompleteMessage (f : SipMessageFraming) : SipMessageFraming × Bool :=
  if f.isEmpty then (f, false)
  else
    let f := if f.state = .created then { f with state := .clen } else f
    let f := if f.state = .clen then f.parseContentLength else f
    let f := if f.state = .body then f.parseMessageBody else f
    (f, decide (f.state = .done))

def getCompleteMessage (f : SipMessageFraming) : Option Chars :=
  if f.isEmpty then none else some (f.messageBuffer.take f.offset.toNat)

end SipMessageFraming

/-- Every complete leading CRLF gone. -/
def dropCrlf : Chars → Chars
  | '\r' :: '\n' :: s => dropCrlf s
  | s => s

/-- The white space `UpdateState` discards: a CR that is the last byte stays. -/
def dropWhiteSpace : Chars → Chars
  | [] => []
  | c :: s =>
    if s = [] ∧ c = '\r' then c :: s
    else if isSpace c then dropWhiteSpace s
    else c :: s

namespace SipMessageFraming

def ignoreCrlf (f : SipMessageFraming) : SipMessageFraming × Bool :=
  if f.offset ≠ 0 then (f, false)
  else if dropCrlf f.messageBuffer = f.messageBuffer then (f, false)
  else ({ f with messageBuffer := dropCrlf f.messageBuffer }, true)

def updateState (f : SipMessageFraming) : SipMessageFraming :=
  let buffer :=
    if f.offset < f.messageBuffer.length then f.messageBuffer.drop f.offset.toNat
    else if f.offset = f.messageBuffer.length then []
    else f.messageBuffer
  let buffer := dropWhiteSpace buffer
  { state := if buffer = [] then .idle else .created
    contentLength := 0
    offset := 0
    gotBodyStart := false
    messageBuffer := buffer }

/-- The extraction loop of `Socket_OnDataReceived`, for at most `fuel` rounds;
`none` when they are not enough. -/
def extract : Nat → SipMessageFraming → Option (List Chars × SipMessageFraming)
  | 0, _ => none
  | fuel + 1, f =>
    match f.checkCompleteMessage with
    | (f, false) => some ([], f)
    | (f, true) =>
      match f.getCompleteMessage with
      | none => some ([], f)
      | some message =>
        (extract fuel f.updateState).map fun (messages, f) => (message :: messages, f)

/-- How the reads of one callback end. -/
inductive ReadEnd where
  | shortRead | wouldBlock | error
  deriving DecidableEq, Repr

/-- `SipStreamSocket::Socket_OnDataReceived` with a listener: the messages handed
to it.  No extraction takes more rounds than the buffer has bytes, unless a round
leaves the buffer as it is, and then the loop does not end. -/
def onDataReceived (reads : List Chars) (readEnd : ReadEnd) (f : SipMessageFraming) :
    Option (List Chars × SipMessageFraming) :=
  let f := reads.foldl appendPacket f
  if readEnd = .error ∨ (readEnd = .wouldBlock ∧ f.isEmpty) then some ([], f)
  else
    let f := f.ignoreCrlf.1
    if f.isEmpty then some ([], f) else extract (f.messageBuffer.length + 1) f

/-- The callbacks of a connection one after the other. -/
def feed : List (List Chars × ReadEnd) → SipMessageFraming →
    Option (List Chars × SipMessageFraming)
  | [], f => some ([], f)
  | (reads, readEnd) :: callbacks, f =>
    (onDataReceived reads readEnd f).bind fun (messages, f) =>
      (feed callbacks f).map fun (more, f) => (messages ++ more, f)

end SipMessageFraming

end ImsStack.Framing
