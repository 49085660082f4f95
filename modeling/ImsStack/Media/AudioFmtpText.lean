import ImsStack.Media.AudioProfile

/-!
The format parameters of AMR and EVS as text: `AudioSdpGenerator` writes them, and `AudioSdpParser`
reads those of the peer.

The text is what stands behind the format in `a=fmtp`.  A function of the parser that looks for one
parameter gives nothing where the parameter is another one.  A shift by more than a word has, and an
element behind the end of a table, have no result.
-/

namespace ImsStack.Media.AudioFmtpText

open ImsStack.Platform ImsStack.Platform.AString
open AudioProfile

def EVS_BR : List Chars :=
  ["5.9", "7.2", "8", "9.6", "13.2", "16.4", "24.4", "32", "48", "64", "96", "128"].map
    String.toList

def EVS_BW : List Chars := ["nb", "wb", "swb", "fb"].map String.toList

def FULL_MODESET_AMRWB : BitVec 32 := 511

def MODESET_MAX_AMRWB : Nat := 8

/-- `1 << n` of a number that a word has a bit for. -/
def bit (n : Nat) : BitVec 32 := 1#32 <<< n

def hasBit (nList : BitVec 32) (n : Nat) : Bool := nList &&& bit n ≠ 0

/-! ### The generator -/

def appendSeparatorIfNotEmpty (str : Chars) (separator : Chars) : Chars :=
  if str.length > 0 then str ++ separator else str

/-- A parameter with its value behind those that are written. -/
def addParameter (strParameter : String) (strValue : Chars) (strFmtp : Chars) : Chars :=
  appendSeparatorIfNotEmpty strFmtp [';'] ++ (strParameter.toList ++ '=' :: strValue)

/-- A parameter of a number, written with `%d`. -/
def addNumber (strParameter : String) (bVisible : Bool) (nValue : Int) (strFmtp : Chars) : Chars :=
  if bVisible then addParameter strParameter (setNumber nValue) strFmtp else strFmtp

section common

variable (pFmtp : AudioFmtp) (strFmtp : Chars)

/-- The modes of a set with commas between them. -/
def modeSetText (nModeSetList : BitVec 32) : Chars :=
  (List.range (MODESET_MAX_AMRWB + 1)).foldl (fun strTemp nModeSet =>
    if hasBit nModeSetList nModeSet then
      appendSeparatorIfNotEmpty strTemp [','] ++ setNumber nModeSet
    else strTemp) []

def addModeSetListToFmtp : Chars :=
  if pFmtp.modeSetList ≠ 0 ∧ pFmtp.visibleModeSet = true then
    addParameter "mode-set" (modeSetText pFmtp.modeSetList) strFmtp
  else strFmtp

def addModeChangeCapabilityToFmtp : Chars :=
  addNumber "mode-change-capability" pFmtp.visibleModeChangeCapability pFmtp.modeChangeCapability
    strFmtp

def addModeChangePeriodToFmtp : Chars :=
  addNumber "mode-change-period" pFmtp.visibleModeChangePeriod pFmtp.modeChangePeriod strFmtp

def addModeChangeNeighborToFmtp : Chars :=
  addNumber "mode-change-neighbor" pFmtp.visibleModeChangeNeighbor pFmtp.modeChangeNeighbor strFmtp

def addMaxRedToFmtp : Chars := addNumber "max-red" pFmtp.visibleMaxRed pFmtp.maxRed strFmtp

def addDtxToFmtp : Chars :=
  addNumber "dtx" pFmtp.visibleDtx (if pFmtp.dtx then 1 else 0) strFmtp

end common

def addOctetAlignToFmtp (pFmtp : AmrFmtp) (strFmtp : Chars) : Chars :=
  addNumber "octet-align" pFmtp.visibleOctetAlign pFmtp.octetAlign strFmtp

def generateAmrFmtp (pAmrFmtp : AmrFmtp) : Chars :=
  addMaxRedToFmtp pAmrFmtp.toAudioFmtp (addModeChangeNeighborToFmtp pAmrFmtp.toAudioFmtp
    (addModeChangePeriodToFmtp pAmrFmtp.toAudioFmtp (addModeChangeCapabilityToFmtp
      pAmrFmtp.toAudioFmtp (addOctetAlignToFmtp pAmrFmtp (addModeSetListToFmtp
        pAmrFmtp.toAudioFmtp [])))))

/-- The values of a list on the way through the table: those so far, how many, the first and the
last. -/
structure Values where
  strTemp : Chars := []
  nTotalCnt : Nat := 0
  strFirst : Chars := []
  strLast : Chars := []

def Values.add (values : Values) (separator strValue : Chars) : Values where
  strTemp := appendSeparatorIfNotEmpty values.strTemp separator ++ strValue
  nTotalCnt := values.nTotalCnt + 1
  strFirst := if values.nTotalCnt + 1 = 1 then strValue else values.strFirst
  strLast := strValue

/-- The values of a list below a number, and no result where the table has none. -/
def collectValues (table : List Chars) (separator : Chars) (nList : BitVec 32) :
    Nat → Option Values
  | 0 => some {}
  | n + 1 =>
    (collectValues table separator nList n).bind fun values =>
      if hasBit nList n then (table[n]?).map (values.add separator) else some values

/-- More than one value is written as the range from the first to the last. -/
def valuesText (table : List Chars) (separator : Chars) (nList : BitVec 32) (nEnd : Nat) :
    Option Chars :=
  (collectValues table separator nList nEnd).map fun values =>
    if values.nTotalCnt > 1 then values.strFirst ++ '-' :: values.strLast else values.strTemp

section evs

variable (pFmtp : EvsFmtp) (strFmtp : Chars)

def addHfOnlyToFmtp : Chars := addNumber "hf-only" pFmtp.visibleHfOnly pFmtp.hfOnly.toInt strFmtp

def addEvsModeSwitchToFmtp : Chars :=
  addNumber "evs-mode-switch" pFmtp.visibleEvsModeSwitch pFmtp.evsModeSwitch.toInt strFmtp

def addBrToFmtp : Option Chars :=
  if pFmtp.visibleBrList then
    (valuesText EVS_BR [','] pFmtp.brList EVS_BR.length).map fun strTemp =>
      addParameter "br" strTemp strFmtp
  else some strFmtp

/-- The loop goes on to 11, and the separator stands twice. -/
def addBwToFmtp : Option Chars :=
  if pFmtp.bwList ≠ 0 ∧ pFmtp.visibleBwList = true then
    (valuesText EVS_BW [',', ','] pFmtp.bwList 12).map fun strTemp =>
      addParameter "bw" strTemp strFmtp
  else some strFmtp

def addCmrToFmtp : Chars := addNumber "cmr" pFmtp.visibleCmr pFmtp.cmr strFmtp

def addChannelAwModeToFmtp : Chars :=
  addNumber "ch-aw-recv" (pFmtp.visibleChannelAwMode && pFmtp.evsModeSwitch != 1) pFmtp.chAwRecv
    strFmtp

/-- The rates or bandwidths of one direction. -/
def addDirection (strParameter : String) (table : List Chars) (nList : Int) : Option Chars :=
  if nList ≠ 0 then
    (valuesText table [','] (BitVec.ofInt 32 nList) table.length).map fun strTemp =>
      addParameter strParameter strTemp strFmtp
  else some strFmtp

def addBrSendToFmtp : Option Chars := addDirection strFmtp "br-send" EVS_BR pFmtp.brSend

def addBrRecvToFmtp : Option Chars := addDirection strFmtp "br-recv" EVS_BR pFmtp.brRecv

def addBwSendToFmtp : Option Chars := addDirection strFmtp "bw-send" EVS_BW pFmtp.bwSend

def addBwRecvToFmtp : Option Chars := addDirection strFmtp "bw-recv" EVS_BW pFmtp.bwRecv

/-- The mode changes are written for the mode that interoperates with AMR only. -/
def addModeChangesToFmtp : Chars :=
  if pFmtp.evsModeSwitch = 1 then
    addModeChangeNeighborToFmtp pFmtp.toAudioFmtp (addModeChangePeriodToFmtp pFmtp.toAudioFmtp
      (addModeChangeCapabilityToFmtp pFmtp.toAudioFmtp strFmtp))
  else strFmtp

end evs

def generateEvsFmtp (pEvsFmtp : EvsFmtp) : Option Chars :=
  (addBrToFmtp pEvsFmtp (addMaxRedToFmtp pEvsFmtp.toAudioFmtp (addEvsModeSwitchToFmtp pEvsFmtp
    (addHfOnlyToFmtp pEvsFmtp (addDtxToFmtp pEvsFmtp.toAudioFmtp []))))).bind fun strFmtp =>
  (addBwToFmtp pEvsFmtp strFmtp).bind fun strFmtp =>
  (addBrSendToFmtp pEvsFmtp (addModeChangesToFmtp pEvsFmtp (addModeSetListToFmtp
    pEvsFmtp.toAudioFmtp (addChannelAwModeToFmtp pEvsFmtp (addCmrToFmtp pEvsFmtp
      strFmtp))))).bind fun strFmtp =>
  (addBrRecvToFmtp pEvsFmtp strFmtp).bind fun strFmtp =>
  (addBwSendToFmtp pEvsFmtp strFmtp).bind (addBwRecvToFmtp pEvsFmtp)

/-! ### The parser -/

/-- What looks for a parameter by its name, and reads its value. -/
abbrev Parse (α : Type) := Chars → Chars → α → Option (Option α)

/-- The second one looks where the first one did not find its parameter. -/
def Parse.or {α : Type} (first second : Parse α) : Parse α := fun strName strValue fmtp =>
  (first strName strValue fmtp).or (second strName strValue fmtp)

def parseNumber {α : Type} (strParameter : String) (set : Int → α → α) : Parse α :=
  fun strName strValue fmtp =>
    if equalsLiteral strName strParameter then some (some (set (toInt32 strValue) fmtp))
    else none

/-- `1 << nModeSet`. -/
def shift (nModeSet : Int) : Option (BitVec 32) :=
  if 0 ≤ nModeSet ∧ nModeSet < 32 then some (bit nModeSet.toNat) else none

def readModes (nModeSetList : BitVec 32) (modes : List Chars) : Option (BitVec 32) :=
  modes.foldlM (fun nList strMode => (shift (toInt32 strMode)).map (nList ||| ·)) nModeSetList

def parseModeSet : Parse AudioFmtp := fun strName strValue fmtp =>
  if equalsLiteral strName "mode-set" then
    some ((readModes fmtp.modeSetList (split ',' strValue)).map fun nList =>
      { fmtp with modeSetList := nList, visibleModeSet := true })
  else none

def parseModeChangeCapability : Parse AudioFmtp :=
  parseNumber "mode-change-capability" fun n fmtp =>
    { fmtp with modeChangeCapability := n, visibleModeChangeCapability := true }

def parseModeChangePeriod : Parse AudioFmtp :=
  parseNumber "mode-change-period" fun n fmtp =>
    { fmtp with modeChangePeriod := n, visibleModeChangePeriod := true }

def parseModeChangeNeighbor : Parse AudioFmtp :=
  parseNumber "mode-change-neighbor" fun n fmtp =>
    { fmtp with modeChangeNeighbor := n, visibleModeChangeNeighbor := true }

def parseMaxRed : Parse AudioFmtp :=
  parseNumber "max-red" fun n fmtp => { fmtp with maxRed := n, visibleMaxRed := true }

def parseAudioFmtp : Parse AudioFmtp :=
  parseModeSet.or (parseModeChangeCapability.or (parseModeChangePeriod.or
    (parseModeChangeNeighbor.or parseMaxRed)))

def parseOctetAlign : Parse AmrFmtp :=
  parseNumber "octet-align" fun n fmtp => { fmtp with octetAlign := n, visibleOctetAlign := true }

def parseAmrFmtp : Parse AmrFmtp := parseOctetAlign

def parseDtx : Parse EvsFmtp :=
  parseNumber "dtx" fun n fmtp => { fmtp with dtx := n != 0, visibleDtx := true }

def parseHfOnly : Parse EvsFmtp :=
  parseNumber "hf-only" fun n fmtp =>
    { fmtp with hfOnly := BitVec.ofInt 32 n, visibleHfOnly := true }

def parseEvsSwitchMode : Parse EvsFmtp :=
  parseNumber "evs-mode-switch" fun n fmtp =>
    { fmtp with
      evsModeSwitch := BitVec.ofInt 32 n
      visibleEvsModeSwitch := true
      modeSetList := if fmtp.modeSetList = 0 then FULL_MODESET_AMRWB else fmtp.modeSetList }

/-- Where the two ends of a range are in a table, from a number on; the search ends with the last
one. -/
def findRange (strFirst strLast : Chars) : Nat → List Chars → Nat → Nat × Nat
  | _, [], nFirst => (nFirst, 0)
  | j, strValue :: table, nFirst =>
    let nFirst :=
      if NullString.equalsIgnoreCase (some strFirst) (some strValue) then j else nFirst
    if NullString.equalsIgnoreCase (some strLast) (some strValue) then (nFirst, j)
    else findRange strFirst strLast (j + 1) table nFirst

/-- The bits from the first to the last one. -/
def rangeBits (nFirst nLast : Nat) : BitVec 32 :=
  (List.range' nFirst (nLast + 1 - nFirst)).foldl (fun nList k => nList ||| bit k) 0

/-- The values of a range. -/
def rangeList (table : List Chars) (strFirst strLast : Chars) : BitVec 32 :=
  rangeBits (findRange strFirst strLast 0 table 0).1 (findRange strFirst strLast 0 table 0).2

/-- The values of a table that a text is one of. -/
def valueList (strValue : Chars) : Nat → List Chars → BitVec 32
  | _, [] => 0
  | k, strEntry :: table =>
    (if NullString.equalsIgnoreCase (some strValue) (some strEntry) then bit k else 0) |||
      valueList strValue (k + 1) table

/-- A range where there is one hyphen, or else values with commas between them. -/
def readValues (table : List Chars) (strValue : Chars) : BitVec 32 :=
  match split '-' strValue with
  | [strFirst, strLast] => rangeList table strFirst strLast
  | _ => (split ',' strValue).foldl (fun nList strPart => nList ||| valueList strPart 0 table) 0

/-- A parameter of rates or bandwidths, which are added to those that are known. -/
def parseValues (strParameter : String) (table : List Chars)
    (add : BitVec 32 → EvsFmtp → EvsFmtp) : Parse EvsFmtp := fun strName strValue fmtp =>
  if equalsLiteral strName strParameter then some (some (add (readValues table strValue) fmtp))
  else none

/-- Bits that are added to a number with a sign. -/
def addBits (nList : Int) (bits : BitVec 32) : Int := (BitVec.ofInt 32 nList ||| bits).toInt

def parseBr : Parse EvsFmtp :=
  parseValues "br" EVS_BR fun bits fmtp => { fmtp with brList := fmtp.brList ||| bits }

def parseBw : Parse EvsFmtp :=
  parseValues "bw" EVS_BW fun bits fmtp => { fmtp with bwList := fmtp.bwList ||| bits }

def parseCmr : Parse EvsFmtp :=
  parseNumber "cmr" fun n fmtp => { fmtp with cmr := n, visibleCmr := true }

def parseChAwMode : Parse EvsFmtp :=
  parseNumber "ch-aw-recv" fun n fmtp =>
    { fmtp with receivedChAwRecv := n, chAwRecv := n, visibleChannelAwMode := true }

/-- What the peer sends is received. -/
def parseBrSend : Parse EvsFmtp :=
  parseValues "br-send" EVS_BR fun bits fmtp => { fmtp with brRecv := addBits fmtp.brRecv bits }

def parseBrRecv : Parse EvsFmtp :=
  parseValues "br-recv" EVS_BR fun bits fmtp => { fmtp with brSend := addBits fmtp.brSend bits }

def parseBwSend : Parse EvsFmtp :=
  parseValues "bw-send" EVS_BW fun bits fmtp => { fmtp with bwRecv := addBits fmtp.bwRecv bits }

def parseBwRecv : Parse EvsFmtp :=
  parseValues "bw-recv" EVS_BW fun bits fmtp => { fmtp with bwSend := addBits fmtp.bwSend bits }

def parseEvsFmtp : Parse EvsFmtp :=
  parseDtx.or (parseHfOnly.or (parseEvsSwitchMode.or (parseBr.or (parseBw.or (parseCmr.or
    (parseChAwMode.or (parseBrSend.or (parseBrRecv.or (parseBwSend.or parseBwRecv)))))))))

def parseAmrParameter : Parse AmrFmtp :=
  Parse.or (fun strName strValue fmtp =>
    (parseAudioFmtp strName strValue fmtp.toAudioFmtp).map
      (Option.map fun audio => { fmtp with toAudioFmtp := audio })) parseAmrFmtp

def parseEvsParameter : Parse EvsFmtp :=
  Parse.or (fun strName strValue fmtp =>
    (parseAudioFmtp strName strValue fmtp.toAudioFmtp).map
      (Option.map fun audio => { fmtp with toAudioFmtp := audio })) parseEvsFmtp

/-- The name and the value of a part of the text. -/
def parameter (strPart : Chars) : Option (Chars × Chars) :=
  match split '=' strPart with
  | strName :: strValue :: _ =>
    if strName.length = 0 ∨ strValue.length = 0 then none else some (strName, strValue)
  | _ => none

/-- The parameters one after the other, and whether one was found. -/
def parseParameters {α : Type} (parse : Parse α) :
    List (Chars × Chars) → α × Bool → Option (α × Bool)
  | [], parsed => some parsed
  | p :: parameters, parsed =>
    match parse p.1 p.2 parsed.1 with
    | none => parseParameters parse parameters parsed
    | some none => none
    | some (some fmtp) => parseParameters parse parameters (fmtp, true)

def parameters (strFmtp : Chars) : List (Chars × Chars) :=
  (split ';' strFmtp).filterMap parameter

def setEvsFullBr (fmtp : EvsFmtp) : EvsFmtp :=
  if fmtp.brList = 0 ∧ fmtp.brRecv = 0 ∧ fmtp.brSend = 0 then { fmtp with brList := 0x0FFF }
  else fmtp

def setEvsFullBw (fmtp : EvsFmtp) : EvsFmtp :=
  if fmtp.bwList = 0 ∧ fmtp.bwRecv = 0 ∧ fmtp.bwSend = 0 then { fmtp with bwList := 0x0F }
  else fmtp

def setEvsBrVisible (fmtp : EvsFmtp) : EvsFmtp :=
  if fmtp.brRecv ≠ 0 ∧ fmtp.brSend ≠ 0 then { fmtp with visibleBrList := false } else fmtp

def setEvsBwVisible (fmtp : EvsFmtp) : EvsFmtp :=
  if fmtp.bwRecv ≠ 0 ∧ fmtp.bwSend ≠ 0 then { fmtp with visibleBwList := false } else fmtp

/-- `ParseFmtp` for AMR: the format, and whether a parameter was found. -/
def parseFmtpOfAmr (strFmtp : Chars) : Option (AmrFmtp × Bool) :=
  parseParameters parseAmrParameter (parameters strFmtp) ({}, false)

/-- `ParseFmtp` for EVS: the payload has a format only where a parameter was found. -/
def parseFmtpOfEvs (strFmtp : Chars) : Option (Option EvsFmtp) :=
  (parseParameters parseEvsParameter (parameters strFmtp) ({}, false)).map fun parsed =>
    if parsed.2 then
      some (setEvsBwVisible (setEvsBrVisible (setEvsFullBw (setEvsFullBr parsed.1))))
    else none

end ImsStack.Media.AudioFmtpText
