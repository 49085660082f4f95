import ImsStack.Platform.NullString
import ImsStack.SipCore.SipStackState

/-!
Negotiation of the capabilities that an offer lists: its potential configurations (`pcfg`) are
read one by one, against the transport (`tcap`) and attribute capabilities (`acap`) of both sides.
-/

namespace ImsStack.Platform.ImsMap

variable {κ ν : Type} [DecidableEq κ]

/-- `GetValue`: the vector is read outside where the key is absent. -/
def getValue (map : ImsMap κ ν) (key : κ) : Option ν :=
  (map.find? fun pair => pair.1 = key).map Prod.snd

end ImsStack.Platform.ImsMap

namespace ImsStack.Media

open ImsStack.Platform

/-- `MediaBaseProfile::CapaNego`. -/
structure CapaNego where
  mapTcap : ImsMap Int NullString := []
  mapAcap : ImsMap Int NullString := []
  lstPcfg : List NullString := []
  strAcfg : NullString := none

namespace VideoProfileNegotiator

/-- What is behind the equals sign of a field `name=value`. -/
def valueOf (name : Char) (field : NullString) : Option NullString :=
  if field.length = 0 then none
  else
    match field.split '=' with
    | first :: value :: _ => if first.equalsChar name then some value else none
    | _ => none

/-- `bPCFGSupportable` and what has been negotiated so far. -/
structure PcfgState where
  bPCFGSupportable : Bool := false
  nego : CapaNego := {}

/-- What an attribute capability of the peer is found to be.  The loop ends at a crypto attribute
that matches. -/
inductive AttributeVerdict
  | counted
  | countedLast
  | passed
deriving DecidableEq

section line

variable (pLocalCapaNego pPeerCapaNego : CapaNego)

def hasTransport (strTmp : NullString) : Bool :=
  pLocalCapaNego.mapTcap.any fun pair => strTmp.equals pair.2

/-- Field 1; the flag tells whether the fields behind it are read. -/
def readTransport (s : PcfgState) (field : NullString) : Option (Bool × PcfgState) :=
  match valueOf 't' field with
  | none => some (true, s)
  | some value => do
    let strTmp ← pPeerCapaNego.mapTcap.getValue value.toInt32
    if hasTransport pLocalCapaNego strTmp then
      return (true,
        { bPCFGSupportable := true
          nego := { s.nego with mapTcap := s.nego.mapTcap.add value.toInt32 strTmp } })
    else return (false, s)

/-- The second word of a crypto attribute. -/
def cryptoSuite (strAttribute : NullString) : Option NullString := (strAttribute.split ' ')[1]?

/-- A crypto attribute is compared with the first capability of the local side. -/
def judgeCrypto (strDestAttributeCapa : NullString) : Option AttributeVerdict := do
  let strSrcAttributeCapa ← pLocalCapaNego.mapAcap.getValueAt 0
  let dest ← cryptoSuite strDestAttributeCapa
  let src ← cryptoSuite strSrcAttributeCapa
  return if dest.equals src then .countedLast else .passed

def judge (strDestAttributeCapa : NullString) : Option AttributeVerdict :=
  if strDestAttributeCapa.contains "trr-int" || strDestAttributeCapa.contains "nack" then
    some .counted
  else if strDestAttributeCapa.contains "ccm" then
    if strDestAttributeCapa.contains "fir" || strDestAttributeCapa.contains "tmmbr" then
      some .counted
    else some .passed
  else if strDestAttributeCapa.contains "crypto" then judgeCrypto pLocalCapaNego strDestAttributeCapa
  else some .passed

/-- The loop over the numbers of attribute capabilities. -/
def countAttributes (cnt : Nat) (mapAcap : ImsMap Int NullString) :
    List Int → Option (Nat × ImsMap Int NullString)
  | [] => some (cnt, mapAcap)
  | number :: numbers => do
    let strDestAttributeCapa ← pPeerCapaNego.mapAcap.getValue number
    match ← judge pLocalCapaNego strDestAttributeCapa with
    | .counted => countAttributes (cnt + 1) (mapAcap.add number strDestAttributeCapa) numbers
    | .countedLast => return (cnt + 1, mapAcap.add number strDestAttributeCapa)
    | .passed => countAttributes cnt mapAcap numbers

/-- Field 2. -/
def readAttributes (s : PcfgState) (field : NullString) : Option PcfgState :=
  match valueOf 'a' field with
  | none => some { s with bPCFGSupportable := false }
  | some value =>
    let numbers := (value.split ',').map NullString.toInt32
    if numbers.length = 0 then some { s with bPCFGSupportable := false }
    else do
      let (cnt, mapAcap) ← countAttributes pLocalCapaNego pPeerCapaNego 0 s.nego.mapAcap numbers
      return { bPCFGSupportable := cnt == numbers.length, nego := { s.nego with mapAcap } }

/-- A line that is not empty, `# t=# a=#,#,#`; the fields behind the third are not read. -/
def readPcfg (s : PcfgState) (strPCFGline : NullString) : Option PcfgState :=
  match strPCFGline.split ' ' with
  | _ :: transport :: fields => do
    let (proceeds, s) ← readTransport pLocalCapaNego pPeerCapaNego s transport
    match proceeds, fields with
    | true, attributes :: _ => readAttributes pLocalCapaNego pPeerCapaNego s attributes
    | _, _ => return s
  | _ => some s

/-- What the function leaves: its result, the index at which its loop ends, and the negotiated
capabilities. -/
structure Outcome where
  ret : Bool
  i : Nat := 0
  nego : CapaNego

/-- The loop over the lines, from index `i` on. -/
def readPcfgs (i : Nat) (s : PcfgState) : List NullString → Option Outcome
  | [] => some { ret := false, i, nego := s.nego }
  | strPCFGline :: lines =>
    if strPCFGline.length = 0 then readPcfgs (i + 1) s lines
    else do
      let s ← readPcfg pLocalCapaNego pPeerCapaNego s strPCFGline
      if s.bPCFGSupportable then
        return { ret := true, i
                 nego := { s.nego with strAcfg := some (AString.cString strPCFGline.chars) } }
      else readPcfgs (i + 1) { s with nego := { s.nego with mapTcap := [], mapAcap := [] } } lines

/-- `none` is a read of a list or a map at an absent position. -/
def makeNegotiatedCapaNegoProfile (nego : CapaNego) : Option Outcome :=
  if 0 < pPeerCapaNego.strAcfg.length then
    if pPeerCapaNego.mapTcap.isEmpty then
      some { ret := true, nego := { nego with mapTcap := pLocalCapaNego.mapTcap } }
    else some { ret := true, nego }
  else readPcfgs pLocalCapaNego pPeerCapaNego 0 { nego } pPeerCapaNego.lstPcfg

end line

end VideoProfileNegotiator

end ImsStack.Media
