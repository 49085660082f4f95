import ImsStack.Platform.AString

/-!
`IpAddress`: the parser of a textual address and its two printers.  An address of unknown type
is what `Parse` leaves when it fails.
-/

namespace ImsStack.Platform

open AString

/-- `Ipv6Address` is an array of `MAX_SIZE` bytes. -/
structure Ipv6Address where
  aIp6 : List UInt8
  length_eq : aIp6.length = 16

deriving instance DecidableEq for Ipv6Address

inductive IpAddress where
  | unknown
  | ipv4 (nA : UInt32)
  | ipv6 (objA6 : Ipv6Address)
  deriving DecidableEq

namespace IpAddress

/-- `ipAddress_ParseIpv4`. -/
def parseIpv4 (strIp4 : Chars) : Option Nat :=
  let objIpv4 := split '.' strIp4
  if objIpv4.length ≠ 4 then none
  else
    objIpv4.foldlM (fun nIp4 strValue => do
      let nByteValue ← toUInt32? strValue
      if nByteValue > 0xff then none else some ((nIp4 <<< 8) + nByteValue)) 0

/-- Where `ipAddress_ParseIpv6` stands.  It fills the array from its end: `written` is what stands
behind `nMaxCount`. -/
structure Ipv6Cursor where
  nReducedCount : Int
  written : List UInt8

namespace Ipv6Cursor

def nMaxCount (cursor : Ipv6Cursor) : Int := 16 - cursor.written.length

/-- `pIp6[--nMaxCount] = nValue & 0xff`. -/
def pushByte (nValue : Nat) (cursor : Ipv6Cursor) : Ipv6Cursor :=
  { cursor with written := .ofNat (nValue &&& 0xff) :: cursor.written }

def pushGroup (nByteValue : Nat) (cursor : Ipv6Cursor) : Ipv6Cursor :=
  (cursor.pushByte nByteValue).pushByte (nByteValue >>> 8)

def pushZeroes : Nat → Ipv6Cursor → Option Ipv6Cursor
  | 0, cursor => some cursor
  | j + 1, cursor =>
    if cursor.nMaxCount ≤ 0 then none else pushZeroes j (cursor.pushGroup 0)

/-- The IPv4 part at the end of a mixed address. -/
def pushIpv4 (nIp4 : Nat) (cursor : Ipv6Cursor) : Ipv6Cursor :=
  let filled := (((cursor.pushByte nIp4).pushByte (nIp4 >>> 8)).pushByte (nIp4 >>> 16)).pushByte
    (nIp4 >>> 24)
  { filled with nReducedCount := filled.nReducedCount - 1 }

end Ipv6Cursor

def elementAt (objIpv6 : List Chars) (i : Nat) : Chars := objIpv6.getD i []

/-- The body of the loop of `ipAddress_ParseIpv6`. -/
def parseElement (objIpv6 : List Chars) (i : Nat) (cursor : Ipv6Cursor) : Option Ipv6Cursor :=
  let nCount := objIpv6.length
  let strValue := elementAt objIpv6 i
  if cursor.nMaxCount ≤ 0 then none
  else if strValue.length = 0 then
    if i = nCount - 1 then
      -- special case: ":" is the last character
      if (elementAt objIpv6 (i - 1)).length ≠ 0 then none else some (cursor.pushGroup 0)
    else if i = 0 then
      -- special case: ":" is the first character
      if (elementAt objIpv6 (i + 1)).length ≠ 0 then none else some (cursor.pushGroup 0)
    else cursor.pushZeroes cursor.nReducedCount.toNat
  else
    match (hexToUInt32? strValue).filter (· ≤ 0xffff) with
    | some nByteValue => some (cursor.pushGroup nByteValue)
    | none =>
      if i ≠ nCount - 1 then none
      else (parseIpv4 strValue).map fun nIp4 => cursor.pushIpv4 nIp4

/-- The elements in front of the `k`-th, from the last of them to the first. -/
def parseElements (objIpv6 : List Chars) : Nat → Ipv6Cursor → Option Ipv6Cursor
  | 0, cursor => some cursor
  | k + 1, cursor => (parseElement objIpv6 k cursor).bind (parseElements objIpv6 k)

/-- `ipAddress_ParseIpv6` into the array `pIp6`, which the caller has not initialised. -/
def parseIpv6 (strIp6 : Chars) (pIp6 : List UInt8) : Option (List UInt8) :=
  let objIpv6 := split ':' strIp6
  let nCount := objIpv6.length
  if nCount < 3 ∨ nCount > 8 then none
  else
    (parseElements objIpv6 nCount ⟨9 - nCount, []⟩).map fun cursor =>
      pIp6.take cursor.nMaxCount.toNat ++ cursor.written

/-- `IpAddressPrivate::SetAddress`. -/
def setAddress (pAddress : List UInt8) : Ipv6Address where
  aIp6 := List.ofFn fun i : Fin 16 => pAddress.getD i 0
  length_eq := List.length_ofFn

/-- The text of an IPv6 address in brackets, without them. -/
def removeBrackets (strIp : Chars) : Chars :=
  if strIp.head? = some '[' ∧ strIp.getLast? = some ']' then (strIp.drop 1).take (strIp.length - 2)
  else strIp

def parseAsIpv4 (strIp : Chars) : IpAddress :=
  if '.' ∈ strIp then ((parseIpv4 strIp).map fun nIp4 => ipv4 (.ofNat nIp4)).getD unknown
  else unknown

/-- `IpAddress::Parse`; `aIp6` is what the stack holds where the array of the same name lies. -/
def parse (aIp6 : List UInt8) (strAddress : Chars) : IpAddress :=
  let strIp := strip strAddress
  if ':' ∈ strIp then
    let strIp := removeBrackets strIp
    match parseIpv6 strIp aIp6 with
    | some pAddress => ipv6 (setAddress pAddress)
    | none => parseAsIpv4 strIp
  else parseAsIpv4 strIp

/-- `%x` of a number. -/
def hexText (nValue : Nat) : Chars := Nat.toDigits 16 nValue

/-- `%d.%d.%d.%d` of the bytes of an IPv4 address. -/
def ipv4Text (nA : UInt32) : Chars :=
  let byteText (nShift : Nat) : Chars := Nat.toDigits 10 ((nA.toNat >>> nShift) &&& 0xff)
  List.intercalate ['.'] [byteText 24, byteText 16, byteText 8, byteText 0]

/-- The groups of 16 bits of an address, the local array `aTmp`. -/
def groups (objA6 : Ipv6Address) : List Nat :=
  (List.range 8).map fun i =>
    ((objA6.aIp6.getD (2 * i) 0).toNat <<< 8) ||| (objA6.aIp6.getD (2 * i + 1) 0).toNat

structure GroupOfZeroes where
  nStart : Nat
  nEnd : Nat
  deriving DecidableEq

namespace GroupOfZeroes

def span (objGoZ : GroupOfZeroes) : Nat := objGoZ.nEnd - objGoZ.nStart

/-- The largest group of zeroes, which starts as `objGoZ`. -/
def largest (objGoZ : GroupOfZeroes) (objGoZs : List GroupOfZeroes) : GroupOfZeroes :=
  objGoZs.foldl (fun objGoZ objTmpGoZ => if objGoZ.span < objTmpGoZ.span then objTmpGoZ else objGoZ)
    objGoZ

end GroupOfZeroes

/-- The local variables of the loop that looks for groups of zeroes; `objGoZ` is the one that
`bGoZStarted` says has started. -/
structure ZeroScan where
  objGoZ : Option GroupOfZeroes
  objGoZs : List GroupOfZeroes

/-- The `j`-th group, of which only matters whether it is zero. -/
def ZeroScan.next (scan : ZeroScan) (bZero : Bool) (j : Nat) : ZeroScan :=
  let started := if bZero then scan.objGoZ.orElse fun _ => some ⟨j, j⟩ else scan.objGoZ
  match started, bZero with
  | some objGoZ, false =>
    ⟨none, scan.objGoZs ++ [{ objGoZ with nEnd := j - 1 }]⟩
  | _, _ => ⟨started, scan.objGoZs⟩

def ZeroScan.run (scan : ZeroScan) : List Bool → Nat → ZeroScan
  | [], _ => scan
  | bZero :: rest, j => (scan.next bZero j).run rest (j + 1)

def groupsOfZeroes (zeroes : List Bool) : List GroupOfZeroes :=
  let scan := (ZeroScan.mk none []).run zeroes 0
  match scan.objGoZ with
  | some objGoZ => scan.objGoZs ++ [{ objGoZ with nEnd := 7 }]
  | none => scan.objGoZs

/-- `%x:%x:%x:%x:%x:%x:%x:%x`. -/
def longText (aTmp : List Nat) : Chars := List.intercalate [':'] (aTmp.map hexText)

/-- What is printed in front of the group of zeroes. -/
def textBefore (aTmp : List Nat) (objGoZ : GroupOfZeroes) : Chars :=
  if objGoZ.nStart = 0 then [if objGoZ.nEnd = 0 then '0' else ':']
  else (aTmp.take objGoZ.nStart).flatMap fun nValue => hexText nValue ++ [':']

/-- What is printed behind the group of zeroes. -/
def textBehind (aTmp : List Nat) (objGoZ : GroupOfZeroes) : Chars :=
  if objGoZ.nEnd = 7 then [if objGoZ.nStart = 7 then '0' else ':']
  else (aTmp.drop (objGoZ.nEnd + 1)).flatMap fun nValue => ':' :: hexText nValue

/-- The text of an IPv6 address in `ToString`. -/
def stringOfGroups (aTmp : List Nat) : Chars :=
  let objGoZs := groupsOfZeroes (aTmp.map (· == 0))
  match objGoZs.head? with
  | none => longText aTmp
  | some objFirst =>
    let objGoZ := GroupOfZeroes.largest objFirst objGoZs
    -- one group of zero inside the address is not shortened
    let single : Chars :=
      if objGoZ.nStart = objGoZ.nEnd ∧ objGoZ.nStart ≠ 0 ∧ objGoZ.nStart ≠ 7 then ['0'] else []
    textBefore aTmp objGoZ ++ single ++ textBehind aTmp objGoZ

/-- The text of an IPv6 address in `ToCharString`, at most 39 characters, for which the buffer of 51
has room. -/
def charStringOfGroups (aTmp : List Nat) : Chars :=
  let objGoZs := groupsOfZeroes (aTmp.map (· == 0))
  match objGoZs.getLast? with
  | none => longText aTmp
  | some objLast =>
    let objGoZ := GroupOfZeroes.largest objLast objGoZs
    textBefore aTmp objGoZ ++ textBehind aTmp objGoZ

/-- `IpAddress::ToString`. -/
def toString : IpAddress → Chars
  | unknown => []
  | ipv4 nA => ipv4Text nA
  | ipv6 objA6 => stringOfGroups (groups objA6)

/-- `IpAddress::ToCharString`. -/
def toCharString : IpAddress → Chars
  | unknown => []
  | ipv4 nA => ipv4Text nA
  | ipv6 objA6 => charStringOfGroups (groups objA6)

end IpAddress

end ImsStack.Platform
