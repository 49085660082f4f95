/-!
`ImsBase64`: the encoder, which breaks the text into lines when it is asked to, and the decoder,
which skips line breaks in front of each of the four characters of a group.  A read outside the
encoded text is `none`.
-/

namespace ImsStack.Platform.Base64

def MAX_LINE_LEN : Nat := 76

/-- The default for characters that are not in the alphabet. -/
def NP : UInt8 := 0xFF

def CR : UInt8 := 0x0D

def LF : UInt8 := 0x0A

def BASE64_PAD : UInt8 := 0x3D

def BASE64_ENCODING_TABLE : List UInt8 :=
  ("ABCDEFGHIJKLMNOPQRSTUVWXYZabcdefghijklmnopqrstuvwxyz0123456789+/".toList).map fun c =>
    .ofNat c.toNat

/-- `BASE64_DECODING_TABLE`, by the ranges in which its entries follow each other. -/
def decodingTable (c : UInt8) : UInt8 :=
  if c = 43 then 62
  else if c = 47 then 63
  else if 48 ≤ c ∧ c ≤ 57 then c - 48 + 52
  else if 65 ≤ c ∧ c ≤ 90 then c - 65
  else if 97 ≤ c ∧ c ≤ 122 then c - 97 + 26
  else NP

def encodingTable (c6bit : UInt8) : UInt8 := BASE64_ENCODING_TABLE.getD c6bit.toNat 0

/-- `LONG_TO_INT` of a difference of pointers, as an `IMS_SINT32`. -/
def longToInt (l : Nat) : Int := Int.bmod l 0x100000000

/-- An `IMS_SINT32` that is passed as an `IMS_SIZE_T` of 64 bits. -/
def toSize (n : Int) : Nat := (n % 0x10000000000000000).toNat

/-- What the encoder has written, and the characters in the line that it writes. -/
structure EncBuffer where
  written : List UInt8
  nLineCount : Nat

/-- A character is written, and the line is broken (`ADD_CRLF`) when it is full. -/
def EncBuffer.put (bAddCrlf : Bool) (c : UInt8) (buffer : EncBuffer) : EncBuffer :=
  let nLineCount := buffer.nLineCount + 1
  if bAddCrlf = true ∧ nLineCount = MAX_LINE_LEN then ⟨buffer.written ++ [c, CR, LF], 0⟩
  else ⟨buffer.written ++ [c], nLineCount⟩

/-- The loop of `ImsBase64_Encode`, which takes up to three bytes in each round. -/
def encodeLoop (bAddCrlf : Bool) : List UInt8 → EncBuffer → EncBuffer
  | [], buffer => buffer
  | [a], buffer =>
    (((buffer.put bAddCrlf (encodingTable ((a >>> 2) &&& (0x3F : UInt8)))).put bAddCrlf
      (encodingTable ((a <<< 4) &&& (0x3F : UInt8)))).put bAddCrlf BASE64_PAD).put bAddCrlf BASE64_PAD
  | [a, b], buffer =>
    (((buffer.put bAddCrlf (encodingTable ((a >>> 2) &&& (0x3F : UInt8)))).put bAddCrlf
      (encodingTable (((a <<< 4) &&& (0x3F : UInt8)) ||| ((b >>> 4) &&& (0x0F : UInt8))))).put bAddCrlf
      (encodingTable ((b <<< 2) &&& (0x3F : UInt8)))).put bAddCrlf BASE64_PAD
  | a :: b :: c :: rest, buffer =>
    encodeLoop bAddCrlf rest
      ((((buffer.put bAddCrlf (encodingTable ((a >>> 2) &&& (0x3F : UInt8)))).put bAddCrlf
        (encodingTable (((a <<< 4) &&& (0x3F : UInt8)) ||| ((b >>> 4) &&& (0x0F : UInt8))))).put bAddCrlf
        (encodingTable (((b <<< 2) &&& (0x3F : UInt8)) ||| ((c >>> 6) &&& (0x03 : UInt8))))).put bAddCrlf
        (encodingTable (c &&& (0x3F : UInt8))))

/-- `ImsBase64_Encode`: the text in front of its terminator, and the length returned. -/
def encode (pSrcData : List UInt8) (bAddCrlf : Bool) : List UInt8 × Int :=
  let pszDest := (encodeLoop bAddCrlf pSrcData ⟨[], 0⟩).written
  (pszDest, longToInt pszDest.length)

/-- The position behind a line break that stands at `nPos`. -/
def skipBreak (pszSrcData : List UInt8) (nPos : Nat) : Option Nat := do
  let c ← pszSrcData[nPos]?
  let nPos := if c = LF then nPos + 1 else nPos
  let c ← pszSrcData[nPos]?
  return if c = CR then nPos + 2 else nPos

/-- A character that the decoder reads behind a line break: where it stands, and itself. -/
def readChar (pszSrcData : List UInt8) (nPos : Nat) : Option (Nat × UInt8) := do
  let nPos ← skipBreak pszSrcData nPos
  let c ← pszSrcData[nPos]?
  return (nPos, c)

/-- What a round of the decoder has written, and where it stands, or that it has left the loop. -/
structure DecRound where
  written : List UInt8
  nPos : Option Nat

/-- The fourth character of a group; `c8bit` holds the bits of the third one. -/
def decodeFourth (pszSrcData : List UInt8) (nSrcLen : Nat) (written : List UInt8) (c8bit : UInt8)
    (nPos : Nat) : Option DecRound :=
  if nPos < nSrcLen then do
    let read ← readChar pszSrcData nPos
    if read.2 = BASE64_PAD then return ⟨written, none⟩
    else return ⟨written ++ [((c8bit <<< 6) &&& (0xC0 : UInt8)) ||| decodingTable read.2], some (read.1 + 1)⟩
  else return ⟨written, some (nPos + 1)⟩

/-- The third character of a group; `c8bit1` holds the bits of the second one. -/
def decodeThird (pszSrcData : List UInt8) (nSrcLen : Nat) (c8bit c8bit1 : UInt8) (nPos : Nat) :
    Option DecRound :=
  if nPos < nSrcLen then do
    let read ← readChar pszSrcData nPos
    if read.2 = BASE64_PAD then return ⟨[c8bit], none⟩
    else
      decodeFourth pszSrcData nSrcLen
        [c8bit, ((c8bit1 <<< 4) &&& (0xF0 : UInt8)) ||| ((decodingTable read.2 >>> 2) &&& (0x0F : UInt8))]
        (decodingTable read.2) (read.1 + 1)
  else decodeFourth pszSrcData nSrcLen [c8bit] c8bit (nPos + 1)

/-- A round of the loop of `ImsBase64_Decode`. -/
def decodeRound (pszSrcData : List UInt8) (nSrcLen nPos : Nat) : Option DecRound := do
  let first ← readChar pszSrcData nPos
  let second ← readChar pszSrcData (first.1 + 1)
  let c8bit1 := decodingTable second.2
  decodeThird pszSrcData nSrcLen
    ((decodingTable first.2 <<< 2) ||| ((c8bit1 >>> 4) &&& (0x03 : UInt8))) c8bit1 (second.1 + 1)

/-- The loop of `ImsBase64_Decode`.  Each round reads in the text and moves on in it, so that there
are fewer rounds than characters. -/
def decodeLoop (pszSrcData : List UInt8) (nSrcLen : Nat) : Nat → Nat → Option (List UInt8)
  | 0, _ => none
  | fuel + 1, nPos =>
    if nPos < nSrcLen then do
      let round ← decodeRound pszSrcData nSrcLen nPos
      match round.nPos with
      | none => return round.written
      | some nPos =>
        let rest ← decodeLoop pszSrcData nSrcLen fuel nPos
        return round.written ++ rest
    else return []

/-- `ImsBase64_Decode`: the bytes written and the length returned. -/
def decode (pszSrcData : List UInt8) (nSrcLen : Nat) : Option (List UInt8 × Int) := do
  let pDest ← decodeLoop pszSrcData nSrcLen (pszSrcData.length + 1) 0
  return (pDest, longToInt pDest.length)

end ImsStack.Platform.Base64
