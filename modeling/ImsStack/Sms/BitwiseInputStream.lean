import ImsStack.Library.BitList
import ImsStack.Library.BoundedInt

/-!
`BitwiseInputStream`: reading bits from a byte array.
-/

namespace ImsStack.Sms

open Library.BitList Library.BoundedInt

/-- `AccessException`, and what the virtual machine throws. -/
inductive BitStreamError where
  | access | indexOutOfBounds | negativeArraySize
  deriving DecidableEq, Repr

structure BitwiseInputStream where
  mBuf : List UInt8
  mPos : Int
  mEnd : Int
  deriving DecidableEq, Repr

namespace BitwiseInputStream

def create (buf : List UInt8) : BitwiseInputStream :=
  { mBuf := buf, mPos := 0, mEnd := wrap (buf.length * 8) }

def available (s : BitwiseInputStream) : Int := wrap (s.mEnd - s.mPos)

def byteAt (s : BitwiseInputStream) (index : Int) : Except BitStreamError Nat :=
  if 0 ≤ index then
    (s.mBuf[index.toNat]?).elim (.error .indexOutOfBounds) fun b => .ok b.toNat
  else .error .indexOutOfBounds

/-- The value that `read` makes of one or two bytes; a shift by 32 is one by zero. -/
def window (high low : Nat) (offset bits : Int) : Nat :=
  ((high <<< 8 ||| low) >>> offset.toNat) &&& (0xFFFFFFFF >>> ((32 - bits).toNat % 32))

def read (bits : Int) : EStateM BitStreamError BitwiseInputStream Nat := fun s =>
  let index := s.mPos.tdiv 8
  let offset := 16 - s.mPos.tmod 8 - bits
  if bits < 0 ∨ 8 < bits ∨ s.mEnd < wrap (s.mPos + bits) then .error .access s
  else
    match s.byteAt index with
    | .error e => .error e s
    | .ok high =>
      match if offset < 8 then s.byteAt (index + 1) else .ok 0 with
      | .error e => .error e s
      | .ok low => .ok (window high low offset bits) { s with mPos := wrap (s.mPos + bits) }

/-- The loop of `readByteArray`: `bytes` bytes are still to be read, and `bits` bits. -/
def readBytes : Nat → Int → EStateM BitStreamError BitwiseInputStream (List UInt8)
  | 0, _ => pure []
  | bytes + 1, bits => do
    let increment := if bits < 8 then bits else 8
    let data ← read increment
    let arr ← readBytes bytes (bits - 8)
    return UInt8.ofNat (data <<< (8 - increment).toNat) :: arr

def readByteArray (bits : Int) : EStateM BitStreamError BitwiseInputStream (List UInt8) :=
  let bytes := bits.tdiv 8 + if 0 < bits.tmod 8 then 1 else 0
  if bytes < 0 then throw .negativeArraySize else readBytes bytes.toNat bits

def skip (bits : Int) : EStateM BitStreamError BitwiseInputStream Unit := fun s =>
  if s.mEnd < wrap (s.mPos + bits) then .error .access s
  else .ok () { s with mPos := wrap (s.mPos + bits) }

end BitwiseInputStream

/-- A call on a stream. -/
inductive BitRequest where
  | read (bits : Nat)
  | readByteArray (bits : Nat)
  | skip (bits : Nat)
  deriving DecidableEq, Repr

/-- What a call returns. -/
inductive BitReply where
  | value (data : Nat)
  | bytes (arr : List UInt8)
  | done
  | thrown (e : BitStreamError)
  deriving DecidableEq, Repr

namespace BitwiseInputStream

def reply {α : Type} (value : α → BitReply) :
    EStateM.Result BitStreamError BitwiseInputStream α → BitReply × BitwiseInputStream
  | .ok a s => (value a, s)
  | .error e s => (.thrown e, s)

def serve (s : BitwiseInputStream) : BitRequest → BitReply × BitwiseInputStream
  | .read bits => reply .value (BitwiseInputStream.read bits s)
  | .readByteArray bits => reply .bytes (BitwiseInputStream.readByteArray bits s)
  | .skip bits => reply (fun _ => .done) (BitwiseInputStream.skip bits s)

def serveAll (s : BitwiseInputStream) : List BitRequest → List BitReply × BitwiseInputStream
  | [] => ([], s)
  | request :: rest =>
    let served := s.serve request
    let others := served.2.serveAll rest
    (served.1 :: others.1, others.2)

end BitwiseInputStream

/-- A reader of a list of bits; the bytes in front of the end that an array would need are lost. -/
def BitRequest.serve (bits : List Bool) : BitRequest → BitReply × List Bool
  | .read k =>
    if k ≤ bits.length then (.value (ofBits (bits.take k)), bits.drop k)
    else (.thrown .access, bits)
  | .readByteArray n =>
    if n ≤ bits.length then (.bytes (pack ((n + 7) / 8) (bits.take n)), bits.drop n)
    else (.thrown .access, bits.drop (8 * (bits.length / 8)))
  | .skip n => if n ≤ bits.length then (.done, bits.drop n) else (.thrown .access, bits)

def BitRequest.serveAll (bits : List Bool) : List BitRequest → List BitReply × List Bool
  | [] => ([], bits)
  | request :: rest =>
    let served := request.serve bits
    let others := BitRequest.serveAll served.2 rest
    (served.1 :: others.1, others.2)

end ImsStack.Sms
