import ImsStack.Library.BlockHash
import ImsStack.Platform.AString
import ImsStack.Platform.Bytes
import Mathlib.Algebra.Group.Nat.Defs
import Mathlib.Data.List.Basic

/-!
The digests of `ImsMd5.cpp` and `ImsSha1.cpp`, the authentication codes of `ImsHmac.cpp` and the
digest authentication of `ImsDigest.cpp`.  What reads behind a source or writes behind the buffer
of a context is `none`.
-/

namespace ImsStack.Platform.Digests

open Bytes

abbrev Word := BitVec 32

abbrev Block := { octets : Octets // octets.length = 64 }

/-- What `ImsMd5.cpp` and `ImsSha1.cpp` have of their own.  The counts of bits are the low and
the high one. -/
structure Algorithm where
  State : Type
  initial : State
  zero : State
  transform : State → Block → State
  encodeBits : Word → Word → Octets
  encodeState : State → Octets
  size : Nat
  size_le : size ≤ 64
  length_encodeBits : ∀ nLow nHigh, (encodeBits nLow nHigh).length = 8
  length_encodeState : ∀ state, (encodeState state).length = size

/-- `ImsMd5Context` and `ImsSha1Context`. -/
structure Context (alg : Algorithm) where
  state : alg.State
  nLow : Word
  nHigh : Word
  aucBuffer : Block

/-! ### The words of a block -/

def octetAt (aucBlock : Block) (j : Fin 64) : UInt8 := aucBlock.1.get (j.cast aucBlock.2.symm)

def wide (aucBlock : Block) (i : Fin 16) (j : Fin 4) : Word :=
  (octetAt aucBlock ⟨4 * i + j, by omega⟩).toBitVec.setWidth 32

def narrowed (n : Word) : UInt8 := ⟨(n &&& 0xFF).setWidth 8⟩

namespace Md5

def S11 : Nat := 7
def S12 : Nat := 12
def S13 : Nat := 17
def S14 : Nat := 22
def S21 : Nat := 5
def S22 : Nat := 9
def S23 : Nat := 14
def S24 : Nat := 20
def S31 : Nat := 4
def S32 : Nat := 11
def S33 : Nat := 16
def S34 : Nat := 23
def S41 : Nat := 6
def S42 : Nat := 10
def S43 : Nat := 15
def S44 : Nat := 21

def F (x y z : Word) : Word := (x &&& y) ||| (~~~x &&& z)
def G (x y z : Word) : Word := (x &&& z) ||| (y &&& ~~~z)
def H (x y z : Word) : Word := x ^^^ y ^^^ z
def I (x y z : Word) : Word := y ^^^ (x ||| ~~~z)

def ROTATE_LEFT (x : Word) (n : Nat) : Word := (x <<< n) ||| (x >>> (32 - n))

/-- The macros `FF`, `GG`, `HH` and `II`, which differ in the function. -/
def round (f : Word → Word → Word → Word) (a b c d x : Word) (s : Nat) (ac : Word) : Word :=
  ROTATE_LEFT (a + (f b c d + x + ac)) s + b

def FF := round F
def GG := round G
def HH := round H
def II := round I

/-- `imsMd5_Decode`, of a block. -/
def decode (aucBlock : Block) (i : Fin 16) : Word :=
  wide aucBlock i 0 ||| wide aucBlock i 1 <<< 8 ||| wide aucBlock i 2 <<< 16 |||
    wide aucBlock i 3 <<< 24

/-- `imsMd5_Encode`. -/
def encode (pnSrc : List Word) : Octets :=
  pnSrc.flatMap fun n : Word =>
    [narrowed n, narrowed (n >>> 8), narrowed (n >>> 16), narrowed (n >>> 24)]

structure State where
  a : Word
  b : Word
  c : Word
  d : Word

/-- `imsMd5_Transform`. -/
def transform (anState : State) (aucBlock : Block) : State :=
  let x := decode aucBlock
  let a := anState.a
  let b := anState.b
  let c := anState.c
  let d := anState.d
  let a := FF a b c d (x 0) S11 0xd76aa478
  let d := FF d a b c (x 1) S12 0xe8c7b756
  let c := FF c d a b (x 2) S13 0x242070db
  let b := FF b c d a (x 3) S14 0xc1bdceee
  let a := FF a b c d (x 4) S11 0xf57c0faf
  let d := FF d a b c (x 5) S12 0x4787c62a
  let c := FF c d a b (x 6) S13 0xa8304613
  let b := FF b c d a (x 7) S14 0xfd469501
  let a := FF a b c d (x 8) S11 0x698098d8
  let d := FF d a b c (x 9) S12 0x8b44f7af
  let c := FF c d a b (x 10) S13 0xffff5bb1
  let b := FF b c d a (x 11) S14 0x895cd7be
  let a := FF a b c d (x 12) S11 0x6b901122
  let d := FF d a b c (x 13) S12 0xfd987193
  let c := FF c d a b (x 14) S13 0xa679438e
  let b := FF b c d a (x 15) S14 0x49b40821
  let a := GG a b c d (x 1) S21 0xf61e2562
  let d := GG d a b c (x 6) S22 0xc040b340
  let c := GG c d a b (x 11) S23 0x265e5a51
  let b := GG b c d a (x 0) S24 0xe9b6c7aa
  let a := GG a b c d (x 5) S21 0xd62f105d
  let d := GG d a b c (x 10) S22 0x2441453
  let c := GG c d a b (x 15) S23 0xd8a1e681
  let b := GG b c d a (x 4) S24 0xe7d3fbc8
  let a := GG a b c d (x 9) S21 0x21e1cde6
  let d := GG d a b c (x 14) S22 0xc33707d6
  let c := GG c d a b (x 3) S23 0xf4d50d87
  let b := GG b c d a (x 8) S24 0x455a14ed
  let a := GG a b c d (x 13) S21 0xa9e3e905
  let d := GG d a b c (x 2) S22 0xfcefa3f8
  let c := GG c d a b (x 7) S23 0x676f02d9
  let b := GG b c d a (x 12) S24 0x8d2a4c8a
  let a := HH a b c d (x 5) S31 0xfffa3942
  let d := HH d a b c (x 8) S32 0x8771f681
  let c := HH c d a b (x 11) S33 0x6d9d6122
  let b := HH b c d a (x 14) S34 0xfde5380c
  let a := HH a b c d (x 1) S31 0xa4beea44
  let d := HH d a b c (x 4) S32 0x4bdecfa9
  let c := HH c d a b (x 7) S33 0xf6bb4b60
  let b := HH b c d a (x 10) S34 0xbebfbc70
  let a := HH a b c d (x 13) S31 0x289b7ec6
  let d := HH d a b c (x 0) S32 0xeaa127fa
  let c := HH c d a b (x 3) S33 0xd4ef3085
  let b := HH b c d a (x 6) S34 0x4881d05
  let a := HH a b c d (x 9) S31 0xd9d4d039
  let d := HH d a b c (x 12) S32 0xe6db99e5
  let c := HH c d a b (x 15) S33 0x1fa27cf8
  let b := HH b c d a (x 2) S34 0xc4ac5665
  let a := II a b c d (x 0) S41 0xf4292244
  let d := II d a b c (x 7) S42 0x432aff97
  let c := II c d a b (x 14) S43 0xab9423a7
  let b := II b c d a (x 5) S44 0xfc93a039
  let a := II a b c d (x 12) S41 0x655b59c3
  let d := II d a b c (x 3) S42 0x8f0ccc92
  let c := II c d a b (x 10) S43 0xffeff47d
  let b := II b c d a (x 1) S44 0x85845dd1
  let a := II a b c d (x 8) S41 0x6fa87e4f
  let d := II d a b c (x 15) S42 0xfe2ce6e0
  let c := II c d a b (x 6) S43 0xa3014314
  let b := II b c d a (x 13) S44 0x4e0811a1
  let a := II a b c d (x 4) S41 0xf7537e82
  let d := II d a b c (x 11) S42 0xbd3af235
  let c := II c d a b (x 2) S43 0x2ad7d2bb
  let b := II b c d a (x 9) S44 0xeb86d391
  ⟨anState.a + a, anState.b + b, anState.c + c, anState.d + d⟩

end Md5

def md5 : Algorithm where
  State := Md5.State
  initial := ⟨0x67452301, 0xefcdab89, 0x98badcfe, 0x10325476⟩
  zero := ⟨0, 0, 0, 0⟩
  transform := Md5.transform
  encodeBits := fun nLow nHigh => Md5.encode [nLow, nHigh]
  encodeState := fun state => Md5.encode [state.a, state.b, state.c, state.d]
  size := 16
  size_le := by decide
  length_encodeBits := fun _ _ => rfl
  length_encodeState := fun _ => rfl

namespace Sha1

def F00 (b c d : Word) : Word := (b &&& c) ||| (~~~b &&& d)
def K00 : Word := 0x5a827999
def F20 (b c d : Word) : Word := b ^^^ c ^^^ d
def K20 : Word := 0x6ed9eba1
def F40 (b c d : Word) : Word := (b &&& c) ||| (b &&& d) ||| (c &&& d)
def K40 : Word := 0x8f1bbcdc
def F60 (b c d : Word) : Word := b ^^^ c ^^^ d
def K60 : Word := 0xca62c1d6

def ROTATE_LEFT (x : Word) (n : Nat) : Word := ((x <<< n) &&& 0xFFFFFFFF) ||| (x >>> (32 - n))

structure State where
  A : Word
  B : Word
  C : Word
  D : Word
  E : Word

/-- The macro `FF`. -/
def FF (f : Word → Word → Word → Word) (k : Word) (h : State) (w : Word) : State :=
  ⟨(ROTATE_LEFT h.A 5 + f h.B h.C h.D + h.E + w + k) &&& 0xFFFFFFFF, h.A, ROTATE_LEFT h.B 30, h.C,
    h.D⟩

/-- `imsSha1_Decode`, of a block. -/
def decode (aucBlock : Block) (i : Fin 16) : Word :=
  wide aucBlock i 0 <<< 24 ||| wide aucBlock i 1 <<< 16 ||| wide aucBlock i 2 <<< 8 |||
    wide aucBlock i 3

/-- `imsSha1_Encode`. -/
def encode (pnSrc : List Word) : Octets :=
  pnSrc.flatMap fun n : Word =>
    [narrowed (n >>> 24), narrowed (n >>> 16), narrowed (n >>> 8), narrowed n]

/-- The words `W[0]` to `W[79]`. -/
def schedule (aucMessageBlock : Block) : List Word :=
  (List.range' 16 64).foldl
    (fun W t => W ++ [ROTATE_LEFT (W.getD (t - 3) 0 ^^^ W.getD (t - 8) 0 ^^^ W.getD (t - 14) 0 ^^^
      W.getD (t - 16) 0) 1])
    (List.ofFn (decode aucMessageBlock))

/-- `imsSha1_Transform`. -/
def transform (anH : State) (aucMessageBlock : Block) : State :=
  let W := schedule aucMessageBlock
  let h := (W.take 20).foldl (FF F00 K00) anH
  let h := ((W.drop 20).take 20).foldl (FF F20 K20) h
  let h := ((W.drop 40).take 20).foldl (FF F40 K40) h
  let h := ((W.drop 60).take 20).foldl (FF F60 K60) h
  ⟨anH.A + h.A, anH.B + h.B, anH.C + h.C, anH.D + h.D, anH.E + h.E⟩

end Sha1

def sha1 : Algorithm where
  State := Sha1.State
  initial := ⟨0x67452301, 0xefcdab89, 0x98badcfe, 0x10325476, 0xc3d2e1f0⟩
  zero := ⟨0, 0, 0, 0, 0⟩
  transform := Sha1.transform
  encodeBits := fun nLow nHigh => Sha1.encode [nHigh] ++ Sha1.encode [nLow]
  encodeState := fun h => Sha1.encode [h.A, h.B, h.C, h.D, h.E]
  size := 20
  size_le := by decide
  length_encodeBits := fun _ _ => rfl
  length_encodeState := fun _ => rfl

/-! ### Updating a context -/

variable {alg : Algorithm}

/-- `IMS_MEM_Memcpy` of a part of a source into the buffer. -/
def memcpy (aucBuffer : Block) (nIndex : Word) (pucSrc : Octets) (nFrom nCount : Word) :
    Option Block :=
  if h : nIndex.toNat + nCount.toNat ≤ 64 ∧ nFrom.toNat + nCount.toNat ≤ pucSrc.length then
    some ⟨aucBuffer.1.take nIndex.toNat ++ (pucSrc.drop nFrom.toNat).take nCount.toNat ++
      aucBuffer.1.drop (nIndex.toNat + nCount.toNat), by
        simp only [List.length_append, List.length_take, List.length_drop, aucBuffer.2]
        omega⟩
  else none

/-- The 64 octets a source has at an index. -/
def blockAt (pucSrc : Octets) (nProcIndex : Word) : Option Block :=
  if h : nProcIndex.toNat + 64 ≤ pucSrc.length then
    some ⟨(pucSrc.drop nProcIndex.toNat).take 64, by
      rw [List.length_take, List.length_drop]
      omega⟩
  else none

/-- The loop over the blocks of a source. -/
def transformBlocks (alg : Algorithm) (pucSrc : Octets) (nSrcLen : Word) :
    Nat → Word → alg.State → Option (Word × alg.State)
  | 0, _, _ => none
  | fuel + 1, nProcIndex, state =>
      if nProcIndex + 63 < nSrcLen then
        (blockAt pucSrc nProcIndex).bind fun aucBlock =>
          transformBlocks alg pucSrc nSrcLen fuel (nProcIndex + 64) (alg.transform state aucBlock)
      else some (nProcIndex, state)

/-- The number of octets in the buffer. -/
def index (nLow : Word) : Word := (nLow >>> 3) &&& 0x3F

def countedLow (nLow nSrcLen : Word) : Word := nLow + nSrcLen <<< 3

def countedHigh (nLow nHigh nSrcLen : Word) : Word :=
  (if countedLow nLow nSrcLen < nSrcLen <<< 3 then nHigh + 1 else nHigh) + nSrcLen >>> 29

/-- `ImsMd5_Update` and `ImsSha1_Update`. -/
def update (pucSrc : Octets) (nSrcLen : Word) (pContext : Context alg) : Option (Context alg) :=
  if 64 - index pContext.nLow ≤ nSrcLen then
    (memcpy pContext.aucBuffer (index pContext.nLow) pucSrc 0 (64 - index pContext.nLow)).bind
      fun aucBuffer =>
        (transformBlocks alg pucSrc nSrcLen (nSrcLen.toNat + 1) (64 - index pContext.nLow)
          (alg.transform pContext.state aucBuffer)).bind fun processed =>
            (memcpy aucBuffer 0 pucSrc processed.1 (nSrcLen - processed.1)).map fun aucBuffer =>
              ⟨processed.2, countedLow pContext.nLow nSrcLen,
                countedHigh pContext.nLow pContext.nHigh nSrcLen, aucBuffer⟩
  else
    (memcpy pContext.aucBuffer (index pContext.nLow) pucSrc 0 nSrcLen).map fun aucBuffer =>
      ⟨pContext.state, countedLow pContext.nLow nSrcLen,
        countedHigh pContext.nLow pContext.nHigh nSrcLen, aucBuffer⟩

/-- `MD5_PADDING` and `SHA1_PADDING`. -/
def PADDING : Octets := 0x80 :: List.replicate 63 0

def padLen (nIndex : Word) : Word := if nIndex < 56 then 56 - nIndex else 120 - nIndex

def zeroed (alg : Algorithm) : Context alg := ⟨alg.zero, 0, 0, ⟨List.replicate 64 0, rfl⟩⟩

/-- `ImsMd5_Finalize` and `ImsSha1_Finalize`: the digest, and the context afterwards. -/
def finalize (pContext : Context alg) : Option (Octets × Context alg) :=
  (update PADDING (padLen (index pContext.nLow)) pContext).bind fun padded =>
    (update (alg.encodeBits pContext.nLow pContext.nHigh) 8 padded).map fun finished =>
      (alg.encodeState finished.state, zeroed alg)

/-- `ImsMd5_Initialize` and `ImsSha1_Initialize`. -/
def initialContext (pContext : Context alg) : Context alg :=
  { pContext with state := alg.initial, nLow := 0, nHigh := 0 }

/-- A source and how much of it is taken. -/
structure Chunk where
  pucSrc : Octets
  nSrcLen : Word

def Chunk.octets (chunk : Chunk) : Octets := chunk.pucSrc.take chunk.nSrcLen.toNat

/-- The source has that much, and the index of the loop over it does not wrap. -/
def Chunk.Fits (chunk : Chunk) : Prop :=
  chunk.nSrcLen.toNat ≤ chunk.pucSrc.length ∧ chunk.nSrcLen.toNat + 63 < 2 ^ 32

def Chunk.whole (octets : Octets) : Chunk := ⟨octets, .ofNat 32 octets.length⟩

/-- The calls for one digest. -/
def digestOf (chunks : List Chunk) (objContext : Context alg) : Option (Octets × Context alg) :=
  (chunks.foldlM (fun pContext chunk => update chunk.pucSrc chunk.nSrcLen pContext)
    (initialContext objContext)).bind finalize

/-! ### What a context stands for -/

theorem toNat_zero : (0 : Word).toNat = 0 := rfl

/-- The transformation as a step on lists; only blocks reach it. -/
def Algorithm.step (alg : Algorithm) (state : alg.State) (octets : Octets) : alg.State :=
  if h : octets.length = 64 then alg.transform state ⟨octets, h⟩ else state

def Algorithm.bits (alg : Algorithm) (message : Octets) : Octets :=
  alg.encodeBits (.ofNat 32 (8 * message.length)) (.ofNat 32 (8 * message.length / 2 ^ 32))

def Algorithm.padded (alg : Algorithm) (message : Octets) : Octets :=
  BlockHash.padded 64 0x80 0 message (alg.bits message)

/-- The digest of a message: the blocks of the padded message, one after another. -/
def Algorithm.digest (alg : Algorithm) (message : Octets) : Octets :=
  alg.encodeState (BlockHash.absorb 64 alg.step alg.initial (alg.padded message)).1

theorem Algorithm.step_block (state : alg.State) (aucBlock : Block) :
    alg.step state aucBlock.1 = alg.transform state aucBlock := dif_pos aucBlock.2

/-- The context after a message. -/
structure Holds (message : Octets) (pContext : Context alg) : Prop where
  low : pContext.nLow = .ofNat 32 (8 * message.length)
  high : pContext.nHigh = .ofNat 32 (8 * message.length / 2 ^ 32)
  state : (BlockHash.absorb 64 alg.step alg.initial message).1 = pContext.state
  pending : (BlockHash.absorb 64 alg.step alg.initial message).2 <+: pContext.aucBuffer.1

theorem holds_initialContext (pContext : Context alg) : Holds [] (initialContext pContext) :=
  ⟨rfl, rfl, rfl, List.nil_prefix⟩

theorem toNat_index (length : Nat) :
    (index (.ofNat 32 (8 * length))).toNat = length % 64 := by
  have hmask : (0x3F : Word).toNat = 2 ^ 6 - 1 := rfl
  simp only [index, BitVec.toNat_and, BitVec.toNat_ushiftRight, BitVec.toNat_ofNat,
    Nat.shiftRight_eq_div_pow, hmask, Nat.and_two_pow_sub_one_eq_mod]
  omega

theorem counted (length : Nat) (nSrcLen : Word) :
    countedLow (.ofNat 32 (8 * length)) nSrcLen = .ofNat 32 (8 * (length + nSrcLen.toNat)) ∧
      countedHigh (.ofNat 32 (8 * length)) (.ofNat 32 (8 * length / 2 ^ 32)) nSrcLen =
        .ofNat 32 (8 * (length + nSrcLen.toNat) / 2 ^ 32) := by
  have hsrc := nSrcLen.isLt
  have hone : (1 : Word).toNat = 1 := rfl
  have hlow : countedLow (.ofNat 32 (8 * length)) nSrcLen =
      .ofNat 32 (8 * (length + nSrcLen.toNat)) := by
    apply BitVec.eq_of_toNat_eq
    simp only [countedLow, BitVec.toNat_add, BitVec.toNat_shiftLeft, BitVec.toNat_ofNat,
      Nat.shiftLeft_eq]
    omega
  refine ⟨hlow, ?_⟩
  unfold countedHigh
  rw [hlow]
  apply BitVec.eq_of_toNat_eq
  -- a sum below one of its terms has wrapped
  split <;> rename_i hcarry <;>
    simp only [BitVec.lt_def, BitVec.toNat_shiftLeft, BitVec.toNat_ofNat, BitVec.toNat_add,
      BitVec.toNat_ushiftRight, Nat.shiftLeft_eq, Nat.shiftRight_eq_div_pow, hone] at hcarry ⊢ <;>
    omega

theorem octets_memcpy {aucBuffer aucCopied : Block} {nIndex nFrom nCount : Word} {pucSrc : Octets}
    (h : memcpy aucBuffer nIndex pucSrc nFrom nCount = some aucCopied) :
    aucBuffer.1.take nIndex.toNat ++ (pucSrc.drop nFrom.toNat).take nCount.toNat <+:
      aucCopied.1 := by
  unfold memcpy at h
  split at h
  · rw [← Option.some.inj h]
    exact List.prefix_append _ _
  · cases h

theorem exists_memcpy (aucBuffer : Block) (nIndex : Word) (pucSrc : Octets)
    (nFrom nCount : Word) (hbuffer : nIndex.toNat + nCount.toNat ≤ 64)
    (hsource : nFrom.toNat + nCount.toNat ≤ pucSrc.length) :
    ∃ aucCopied, memcpy aucBuffer nIndex pucSrc nFrom nCount = some aucCopied :=
  ⟨_, dif_pos ⟨hbuffer, hsource⟩⟩

/-- The loop takes the blocks of what is left of the source, and ends behind them. -/
theorem exists_transformBlocks {pucSrc : Octets} {nSrcLen : Word}
    (hlength : nSrcLen.toNat ≤ pucSrc.length) (hshort : nSrcLen.toNat + 63 < 2 ^ 32) :
    ∀ (fuel : Nat) (nProcIndex : Word) (state : alg.State), nProcIndex.toNat ≤ nSrcLen.toNat →
      nSrcLen.toNat - nProcIndex.toNat < fuel →
      ∃ nEnd : Word, nEnd.toNat ≤ nSrcLen.toNat ∧
        transformBlocks alg pucSrc nSrcLen fuel nProcIndex state = some (nEnd,
          (BlockHash.absorb 64 alg.step state
            ((pucSrc.take nSrcLen.toNat).drop nProcIndex.toNat)).1) ∧
        (BlockHash.absorb 64 alg.step state
          ((pucSrc.take nSrcLen.toNat).drop nProcIndex.toNat)).2 =
            (pucSrc.take nSrcLen.toNat).drop nEnd.toNat := by
  intro fuel
  induction fuel with
  | zero => exact fun _ _ _ hfuel => absurd hfuel (Nat.not_lt_zero _)
  | succ fuel ih =>
      intro nProcIndex state hindex hfuel
      have hnext : (nProcIndex + 63).toNat = nProcIndex.toNat + 63 := by
        rw [BitVec.toNat_add]
        exact Nat.mod_eq_of_lt (by simp only [BitVec.reduceToNat]; omega)
      unfold transformBlocks
      split
      · rename_i hmore
        rw [BitVec.lt_def, hnext] at hmore
        have hsucc : (nProcIndex + 64).toNat = nProcIndex.toNat + 64 := by
          rw [BitVec.toNat_add]
          exact Nat.mod_eq_of_lt (by simp only [BitVec.reduceToNat]; omega)
        obtain ⟨aucBlock, haucBlock⟩ : ∃ aucBlock, blockAt pucSrc nProcIndex = some aucBlock :=
          ⟨_, dif_pos (by omega)⟩
        have hblock : aucBlock.1 = (pucSrc.drop nProcIndex.toNat).take 64 := by
          unfold blockAt at haucBlock
          split at haucBlock
          · rw [← Option.some.inj haucBlock]
          · cases haucBlock
        have hsplit : (pucSrc.take nSrcLen.toNat).drop nProcIndex.toNat =
            aucBlock.1 ++ (pucSrc.take nSrcLen.toNat).drop (nProcIndex + 64).toNat := by
          rw [hblock, hsucc, ← List.drop_drop]
          conv => lhs; rw [← List.take_append_drop 64 ((pucSrc.take _).drop _)]
          rw [List.drop_take, List.take_take, Nat.min_eq_left (by omega)]
        obtain ⟨nEnd, hend, hrun, hrest⟩ := ih (nProcIndex + 64) (alg.transform state aucBlock)
          (by omega) (by omega)
        rw [haucBlock, Option.bind_some, hsplit, BlockHash.absorb_block (by decide) aucBlock.2,
          Algorithm.step_block]
        exact ⟨nEnd, hend, hrun, hrest⟩
      · rename_i hdone
        rw [BitVec.lt_def, hnext] at hdone
        have hlt : ((pucSrc.take nSrcLen.toNat).drop nProcIndex.toNat).length < 64 := by
          rw [List.length_drop, List.length_take]
          omega
        rw [BlockHash.absorb_of_lt hlt]
        exact ⟨nProcIndex, hindex, rfl, rfl⟩

theorem prefix_memcpy {aucBuffer aucCopied : Block} {message pucSrc : Octets} {nFrom nCount : Word}
    (hpending : (BlockHash.absorb 64 alg.step alg.initial message).2 <+: aucBuffer.1)
    (hcopy : memcpy aucBuffer (index (.ofNat 32 (8 * message.length))) pucSrc nFrom nCount =
      some aucCopied) :
    (BlockHash.absorb 64 alg.step alg.initial message).2 ++
      (pucSrc.drop nFrom.toNat).take nCount.toNat <+: aucCopied.1 := by
  have hcopied := octets_memcpy hcopy
  rw [toNat_index, ← @BlockHash.length_absorb_rest _ _ 64 alg.step alg.initial,
    ← List.prefix_iff_eq_take.mp hpending] at hcopied
  exact hcopied

theorem Holds.update {message : Octets} {pContext : Context alg} (h : Holds message pContext)
    {pucSrc : Octets} {nSrcLen : Word} (hlength : nSrcLen.toNat ≤ pucSrc.length)
    (hshort : nSrcLen.toNat + 63 < 2 ^ 32) :
    ∃ updated, update pucSrc nSrcLen pContext = some updated ∧
      Holds (message ++ pucSrc.take nSrcLen.toNat) updated := by
  obtain ⟨hcountLow, hcountHigh⟩ := counted message.length nSrcLen
  have hindex := toNat_index message.length
  have hmod := Nat.mod_lt message.length (by decide : 0 < 64)
  have hpart : (64 - index (.ofNat 32 (8 * message.length))).toNat = 64 - message.length % 64 := by
    rw [BitVec.toNat_sub, hindex]
    simp only [BitVec.reduceToNat]
    omega
  have htotal : (message ++ pucSrc.take nSrcLen.toNat).length =
      message.length + nSrcLen.toNat := by
    rw [List.length_append, List.length_take, Nat.min_eq_left hlength]
  have habsorb := @BlockHash.absorb_append _ _ 64 alg.step alg.initial message
    (pucSrc.take nSrcLen.toNat)
  have hrest := @BlockHash.length_absorb_rest _ _ 64 alg.step alg.initial message
  unfold Digests.update
  rw [h.low, h.high, hcountLow, hcountHigh, ← htotal]
  split
  · rename_i hfull
    rw [BitVec.le_def, hpart] at hfull
    obtain ⟨aucBuffer, hcopy⟩ := exists_memcpy pContext.aucBuffer
      (index (.ofNat 32 (8 * message.length))) pucSrc 0
      (64 - index (.ofNat 32 (8 * message.length))) (by omega)
      (by rw [hpart, toNat_zero]; omega)
    -- the buffer is filled up to a block with the front of the source
    have hfilled := prefix_memcpy h.pending hcopy
    rw [hpart, toNat_zero, List.drop_zero] at hfilled
    have hblock := hfilled.eq_of_length (by
      rw [List.length_append, hrest, List.length_take, aucBuffer.2]; omega)
    have hsplit : (BlockHash.absorb 64 alg.step alg.initial message).2 ++
        pucSrc.take nSrcLen.toNat =
          aucBuffer.1 ++ (pucSrc.take nSrcLen.toNat).drop (64 - message.length % 64) := by
      rw [← hblock, List.append_assoc]
      conv => lhs; rw [← List.take_append_drop (64 - message.length % 64) (pucSrc.take _)]
      rw [List.take_take, Nat.min_eq_left hfull]
    rw [hsplit, h.state, BlockHash.absorb_block (by decide) aucBuffer.2,
      Algorithm.step_block] at habsorb
    obtain ⟨nEnd, hend, hrun, hleft⟩ := @exists_transformBlocks alg _ _ hlength hshort
      (nSrcLen.toNat + 1) (64 - index (.ofNat 32 (8 * message.length)))
      (alg.transform pContext.state aucBuffer) (by omega) (by omega)
    rw [hpart] at hrun hleft
    have hcount : (nSrcLen - nEnd).toNat = nSrcLen.toNat - nEnd.toNat := by
      rw [BitVec.toNat_sub]
      omega
    have hremaining : nSrcLen.toNat - nEnd.toNat ≤ 64 := by
      have hlt := congrArg List.length hleft
      simp only [BlockHash.length_absorb_rest, List.length_drop, List.length_take,
        Nat.min_eq_left hlength] at hlt
      omega
    obtain ⟨aucRest, hcopyRest⟩ := exists_memcpy aucBuffer 0 pucSrc nEnd (nSrcLen - nEnd)
      (by rw [hcount, toNat_zero]; omega) (by omega)
    have hkept := octets_memcpy hcopyRest
    rw [hcopy, Option.bind_some, hrun, Option.bind_some, hcopyRest, Option.map_some]
    refine ⟨_, rfl, rfl, rfl, congrArg Prod.fst habsorb, ?_⟩
    rw [habsorb, hleft, List.drop_take, ← hcount]
    exact hkept
  · rename_i hpartial
    rw [BitVec.le_def, hpart] at hpartial
    obtain ⟨aucBuffer, hcopy⟩ := exists_memcpy pContext.aucBuffer
      (index (.ofNat 32 (8 * message.length))) pucSrc 0 nSrcLen (by omega)
      (by rw [toNat_zero]; omega)
    have hkept := prefix_memcpy h.pending hcopy
    have hlt : ((BlockHash.absorb 64 alg.step alg.initial message).2 ++
        pucSrc.take nSrcLen.toNat).length < 64 := by
      rw [List.length_append, hrest, List.length_take]
      omega
    rw [BlockHash.absorb_of_lt hlt] at habsorb
    rw [hcopy, Option.map_some]
    refine ⟨_, rfl, rfl, rfl, (congrArg Prod.fst habsorb).trans h.state, ?_⟩
    rw [habsorb]
    exact hkept

theorem Holds.updates {message : Octets} {pContext : Context alg} (h : Holds message pContext)
    {chunks : List Chunk} (hfits : ∀ chunk ∈ chunks, chunk.Fits) :
    ∃ updated, chunks.foldlM (fun pContext chunk => Digests.update chunk.pucSrc chunk.nSrcLen
        pContext) pContext = some updated ∧
      Holds (message ++ chunks.flatMap Chunk.octets) updated := by
  induction chunks generalizing message pContext with
  | nil => exact ⟨pContext, rfl, by rw [List.flatMap_nil, List.append_nil]; exact h⟩
  | cons chunk chunks ih =>
      have hchunk := hfits chunk List.mem_cons_self
      obtain ⟨updated, hupdate, hholds⟩ := h.update hchunk.1 hchunk.2
      obtain ⟨finished, hrun, hfinished⟩ :=
        ih hholds fun other hother => hfits other (List.mem_cons_of_mem chunk hother)
      refine ⟨finished, ?_, ?_⟩
      · rw [List.foldlM_cons, hupdate]
        exact hrun
      · rw [List.flatMap_cons, ← List.append_assoc]
        exact hfinished

theorem length_PADDING : PADDING.length = 64 := rfl

theorem toNat_padLen (length : Nat) :
    (padLen (index (.ofNat 32 (8 * length)))).toNat = 1 + BlockHash.fillers 64 8 length := by
  have hindex := toNat_index length
  unfold padLen BlockHash.fillers
  split <;> rename_i hlt <;> rw [BitVec.lt_def, hindex] at hlt <;>
    rw [BitVec.toNat_sub, hindex] <;> simp only [BitVec.reduceToNat] at hlt ⊢ <;> omega

theorem Holds.finalize {message : Octets} {pContext : Context alg} (h : Holds message pContext) :
    finalize pContext = some (alg.digest message, zeroed alg) := by
  have hpad := toNat_padLen message.length
  have hfillers := BlockHash.fillers_lt (by decide : 0 < 64) 8 message.length
  obtain ⟨padded, hpadded, hholds⟩ := @Holds.update _ _ _ h PADDING
    (padLen (index pContext.nLow)) (by rw [h.low, hpad, length_PADDING]; omega)
    (by rw [h.low, hpad]; omega)
  have hbits := alg.length_encodeBits pContext.nLow pContext.nHigh
  obtain ⟨finished, hfinished, hdigest⟩ := @Holds.update _ _ _ hholds
    (alg.encodeBits pContext.nLow pContext.nHigh) 8 (by rw [hbits]; decide) (by decide)
  have hmessage : message ++ PADDING.take (padLen (index pContext.nLow)).toNat ++
      (alg.encodeBits pContext.nLow pContext.nHigh).take (8 : Word).toNat =
        alg.padded message := by
    rw [h.low, h.high, hpad, Algorithm.padded, BlockHash.padded, Algorithm.bits,
      alg.length_encodeBits, Nat.add_comm 1, PADDING, List.take_succ_cons, List.take_replicate,
      Nat.min_eq_left (Nat.le_of_lt_succ hfillers)]
    exact congrArg _ (List.take_of_length_le (Nat.le_of_eq (alg.length_encodeBits _ _)))
  rw [hmessage] at hdigest
  unfold Digests.finalize
  rw [hpadded, Option.bind_some, hfinished, Option.map_some, Algorithm.digest, hdigest.state]

theorem digestOf_eq {chunks : List Chunk} (hfits : ∀ chunk ∈ chunks, chunk.Fits)
    (objContext : Context alg) :
    digestOf chunks objContext =
      some (alg.digest (chunks.flatMap Chunk.octets), zeroed alg) := by
  obtain ⟨updated, hrun, hholds⟩ := (holds_initialContext objContext).updates hfits
  rw [digestOf, hrun, Option.bind_some]
  exact hholds.finalize

theorem fits_whole {octets : Octets} (hshort : octets.length + 63 < 2 ^ 32) :
    (Chunk.whole octets).Fits ∧ (Chunk.whole octets).octets = octets := by
  have hlength : (Chunk.whole octets).nSrcLen.toNat = octets.length := by
    rw [Chunk.whole, BitVec.toNat_ofNat]
    exact Nat.mod_eq_of_lt (by omega)
  rw [Chunk.Fits, Chunk.octets, hlength]
  exact ⟨⟨Nat.le_refl _, hshort⟩, List.take_length⟩

/-- Whatever pieces a message is taken in, both give the digest of the padded message, which has
whole blocks. -/
theorem digestOf_pieces (pieces : List Octets)
    (hshort : ∀ piece ∈ pieces, piece.length + 63 < 2 ^ 32) (md5Context : Context md5)
    (sha1Context : Context sha1) :
    (digestOf (pieces.map .whole) md5Context).map Prod.fst = some (md5.digest pieces.flatten) ∧
      (digestOf (pieces.map .whole) sha1Context).map Prod.fst =
        some (sha1.digest pieces.flatten) ∧
      64 ∣ (md5.padded pieces.flatten).length ∧ 64 ∣ (sha1.padded pieces.flatten).length := by
  have hfits : ∀ chunk ∈ pieces.map Chunk.whole, chunk.Fits := by
    intro chunk hchunk
    obtain ⟨piece, hpiece, rfl⟩ := List.mem_map.mp hchunk
    exact (fits_whole (hshort piece hpiece)).1
  have hoctets : (pieces.map Chunk.whole).flatMap Chunk.octets = pieces.flatten := by
    have hmap : pieces.map (Chunk.octets ∘ Chunk.whole) = pieces.map id :=
      List.map_congr_left fun piece hpiece => (fits_whole (hshort piece hpiece)).2
    rw [List.flatMap_def, List.map_map, hmap, List.map_id]
  rw [digestOf_eq hfits, digestOf_eq hfits, hoctets]
  exact ⟨rfl, rfl, BlockHash.length_padded (by decide) _ _ _ _,
    BlockHash.length_padded (by decide) _ _ _ _⟩

theorem digestOf_pieces_abc :
    (digestOf ([[0x61], [0x62, 0x63]].map .whole) (zeroed md5)).map Prod.fst =
        some (md5.digest [0x61, 0x62, 0x63]) ∧
      (digestOf ([[0x61], [0x62, 0x63]].map .whole) (zeroed sha1)).map Prod.fst =
        some (sha1.digest [0x61, 0x62, 0x63]) ∧
      64 ∣ (md5.padded [0x61, 0x62, 0x63]).length ∧
      64 ∣ (sha1.padded [0x61, 0x62, 0x63]).length :=
  digestOf_pieces [[0x61], [0x62, 0x63]] (by decide) (zeroed md5) (zeroed sha1)

example : md5.digest [0x61, 0x62, 0x63] =
    [0x90, 0x01, 0x50, 0x98, 0x3c, 0xd2, 0x4f, 0xb0, 0xd6, 0x96, 0x3f, 0x7d, 0x28, 0xe1, 0x7f,
      0x72] := by
  decide +kernel

/-! ### `ImsHmac.cpp` -/

/-- A key in the first 64 octets of a pad. -/
def keyPad (pucKey : Octets) (pad : UInt8) : Octets :=
  let aucKey := pucKey ++ List.replicate (65 - pucKey.length) 0
  (aucKey.take 64).map (· ^^^ pad) ++ aucKey.drop 64

/-- `ImsHmac_Md5` and `ImsHmac_Sha1`, with their two contexts. -/
def hmac (pucText pucKey : Octets) (objKeyContext objContext : Context alg) : Option Octets :=
  (if pucKey.length > 64 then (digestOf [.whole pucKey] objKeyContext).map Prod.fst
    else some pucKey).bind fun pucKey =>
      (digestOf [⟨keyPad pucKey 0x36, 64⟩, .whole pucText] objContext).bind fun inner =>
        (digestOf [⟨keyPad pucKey 0x5c, 64⟩, ⟨inner.1, .ofNat 32 alg.size⟩] inner.2).map Prod.fst

/-- A key of a block's length, mixed with a pad. -/
def mixed (pad : UInt8) (key : Octets) : Octets :=
  (key ++ List.replicate (64 - key.length) 0).map (· ^^^ pad)

/-- The key itself, or its digest where it is longer than a block. -/
def Algorithm.shortKey (alg : Algorithm) (key : Octets) : Octets :=
  if 64 < key.length then alg.digest key else key

theorem Algorithm.length_digest (alg : Algorithm) (message : Octets) :
    (alg.digest message).length = alg.size := alg.length_encodeState _

theorem octets_keyPad {key : Octets} (hkey : key.length ≤ 64) (pad : UInt8) :
    Chunk.octets ⟨keyPad key pad, 64⟩ = mixed pad key ∧ Chunk.Fits ⟨keyPad key pad, 64⟩ := by
  have hsize : (64 : Word).toNat = 64 := rfl
  have htake : (key ++ List.replicate (65 - key.length) 0).take 64 =
      key ++ List.replicate (64 - key.length) (0 : UInt8) := by
    rw [List.take_append, List.take_of_length_le hkey, List.take_replicate,
      Nat.min_eq_left (Nat.sub_le_sub_right (by decide) _)]
  have hlength : (mixed pad key).length = 64 := by
    rw [mixed, List.length_map, List.length_append, List.length_replicate,
      Nat.add_sub_cancel' hkey]
  have hpad : keyPad key pad = mixed pad key ++
      (key ++ List.replicate (65 - key.length) 0).drop 64 := by
    rw [keyPad, htake, mixed]
  constructor
  · rw [Chunk.octets, hpad, hsize, ← hlength, List.take_left]
  · rw [Chunk.Fits, hpad, hsize, List.length_append, hlength]
    exact ⟨Nat.le_add_right _ _, by decide⟩

/-- The authentication code is the digest of the key and the digest of the key and the text. -/
theorem hmac_eq {pucText pucKey : Octets} (htext : pucText.length + 63 < 2 ^ 32)
    (hkey : pucKey.length + 63 < 2 ^ 32) (objKeyContext objContext : Context alg) :
    hmac pucText pucKey objKeyContext objContext =
      some (alg.digest (mixed 0x5c (alg.shortKey pucKey) ++
        alg.digest (mixed 0x36 (alg.shortKey pucKey) ++ pucText))) := by
  have hshort : (if pucKey.length > 64 then
      (digestOf [.whole pucKey] objKeyContext).map Prod.fst else some pucKey) =
        some (alg.shortKey pucKey) := by
    unfold Algorithm.shortKey
    split
    · rw [digestOf_eq (by simpa using (fits_whole hkey).1)]
      simp [(fits_whole hkey).2]
    · rfl
  have hle : (alg.shortKey pucKey).length ≤ 64 := by
    unfold Algorithm.shortKey
    split
    · rw [Algorithm.length_digest]
      exact alg.size_le
    · omega
  have hsize : (BitVec.ofNat 32 alg.size).toNat = alg.size := by
    have := alg.size_le
    rw [BitVec.toNat_ofNat]
    omega
  have hinner : Chunk.octets ⟨alg.digest (mixed 0x36 (alg.shortKey pucKey) ++ pucText),
      .ofNat 32 alg.size⟩ = alg.digest (mixed 0x36 (alg.shortKey pucKey) ++ pucText) := by
    rw [Chunk.octets, hsize, ← alg.length_digest, List.take_length]
  have hfits : Chunk.Fits ⟨alg.digest (mixed 0x36 (alg.shortKey pucKey) ++ pucText),
      .ofNat 32 alg.size⟩ := by
    have := alg.size_le
    rw [Chunk.Fits, hsize, alg.length_digest]
    exact ⟨Nat.le_refl _, by omega⟩
  have hfitsInner := List.forall_mem_cons.mpr ⟨(octets_keyPad hle 0x36).2,
    List.forall_mem_singleton.mpr (fits_whole htext).1⟩
  have hfitsOuter := List.forall_mem_cons.mpr ⟨(octets_keyPad hle 0x5c).2,
    List.forall_mem_singleton.mpr hfits⟩
  unfold hmac
  rw [hshort, Option.bind_some, digestOf_eq hfitsInner,
    Option.bind_some]
  simp only [List.flatMap_cons, List.flatMap_nil, List.append_nil, (octets_keyPad hle _).1,
    (fits_whole htext).2]
  rw [digestOf_eq hfitsOuter, Option.map_some]
  simp only [List.flatMap_cons, List.flatMap_nil, List.append_nil, (octets_keyPad hle _).1, hinner]

theorem hmac_eq_short :
    hmac [0x74] [0x6b] (zeroed sha1) (zeroed sha1) =
      some (sha1.digest (mixed 0x5c (sha1.shortKey [0x6b]) ++
        sha1.digest (mixed 0x36 (sha1.shortKey [0x6b]) ++ [0x74]))) :=
  hmac_eq (by decide) (by decide) (zeroed sha1) (zeroed sha1)

/-! ### `ImsDigest.cpp` -/

def octetsOf (strText : AString.Chars) : Octets := strText.map fun c => .ofNat c.toNat

/-- A string and its length. -/
def chunkOf (strText : AString.Chars) : Chunk := .whole (octetsOf strText)

def COLON : Chunk := ⟨[0x3a, 0], 1⟩

def hexDigit (ucTemp : UInt8) : UInt8 := if ucTemp ≤ 9 then ucTemp + 0x30 else ucTemp + 0x61 - 10

/-- `imsDigest_ConvertBinToHex`. -/
def convertBinToHex (hBin : Octets) : Octets :=
  hBin.flatMap (fun octet : UInt8 =>
    [hexDigit ((octet >>> 4) &&& 0x0F), hexDigit (octet &&& 0x0F)]) ++ [0]

/-- `ImsDigest_CalculateA1`. -/
def calculateA1 (strAlgorithm strUsername strRealm strPassword strNonce strCNonce : AString.Chars)
    (objMd5Ctx : Context md5) : Option Octets :=
  (digestOf [chunkOf strUsername, COLON, chunkOf strRealm, COLON, chunkOf strPassword]
    objMd5Ctx).bind fun local1 =>
      if AString.equalsIgnoreCaseLiteral strAlgorithm "md5-sess" then
        (digestOf ([⟨local1.1, 16⟩] ++
          (if strNonce.length > 0 then [COLON, chunkOf strNonce] else []) ++
          (if strCNonce.length > 0 then [COLON, chunkOf strCNonce] else [])) local1.2).map
            fun session => convertBinToHex session.1
      else some (convertBinToHex local1.1)

/-- `ImsDigest_CalculateResponse`. -/
def calculateResponse (hA1 : Octets)
    (strNonce strNonceCount strCNonce strQop strMethod strDigestUri : AString.Chars)
    (hEntity : Octets) (objMd5Ctx : Context md5) : Option Octets :=
  (digestOf ([chunkOf strMethod, COLON, chunkOf strDigestUri] ++
    (if AString.equalsIgnoreCaseLiteral strQop "auth-int" then [COLON, ⟨hEntity, 32⟩] else []))
    objMd5Ctx).bind fun hA2 =>
      (digestOf ([⟨hA1, 32⟩, COLON] ++
        (if strNonce.length > 0 then [chunkOf strNonce, COLON] else []) ++
        (if strQop.length > 0 then [chunkOf strNonceCount, COLON, chunkOf strCNonce, COLON,
          chunkOf strQop, COLON] else []) ++ [⟨convertBinToHex hA2.1, 32⟩]) hA2.2).map
            fun response => convertBinToHex response.1

/-- Fields with colons between them. -/
def colons (fields : List Octets) : Octets := List.intercalate [0x3a] fields

/-- A field that is left out where it is empty. -/
def present (strText : AString.Chars) : List Chunk :=
  if strText.length > 0 then [chunkOf strText] else []

theorem fits_chunkOf {strText : AString.Chars} (h : strText.length < 2 ^ 31) :
    (chunkOf strText).Fits ∧ (chunkOf strText).octets = octetsOf strText :=
  fits_whole (by rw [octetsOf, List.length_map]; omega)

theorem fits_present {strText : AString.Chars} (h : strText.length < 2 ^ 31) :
    ∀ chunk ∈ present strText, chunk.Fits := by
  unfold present
  split
  · exact List.forall_mem_singleton.mpr (fits_chunkOf h).1
  · exact fun _ hmem => absurd hmem List.not_mem_nil

theorem fits_hash (message : Octets) :
    Chunk.Fits ⟨md5.digest message, 16⟩ ∧
      Chunk.octets ⟨md5.digest message, 16⟩ = md5.digest message := by
  have hlength : (md5.digest message).length = 16 := md5.length_digest message
  refine ⟨⟨Nat.le_of_eq hlength.symm, (by decide : 16 + 63 < 2 ^ 32)⟩, ?_⟩
  exact List.take_of_length_le (Nat.le_of_eq hlength)

theorem fits_hex {hHex : Octets} (h : hHex.length = 33) : Chunk.Fits ⟨hHex, 32⟩ := by
  rw [Chunk.Fits, h]
  exact ⟨(by decide : 32 ≤ 33), (by decide : 32 + 63 < 2 ^ 32)⟩

theorem length_convertBinToHex (hBin : Octets) :
    (convertBinToHex hBin).length = 2 * hBin.length + 1 := by
  rw [convertBinToHex, List.length_append, List.length_flatMap]
  simp [Nat.mul_comm]

theorem digestOf_intersperse {chunks : List Chunk} (hfits : ∀ chunk ∈ chunks, chunk.Fits)
    (objContext : Context alg) :
    digestOf (chunks.intersperse COLON) objContext =
      some (alg.digest (colons (chunks.map Chunk.octets)), zeroed alg) := by
  have hcolon : COLON.Fits := ⟨(by decide : 1 ≤ 2), (by decide : 1 + 63 < 2 ^ 32)⟩
  have hall : (∀ chunk ∈ chunks.intersperse COLON, chunk.Fits) ∧
      (chunks.intersperse COLON).flatMap Chunk.octets = colons (chunks.map Chunk.octets) := by
    unfold colons
    induction chunks with
    | nil => exact ⟨hfits, rfl⟩
    | cons first rest ih =>
        cases rest with
        | nil => exact ⟨hfits, by simp⟩
        | cons second rest =>
            obtain ⟨hrest, hoctets⟩ := ih fun chunk hchunk => hfits chunk (.tail _ hchunk)
            refine ⟨?_, ?_⟩
            · rw [List.intersperse_cons_cons, List.forall_mem_cons, List.forall_mem_cons]
              exact ⟨hfits first List.mem_cons_self, hcolon, hrest⟩
            · rw [List.intersperse_cons_cons, List.flatMap_cons, List.flatMap_cons, hoctets,
                ← List.append_assoc]
              exact List.intercalate_cons_cons.symm
  rw [digestOf_eq hall.1, hall.2]

theorem fits_map {texts : List AString.Chars} (h : ∀ strText ∈ texts, strText.length < 2 ^ 31) :
    ∀ chunk ∈ texts.map chunkOf, chunk.Fits := by
  intro chunk hmem
  obtain ⟨strText, htext, rfl⟩ := List.mem_map.mp hmem
  exact (fits_chunkOf (h strText htext)).1

theorem map_octets {texts : List AString.Chars} (h : ∀ strText ∈ texts, strText.length < 2 ^ 31) :
    (texts.map chunkOf).map Chunk.octets = texts.map octetsOf := by
  rw [List.map_map]
  exact List.map_congr_left fun strText hmem => (fits_chunkOf (h strText hmem)).2

theorem digestOf_session {strNonce strCNonce : AString.Chars} (hNonce : strNonce.length < 2 ^ 31)
    (hCNonce : strCNonce.length < 2 ^ 31) (message : Octets) (objMd5Ctx : Context md5) :
    digestOf ([⟨md5.digest message, 16⟩] ++
        (if strNonce.length > 0 then [COLON, chunkOf strNonce] else []) ++
        (if strCNonce.length > 0 then [COLON, chunkOf strCNonce] else [])) objMd5Ctx =
      some (md5.digest (colons (md5.digest message ::
        (present strNonce ++ present strCNonce).map Chunk.octets)), zeroed md5) := by
  have hfields := digestOf_intersperse (List.forall_mem_cons.mpr ⟨(fits_hash message).1,
    List.forall_mem_append.mpr ⟨fits_present hNonce, fits_present hCNonce⟩⟩) objMd5Ctx
  rw [List.map_cons, (fits_hash message).2] at hfields
  rw [← hfields]
  unfold present
  split <;> split <;> rfl

/-- `H(A1)` is the digest of the name, the realm and the password, and of a session the digest of
that one and of the nonces that are there. -/
theorem calculateA1_eq {strUsername strRealm strPassword strNonce strCNonce : AString.Chars}
    (h : ∀ strText ∈ [strUsername, strRealm, strPassword], strText.length < 2 ^ 31)
    (hNonce : strNonce.length < 2 ^ 31) (hCNonce : strCNonce.length < 2 ^ 31)
    (strAlgorithm : AString.Chars) (objMd5Ctx : Context md5) :
    calculateA1 strAlgorithm strUsername strRealm strPassword strNonce strCNonce objMd5Ctx =
      some (convertBinToHex (
        if AString.equalsIgnoreCaseLiteral strAlgorithm "md5-sess" then
          md5.digest (colons (
            md5.digest (colons ([strUsername, strRealm, strPassword].map octetsOf)) ::
              ((present strNonce ++ present strCNonce).map Chunk.octets)))
        else md5.digest (colons ([strUsername, strRealm, strPassword].map octetsOf)))) := by
  have hplain : digestOf [chunkOf strUsername, COLON, chunkOf strRealm, COLON,
      chunkOf strPassword] objMd5Ctx =
        some (md5.digest (colons ([strUsername, strRealm, strPassword].map octetsOf)),
          zeroed md5) := by
    rw [← map_octets h]
    exact digestOf_intersperse (fits_map h) objMd5Ctx
  unfold calculateA1
  rw [hplain, Option.bind_some]
  split
  · exact congrArg (Option.map _) (digestOf_session hNonce hCNonce _ (zeroed md5))
  · rfl

theorem calculateA1_eq_session :
    calculateA1 "MD5-sess".toList "u".toList "r".toList "p".toList [] "c".toList (zeroed md5) =
      some (convertBinToHex (
        if AString.equalsIgnoreCaseLiteral "MD5-sess".toList "md5-sess" then
          md5.digest (colons (
            md5.digest (colons (["u".toList, "r".toList, "p".toList].map octetsOf)) ::
              ((present [] ++ present "c".toList).map Chunk.octets)))
        else md5.digest (colons (["u".toList, "r".toList, "p".toList].map octetsOf)))) :=
  calculateA1_eq (by decide) (by decide) (by decide) "MD5-sess".toList (zeroed md5)

/-- The response is the digest of `H(A1)`, the nonce, the count, the own nonce and the quality of
protection, as far as they are there, and of the digest of the method and the URI. -/
theorem calculateResponse_eq {strNonceCount strCNonce strQop strMethod strDigestUri strNonce :
      AString.Chars} {hA1 hEntity : Octets}
    (h : ∀ strText ∈ [strNonceCount, strCNonce, strQop], strText.length < 2 ^ 31)
    (hNonce : strNonce.length < 2 ^ 31)
    (hRequest : ∀ strText ∈ [strMethod, strDigestUri], strText.length < 2 ^ 31)
    (hhA1 : hA1.length = 33) (hhEntity : hEntity.length = 33) (objMd5Ctx : Context md5) :
    calculateResponse hA1 strNonce strNonceCount strCNonce strQop strMethod strDigestUri hEntity
        objMd5Ctx =
      some (convertBinToHex (md5.digest (colons ([hA1.take 32] ++
        (present strNonce).map Chunk.octets ++
        (if strQop.length > 0 then [strNonceCount, strCNonce, strQop].map octetsOf else []) ++
        [(convertBinToHex (md5.digest (colons ([strMethod, strDigestUri].map octetsOf ++
          if AString.equalsIgnoreCaseLiteral strQop "auth-int" then [hEntity.take 32]
          else [])))).take 32])))) := by
  have hA2 : digestOf ([chunkOf strMethod, COLON, chunkOf strDigestUri] ++
      (if AString.equalsIgnoreCaseLiteral strQop "auth-int" then [COLON, ⟨hEntity, 32⟩] else []))
        objMd5Ctx =
      some (md5.digest (colons ([strMethod, strDigestUri].map octetsOf ++
        if AString.equalsIgnoreCaseLiteral strQop "auth-int" then [hEntity.take 32] else [])),
        zeroed md5) := by
    rw [← map_octets hRequest]
    split
    · have hfits : ∀ chunk ∈ [strMethod, strDigestUri].map chunkOf ++ [⟨hEntity, 32⟩],
          chunk.Fits :=
        List.forall_mem_append.mpr
          ⟨fits_map hRequest, List.forall_mem_singleton.mpr (fits_hex hhEntity)⟩
      exact digestOf_intersperse hfits objMd5Ctx
    · rw [List.append_nil, List.append_nil]
      exact digestOf_intersperse (fits_map hRequest) objMd5Ctx
  have hhex (message : Octets) : (convertBinToHex (md5.digest message)).length = 33 := by
    rw [length_convertBinToHex, md5.length_digest]
    rfl
  unfold calculateResponse
  rw [hA2, Option.bind_some]
  generalize colons ([strMethod, strDigestUri].map octetsOf ++ _) = A2
  have hfits : ∀ chunk ∈ [⟨hA1, 32⟩] ++ present strNonce ++
      (if strQop.length > 0 then [strNonceCount, strCNonce, strQop].map chunkOf else []) ++
        [⟨convertBinToHex (md5.digest A2), 32⟩], chunk.Fits := by
    refine List.forall_mem_append.mpr ⟨List.forall_mem_append.mpr
      ⟨List.forall_mem_append.mpr ⟨List.forall_mem_singleton.mpr (fits_hex hhA1),
        fits_present hNonce⟩, ?_⟩, List.forall_mem_singleton.mpr (fits_hex ?_)⟩
    · split
      · exact fits_map h
      · exact fun _ hmem => absurd hmem List.not_mem_nil
    · exact hhex A2
  have hfields := digestOf_intersperse hfits (zeroed md5)
  have hqop : (if strQop.length > 0 then [strNonceCount, strCNonce, strQop].map chunkOf
      else []).map Chunk.octets =
        if strQop.length > 0 then [strNonceCount, strCNonce, strQop].map octetsOf else [] := by
    rw [← map_octets h]
    split <;> rfl
  simp only [List.map_append, hqop] at hfields
  refine Eq.trans (congrArg (Option.map _) (Eq.trans ?_ hfields)) rfl
  unfold present
  split <;> split <;> rfl

theorem calculateResponse_eq_auth :
    calculateResponse (List.replicate 33 0) "n".toList "00000001".toList "c".toList "auth".toList
        "GET".toList "/".toList (List.replicate 33 0) (zeroed md5) =
      some (convertBinToHex (md5.digest (colons ([(List.replicate 33 0).take 32] ++
        (present "n".toList).map Chunk.octets ++
        (if "auth".toList.length > 0 then
          ["00000001".toList, "c".toList, "auth".toList].map octetsOf else []) ++
        [(convertBinToHex (md5.digest (colons (["GET".toList, "/".toList].map octetsOf ++
          if AString.equalsIgnoreCaseLiteral "auth".toList "auth-int" then
            [(List.replicate 33 0).take 32] else [])))).take 32])))) :=
  calculateResponse_eq (by decide) (by decide) (by decide) rfl rfl (zeroed md5)

end ImsStack.Platform.Digests
