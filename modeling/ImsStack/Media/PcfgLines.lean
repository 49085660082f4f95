import ImsStack.Library.FirstAccepted
import ImsStack.Media.CapaNego
import Mathlib.Tactic.Tauto

/-!
What a potential configuration has to be so that it can be accepted, and what the code reads of
it.
-/

namespace ImsStack.Platform.ImsMap

variable {κ ν : Type} [DecidableEq κ] [LT κ] [DecidableLT κ]

theorem mem_add_of_agrees {map : ImsMap κ ν} {f : κ → Option ν}
    (h : ∀ pair ∈ map, f pair.1 = some pair.2) {k : κ} {v : ν} (hk : f k = some v)
    (pair : κ × ν) : pair ∈ map.add k v ↔ pair = (k, v) ∨ pair ∈ map := by
  unfold add
  cases hindex : map.getIndexOfKey k with
  | none => exact List.mem_insertIdx List.findIdx_le_length
  | some index =>
      obtain ⟨hlt, hkey, -⟩ := List.findIdx?_eq_some_iff_getElem.mp hindex
      have hmem : map[index] ∈ map := List.getElem_mem hlt
      have hfirst : map[index].1 = k := of_decide_eq_true hkey
      have hpair : map[index] = (k, v) := by
        have hvalue := h map[index] hmem
        rw [hfirst, hk] at hvalue
        exact Prod.ext hfirst (Option.some.inj hvalue).symm
      rw [hpair] at hmem
      change pair ∈ List.set map index (k, v) ↔ _
      rw [← hpair, List.set_getElem_self hlt, hpair]
      constructor
      · exact Or.inr
      · rintro (rfl | hin)
        · exact hmem
        · exact hin

end ImsStack.Platform.ImsMap

namespace ImsStack.Media.VideoProfileNegotiator

open ImsStack.Platform Library.FirstAccepted

/-- The number of the transport capability that a line names. -/
def transportOf (line : NullString) : Option Int :=
  (((line.split ' ')[1]?).bind (valueOf 't')).map NullString.toInt32

/-- The numbers in a field of attribute capabilities, at least one. -/
def attributeNumbers (field : NullString) : Option (List Int) :=
  match valueOf 'a' field with
  | none => none
  | some value =>
    let numbers := (value.split ',').map NullString.toInt32
    if numbers.length = 0 then none else some numbers

/-- The numbers of the attribute capabilities that a line names; a line without a third field
names none. -/
def referencesOf (line : NullString) : Option (List Int) :=
  match (line.split ' ')[2]? with
  | none => some []
  | some field => attributeNumbers field

/-- Two crypto attributes with the same suite. -/
def SameSuite (dest src : NullString) : Prop :=
  ∃ d s, cryptoSuite dest = some d ∧ cryptoSuite src = some s ∧ d.equals s = true

section sides

variable (pLocalCapaNego pPeerCapaNego : CapaNego)

/-- An attribute capability of the peer is supported: a known kind of feedback, or a crypto
attribute with the suite of one that the local side has. -/
def Supported (v : NullString) : Prop :=
  if v.contains "trr-int" || v.contains "nack" then True
  else if v.contains "ccm" then v.contains "fir" = true ∨ v.contains "tmmbr" = true
  else v.contains "crypto" = true ∧ ∃ pair ∈ pLocalCapaNego.mapAcap, SameSuite v pair.2

/-- The transport capability of the line is one of the local side, and the attribute capabilities
that it names exist and are supported. -/
def Qualifies (line : NullString) : Prop :=
  ∃ n v numbers, transportOf line = some n ∧ pPeerCapaNego.mapTcap.getValue n = some v ∧
    hasTransport pLocalCapaNego v = true ∧ referencesOf line = some numbers ∧
    ∀ k ∈ numbers, ∃ w, pPeerCapaNego.mapAcap.getValue k = some w ∧ Supported pLocalCapaNego w

/-- The maps have just what the line names. -/
def Negotiates (line : NullString) (nego : CapaNego) : Prop :=
  ∃ n v numbers, transportOf line = some n ∧ pPeerCapaNego.mapTcap.getValue n = some v ∧
    nego.mapTcap = [(n, v)] ∧ referencesOf line = some numbers ∧
    ∀ pair, pair ∈ nego.mapAcap ↔
      pair.1 ∈ numbers ∧ pPeerCapaNego.mapAcap.getValue pair.1 = some pair.2

/-- What the code finds of a reference; there is nothing where it reads outside. -/
def verdict (k : Int) : Option AttributeVerdict :=
  (pPeerCapaNego.mapAcap.getValue k).bind (judge pLocalCapaNego)

/-- The references that the loop looks at. -/
def examined : List Int → List Int
  | [] => []
  | k :: numbers =>
    k :: if verdict pLocalCapaNego pPeerCapaNego k = some .countedLast then [] else examined numbers

/-- Every reference is counted: only the last one may be a crypto attribute. -/
def CountsAll : List Int → Prop
  | [] => True
  | k :: numbers =>
    (verdict pLocalCapaNego pPeerCapaNego k = some .counted ∧ CountsAll numbers) ∨
      (verdict pLocalCapaNego pPeerCapaNego k = some .countedLast ∧ numbers = [])

/-- The transport capability of the line exists and is not one of the local side. -/
def TransportRefused (line : NullString) : Prop :=
  ∃ n v, transportOf line = some n ∧ pPeerCapaNego.mapTcap.getValue n = some v ∧
    hasTransport pLocalCapaNego v = false

/-- The lines at which the code does what it should. -/
structure IsReadRight (line : NullString) : Prop where
  /-- The transport capability that is named exists. -/
  transport : ∀ n, transportOf line = some n → ∃ v, pPeerCapaNego.mapTcap.getValue n = some v
  /-- Where references are looked at, they exist and crypto attributes can be compared. -/
  readable : ¬TransportRefused pLocalCapaNego pPeerCapaNego line →
    ∀ numbers, referencesOf line = some numbers →
      ∀ k ∈ examined pLocalCapaNego pPeerCapaNego numbers,
        verdict pLocalCapaNego pPeerCapaNego k ≠ none
  /-- A crypto attribute has the suite of the first local capability, and no reference is behind
  it. -/
  counted : Qualifies pLocalCapaNego pPeerCapaNego line →
    ∀ numbers, referencesOf line = some numbers → CountsAll pLocalCapaNego pPeerCapaNego numbers
  /-- Where no transport capability is named, the references do not count. -/
  uncounted : transportOf line = none → ∀ k numbers, referencesOf line = some (k :: numbers) →
    ¬CountsAll pLocalCapaNego pPeerCapaNego (k :: numbers)

end sides

section scan

variable {pLocalCapaNego pPeerCapaNego : CapaNego}

theorem exists_of_verdict {k : Int} {a : AttributeVerdict}
    (h : verdict pLocalCapaNego pPeerCapaNego k = some a) :
    ∃ w, pPeerCapaNego.mapAcap.getValue k = some w ∧ judge pLocalCapaNego w = some a :=
  Option.bind_eq_some_iff.mp h

theorem countAttributes_undefined {cnt k mapAcap} (numbers : List Int)
    (h : verdict pLocalCapaNego pPeerCapaNego k = none) :
    countAttributes pLocalCapaNego pPeerCapaNego cnt mapAcap (k :: numbers) = none := by
  unfold countAttributes
  unfold verdict at h
  cases hget : pPeerCapaNego.mapAcap.getValue k with
  | none => rfl
  | some w =>
      rw [hget, Option.bind_some] at h
      simp only [Option.bind_eq_bind, Option.bind_some]
      rw [h]
      rfl

theorem countAttributes_counted {k : Int} (cnt : Nat) (mapAcap : ImsMap Int NullString)
    (numbers : List Int)
    (h : verdict pLocalCapaNego pPeerCapaNego k = some .counted) :
    ∃ w, pPeerCapaNego.mapAcap.getValue k = some w ∧
      countAttributes pLocalCapaNego pPeerCapaNego cnt mapAcap (k :: numbers) =
        countAttributes pLocalCapaNego pPeerCapaNego (cnt + 1) (mapAcap.add k w) numbers := by
  obtain ⟨w, hget, hjudge⟩ := exists_of_verdict h
  refine ⟨w, hget, ?_⟩
  conv =>
    lhs
    unfold countAttributes
  rw [hget]
  simp only [Option.bind_eq_bind, Option.bind_some]
  rw [hjudge]
  rfl

theorem countAttributes_countedLast {k : Int} (cnt : Nat) (mapAcap : ImsMap Int NullString)
    (numbers : List Int)
    (h : verdict pLocalCapaNego pPeerCapaNego k = some .countedLast) :
    ∃ w, pPeerCapaNego.mapAcap.getValue k = some w ∧
      countAttributes pLocalCapaNego pPeerCapaNego cnt mapAcap (k :: numbers) =
        some (cnt + 1, mapAcap.add k w) := by
  obtain ⟨w, hget, hjudge⟩ := exists_of_verdict h
  refine ⟨w, hget, ?_⟩
  unfold countAttributes
  rw [hget]
  simp only [Option.bind_eq_bind, Option.bind_some]
  rw [hjudge]
  rfl

theorem countAttributes_passed {cnt k mapAcap} (numbers : List Int)
    (h : verdict pLocalCapaNego pPeerCapaNego k = some .passed) :
    countAttributes pLocalCapaNego pPeerCapaNego cnt mapAcap (k :: numbers) =
      countAttributes pLocalCapaNego pPeerCapaNego cnt mapAcap numbers := by
  obtain ⟨w, hget, hjudge⟩ := exists_of_verdict h
  conv =>
    lhs
    unfold countAttributes
  rw [hget]
  simp only [Option.bind_eq_bind, Option.bind_some]
  rw [hjudge]
  rfl

theorem forall_examined_cons {k : Int} {numbers : List Int} {a : AttributeVerdict}
    (h : verdict pLocalCapaNego pPeerCapaNego k = some a) (hlast : a ≠ .countedLast) :
    (∀ n ∈ examined pLocalCapaNego pPeerCapaNego (k :: numbers),
        verdict pLocalCapaNego pPeerCapaNego n ≠ none) ↔
      ∀ n ∈ examined pLocalCapaNego pPeerCapaNego numbers,
        verdict pLocalCapaNego pPeerCapaNego n ≠ none := by
  have hne : verdict pLocalCapaNego pPeerCapaNego k ≠ some .countedLast := by
    rw [h]
    exact fun heq => hlast (Option.some.inj heq)
  conv =>
    lhs
    unfold examined
  rw [if_neg hne, List.forall_mem_cons, h]
  exact and_iff_right (Option.some_ne_none a)

theorem countAttributes_ne_none_iff (cnt : Nat) (mapAcap : ImsMap Int NullString)
    (numbers : List Int) :
    countAttributes pLocalCapaNego pPeerCapaNego cnt mapAcap numbers ≠ none ↔
      ∀ k ∈ examined pLocalCapaNego pPeerCapaNego numbers,
        verdict pLocalCapaNego pPeerCapaNego k ≠ none := by
  induction numbers generalizing cnt mapAcap with
  | nil =>
      refine iff_of_true (Option.some_ne_none _) ?_
      intro k hk
      cases hk
  | cons k numbers ih =>
      rcases hverdict : verdict pLocalCapaNego pPeerCapaNego k with _ | _ | _ | _
      · rw [countAttributes_undefined numbers hverdict]
        refine iff_of_false (fun h => h rfl) ?_
        intro h
        exact h k List.mem_cons_self hverdict
      · obtain ⟨w, -, heq⟩ :=
          countAttributes_counted cnt mapAcap numbers hverdict
        rw [heq, ih, forall_examined_cons hverdict (by decide)]
      · obtain ⟨w, -, heq⟩ :=
          countAttributes_countedLast cnt mapAcap numbers hverdict
        rw [heq]
        refine iff_of_true (Option.some_ne_none _) ?_
        unfold examined
        rw [if_pos hverdict, List.forall_mem_singleton, hverdict]
        exact Option.some_ne_none _
      · rw [countAttributes_passed numbers hverdict, ih,
          forall_examined_cons hverdict (by decide)]

theorem countAttributes_le {cnt cnt' mapAcap mapAcap' numbers}
    (h : countAttributes pLocalCapaNego pPeerCapaNego cnt mapAcap numbers = some (cnt', mapAcap')) :
    cnt' ≤ cnt + numbers.length := by
  induction numbers generalizing cnt mapAcap with
  | nil =>
      obtain ⟨rfl, -⟩ := Prod.mk.inj (Option.some.inj h)
      exact Nat.le_refl _
  | cons k numbers ih =>
      rw [List.length_cons]
      rcases hverdict : verdict pLocalCapaNego pPeerCapaNego k with _ | _ | _ | _
      · rw [countAttributes_undefined numbers hverdict] at h
        cases h
      · obtain ⟨w, -, heq⟩ :=
          countAttributes_counted cnt mapAcap numbers hverdict
        rw [heq] at h
        have := ih h
        omega
      · obtain ⟨w, -, heq⟩ :=
          countAttributes_countedLast cnt mapAcap numbers hverdict
        rw [heq] at h
        obtain ⟨rfl, -⟩ := Prod.mk.inj (Option.some.inj h)
        omega
      · rw [countAttributes_passed numbers hverdict] at h
        have := ih h
        omega

theorem countsAll_cons_counted {k : Int} {numbers : List Int}
    (h : verdict pLocalCapaNego pPeerCapaNego k = some .counted) :
    CountsAll pLocalCapaNego pPeerCapaNego (k :: numbers) ↔
      CountsAll pLocalCapaNego pPeerCapaNego numbers := by
  conv =>
    lhs
    unfold CountsAll
  rw [h]
  simp

theorem countsAll_cons_countedLast {k : Int} {numbers : List Int}
    (h : verdict pLocalCapaNego pPeerCapaNego k = some .countedLast) :
    CountsAll pLocalCapaNego pPeerCapaNego (k :: numbers) ↔ numbers = [] := by
  unfold CountsAll
  rw [h]
  simp

theorem not_countsAll_cons_passed {k : Int} {numbers : List Int}
    (h : verdict pLocalCapaNego pPeerCapaNego k = some .passed) :
    ¬CountsAll pLocalCapaNego pPeerCapaNego (k :: numbers) := by
  unfold CountsAll
  rw [h]
  simp

theorem countAttributes_eq_length_iff {cnt cnt' mapAcap mapAcap' numbers}
    (h : countAttributes pLocalCapaNego pPeerCapaNego cnt mapAcap numbers = some (cnt', mapAcap')) :
    cnt' = cnt + numbers.length ↔ CountsAll pLocalCapaNego pPeerCapaNego numbers := by
  induction numbers generalizing cnt mapAcap with
  | nil =>
      obtain ⟨rfl, -⟩ := Prod.mk.inj (Option.some.inj h)
      exact iff_of_true rfl trivial
  | cons k numbers ih =>
      rw [List.length_cons]
      rcases hverdict : verdict pLocalCapaNego pPeerCapaNego k with _ | _ | _ | _
      · rw [countAttributes_undefined numbers hverdict] at h
        cases h
      · obtain ⟨w, -, heq⟩ :=
          countAttributes_counted cnt mapAcap numbers hverdict
        rw [heq] at h
        rw [countsAll_cons_counted hverdict, ← ih h]
        constructor <;> intro hcnt <;> omega
      · obtain ⟨w, -, heq⟩ :=
          countAttributes_countedLast cnt mapAcap numbers hverdict
        rw [heq] at h
        obtain ⟨rfl, -⟩ := Prod.mk.inj (Option.some.inj h)
        rw [countsAll_cons_countedLast hverdict, ← List.length_eq_zero_iff]
        constructor <;> intro hcnt <;> omega
      · rw [countAttributes_passed numbers hverdict] at h
        refine iff_of_false ?_ (not_countsAll_cons_passed hverdict)
        have := countAttributes_le h
        omega

theorem mem_countAttributes {cnt cnt' mapAcap mapAcap' numbers}
    (h : countAttributes pLocalCapaNego pPeerCapaNego cnt mapAcap numbers = some (cnt', mapAcap'))
    (hall : CountsAll pLocalCapaNego pPeerCapaNego numbers)
    (hmap : ∀ pair ∈ mapAcap, pPeerCapaNego.mapAcap.getValue pair.1 = some pair.2)
    (pair : Int × NullString) :
    pair ∈ mapAcap' ↔ pair ∈ mapAcap ∨
      (pair.1 ∈ numbers ∧ pPeerCapaNego.mapAcap.getValue pair.1 = some pair.2) := by
  have hentry : ∀ {k w}, pPeerCapaNego.mapAcap.getValue k = some w →
      (pair = (k, w) ↔ pair.1 = k ∧ pPeerCapaNego.mapAcap.getValue pair.1 = some pair.2) := by
    intro k w hget
    constructor
    · rintro rfl
      exact ⟨rfl, hget⟩
    · rintro ⟨rfl, hvalue⟩
      rw [hget] at hvalue
      exact Prod.ext rfl (Option.some.inj hvalue).symm
  induction numbers generalizing cnt mapAcap with
  | nil =>
      obtain ⟨-, rfl⟩ := Prod.mk.inj (Option.some.inj h)
      simp
  | cons k numbers ih =>
      rcases hverdict : verdict pLocalCapaNego pPeerCapaNego k with _ | _ | _ | _
      · rw [countAttributes_undefined numbers hverdict] at h
        cases h
      · obtain ⟨w, hget, heq⟩ :=
          countAttributes_counted cnt mapAcap numbers hverdict
        have hadd := ImsMap.mem_add_of_agrees hmap hget
        have hmap' : ∀ pair ∈ mapAcap.add k w,
            pPeerCapaNego.mapAcap.getValue pair.1 = some pair.2 := by
          intro pair hpair
          rcases (hadd pair).mp hpair with rfl | hin
          · exact hget
          · exact hmap pair hin
        rw [heq] at h
        refine (ih h ((countsAll_cons_counted hverdict).mp hall) hmap').trans ?_
        rw [hadd, hentry hget, List.mem_cons]
        tauto
      · obtain ⟨w, hget, heq⟩ :=
          countAttributes_countedLast cnt mapAcap numbers hverdict
        obtain rfl := (countsAll_cons_countedLast hverdict).mp hall
        rw [heq] at h
        obtain ⟨-, rfl⟩ := Prod.mk.inj (Option.some.inj h)
        rw [ImsMap.mem_add_of_agrees hmap hget, hentry hget, List.mem_singleton]
        exact or_comm
      · exact absurd hall (not_countsAll_cons_passed hverdict)

end scan

section line

variable (pLocalCapaNego pPeerCapaNego : CapaNego)

/-- Field 1, by the number that it has. -/
def readNumber (s : PcfgState) : Option Int → Option (Bool × PcfgState)
  | none => some (true, s)
  | some n => (pPeerCapaNego.mapTcap.getValue n).map fun v =>
    if hasTransport pLocalCapaNego v then
      (true,
        { bPCFGSupportable := true
          nego := { s.nego with mapTcap := s.nego.mapTcap.add n v } })
    else (false, s)

/-- What the count of the references makes of the state. -/
def PcfgState.withCount (s : PcfgState) (size : Nat) (counted : Nat × ImsMap Int NullString) :
    PcfgState :=
  { bPCFGSupportable := counted.1 == size, nego := { s.nego with mapAcap := counted.2 } }

/-- Field 2, by the numbers that it has. -/
def readReferences (s : PcfgState) : Option (List Int) → Option PcfgState
  | none => some { s with bPCFGSupportable := false }
  | some [] => some s
  | some (k :: numbers) =>
    (countAttributes pLocalCapaNego pPeerCapaNego 0 s.nego.mapAcap (k :: numbers)).map
      (s.withCount (k :: numbers).length)

theorem readTransport_eq (s : PcfgState) (field : NullString) :
    readTransport pLocalCapaNego pPeerCapaNego s field =
      readNumber pLocalCapaNego pPeerCapaNego s
        ((valueOf 't' field).map NullString.toInt32) := by
  unfold readTransport
  cases valueOf 't' field with
  | none => rfl
  | some value =>
      rw [Option.map_some]
      unfold readNumber
      cases hget : pPeerCapaNego.mapTcap.getValue value.toInt32 with
      | none => simp [hget]
      | some v =>
          simp only [hget, Option.bind_eq_bind, Option.bind_some, Option.map_some]
          cases hasTransport pLocalCapaNego v with
          | false => rfl
          | true => rfl

theorem readAttributes_eq (s : PcfgState) (field : NullString) :
    readAttributes pLocalCapaNego pPeerCapaNego s field =
      readReferences pLocalCapaNego pPeerCapaNego s (attributeNumbers field) := by
  unfold readAttributes attributeNumbers
  cases valueOf 'a' field with
  | none => rfl
  | some value =>
      cases hnumbers : (value.split ',').map NullString.toInt32 with
      | nil => simp [hnumbers, readReferences]
      | cons k numbers =>
          simp only [hnumbers, List.length_cons, Nat.add_eq_zero_iff, Nat.one_ne_zero, and_false,
            if_false]
          cases hcount : countAttributes pLocalCapaNego pPeerCapaNego 0 s.nego.mapAcap
              (k :: numbers) with
          | none => simp [readReferences, hcount]
          | some counted => simp [readReferences, hcount, PcfgState.withCount]

theorem readPcfg_eq (s : PcfgState) (line : NullString) :
    readPcfg pLocalCapaNego pPeerCapaNego s line =
      (readNumber pLocalCapaNego pPeerCapaNego s (transportOf line)).bind fun r =>
        if r.1 then readReferences pLocalCapaNego pPeerCapaNego r.2 (referencesOf line)
        else some r.2 := by
  unfold readPcfg transportOf referencesOf
  rcases hfields : line.split ' ' with _ | ⟨first, _ | ⟨transport, _ | ⟨attributes, fields⟩⟩⟩
  · rfl
  · rfl
  · simp only [List.getElem?_cons_succ, List.getElem?_cons_zero, List.getElem?_nil,
      Option.bind_some]
    rw [readTransport_eq]
    rcases readNumber pLocalCapaNego pPeerCapaNego s _ with _ | ⟨_ | _, s'⟩
    · rfl
    · rfl
    · rfl
  · simp only [List.getElem?_cons_succ, List.getElem?_cons_zero, Option.bind_some]
    rw [readTransport_eq]
    rcases readNumber pLocalCapaNego pPeerCapaNego s _ with _ | ⟨_ | _, s'⟩
    · rfl
    · rfl
    · exact readAttributes_eq pLocalCapaNego pPeerCapaNego s' attributes

end line

end ImsStack.Media.VideoProfileNegotiator
