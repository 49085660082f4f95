import ImsStack.Sms.SmsTPdu

/-!
The parser of the transfer layer never fails, and what it extracts are consecutive slices of the PDU.
-/

namespace ImsStack.Sms

open Library.Slicing Platform.AString Platform.Bytes

/-- The fields of a TPDU, and what the parser passes over after an error. -/
inductive Field where
  | firstOctet | failureCause | parameterIndicator | indicatorExtension | messageReference
  | originatingAddress | destinationAddress | protocolIdentifier | dataCodingScheme | serviceCentreTimeStamp
  | dischargeTime | status | validityPeriod | userDataLength | userDataHeader | userData | skipped
  deriving DecidableEq, Repr

abbrev Slices := List (Slice Field UInt8)

/-- The fields that have been read are some of the given ones, in their order. -/
def Ordered (s : Slices) (fields : List Field) : Prop :=
  List.Sublist ((labels s).filter (· ≠ .skipped)) fields

theorem Ordered.nil (fields : List Field) : Ordered [] fields := List.nil_sublist _

theorem Ordered.singleton (field : Field) (content : Octets) :
    Ordered [⟨field, content⟩] [field] :=
  List.filter_sublist

theorem Ordered.skipped (content : Octets) (fields : List Field) :
    Ordered [⟨.skipped, content⟩] fields :=
  List.nil_sublist _

theorem Ordered.append {s s' : Slices} {fields fields' : List Field} (h : Ordered s fields)
    (h' : Ordered s' fields') : Ordered (s ++ s') (fields ++ fields') := by
  unfold Ordered
  rw [labels_append, List.filter_append]
  exact List.Sublist.append h h'

/-- The length octet counts digits, and the type octet and two digits an octet follow. -/
def IsAddress (address : Octets) : Prop :=
  ∃ digits, address.head? = some digits ∧ address.length = 2 + (digits.toNat + 1) / 2

/-- The length octet counts the octets that follow. -/
def IsHeader (header : Octets) : Prop :=
  ∃ length, header.head? = some length ∧ header.length = length.toNat + 1

/-! ### The information elements of a header -/

structure Element where
  iei : UInt8
  ieil : UInt8
  data : Octets
  length_data : data.length = ieil.toNat

def Element.octets (e : Element) : Octets := e.iei :: e.ieil :: e.data

/-- What an element says of the parts of a concatenated message. -/
def UdhFields.record (udh : UdhFields) (e : Element) : UdhFields :=
  if e.iei = 0x00 then
    match e.data with
    | [reference, maxNum, seqNum] =>
      { mUdhIei := 0, mUdhReference := reference.toNat, mUdhMaxNum := maxNum.toNat,
        mUdhSeqNum := seqNum.toNat }
    | _ => udh
  else if e.iei = 0x08 then
    match e.data with
    | [high, low, maxNum, seqNum] =>
      { mUdhIei := 8, mUdhReference := ((high.toNat <<< 8) ||| low.toNat : Nat),
        mUdhMaxNum := maxNum.toNat, mUdhSeqNum := seqNum.toNat }
    | _ => udh
  else udh

/-- No element is left, or the next one is longer than what is left. -/
def Overruns (remainder : Octets) : Prop :=
  remainder.length < 2 ∨
    ∃ iei ieil rest, remainder = iei :: ieil :: rest ∧ rest.length < ieil.toNat

/-- The fields come from the elements of the header, up to one that overruns it. -/
def Visited (header : Octets) (udh : UdhFields) : Prop :=
  ∃ (es : List Element) (remainder : Octets), header.tail = es.flatMap Element.octets ++ remainder ∧
    Overruns remainder ∧ udh = es.foldl UdhFields.record .initial

namespace PduParser

theorem getElem?_of_drop {l rest data : Octets} {cursor : Nat} (h : l.drop cursor = data ++ rest)
    {i : Nat} (hi : i < data.length) : l[cursor + i]? = data[i]? := by
  rw [← List.getElem?_drop, h, List.getElem?_append_left hi]

theorem decodeElement_eq {fullHeader rest : Octets} {cursor : Nat} (e : Element) (udh : UdhFields)
    (h : fullHeader.drop cursor = e.data ++ rest) :
    decodeElement fullHeader cursor e.iei e.ieil udh = some (udh.record e) := by
  have hlength := e.length_data
  have hget : ∀ i < e.data.length, fullHeader[cursor + i]? = e.data[i]? :=
    fun i hi => getElem?_of_drop h hi
  unfold decodeElement UdhFields.record
  split
  · next hshort =>
    rw [hshort.2] at hlength
    obtain ⟨reference, maxNum, seqNum, hdata⟩ := List.length_eq_three.mp hlength
    rw [hdata] at hget
    have h0 := hget 0 (by simp)
    have h1 := hget 1 (by simp)
    have h2 := hget 2 (by simp)
    simp only [Nat.add_zero] at h0
    rw [h0, h1, h2, if_pos hshort.1, hdata, hshort.1]
    rfl
  · next hshort =>
    split
    · next hlong =>
      rw [hlong.2] at hlength
      obtain ⟨high, low, maxNum, seqNum, hdata⟩ : ∃ a b c d, e.data = [a, b, c, d] := by
        rcases hd : e.data with _ | ⟨a, _ | ⟨b, _ | ⟨c, _ | ⟨d, _ | ⟨f, rest⟩⟩⟩⟩⟩
        all_goals rw [hd] at hlength
        all_goals simp at hlength
        exact ⟨a, b, c, d, rfl⟩
      rw [hdata] at hget
      have h0 := hget 0 (by simp)
      have h1 := hget 1 (by simp)
      have h2 := hget 2 (by simp)
      have h3 := hget 3 (by simp)
      simp only [Nat.add_zero] at h0
      rw [h0, h1, h2, h3, if_neg (by rw [hlong.1]; decide), if_pos hlong.1, hdata, hlong.1]
      rfl
    · next hlong =>
      split
      · next hiei =>
        split
        · next hdata =>
          rw [hdata] at hlength
          exact absurd ⟨hiei, UInt8.toNat_inj.mp hlength.symm⟩ hshort
        · rfl
      · next hiei =>
        split
        · next hiei' =>
          split
          · next hdata =>
            rw [hdata] at hlength
            exact absurd ⟨hiei', UInt8.toNat_inj.mp hlength.symm⟩ hlong
          · rfl
        · rfl

/-- The loop visits the elements one after the other, up to one that overruns the header. -/
theorem decodeElements_eq (fullHeader : Octets) (cursor : Nat) (udh : UdhFields)
    (hcursor : cursor ≤ fullHeader.length) :
    ∃ (es : List Element) (remainder : Octets),
      fullHeader.drop cursor = es.flatMap Element.octets ++ remainder ∧ Overruns remainder ∧
      decodeElements fullHeader fullHeader.length cursor udh =
        some (es.foldl UdhFields.record udh) := by
  induction hleft : fullHeader.length - cursor using Nat.strongRecOn
    generalizing cursor udh with
  | _ left ih =>
    have hlength : (fullHeader.drop cursor).length = fullHeader.length - cursor := List.length_drop
    have hget : ∀ i, fullHeader[cursor + i]? = (fullHeader.drop cursor)[i]? :=
      fun i => List.getElem?_drop.symm
    rcases hdrop : fullHeader.drop cursor with _ | ⟨iei, _ | ⟨ieil, rest⟩⟩
    · rw [hdrop, List.length_nil] at hlength
      refine ⟨[], [], rfl, Or.inl (by simp), ?_⟩
      rw [decodeElements, dif_neg (by omega)]
      rfl
    · rw [hdrop, List.length_singleton] at hlength
      refine ⟨[], [iei], rfl, Or.inl (by simp), ?_⟩
      rw [decodeElements, dif_pos (by omega), if_pos (by omega)]
      rfl
    · rw [hdrop, List.length_cons, List.length_cons] at hlength
      have hiei : fullHeader[cursor]? = some iei := by
        rw [← Nat.add_zero cursor, hget 0, hdrop]
        rfl
      have hieil : fullHeader[cursor + 1]? = some ieil := by
        rw [hget 1, hdrop]
        rfl
      rcases Nat.lt_or_ge rest.length ieil.toNat with hlong | hfits
      · refine ⟨[], iei :: ieil :: rest, rfl, Or.inr ⟨iei, ieil, rest, rfl, hlong⟩, ?_⟩
        rw [decodeElements, dif_pos (by omega), if_neg (by omega), hiei, hieil]
        simp only [Option.bind_eq_bind, Option.bind_some]
        rw [if_pos (by omega)]
        rfl
      · let e : Element :=
          { iei := iei, ieil := ieil, data := rest.take ieil.toNat,
            length_data := List.length_take_of_le hfits }
        have hrest : fullHeader.drop (cursor + 2) = rest := by
          rw [← List.drop_drop, hdrop]
          rfl
        have helement : fullHeader.drop (cursor + 2) = e.data ++ rest.drop ieil.toNat := by
          rw [hrest]
          exact (List.take_append_drop _ _).symm
        have hnext : fullHeader.drop (cursor + 2 + ieil.toNat) = rest.drop ieil.toNat := by
          rw [← List.drop_drop, hrest]
        obtain ⟨es, remainder, hes, hoverruns, hloop⟩ :=
          ih _ (by omega) (cursor + 2 + ieil.toNat) (udh.record e) (by omega) rfl
        refine ⟨e :: es, remainder, ?_, hoverruns, ?_⟩
        · rw [List.flatMap_cons, List.append_assoc, ← hes, hnext]
          change iei :: ieil :: rest = iei :: ieil :: (rest.take ieil.toNat ++ rest.drop ieil.toNat)
          rw [List.take_append_drop]
        · rw [decodeElements, dif_pos (by omega), if_neg (by omega), hiei, hieil]
          simp only [Option.bind_eq_bind, Option.bind_some]
          rw [if_neg (by omega)]
          have hread := decodeElement_eq e udh helement
          change decodeElement fullHeader (cursor + 2) iei ieil udh = _ at hread
          rw [hread, Option.bind_some, hloop]
          rfl

theorem decodeUdhData_eq {header : Octets} {length : UInt8}
    (hlength : header.length = length.toNat + 1) :
    ∃ udh, decodeUdhData header 1 length.toNat .initial = some udh ∧ Visited header udh := by
  have htail : header.drop 1 = header.tail := List.drop_one
  obtain ⟨es, remainder, hes, hoverruns, hloop⟩ :=
    decodeElements_eq header 1 .initial (by omega)
  unfold decodeUdhData
  rw [show 1 + length.toNat = header.length from by omega, hloop]
  split
  · next hzero =>
    have hempty : header.tail = [] := by
      apply List.eq_nil_of_length_eq_zero
      rw [List.length_tail]
      omega
    exact ⟨.initial, rfl, [], [], hempty, Or.inl (by simp), rfl⟩
  · exact ⟨_, rfl, es, remainder, by rw [← htail, hes], hoverruns, rfl⟩

/-! ### What the parts of the parser read -/

theorem hasMoreData_cuts :
    Cuts hasMoreData fun b (s : Slices) rest => s = [] ∧ (b = true ↔ rest ≠ []) := by
  intro p hp
  refine ⟨_, p, [], rfl, rfl, hp, rfl, rfl, ?_⟩
  rw [decide_eq_true_eq, ne_eq, p.rest_eq_nil_iff]
  omega

theorem hasMoreDataOf_cuts (n : Nat) :
    Cuts (hasMoreDataOf n) fun _ (s : Slices) _ => s = [] :=
  fun p hp => ⟨_, p, [], rfl, rfl, hp, rfl, rfl⟩

theorem advance_cuts (p : PduParser) {n : Nat} (hn : p.position + n ≤ p.input.length)
    (field : Field) :
    (advance p n).input = p.input ∧ (advance p n).Valid ∧
      p.rest = contents [(⟨field, p.rest.take n⟩ : Slice Field UInt8)] ++ (advance p n).rest := by
  refine ⟨rfl, hn, ?_⟩
  rw [contents_singleton]
  exact p.rest_eq_append

theorem toEnd_cuts (p : PduParser) :
    (toEnd p).input = p.input ∧ (toEnd p).Valid ∧ (toEnd p).rest = [] ∧
      p.rest = contents [(⟨.skipped, p.rest⟩ : Slice Field UInt8)] ++ (toEnd p).rest := by
  have hrest : (toEnd p).rest = [] := (toEnd p).rest_eq_nil_iff.mpr (Nat.le_refl _)
  refine ⟨rfl, Nat.le_refl _, hrest, ?_⟩
  rw [contents_singleton, hrest, List.append_nil]

theorem copyOfRange_rest (p : PduParser) {n : Nat} (hn : p.position + n ≤ p.input.length) :
    copyOfRange p.input p.position (p.position + n) = some (p.rest.take n) := by
  have hlength : (p.rest.take n).length = n := by
    rw [List.length_take_of_le]
    rw [p.length_rest]
    omega
  unfold copyOfRange
  rw [if_neg (by omega), Nat.add_sub_cancel_left]
  change some (p.rest.take n ++ List.replicate (n - (p.rest.take n).length) 0) = _
  rw [hlength, Nat.sub_self, List.replicate_zero, List.append_nil]

theorem head?_take_rest (p : PduParser) {n : Nat} (hn : 0 < n) :
    (p.rest.take n).head? = p.input[p.position]? := by
  rw [List.head?_take, if_neg (Nat.ne_of_gt hn)]
  exact List.head?_drop

theorem exists_octet {p : PduParser} (hp : p.position < p.input.length) :
    ∃ octet, p.input[p.position]? = some octet :=
  ⟨_, List.getElem?_eq_getElem hp⟩

theorem getOctet_cuts (field : Field) :
    Cuts getOctet fun _ (s : Slices) _ => Ordered s [field] := by
  intro p hp
  unfold getOctet
  split
  · next hmore =>
    obtain ⟨octet, hoctet⟩ := exists_octet hmore
    obtain ⟨hinput, hvalid, hrest⟩ := advance_cuts p (n := 1) hmore field
    exact ⟨octet.toNat, advance p 1, _, by rw [hoctet]; rfl, hinput, hvalid, hrest,
      Ordered.singleton _ _⟩
  · exact ⟨-1, p, [], rfl, rfl, hp, rfl, Ordered.nil _⟩

theorem getAddress_cuts (field : Field) :
    Cuts getAddress fun a (s : Slices) _ =>
      Ordered s [field] ∧ ∀ address, a = some address → s = [⟨field, address⟩] ∧ IsAddress address := by
  intro p hp
  have hnone : ∃ (a : Option Octets) (p' : PduParser) (s : Slices), some (none, toEnd p) = some (a, p') ∧
      p'.input = p.input ∧ p'.Valid ∧ p.rest = contents s ++ p'.rest ∧ Ordered s [field] ∧
      ∀ address, a = some address → s = [⟨field, address⟩] ∧ IsAddress address := by
    obtain ⟨hinput, hvalid, -, hrest⟩ := toEnd_cuts p
    refine ⟨none, toEnd p, _, rfl, hinput, hvalid, hrest, Ordered.skipped _ _, ?_⟩
    intro address haddress
    cases haddress
  unfold getAddress
  split
  · next hmore =>
    obtain ⟨digits, hdigits⟩ := exists_octet (p := p) (by omega)
    rw [hdigits]
    simp only [Option.bind_eq_bind, Option.bind_some]
    split
    · next hlong =>
      obtain ⟨hinput, hvalid, hrest⟩ := advance_cuts p hlong field
      rw [copyOfRange_rest p hlong]
      refine ⟨_, _, _, rfl, hinput, hvalid, hrest, Ordered.singleton _ _, ?_⟩
      rintro address haddress
      cases haddress
      refine ⟨rfl, digits, ?_, ?_⟩
      · rw [head?_take_rest p (by omega), hdigits]
      · rw [List.length_take_of_le]
        rw [p.length_rest]
        omega
    · exact hnone
  · exact hnone

theorem formatTimeStamp_isSome {ts : Octets} (h : ts.length = timestampsOctets) :
    ∃ text, formatTimeStamp ts = some text := by
  unfold timestampsOctets at h
  rcases ts with _ | ⟨a, _ | ⟨b, _ | ⟨c, _ | ⟨d, _ | ⟨e, _ | ⟨f, _ | ⟨g, _ | ⟨i, rest⟩⟩⟩⟩⟩⟩⟩⟩
  all_goals simp at h
  exact ⟨_, rfl⟩

theorem getTimeStamp_cuts (field : Field) :
    Cuts getTimeStamp fun a (s : Slices) _ =>
      Ordered s [field] ∧ ∀ text, a = some text →
        ∃ ts, s = [⟨field, ts⟩] ∧ ts.length = timestampsOctets ∧ formatTimeStamp ts = some text := by
  intro p hp
  unfold getTimeStamp
  split
  · next hlong =>
    have hlength : (p.rest.take timestampsOctets).length = timestampsOctets := by
      rw [List.length_take_of_le]
      rw [p.length_rest]
      omega
    obtain ⟨text, htext⟩ := formatTimeStamp_isSome hlength
    obtain ⟨hinput, hvalid, hrest⟩ := advance_cuts p hlong field
    rw [copyOfRange_rest p hlong]
    simp only [Option.bind_eq_bind, Option.bind_some]
    rw [htext]
    refine ⟨_, _, _, rfl, hinput, hvalid, hrest, Ordered.singleton _ _, ?_⟩
    rintro text' htext'
    cases htext'
    exact ⟨_, rfl, hlength, htext⟩
  · obtain ⟨hinput, hvalid, -, hrest⟩ := toEnd_cuts p
    refine ⟨none, toEnd p, _, rfl, hinput, hvalid, hrest, Ordered.skipped _ _, ?_⟩
    intro text htext
    cases htext

theorem parseValidityPeriod_cuts (format : Int) :
    Cuts (parseValidityPeriod format) fun _ (s : Slices) _ => Ordered s [.validityPeriod] := by
  intro p hp
  unfold parseValidityPeriod
  split
  · next hlong =>
    obtain ⟨hinput, hvalid, hrest⟩ := advance_cuts p hlong .validityPeriod
    exact ⟨_, _, _, rfl, hinput, hvalid, hrest, Ordered.singleton _ _⟩
  · split
    · obtain ⟨hinput, hvalid, -, hrest⟩ := toEnd_cuts p
      exact ⟨_, _, _, rfl, hinput, hvalid, hrest, Ordered.skipped _ _⟩
    · exact ⟨_, p, [], rfl, rfl, hp, rfl, Ordered.nil _⟩

theorem parseUserDataHeader_cuts :
    Cuts (parseUserDataHeader .initial) fun r (s : Slices) _ =>
      Ordered s [.userDataHeader] ∧ (r.1 = none → r.2 = .initial) ∧
        ∀ header, r.1 = some header →
          s = [⟨.userDataHeader, header⟩] ∧ IsHeader header ∧ Visited header r.2 := by
  intro p hp
  have hnone : ∀ p' : PduParser, ∀ s : Slices, p'.input = p.input → p'.Valid →
      p.rest = contents s ++ p'.rest → Ordered s [.userDataHeader] →
      ∃ (r : Option Octets × UdhFields) (p'' : PduParser) (s' : Slices),
        some ((none, UdhFields.initial), p') = some (r, p'') ∧ p''.input = p.input ∧ p''.Valid ∧
        p.rest = contents s' ++ p''.rest ∧ Ordered s' [.userDataHeader] ∧
        (r.1 = none → r.2 = .initial) ∧
        ∀ header, r.1 = some header →
          s' = [⟨.userDataHeader, header⟩] ∧ IsHeader header ∧ Visited header r.2 := by
    intro p' s hinput hvalid hrest hordered
    refine ⟨_, p', s, rfl, hinput, hvalid, hrest, hordered, fun _ => rfl, ?_⟩
    intro header hheader
    cases hheader
  unfold parseUserDataHeader
  split
  · next hmore =>
    obtain ⟨length, hlength⟩ := exists_octet hmore
    rw [hlength]
    simp only [Option.bind_eq_bind, Option.bind_some]
    split
    · next hlong =>
      have htotal : (p.rest.take (length.toNat + 1)).length = length.toNat + 1 := by
        rw [List.length_take_of_le]
        rw [p.length_rest]
        omega
      obtain ⟨udh, hudh, hvisited⟩ := decodeUdhData_eq htotal
      obtain ⟨hinput, hvalid, hrest⟩ := advance_cuts p hlong .userDataHeader
      rw [copyOfRange_rest p hlong]
      simp only [Option.bind_some]
      rw [hudh]
      refine ⟨_, _, _, rfl, hinput, hvalid, hrest, Ordered.singleton _ _, ?_, ?_⟩
      · intro h
        cases h
      · rintro header hheader
        cases hheader
        exact ⟨rfl, ⟨length, by rw [head?_take_rest p (by omega), hlength], htotal⟩, hvisited⟩
    · obtain ⟨hinput, hvalid, -, hrest⟩ := toEnd_cuts p
      exact hnone (toEnd p) _ hinput hvalid hrest (Ordered.skipped _ _)
  · exact hnone p [] rfl hp rfl (Ordered.nil _)

theorem parseUserData_cuts :
    Cuts parseUserData fun u (s : Slices) rest =>
      Ordered s [.userData] ∧ rest = [] ∧
        ∀ userData, u = some userData → s = [⟨.userData, userData⟩] := by
  intro p hp
  unfold parseUserData
  split
  · next hmore =>
    have hlength : p.position + (p.input.length - p.position) = p.input.length := by omega
    have hall : p.rest.take (p.input.length - p.position) = p.rest := by
      rw [← p.length_rest]
      exact List.take_length
    have hcopy := copyOfRange_rest p (n := p.input.length - p.position) (by omega)
    rw [hlength, hall] at hcopy
    have hrest : (toEnd p).rest = [] := (toEnd_cuts p).2.2.1
    rw [hcopy]
    refine ⟨_, toEnd p, [⟨.userData, p.rest⟩], rfl, rfl, Nat.le_refl _, ?_, Ordered.singleton _ _,
      hrest, ?_⟩
    · rw [contents_singleton, hrest, List.append_nil]
    · rintro userData huserData
      cases huserData
      rfl
  · next hmore =>
    refine ⟨none, p, [], rfl, rfl, hp, rfl, Ordered.nil _, p.rest_eq_nil_iff.mpr (by omega), ?_⟩
    intro userData huserData
    cases huserData

end PduParser

namespace SmsTPdu

open PduParser

theorem skipIndicators_eq (currentPI : Int) (p : PduParser) (hp : p.Valid) :
    ∃ p', skipIndicators currentPI p = some ((), p') ∧ p'.input = p.input ∧ p'.Valid ∧
      p.position ≤ p'.position := by
  induction currentPI, p using skipIndicators.induct with
  | case1 currentPI p hbit hmore ih =>
    obtain ⟨p', hrun, hinput, hvalid, hle⟩ := ih hmore
    refine ⟨p', ?_, hinput, hvalid, Nat.le_trans (Nat.le_succ _) hle⟩
    rw [skipIndicators, if_pos hbit, dif_pos hmore, hrun]
  | case2 currentPI p hbit hmore =>
    refine ⟨p, ?_, rfl, hp, Nat.le_refl _⟩
    rw [skipIndicators, if_pos hbit, dif_neg hmore]
  | case3 currentPI p hbit =>
    refine ⟨p, ?_, rfl, hp, Nat.le_refl _⟩
    rw [skipIndicators, if_neg hbit]

theorem skipIndicators_cuts (currentPI : Int) :
    Cuts (skipIndicators currentPI) fun _ (s : Slices) _ => Ordered s [.indicatorExtension] := by
  intro p hp
  obtain ⟨p', hrun, hinput, hvalid, hle⟩ := skipIndicators_eq currentPI p hp
  refine ⟨(), p', [⟨.indicatorExtension, p.rest.take (p'.position - p.position)⟩], hrun, hinput,
    hvalid, ?_, Ordered.singleton _ _⟩
  have hposition : p.position + (p'.position - p.position) = p'.position := by omega
  have hrest := p.rest_eq_append (n := p'.position - p.position)
  rw [contents_singleton]
  unfold Cursor.rest at hrest ⊢
  rw [hinput]
  rw [hposition] at hrest
  exact hrest

theorem parseParameterIndicator_cuts (t : SmsTPdu) :
    Cuts t.parseParameterIndicator fun t' (s : Slices) _ =>
      Ordered s [.parameterIndicator, .indicatorExtension] ∧
        ∃ indicator, t' = { t with mParameterIndicator := indicator } := by
  unfold parseParameterIndicator
  refine hasMoreData_cuts.bind fun more s rest hmore => ?_
  obtain ⟨rfl, -⟩ := hmore
  refine Cuts.ite (fun _ => ?_) fun _ => ?_
  · refine (getOctet_cuts .parameterIndicator).bind fun indicator s rest hindicator => ?_
    refine (skipIndicators_cuts indicator).bind fun _ s' rest' hextension => ?_
    refine Cuts.pure fun _ => ⟨?_, indicator, rfl⟩
    rw [List.nil_append, List.append_nil]
    exact hindicator.append hextension
  · exact Cuts.pure fun _ => ⟨Ordered.nil _, t.mParameterIndicator, rfl⟩

theorem parseFailureCause_cuts (t : SmsTPdu) :
    Cuts t.parseFailureCause fun t' (s : Slices) _ =>
      Ordered s [.failureCause] ∧ ∃ cause, t' = { t with mFailureCause := cause } := by
  unfold parseFailureCause
  refine Cuts.ite (fun _ => ?_) fun _ => ?_
  · refine (getOctet_cuts .failureCause).bind fun cause s rest hcause => ?_
    refine Cuts.pure fun _ => ⟨?_, cause, rfl⟩
    rw [List.append_nil]
    exact hcause
  · exact Cuts.pure fun _ => ⟨Ordered.nil _, t.mFailureCause, rfl⟩

/-- No header and no user data have been read. -/
structure Fresh (t : SmsTPdu) : Prop where
  mUserDataHeader : t.mUserDataHeader = none
  udh : t.udh = .initial
  mUserData : t.mUserData = none

/-- What a part of the parser leaves that reads no address and no time stamp. -/
def Kept (t t' : SmsTPdu) : Prop :=
  t'.mDirection = t.mDirection ∧ t'.mMessageTypeIndicator = t.mMessageTypeIndicator ∧
    t'.mOriginatingAddress = t.mOriginatingAddress ∧
    t'.mDestinationAddress = t.mDestinationAddress ∧
    t'.mServiceCentreTimeStamp = t.mServiceCentreTimeStamp ∧ t'.mDischargeTime = t.mDischargeTime

theorem Kept.refl (t : SmsTPdu) : Kept t t := ⟨rfl, rfl, rfl, rfl, rfl, rfl⟩

/-- The header and the user data of a message, as they have been read. -/
structure UserPart (t : SmsTPdu) (s : Slices) (rest : Octets) : Prop where
  header : ∀ header, t.mUserDataHeader = some header →
    ⟨.userDataHeader, header⟩ ∈ s ∧ IsHeader header ∧ Visited header t.udh
  noHeader : t.mUserDataHeader = none → t.udh = .initial
  userData : ∀ userData, t.mUserData = some userData →
    s.getLast? = some ⟨.userData, userData⟩ ∧ rest = []

theorem UserPart.of_fresh {t : SmsTPdu} (h : Fresh t) (rest : Octets) : UserPart t [] rest where
  header header hheader := by
    rw [h.mUserDataHeader] at hheader
    cases hheader
  noHeader _ := h.udh
  userData userData huserData := by
    rw [h.mUserData] at huserData
    cases huserData

theorem UserPart.prepend {t : SmsTPdu} {s : Slices} {rest : Octets} (h : UserPart t s rest)
    (front : Slices) : UserPart t (front ++ s) rest where
  header header hheader := by
    obtain ⟨hmem, hlength, hvisited⟩ := h.header header hheader
    exact ⟨List.mem_append_right _ hmem, hlength, hvisited⟩
  noHeader := h.noHeader
  userData userData huserData := by
    obtain ⟨hlast, hrest⟩ := h.userData userData huserData
    refine ⟨?_, hrest⟩
    rw [List.getLast?_append, hlast]
    rfl

/-- What the parts at the end of a message read. -/
def ReadsUserPart (t : SmsTPdu) (fields : List Field) (m : Reader UInt8 SmsTPdu) : Prop :=
  Cuts m fun t' (s : Slices) rest => Ordered s fields ∧ Kept t t' ∧ UserPart t' s rest

theorem readsUserPart_pure {t : SmsTPdu} (h : Fresh t) (fields : List Field) :
    ReadsUserPart t fields (pure t) :=
  Cuts.pure fun rest => ⟨Ordered.nil _, Kept.refl t, UserPart.of_fresh h rest⟩

theorem ReadsUserPart.after_octet {t : SmsTPdu} {fields : List Field} {f : Int → Reader UInt8 SmsTPdu}
    (field : Field) (h : ∀ octet, ReadsUserPart t fields (f octet)) :
    ReadsUserPart t (field :: fields) (getOctet >>= f) := by
  refine (getOctet_cuts field).bind fun octet s rest hfield => ?_
  refine (h octet).mono fun t' s' rest' hread => ?_
  obtain ⟨hordered, hkept, huser⟩ := hread
  exact ⟨hfield.append hordered, hkept, huser.prepend s⟩

theorem ReadsUserPart.if_more {t : SmsTPdu} (hfresh : Fresh t) {fields : List Field}
    {m : Reader UInt8 SmsTPdu} (h : ReadsUserPart t fields m) :
    ReadsUserPart t fields (hasMoreData >>= fun more => if more then m else pure t) := by
  refine hasMoreData_cuts.bind fun more s rest hmore => ?_
  obtain ⟨rfl, -⟩ := hmore
  exact Cuts.ite (fun _ => h) fun _ => readsUserPart_pure hfresh fields

theorem ReadsUserPart.weaken {t : SmsTPdu} {fields fields' : List Field} {m : Reader UInt8 SmsTPdu}
    (h : ReadsUserPart t fields m) (hfields : List.Sublist fields fields') :
    ReadsUserPart t fields' m := by
  refine Cuts.mono h fun t' s rest hread => ?_
  obtain ⟨hordered, hkept, huser⟩ := hread
  exact ⟨hordered.trans hfields, hkept, huser⟩

theorem readsUserPart_parseUserDataFields {t : SmsTPdu} (hfresh : Fresh t) :
    ReadsUserPart t [.userDataLength, .userDataHeader, .userData] t.parseUserDataFields := by
  unfold parseUserDataFields
  refine ReadsUserPart.after_octet .userDataLength fun length => ?_
  refine Cuts.ite (fun _ => ?_) fun _ => ?_
  · have hheader := parseUserDataHeader_cuts
    rw [← hfresh.udh] at hheader
    refine hheader.bind fun r s rest hread => ?_
    obtain ⟨hordered, hnone, hsome⟩ := hread
    refine parseUserData_cuts.map fun userData s' rest' hread' => ?_
    obtain ⟨hordered', hrest, hdata⟩ := hread'
    refine ⟨hordered.append hordered', Kept.refl t, ?_, fun h => (hnone h).trans hfresh.udh, ?_⟩
    · intro header hheader
      obtain ⟨hslice, hlength, hvisited⟩ := hsome header hheader
      refine ⟨List.mem_append_left _ ?_, hlength, hvisited⟩
      rw [hslice]
      exact List.mem_singleton_self _
    · intro data hsome'
      rw [hdata data hsome', List.getLast?_concat]
      exact ⟨rfl, hrest⟩
  · refine parseUserData_cuts.map fun userData s' rest' hread' => ?_
    obtain ⟨hordered', hrest, hdata⟩ := hread'
    refine ⟨hordered'.trans (List.sublist_cons_self _ _), Kept.refl t, ?_, fun _ => hfresh.udh, ?_⟩
    · intro header hheader
      cases hfresh.mUserDataHeader.symm.trans hheader
    · intro data hsome'
      rw [hdata data hsome']
      exact ⟨rfl, hrest⟩

theorem readsUserPart_parseOptionalUserData {t : SmsTPdu} (hfresh : Fresh t) :
    ReadsUserPart t [.userDataLength, .userDataHeader, .userData] t.parseOptionalUserData := by
  unfold parseOptionalUserData
  refine Cuts.ite (fun _ => ?_) fun _ => readsUserPart_pure hfresh _
  exact (readsUserPart_parseUserDataFields hfresh).if_more hfresh

theorem readsUserPart_parseOptionalDcs {t : SmsTPdu} (hfresh : Fresh t) :
    ReadsUserPart t [.dataCodingScheme, .userDataLength, .userDataHeader, .userData]
      t.parseOptionalDcs := by
  unfold parseOptionalDcs
  refine Cuts.ite (fun _ => ?_) fun _ => ?_
  · refine ReadsUserPart.if_more hfresh (ReadsUserPart.after_octet .dataCodingScheme fun dcs => ?_)
    exact readsUserPart_parseOptionalUserData
      (t := { t with mDataCodingScheme := dcs }) ⟨hfresh.1, hfresh.2, hfresh.3⟩
  · exact (readsUserPart_parseOptionalUserData hfresh).weaken (List.sublist_cons_self _ _)

theorem readsUserPart_parseOptionalPid {t : SmsTPdu} (hfresh : Fresh t) :
    ReadsUserPart t
      [.protocolIdentifier, .dataCodingScheme, .userDataLength, .userDataHeader, .userData]
      t.parseOptionalPid := by
  unfold parseOptionalPid
  refine Cuts.ite (fun _ => ?_) fun _ => ?_
  · refine ReadsUserPart.if_more hfresh (ReadsUserPart.after_octet .protocolIdentifier fun pid => ?_)
    exact readsUserPart_parseOptionalDcs
      (t := { t with mProtocolIdentifier := pid }) ⟨hfresh.1, hfresh.2, hfresh.3⟩
  · exact (readsUserPart_parseOptionalDcs hfresh).weaken (List.sublist_cons_self _ _)

theorem readsUserPart_parseOptionalParameters {t : SmsTPdu} (hfresh : Fresh t) :
    ReadsUserPart t
      [.protocolIdentifier, .dataCodingScheme, .userDataLength, .userDataHeader, .userData]
      t.parseOptionalParameters := by
  unfold parseOptionalParameters
  refine ReadsUserPart.if_more hfresh ?_
  exact Cuts.ite (fun _ => readsUserPart_pure hfresh _) fun _ => readsUserPart_parseOptionalPid hfresh

/-! ### The messages -/

/-- The addresses and the time stamps of a message are among the slices. -/
structure Headed (t : SmsTPdu) (s : Slices) : Prop where
  originating : ∀ address, t.mOriginatingAddress = some address →
    ⟨.originatingAddress, address⟩ ∈ s ∧ IsAddress address
  destination : ∀ address, t.mDestinationAddress = some address →
    ⟨.destinationAddress, address⟩ ∈ s ∧ IsAddress address
  serviceCentre : ∀ text, t.mServiceCentreTimeStamp = some text →
    ∃ ts, ⟨.serviceCentreTimeStamp, ts⟩ ∈ s ∧ ts.length = timestampsOctets ∧
      formatTimeStamp ts = some text
  discharge : ∀ text, t.mDischargeTime = some text →
    ∃ ts, ⟨.dischargeTime, ts⟩ ∈ s ∧ ts.length = timestampsOctets ∧ formatTimeStamp ts = some text

theorem Headed.mono {t : SmsTPdu} {s s' : Slices} (h : Headed t s) (hs : s ⊆ s') : Headed t s' where
  originating address haddress :=
    ⟨hs (h.originating address haddress).1, (h.originating address haddress).2⟩
  destination address haddress :=
    ⟨hs (h.destination address haddress).1, (h.destination address haddress).2⟩
  serviceCentre text htext := by
    obtain ⟨ts, hmem, hts⟩ := h.serviceCentre text htext
    exact ⟨ts, hs hmem, hts⟩
  discharge text htext := by
    obtain ⟨ts, hmem, hts⟩ := h.discharge text htext
    exact ⟨ts, hs hmem, hts⟩

theorem Headed.of_kept {t t' : SmsTPdu} {s : Slices} (h : Headed t s) (hkept : Kept t t') :
    Headed t' s := by
  obtain ⟨-, -, horiginating, hdestination, hcentre, hdischarge⟩ := hkept
  refine ⟨?_, ?_, ?_, ?_⟩
  · rw [horiginating]
    exact h.originating
  · rw [hdestination]
    exact h.destination
  · rw [hcentre]
    exact h.serviceCentre
  · rw [hdischarge]
    exact h.discharge

/-- Nothing has been extracted. -/
structure Blank (t : SmsTPdu) : Prop extends Fresh t where
  mOriginatingAddress : t.mOriginatingAddress = none
  mDestinationAddress : t.mDestinationAddress = none
  mServiceCentreTimeStamp : t.mServiceCentreTimeStamp = none
  mDischargeTime : t.mDischargeTime = none

theorem Blank.headed {t : SmsTPdu} (h : Blank t) (s : Slices) : Headed t s where
  originating _ ha := by cases h.mOriginatingAddress.symm.trans ha
  destination _ ha := by cases h.mDestinationAddress.symm.trans ha
  serviceCentre _ ht := by cases h.mServiceCentreTimeStamp.symm.trans ht
  discharge _ ht := by cases h.mDischargeTime.symm.trans ht

/-- All that a message has been given is found in the slices. -/
structure Extracted (t : SmsTPdu) (s : Slices) (rest : Octets) : Prop extends
  Headed t s, UserPart t s rest

/-- What a part of the parser reads for a message of the direction and the type of `t`. -/
def ReadsMessage (t : SmsTPdu) (fields : List Field) (m : Reader UInt8 SmsTPdu) : Prop :=
  Cuts m fun t' (s : Slices) rest => Ordered s fields ∧ t'.mDirection = t.mDirection ∧
    t'.mMessageTypeIndicator = t.mMessageTypeIndicator ∧ Extracted t' s rest

theorem readsMessage_pure {t : SmsTPdu} (h : Blank t) (fields : List Field) :
    ReadsMessage t fields (pure t) :=
  Cuts.pure fun rest =>
    ⟨Ordered.nil _, rfl, rfl, h.headed [], UserPart.of_fresh h.toFresh rest⟩

/-- The addresses and time stamps of the front are kept by what reads the user data. -/
theorem extracted_of_front {t t' : SmsTPdu} {front back : Slices} {rest : Octets}
    (hkept : Kept t t') (huser : UserPart t' back rest) (hhead : Headed t front) :
    Extracted t' (front ++ back) rest :=
  ⟨(hhead.of_kept hkept).mono (List.subset_append_left _ _), huser.prepend front⟩

theorem readsMessage_parseSmsSubmit {t : SmsTPdu} (ht : Blank t) (firstOctet : Int) :
    ReadsMessage t
      [.messageReference, .destinationAddress, .protocolIdentifier, .dataCodingScheme,
        .validityPeriod, .userDataLength, .userDataHeader, .userData]
      (t.parseSmsSubmit firstOctet) := by
  unfold parseSmsSubmit
  refine (getOctet_cuts .messageReference).bind fun messageRef s₁ _ h₁ => ?_
  refine (getAddress_cuts .destinationAddress).bind fun destination s₂ _ h₂ => ?_
  refine (getOctet_cuts .protocolIdentifier).bind fun pid s₃ _ h₃ => ?_
  refine (getOctet_cuts .dataCodingScheme).bind fun dcs s₄ _ h₄ => ?_
  refine (parseValidityPeriod_cuts _).bind fun _ s₅ _ h₅ => ?_
  refine Cuts.mono (readsUserPart_parseUserDataFields ⟨ht.mUserDataHeader, ht.udh, ht.mUserData⟩)
    fun t' s₆ rest h₆ => ?_
  obtain ⟨hordered, hkept, huser⟩ := h₆
  refine ⟨h₁.append (h₂.1.append (h₃.append (h₄.append (h₅.append hordered)))), hkept.1, hkept.2.1, ?_⟩
  rw [← List.append_assoc, ← List.append_assoc, ← List.append_assoc, ← List.append_assoc]
  have hhead := ht.headed (s₁ ++ s₂ ++ s₃ ++ s₄ ++ s₅)
  refine extracted_of_front hkept huser
    ⟨hhead.originating, ?_, hhead.serviceCentre, hhead.discharge⟩
  intro address haddress
  obtain ⟨rfl, hlength⟩ := h₂.2 address haddress
  exact ⟨by simp, hlength⟩

theorem readsMessage_parseSmsDeliver {t : SmsTPdu} (ht : Blank t) (firstOctet : Int) :
    ReadsMessage t
      [.originatingAddress, .protocolIdentifier, .dataCodingScheme, .serviceCentreTimeStamp,
        .userDataLength, .userDataHeader, .userData]
      (t.parseSmsDeliver firstOctet) := by
  unfold parseSmsDeliver
  refine (getAddress_cuts .originatingAddress).bind fun originating s₁ _ h₁ => ?_
  refine (getOctet_cuts .protocolIdentifier).bind fun pid s₂ _ h₂ => ?_
  refine (getOctet_cuts .dataCodingScheme).bind fun dcs s₃ _ h₃ => ?_
  refine (getTimeStamp_cuts .serviceCentreTimeStamp).bind fun scts s₄ _ h₄ => ?_
  refine Cuts.mono (readsUserPart_parseUserDataFields ⟨ht.mUserDataHeader, ht.udh, ht.mUserData⟩)
    fun t' s₅ rest h₅ => ?_
  obtain ⟨hordered, hkept, huser⟩ := h₅
  refine ⟨h₁.1.append (h₂.append (h₃.append (h₄.1.append hordered))), hkept.1, hkept.2.1, ?_⟩
  rw [← List.append_assoc, ← List.append_assoc, ← List.append_assoc]
  have hhead := ht.headed (s₁ ++ s₂ ++ s₃ ++ s₄)
  refine extracted_of_front hkept huser
    ⟨?_, hhead.destination, ?_, hhead.discharge⟩
  · intro address haddress
    obtain ⟨rfl, hlength⟩ := h₁.2 address haddress
    exact ⟨by simp, hlength⟩
  · intro text htext
    obtain ⟨ts, rfl, hts⟩ := h₄.2 text htext
    exact ⟨ts, by simp, hts⟩

theorem readsMessage_parseSmsStatusReport {t : SmsTPdu} (ht : Blank t) (firstOctet : Int) :
    ReadsMessage t
      [.messageReference, .destinationAddress, .serviceCentreTimeStamp, .dischargeTime, .status,
        .parameterIndicator, .indicatorExtension, .protocolIdentifier, .dataCodingScheme,
        .userDataLength, .userDataHeader, .userData]
      (t.parseSmsStatusReport firstOctet) := by
  unfold parseSmsStatusReport
  refine (getOctet_cuts .messageReference).bind fun messageRef s₁ _ h₁ => ?_
  refine (getAddress_cuts .destinationAddress).bind fun destination s₂ _ h₂ => ?_
  refine (getTimeStamp_cuts .serviceCentreTimeStamp).bind fun scts s₃ _ h₃ => ?_
  refine (getTimeStamp_cuts .dischargeTime).bind fun discharge s₄ _ h₄ => ?_
  refine (getOctet_cuts .status).bind fun status s₅ _ h₅ => ?_
  refine (parseParameterIndicator_cuts _).bind fun t₁ s₆ _ h₆ => ?_
  obtain ⟨h₆, indicator, rfl⟩ := h₆
  refine Cuts.mono
    (readsUserPart_parseOptionalParameters ⟨ht.mUserDataHeader, ht.udh, ht.mUserData⟩)
    fun t' s₇ rest h₇ => ?_
  obtain ⟨hordered, hkept, huser⟩ := h₇
  refine ⟨h₁.append (h₂.1.append (h₃.1.append (h₄.1.append (h₅.append (h₆.append hordered))))),
    hkept.1, hkept.2.1, ?_⟩
  rw [← List.append_assoc, ← List.append_assoc, ← List.append_assoc, ← List.append_assoc,
    ← List.append_assoc]
  have hhead := ht.headed (s₁ ++ s₂ ++ s₃ ++ s₄ ++ s₅ ++ s₆)
  refine extracted_of_front hkept huser
    ⟨hhead.originating, ?_, ?_, ?_⟩
  · intro address haddress
    obtain ⟨rfl, hlength⟩ := h₂.2 address haddress
    exact ⟨by simp, hlength⟩
  · intro text htext
    obtain ⟨ts, rfl, hts⟩ := h₃.2 text htext
    exact ⟨ts, by simp, hts⟩
  · intro text htext
    obtain ⟨ts, rfl, hts⟩ := h₄.2 text htext
    exact ⟨ts, by simp, hts⟩

theorem readsMessage_parseSmsSubmitReport {t : SmsTPdu} (ht : Blank t) (firstOctet : Int) :
    ReadsMessage t
      [.failureCause, .parameterIndicator, .indicatorExtension, .serviceCentreTimeStamp,
        .protocolIdentifier, .dataCodingScheme, .userDataLength, .userDataHeader, .userData]
      (t.parseSmsSubmitReport firstOctet) := by
  have hblank : ∀ header cause indicator, Blank
      { t with mUserDataHeaderIndicator := header, mFailureCause := cause,
               mParameterIndicator := indicator } :=
    fun _ _ _ => ⟨⟨ht.mUserDataHeader, ht.udh, ht.mUserData⟩, ht.mOriginatingAddress,
      ht.mDestinationAddress, ht.mServiceCentreTimeStamp, ht.mDischargeTime⟩
  unfold parseSmsSubmitReport
  refine hasMoreData_cuts.bind fun more s rest hmore => ?_
  obtain ⟨rfl, -⟩ := hmore
  refine Cuts.ite (fun _ => ?_) fun _ => ?_
  · refine (parseFailureCause_cuts _).bind fun t₁ s₁ _ h₁ => ?_
    obtain ⟨h₁, cause, rfl⟩ := h₁
    refine (parseParameterIndicator_cuts _).bind fun t₂ s₂ _ h₂ => ?_
    obtain ⟨h₂, indicator, rfl⟩ := h₂
    refine (hasMoreDataOf_cuts timestampsOctets).bind fun more s rest hmore => ?_
    obtain rfl := hmore
    refine Cuts.ite (fun _ => ?_) fun _ => ?_
    · refine (getTimeStamp_cuts .serviceCentreTimeStamp).bind fun scts s₃ _ h₃ => ?_
      refine Cuts.mono
        (readsUserPart_parseOptionalParameters ⟨ht.mUserDataHeader, ht.udh, ht.mUserData⟩)
        fun t' s₄ rest h₄ => ?_
      obtain ⟨hordered, hkept, huser⟩ := h₄
      refine ⟨h₁.append (h₂.append (h₃.1.append hordered)), hkept.1, hkept.2.1, ?_⟩
      rw [List.nil_append, List.nil_append, ← List.append_assoc, ← List.append_assoc]
      have hhead := ht.headed (s₁ ++ s₂ ++ s₃)
      refine extracted_of_front hkept huser
        ⟨hhead.originating, hhead.destination, ?_, hhead.discharge⟩
      intro text htext
      obtain ⟨ts, rfl, hts⟩ := h₃.2 text htext
      exact ⟨ts, by simp, hts⟩
    · refine Cuts.pure fun rest => ?_
      rw [List.nil_append, List.nil_append, List.append_nil]
      refine ⟨(h₁.append h₂).trans ?_, rfl, rfl, (hblank _ _ _).headed _, ?_⟩
      · exact List.sublist_append_left _ _
      · rw [← List.append_nil (s₁ ++ s₂)]
        exact (UserPart.of_fresh (hblank _ _ _).toFresh rest).prepend _
  · exact readsMessage_pure (t := { t with mUserDataHeaderIndicator := bits firstOctet 6 0x01 })
      (hblank _ t.mFailureCause t.mParameterIndicator) _

theorem readsMessage_parseSmsDeliverReport {t : SmsTPdu} (ht : Blank t) (firstOctet : Int) :
    ReadsMessage t
      [.failureCause, .parameterIndicator, .indicatorExtension, .protocolIdentifier,
        .dataCodingScheme, .userDataLength, .userDataHeader, .userData]
      (t.parseSmsDeliverReport firstOctet) := by
  unfold parseSmsDeliverReport
  refine hasMoreData_cuts.bind fun more s rest hmore => ?_
  obtain ⟨rfl, -⟩ := hmore
  refine Cuts.ite (fun _ => ?_) fun _ => ?_
  · refine (parseFailureCause_cuts _).bind fun t₁ s₁ _ h₁ => ?_
    obtain ⟨h₁, cause, rfl⟩ := h₁
    refine (parseParameterIndicator_cuts _).bind fun t₂ s₂ _ h₂ => ?_
    obtain ⟨h₂, indicator, rfl⟩ := h₂
    refine Cuts.mono
      (readsUserPart_parseOptionalParameters ⟨ht.mUserDataHeader, ht.udh, ht.mUserData⟩)
      fun t' s₃ rest h₃ => ?_
    obtain ⟨hordered, hkept, huser⟩ := h₃
    refine ⟨h₁.append (h₂.append hordered), hkept.1, hkept.2.1, ?_⟩
    rw [List.nil_append, ← List.append_assoc]
    have hhead := ht.headed (s₁ ++ s₂)
    exact extracted_of_front hkept huser
      ⟨hhead.originating, hhead.destination, hhead.serviceCentre, hhead.discharge⟩
  · exact readsMessage_pure (t := { t with mUserDataHeaderIndicator := bits firstOctet 6 0x01 })
      ⟨⟨ht.mUserDataHeader, ht.udh, ht.mUserData⟩, ht.mOriginatingAddress, ht.mDestinationAddress,
        ht.mServiceCentreTimeStamp, ht.mDischargeTime⟩ _

/-- The order of the fields behind the first octet. -/
def layout (direction : Option Direction) (mti : Int) : List Field :=
  match direction with
  | some .msToSc =>
    if mti = 0 then
      [.failureCause, .parameterIndicator, .indicatorExtension, .protocolIdentifier,
        .dataCodingScheme, .userDataLength, .userDataHeader, .userData]
    else if mti = 1 then
      [.messageReference, .destinationAddress, .protocolIdentifier, .dataCodingScheme,
        .validityPeriod, .userDataLength, .userDataHeader, .userData]
    else []
  | some .scToMs =>
    if mti = 1 then
      [.failureCause, .parameterIndicator, .indicatorExtension, .serviceCentreTimeStamp,
        .protocolIdentifier, .dataCodingScheme, .userDataLength, .userDataHeader, .userData]
    else if mti = 2 then
      [.messageReference, .destinationAddress, .serviceCentreTimeStamp, .dischargeTime, .status,
        .parameterIndicator, .indicatorExtension, .protocolIdentifier, .dataCodingScheme,
        .userDataLength, .userDataHeader, .userData]
    else
      [.originatingAddress, .protocolIdentifier, .dataCodingScheme, .serviceCentreTimeStamp,
        .userDataLength, .userDataHeader, .userData]
  | none => []

theorem readsMessage_parseMessage {t : SmsTPdu} (ht : Blank t) (firstOctet : Int) :
    ReadsMessage t (layout t.mDirection t.mMessageTypeIndicator) (t.parseMessage firstOctet) := by
  unfold parseMessage layout
  cases t.mDirection with
  | none => exact readsMessage_pure ht _
  | some direction =>
    cases direction with
    | msToSc =>
      dsimp only
      split
      · exact readsMessage_parseSmsDeliverReport ht firstOctet
      · split
        · exact readsMessage_parseSmsSubmit ht firstOctet
        · exact readsMessage_pure ht _
    | scToMs =>
      dsimp only
      split
      · exact readsMessage_parseSmsSubmitReport ht firstOctet
      · split
        · exact readsMessage_parseSmsStatusReport ht firstOctet
        · exact readsMessage_parseSmsDeliver ht firstOctet

theorem parsePdu_cuts {t : SmsTPdu} (ht : Blank t) :
    Cuts t.parsePdu fun t' (s : Slices) rest =>
      Ordered s (.firstOctet :: layout t.mDirection t'.mMessageTypeIndicator) ∧
        Extracted t' s rest := by
  unfold parsePdu
  refine (getOctet_cuts .firstOctet).bind fun firstOctet s₁ _ h₁ => ?_
  refine Cuts.mono (readsMessage_parseMessage
    (t := { t with mMessageTypeIndicator := bits firstOctet 0 0x03 })
    ⟨⟨ht.mUserDataHeader, ht.udh, ht.mUserData⟩, ht.mOriginatingAddress, ht.mDestinationAddress,
      ht.mServiceCentreTimeStamp, ht.mDischargeTime⟩ firstOctet) fun t' s rest hread => ?_
  obtain ⟨hordered, -, hmti, hhead, huser⟩ := hread
  refine ⟨?_, hhead.mono (List.subset_append_right _ _), huser.prepend s₁⟩
  rw [hmti]
  exact h₁.append hordered

/-- The PDU that a parser is made for; a null array is as an empty one. -/
def pduOf (smsRpdu : SmsRPdu) : Octets := smsRpdu.userData.getD []

end SmsTPdu

end ImsStack.Sms
