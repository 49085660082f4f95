import ImsStack.Media.PcfgLines

/-!
The configuration that is accepted: the loop over the lines finds the first one that qualifies just
if each line up to there is read right.
-/

namespace ImsStack.Media.VideoProfileNegotiator

open ImsStack.Platform Library.FirstAccepted

variable (pLocalCapaNego pPeerCapaNego : CapaNego)

/-- The negotiated capabilities where the line is accepted. -/
def acceptedNego (line : NullString) (s : PcfgState) : Option CapaNego :=
  if s.bPCFGSupportable then
    some { s.nego with strAcfg := some (AString.cString line.chars) }
  else none

/-- One pass of the loop, with nothing negotiated before it. -/
def testPcfg (line : NullString) : Option (Option CapaNego) :=
  if line.length = 0 then some none
  else (readPcfg pLocalCapaNego pPeerCapaNego {} line).map (acceptedNego line)

variable {pLocalCapaNego pPeerCapaNego : CapaNego}

theorem supported_of_judge {w : NullString} {a : AttributeVerdict}
    (h : judge pLocalCapaNego w = some a) (ha : a ≠ .passed) : Supported pLocalCapaNego w := by
  unfold judge at h
  unfold Supported
  by_cases hfeedback : (w.contains "trr-int" || w.contains "nack") = true
  · rw [if_pos hfeedback]
    trivial
  · rw [if_neg hfeedback] at h ⊢
    by_cases hccm : w.contains "ccm" = true
    · rw [if_pos hccm] at h ⊢
      by_cases hkind : (w.contains "fir" || w.contains "tmmbr") = true
      · exact (Bool.or_eq_true _ _).mp hkind
      · rw [if_neg hkind] at h
        exact absurd (Option.some.inj h).symm ha
    · rw [if_neg hccm] at h ⊢
      by_cases hcrypto : w.contains "crypto" = true
      · rw [if_pos hcrypto] at h
        refine ⟨hcrypto, ?_⟩
        unfold judgeCrypto at h
        obtain ⟨src, hsrc, hdest⟩ := Option.bind_eq_some_iff.mp h
        obtain ⟨d, hd, hsuites⟩ := Option.bind_eq_some_iff.mp hdest
        obtain ⟨s, hs, hpure⟩ := Option.bind_eq_some_iff.mp hsuites
        obtain ⟨pair, hpair, rfl⟩ := Option.map_eq_some_iff.mp hsrc
        refine ⟨pair, List.mem_of_getElem? hpair, d, s, hd, hs, ?_⟩
        cases hequals : d.equals s with
        | true => rfl
        | false =>
            rw [hequals] at hpure
            exact absurd (Option.some.inj hpure).symm ha
      · rw [if_neg hcrypto] at h
        exact absurd (Option.some.inj h).symm ha

theorem CountsAll.supported {numbers : List Int}
    (h : CountsAll pLocalCapaNego pPeerCapaNego numbers) :
    ∀ k ∈ numbers, ∃ w, pPeerCapaNego.mapAcap.getValue k = some w ∧
      Supported pLocalCapaNego w := by
  have hverdict : ∀ {k a}, verdict pLocalCapaNego pPeerCapaNego k = some a → a ≠ .passed →
      ∃ w, pPeerCapaNego.mapAcap.getValue k = some w ∧ Supported pLocalCapaNego w := by
    intro k a hk ha
    obtain ⟨w, hget, hjudge⟩ := exists_of_verdict hk
    exact ⟨w, hget, supported_of_judge hjudge ha⟩
  induction numbers with
  | nil =>
      intro k hk
      cases hk
  | cons k numbers ih =>
      intro k' hk'
      rcases h with ⟨hcounted, hrest⟩ | ⟨hlast, rfl⟩
      · rcases List.mem_cons.mp hk' with rfl | hk'
        · exact hverdict hcounted (by decide)
        · exact ih hrest k' hk'
      · obtain rfl := List.mem_singleton.mp hk'
        exact hverdict hlast (by decide)

section line

variable {line : NullString}

theorem not_qualifies_of_transportOf (h : transportOf line = none) :
    ¬Qualifies pLocalCapaNego pPeerCapaNego line := by
  rintro ⟨n, v, numbers, hn, -⟩
  rw [h] at hn
  cases hn

theorem not_qualifies_of_hasTransport {n : Int} {v : NullString} (hn : transportOf line = some n)
    (hv : pPeerCapaNego.mapTcap.getValue n = some v) (hhas : hasTransport pLocalCapaNego v = false) :
    ¬Qualifies pLocalCapaNego pPeerCapaNego line := by
  rintro ⟨n', v', numbers, hn', hv', hhas', -⟩
  obtain rfl := Option.some.inj (hn.symm.trans hn')
  obtain rfl := Option.some.inj (hv.symm.trans hv')
  rw [hhas] at hhas'
  cases hhas'

theorem not_qualifies_of_referencesOf (h : referencesOf line = none) :
    ¬Qualifies pLocalCapaNego pPeerCapaNego line := by
  rintro ⟨n, v, numbers, -, -, -, hnumbers, -⟩
  rw [h] at hnumbers
  cases hnumbers

theorem split_of_length_eq_zero (h : line.length = 0) :
    line.split ' ' = [] ∨ line.split ' ' = [some []] := by
  rcases line with _ | _ | ⟨c, s⟩
  · exact .inl rfl
  · exact .inr rfl
  · cases h

theorem transportOf_of_length_eq_zero (h : line.length = 0) : transportOf line = none := by
  unfold transportOf
  rcases split_of_length_eq_zero h with heq | heq <;> rw [heq] <;> rfl

theorem referencesOf_of_length_eq_zero (h : line.length = 0) : referencesOf line = some [] := by
  unfold referencesOf
  rcases split_of_length_eq_zero h with heq | heq <;> rw [heq] <;> rfl

/-- A line that names no transport capability and no references is refused, as it should be. -/
theorem isReadRight_of_nothing (ht : transportOf line = none) (hr : referencesOf line = some []) :
    IsReadRight pLocalCapaNego pPeerCapaNego line where
  transport n hn := by
    rw [ht] at hn
    cases hn
  readable _ numbers hnumbers k hk := by
    rw [hr] at hnumbers
    obtain rfl := Option.some.inj hnumbers
    cases hk
  counted hq := absurd hq (not_qualifies_of_transportOf ht)
  uncounted _ k numbers hnumbers := by
    rw [hr] at hnumbers
    cases hnumbers

theorem agrees_iff_of_length_ne_zero (hline : line.length ≠ 0) :
    Agrees (testPcfg pLocalCapaNego pPeerCapaNego) (Qualifies pLocalCapaNego pPeerCapaNego) line ↔
      ∃ s, readPcfg pLocalCapaNego pPeerCapaNego {} line = some s ∧
        (s.bPCFGSupportable = true ↔ Qualifies pLocalCapaNego pPeerCapaNego line) := by
  have hisSome : ∀ s : PcfgState,
      (acceptedNego line s).isSome = true ↔ s.bPCFGSupportable = true := by
    intro s
    unfold acceptedNego
    cases s.bPCFGSupportable <;> simp
  unfold Agrees testPcfg
  rw [if_neg hline]
  constructor
  · rintro ⟨r, hr, hiff⟩
    obtain ⟨s, hs, rfl⟩ := Option.map_eq_some_iff.mp hr
    exact ⟨s, hs, (hisSome s).symm.trans hiff⟩
  · rintro ⟨s, hs, hiff⟩
    exact ⟨_, Option.map_eq_some_iff.mpr ⟨s, hs, rfl⟩, (hisSome s).trans hiff⟩

theorem readReferences_agrees_iff (s : PcfgState) (k : Int) (numbers : List Int) (Q : Prop) :
    (∃ s', readReferences pLocalCapaNego pPeerCapaNego s (some (k :: numbers)) = some s' ∧
        (s'.bPCFGSupportable = true ↔ Q)) ↔
      (∀ k' ∈ examined pLocalCapaNego pPeerCapaNego (k :: numbers),
          verdict pLocalCapaNego pPeerCapaNego k' ≠ none) ∧
        (CountsAll pLocalCapaNego pPeerCapaNego (k :: numbers) ↔ Q) := by
  rw [← countAttributes_ne_none_iff 0 s.nego.mapAcap]
  have hcounted : ∀ {counted}, countAttributes pLocalCapaNego pPeerCapaNego 0 s.nego.mapAcap
      (k :: numbers) = some counted →
      ((s.withCount (k :: numbers).length counted).bPCFGSupportable = true ↔
        CountsAll pLocalCapaNego pPeerCapaNego (k :: numbers)) := by
    intro counted hcount
    rw [← countAttributes_eq_length_iff hcount, Nat.zero_add]
    exact beq_iff_eq
  constructor
  · rintro ⟨s', hs', hiff⟩
    obtain ⟨counted, hcount, rfl⟩ := Option.map_eq_some_iff.mp hs'
    refine ⟨?_, (hcounted hcount).symm.trans hiff⟩
    rw [hcount]
    exact Option.some_ne_none counted
  · rintro ⟨hdefined, hiff⟩
    obtain ⟨counted, hcount⟩ := Option.ne_none_iff_exists'.mp hdefined
    exact ⟨_, Option.map_eq_some_iff.mpr ⟨counted, hcount, rfl⟩, (hcounted hcount).trans hiff⟩

/-- The configuration with a transport capability that both sides have. -/
def PcfgState.withTransport (n : Int) (v : NullString) : PcfgState :=
  { bPCFGSupportable := true, nego := { mapTcap := [(n, v)] } }

theorem readPcfg_of_transportOf_eq_none (ht : transportOf line = none) :
    readPcfg pLocalCapaNego pPeerCapaNego {} line =
      readReferences pLocalCapaNego pPeerCapaNego {} (referencesOf line) := by
  rw [readPcfg_eq, ht]
  rfl

theorem readPcfg_of_absent {n : Int} (ht : transportOf line = some n)
    (hv : pPeerCapaNego.mapTcap.getValue n = none) :
    readPcfg pLocalCapaNego pPeerCapaNego {} line = none := by
  rw [readPcfg_eq, ht]
  simp only [readNumber]
  rw [hv]
  rfl

theorem readPcfg_of_refused {n : Int} {v : NullString} (ht : transportOf line = some n)
    (hv : pPeerCapaNego.mapTcap.getValue n = some v) (hhas : hasTransport pLocalCapaNego v = false) :
    readPcfg pLocalCapaNego pPeerCapaNego {} line = some {} := by
  rw [readPcfg_eq, ht]
  simp only [readNumber]
  rw [hv, Option.map_some, hhas]
  rfl

theorem readPcfg_of_hasTransport {n : Int} {v : NullString} (ht : transportOf line = some n)
    (hv : pPeerCapaNego.mapTcap.getValue n = some v) (hhas : hasTransport pLocalCapaNego v = true) :
    readPcfg pLocalCapaNego pPeerCapaNego {} line =
      readReferences pLocalCapaNego pPeerCapaNego (.withTransport n v) (referencesOf line) := by
  rw [readPcfg_eq, ht]
  simp only [readNumber]
  rw [hv, Option.map_some, hhas]
  rfl

theorem qualifies_iff_of_hasTransport {n : Int} {v : NullString} (ht : transportOf line = some n)
    (hv : pPeerCapaNego.mapTcap.getValue n = some v) (hhas : hasTransport pLocalCapaNego v = true)
    {numbers : List Int} (hr : referencesOf line = some numbers) :
    Qualifies pLocalCapaNego pPeerCapaNego line ↔
      ∀ k ∈ numbers, ∃ w, pPeerCapaNego.mapAcap.getValue k = some w ∧
        Supported pLocalCapaNego w := by
  constructor
  · rintro ⟨n', v', numbers', -, -, -, hr', hall⟩
    rw [hr] at hr'
    obtain rfl := Option.some.inj hr'
    exact hall
  · intro hall
    exact ⟨n, v, numbers, ht, hv, hhas, hr, hall⟩

theorem agrees_iff_of_transportOf_eq_none (hline : line.length ≠ 0) (ht : transportOf line = none) :
    Agrees (testPcfg pLocalCapaNego pPeerCapaNego) (Qualifies pLocalCapaNego pPeerCapaNego) line ↔
      IsReadRight pLocalCapaNego pPeerCapaNego line := by
  have hnot : ¬Qualifies pLocalCapaNego pPeerCapaNego line := not_qualifies_of_transportOf ht
  rw [agrees_iff_of_length_ne_zero hline, readPcfg_of_transportOf_eq_none ht]
  rcases hr : referencesOf line with _ | _ | ⟨k, numbers⟩
  · refine iff_of_true ⟨_, rfl, iff_of_false Bool.false_ne_true hnot⟩ ?_
    refine ⟨?_, ?_, fun hq => absurd hq hnot, ?_⟩
    · intro n hn
      rw [ht] at hn
      cases hn
    · intro _ numbers hnumbers
      rw [hr] at hnumbers
      cases hnumbers
    · intro _ k numbers hnumbers
      rw [hr] at hnumbers
      cases hnumbers
  · refine iff_of_true ⟨_, rfl, iff_of_false Bool.false_ne_true hnot⟩ ?_
    exact isReadRight_of_nothing ht hr
  · rw [readReferences_agrees_iff]
    constructor
    · rintro ⟨hreadable, hiff⟩
      refine ⟨?_, ?_, fun hq => absurd hq hnot, ?_⟩
      · intro n hn
        rw [ht] at hn
        cases hn
      · intro _ numbers' hnumbers
        obtain rfl := Option.some.inj (hr.symm.trans hnumbers)
        exact hreadable
      · intro _ k' numbers' hnumbers hall
        obtain heq := Option.some.inj (hr.symm.trans hnumbers)
        exact hnot (hiff.mp (heq ▸ hall))
    · rintro ⟨-, hreadable, -, huncounted⟩
      refine ⟨hreadable ?_ _ hr, iff_of_false (huncounted ht k numbers hr) hnot⟩
      rintro ⟨n, v, hn, -⟩
      rw [ht] at hn
      cases hn

theorem agrees_iff_of_hasTransport (hline : line.length ≠ 0) {n : Int} {v : NullString}
    (ht : transportOf line = some n) (hv : pPeerCapaNego.mapTcap.getValue n = some v)
    (hhas : hasTransport pLocalCapaNego v = true) :
    Agrees (testPcfg pLocalCapaNego pPeerCapaNego) (Qualifies pLocalCapaNego pPeerCapaNego) line ↔
      IsReadRight pLocalCapaNego pPeerCapaNego line := by
  have htransport : ∀ n', transportOf line = some n' →
      ∃ v', pPeerCapaNego.mapTcap.getValue n' = some v' := by
    intro n' hn'
    obtain rfl := Option.some.inj (ht.symm.trans hn')
    exact ⟨v, hv⟩
  have hsome : transportOf line ≠ none := by
    rw [ht]
    exact Option.some_ne_none n
  have hnotRefused : ¬TransportRefused pLocalCapaNego pPeerCapaNego line := by
    rintro ⟨n', v', hn', hv', hhas'⟩
    obtain rfl := Option.some.inj (ht.symm.trans hn')
    obtain rfl := Option.some.inj (hv.symm.trans hv')
    rw [hhas] at hhas'
    cases hhas'
  rw [agrees_iff_of_length_ne_zero hline, readPcfg_of_hasTransport ht hv hhas]
  rcases hr : referencesOf line with _ | _ | ⟨k, numbers⟩
  · have hnot : ¬Qualifies pLocalCapaNego pPeerCapaNego line :=
      not_qualifies_of_referencesOf hr
    refine iff_of_true ⟨_, rfl, iff_of_false Bool.false_ne_true hnot⟩ ?_
    refine ⟨htransport, ?_, fun hq => absurd hq hnot, fun hnone => absurd hnone hsome⟩
    intro _ numbers hnumbers
    rw [hr] at hnumbers
    cases hnumbers
  · have hq : Qualifies pLocalCapaNego pPeerCapaNego line := by
      rw [qualifies_iff_of_hasTransport ht hv hhas hr]
      intro k hk
      cases hk
    refine iff_of_true ⟨_, rfl, iff_of_true rfl hq⟩ ?_
    refine ⟨htransport, ?_, ?_, fun hnone => absurd hnone hsome⟩
    · intro _ numbers hnumbers k hk
      obtain rfl := Option.some.inj (hr.symm.trans hnumbers)
      cases hk
    · intro _ numbers hnumbers
      obtain rfl := Option.some.inj (hr.symm.trans hnumbers)
      trivial
  · rw [readReferences_agrees_iff]
    constructor
    · rintro ⟨hreadable, hiff⟩
      refine ⟨htransport, ?_, ?_, fun hnone => absurd hnone hsome⟩
      · intro _ numbers' hnumbers
        obtain rfl := Option.some.inj (hr.symm.trans hnumbers)
        exact hreadable
      · intro hq numbers' hnumbers
        obtain rfl := Option.some.inj (hr.symm.trans hnumbers)
        exact hiff.mpr hq
    · rintro ⟨-, hreadable, hcounted, -⟩
      refine ⟨hreadable hnotRefused _ hr, ?_, fun hq => hcounted hq _ hr⟩
      intro hall
      rw [qualifies_iff_of_hasTransport ht hv hhas hr]
      exact hall.supported

theorem agrees_iff (line : NullString) :
    Agrees (testPcfg pLocalCapaNego pPeerCapaNego) (Qualifies pLocalCapaNego pPeerCapaNego) line ↔
      IsReadRight pLocalCapaNego pPeerCapaNego line := by
  by_cases hline : line.length = 0
  · have ht := transportOf_of_length_eq_zero hline
    refine iff_of_true ⟨none, if_pos hline, ?_⟩
      (isReadRight_of_nothing ht (referencesOf_of_length_eq_zero hline))
    exact iff_of_false Bool.false_ne_true (not_qualifies_of_transportOf ht)
  · cases ht : transportOf line with
    | none => exact agrees_iff_of_transportOf_eq_none hline ht
    | some n =>
        cases hv : pPeerCapaNego.mapTcap.getValue n with
        | none =>
            rw [agrees_iff_of_length_ne_zero hline, readPcfg_of_absent ht hv]
            refine iff_of_false ?_ ?_
            · rintro ⟨s, hs, -⟩
              cases hs
            · intro h
              obtain ⟨v, hv'⟩ := h.transport n ht
              rw [hv] at hv'
              cases hv'
        | some v =>
            cases hhas : hasTransport pLocalCapaNego v with
            | true => exact agrees_iff_of_hasTransport hline ht hv hhas
            | false =>
                have hnot := not_qualifies_of_hasTransport ht hv hhas
                rw [agrees_iff_of_length_ne_zero hline, readPcfg_of_refused ht hv hhas]
                refine iff_of_true ⟨_, rfl, iff_of_false Bool.false_ne_true hnot⟩ ?_
                refine ⟨?_, ?_, fun hq => absurd hq hnot, ?_⟩
                · intro n' hn'
                  obtain rfl := Option.some.inj (ht.symm.trans hn')
                  exact ⟨v, hv⟩
                · intro hrefused
                  exact absurd ⟨n, v, ht, hv, hhas⟩ hrefused
                · intro hnone
                  rw [ht] at hnone
                  cases hnone

end line

theorem readReferences_frame {s s' : PcfgState} {references : Option (List Int)}
    (h : readReferences pLocalCapaNego pPeerCapaNego s references = some s') :
    s'.nego.strAcfg = s.nego.strAcfg ∧ s'.nego.lstPcfg = s.nego.lstPcfg := by
  rcases references with _ | _ | ⟨k, numbers⟩
  · obtain rfl := Option.some.inj h
    exact ⟨rfl, rfl⟩
  · obtain rfl := Option.some.inj h
    exact ⟨rfl, rfl⟩
  · obtain ⟨counted, -, rfl⟩ := Option.map_eq_some_iff.mp h
    exact ⟨rfl, rfl⟩

theorem readPcfg_frame {s : PcfgState} {line : NullString}
    (h : readPcfg pLocalCapaNego pPeerCapaNego {} line = some s) :
    s.nego.strAcfg = none ∧ s.nego.lstPcfg = [] := by
  cases ht : transportOf line with
  | none => exact readReferences_frame (readPcfg_of_transportOf_eq_none ht ▸ h)
  | some n =>
      cases hv : pPeerCapaNego.mapTcap.getValue n with
      | none =>
          rw [readPcfg_of_absent ht hv] at h
          cases h
      | some v =>
          cases hhas : hasTransport pLocalCapaNego v with
          | true => exact readReferences_frame (readPcfg_of_hasTransport ht hv hhas ▸ h)
          | false =>
              rw [readPcfg_of_refused ht hv hhas] at h
              obtain rfl := Option.some.inj h
              exact ⟨rfl, rfl⟩

theorem negotiates_of_readPcfg {s : PcfgState} {line : NullString}
    (h : readPcfg pLocalCapaNego pPeerCapaNego {} line = some s) (hs : s.bPCFGSupportable = true)
    (hq : Qualifies pLocalCapaNego pPeerCapaNego line) : Negotiates pPeerCapaNego line s.nego := by
  obtain ⟨n, v, numbers, ht, hv, hhas, hr, -⟩ := hq
  rw [readPcfg_of_hasTransport ht hv hhas, hr] at h
  cases numbers with
  | nil =>
      obtain rfl := Option.some.inj h
      refine ⟨n, v, [], ht, hv, rfl, hr, ?_⟩
      intro pair
      exact iff_of_false List.not_mem_nil fun hpair => List.not_mem_nil hpair.1
  | cons k numbers =>
      obtain ⟨counted, hcount, rfl⟩ := Option.map_eq_some_iff.mp h
      refine ⟨n, v, k :: numbers, ht, hv, rfl, hr, ?_⟩
      intro pair
      have hlength : counted.1 = 0 + (k :: numbers).length := by
        rw [Nat.zero_add]
        exact beq_iff_eq.mp hs
      have hall := (countAttributes_eq_length_iff hcount).mp hlength
      refine (mem_countAttributes hcount hall ?_ pair).trans (or_iff_right List.not_mem_nil)
      intro pair hpair
      cases hpair

/-- How the loop ends. -/
def outcomeOf (r : Nat × Option CapaNego) : Outcome :=
  { ret := r.2.isSome, i := r.1, nego := r.2.getD {} }

theorem readPcfgs_eq (i : Nat) (lines : List NullString) :
    readPcfgs pLocalCapaNego pPeerCapaNego i {} lines =
      (firstAccepted (testPcfg pLocalCapaNego pPeerCapaNego) i lines).map outcomeOf := by
  induction lines generalizing i with
  | nil => rfl
  | cons line lines ih =>
      unfold readPcfgs
      by_cases hline : line.length = 0
      · have htest : testPcfg pLocalCapaNego pPeerCapaNego line = some none := if_pos hline
        rw [if_pos hline, ih, firstAccepted_cons_refused htest]
      · rw [if_neg hline]
        have htest : testPcfg pLocalCapaNego pPeerCapaNego line =
            (readPcfg pLocalCapaNego pPeerCapaNego {} line).map (acceptedNego line) :=
          if_neg hline
        cases hread : readPcfg pLocalCapaNego pPeerCapaNego {} line with
        | none =>
            rw [hread] at htest
            rw [firstAccepted_cons_undefined htest]
            rfl
        | some s =>
            rw [hread, Option.map_some] at htest
            simp only [Option.bind_eq_bind, Option.bind_some]
            unfold acceptedNego at htest
            by_cases hs : s.bPCFGSupportable = true
            · rw [if_pos hs] at htest ⊢
              rw [firstAccepted_cons_accepted htest]
              rfl
            · rw [if_neg hs] at htest ⊢
              have hcleared : { s with nego := { s.nego with mapTcap := [], mapAcap := [] } } =
                  ({} : PcfgState) := by
                obtain ⟨hacfg, hpcfg⟩ := readPcfg_frame hread
                have hflag := Bool.eq_false_iff.mpr hs
                simp [hacfg, hpcfg, hflag]
              rw [firstAccepted_cons_refused htest, hcleared, ih]

variable (pLocalCapaNego pPeerCapaNego)

/-- The line that is accepted is the first one that qualifies, and just what it names has been
negotiated; where no line is accepted, none qualifies and nothing has been negotiated. -/
structure Outcome.IsSound (out : Outcome) : Prop where
  first : IsFirst (Qualifies pLocalCapaNego pPeerCapaNego) 0 pPeerCapaNego.lstPcfg out.ret out.i
  accepted : out.ret = true → ∃ line, pPeerCapaNego.lstPcfg[out.i]? = some line ∧
    out.nego.strAcfg = some (AString.cString line.chars) ∧
    Negotiates pPeerCapaNego line out.nego
  refused : out.ret = false → out.nego.mapTcap = [] ∧ out.nego.mapAcap = []

/-- Nothing is read at an absent position, and the outcome is sound. -/
def NegotiatesCapabilities : Prop :=
  ∃ out, makeNegotiatedCapaNegoProfile pLocalCapaNego pPeerCapaNego {} = some out ∧
    out.IsSound pLocalCapaNego pPeerCapaNego

theorem isSound_outcomeOf {r : Nat × Option CapaNego}
    (hrun : firstAccepted (testPcfg pLocalCapaNego pPeerCapaNego) 0 pPeerCapaNego.lstPcfg = some r)
    (hfirst : IsFirst (Qualifies pLocalCapaNego pPeerCapaNego) 0 pPeerCapaNego.lstPcfg
      r.2.isSome r.1) : (outcomeOf r).IsSound pLocalCapaNego pPeerCapaNego where
  first := hfirst
  accepted := by
    rcases r with ⟨index, _ | nego⟩
    · intro h
      cases h
    · intro _
      obtain ⟨line, hget, htest⟩ := firstAccepted_eq_accepted hrun
      obtain ⟨before, line', after, heq, hindex, hq, -⟩ := hfirst
      have hget' : pPeerCapaNego.lstPcfg[index]? = some line' := by
        have hlength : index = 0 + before.length := hindex
        rw [heq, hlength, Nat.zero_add, List.getElem?_append_right (Nat.le_refl _), Nat.sub_self]
        rfl
      obtain rfl := Option.some.inj (hget.symm.trans hget')
      refine ⟨line, hget, ?_⟩
      unfold testPcfg at htest
      by_cases hline : line.length = 0
      · rw [if_pos hline] at htest
        cases htest
      · rw [if_neg hline] at htest
        obtain ⟨s, hread, haccepted⟩ := Option.map_eq_some_iff.mp htest
        unfold acceptedNego at haccepted
        by_cases hs : s.bPCFGSupportable = true
        · rw [if_pos hs] at haccepted
          obtain rfl := Option.some.inj haccepted
          exact ⟨rfl, negotiates_of_readPcfg hread hs hq⟩
        · rw [if_neg hs] at haccepted
          cases haccepted
  refused := by
    rcases r with ⟨index, _ | nego⟩
    · intro _
      exact ⟨rfl, rfl⟩
    · intro h
      cases h

/-- The negotiation does what it should just if every line up to the first one that qualifies is
read right. -/
theorem negotiatesCapabilities_iff (hacfg : pPeerCapaNego.strAcfg.length = 0) :
    NegotiatesCapabilities pLocalCapaNego pPeerCapaNego ↔
      ∀ before line after, pPeerCapaNego.lstPcfg = before ++ line :: after →
        (∀ l ∈ before, ¬Qualifies pLocalCapaNego pPeerCapaNego l) →
        IsReadRight pLocalCapaNego pPeerCapaNego line := by
  have hmake : makeNegotiatedCapaNegoProfile pLocalCapaNego pPeerCapaNego {} =
      (firstAccepted (testPcfg pLocalCapaNego pPeerCapaNego) 0 pPeerCapaNego.lstPcfg).map
        outcomeOf := by
    rw [← readPcfgs_eq]
    unfold makeNegotiatedCapaNegoProfile
    rw [hacfg]
    rfl
  have hagrees := firstAccepted_isFirst_iff (testPcfg pLocalCapaNego pPeerCapaNego)
    (Qualifies pLocalCapaNego pPeerCapaNego) 0 pPeerCapaNego.lstPcfg
  have hcondition : AgreesUpToFirst (testPcfg pLocalCapaNego pPeerCapaNego)
      (Qualifies pLocalCapaNego pPeerCapaNego) pPeerCapaNego.lstPcfg ↔
      ∀ before line after, pPeerCapaNego.lstPcfg = before ++ line :: after →
        (∀ l ∈ before, ¬Qualifies pLocalCapaNego pPeerCapaNego l) →
        IsReadRight pLocalCapaNego pPeerCapaNego line := by
    unfold AgreesUpToFirst
    simp only [agrees_iff]
  rw [← hcondition, ← hagrees]
  unfold NegotiatesCapabilities
  rw [hmake]
  constructor
  · rintro ⟨out, hout, hsound⟩
    obtain ⟨⟨index, r⟩, hrun, rfl⟩ := Option.map_eq_some_iff.mp hout
    exact ⟨index, r, hrun, hsound.first⟩
  · rintro ⟨index, r, hrun, hfirst⟩
    exact ⟨_, Option.map_eq_some_iff.mpr ⟨_, hrun, rfl⟩, isSound_outcomeOf _ _ hrun hfirst⟩

/-- An offer with one line, and a local side with the transport capability of it. -/
def offered (line : String) : CapaNego where
  mapTcap := [(1, some "RTP/AVPF".toList)]
  mapAcap := [(1, some "rtcp-fb:* nack".toList)]
  lstPcfg := [some line.toList]

/-- One line with a transport and an attribute capability that both sides have. -/
theorem negotiatesCapabilities_supported :
    NegotiatesCapabilities (offered "") (offered "1 t=1 a=1") := by
  refine (negotiatesCapabilities_iff (offered "") (offered "1 t=1 a=1") rfl).mpr ?_
  intro before line after heq _
  have hline : line = some "1 t=1 a=1".toList := by
    have hmem : line ∈ (offered "1 t=1 a=1").lstPcfg := by
      rw [heq]
      exact List.mem_append_right before List.mem_cons_self
    exact List.mem_singleton.mp hmem
  have ht : transportOf line = some 1 := by
    rw [hline]
    decide
  have hr : referencesOf line = some [1] := by
    rw [hline]
    decide
  have hverdict : verdict (offered "") (offered "1 t=1 a=1") 1 = some .counted := by decide
  constructor
  · intro n hn
    obtain rfl := Option.some.inj (ht.symm.trans hn)
    exact ⟨some "RTP/AVPF".toList, rfl⟩
  · intro _ numbers hnumbers
    obtain rfl := Option.some.inj (hr.symm.trans hnumbers)
    decide
  · intro _ numbers hnumbers
    obtain rfl := Option.some.inj (hr.symm.trans hnumbers)
    exact .inl ⟨hverdict, trivial⟩
  · intro hnone
    rw [ht] at hnone
    cases hnone

/-- The line names a transport capability that the offer does not have. -/
theorem not_negotiatesCapabilities_absent :
    ¬NegotiatesCapabilities (offered "") (offered "1 t=2 a=1") := by
  rintro ⟨out, hout, -⟩
  have habsent : makeNegotiatedCapaNegoProfile (offered "") (offered "1 t=2 a=1") {} = none := by
    decide
  rw [habsent] at hout
  cases hout

end ImsStack.Media.VideoProfileNegotiator
