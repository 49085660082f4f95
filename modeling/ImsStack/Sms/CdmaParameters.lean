import ImsStack.Sms.CdmaSmsMessageHelper

/-!
When the parser of a CDMA message takes its parameters one by one, each with the octets that it
declares.
-/

namespace ImsStack.Sms

open Platform.Bytes

/-- A parameter of a supported type, with as many octets as its length says. -/
structure CdmaParameter where
  id : CdmaParameterId
  octets : Octets
  length_lt : octets.length < 256

/-- A parameter at the end of a PDU, with fewer octets than its length says. -/
structure TruncatedParameter where
  id : CdmaParameterId
  declared : UInt8
  octets : Octets
  short : octets.length < declared.toNat

structure CdmaPdu where
  messageType : UInt8
  parameters : List CdmaParameter
  last : Option TruncatedParameter

def CdmaParameter.encode (p : CdmaParameter) : Octets :=
  p.id.octet :: UInt8.ofNat p.octets.length :: p.octets

def TruncatedParameter.encode (q : TruncatedParameter) : Octets := q.id.octet :: q.declared :: q.octets

/-- What is written of some parameters and of a truncated one behind them. -/
def encodeParameters (ps : List CdmaParameter) (last : Option TruncatedParameter) : Octets :=
  ps.flatMap CdmaParameter.encode ++ last.elim [] TruncatedParameter.encode

namespace CdmaPdu

def encode (pdu : CdmaPdu) : Octets :=
  pdu.messageType :: encodeParameters pdu.parameters pdu.last

def start (pdu : CdmaPdu) : CdmaParser where
  message := .new pdu.messageType.toInt8.toInt
  dis := encodeParameters pdu.parameters pdu.last

end CdmaPdu

/-! ### What the octets of a parameter say -/

def BufferedId.run (id : BufferedId) (octets : Octets) :
    EStateM.Result CdmaError CdmaDecoder Unit :=
  id.decode octets { bis := .create octets, assigned := [] }

/-- The octets decode without an exception. -/
def BufferedId.Decodes (id : BufferedId) (octets : Octets) : Prop :=
  ∃ d, id.run octets = .ok () d

/-- The value of two octets. -/
def shortValue : Octets → Option Nat
  | [high, low] => some (256 * high.toNat + low.toNat)
  | _ => none

/-- The assignments that the octets of a parameter ask for; a parameter of 16 bits has two. -/
def CdmaParameter.assignments (p : CdmaParameter) : Option (List CdmaAssignment) :=
  match p.id with
  | .teleserviceIdentifier => (shortValue p.octets).map fun value => [.teleService value]
  | .serviceCategory => (shortValue p.octets).map fun value => [.serviceCategory value]
  | .buffered id =>
    match id.run p.octets with
    | .ok _ d => some d.assigned
    | .error _ _ => none

/-- The message after some parameters, each of which decodes. -/
def messageAfter (m : CdmaSmsMessage) : List CdmaParameter → Option CdmaSmsMessage
  | [] => some m
  | p :: ps =>
    p.assignments.bind fun assignments =>
      messageAfter (assignments.foldl CdmaSmsMessage.assign m) ps

/-- The parser after some passes of the loop, all of which have ended without an exception. -/
def CdmaParser.after : Nat → CdmaParser → Option CdmaParser
  | 0, p => some p
  | k + 1, p =>
    if p.dis = [] then none
    else
      match CdmaParser.parameter p with
      | .ok _ p' => CdmaParser.after k p'
      | .error _ _ => none

/-- Each pass of the loop takes one parameter as it is declared, and what it assigns comes from the
octets of this parameter; no pass takes a truncated parameter, and the parsing does not come to its end
with one. -/
structure Independent (pdu : CdmaPdu) : Prop where
  passes : ∀ k p, CdmaParser.after k pdu.start = some p → k ≤ pdu.parameters.length ∧
    p.dis = encodeParameters (pdu.parameters.drop k) pdu.last ∧
    messageAfter pdu.start.message (pdu.parameters.take k) = some p.message
  refused : ∀ q, pdu.last = some q → ∀ p, parseCdma pdu.encode ≠ .ok () p

/-- A parameter of 16 bits is not declared otherwise where two octets are left behind its header. -/
def DeclaredWidth (p : CdmaParameter) (rest : Octets) : Prop :=
  match p.id with
  | .buffered _ => True
  | _ => 2 ≤ (p.octets ++ rest).length → p.octets.length = 2

/-- The parser stops at a truncated parameter. -/
def Detected (q : TruncatedParameter) : Prop :=
  match q.id with
  | .buffered id =>
    ¬ id.Decodes (q.octets ++ List.replicate (q.declared.toNat - q.octets.length) 0)
  | _ => q.octets.length < 2

/-- The parameters that the parser comes to, behind others that decode, have the width that it reads, and
it stops at a truncated one. -/
def Safe (m : CdmaSmsMessage) (ps : List CdmaParameter) (last : Option TruncatedParameter) : Prop :=
  (∀ done p rest, ps = done ++ p :: rest → (messageAfter m done).isSome →
    DeclaredWidth p (encodeParameters rest last)) ∧
  ∀ q, last = some q → (messageAfter m ps).isSome → Detected q

/-! ### One pass of the loop -/

namespace CdmaParser

theorem ofOctet?_octet (id : CdmaParameterId) : CdmaParameterId.ofOctet? id.octet = some id := by
  rcases id with _ | _ | id
  · rfl
  · rfl
  · cases id <;> rfl

/-- What a pass does when it has read the two octets. -/
def parameterFor (octet length : UInt8) : Option CdmaParameterId → EStateM CdmaError CdmaParser Unit
  | some id => parameterOf id length
  | none => throw (.unsupported octet)

theorem parameter_cons (octet length : UInt8) (m : CdmaSmsMessage) (tail : Octets) :
    parameter ⟨m, octet :: length :: tail⟩ =
      parameterFor octet length (CdmaParameterId.ofOctet? octet) ⟨m, tail⟩ := by
  unfold parameterFor
  rfl

theorem parameter_eq (id : CdmaParameterId) (m : CdmaSmsMessage) (length : UInt8) (tail : Octets) :
    parameter ⟨m, id.octet :: length :: tail⟩ = parameterOf id length ⟨m, tail⟩ := by
  rw [parameter_cons, ofOctet?_octet]
  rfl

theorem readUnsignedShort_cases (m : CdmaSmsMessage) (tail : Octets) :
    (tail.length < 2 ∧ readUnsignedShort ⟨m, tail⟩ = .error .endOfFile ⟨m, []⟩) ∨
      ∃ high low rest, tail = high :: low :: rest ∧
        readUnsignedShort ⟨m, tail⟩ = .ok (256 * high.toNat + low.toNat) ⟨m, rest⟩ := by
  rcases tail with _ | ⟨high, _ | ⟨low, rest⟩⟩
  · exact Or.inl ⟨by simp, rfl⟩
  · exact Or.inl ⟨by simp, rfl⟩
  · exact Or.inr ⟨high, low, rest, rfl, rfl⟩

theorem parameterOf_buffered (id : BufferedId) (m : CdmaSmsMessage) (length : UInt8)
    (tail : Octets) :
    parameterOf (.buffered id) length ⟨m, tail⟩ =
      decodeData id (tail.take length.toNat ++
        List.replicate (length.toNat - (tail.take length.toNat).length) 0)
        ⟨m, tail.drop length.toNat⟩ :=
  rfl

theorem decodeData_of_run {id : BufferedId} {data : Octets} {d : CdmaDecoder}
    (h : id.run data = .ok () d) (p : CdmaParser) :
    decodeData id data p =
      .ok () { p with message := d.assigned.foldl CdmaSmsMessage.assign p.message } := by
  unfold BufferedId.run at h
  rw [decodeData, h]

theorem decodeData_of_not_decodes {id : BufferedId} {data : Octets} (h : ¬ id.Decodes data)
    (p : CdmaParser) : ∃ e p', decodeData id data p = .error e p' := by
  cases hrun : id.run data with
  | ok _ d => exact absurd ⟨d, hrun⟩ h
  | error e d =>
    unfold BufferedId.run at hrun
    rw [decodeData, hrun]
    exact ⟨_, _, rfl⟩

/-- What the pass of the loop at a complete parameter may do: it stops, it takes the parameter, or it
goes on somewhere else. -/
inductive Pass (m : CdmaSmsMessage) (p : CdmaParameter) (tail : Octets) : Prop where
  | stopped (h : ∃ e p', parameter ⟨m, p.encode ++ tail⟩ = .error e p')
      (hassignments : p.assignments = none) (hwidth : DeclaredWidth p tail)
  | taken (assignments : List CdmaAssignment) (hassignments : p.assignments = some assignments)
      (h : parameter ⟨m, p.encode ++ tail⟩ =
        .ok () ⟨assignments.foldl CdmaSmsMessage.assign m, tail⟩)
      (hwidth : DeclaredWidth p tail)
  | displaced (m' : CdmaSmsMessage) (rest : Octets)
      (h : parameter ⟨m, p.encode ++ tail⟩ = .ok () ⟨m', rest⟩) (hrest : rest.length ≠ tail.length)
      (hwidth : ¬ DeclaredWidth p tail)

theorem shortValue_of_length {octets : Octets} (h : octets.length ≠ 2) : shortValue octets = none := by
  rcases octets with _ | ⟨a, _ | ⟨b, _ | ⟨c, rest⟩⟩⟩
  · rfl
  · rfl
  · exact absurd rfl h
  · rfl

theorem pass_short (m : CdmaSmsMessage) {p : CdmaParameter} (tail : Octets)
    (field : Nat → CdmaAssignment)
    (hparse : ∀ q, parameterOf p.id (UInt8.ofNat p.octets.length) q =
      (readUnsignedShort >>= fun value => assign (field value)) q)
    (hassignments : p.assignments = (shortValue p.octets).map fun value => [field value])
    (hwidth : DeclaredWidth p tail ↔ (2 ≤ (p.octets ++ tail).length → p.octets.length = 2)) :
    Pass m p tail := by
  have hrun : parameter ⟨m, p.encode ++ tail⟩ =
      (readUnsignedShort >>= fun value => assign (field value)) ⟨m, p.octets ++ tail⟩ := by
    rw [← hparse, ← parameter_eq]
    rfl
  rcases readUnsignedShort_cases m (p.octets ++ tail) with ⟨hshort, hread⟩ |
    ⟨high, low, rest, htail, hread⟩
  · have hne : p.octets.length ≠ 2 := by
      rw [List.length_append] at hshort
      omega
    refine .stopped ⟨.endOfFile, ⟨m, []⟩, ?_⟩ ?_ (hwidth.mpr fun h => absurd h (by omega))
    · simp only [hrun, bind, EStateM.bind, hread]
    · rw [hassignments, shortValue_of_length hne]
      rfl
  · have htaken : parameter ⟨m, p.encode ++ tail⟩ =
        .ok () ⟨m.assign (field (256 * high.toNat + low.toNat)), rest⟩ := by
      simp only [hrun, bind, EStateM.bind, hread]
      rfl
    have hlengths := congrArg List.length htail
    rw [List.length_append, List.length_cons, List.length_cons] at hlengths
    rcases Nat.decEq p.octets.length 2 with hne | heq
    · refine .displaced _ rest htaken (by omega) fun h => hne (hwidth.mp h ?_)
      rw [List.length_append]
      omega
    · obtain ⟨a, b, hoctets⟩ := List.length_eq_two.mp heq
      rw [hoctets] at htail
      change a :: b :: tail = high :: low :: rest at htail
      cases htail
      refine .taken [field (256 * high.toNat + low.toNat)] ?_ htaken (hwidth.mpr fun _ => heq)
      rw [hassignments, hoctets]
      rfl

theorem pass_buffered (m : CdmaSmsMessage) (id : BufferedId) {octets : Octets}
    (hlength : octets.length < 256) (tail : Octets) : Pass m ⟨.buffered id, octets, hlength⟩ tail := by
  have hcount : (UInt8.ofNat octets.length).toNat = octets.length := by
    rw [UInt8.toNat_ofNat', Nat.mod_eq_of_lt hlength]
  have hrun : parameter ⟨m, CdmaParameter.encode ⟨.buffered id, octets, hlength⟩ ++ tail⟩ =
      decodeData id octets ⟨m, tail⟩ := by
    change parameter ⟨m, (CdmaParameterId.buffered id).octet :: UInt8.ofNat octets.length ::
      (octets ++ tail)⟩ = _
    rw [parameter_eq, parameterOf_buffered, hcount, List.take_left, List.drop_left, Nat.sub_self,
      List.replicate_zero, List.append_nil]
  cases hdata : id.run octets with
  | ok _ d =>
    refine .taken d.assigned ?_ ?_ trivial
    · simp only [CdmaParameter.assignments, hdata]
    · rw [hrun, decodeData_of_run hdata]
  | error e d =>
    refine .stopped ?_ ?_ trivial
    · rw [hrun]
      apply decodeData_of_not_decodes
      rintro ⟨d', hd'⟩
      cases hdata.symm.trans hd'
    · simp only [CdmaParameter.assignments, hdata]

theorem pass (m : CdmaSmsMessage) (p : CdmaParameter) (tail : Octets) : Pass m p tail := by
  obtain ⟨id, octets, hlength⟩ := p
  rcases id with _ | _ | id
  · exact pass_short m tail .teleService (fun _ => rfl) rfl Iff.rfl
  · exact pass_short m tail .serviceCategory (fun _ => rfl) rfl Iff.rfl
  · exact pass_buffered m id hlength tail

theorem detected_iff (m : CdmaSmsMessage) (q : TruncatedParameter) :
    Detected q ↔ ∃ e p, parameter ⟨m, q.encode⟩ = .error e p := by
  obtain ⟨id, declared, octets, hshort⟩ := q
  change _ ↔ ∃ e p, parameter ⟨m, id.octet :: declared :: octets⟩ = .error e p
  rw [parameter_eq]
  have htwo : ∀ field : Nat → CdmaAssignment, octets.length < 2 ↔
      ∃ e p, (readUnsignedShort >>= fun value => assign (field value)) ⟨m, octets⟩ = .error e p := by
    intro field
    rcases readUnsignedShort_cases m octets with ⟨hlt, hread⟩ | ⟨high, low, rest, rfl, hread⟩
    · refine ⟨fun _ => ⟨.endOfFile, ⟨m, []⟩, ?_⟩, fun _ => hlt⟩
      simp only [bind, EStateM.bind, hread]
    · refine ⟨fun h => absurd h (by simp), ?_⟩
      rintro ⟨e, p, herror⟩
      simp only [bind, EStateM.bind, hread] at herror
      cases herror
  rcases id with _ | _ | id
  · exact htwo .teleService
  · exact htwo .serviceCategory
  · rw [parameterOf_buffered, List.take_of_length_le (Nat.le_of_lt hshort)]
    constructor
    · exact fun h => decodeData_of_not_decodes h _
    · rintro ⟨e, p, herror⟩ ⟨d, hd⟩
      cases (decodeData_of_run hd _).symm.trans herror

end CdmaParser

/-! ### The whole loop -/

open CdmaParser

theorem encodeParameters_cons (p : CdmaParameter) (ps : List CdmaParameter)
    (last : Option TruncatedParameter) :
    encodeParameters (p :: ps) last = p.encode ++ encodeParameters ps last :=
  List.append_assoc _ _ _

theorem messageAfter_cons {p : CdmaParameter} {assignments : List CdmaAssignment}
    (h : p.assignments = some assignments) (m : CdmaSmsMessage) (ps : List CdmaParameter) :
    messageAfter m (p :: ps) =
      messageAfter (assignments.foldl CdmaSmsMessage.assign m) ps := by
  rw [messageAfter, h]
  rfl

theorem messageAfter_cons_none {p : CdmaParameter} (h : p.assignments = none) (m : CdmaSmsMessage)
    (ps : List CdmaParameter) : messageAfter m (p :: ps) = none := by
  rw [messageAfter, h]
  rfl

/-- What `Independent` says of the passes, from any message on. -/
def Passes (m : CdmaSmsMessage) (ps : List CdmaParameter) (last : Option TruncatedParameter) : Prop :=
  ∀ k p, after k ⟨m, encodeParameters ps last⟩ = some p → k ≤ ps.length ∧
    p.dis = encodeParameters (ps.drop k) last ∧ messageAfter m (ps.take k) = some p.message

theorem after_succ_of_ok {k : Nat} {p p' : CdmaParser} (hp : p.dis ≠ [])
    (h : parameter p = .ok () p') : after (k + 1) p = after k p' := by
  rw [after, if_neg hp, h]

theorem after_succ_of_error {k : Nat} {p p' : CdmaParser} {e : CdmaError}
    (h : parameter p = .error e p') : after (k + 1) p = none := by
  rw [after]
  split
  · rfl
  · rw [h]

theorem passes_nil_iff (m : CdmaSmsMessage) (last : Option TruncatedParameter) :
    Passes m [] last ↔ ∀ q, last = some q → Detected q := by
  constructor
  · rintro h q rfl
    rw [detected_iff m]
    cases hrun : parameter ⟨m, q.encode⟩ with
    | error e p => exact ⟨e, p, rfl⟩
    | ok _ p =>
      have hafter : after 1 ⟨m, encodeParameters [] (some q)⟩ = some p :=
        after_succ_of_ok (List.cons_ne_nil _ _) hrun
      exact absurd (h 1 p hafter).1 (by simp)
  · intro h k p hafter
    cases k with
    | zero =>
      cases hafter
      exact ⟨Nat.le_refl _, rfl, rfl⟩
    | succ k =>
      cases last with
      | none => cases hafter
      | some q =>
        obtain ⟨e, p', herror⟩ := (detected_iff m q).mp (h q rfl)
        have hstop : after (k + 1) ⟨m, encodeParameters [] (some q)⟩ = none :=
          after_succ_of_error herror
        cases hstop.symm.trans hafter

theorem safe_cons_iff {m : CdmaSmsMessage} {p : CdmaParameter} {ps : List CdmaParameter}
    {last : Option TruncatedParameter} :
    Safe m (p :: ps) last ↔ DeclaredWidth p (encodeParameters ps last) ∧
      ∀ assignments, p.assignments = some assignments →
        Safe (assignments.foldl CdmaSmsMessage.assign m) ps last := by
  constructor
  · rintro ⟨hwidths, hlast⟩
    refine ⟨hwidths [] p ps rfl rfl, fun assignments hp => ⟨?_, ?_⟩⟩
    · rintro done p' rest rfl hdone
      refine hwidths (p :: done) p' rest rfl ?_
      rw [messageAfter_cons hp]
      exact hdone
    · intro q hq hsome
      refine hlast q hq ?_
      rw [messageAfter_cons hp]
      exact hsome
  · rintro ⟨hwidth, hnext⟩
    refine ⟨?_, ?_⟩
    · intro done p' rest heq hdone
      rcases done with _ | ⟨d, done⟩
      · cases heq
        exact hwidth
      · cases heq
        cases hp : p.assignments with
        | none =>
          rw [messageAfter_cons_none hp] at hdone
          cases hdone
        | some assignments =>
          rw [messageAfter_cons hp] at hdone
          exact (hnext assignments hp).1 done p' rest rfl hdone
    · intro q hq hsome
      cases hp : p.assignments with
      | none =>
        rw [messageAfter_cons_none hp] at hsome
        cases hsome
      | some assignments =>
        rw [messageAfter_cons hp] at hsome
        exact (hnext assignments hp).2 q hq hsome

/-- The passes go from parameter to parameter exactly when the parameters are safe. -/
theorem passes_iff_safe (m : CdmaSmsMessage) (ps : List CdmaParameter)
    (last : Option TruncatedParameter) : Passes m ps last ↔ Safe m ps last := by
  induction ps generalizing m with
  | nil =>
    rw [passes_nil_iff]
    constructor
    · refine fun h => ⟨?_, fun q hq _ => h q hq⟩
      intro done p rest heq
      exact absurd heq (by simp)
    · exact fun h q hq => h.2 q hq rfl
  | cons p ps ih =>
    rw [safe_cons_iff]
    have hdis : ∀ m', (⟨m', encodeParameters (p :: ps) last⟩ : CdmaParser) =
        ⟨m', p.encode ++ encodeParameters ps last⟩ := fun m' => by rw [encodeParameters_cons]
    have hne : p.encode ++ encodeParameters ps last ≠ [] := List.cons_ne_nil _ _
    cases pass m p (encodeParameters ps last) with
    | stopped h hassignments hwidth =>
      obtain ⟨e, p', herror⟩ := h
      constructor
      · refine fun _ => ⟨hwidth, fun assignments hsome => ?_⟩
        cases hassignments.symm.trans hsome
      · intro _ k p'' hafter
        cases k with
        | zero =>
          cases hafter
          exact ⟨Nat.zero_le _, rfl, rfl⟩
        | succ k =>
          rw [hdis, after_succ_of_error herror] at hafter
          cases hafter
    | taken assignments hassignments h hwidth =>
      have hsucc : ∀ k, after (k + 1) ⟨m, encodeParameters (p :: ps) last⟩ =
          after k ⟨assignments.foldl CdmaSmsMessage.assign m, encodeParameters ps last⟩ := fun k => by
        rw [hdis, after_succ_of_ok hne h]
      have hpasses : Passes m (p :: ps) last ↔
          Passes (assignments.foldl CdmaSmsMessage.assign m) ps last := by
        constructor
        · intro hp k p' hafter
          obtain ⟨hle, hrest, hmessage⟩ := hp (k + 1) p' ((hsucc k).trans hafter)
          rw [List.take_succ_cons, messageAfter_cons hassignments] at hmessage
          exact ⟨Nat.le_of_succ_le_succ hle, hrest, hmessage⟩
        · intro hps k p' hafter
          cases k with
          | zero =>
            cases hafter
            exact ⟨Nat.zero_le _, rfl, rfl⟩
          | succ k =>
            obtain ⟨hle, hrest, hmessage⟩ := hps k p' ((hsucc k).symm.trans hafter)
            rw [List.take_succ_cons, messageAfter_cons hassignments]
            exact ⟨Nat.succ_le_succ hle, hrest, hmessage⟩
      rw [hpasses, ih]
      constructor
      · refine fun hsafe => ⟨hwidth, fun assignments' hsome => ?_⟩
        cases hassignments.symm.trans hsome
        exact hsafe
      · exact fun hsafe => hsafe.2 assignments hassignments
    | displaced m' rest h hrest hwidth =>
      constructor
      · intro hpasses
        have hafter : after 1 ⟨m, encodeParameters (p :: ps) last⟩ = some ⟨m', rest⟩ := by
          rw [hdis, after_succ_of_ok hne h]
          rfl
        obtain ⟨-, hdrop, -⟩ := hpasses 1 _ hafter
        exact absurd (congrArg List.length hdrop) hrest
      · exact fun hsafe => absurd hsafe.1 hwidth

/-! ### The end of the parsing -/

theorem dis_of_decodeData {id : BufferedId} {data : Octets} {p p' : CdmaParser}
    (h : decodeData id data p = .ok () p') : p'.dis = p.dis := by
  unfold decodeData at h
  split at h
  · cases h
    rfl
  · cases h

theorem length_of_parameterOf {id : CdmaParameterId} {length : UInt8} {p p' : CdmaParser}
    (h : parameterOf id length p = .ok () p') : p'.dis.length ≤ p.dis.length := by
  have hshort : ∀ field : Nat → CdmaAssignment,
      (readUnsignedShort >>= fun value => assign (field value)) p = .ok () p' →
      p'.dis.length ≤ p.dis.length := by
    intro field hrun
    obtain ⟨m, tail⟩ := p
    rcases readUnsignedShort_cases m tail with ⟨-, hread⟩ | ⟨high, low, rest, rfl, hread⟩
    · simp only [bind, EStateM.bind, hread] at hrun
      cases hrun
    · simp only [bind, EStateM.bind, hread] at hrun
      cases hrun
      exact Nat.le_trans (Nat.le_succ _) (Nat.le_succ _)
  rcases id with _ | _ | id
  · exact hshort .teleService h
  · exact hshort .serviceCategory h
  · rw [parameterOf_buffered id p.message length p.dis] at h
    rw [dis_of_decodeData h, List.length_drop]
    exact Nat.sub_le _ _

theorem length_of_parameter {p p' : CdmaParser} (h : parameter p = .ok () p') :
    p'.dis.length < p.dis.length := by
  obtain ⟨m, dis⟩ := p
  rcases dis with _ | ⟨octet, _ | ⟨length, tail⟩⟩
  · cases h
  · cases h
  · rw [parameter_cons] at h
    cases hid : CdmaParameterId.ofOctet? octet with
    | none =>
      rw [hid] at h
      cases h
    | some id =>
      rw [hid] at h
      have hle := length_of_parameterOf h
      exact Nat.lt_succ_of_lt (Nat.lt_succ_of_le hle)

/-- The parsing consists of the passes that end without an exception, and of a last one where there is
one that does not. -/
theorem parameters_eq (n : Nat) (p : CdmaParser) (hn : p.dis.length ≤ n) :
    ∃ k p', after k p = some p' ∧ (p'.dis = [] ∧ parameters n p = .ok () p' ∨
      ∃ e p'', parameter p' = .error e p'' ∧ parameters n p = .error e p'') := by
  induction n generalizing p with
  | zero => exact ⟨0, p, rfl, Or.inl ⟨List.eq_nil_of_length_eq_zero (Nat.le_zero.mp hn), rfl⟩⟩
  | succ n ih =>
    rcases hdis : p.dis with _ | ⟨octet, dis⟩
    · refine ⟨0, p, rfl, Or.inl ⟨hdis, ?_⟩⟩
      change (if p.dis = [] then (pure () : EStateM CdmaError CdmaParser Unit)
        else (do parameter; parameters n)) p = _
      rw [if_pos hdis]
      rfl
    · have hne : p.dis ≠ [] := by
        rw [hdis]
        exact List.cons_ne_nil _ _
      have hloop : parameters (n + 1) p = (do parameter; parameters n) p := by
        change (if p.dis = [] then (pure () : EStateM CdmaError CdmaParser Unit)
          else (do parameter; parameters n)) p = _
        rw [if_neg hne]
      cases hrun : parameter p with
      | error e p'' =>
        refine ⟨0, p, rfl, Or.inr ⟨e, p'', hrun, ?_⟩⟩
        rw [hloop]
        simp only [bind, EStateM.bind, hrun]
      | ok _ p₁ =>
        have hlt := length_of_parameter hrun
        obtain ⟨k, p', hafter, hend⟩ := ih p₁ (by omega)
        refine ⟨k + 1, p', (after_succ_of_ok hne hrun).trans hafter, ?_⟩
        have hnext : parameters (n + 1) p = parameters n p₁ := by
          rw [hloop]
          simp only [bind, EStateM.bind, hrun]
        rw [hnext]
        exact hend

/-- The parameters of a PDU are parsed independently of each other exactly when each one that the parser
comes to has the width that is read, and a truncated one stops the parser. -/
theorem independent_iff (pdu : CdmaPdu) :
    Independent pdu ↔ Safe pdu.start.message pdu.parameters pdu.last := by
  rw [← passes_iff_safe]
  constructor
  · exact fun h => h.passes
  · intro h
    refine ⟨h, ?_⟩
    intro q hq p hparse
    obtain ⟨k, p', hafter, hend⟩ := parameters_eq _ pdu.start (Nat.le_refl _)
    have hloop : parameters pdu.start.dis.length pdu.start = .ok () p := hparse
    rcases hend with ⟨hdis, -⟩ | ⟨e, p'', -, herror⟩
    · obtain ⟨-, hrest, -⟩ := h k p' hafter
      rw [hdis, hq] at hrest
      have hlength := congrArg List.length hrest
      unfold encodeParameters TruncatedParameter.encode at hlength
      simp at hlength
    · cases herror.symm.trans hloop

/-- A teleservice identifier of one octet in front of bearer data. -/
def narrowTeleservice : CdmaPdu where
  messageType := 0x00
  parameters :=
    [⟨.teleserviceIdentifier, [0x10], Nat.le_of_ble_eq_true rfl⟩,
      ⟨.buffered .bearerData, [0x55], Nat.le_of_ble_eq_true rfl⟩]
  last := none

/-- The identifier takes the header of the bearer data along. -/
theorem not_independent : ¬ ∀ pdu : CdmaPdu, Independent pdu := by
  intro h
  have hafter : after 1 narrowTeleservice.start =
      some ⟨narrowTeleservice.start.message.assign (.teleService 0x1008), [0x01, 0x55]⟩ := by
    decide
  have hrest := ((h narrowTeleservice).passes 1 _ hafter).2.1
  exact absurd (congrArg List.length hrest) (by decide)

end ImsStack.Sms
