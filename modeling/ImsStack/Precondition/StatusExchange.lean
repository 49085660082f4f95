import ImsStack.Library.TransitionSystem
import ImsStack.Precondition.QosStatusTable
import Mathlib.Logic.Function.Basic

/-!
Two endpoints that exchange the preconditions of one media in strict alternation.  Each
table stays of one form: both directions are desired on both sides, and a current status is
either none or both directions.
-/

namespace ImsStack.Precondition

open TransitionSystem

namespace Records

/-- A direction tag that is either none or both directions. -/
def directionOf (b : Bool) : Direction := if b then .sendrecv else .none

/-- The strength of what the other side desires, which its first body makes mandatory. -/
def remoteStrength (bMandatory : Bool) : Strength := if bMandatory then .mandatory else .optional

/-- The records of an endpoint: its current status, what it knows of the other side's, and
whether the other side's strength has been heard. -/
def exchanged (bLocal bRemote bHeard bChecked bConfirmed : Bool) : List QosStatusRecord :=
  [⟨.curr, .statusLocal, directionOf bLocal, .notUsed, false, bConfirmed⟩,
    ⟨.curr, .statusRemote, directionOf bRemote, .notUsed, false, false⟩,
    ⟨.des, .statusLocal, .send, .mandatory, bChecked, false⟩,
    ⟨.des, .statusLocal, .recv, .mandatory, bChecked, false⟩,
    ⟨.des, .statusRemote, .send, remoteStrength bHeard, bChecked, false⟩,
    ⟨.des, .statusRemote, .recv, remoteStrength bHeard, bChecked, false⟩,
    ⟨.conf, .statusRemote, .sendrecv, .notUsed, false, false⟩]

theorem isCurrentStatusEnabled_local (l r h c k : Bool) :
    isCurrentStatusEnabled (exchanged l r h c k) .statusLocal = l := by
  revert l r h c k
  decide

theorem isCurrentStatusEnabled_remote (l r h c k : Bool) :
    isCurrentStatusEnabled (exchanged l r h c k) .statusRemote = r := by
  revert l r h c k
  decide

theorem updateLocalCurrentStatus_exchanged (l r h c k b : Bool) :
    updateLocalCurrentStatus (exchanged l r h c k) b = exchanged b r h c k := by
  revert l r h c k b
  decide

theorem formCurrentAttribute_exchanged (l r h c k : Bool) :
    formCurrentAttribute (exchanged l r h c k) =
      (some ⟨[⟨directionOf l, .notUsed⟩], [⟨directionOf r, .notUsed⟩]⟩,
        exchanged l r h c l) := by
  revert l r h c k
  decide

theorem formDesiredAttribute_exchanged (l r h c k : Bool) :
    formDesiredAttribute (exchanged l r h c k) =
      some ⟨[⟨.sendrecv, .mandatory⟩], [⟨.sendrecv, remoteStrength h⟩]⟩ := by
  revert l r h c k
  decide

/-- The receiver takes what is local to the sender as remote, and the other way round. -/
theorem updateDesiredStatus_exchanged (l r h c k h' : Bool) :
    updateDesiredStatus (initializeDesChecked (exchanged l r h c k))
        (some ⟨[⟨.sendrecv, .mandatory⟩], [⟨.sendrecv, remoteStrength h'⟩]⟩) =
      exchanged l r true true k := by
  revert l r h c k h'
  decide

theorem updateCurrentStatus_exchanged (l r h c k l' r' : Bool) :
    updateCurrentStatus (initializeDesChecked (exchanged l r h c k))
        (some ⟨[⟨directionOf l', .notUsed⟩], [⟨directionOf r', .notUsed⟩]⟩) =
      initializeDesChecked (exchanged l (r || l') h c k) := by
  revert l r h c k l' r'
  decide

theorem getStrengthTag_exchanged (l r h c k : Bool) (eStatusType : StatusType)
    (eDirTag : Direction) :
    getStrengthTag (exchanged l r h c k) eStatusType eDirTag =
      getStrengthTag (exchanged false false h false false) eStatusType eDirTag := by
  revert l r h c k
  cases eStatusType <;> cases eDirTag <;> decide

theorem getStrengthTag_heard {h h' : Bool} (hheard : h = true → h' = true)
    {eStatusType : StatusType} {eDirTag : Direction}
    (hmandatory : getStrengthTag (exchanged false false h false false) eStatusType eDirTag =
      .mandatory) :
    getStrengthTag (exchanged false false h' false false) eStatusType eDirTag = .mandatory := by
  cases h with
  | true =>
      rw [hheard rfl]
      exact hmandatory
  | false =>
      revert h'
      cases eStatusType <;> cases eDirTag <;> first | decide | cases hmandatory

end Records

inductive Endpoint where
  | first | second
  deriving DecidableEq, Repr

def Endpoint.other : Endpoint → Endpoint
  | .first => .second
  | .second => .first

/-- The preconditions of a body, with what its sender had when it was formed. -/
structure FormedBody where
  media : SdpMedia
  /-- `IsCurrentStatusEnabled` for the sender's local status. -/
  bLocalEnabled : Bool
  /-- The sender's resource was available. -/
  bReserved : Bool
  deriving DecidableEq, Repr

/-- One endpoint: its table, whether its resource is available, and the bodies it has
received. -/
structure Side where
  table : QosStatusTable
  bReserved : Bool
  received : List FormedBody
  deriving DecidableEq, Repr

/-- Two endpoints, the one whose turn it is to send, and the body on its way. -/
structure StatusExchange where
  sides : Endpoint → Side
  turn : Endpoint
  inFlight : Option FormedBody

inductive ExchangeEvent where
  /-- The resource of an endpoint becomes available or is lost. -/
  | localStatus (e : Endpoint) (bLocalQosEnabled : Bool)
  | send (nPort : Int) (bUseConf : Bool)
  | receive

namespace StatusExchange

variable (eSdpMediaType : SdpMediaType)

/-- `UpdateLocalCurrentStatus` of an endpoint. -/
def localStatus (x : StatusExchange) (e : Endpoint) (bLocalQosEnabled : Bool) :
    StatusExchange :=
  { x with
    sides := Function.update x.sides e
      { x.sides e with
        table := (x.sides e).table.updateLocalCurrentStatus eSdpMediaType bLocalQosEnabled
        bReserved := bLocalQosEnabled } }

/-- The endpoint whose turn it is forms a body. -/
def send (x : StatusExchange) (nPort : Int) (bUseConf : Bool) : StatusExchange :=
  let s := x.sides x.turn
  { x with
    sides := Function.update x.sides x.turn
      { s with table := (s.table.formAttributes eSdpMediaType nPort bUseConf).2 }
    inFlight := some
      { media := (s.table.formAttributes eSdpMediaType nPort bUseConf).1
        bLocalEnabled := s.table.isCurrentStatusEnabled eSdpMediaType .statusLocal
        bReserved := s.bReserved } }

/-- The body on its way is applied, and its receiver is the next to send. -/
def receive (x : StatusExchange) (body : FormedBody) : StatusExchange :=
  let s := x.sides x.turn.other
  { sides := Function.update x.sides x.turn.other
      { s with
        table := s.table.updateStatusTableWithRemoteSdp body.media
        received := s.received ++ [body] }
    turn := x.turn.other
    inFlight := none }

inductive Step : StatusExchange → ExchangeEvent → StatusExchange → Prop where
  | localStatus {x : StatusExchange} (e : Endpoint) (bLocalQosEnabled : Bool) :
      Step x (.localStatus e bLocalQosEnabled) (x.localStatus eSdpMediaType e bLocalQosEnabled)
  | send {x : StatusExchange} {nPort : Int} {bUseConf : Bool} :
      x.inFlight = none → 0 < nPort →
      Step x (.send nPort bUseConf) (x.send eSdpMediaType nPort bUseConf)
  | receive {x : StatusExchange} {body : FormedBody} :
      x.inFlight = some body → Step x .receive (x.receive body)

/-- Two endpoints whose tables have been initialised for the media. -/
def exchanges : System StatusExchange ExchangeEvent where
  Init x := x.inFlight = none ∧ ∀ e, ∃ t : QosStatusTable,
    x.sides e = ⟨t.initializeRecords eSdpMediaType, false, []⟩
  Step := Step eSdpMediaType

end StatusExchange

variable {eSdpMediaType : SdpMediaType}

/-- A body as the sender's records form it. -/
def FormedBody.Formed (eSdpMediaType : SdpMediaType) (body : FormedBody) : Prop :=
  body.bLocalEnabled = body.bReserved ∧
    ∃ nPort r h conf, 0 < nPort ∧
      body.media =
        { eType := eSdpMediaType
          nPort := nPort
          curr := some ⟨[⟨Records.directionOf body.bReserved, .notUsed⟩],
            [⟨Records.directionOf r, .notUsed⟩]⟩
          des := some ⟨[⟨.sendrecv, .mandatory⟩], [⟨.sendrecv, Records.remoteStrength h⟩]⟩
          conf := conf }

/-- The remote status of the table is the status of the bodies received. -/
def Side.Consistent (eSdpMediaType : SdpMediaType) (s : Side) : Prop :=
  (∀ body ∈ s.received, body.bLocalEnabled = body.bReserved) ∧
    ∃ c k, s.table.getRecords eSdpMediaType =
      Records.exchanged s.bReserved (s.received.any FormedBody.bReserved)
        (!s.received.isEmpty) c k

namespace Side

theorem Consistent.initial (hmedia : eSdpMediaType ≠ .invalid) (t : QosStatusTable) :
    (⟨t.initializeRecords eSdpMediaType, false, []⟩ : Side).Consistent eSdpMediaType := by
  constructor
  · intro body hbody
    cases hbody
  · refine ⟨false, false, ?_⟩
    exact t.getRecords_modifyRecords hmedia _

theorem Consistent.localStatus {s : Side} (hs : s.Consistent eSdpMediaType)
    (hmedia : eSdpMediaType ≠ .invalid) (b : Bool) :
    (⟨s.table.updateLocalCurrentStatus eSdpMediaType b, b, s.received⟩ : Side).Consistent
      eSdpMediaType := by
  obtain ⟨hreceived, c, k, hrecords⟩ := hs
  refine ⟨hreceived, c, k, ?_⟩
  show (s.table.modifyRecords eSdpMediaType _).getRecords eSdpMediaType = _
  rw [QosStatusTable.getRecords_modifyRecords _ hmedia, hrecords,
    Records.updateLocalCurrentStatus_exchanged]

theorem Consistent.formed {s : Side} (hs : s.Consistent eSdpMediaType)
    (hmedia : eSdpMediaType ≠ .invalid) {nPort : Int} (hport : 0 < nPort) (bUseConf : Bool) :
    (⟨(s.table.formAttributes eSdpMediaType nPort bUseConf).2, s.bReserved, s.received⟩ :
        Side).Consistent eSdpMediaType ∧
      (⟨(s.table.formAttributes eSdpMediaType nPort bUseConf).1,
        s.table.isCurrentStatusEnabled eSdpMediaType .statusLocal, s.bReserved⟩ :
        FormedBody).Formed eSdpMediaType := by
  obtain ⟨hreceived, c, k, hrecords⟩ := hs
  constructor
  · refine ⟨hreceived, c, s.bReserved, ?_⟩
    show (s.table.modifyRecords eSdpMediaType _).getRecords eSdpMediaType = _
    rw [QosStatusTable.getRecords_modifyRecords _ hmedia, hrecords,
      Records.formCurrentAttribute_exchanged]
  · constructor
    · show Records.isCurrentStatusEnabled (s.table.getRecords eSdpMediaType) .statusLocal = _
      rw [hrecords, Records.isCurrentStatusEnabled_local]
    · refine ⟨nPort, s.received.any FormedBody.bReserved, !s.received.isEmpty,
        Records.formConfirmAttribute (Records.exchanged s.bReserved
          (s.received.any FormedBody.bReserved) (!s.received.isEmpty) c s.bReserved) bUseConf,
        hport, ?_⟩
      unfold QosStatusTable.formAttributes
      rw [hrecords, Records.formCurrentAttribute_exchanged]
      simp only [Records.formDesiredAttribute_exchanged]

theorem Consistent.receive {s : Side} (hs : s.Consistent eSdpMediaType)
    (hmedia : eSdpMediaType ≠ .invalid) {body : FormedBody}
    (hbody : body.Formed eSdpMediaType) :
    (⟨s.table.updateStatusTableWithRemoteSdp body.media, s.bReserved, s.received ++ [body]⟩ :
      Side).Consistent eSdpMediaType := by
  obtain ⟨hreceived, c, k, hrecords⟩ := hs
  obtain ⟨henabled, nPort, r, h, conf, hport, hmediaLine⟩ := hbody
  constructor
  · intro body' hbody'
    rcases List.mem_append.mp hbody' with hold | hnew
    · exact hreceived body' hold
    · rw [List.mem_singleton.mp hnew]
      exact henabled
  · refine ⟨true, k, ?_⟩
    have hupdate : s.table.updateStatusTableWithRemoteSdp body.media =
        s.table.modifyRecords eSdpMediaType fun records =>
          Records.updateWithRemoteSdp records body.media := by
      unfold QosStatusTable.updateStatusTableWithRemoteSdp
      rw [hmediaLine]
      exact if_neg (Int.not_le.mpr hport)
    show (s.table.updateStatusTableWithRemoteSdp body.media).getRecords eSdpMediaType = _
    rw [hupdate, QosStatusTable.getRecords_modifyRecords _ hmedia, hrecords, hmediaLine]
    unfold Records.updateWithRemoteSdp
    rw [Records.updateCurrentStatus_exchanged, Records.updateDesiredStatus_exchanged,
      List.any_append]
    have hheard : (!(s.received ++ [body]).isEmpty) = true := by
      cases s.received <;> rfl
    rw [hheard]
    simp only [List.any_cons, List.any_nil, Bool.or_false]

end Side

namespace StatusExchange

/-- Both sides are consistent, and a body on its way is what its sender's records form. -/
def Consistent (eSdpMediaType : SdpMediaType) (x : StatusExchange) : Prop :=
  (∀ e, (x.sides e).Consistent eSdpMediaType) ∧
    ∀ body, x.inFlight = some body → body.Formed eSdpMediaType

theorem consistent_update {x : StatusExchange} (hx : ∀ e, (x.sides e).Consistent eSdpMediaType)
    (e : Endpoint) {s : Side} (hs : s.Consistent eSdpMediaType) (e' : Endpoint) :
    (Function.update x.sides e s e').Consistent eSdpMediaType := by
  rcases eq_or_ne e' e with rfl | hne
  · rw [Function.update_self]
    exact hs
  · rw [Function.update_of_ne hne]
    exact hx e'

theorem Consistent.step {x x' : StatusExchange} {event : ExchangeEvent}
    (hx : x.Consistent eSdpMediaType) (hmedia : eSdpMediaType ≠ .invalid)
    (hstep : Step eSdpMediaType x event x') : x'.Consistent eSdpMediaType := by
  obtain ⟨hsides, hflight⟩ := hx
  cases hstep with
  | localStatus e b =>
      exact ⟨consistent_update hsides e ((hsides e).localStatus hmedia b), hflight⟩
  | send hnone hport =>
      obtain ⟨hside, hbody⟩ := (hsides x.turn).formed hmedia hport _
      constructor
      · exact consistent_update hsides x.turn hside
      · rintro body ⟨⟩
        exact hbody
  | receive hsome =>
      constructor
      · exact consistent_update hsides _ ((hsides _).receive hmedia (hflight _ hsome))
      · rintro body ⟨⟩

theorem consistent_of_reachable (hmedia : eSdpMediaType ≠ .invalid) {x : StatusExchange}
    (hx : (exchanges eSdpMediaType).Reachable x) : x.Consistent eSdpMediaType := by
  apply System.Reachable.invariant (I := Consistent eSdpMediaType) _ _ hx
  · rintro x ⟨hnone, hinit⟩
    constructor
    · intro e
      obtain ⟨t, ht⟩ := hinit e
      rw [ht]
      exact .initial hmedia t
    · intro body hbody
      rw [hnone] at hbody
      cases hbody
  · intro x e x' hx hstep
    exact hx.step hmedia hstep

theorem received_update {x : StatusExchange} {e : Endpoint} {s : Side}
    (hs : (x.sides e).received <+: s.received) (e' : Endpoint) :
    (x.sides e').received <+: (Function.update x.sides e s e').received := by
  rcases eq_or_ne e' e with rfl | hne
  · rw [Function.update_self]
    exact hs
  · have hkept : Function.update x.sides e s e' = x.sides e' := Function.update_of_ne hne _ _
    exact hkept ▸ List.prefix_refl _

theorem received_prefix {x x' : StatusExchange} {event : ExchangeEvent}
    (hstep : Step eSdpMediaType x event x') (e : Endpoint) :
    (x.sides e).received <+: (x'.sides e).received := by
  cases hstep with
  | localStatus e' b =>
      apply received_update
      exact List.prefix_refl _
  | send hnone hport =>
      apply received_update
      exact List.prefix_refl _
  | receive hsome =>
      apply received_update
      exact List.prefix_append _ _

theorem isCurrentStatusEnabled_eq {x : StatusExchange} (hx : x.Consistent eSdpMediaType)
    (e : Endpoint) :
    (x.sides e).table.isCurrentStatusEnabled eSdpMediaType .statusLocal =
        (x.sides e).bReserved ∧
      (x.sides e).table.isCurrentStatusEnabled eSdpMediaType .statusRemote =
        (x.sides e).received.any FormedBody.bReserved := by
  obtain ⟨-, c, k, hrecords⟩ := hx.1 e
  unfold QosStatusTable.isCurrentStatusEnabled
  rw [hrecords]
  exact ⟨Records.isCurrentStatusEnabled_local _ _ _ _ _,
    Records.isCurrentStatusEnabled_remote _ _ _ _ _⟩

theorem getStrengthTag_step (hmedia : eSdpMediaType ≠ .invalid) {x x' : StatusExchange}
    {event : ExchangeEvent} (hx : x.Consistent eSdpMediaType)
    (hstep : Step eSdpMediaType x event x') (e : Endpoint) {eStatusType : StatusType}
    {eDirTag : Direction}
    (hmandatory : (x.sides e).table.getStrengthTag eSdpMediaType eStatusType eDirTag =
      .mandatory) :
    (x'.sides e).table.getStrengthTag eSdpMediaType eStatusType eDirTag = .mandatory := by
  obtain ⟨-, c, k, hbefore⟩ := hx.1 e
  obtain ⟨-, c', k', hafter⟩ := (hx.step hmedia hstep).1 e
  unfold QosStatusTable.getStrengthTag at hmandatory ⊢
  rw [hbefore, Records.getStrengthTag_exchanged] at hmandatory
  rw [hafter, Records.getStrengthTag_exchanged]
  refine Records.getStrengthTag_heard ?_ hmandatory
  have hkept := received_prefix hstep e
  cases hreceived : (x.sides e).received with
  | nil =>
      intro h
      cases h
  | cons body rest =>
      intro _
      obtain ⟨more, hmore⟩ := hkept
      rw [← hmore, hreceived]
      rfl

/-- The tables mirror each other: a side considers the remote status enabled only where a
body it received was formed while the other side's local status was enabled; once both
resources are available and each side has sent a body with its own available, all four
statuses are enabled; and from there on no mandatory strength is lowered. -/
theorem tables_mirror (hmedia : eSdpMediaType ≠ .invalid) {x : StatusExchange}
    (hx : (exchanges eSdpMediaType).Reachable x) :
    (∀ e, (x.sides e).table.isCurrentStatusEnabled eSdpMediaType .statusRemote = true →
      ∃ body ∈ (x.sides e).received, body.bLocalEnabled = true) ∧
    ((∀ e, (x.sides e).bReserved = true ∧
        ∃ body ∈ (x.sides e).received, body.bReserved = true) →
      ∀ e eStatusType,
        (x.sides e).table.isCurrentStatusEnabled eSdpMediaType eStatusType = true) ∧
    ∀ x', ((exchanges eSdpMediaType).startingAt x).Reachable x' →
      ∀ e eStatusType eDirTag,
        (x.sides e).table.getStrengthTag eSdpMediaType eStatusType eDirTag = .mandatory →
        (x'.sides e).table.getStrengthTag eSdpMediaType eStatusType eDirTag = .mandatory := by
  have hconsistent := consistent_of_reachable hmedia hx
  refine ⟨?_, ?_, ?_⟩
  · intro e henabled
    rw [(isCurrentStatusEnabled_eq hconsistent e).2, List.any_eq_true] at henabled
    obtain ⟨body, hbody, hreserved⟩ := henabled
    exact ⟨body, hbody, ((hconsistent.1 e).1 body hbody).trans hreserved⟩
  · intro hall e eStatusType
    obtain ⟨hlocal, hremote⟩ := isCurrentStatusEnabled_eq hconsistent e
    cases eStatusType with
    | statusLocal => rw [hlocal, (hall e).1]
    | statusRemote =>
        rw [hremote, List.any_eq_true]
        exact (hall e).2
  · intro x' hx' e eStatusType eDirTag hmandatory
    have hkept : x'.Consistent eSdpMediaType ∧
        (x'.sides e).table.getStrengthTag eSdpMediaType eStatusType eDirTag = .mandatory := by
      induction hx' with
      | init h =>
          obtain rfl : _ = x := h
          exact ⟨hconsistent, hmandatory⟩
      | step event _ hstep ih =>
          exact ⟨ih.1.step hmedia hstep, getStrengthTag_step hmedia ih.1 hstep e ih.2⟩
    exact hkept.2

theorem reachable_exchanged {x : StatusExchange} (hx : (exchanges .audio).Reachable x)
    (hnone : x.inFlight = none) {body : FormedBody}
    (hbody : (x.send .audio 5000 true).inFlight = some body) :
    (exchanges .audio).Reachable ((x.send .audio 5000 true).receive body) := by
  have hsent : (exchanges .audio).Reachable (x.send .audio 5000 true) :=
    .step (.send 5000 true) hx (Step.send hnone (by decide))
  exact .step .receive hsent (Step.receive hbody)

/-- Both endpoints reserve, and each of them sends a body. -/
theorem tables_mirror_reserved :
    ∃ x : StatusExchange, (∀ e, (x.sides e).received.length = 1) ∧
      ∀ e eStatusType, (x.sides e).table.isCurrentStatusEnabled .audio eStatusType = true := by
  let start : StatusExchange :=
    ⟨fun _ => ⟨QosStatusTable.new.initializeRecords .audio, false, []⟩, .first, none⟩
  have hstart : (exchanges .audio).Reachable start :=
    .init ⟨rfl, fun _ => ⟨QosStatusTable.new, rfl⟩⟩
  have hfirst : (exchanges .audio).Reachable (start.localStatus .audio .first true) :=
    .step (.localStatus .first true) hstart (Step.localStatus .first true)
  have hboth : (exchanges .audio).Reachable
      ((start.localStatus .audio .first true).localStatus .audio .second true) :=
    .step (.localStatus .second true) hfirst (Step.localStatus .second true)
  have hexchanged := reachable_exchanged (reachable_exchanged hboth rfl rfl) rfl rfl
  refine ⟨_, ?_, (tables_mirror (by decide) hexchanged).2.1 ?_⟩
  · intro e
    cases e <;> rfl
  · intro e
    cases e <;> exact ⟨rfl, _, List.mem_cons_self, rfl⟩

end StatusExchange

end ImsStack.Precondition
