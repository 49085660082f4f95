import ImsStack.Call.SessionHeaders

/-!
`AddSpecificHeaderWithoutParameterChange` does to a message what `AddSpecificHeader` does, and it
keeps the values of the session timer.
-/

namespace ImsStack.Call.SessionHeaderWriter

open Library.FailureExits

variable {M : Type} {backup : SessionRefreshParameters}

theorem cleansUp_get : CleansUp (restore backup) (get : Write M (Writing M)) get :=
  .refl fun s => ⟨s, s, rfl⟩

theorem cleansUp_getHelper : CleansUp (restore backup) (getHelper : Write M _) getHelper :=
  .refl fun s => ⟨s.helper, s, rfl⟩

theorem cleansUp_modify (f : Writing M → Writing M) :
    CleansUp (restore backup) (modify f : Write M Unit) (modify f) :=
  .refl fun s => ⟨(), f s, rfl⟩

/-- The exit behind a header: the values are put back where it could not be set. -/
theorem cleansUp_unless (set : Bool) :
    CleansUp (restore backup) (do if !set then throw () : Write M Unit)
      (do
        if !set then
          setSessionRefreshParameters backup
          throw ()) :=
  .ite (.exit ()) (.pure ())

/-- For every end of the first body, the written message and the result are those of the second,
whose values are the ones put back. -/
theorem written_undone (r : EStateM.Result Unit (Writing M) Unit) :
    (written (undone (restore backup) r)).result = (written r).result ∧
      (written (undone (restore backup) r)).message = (written r).message ∧
      (written (undone (restore backup) r)).helper.parameters = backup := by
  cases r with
  | ok _ s => exact ⟨rfl, rfl, rfl⟩
  | error _ s => exact ⟨rfl, rfl, rfl⟩

variable [ISipMessage M]

theorem cleansUp_addHeader (header : SessionHeader) (value : Platform.AString.Chars) :
    CleansUp (restore backup) (addHeader header value : Write M Bool) (addHeader header value) :=
  .refl fun _ => ⟨_, _, rfl⟩

theorem cleansUp_setHeader (header : SessionHeader) (value : Platform.AString.Chars) :
    CleansUp (restore backup) (setHeader header value : Write M Bool) (setHeader header value) :=
  .refl fun _ => ⟨_, _, rfl⟩

theorem cleansUp_addSupported (config : SessionConfig) :
    CleansUp (restore backup) (addSupported config : Write M Unit)
      (WithoutParameterChange.addSupported backup config) := by
  refine cleansUp_get.bind fun s => .ite ?_ (.pure ())
  exact (cleansUp_addHeader _ _).bind cleansUp_unless

theorem cleansUp_setRequestMinSe (nConfigMinSe : Int) :
    CleansUp (restore backup) (setRequestMinSe nConfigMinSe : Write M Unit)
      (WithoutParameterChange.setRequestMinSe backup nConfigMinSe) := by
  refine cleansUp_getHelper.bind fun h => .ite ?_ (.pure ())
  exact (cleansUp_setHeader _ _).bind cleansUp_unless

theorem cleansUp_setRequestSessionExpires :
    CleansUp (restore backup) (setRequestSessionExpires : Write M Unit)
      (WithoutParameterChange.setRequestSessionExpires backup) := by
  refine cleansUp_getHelper.bind fun h => .ite ?_ (.pure ())
  exact (cleansUp_setHeader _ _).bind cleansUp_unless

theorem cleansUp_writeRequestHeaders (method : SipMethod) (state : DialogState)
    (nConfigMinSe : Int) :
    CleansUp (restore backup) (writeRequestHeaders method state nConfigMinSe : Write M Unit)
      (WithoutParameterChange.writeRequestHeaders backup method state nConfigMinSe) := by
  refine .ite ?_ (.pure ())
  refine (cleansUp_setRequestMinSe _).bind fun _ => ?_
  refine CleansUp.bind (cleansUp_modify _) fun _ => ?_
  exact cleansUp_setRequestSessionExpires

theorem cleansUp_setResponseMinSe (method : SipMethod) (state : DialogState)
    (nConfigMinSe : Int) :
    CleansUp (restore backup) (setResponseMinSe method state nConfigMinSe : Write M Unit)
      (WithoutParameterChange.setResponseMinSe backup method state nConfigMinSe) := by
  refine cleansUp_get.bind fun s => .ite ?_ (.pure ())
  exact (cleansUp_setHeader _ _).bind cleansUp_unless

theorem cleansUp_addRequire :
    CleansUp (restore backup) (addRequire : Write M Unit)
      (WithoutParameterChange.addRequire backup) := by
  refine cleansUp_getHelper.bind fun h => .ite ?_ (.pure ())
  exact (cleansUp_addHeader _ _).bind cleansUp_unless

theorem cleansUp_addResponseSupported :
    CleansUp (restore backup) (addResponseSupported : Write M Unit)
      (WithoutParameterChange.addResponseSupported backup) := by
  refine cleansUp_get.bind fun s => .ite ?_ (.pure ())
  exact (cleansUp_addHeader _ _).bind cleansUp_unless

theorem cleansUp_setResponseSessionExpires :
    CleansUp (restore backup) (setResponseSessionExpires : Write M Unit)
      (WithoutParameterChange.setResponseSessionExpires backup) := by
  refine cleansUp_getHelper.bind fun h => .ite ?_ (.pure ())
  exact (cleansUp_setHeader _ _).bind cleansUp_unless

theorem cleansUp_writeResponseHeaders (method : SipMethod) (state : DialogState)
    (nConfigMinSe : Int) :
    CleansUp (restore backup) (writeResponseHeaders method state nConfigMinSe : Write M Unit)
      (WithoutParameterChange.writeResponseHeaders backup method state nConfigMinSe) := by
  refine (cleansUp_setResponseMinSe _ _ _).bind fun _ => ?_
  refine cleansUp_get.bind fun s => .ite ?_ (.pure ())
  refine CleansUp.bind ?_ fun _ => cleansUp_setResponseSessionExpires
  exact cleansUp_getHelper.bind fun h =>
    .ite cleansUp_addRequire cleansUp_addResponseSupported

theorem cleansUp_writeMessageHeaders (method : SipMethod) (state : DialogState)
    (config : SessionConfig) :
    CleansUp (restore backup) (writeMessageHeaders method state config : Write M Unit)
      (WithoutParameterChange.writeMessageHeaders backup method state config) := by
  refine cleansUp_get.bind fun s => .ite (cleansUp_writeRequestHeaders _ _ _) ?_
  exact .ite (cleansUp_writeResponseHeaders _ _ _) (.pure ())

theorem undoes_writeHeaders (method : SipMethod) (state : DialogState) :
    Undoes (restore backup) (writeHeaders method state : Write M Unit)
      (WithoutParameterChange.writeHeaders backup method state) := by
  refine .bind (cleansUp_modify _) fun _ => ?_
  refine .bind cleansUp_getHelper fun h => ?_
  cases h.sipConfigV with
  | none => exact .exit ()
  | some config =>
    refine .bind (cleansUp_addSupported config) fun _ => ?_
    exact (cleansUp_writeMessageHeaders _ _ config).undoes

/-- For every helper, message and dialog, and however setting a header ends: the result and the
message are those of `AddSpecificHeader`, and the five values are as they were. -/
theorem addSpecificHeaderWithoutParameterChange_eq (h : SessionHeaderWriter)
    (sc : SipConnection M) :
    (addSpecificHeaderWithoutParameterChange h sc).result = (addSpecificHeader h sc).result ∧
      (addSpecificHeaderWithoutParameterChange h sc).message = (addSpecificHeader h sc).message ∧
      (addSpecificHeaderWithoutParameterChange h sc).helper.parameters = h.parameters := by
  unfold addSpecificHeaderWithoutParameterChange addSpecificHeader
  split
  · exact ⟨rfl, rfl, rfl⟩
  · exact ⟨rfl, rfl, rfl⟩
  · rename_i m state _ _
    dsimp only
    split
    · exact ⟨rfl, rfl, rfl⟩
    · rw [undoes_writeHeaders (ISipMessage.getMethod m) state ⟨h, m⟩]
      exact written_undone _

end ImsStack.Call.SessionHeaderWriter
