import ImsStack.Platform.Numerals
import ImsStack.SipMsg.SipUri

/-!
The two encoders of a URI and of its parameters: what is written through the pointer is what is
appended to the string buffer, whatever bytes were in the memory before.
-/

namespace ImsStack.SipMsg

open Platform.AString Platform.Numerals SipAbnfUtil SipPercentEncoding

namespace RawBuffer

theorem cString_append {text : Chars} (h : nul ∉ text) (rest : Chars) :
    cString (text ++ nul :: rest) = text := by
  unfold cString
  rw [List.takeWhile_append_of_pos]
  · simp
  · intro c hc
    apply decide_eq_true
    rintro rfl
    exact h hc

@[simp] theorem written_put (m : RawBuffer) (c : Char) : (m.put c).written = m.written ++ [c] := rfl

theorem written_strcpy (m : RawBuffer) {text : Chars} (h : nul ∉ text) :
    (m.strcpy text).updateCurrentPosition.written = m.written ++ text := by
  change m.written ++ cString (text ++ nul :: m.found.drop (text.length + 1)) = _
  rw [cString_append h]

theorem written_append (m : RawBuffer) {text : Chars} (h : nul ∉ text) :
    (m.append text).written = m.written ++ text :=
  m.written_strcpy h

end RawBuffer

theorem CString.nul_not_mem (s : CString) : nul ∉ s.chars := fun h => s.ne_nul nul h rfl

theorem nul_not_mem_of_cString? {b : Buffer} {text : Chars} (h : b.cString? = some text) :
    nul ∉ text := by
  unfold Buffer.cString? at h
  split at h
  · obtain rfl := Option.some.inj h
    intro hmem
    have hne := List.mem_takeWhile_imp (p := fun c => decide (c ≠ nul)) hmem
    exact of_decide_eq_true hne rfl
  · cases h

theorem nul_not_mem_of_bind {b : Option Buffer} {text : Chars}
    (h : b.bind Buffer.cString? = some text) : nul ∉ text := by
  cases b with
  | none => cases h
  | some b => exact nul_not_mem_of_cString? h

namespace SipNameValue

theorem nul_not_mem_of_escapedValue {name : CString} {value : Option CString} {text : Chars}
    (h : escapedValue name value = some text) : nul ∉ text := by
  cases value with
  | none => cases h
  | some v => exact nul_not_mem_of_bind h

theorem encodeRawValues_written (separator : Char) (values : List (Option CString))
    (m : RawBuffer) :
    (encodeRawValues separator values m).1 = (encodeValues separator values m.written).1 ∧
      (encodeRawValues separator values m).2.written =
        (encodeValues separator values m.written).2 := by
  induction values generalizing m with
  | nil => exact ⟨rfl, rfl⟩
  | cons first rest ih =>
      cases first with
      | none => exact ⟨rfl, rfl⟩
      | some value =>
          cases rest with
          | nil => exact ⟨rfl, m.written_append value.nul_not_mem⟩
          | cons next rest =>
              have hput : ((m.append value.chars).put separator).written =
                  m.written ++ value.chars ++ [separator] := by
                rw [RawBuffer.written_put, m.written_append value.nul_not_mem]
              have hrest := ih ((m.append value.chars).put separator)
              rw [hput] at hrest
              exact hrest

theorem encodeRaw_written (nv : SipNameValue) (m : RawBuffer)
    (component : Option ParameterComponent) :
    (nv.encodeRaw m component).map (fun r => (r.1, r.2.written)) =
      nv.encode m.written component := by
  unfold encodeRaw encode
  cases nv.name with
  | none => rfl
  | some name =>
      simp only
      cases hvalues : nv.valueList with
      | nil =>
          simp only [Option.map_some, m.written_append name.nul_not_mem]
      | cons first rest =>
          simp only
          have hstart : ((m.append name.chars).put '=').written =
              m.written ++ name.chars ++ ['='] := by
            rw [RawBuffer.written_put, m.written_append name.nul_not_mem]
          split
          · cases hescaped : escapedValue name first with
            | none => rfl
            | some text =>
                simp only [Option.map_some]
                rw [RawBuffer.written_append _ (nul_not_mem_of_escapedValue hescaped), hstart]
          · cases nv.paramType == .feature with
            | true =>
                obtain ⟨hstatus, hwritten⟩ := encodeRawValues_written nv.separator
                  (first :: rest) (((m.append name.chars).put '=').put '"')
                simp only [if_true]
                rw [RawBuffer.written_put, hstart] at hstatus hwritten
                rw [hstatus]
                split
                · rw [Option.map_some, RawBuffer.written_put, hwritten]
                · rw [Option.map_some, hwritten]
            | false =>
                obtain ⟨hstatus, hwritten⟩ := encodeRawValues_written nv.separator
                  (first :: rest) ((m.append name.chars).put '=')
                simp only [Bool.false_eq_true, if_false, List.append_nil]
                rw [hstart] at hstatus hwritten
                rw [hstatus]
                split
                · rw [Option.map_some, hwritten]
                · rw [Option.map_some, hwritten]

end SipNameValue

namespace SipParameters

theorem encodeRawList_written (delimiter : Char) (component : Option ParameterComponent)
    (nameValues : List (Option SipNameValue)) (m : RawBuffer) :
    (encodeRawList delimiter component nameValues m).map (fun r => (r.1, r.2.written)) =
      encodeList delimiter component nameValues m.written := by
  induction nameValues generalizing m with
  | nil => rfl
  | cons first rest ih =>
      cases first with
      | none => rfl
      | some nameValue =>
          have hfirst := nameValue.encodeRaw_written (m.put delimiter) component
          rw [RawBuffer.written_put] at hfirst
          unfold encodeRawList encodeList
          rw [← hfirst]
          cases nameValue.encodeRaw (m.put delimiter) component with
          | none => rfl
          | some encoded =>
              simp only [Option.bind_some, Option.map_some]
              split
              · exact ih encoded.2
              · rfl

theorem encodeRaw_written (parameters : SipParameters) (m : RawBuffer) (delimiter : Char)
    (component : Option ParameterComponent) :
    (parameters.encodeRaw m delimiter component).map (fun r => (r.1, r.2.written)) =
      parameters.encode m.written delimiter component :=
  encodeRawList_written delimiter component parameters.nameValueList m

end SipParameters

namespace SipUri

theorem encodeRawPassword_written (password : Option CString) (m : RawBuffer) :
    (encodeRawPassword password m).map RawBuffer.written = encodePassword password m.written := by
  unfold encodeRawPassword encodePassword
  cases password with
  | none => rfl
  | some password =>
      simp only
      cases htext : escapedPassword password with
      | none => rfl
      | some text =>
          rw [Option.map_some, Option.map_some, Option.map_some,
            RawBuffer.written_append _ (nul_not_mem_of_bind htext), RawBuffer.written_put]

theorem encodeRawUserInfo_written (uri : SipUri) (m : RawBuffer) :
    (uri.encodeRawUserInfo m).map RawBuffer.written = uri.encodeUserInfo m.written := by
  unfold encodeRawUserInfo encodeUserInfo
  cases uri.user with
  | none => rfl
  | some user =>
      simp only
      cases htext : escapedUser user with
      | none => rfl
      | some text =>
          simp only [Option.bind_some]
          rw [← m.written_append (nul_not_mem_of_bind htext), ← encodeRawPassword_written]
          cases encodeRawPassword uri.password (m.append text) with
          | none => rfl
          | some m => rfl

theorem encodeRawHost_written (uri : SipUri) (host : CString) (m : RawBuffer) :
    (uri.encodeRawHost host m).map RawBuffer.written = uri.encodeHost host m.written := by
  unfold encodeRawHost encodeHost
  split
  · rw [Option.map_some, RawBuffer.written_put, RawBuffer.written_append _ host.nul_not_mem,
      RawBuffer.written_put]
  · cases htext : escapedHost host with
    | none => rfl
    | some text =>
        rw [Option.map_some, Option.map_some, Option.map_some,
          m.written_append (nul_not_mem_of_bind htext)]

theorem encodeRawPort_written (uri : SipUri) (m : RawBuffer) :
    (uri.encodeRawPort m).written = uri.encodePort m.written := by
  have hdigits : nul ∉ Nat.toDigits 10 uri.port.toNat := by
    intro hmem
    have hdigit := isDigit_of_mem_toDigits hmem
    exact absurd hdigit (by decide)
  unfold encodeRawPort encodePort
  split
  · rw [RawBuffer.written_strcpy _ hdigits, RawBuffer.written_put, setNumber_natCast]
  · rfl

theorem encodeRawUriParams_written (uri : SipUri) (m : RawBuffer) :
    (uri.encodeRawUriParams m).map RawBuffer.written = uri.encodeUriParams true m.written := by
  unfold encodeRawUriParams encodeUriParams
  cases uri.uriParams with
  | none => rfl
  | some parameters =>
      simp only [if_true]
      rw [← parameters.encodeRaw_written]
      cases parameters.encodeRaw m ';' (some (component .uri)) with
      | none => rfl
      | some encoded => rfl

theorem encodeRawHeaders_written (nameValues : List (Option SipNameValue)) (first : Bool)
    (m : RawBuffer) :
    (encodeRawHeaders nameValues first m).map RawBuffer.written =
      encodeHeaders nameValues first m.written := by
  induction nameValues generalizing first m with
  | nil => rfl
  | cons nameValue rest ih =>
      cases nameValue with
      | none => exact ih false m
      | some nameValue =>
          have hstart : (if first then m else m.put '&').written =
              if first then m.written else m.written ++ ['&'] := by
            cases first <;> rfl
          unfold encodeRawHeaders encodeHeaders
          simp only
          rw [← hstart, ← nameValue.encodeRaw_written]
          cases nameValue.encodeRaw (if first then m else m.put '&')
              (some (component .header)) with
          | none => rfl
          | some encoded => exact ih false encoded.2

theorem encodeRawUriHdrParams_written (uri : SipUri) (m : RawBuffer) :
    (uri.encodeRawUriHdrParams m).map RawBuffer.written =
      uri.encodeUriHdrParams m.written := by
  unfold encodeRawUriHdrParams encodeUriHdrParams
  rcases uri.uriHdrParams with _ | ⟨_ | ⟨nameValue, rest⟩⟩
  · rfl
  · rfl
  · exact encodeRawHeaders_written (nameValue :: rest) true (m.put '?')

theorem encodeRaw_written (uri : SipUri) (m : RawBuffer) :
    (uri.encodeRaw m).map (fun r => (r.1, r.2.written)) = uri.encode m.written true := by
  unfold encodeRaw encode
  rw [← uri.encodeRawUserInfo_written]
  cases uri.encodeRawUserInfo m with
  | none => rfl
  | some m =>
      simp only [Option.bind_some, Option.map_some]
      cases uri.host with
      | none => rfl
      | some host =>
          simp only
          rw [← uri.encodeRawHost_written]
          cases uri.encodeRawHost host m with
          | none => rfl
          | some m =>
              simp only [Option.bind_some, Option.map_some]
              rw [← uri.encodeRawPort_written, ← uri.encodeRawUriParams_written]
              cases uri.encodeRawUriParams (uri.encodeRawPort m) with
              | none => rfl
              | some m =>
                  simp only [Option.bind_some, Option.map_some]
                  rw [← uri.encodeRawUriHdrParams_written]
                  cases uri.encodeRawUriHdrParams m with
                  | none => rfl
                  | some m => rfl

/-- The encoders of a parameter list agree for every list, and those of a URI for every URI when
the parameters are asked for; otherwise the URI is encoded as one that has none. -/
theorem encoders_agree :
    (∀ (parameters : SipParameters) (objBuffer found : Chars) (delimiter : Char)
      (component : Option ParameterComponent),
      (parameters.encodeRaw ⟨objBuffer, found⟩ delimiter component).map
          (fun r => (r.1, r.2.written)) =
        parameters.encode objBuffer delimiter component) ∧
    ∀ (uri : SipUri) (objBuffer found : Chars),
      (uri.encodeRaw ⟨objBuffer, found⟩).map (fun r => (r.1, r.2.written)) =
        uri.encode objBuffer true ∧
      (encodeRaw { uri with uriParams := none } ⟨objBuffer, found⟩).map
          (fun r => (r.1, r.2.written)) =
        uri.encode objBuffer false := by
  refine ⟨?_, ?_⟩
  · intro parameters objBuffer found delimiter component
    exact parameters.encodeRaw_written ⟨objBuffer, found⟩ delimiter component
  · intro uri objBuffer found
    refine ⟨uri.encodeRaw_written ⟨objBuffer, found⟩, ?_⟩
    rw [encodeRaw_written]
    have hnone : ∀ objBuffer, uri.encodeUriParams false objBuffer = some objBuffer := by
      intro objBuffer
      unfold encodeUriParams
      cases uri.uriParams <;> rfl
    unfold encode
    simp only [hnone]
    rfl

theorem host_bytes {c : Char} (hc : c ∈ ['h']) : c ≠ nul ∧ c.toNat < 256 := by
  obtain rfl := List.mem_singleton.mp hc
  exact ⟨by decide, by decide⟩

def hostName : CString where
  chars := ['h']
  ne_nul _ hc := (host_bytes hc).1
  lt_byte _ hc := (host_bytes hc).2

/-- Without the parameters, the text is not the one that is written through the pointer. -/
theorem not_encoders_agree :
    ¬∀ (uri : SipUri) (objBuffer found : Chars) (bParams : Bool),
      (uri.encodeRaw ⟨objBuffer, found⟩).map (fun r => (r.1, r.2.written)) =
        uri.encode objBuffer bParams := by
  intro h
  let parameters : SipParameters := ⟨[some ⟨some hostName, [], .generic, ','⟩]⟩
  have heq := h ⟨none, none, some hostName, 0, .ipv6, some parameters, none⟩ [] [] false
  exact absurd heq (by decide)

end SipUri

end ImsStack.SipMsg
