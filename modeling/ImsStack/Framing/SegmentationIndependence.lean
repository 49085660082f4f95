import ImsStack.Framing.Delivery

/-!
When the messages a connection delivers do not depend on how its bytes are cut
into packets.
-/

namespace ImsStack.Framing.SegmentationIndependence

open Platform.AString HeaderScan Segmentation Delivery SipMessageFraming

section Cut

variable {items done rest : List (Nat × SipText)} {last k : Nat} {m : SipText}

theorem good_iff {packets : List Chars} : Good packets done k m ↔
    ∀ n, lineContentLength (m.startLine.drop (cut packets done k)) = some n →
      n = m.body.length := by
  rw [Good, SipText.readLength]
  constructor
  · intro h n hn
    rwa [hn, Option.getD_some] at h
  · intro h
    cases hline : lineContentLength (m.startLine.drop (cut packets done k)) with
    | none => rfl
    | some n => exact h n hline

theorem good_stream (hitems : items = done ++ (k, m) :: rest) :
    Good [stream items last] done k m := by
  have hlength : (stream items last).length = (stream done 0).length + (2 * k +
      (m.text.length + (stream rest last).length)) := by
    rw [hitems, stream_append, List.length_append, stream]
    simp only [List.length_append, length_keepAlives]
  have hstart : m.startLine.length ≤ m.text.length := by
    simp only [SipText.text, linesText_cons, List.length_append]
    omega
  have := length_text m
  rw [good_iff, cut]
  intro n hn
  rw [List.drop_eq_nil_of_le] at hn
  · exact absurd hn (by rintro ⟨⟩)
  · rw [firstEnd, if_pos (by omega)]
    omega

theorem feed_stream (items : List (Nat × SipText)) (last : Nat) :
    (feed [([stream items last], .shortRead)] {}).map Prod.fst = some (texts items) := by
  have hstream : [stream items last].flatten = stream items last := List.append_nil _
  have h := feed_eq_iff hstream
  exact h.mpr fun done k m rest hitems => good_stream hitems

end Cut

/-- The packets deliver what the whole stream delivers if and only if no packet
that brings the first byte of a message ends where the rest of its start line
reads as a Content-Length header with another number. -/
theorem feed_eq_feed_stream_iff {packets : List Chars} {items : List (Nat × SipText)} {last : Nat}
    (hstream : packets.flatten = stream items last) :
    (feed (packets.map fun p => ([p], .shortRead)) {}).map Prod.fst =
        (feed [([stream items last], .shortRead)] {}).map Prod.fst ↔
      ∀ done k m rest, items = done ++ (k, m) :: rest →
        ∀ n, lineContentLength (m.startLine.drop (cut packets done k)) = some n →
          n = m.body.length := by
  rw [feed_stream, feed_eq_iff hstream]
  constructor
  · intro h done k m rest hitems
    exact good_iff.mp (h done k m rest hitems)
  · intro h done k m rest hitems
    exact good_iff.mpr (h done k m rest hitems)

/-- A request whose URI ends its scheme with an `l`. -/
def telRequest : SipText where
  startLine := "INVITE tel:+1 SIP/2.0".toList
  headers := ["Via: SIP/2.0/TCP 192.0.2.1;branch=z9hG4bK1", "Max-Forwards: 70",
    "From: <sip:a@example>;tag=1", "To: <tel:+1>", "Call-ID: 1@192.0.2.1", "CSeq: 1 INVITE",
    "Contact: <sip:a@192.0.2.1>", "Content-Type: text/plain"].map String.toList
  lengthLine := "Content-Length: 5".toList
  moreHeaders := []
  body := "hello".toList
  startLine_noEol := by decide +kernel
  startLine_head := ⟨'I', by decide +kernel, by decide⟩
  headers_ok := by decide +kernel
  lengthLine_ok := by decide +kernel
  moreHeaders_ok := nofun

/-- The request in two packets, cut behind the `te` of its URI. -/
def telPackets : List Chars := [telRequest.text.take 9, telRequest.text.drop 9]

theorem feed_eq_feed_stream_iff_telPackets :
    (feed (telPackets.map fun p => ([p], .shortRead)) {}).map Prod.fst =
        (feed [([stream [(0, telRequest)] 0], .shortRead)] {}).map Prod.fst ↔
      ∀ done k m rest, [(0, telRequest)] = done ++ (k, m) :: rest →
        ∀ n, lineContentLength (m.startLine.drop (cut telPackets done k)) = some n →
          n = m.body.length :=
  feed_eq_feed_stream_iff (by decide +kernel)

/-- In two packets the request is delivered without its body. -/
theorem not_feed_eq_feed_stream :
    ¬∀ (packets : List Chars) (items : List (Nat × SipText)) (last : Nat),
      packets.flatten = stream items last →
        (feed (packets.map fun p => ([p], .shortRead)) {}).map Prod.fst =
          (feed [([stream items last], .shortRead)] {}).map Prod.fst := by
  intro h
  have heq := h telPackets [(0, telRequest)] 0 (by decide +kernel)
  revert heq
  decide +kernel

end ImsStack.Framing.SegmentationIndependence
