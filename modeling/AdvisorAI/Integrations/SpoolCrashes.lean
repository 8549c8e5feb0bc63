import AdvisorAI.Integrations.RawMessages

/-!
# Spools and crashes

A process that writes a raw spool may die inside a line, and opens the file again. A spool opens
when each line went to the file as a whole, or not at all, and its URL has no line break that JSON
leaves as it is (`spools_recover`). It does not open behind the first byte of a line, or whatever
else of a line is no line (`torn_response_stops`).
-/

namespace AdvisorAI

open Lib Lib.Json

variable {outside : RawOutside}

/-- The lines of a response go to the file behind whole lines, and up to the newline, or nothing
of them does. Only a response without a record has a line. -/
def WholeResponses (w : JournalWorld (RawHttpRecord outside)) :
    JournalAction SourceHttpResponse → Prop
  | .append response => RawHttpSpool.append outside w.memory response
      = .ok (RawHttpRecord.fromResponse outside response, true) →
    Journal.Whole w.file ∧ UnbrokenText response.url
  | .crash response bytes => RawHttpSpool.append outside w.memory response
      = .ok (RawHttpRecord.fromResponse outside response, true) →
    bytes = 0 ∨ (Journal.Whole w.file ∧ UnbrokenText response.url ∧
      (RawHttpSpool.journal outside).lineBytes (RawHttpRecord.fromResponse outside response)
        ≤ bytes + 1)

/-- The same of messages, whose texts break no line. -/
def WholeMessages (w : JournalWorld (WebSocket.RawMessage outside)) : JournalAction RawFrame → Prop
  | .append frame => ∀ message, RawMessageSpool.append outside w.memory frame = .ok (message, true) →
    Journal.Whole w.file
  | .crash frame bytes =>
    ∀ message, RawMessageSpool.append outside w.memory frame = .ok (message, true) →
      bytes = 0 ∨ (Journal.Whole w.file ∧
        (RawMessageSpool.journal outside).lineBytes message ≤ bytes + 1)

theorem meets_of_wholeResponses (houtside : outside.ReadsBack)
    {w : JournalWorld (RawHttpRecord outside)} {action : JournalAction SourceHttpResponse}
    (h : WholeResponses w action) : (RawHttpSpool.journal outside).Meets w action := by
  cases action with
  | append response =>
    intro record hnew
    obtain ⟨rfl, -⟩ := (RawHttpSpool.append_ok hnew).2 rfl
    obtain ⟨hwhole, hurl⟩ := h hnew
    exact ⟨hwhole, (RawHttpRecord.unbroken_fields_iff houtside response).mpr hurl⟩
  | crash response bytes =>
    intro record hnew
    obtain ⟨rfl, -⟩ := (RawHttpSpool.append_ok hnew).2 rfl
    rcases h hnew with hnone | ⟨hwhole, hurl, hbytes⟩
    · exact Or.inl hnone
    · exact Or.inr ⟨hwhole, (RawHttpRecord.unbroken_fields_iff houtside response).mpr hurl, hbytes⟩

theorem meets_of_wholeMessages (houtside : outside.ReadsBack)
    {w : JournalWorld (WebSocket.RawMessage outside)} {action : JournalAction RawFrame}
    (h : WholeMessages w action) : (RawMessageSpool.journal outside).Meets w action := by
  cases action with
  | append frame =>
    intro message hnew
    exact ⟨h message hnew,
      WebSocket.RawMessage.unbroken_fields houtside (RawMessageSpool.append_ok hnew).1⟩
  | crash frame bytes =>
    intro message hnew
    rcases h message hnew with hnone | ⟨hwhole, hbytes⟩
    · exact Or.inl hnone
    · exact Or.inr ⟨hwhole,
        WebSocket.RawMessage.unbroken_fields houtside (RawMessageSpool.append_ok hnew).1, hbytes⟩

/-- **Both spools open with what was appended**, and go on, in every run of whole lines. -/
theorem spools_recover (houtside : outside.ReadsBack) :
    (∀ actions : List (JournalAction SourceHttpResponse),
      Runs.Along (RawHttpSpool.journal outside).step WholeResponses (Journal.fresh _) actions →
        ∃ w, Runs.runFrom (RawHttpSpool.journal outside).step (Journal.fresh _) actions = some w ∧
          (RawHttpSpool.journal outside).Recovers w) ∧
    ∀ actions : List (JournalAction RawFrame),
      Runs.Along (RawMessageSpool.journal outside).step WholeMessages (Journal.fresh _) actions →
        ∃ w, Runs.runFrom (RawMessageSpool.journal outside).step (Journal.fresh _) actions = some w ∧
          (RawMessageSpool.journal outside).Recovers w :=
  ⟨fun _ h => Journal.opens_of_meets (RawHttpSpool.lawful houtside)
      (Runs.along_mono (fun _ _ => meets_of_wholeResponses houtside) h),
    fun _ h => Journal.opens_of_meets (RawMessageSpool.lawful houtside)
      (Runs.along_mono (fun _ _ => meets_of_wholeMessages houtside) h)⟩

/-- A process that dies behind the first byte of a line leaves a spool that does not open. -/
theorem torn_response_stops :
    ¬ ∀ (outside : RawOutside), outside.ReadsBack →
      ∀ actions : List (JournalAction SourceHttpResponse),
        ∃ w, Runs.runFrom (RawHttpSpool.journal outside).step (Journal.fresh _) actions = some w ∧
          (RawHttpSpool.journal outside).Recovers w := by
  intro h
  have hreads := numberedRaw_readsBack fun _ => paperDigest
  obtain ⟨w, hrun, -⟩ := h _ hreads [.crash paperResponse 1]
  have happend : RawHttpSpool.append (numberedRaw fun _ => paperDigest) [] paperResponse
      = .ok (RawHttpRecord.fromResponse _ paperResponse, true) := rfl
  have hstep := @Journal.step_oneByte _ _ _ (RawHttpSpool.journal _) _ _ happend
    (RawHttpRecord.readsObjects hreads _)
  unfold Runs.runFrom at hrun
  rw [hstep] at hrun
  cases hrun

/-- A response that is written, and a frame whose process dies before its line. -/
theorem whole_lines_recover :
    (∃ w, Runs.runFrom (RawHttpSpool.journal (numberedRaw fun _ => paperDigest)).step
        (Journal.fresh _) [.append paperResponse] = some w ∧
      (RawHttpSpool.journal (numberedRaw fun _ => paperDigest)).Recovers w) ∧
    ∃ w, Runs.runFrom (RawMessageSpool.journal (numberedRaw fun _ => paperDigest)).step
        (Journal.fresh _) [.crash ⟨[123, 125], 0, 1⟩ 0] = some w ∧
      (RawMessageSpool.journal (numberedRaw fun _ => paperDigest)).Recovers w := by
  have hurl : UnbrokenText paperResponse.url :=
    (by decide +kernel : UnbrokenText "https://api.example/v1")
  have hspools := spools_recover (numberedRaw_readsBack fun _ => paperDigest)
  exact ⟨hspools.1 _ ⟨fun _ => ⟨Journal.whole_none, hurl⟩, fun _ _ => trivial⟩,
    hspools.2 _ ⟨fun _ _ => Or.inl rfl, fun _ _ => trivial⟩⟩

end AdvisorAI
