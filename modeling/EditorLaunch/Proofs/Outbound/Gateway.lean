import EditorLaunch.Outbound.Gateway
import EditorLaunch.Proofs.Outbound.Sending
import EditorLaunch.Proofs.Text.Utf8

/-!
# What the gateway is taken to have said

A request is repeated only while nothing answers it in the end, so that the metadata
which a look-up comes to stand in the first answer that is handed over: a status of
success with a body that arrives whole and can be read.
-/

namespace EditorLaunch

/-- The octets of a text are read as the text. -/
theorem Json.readOctets?_ofText (content : String) :
    readOctets? (Utf8.ofText content) = read? content := by
  rw [readOctets?, Utf8.ofText, Utf8.decodeMarking_encode, String.ofList_toList]

example : (Json.readOctets? [0x22, 0xFF, 0x22]).map Json.asText? = some none := by
  decide +kernel

namespace Outbound

theorem Reply.octets_toOption_eq_some_iff {reply : Reply} {octets : List UInt8} :
    reply.octets.toOption = some octets ↔ reply.bodyEnd = .whole ∧ reply.body = octets := by
  rw [Reply.octets]
  cases reply.bodyEnd <;> simp [Except.toOption]

namespace GatewayClient

theorem readStat_reads_finally (reference : Reference) (reply : Reply) :
    ¬ FailsTransiently (readStat reference reply) := by
  rintro ⟨failure, outcome, transient⟩
  unfold readStat at outcome
  split at outcome
  · split at outcome
    · simp at outcome
    · simp only [Action.result_throw, Except.error.injEq] at outcome
      subst outcome
      simp [Failure.isTransient] at transient
  · simp only [Action.result_bind, Action.result_log, Action.result_throw] at outcome
    cases outcome
    simp [Failure.isTransient] at transient

theorem readStat_eq_ok {reference : Reference} {reply : Reply} {found : StatReply}
    (readEq : (readStat reference reply).run.result = .ok found) :
    reply.isSuccess = true ∧ reply.bodyEnd = .whole ∧
      decodeBody? reply.body = some found := by
  unfold readStat at readEq
  split at readEq
  · rename_i success
    split at readEq
    · rename_i decoded readable
      simp only [Action.result_pure, Except.ok.injEq] at readEq
      subst readEq
      obtain ⟨octets, arrived, decodes⟩ := Option.bind_eq_some_iff.mp readable
      obtain ⟨whole, rfl⟩ := Reply.octets_toOption_eq_some_iff.mp arrived
      exact ⟨success, whole, decodes⟩
    · simp at readEq
  · simp only [Action.result_bind, Action.result_log, Action.result_throw] at readEq
    cases readEq

/-- Metadata comes from the first answer of the gateway. -/
theorem stat_eq_ok {client : GatewayClient} {reference : Reference} {token : String}
    {metadata : Metadata}
    (answered : (client.stat reference token).run.result = .ok metadata) :
    ∃ request attempt reply found,
      (client.statDraft reference token).build = .ok request ∧
      client.line.AnswersFirst request attempt reply ∧
      reply.isSuccess = true ∧ reply.bodyEnd = .whole ∧
      decodeBody? reply.body = some found ∧
      found.interpret reference = .ok metadata := by
  simp only [stat, Action.result_bind_eq_ok_iff, Action.result_mapFailure,
    Action.result_settle] at answered
  obtain ⟨-, -, found, reworded, interpreted⟩ := answered
  have sent : (client.line.send "storage_gateway_stat" (client.statDraft reference token)
      (readStat reference)).run.result = .ok found := by
    cases outcome : (client.line.send "storage_gateway_stat"
        (client.statDraft reference token) (readStat reference)).run.result with
    | error failure => simp [outcome, Except.mapError] at reworded
    | ok other => simpa [outcome, Except.mapError] using reworded
  obtain ⟨request, attempt, reply, built, first, readEq⟩ :=
    exists_answer_of_send (readStat_reads_finally reference) sent
  obtain ⟨success, whole, decodes⟩ := readStat_eq_ok readEq
  exact ⟨request, attempt, reply, found, built, first, success, whole, decodes, interpreted⟩

end GatewayClient

end Outbound

end EditorLaunch
