import EditorLaunch.Proofs.Outbound.Finality
import EditorLaunch.Proofs.Stat

/-!
# What calls come to

A call comes to what its last request comes to.  If that one is answered, the answer
decides; if it is not, or if no request could be put together, the call fails, and the
failure of the transport is reported as one of the service that was called.  So each
of the three calls has its own few kinds of results, and which of them it is can be
told from the last answer alone.
-/

namespace EditorLaunch.Outbound

/-- Whether a request is one that the client makes itself. -/
def isAsked : Outgoing → Bool
  | .asked _ => true
  | .followed _ => false

/-- The last of the requests that were sent is answered, and this is the answer.  It is
found by the number of the attempt, and by how many requests replies led to in it. -/
structure Line.AnswersLast (line : Line) (sent : List Outgoing) (reply : Reply) : Prop where
  isSent : sent ≠ []
  answered : (line.script (sent.countP isAsked)
    (sent.reverse.takeWhile (!isAsked ·)).length).attempt = .answered reply

theorem Line.AnswersLast.unique {line : Line} {sent : List Outgoing}
    {reply other : Reply} (answers : line.AnswersLast sent reply)
    (otherAnswers : line.AnswersLast sent other) : reply = other :=
  Attempt.answered.inj (answers.answered.symm.trans otherAnswers.answered)

section

variable {request : OutboundRequest} {hops : List OutboundRequest}
variable {attempts : List (List OutboundRequest)}

theorem countP_outgoingOf (request : OutboundRequest) (hops : List OutboundRequest) :
    (outgoingOf request hops).countP isAsked = 1 := by
  have noneAsked : (hops.map Outgoing.followed).countP isAsked = 0 := by
    rw [List.countP_map, List.countP_eq_zero]
    exact fun hop _ => Bool.false_ne_true
  rw [outgoingOf, List.countP_cons_of_pos rfl, noneAsked]

theorem countP_flatMap_outgoingOf (request : OutboundRequest)
    (attempts : List (List OutboundRequest)) :
    (attempts.flatMap (outgoingOf request)).countP isAsked = attempts.length := by
  induction attempts with
  | nil => rfl
  | cons hops others ih =>
      rw [List.flatMap_cons, List.countP_append, ih, countP_outgoingOf, List.length_cons,
        Nat.add_comm]

/-- Behind the last request that a client makes itself are those of its last attempt. -/
theorem takeWhile_reverse_flatMap_outgoingOf :
    ((attempts.concat hops).flatMap (outgoingOf request)).reverse.takeWhile (!isAsked ·) =
      (hops.map .followed).reverse := by
  have followed : ∀ outgoing ∈ (hops.map Outgoing.followed).reverse,
      (!isAsked outgoing) = true := by
    intro outgoing member
    obtain ⟨hop, -, rfl⟩ := List.mem_map.mp (List.mem_reverse.mp member)
    rfl
  rw [List.concat_eq_append, List.flatMap_append, List.flatMap_singleton, outgoingOf,
    List.reverse_append, List.reverse_cons, List.append_assoc,
    List.takeWhile_append_of_pos followed]
  simp [isAsked]

end

/-- What answers calls in the end is what answered the last request of the last attempt. -/
theorem Line.answersLast_iff {line : Line} {request : OutboundRequest} {last : Nat}
    {reply : Reply} (some : 1 ≤ last) :
    line.AnswersLast (((List.range' 1 last).map fun attempt =>
          line.hops attempt request).flatMap (outgoingOf request)) reply ↔
      (line.script last (line.hops last request).length).attempt = .answered reply := by
  obtain ⟨before, rfl⟩ := Nat.exists_eq_add_of_le' some
  have divided : ((List.range' 1 (before + 1)).map fun attempt => line.hops attempt request) =
      ((List.range' 1 before).map fun attempt =>
        line.hops attempt request).concat (line.hops (before + 1) request) := by
    rw [List.range'_1_concat, List.map_append, List.concat_eq_append, Nat.add_comm before]
    rfl
  have count : (((List.range' 1 (before + 1)).map fun attempt =>
      line.hops attempt request).flatMap (outgoingOf request)).countP isAsked = before + 1 := by
    rw [countP_flatMap_outgoingOf, List.length_map, List.length_range']
  have trail : ((((List.range' 1 (before + 1)).map fun attempt =>
      line.hops attempt request).flatMap (outgoingOf request)).reverse.takeWhile
        (!isAsked ·)).length = (line.hops (before + 1) request).length := by
    rw [divided, takeWhile_reverse_flatMap_outgoingOf, List.length_reverse, List.length_map]
  constructor
  · intro answers
    rw [← answers.answered, count, trail]
  · intro answered
    refine ⟨?_, by rw [count, trail, answered]⟩
    intro unsent
    rw [unsent] at count
    cases count

/-- Sending fails with the transport, which nothing answered in the end or a reply led
astray, or it comes to what is read from the last answer. -/
theorem send_cases (line : Line) (name : String) (draft : Draft)
    (read : Reply → Action Outgoing α)
    (reads : ∀ reply, (read reply).run.calls = []) :
    let run := (line.send name draft read).run
    ((∃ cause, run.result = .error (.transport cause)) ∧
        ∀ reply, line.AnswersLast run.calls reply → reply.lead? ≠ none) ∨
      ∃ reply, line.AnswersLast run.calls reply ∧
        run.result = (read reply).run.result := by
  intro run
  cases built : draft.build with
  | error cause =>
      have unsent : run.calls = [] := calls_send_of_unbuilt built
      exact .inl ⟨⟨cause, result_send_of_unbuilt built⟩,
        fun reply answers => absurd unsent answers.isSent⟩
  | ok request =>
      obtain ⟨last, endsAt, resultEq, callsEq⟩ := exists_last_attempt_send line name reads built
      change run.result = _ at resultEq
      change run.calls = _ at callsEq
      rw [Action.result_bind, result_sendOnce_of_built built] at resultEq
      have yields := (line.follows_hops last request).2
      simp only [callsEq, Line.answersLast_iff endsAt.notBefore]
      generalize (line.script last (line.hops last request).length).attempt = came at yields
      generalize (line.journey last request).outcome = outcome at yields resultEq
      cases yields with
      | silent address silence => exact .inl ⟨⟨_, resultEq⟩, fun reply answered => nomatch answered⟩
      | answered reply => exact .inr ⟨reply, rfl, resultEq⟩
      | misled leads final =>
          refine .inl ⟨⟨_, resultEq⟩, fun reply answered => ?_⟩
          rw [← Attempt.answered.inj answered]
          exact leads

/-- A result is the value that the other side means, or a failure of a certain kind if
it means none. -/
def Decides (means : α → Prop) (isFailure : Failure → Prop) : Except Failure α → Prop
  | .ok value => means value
  | .error failure => (∀ value, ¬ means value) ∧ isFailure failure

theorem Decides.eq_ok_iff {means : α → Prop} {isFailure : Failure → Prop}
    {result : Except Failure α} (decides : Decides means isFailure result)
    (unique : ∀ value other, means value → means other → value = other) (value : α) :
    result = .ok value ↔ means value := by
  cases result with
  | ok other =>
      constructor
      · rintro ⟨⟩
        exact decides
      · intro meant
        rw [unique other value decides meant]
  | error failure => simp [decides.1 value]

theorem Decides.isFailure_of_eq_error {means : α → Prop} {isFailure : Failure → Prop}
    {result : Except Failure α} {failure : Failure}
    (decides : Decides means isFailure result) (failed : result = .error failure) :
    isFailure failure := by
  subst failed
  exact decides.2

/-- If each answer decides what is read from it, and failures of the transport are
reported as failures of the same kind, then the last answer decides what is reported. -/
theorem decides_send (line : Line) (name : String) (draft : Draft)
    (read : Reply → Action Outgoing α) (reword : Failure → Failure)
    {means : Reply → α → Prop} {isFailure : Failure → Prop}
    (reads : ∀ reply, (read reply).run.calls = [])
    (eachDecides : ∀ reply,
      Decides (means reply) isFailure ((read reply).run.result.mapError reword))
    (leadsMeanNothing : ∀ reply value, means reply value → reply.lead? = none)
    (transportFails : ∀ cause, isFailure (reword (.transport cause))) :
    Decides
      (fun value => ∃ reply,
        line.AnswersLast (line.send name draft read).run.calls reply ∧
          means reply value)
      isFailure ((line.send name draft read).run.result.mapError reword) := by
  rcases send_cases line name draft read reads with
    ⟨⟨cause, failed⟩, unanswered⟩ | ⟨reply, answers, readEq⟩
  · rw [failed]
    refine ⟨?_, transportFails cause⟩
    rintro value ⟨reply, answers, meant⟩
    exact unanswered reply answers (leadsMeanNothing reply value meant)
  · have decided := eachDecides reply
    rw [← readEq] at decided
    cases outcome : (line.send name draft read).run.result.mapError reword with
    | ok value =>
        rw [outcome] at decided
        exact ⟨reply, answers, decided⟩
    | error failure =>
        rw [outcome] at decided
        refine ⟨?_, decided.2⟩
        rintro value ⟨other, otherAnswers, meant⟩
        exact decided.1 value (answers.unique otherAnswers ▸ meant)

namespace GatewayClient

/-- A reply tells how a look-up went: it has a status of success, and its body arrives
whole and can be read. -/
structure Tells (reply : Reply) (found : StatReply) : Prop where
  atLeast : 200 ≤ reply.status
  below : reply.status < 300
  whole : reply.bodyEnd = .whole
  decoded : decodeBody? reply.body = some found

theorem Tells.unique {reply : Reply} {found other : StatReply} (tells : Tells reply found)
    (otherTells : Tells reply other) : found = other :=
  Option.some.inj (tells.decoded.symm.trans otherTells.decoded)

theorem Tells.result_readStat {reference : Reference} {reply : Reply} {found : StatReply}
    (tells : Tells reply found) : (readStat reference reply).run.result = .ok found := by
  have success : reply.isSuccess = true := by
    simp [Reply.isSuccess, tells.atLeast, tells.below]
  have arrived : reply.octets.toOption.bind decodeBody? = some found := by
    rw [Reply.octets_toOption_eq_some_iff.mpr ⟨tells.whole, rfl⟩]
    exact tells.decoded
  rw [readStat, if_pos success, arrived]
  rfl

theorem readStat_eq_error {reference : Reference} {reply : Reply} {failure : Failure}
    (failed : (readStat reference reply).run.result = .error failure) :
    ∃ detail, failure = .backend detail := by
  unfold readStat at failed
  split at failed
  · split at failed
    · cases failed
    · exact ⟨_, (Except.error.inj failed).symm⟩
  · rw [Action.result_bind, Action.result_log] at failed
    exact ⟨_, (Except.error.inj failed).symm⟩

theorem decides_readStat (reference : Reference) (reply : Reply) :
    Decides (Tells reply) (fun failure => ∃ detail, failure = .backend detail)
      ((readStat reference reply).run.result.mapError reword) := by
  cases outcome : (readStat reference reply).run.result with
  | ok found =>
      obtain ⟨success, whole, decoded⟩ := readStat_eq_ok outcome
      simp only [Reply.isSuccess, Bool.and_eq_true, decide_eq_true_eq] at success
      exact ⟨success.1, success.2, whole, decoded⟩
  | error failure =>
      obtain ⟨detail, rfl⟩ := readStat_eq_error outcome
      refine ⟨fun found tells => ?_, detail, rfl⟩
      rw [tells.result_readStat] at outcome
      cases outcome

/-- The last answer to a look-up tells how it went. -/
def ToldLast (client : GatewayClient) (reference : Reference) (token : String)
    (found : StatReply) : Prop :=
  ∃ reply, client.line.AnswersLast (client.stat reference token).run.calls reply ∧
    Tells reply found

theorem ToldLast.unique {client : GatewayClient} {reference : Reference} {token : String}
    {found other : StatReply} (told : client.ToldLast reference token found)
    (toldToo : client.ToldLast reference token other) : found = other := by
  obtain ⟨reply, answers, tells⟩ := told
  obtain ⟨again, answersToo, tellsToo⟩ := toldToo
  obtain rfl := answers.unique answersToo
  exact tells.unique tellsToo

/-- A look-up comes to what the last answer tells, or it is a failure of the storage. -/
theorem stat_cases (client : GatewayClient) (reference : Reference) (token : String) :
    (∃ found, client.ToldLast reference token found ∧
        (client.stat reference token).run.result = found.interpret reference) ∨
      (∀ found, ¬ client.ToldLast reference token found) ∧
        ∃ detail, (client.stat reference token).run.result = .error (.backend detail) := by
  have resultEq : (client.stat reference token).run.result =
      ((client.line.send "storage_gateway_stat" (client.statDraft reference token)
        (readStat reference)).run.result.mapError reword).bind
          fun found => found.interpret reference := by
    rw [stat, Action.result_bind, Action.result_log]
    change ((Action.mapFailure _ _) >>= _).run.result = _
    rw [Action.result_bind, Action.result_mapFailure]
    rfl
  have decides := decides_send client.line "storage_gateway_stat"
    (client.statDraft reference token) (readStat reference) reword
    (fun reply => (onlyLogs_readStat reference reply).calls_eq)
    (decides_readStat reference)
    (fun reply found tells => Reply.lead?_of_lt tells.below) (fun cause => ⟨_, rfl⟩)
  rw [← calls_stat] at decides
  rw [resultEq]
  cases outcome : (client.line.send "storage_gateway_stat"
      (client.statDraft reference token) (readStat reference)).run.result.mapError reword with
  | ok found =>
      rw [outcome] at decides
      exact .inl ⟨found, decides, rfl⟩
  | error failure =>
      rw [outcome] at decides
      obtain ⟨untold, detail, rfl⟩ := decides
      exact .inr ⟨untold, detail, rfl⟩

/-- A look-up finds metadata exactly if the last answer tells that all is well, and
brings them. -/
theorem stat_eq_ok_iff (client : GatewayClient) (reference : Reference) (token : String)
    (metadata : Metadata) :
    (client.stat reference token).run.result = .ok metadata ↔
      ∃ found, client.ToldLast reference token found ∧ found.code = .ok ∧
        found.info? = some metadata := by
  rcases client.stat_cases reference token with ⟨found, told, resultEq⟩ | ⟨untold, detail, failed⟩
  · rw [resultEq, StatReply.interpret_eq_ok_iff]
    constructor
    · intro brought
      exact ⟨found, told, brought⟩
    · rintro ⟨other, toldToo, brought⟩
      exact told.unique toldToo ▸ brought
  · rw [failed]
    simp [untold]

/-- A look-up finds nothing exactly if the last answer tells that there is nothing. -/
theorem stat_eq_notFound_iff (client : GatewayClient) (reference : Reference)
    (token : String) :
    (∃ detail, (client.stat reference token).run.result = .error (.notFound detail)) ↔
      ∃ found, client.ToldLast reference token found ∧ found.code = .notFound := by
  rcases client.stat_cases reference token with ⟨found, told, resultEq⟩ | ⟨untold, detail, failed⟩
  · rw [resultEq, StatReply.interpret_eq_notFound_iff]
    constructor
    · intro absent
      exact ⟨found, told, absent⟩
    · rintro ⟨other, toldToo, absent⟩
      exact told.unique toldToo ▸ absent
  · rw [failed]
    simp [untold]

theorem stat_eq_error {client : GatewayClient} {reference : Reference} {token : String}
    {failure : Failure}
    (failed : (client.stat reference token).run.result = .error failure) :
    (∃ detail, failure = .notFound detail) ∨ ∃ detail, failure = .backend detail := by
  rcases client.stat_cases reference token with ⟨found, -, resultEq⟩ | ⟨-, detail, other⟩
  · exact StatReply.interpret_eq_error (resultEq.symm.trans failed)
  · exact .inr ⟨detail, Except.error.inj (failed.symm.trans other)⟩

end GatewayClient

namespace BridgeClient

/-- A failure of the bridge that names a path. -/
def IsOutage (path : String) (failure : Failure) : Prop :=
  ∃ detail, failure = .bridgeUnavailable path detail

/-- A reply lists editors: it agrees, and its body arrives whole and can be read. -/
structure Lists (reply : Reply) (entries : List (String × EditorAddresses)) : Prop where
  agrees : reply.status = 200
  whole : reply.bodyEnd = .whole
  decoded : decodeCatalogue? reply.body = some entries

/-- A reply opens a session: it agrees, and its body arrives whole and is the handle. -/
structure Opens (reply : Reply) (handle : SessionHandle) : Prop where
  agrees : reply.status = 200
  whole : reply.bodyEnd = .whole
  handed : handle.text = Utf8.toTextLossy reply.body

theorem decides_readCatalogue (reply : Reply) :
    Decides
      (fun catalogue => ∃ entries, Lists reply entries ∧
        catalogue = (Catalogue.ofEntries entries).1)
      (IsOutage cataloguePath)
      ((readCatalogue reply).run.result.mapError (reword cataloguePath)) := by
  unfold readCatalogue
  split
  · rename_i agrees
    split
    · rename_i entries readable
      obtain ⟨octets, arrived, decoded⟩ := Option.bind_eq_some_iff.mp readable
      obtain ⟨whole, rfl⟩ := Reply.octets_toOption_eq_some_iff.mp arrived
      rw [Action.result_bind, result_reportCollisions]
      exact ⟨entries, ⟨agrees, whole, decoded⟩, rfl⟩
    · rename_i unreadable
      refine ⟨?_, _, rfl⟩
      rintro catalogue ⟨entries, lists, -⟩
      rw [Reply.octets_toOption_eq_some_iff.mpr ⟨lists.whole, rfl⟩] at unreadable
      exact absurd (unreadable.symm.trans lists.decoded) nofun
  · rename_i refused
    rw [Action.result_bind, Action.result_log]
    refine ⟨?_, _, rfl⟩
    rintro catalogue ⟨entries, lists, -⟩
    exact refused lists.agrees

theorem decides_readSession (reply : Reply) :
    Decides (Opens reply) (IsOutage sessionPath)
      ((readSession reply).run.result.mapError (reword sessionPath)) := by
  unfold readSession
  split
  · rename_i agrees
    rw [Action.result_bind, Action.result_settle, Reply.text, Reply.octets]
    cases ending : reply.bodyEnd with
    | whole => exact ⟨agrees, ending, rfl⟩
    | cutShort =>
        refine ⟨fun handle opens => ?_, _, rfl⟩
        cases ending.symm.trans opens.whole
    | unfinished =>
        refine ⟨fun handle opens => ?_, _, rfl⟩
        cases ending.symm.trans opens.whole
  · rename_i refused
    rw [Action.result_bind, Action.result_log]
    exact ⟨fun handle opens => refused opens.agrees, _, rfl⟩

theorem result_fetchCatalogue (client : BridgeClient) :
    client.fetchCatalogue.run.result =
      (client.line.send "editing_bridge_extensions" client.catalogueDraft
        readCatalogue).run.result.mapError (reword cataloguePath) := by
  rw [fetchCatalogue, Action.result_bind, Action.result_mapFailure]
  cases (client.line.send "editing_bridge_extensions" client.catalogueDraft
    readCatalogue).run.result.mapError (reword cataloguePath) <;> rfl

theorem result_openSession (client : BridgeClient) (request : SessionRequest)
    (token : String) :
    (client.openSession request token).run.result =
      (client.line.send "editing_bridge_open_session" (client.sessionDraft request token)
        readSession).run.result.mapError (reword sessionPath) := by
  rw [openSession, Action.result_bind, Action.result_log]
  exact Action.result_mapFailure _ _

/-- The last answer decides which catalogue there is. -/
theorem decides_fetchCatalogue (client : BridgeClient) :
    Decides
      (fun catalogue => ∃ reply,
        client.line.AnswersLast client.fetchCatalogue.run.calls reply ∧
          ∃ entries, Lists reply entries ∧ catalogue = (Catalogue.ofEntries entries).1)
      (IsOutage cataloguePath) client.fetchCatalogue.run.result := by
  rw [calls_fetchCatalogue, result_fetchCatalogue]
  exact decides_send client.line _ _ readCatalogue (reword cataloguePath)
    (fun reply => (onlyLogs_readCatalogue reply).calls_eq) decides_readCatalogue
    (fun reply catalogue ⟨entries, lists, _⟩ =>
      Reply.lead?_of_lt (by have := lists.agrees; omega))
    fun cause => ⟨_, rfl⟩

/-- The last answer decides whether there is a session. -/
theorem decides_openSession (client : BridgeClient) (request : SessionRequest)
    (token : String) :
    Decides
      (fun handle => ∃ reply,
        client.line.AnswersLast (client.openSession request token).run.calls reply ∧
          Opens reply handle)
      (IsOutage sessionPath) (client.openSession request token).run.result := by
  rw [calls_openSession, result_openSession]
  exact decides_send client.line _ _ readSession (reword sessionPath)
    (fun reply => (onlyLogs_readSession reply).calls_eq) decides_readSession
    (fun reply handle opens => Reply.lead?_of_lt (by have := opens.agrees; omega))
    fun cause => ⟨_, rfl⟩

theorem Lists.unique {reply : Reply} {entries other : List (String × EditorAddresses)}
    (lists : Lists reply entries) (listsToo : Lists reply other) : entries = other :=
  Option.some.inj (lists.decoded.symm.trans listsToo.decoded)

theorem Opens.unique {reply : Reply} {handle other : SessionHandle}
    (opens : Opens reply handle) (opensToo : Opens reply other) : handle = other := by
  obtain ⟨text⟩ := handle
  obtain ⟨otherText⟩ := other
  exact congrArg _ (opens.handed.trans opensToo.handed.symm)

theorem fetchCatalogue_eq_ok_iff (client : BridgeClient) (catalogue : Catalogue) :
    client.fetchCatalogue.run.result = .ok catalogue ↔
      ∃ reply entries, client.line.AnswersLast client.fetchCatalogue.run.calls reply ∧
        Lists reply entries ∧ catalogue = (Catalogue.ofEntries entries).1 := by
  rw [client.decides_fetchCatalogue.eq_ok_iff]
  · simp only [exists_and_left]
  · rintro catalogue other ⟨reply, answers, entries, lists, rfl⟩
      ⟨again, answersToo, entriesToo, listsToo, rfl⟩
    obtain rfl := answers.unique answersToo
    rw [lists.unique listsToo]

theorem openSession_eq_ok_iff (client : BridgeClient) (request : SessionRequest)
    (token : String) (handle : SessionHandle) :
    (client.openSession request token).run.result = .ok handle ↔
      ∃ reply,
        client.line.AnswersLast (client.openSession request token).run.calls reply ∧
          Opens reply handle := by
  rw [(client.decides_openSession request token).eq_ok_iff]
  rintro handle other ⟨reply, answers, opens⟩ ⟨again, answersToo, opensToo⟩
  obtain rfl := answers.unique answersToo
  exact opens.unique opensToo

end BridgeClient

/-- What the three calls come to is told from the last answer alone.  A look-up finds
metadata if that answer has a status of success and its body says so, finds nothing if
it says so, and fails as the storage otherwise.  The catalogue and a session are taken
from an answer of one status with a whole body; otherwise the bridge fails, with the
path that was asked. -/
theorem results_of_calls (gateway : GatewayClient) (bridge : BridgeClient)
    (reference : Reference) (session : SessionRequest) (token : String) :
    let lookup := (gateway.stat reference token).run
    let listing := bridge.fetchCatalogue.run
    let opening := (bridge.openSession session token).run
    ((∀ metadata, lookup.result = .ok metadata ↔
        ∃ found, gateway.ToldLast reference token found ∧ found.code = .ok ∧
          found.info? = some metadata) ∧
      ((∃ detail, lookup.result = .error (.notFound detail)) ↔
        ∃ found, gateway.ToldLast reference token found ∧ found.code = .notFound) ∧
      ∀ failure, lookup.result = .error failure →
        (∃ detail, failure = .notFound detail) ∨ ∃ detail, failure = .backend detail) ∧
    ((∀ catalogue, listing.result = .ok catalogue ↔
        ∃ reply entries, bridge.line.AnswersLast listing.calls reply ∧
          BridgeClient.Lists reply entries ∧
          catalogue = (Catalogue.ofEntries entries).1) ∧
      ∀ failure, listing.result = .error failure →
        ∃ detail, failure = .bridgeUnavailable BridgeClient.cataloguePath detail) ∧
    (∀ handle, opening.result = .ok handle ↔
        ∃ reply, bridge.line.AnswersLast opening.calls reply ∧
          BridgeClient.Opens reply handle) ∧
      ∀ failure, opening.result = .error failure →
        ∃ detail, failure = .bridgeUnavailable BridgeClient.sessionPath detail := by
  intro lookup listing opening
  have listingDecides := bridge.decides_fetchCatalogue
  have openingDecides := bridge.decides_openSession session token
  refine ⟨⟨gateway.stat_eq_ok_iff reference token,
    gateway.stat_eq_notFound_iff reference token,
    fun failure failed => GatewayClient.stat_eq_error failed⟩,
    ⟨bridge.fetchCatalogue_eq_ok_iff, fun failure => listingDecides.isFailure_of_eq_error⟩,
    bridge.openSession_eq_ok_iff session token,
    fun failure => openingDecides.isFailure_of_eq_error⟩

end EditorLaunch.Outbound
