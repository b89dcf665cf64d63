import EditorLaunch.Proofs.Outbound.Budget
import EditorLaunch.Proofs.Outbound.Finality
import EditorLaunch.Proofs.Retry.Record
import EditorLaunch.Proofs.Trace.Events

/-!
# What is logged about other services

Whatever the gateway and the bridge do, the messages about it are details and warnings,
and none of them can be taken for one of those that open and close the log of a request
or that reject it: they begin otherwise.  A look-up that succeeds has been warned about
only because attempts before the last were repeated.
-/

namespace EditorLaunch

variable {κ α : Type}

namespace Event

/-- Whether a message begins with a text. -/
def begins (event : Event) (start : String) : Bool :=
  start.toList.isPrefixOf event.message.toList

/-- A message that is no error, and neither one with which the log of a request begins or
ends nor one that rejects it. -/
structure IsAside (event : Event) : Prop where
  mild : event.level ≠ .error
  frame : event.begins "HTTP request " = false
  verdict : event.begins "Request rejected: " = false

/-- Such a message that is a detail or a warning. -/
structure IsDetail (event : Event) : Prop extends IsAside event where
  detailed : event.level ≠ .info

/-- A warning that an attempt failed for a transient reason and is repeated. -/
def TellsOfRetry (settings : RetrySettings) (event : Event) : Prop :=
  ∃ (name : String) (attempt : Nat) (failure : Failure) (pause : Duration),
    attempt < settings.attempts ∧ failure.isTransient = true ∧
      event = ⟨.warn, s!"Operation '{name}' failed on attempt " ++
        s!"{attempt}/{settings.attempts}, retrying in {pause.brief}: {failure.message}"⟩

variable {level : Level} {message : String}

/-- The first letter can tell that a message is none of those. -/
theorem isAside_of_head? (letter : Char) (head : message.toList.head? = some letter)
    (other : letter ≠ 'H' ∧ letter ≠ 'R') (mild : level ≠ .error) :
    IsAside ⟨level, message⟩ := by
  obtain ⟨rest, written⟩ := List.head?_eq_some_iff.mp head
  have differs (start : Char) (others : List Char) (apart : letter ≠ start) :
      (start :: others).isPrefixOf message.toList = false := by
    rw [written, List.isPrefixOf_cons_cons, beq_false_of_ne apart.symm, Bool.false_and]
  exact ⟨mild, differs 'H' _ other.1, differs 'R' _ other.2⟩

theorem isDetail_of_head? (letter : Char) (head : message.toList.head? = some letter)
    (other : letter ≠ 'H' ∧ letter ≠ 'R') (mild : level = .debug ∨ level = .warn) :
    IsDetail ⟨level, message⟩ := by
  rcases mild with rfl | rfl
  · exact ⟨isAside_of_head? letter head other (by decide), by simp⟩
  · exact ⟨isAside_of_head? letter head other (by decide), by simp⟩

theorem TellsOfRetry.isDetail {settings : RetrySettings} {event : Event}
    (tells : event.TellsOfRetry settings) : event.IsDetail := by
  obtain ⟨name, attempt, failure, pause, -, -, rfl⟩ := tells
  exact isDetail_of_head? 'O' (by simp [toString]) (by decide) (.inr rfl)

end Event

namespace Retry

variable {settings : RetrySettings} {draw : Nat → Nat} {name : String}
variable {operation : Nat → Action κ α} {holds : Event → Prop}

theorem tellsOfRetry_of_mem_stepsBehind {attempt : Nat} {outcome : Except Failure α}
    {event : Event} (before : attempt < settings.attempts)
    (repeated : isFinal outcome = false)
    (member : .logged event ∈ (stepsBehind settings draw name attempt outcome :
      List (Step κ))) : event.TellsOfRetry settings := by
  cases outcome with
  | ok value => cases member
  | error failure =>
      have transient : failure.isTransient = true := by simpa [isFinal] using repeated
      simp only [stepsBehind, List.mem_cons, Step.logged.injEq, reduceCtorEq,
        List.not_mem_nil, or_false] at member
      exact ⟨_, _, failure, _, before, transient, member⟩

/-- What attempts log themselves, the warnings behind those that are repeated and the
message behind the last are all that is logged. -/
theorem logs_withRetry (warned : ∀ event : Event, event.TellsOfRetry settings → holds event)
    (own : ∀ attempt, FailsTransiently (operation attempt) ∨
        (operation attempt).run.result = (withRetry settings draw name operation).run.result →
      (operation attempt).run.Logs holds)
    (closed : ∀ last, ∀ event ∈ closingEvents settings name last
      (withRetry settings draw name operation).run.result, holds event) :
    (withRetry settings draw name operation).run.Logs holds := by
  obtain ⟨endsAt, resultEq, stepsEq⟩ := record_withRetry settings draw name operation
  generalize lastAttempt _ settings.attempts = last at endsAt resultEq stepsEq
  have bounded := endsAt.bounded
  have allowed := settings.attempts_sub_one_add_one
  intro event member
  obtain ⟨step, among, isEvent⟩ := List.mem_filterMap.mp member
  obtain rfl : step = .logged event := by
    cases step <;> simp_all
  rw [stepsEq, List.mem_append, List.mem_append] at among
  rcases among with inEarlier | inLast | inClosing
  · obtain ⟨attempt, isOne, among⟩ := List.mem_flatMap.mp inEarlier
    have between := List.mem_range'_1.mp isOne
    have failed := endsAt.earlierFail attempt between.1 (by omega)
    rcases List.mem_append.mp among with inOwn | inBehind
    · exact own attempt (.inl failed) event (List.mem_filterMap.mpr ⟨_, inOwn, rfl⟩)
    · exact warned event (tellsOfRetry_of_mem_stepsBehind (by omega)
        (isFinal_eq_false_iff.mpr failed) inBehind)
  · exact own last (.inr resultEq.symm) event (List.mem_filterMap.mpr ⟨_, inLast, rfl⟩)
  · obtain ⟨other, isOne, same⟩ := List.mem_map.mp inClosing
    obtain rfl := Step.logged.inj same
    rw [← resultEq] at isOne
    exact closed last other isOne

theorem isDetail_of_mem_closingEvents {last : Nat} {outcome : Except Failure α} {event : Event}
    (member : event ∈ closingEvents settings name last outcome) : event.IsDetail := by
  cases outcome with
  | ok value =>
      rw [closingEvents] at member
      split at member
      · rw [List.mem_singleton.mp member]
        exact Event.isDetail_of_head? 'O' (by simp [toString]) (by decide) (.inl rfl)
      · cases member
  | error failure =>
      rw [closingEvents] at member
      split at member
      · rw [List.mem_singleton.mp member]
        exact Event.isDetail_of_head? 'O' (by simp [toString]) (by decide) (.inr rfl)
      · rw [List.mem_singleton.mp member]
        exact Event.isDetail_of_head? 'O' (by simp [toString]) (by decide) (.inl rfl)

/-- Behind an attempt that succeeds there is no warning. -/
theorem level_of_mem_closingEvents {last : Nat} {value : α} {event : Event}
    (member : event ∈ closingEvents settings name last (.ok value : Except Failure α)) :
    event.level = .debug := by
  rw [closingEvents] at member
  split at member
  · rw [List.mem_singleton.mp member]
  · cases member

end Retry

namespace Outbound

variable {holds : Event → Prop}

@[simp]
theorem events_sendOnce (line : Line) (draft : Draft) (attempt : Nat) :
    (line.sendOnce draft attempt).run.events = [] := by
  have none (send : OutboundRequest → Outgoing) (leg : Leg) :
      (leg.steps send).filterMap Step.event? = [] := rfl
  rw [Traced.events_eq_filterMap]
  cases built : draft.build with
  | error cause => rw [steps_sendOnce_of_unbuilt built, List.filterMap_nil]
  | ok request =>
      rw [steps_sendOnce_of_built built]
      simp [Journey.travel, List.filterMap_flatMap, none]

/-- What is read from replies is logged, besides what repeated attempts are.  Nothing but
a transient failure or the result matters. -/
theorem logs_send {line : Line} {name : String} {draft : Draft}
    {read : Reply → Action Outgoing α}
    (warned : ∀ event : Event, event.TellsOfRetry line.retry → holds event)
    (own : ∀ reply, FailsTransiently (read reply) ∨
        (read reply).run.result = (line.send name draft read).run.result →
      (read reply).run.Logs holds)
    (closed : ∀ last, ∀ event ∈ Retry.closingEvents line.retry name last
      (line.send name draft read).run.result, holds event) :
    (line.send name draft read).run.Logs holds := by
  refine Retry.logs_withRetry warned (fun attempt ended => ?_) closed
  refine Action.logs_bind ?_ fun reply answered => own reply ?_
  · simp [Traced.Logs]
  · have readEq : (line.sendOnce draft attempt >>= read).run.result =
        (read reply).run.result := by
      rw [Action.result_bind, answered]
      rfl
    rcases ended with ⟨failure, failed, transient⟩ | same
    · exact .inl ⟨failure, readEq.symm.trans failed, transient⟩
    · exact .inr (readEq.symm.trans same)

namespace GatewayClient

theorem logs_readStat (reference : Reference) (reply : Reply) :
    (readStat reference reply).run.Logs Event.IsDetail := by
  unfold readStat
  split
  · split
    · exact Action.logs_pure _
    · exact Action.logs_throw _
  · refine Action.logs_bind (Action.logs_log ?_) fun _ _ => Action.logs_throw _
    exact Event.isDetail_of_head? 'S' (by simp [toString]) (by decide) (.inr rfl)

/-- Nothing is logged about a reply that is read. -/
theorem events_readStat_of_ok {reference : Reference} {reply : Reply} {found : StatReply}
    (readEq : (readStat reference reply).run.result = .ok found) :
    (readStat reference reply).run.events = [] := by
  have success := (readStat_eq_ok readEq).1
  unfold readStat at readEq ⊢
  rw [if_pos success] at readEq ⊢
  split
  · rfl
  · rfl

theorem logs_stat (client : GatewayClient) (reference : Reference) (token : String) :
    (client.stat reference token).run.Logs Event.IsDetail := by
  refine Action.logs_bind (Action.logs_log ?_) fun _ _ => ?_
  · exact Event.isDetail_of_head? 'S' (by simp) (by decide) (.inl rfl)
  · refine Action.logs_bind (Action.logs_mapFailure _ ?_) fun _ _ => Action.logs_settle _
    exact logs_send (fun _ tells => tells.isDetail) (fun reply _ => logs_readStat reference reply)
      fun _ _ member => Retry.isDetail_of_mem_closingEvents member

/-- A look-up that succeeds is warned about only behind attempts that are repeated. -/
theorem logs_stat_of_ok {client : GatewayClient} {reference : Reference} {token : String}
    {metadata : Metadata} (found : (client.stat reference token).run.result = .ok metadata) :
    (client.stat reference token).run.Logs fun event =>
      event.level = .warn → event.TellsOfRetry client.line.retry := by
  have sent : ∃ reply, (client.line.send "storage_gateway_stat"
      (client.statDraft reference token) (readStat reference)).run.result = .ok reply := by
    simp only [stat, Action.result_bind_eq_ok_iff, Action.result_mapFailure] at found
    obtain ⟨-, -, reply, reworded, -⟩ := found
    cases outcome : (client.line.send "storage_gateway_stat"
        (client.statDraft reference token) (readStat reference)).run.result with
    | error failure => simp [outcome, Except.mapError] at reworded
    | ok reply => exact ⟨reply, rfl⟩
  obtain ⟨reply, sent⟩ := sent
  refine Action.logs_bind (Action.logs_log (by simp)) fun _ _ => ?_
  refine Action.logs_bind (Action.logs_mapFailure _ ?_) fun _ _ => Action.logs_settle _
  refine logs_send (fun _ tells _ => tells) (fun other ended => ?_) fun last event member => ?_
  · have readEq := (ended.resolve_left (readStat_reads_finally reference other)).trans sent
    simp [Traced.Logs, events_readStat_of_ok readEq]
  · rw [sent] at member
    simp [Retry.level_of_mem_closingEvents member]

end GatewayClient

namespace BridgeClient

theorem logs_reportCollisions (collisions : List Collision) :
    (ExceptT.lift (reportCollisions collisions) : Action κ Unit).run.Logs Event.IsDetail := by
  intro event member
  obtain ⟨collision, -, rfl⟩ : ∃ collision ∈ collisions, ⟨.warn, collision.message⟩ = event := by
    simpa [ExceptT.lift, reportCollisions, Traced.events, Functor.map] using member
  exact Event.isDetail_of_head? 'E' (by simp [Collision.message, toString]) (by decide) (.inr rfl)

theorem logs_refuse (path : String) (reply : Reply) :
    (refuse path reply : Action Outgoing α).run.Logs Event.IsDetail :=
  Action.logs_throw _

theorem logs_readCatalogue (reply : Reply) : (readCatalogue reply).run.Logs Event.IsDetail := by
  unfold readCatalogue
  split
  · split
    · exact Action.logs_bind (logs_reportCollisions _) fun _ _ => Action.logs_pure _
    · exact Action.logs_throw _
  · refine Action.logs_bind (Action.logs_log ?_) fun _ _ => logs_refuse _ _
    exact Event.isDetail_of_head? 'E' (by simp) (by decide) (.inr rfl)

theorem logs_readSession (reply : Reply) : (readSession reply).run.Logs Event.IsDetail := by
  unfold readSession
  split
  · exact Action.logs_bind (Action.logs_settle _) fun _ _ => Action.logs_pure _
  · refine Action.logs_bind (Action.logs_log ?_) fun _ _ => logs_refuse _ _
    exact Event.isDetail_of_head? 'E' (by simp [toString]) (by decide) (.inr rfl)

theorem logs_fetchCatalogue (client : BridgeClient) :
    client.fetchCatalogue.run.Logs Event.IsDetail := by
  refine Action.logs_bind (Action.logs_mapFailure _ ?_) fun _ _ => ?_
  · exact logs_send (fun _ tells => tells.isDetail) (fun reply _ => logs_readCatalogue reply)
      fun _ _ member => Retry.isDetail_of_mem_closingEvents member
  · refine Action.logs_bind (Action.logs_log ?_) fun _ _ => Action.logs_pure _
    exact Event.isDetail_of_head? 'E' (by simp [toString]) (by decide) (.inl rfl)

theorem logs_openSession (client : BridgeClient) (request : SessionRequest) (token : String) :
    (client.openSession request token).run.Logs Event.IsDetail := by
  refine Action.logs_bind (Action.logs_log ?_) fun _ _ => Action.logs_mapFailure _ ?_
  · exact Event.isDetail_of_head? 'O' (by simp [toString]) (by decide) (.inl rfl)
  · exact logs_send (fun _ tells => tells.isDetail) (fun reply _ => logs_readSession reply)
      fun _ _ member => Retry.isDetail_of_mem_closingEvents member

end BridgeClient

end Outbound

/-- Only details are logged about other services, and nothing but repeated attempts is
warned of if a look-up succeeds. -/
structure Backend.IsDiscreet (backend : Backend) (settings : RetrySettings) : Prop where
  stat : ∀ reference token, (backend.stat reference token).run.Logs Event.IsDetail
  fetchCatalogue : backend.fetchCatalogue.run.Logs Event.IsDetail
  openSession : ∀ request token, (backend.openSession request token).run.Logs Event.IsDetail
  found : ∀ reference token metadata,
    (backend.stat reference token).run.result = .ok metadata →
      (backend.stat reference token).run.Logs fun event =>
        event.level = .warn → event.TellsOfRetry settings

/-- Nothing at all is logged about other services. -/
structure Backend.LogsNothing (backend : Backend) : Prop where
  stat : ∀ reference token, (backend.stat reference token).run.events = []
  fetchCatalogue : backend.fetchCatalogue.run.events = []
  openSession : ∀ request token, (backend.openSession request token).run.events = []

theorem Backend.LogsNothing.isDiscreet {backend : Backend} (silent : backend.LogsNothing)
    (settings : RetrySettings) : backend.IsDiscreet settings where
  stat reference token := by simp [Traced.Logs, silent.stat]
  fetchCatalogue := by simp [Traced.Logs, silent.fetchCatalogue]
  openSession request token := by simp [Traced.Logs, silent.openSession]
  found reference token metadata _ := by simp [Traced.Logs, silent.stat]

/-- Services over the network are discreet, whatever they do. -/
theorem Outbound.isDiscreet_backendOver (settings : Settings) (lines : Lines) :
    (backendOver settings lines).IsDiscreet lines.stat.retry where
  stat := GatewayClient.logs_stat _
  fetchCatalogue := BridgeClient.logs_fetchCatalogue _
  openSession := BridgeClient.logs_openSession _
  found _ _ _ := GatewayClient.logs_stat_of_ok

end EditorLaunch
