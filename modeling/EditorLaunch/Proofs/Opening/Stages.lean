import EditorLaunch.Proofs.Opening.Run

/-!
# The order of the stages

Opening a file asks the gateway, the catalogue and the bridge, in this order and
each at most once.  A service is asked exactly if every stage before it succeeds,
the outcome is that of the stage at which the run ends, and the name of the file
counts no longer once the gateway has answered.
-/

namespace EditorLaunch

theorem Action.exists_observed_bind (action : Action Call α) (next : α → Action Call β) :
    ∃ rest, (action >>= next).observed.1 = action.observed.1 ++ rest := by
  cases outcome : action.observed.2 with
  | ok value =>
      have succeeded : action.observed = (action.observed.1, .ok value) :=
        Prod.ext rfl outcome
      exact ⟨_, by rw [observed_bind_of_ok next succeeded]⟩
  | error failure =>
      have failed : action.observed = (action.observed.1, .error failure) :=
        Prod.ext rfl outcome
      exact ⟨[], by rw [observed_bind_of_error next failed, List.append_nil]⟩

namespace Opener

variable {opener : Opener} {clock : Clock} {target : FileTarget} {caller : Caller}
variable {calls : List Call} {outcome : Except Failure Outcome}

/-- The services that are asked, by the last stage that succeeds. -/
inductive Reaches (opener : Opener) (clock : Clock) (target : FileTarget) (caller : Caller) :
    List Call → Prop where
  | nothing : Reaches opener clock target caller []
  | gateway (asks : opener.Asks clock target caller reference token) :
      Reaches opener clock target caller [.stat reference token]
  | catalogue
      (admits : opener.Admits clock target caller reference token metadata mode kind) :
      Reaches opener clock target caller [.stat reference token, .fetchCatalogue]
  | bridge
      (offers : opener.Offers clock target caller reference token metadata mode kind
        catalogue address) :
      Reaches opener clock target caller
        [.stat reference token, .fetchCatalogue,
          .openSession (sessionRequest metadata mode caller) token]

theorem Run.reaches (run : opener.Run clock target caller calls outcome) :
    opener.Reaches clock target caller calls := by
  cases run with
  | withoutReference failed => exact .nothing
  | withoutToken named failed => exact .nothing
  | withoutMetadata asks failed => exact .gateway asks
  | withoutFile finds failed => exact .gateway finds.toAsks
  | denied finds file refused => exact .gateway finds.toAsks
  | withoutCatalogue admits failed => exact .catalogue admits
  | withoutEditor admits listed failed => exact .catalogue admits
  | withoutSession offers failed => exact .bridge offers
  | withoutLink offers opened failed => exact .bridge offers
  | opened offers opened linked => exact .bridge offers

theorem reaches_asked (opener : Opener) (clock : Clock) (target : FileTarget)
    (caller : Caller) :
    opener.Reaches clock target caller (opener.openFile clock target caller).run.asked :=
  (run_iff.mpr rfl).reaches

theorem Reaches.isPrefix (reaches : opener.Reaches clock target caller calls) :
    ∃ reference token request, calls <+:
      [.stat reference token, .fetchCatalogue, .openSession request token] := by
  cases reaches with
  | nothing => exact ⟨.path "", "", ⟨"", .readOnly, "", "", ""⟩, List.nil_prefix⟩
  | @gateway reference token asks =>
      exact ⟨reference, token, ⟨"", .readOnly, "", "", ""⟩, by simp⟩
  | @catalogue reference token _ _ _ admits =>
      exact ⟨reference, token, ⟨"", .readOnly, "", "", ""⟩, by simp⟩
  | bridge offers => exact ⟨_, _, _, List.prefix_rfl⟩

theorem Reaches.asks {reference : Reference} {token : String}
    (reaches : opener.Reaches clock target caller calls)
    (member : .stat reference token ∈ calls) :
    opener.Asks clock target caller reference token := by
  cases reaches with
  | nothing => simp at member
  | gateway asks =>
      simp only [List.mem_cons, Call.stat.injEq, List.not_mem_nil, or_false] at member
      obtain ⟨rfl, rfl⟩ := member
      exact asks
  | catalogue admits =>
      simp only [List.mem_cons, Call.stat.injEq, reduceCtorEq, List.not_mem_nil,
        or_false] at member
      obtain ⟨rfl, rfl⟩ := member
      exact admits.toAsks
  | bridge offers =>
      simp only [List.mem_cons, Call.stat.injEq, reduceCtorEq, List.not_mem_nil,
        or_false] at member
      obtain ⟨rfl, rfl⟩ := member
      exact offers.toAsks

theorem Reaches.admits (reaches : opener.Reaches clock target caller calls)
    (member : .fetchCatalogue ∈ calls) :
    ∃ reference token metadata mode kind,
      opener.Admits clock target caller reference token metadata mode kind := by
  cases reaches with
  | nothing => simp at member
  | gateway asks => simp at member
  | catalogue admits => exact ⟨_, _, _, _, _, admits⟩
  | bridge offers => exact ⟨_, _, _, _, _, offers.toAdmits⟩

theorem Reaches.offers {request : SessionRequest} {token : String}
    (reaches : opener.Reaches clock target caller calls)
    (member : .openSession request token ∈ calls) :
    ∃ reference metadata mode kind catalogue address,
      opener.Offers clock target caller reference token metadata mode kind catalogue
          address ∧
        request = sessionRequest metadata mode caller := by
  cases reaches with
  | nothing => simp at member
  | gateway asks => simp at member
  | catalogue admits => simp at member
  | bridge offers =>
      simp only [List.mem_cons, Call.openSession.injEq, reduceCtorEq, List.not_mem_nil,
        or_false, false_or] at member
      obtain ⟨rfl, rfl⟩ := member
      exact ⟨_, _, _, _, _, _, offers, rfl⟩

theorem Asks.mem_asked {reference : Reference} {token : String}
    (asks : opener.Asks clock target caller reference token) :
    .stat reference token ∈ (opener.openFile clock target caller).run.asked := by
  change _ ∈ (opener.openFile clock target caller).observed.1
  obtain ⟨rest, begun⟩ := Action.exists_observed_bind (opener.stat reference token)
    (opener.openFound clock caller token)
  rw [observed_openFile_of_asks asks, begun, observed_stat]
  simp

theorem fetchCatalogue_mem_observed_launch (opener : Opener) (clock : Clock)
    (caller : Caller) (token : String) (metadata : Metadata) (mode : ViewMode)
    (kind : EditorKind) :
    .fetchCatalogue ∈ (opener.launch clock caller token metadata mode kind).observed.1 := by
  rw [launch, Action.observed_bind_of_ok _ (Action.observed_log _ _)]
  obtain ⟨rest, begun⟩ := Action.exists_observed_bind opener.fetchCatalogue
    fun catalogue => Action.settle (editorAddress catalogue metadata kind) >>=
      opener.connect clock caller token metadata mode
  rw [begun, observed_fetchCatalogue]
  simp

theorem Admits.mem_asked {reference : Reference} {token : String} {metadata : Metadata}
    {mode : ViewMode} {kind : EditorKind}
    (admits : opener.Admits clock target caller reference token metadata mode kind) :
    .fetchCatalogue ∈ (opener.openFile clock target caller).run.asked := by
  change _ ∈ (opener.openFile clock target caller).observed.1
  rw [observed_openFile_of_admits admits]
  exact List.mem_cons_of_mem _ (fetchCatalogue_mem_observed_launch ..)

theorem Offers.mem_asked {reference : Reference} {token : String} {metadata : Metadata}
    {mode : ViewMode} {kind : EditorKind} {catalogue : Catalogue} {address : String}
    (offers : opener.Offers clock target caller reference token metadata mode kind
      catalogue address) :
    .openSession (sessionRequest metadata mode caller) token ∈
      (opener.openFile clock target caller).run.asked := by
  change _ ∈ (opener.openFile clock target caller).observed.1
  obtain ⟨rest, begun⟩ := Action.exists_observed_bind
    (opener.openSession (sessionRequest metadata mode caller) token)
    fun handle =>
      Action.settle
        (EditorLink.assemble address handle opener.lifetime clock.second.milliseconds) >>=
      fun link => pure (Outcome.opened link)
  rw [observed_openFile_of_offers offers, connect, begun, observed_openSession]
  simp

theorem Run.denied_of_eq {reason : DenyReason}
    (run : opener.Run clock target caller calls (.ok (.denied reason))) :
    ∃ reference token metadata,
      opener.Finds clock target caller reference token metadata ∧
        metadata.kind = .file ∧ metadata.decide = .denied reason := by
  cases run with
  | denied finds file refused => exact ⟨_, _, _, finds, file, refused⟩

/-- Without a reference and a token there are no calls at all. -/
theorem exists_asks_of_calls_ne_nil
    (called : (opener.openFile clock target caller).run.calls ≠ []) :
    ∃ reference token, opener.Asks clock target caller reference token := by
  cases decoded : target.reference with
  | error failure =>
      have stops : (Action.settle target.reference : Action Call Reference).run.result =
          .error failure := decoded
      rw [openFile, Action.calls_bind_of_error _ stops, Action.calls_settle] at called
      exact absurd rfl called
  | ok reference =>
      have goesOn : (Action.settle target.reference : Action Call Reference).run.result =
          .ok reference := decoded
      rw [openFile, Action.calls_bind_of_ok _ goesOn, Action.calls_settle,
        List.nil_append] at called
      cases granted : (opener.tokens.tokenFor (κ := Call) clock.first caller).run.result with
      | error failure =>
          rw [Action.calls_bind_of_error _ granted, TokenSource.calls_tokenFor] at called
          exact absurd rfl called
      | ok token =>
          exact ⟨reference, token, FileTarget.reference_eq_ok_iff.mp decoded, granted⟩

theorem stat_mem_calls_iff {reference : Reference} {token : String} :
    .stat reference token ∈ (opener.openFile clock target caller).run.calls ↔
      opener.Asks clock target caller reference token := by
  have sameMember : .stat reference token ∈ (opener.openFile clock target caller).run.calls ↔
      .stat reference token ∈ (opener.openFile clock target caller).run.asked := by
    simp [Traced.asked, Call.isSent]
  rw [sameMember]
  constructor
  · exact (reaches_asked opener clock target caller).asks
  · exact Asks.mem_asked

/-- Two targets for which the gateway has the same answer lead to the same
outcome, over the same calls behind the one that asks the gateway. -/
theorem observed_openFile_eq_of_stat_eq {other : FileTarget}
    {reference otherReference : Reference} {token : String}
    (asks : opener.Asks clock target caller reference token)
    (otherAsks : opener.Asks clock other caller otherReference token)
    (sameAnswer : (opener.backend.stat otherReference token).run.result =
      (opener.backend.stat reference token).run.result) :
    (opener.openFile clock other caller).observed.1.tail =
        (opener.openFile clock target caller).observed.1.tail ∧
      (opener.openFile clock other caller).observed.2 =
        (opener.openFile clock target caller).observed.2 := by
  cases answer : (opener.backend.stat reference token).run.result with
  | error failure =>
      have stops := Run.withoutMetadata asks answer
      have otherStops := Run.withoutMetadata otherAsks (sameAnswer.trans answer)
      simp [stops.observed_eq, otherStops.observed_eq]
  | ok metadata =>
      have finds : opener.Finds clock target caller reference token metadata :=
        ⟨asks, answer⟩
      have otherFinds : opener.Finds clock other caller otherReference token metadata :=
        ⟨otherAsks, sameAnswer.trans answer⟩
      simp [observed_openFile_of_finds finds, observed_openFile_of_finds otherFinds]

/-- Opening a file asks the gateway, the catalogue and the bridge in this order,
each at most once and with one token.  Each of them is asked exactly if all stages
before it succeed.  The outcome is a refusal exactly if the rights refuse a file
that was found; otherwise it is that of the first stage that fails, or the link.
Behind the answer of the gateway the target makes no difference. -/
theorem openFile_in_stages (opener : Opener) (clock : Clock) (target : FileTarget)
    (caller : Caller) :
    let run := (opener.openFile clock target caller).run
    (∃ reference token request, run.asked <+:
      [.stat reference token, .fetchCatalogue, .openSession request token]) ∧
    (∀ reference token, .stat reference token ∈ run.asked ↔
      opener.Asks clock target caller reference token) ∧
    (.fetchCatalogue ∈ run.asked ↔ ∃ reference token metadata mode kind,
      opener.Admits clock target caller reference token metadata mode kind) ∧
    (∀ request token, .openSession request token ∈ run.asked ↔
      ∃ reference metadata mode kind catalogue address,
        opener.Offers clock target caller reference token metadata mode kind catalogue
            address ∧
          request = sessionRequest metadata mode caller) ∧
    (∀ reason, run.result = .ok (.denied reason) ↔ ∃ reference token metadata,
      opener.Finds clock target caller reference token metadata ∧
        metadata.kind = .file ∧ metadata.decide = .denied reason) ∧
    (∀ calls outcome, run.asked = calls ∧ run.result = outcome ↔
      opener.Run clock target caller calls outcome) ∧
    (∀ other reference otherReference token,
      opener.Asks clock target caller reference token →
      opener.Asks clock other caller otherReference token →
      (opener.backend.stat otherReference token).run.result =
        (opener.backend.stat reference token).run.result →
      (opener.openFile clock other caller).run.asked.tail = run.asked.tail ∧
        (opener.openFile clock other caller).run.result = run.result) := by
  intro run
  have reaches := reaches_asked opener clock target caller
  refine ⟨reaches.isPrefix, ?gateway, ?catalogue, ?bridge, ?refusal, ?place, ?target⟩
  case gateway =>
    intro reference token
    exact ⟨reaches.asks, Asks.mem_asked⟩
  case catalogue =>
    constructor
    · exact reaches.admits
    · rintro ⟨reference, token, metadata, mode, kind, admits⟩
      exact admits.mem_asked
  case bridge =>
    intro request token
    constructor
    · exact reaches.offers
    · rintro ⟨reference, metadata, mode, kind, catalogue, address, offers, rfl⟩
      exact offers.mem_asked
  case refusal =>
    intro reason
    constructor
    · intro denied
      have ends : opener.Run clock target caller run.asked run.result := run_iff.mpr rfl
      rw [denied] at ends
      exact ends.denied_of_eq
    · rintro ⟨reference, token, metadata, finds, file, refused⟩
      exact congrArg Prod.snd (Run.denied finds file refused).observed_eq
  case place =>
    intro calls outcome
    rw [run_iff, ← Prod.mk.injEq]
    rfl
  case target =>
    intro other reference otherReference token asks otherAsks sameAnswer
    exact observed_openFile_eq_of_stat_eq asks otherAsks sameAnswer

end Opener

end EditorLaunch
