import TrueFamily.Mqtt.Opening
import TrueFamily.Runtime.Sessions

/-!
# The attribution of an open request

What the messages between the start of one open request and its end must have been when it returns:
the acknowledgement, an open state with the expected end, and nothing that disturbs them. No other
request runs meanwhile.
-/

namespace TrueFamily.Mqtt

namespace Client

open JsonValue
open TrueFamily.Runtime (chars field)

variable {decoder : Decoder} {client next : Client} {request : OpenRequest}

/-! ## The request on its own -/

/-- No request runs but the open one. -/
def Alone (request : OpenRequest) (client : Client) : Prop :=
  client.requests = [] ∨ client.requests = [.openAck request.transaction request.generation]
    ∨ ∃ generation acknowledgedAt,
      client.requests = [.openProof request.generation generation acknowledgedAt]

theorem requests_state {message : Message} {clock : Clock} :
    (client.bridgeStateReceived decoder message clock).requests = client.requests := by
  unfold bridgeStateReceived
  dsimp only
  split
  · rfl
  · rfl
  · split
    · rfl
    · refine (keeps_classified _).requests.trans ?_
      split <;> rfl

theorem requests_info {message : Message} {clock : Clock} :
    (client.bridgeInfoReceived decoder message clock).requests = client.requests := by
  unfold bridgeInfoReceived
  dsimp only
  split
  · rfl
  · rfl
  · split
    · rfl
    · exact (keeps_classified _).requests

/-- What a turn of the request on its own does. -/
theorem checkOpened_cases {requestGeneration : ℕ} {acknowledgedAt : ℤ} {event : Event}
    (h : client.checkOpened requestGeneration acknowledgedAt = (event, next)) :
    event = .failed
      ∨ (event = .opened acknowledgedAt ∧ client.unsafeGeneration ≤ requestGeneration
        ∧ client.unattributedOpenGeneration ≤ requestGeneration
        ∧ client.attribution.acknowledged = true
        ∧ requestGeneration < client.attribution.infoGeneration)
      ∨ (event = .waiting ∧ next = client.suspend
        (.openProof requestGeneration client.generation acknowledgedAt)) := by
  unfold checkOpened at h
  split at h
  · cases h
    exact Or.inl rfl
  · rename_i hsafe
    simp only [not_or, not_lt] at hsafe
    split at h
    · rename_i hopened
      cases h
      exact Or.inr (Or.inl ⟨rfl, hsafe.1, hsafe.2.1, hopened.1, hopened.2⟩)
    · cases h
      exact Or.inr (Or.inr ⟨rfl, rfl⟩)

/-- The fields that a turn leaves while the request waits on. -/
structure WaitsOn (request : OpenRequest) (client next : Client) : Prop where
  alone : Alone request next
  generation : next.generation = client.generation
  unsafeGeneration : next.unsafeGeneration = client.unsafeGeneration
  unattributed : next.unattributedOpenGeneration = client.unattributedOpenGeneration
  online : next.online = client.online
  seen : next.bridgeInfoSeen = client.bridgeInfoSeen
  attribution : next.attribution = client.attribution
  pending : ∀ pending, next.pending.get? request.transaction = some pending →
    client.pending.get? request.transaction = some pending

theorem turn_cases {suspended : Request} {event : Event} (halone : Alone request client)
    (hsuspended : client.requests = [suspended])
    (h : { client with requests := [] }.resume suspended = some (event, next)) :
    event = .failed
      ∨ (∃ acknowledgedAt, event = .opened acknowledgedAt
        ∧ client.unsafeGeneration ≤ request.generation
        ∧ client.unattributedOpenGeneration ≤ request.generation
        ∧ client.attribution.acknowledged = true
        ∧ request.generation < client.attribution.infoGeneration)
      ∨ (event = .waiting ∧ WaitsOn request client next) := by
  rcases halone with halone | halone | ⟨generation, acknowledgedAt, halone⟩
  · rw [halone] at hsuspended
    cases hsuspended
  · rw [halone, List.cons.injEq] at hsuspended
    rw [← hsuspended.1] at h
    unfold resume at h
    dsimp only at h
    split at h
    · rename_i acknowledgedAt _
      rcases checkOpened_cases (Option.some.inj h) with rfl | ⟨rfl, hopened⟩ | ⟨rfl, rfl⟩
      · exact Or.inl rfl
      · exact Or.inr (Or.inl ⟨acknowledgedAt, rfl, hopened⟩)
      · refine Or.inr (Or.inr ⟨rfl, Or.inr (Or.inr ⟨_, _, rfl⟩), rfl, rfl, rfl, rfl, rfl, rfl,
          fun pending hget => ?_⟩)
        have hget : (client.pending.erase request.transaction).get? request.transaction
            = some pending := hget
        rw [Dict.get?_erase_self] at hget
        cases hget
    · cases h
      exact Or.inl rfl
    · cases h
  · rw [halone, List.cons.injEq] at hsuspended
    rw [← hsuspended.1] at h
    unfold resume at h
    dsimp only at h
    split at h
    · rcases checkOpened_cases (Option.some.inj h) with rfl | ⟨rfl, hopened⟩ | ⟨rfl, rfl⟩
      · exact Or.inl rfl
      · exact Or.inr (Or.inl ⟨acknowledgedAt, rfl, hopened⟩)
      · exact Or.inr (Or.inr ⟨rfl, Or.inr (Or.inr ⟨_, _, rfl⟩), rfl, rfl, rfl, rfl, rfl, rfl,
          fun _ hget => hget⟩)
    · cases h

/-- Between the start and the end of the request: it is alone, and spoiled or clean. -/
theorem run_during {events : List Event} {start : Client}
    (hrun : Trace.Run (During decoder) start events client)
    (hhandled : ∀ event ∈ events, event.Handled decoder) (halone : Alone request start)
    (hclean : Clean decoder request [] start) :
    Alone request client ∧ (Spoiled request client ∨ Clean decoder request events client) := by
  induction hrun with
  | start => exact ⟨halone, Or.inr hclean⟩
  | @snoc events middle last event hrun hlast ih =>
    obtain ⟨halone, hstate⟩ := ih fun event hmem => hhandled event (List.mem_append_left _ hmem)
    have hhandled := hhandled event (List.mem_append_right _ List.mem_cons_self)
    cases hlast with
    | state message clock =>
      refine ⟨by rw [Alone, requests_state]; exact halone, Or.inl ?_⟩
      rcases hstate with hspoiled | hclean
      · exact hspoiled.grows (grows_state message)
      · exact hclean.state message clock hhandled
    | info message clock =>
      refine ⟨by rw [Alone, requests_info]; exact halone, ?_⟩
      rcases hstate with hspoiled | hclean
      · exact Or.inl (hspoiled.grows (grows_info message))
      · exact hclean.info message clock hhandled
    | response message clock =>
      refine ⟨by rw [Alone, (keeps_joinResponse message).requests]; exact halone, ?_⟩
      rcases hstate with hspoiled | hclean
      · exact Or.inl (hspoiled.grows (grows_response message))
      · exact hclean.response message clock
    | turn hsuspended hresume =>
      rcases turn_cases halone hsuspended hresume with hbad | ⟨_, hbad, -⟩ | ⟨-, hwaits⟩
      · cases hbad
      · cases hbad
      · refine ⟨hwaits.alone, ?_⟩
        rcases hstate with ⟨hgeneration, hspoiled⟩ | hclean
        · refine Or.inl ⟨?_, ?_⟩
          · rw [hwaits.generation]
            exact hgeneration
          · rw [hwaits.unsafeGeneration, hwaits.unattributed]
            exact hspoiled
        · exact Or.inr (hclean.keep hwaits.generation hwaits.online hwaits.seen hwaits.attribution
            (fun pending hget => hclean.pending pending (hwaits.pending pending hget))
            (Or.inl rfl))

/-- The start of a request over a closed baseline: it is alone and clean, or it raises. -/
theorem openJoin_clean {past : List Event} {start : Client} {seconds : ℤ} {transaction : Text}
    {clock : Clock} (hbacked : Backed decoder past client) (hrequests : client.requests = [])
    (hopen : client.openJoin seconds transaction clock = (.openRequested transaction, start)) :
    start.requests = []
      ∨ (Alone ⟨transaction, seconds, clock, client.generation⟩ start
        ∧ Clean decoder ⟨transaction, seconds, clock, client.generation⟩ [] start) := by
  unfold openJoin at hopen
  split at hopen
  · cases hopen
  split at hopen
  · cases hopen
  rename_i hbaseline
  obtain ⟨state, hstate⟩ := Option.ne_none_iff_exists'.1 hbaseline
  obtain ⟨-, hproof, -⟩ := currentClosedBaseline_eq_some hstate
  obtain ⟨honline, hpermit, -⟩ := hbacked.proof hproof
  have hseen := hbacked.seen (by rw [hpermit]; simp)
  split at hopen
  · cases hopen
  obtain ⟨-, rfl⟩ := Prod.mk.inj hopen
  unfold requestJoin
  split
  · exact Or.inl hrequests
  · refine Or.inr ⟨Or.inr (Or.inl ?_), ?_⟩
    · show client.requests ++ _ = _
      rw [hrequests]
      rfl
    · refine
        { generation := le_rfl
          online := honline
          seen := hseen
          attributes := ⟨rfl, rfl, rfl, rfl, rfl, rfl⟩
          pending := fun pending hget => ?_
          noState := fun _ hmem => (by cases hmem)
          acknowledged := fun hbad => (by cases hbad)
          attributed := fun hbad => absurd hbad (Nat.not_lt_zero _)
          infos := fun _ _ hmem => (by cases hmem)
          provisional := fun _ hbad => (by cases hbad)
          unseen := fun _ _ _ hmem => (by cases hmem)
          settled := ⟨[], [], rfl, fun before event after finish hbad => (by
            cases before <;> cases hbad), fun _ => rfl, fun hbad => (by cases hbad)⟩ }
      have hget : (client.pending.set transaction ⟨seconds, none⟩).get? transaction
          = some pending := hget
      rw [Dict.get?_set_self, Option.some.injEq] at hget
      rw [← hget]

/-- The last turn of the request: it goes on, or its time-out or a cancellation ends it. -/
inductive Turn (client : Client) (suspended : Request) : Event → Client → Prop
  | resumed {event : Event} {next : Client} :
      { client with requests := [] }.resume suspended = some (event, next) →
      Turn client suspended event next
  | interrupted : Turn client suspended .failed ({ client with requests := [] }.interrupt suspended)

theorem Turn.cases {suspended : Request} {event : Event} (h : Turn client suspended event next) :
    { client with requests := [] }.resume suspended = some (event, next) ∨ event = .failed := by
  cases h with
  | resumed hresumed => exact Or.inl hresumed
  | interrupted => exact Or.inr rfl

/-! ## The close after a failure -/

/-- What runs while the opening waits inside the mutation lock: the callback, and a shutdown up to
the lock. -/
inductive Meanwhile : Runtime.Lifecycle → Runtime.Lifecycle.Event → Runtime.Lifecycle → Prop
  | notified (runtime : Runtime.Lifecycle) (state : Option BridgePermitState)
      (attributedTransaction : Option Text) :
      Meanwhile runtime (.notified state attributedTransaction)
        (runtime.handleBridgePermitState state attributedTransaction)
  | shutdown (runtime : Runtime.Lifecycle) :
      Meanwhile runtime .task { runtime with closing := true }

/-- The joining of the session is not known to be closed. -/
def NotClosed (sessionId : Text) (runtime : Runtime.Lifecycle) : Prop :=
  ∃ session, runtime.sessions.get? sessionId = some session ∧ session.joinClosed = false

theorem NotClosed.setTerminal {runtime : Runtime.Lifecycle} {sessionId other : Text}
    {session : Runtime.Session} {phase : Runtime.ReplacementPhase} (h : NotClosed sessionId runtime)
    (hget : runtime.sessions.get? other = some session) :
    NotClosed sessionId (runtime.setTerminal other session phase) := by
  obtain ⟨found, hfound, hopen⟩ := h
  by_cases hsame : sessionId = other
  · subst hsame
    rw [hget, Option.some.injEq] at hfound
    exact ⟨_, Dict.get?_set_self _ _ _, hfound ▸ hopen⟩
  · exact ⟨found, (Dict.get?_set_of_ne _ _ hsame).trans hfound, hopen⟩

/-- A session that is looked up under an optional ID is stored under its own. -/
theorem get?_of_bind {sessions : Dict Text Runtime.Session} {sessionId : Option Text}
    {found : Text × Runtime.Session} (h : (sessionId.bind fun sessionId =>
      (sessions.get? sessionId).map fun session => (sessionId, session)) = some found) :
    sessions.get? found.1 = some found.2 := by
  obtain ⟨id, -, hfound⟩ := Option.bind_eq_some_iff.1 h
  obtain ⟨session, hsession, rfl⟩ := Option.map_eq_some_iff.1 hfound
  exact hsession

/-- The callback closes no joining. -/
theorem NotClosed.handleUnsafe {runtime : Runtime.Lifecycle} {sessionId : Text}
    (h : NotClosed sessionId runtime) : NotClosed sessionId runtime.handleUnsafe := by
  unfold Runtime.Lifecycle.handleUnsafe
  dsimp only
  split
  · exact h
  · rename_i other session hfound
    split
    · exact h
    · -- the session that fails is the active one, or else the owner of joining
      have hget : runtime.sessions.get? other = some session := by
        cases hactive : { runtime with bridgeRequiresClosure := true }.activeSession with
        | none =>
          rw [hactive] at hfound
          exact get?_of_bind hfound
        | some active =>
          rw [hactive] at hfound
          cases hfound
          exact get?_of_bind hactive
      exact @NotClosed.setTerminal { runtime with bridgeRequiresClosure := true } _ _ _ _ h hget

theorem NotClosed.meanwhile {runtime next : Runtime.Lifecycle} {sessionId : Text}
    {event : Runtime.Lifecycle.Event} (h : NotClosed sessionId runtime)
    (hstep : Meanwhile runtime event next) : NotClosed sessionId next := by
  cases hstep with
  | notified state attributedTransaction =>
    unfold Runtime.Lifecycle.handleBridgePermitState
    split
    · exact h.handleUnsafe
    · split
      · exact h
      · split
        · exact h
        · exact h.handleUnsafe
  | shutdown => exact h

/-- A session whose opening failed closes joining, whatever it acknowledged. -/
theorem endOpening_forced {runtime : Runtime.Lifecycle} {sessionId : Text}
    {session : Runtime.Session} {baseline : Bool}
    (hproved : runtime.provedClosed session baseline = false) :
    (runtime.endOpening sessionId session false baseline).holder
      = some (.closing sessionId .openFailed) := by
  unfold Runtime.Lifecycle.endOpening
  rw [if_pos rfl, Runtime.Lifecycle.attemptClose, hproved, if_neg (by simp), if_neg (by simp)]
  rfl

/-- The session that a start has created is not closed when its opening ends. -/
theorem notClosed_of_start {before waiting runtime : Runtime.Lifecycle} {sessionId : Text}
    {found : Bool} {events : List Runtime.Lifecycle.Event}
    (hstart : before.start sessionId found = some waiting)
    (hwaits : waiting.holder = some (.opening sessionId))
    (hrun : Trace.Run Meanwhile waiting events runtime) : NotClosed sessionId runtime := by
  refine hrun.invariant (I := NotClosed sessionId) ?_ fun _ _ _ h hstep => h.meanwhile hstep
  unfold Runtime.Lifecycle.start at hstart
  -- a start is refused twice, reconciles first, or creates the session
  split at hstart
  · cases hstart
  split at hstart
  · cases hstart
  split at hstart
  · cases hstart
    cases hwaits
  · cases hstart
    exact ⟨_, Dict.get?_set_self _ _ _, rfl⟩

/-- An open request that ends raises, and the runtime then forces a close; or it returns, and it
was acknowledged, an expected open state arrived in its windows, every info message was live and
closed or expected, no state message arrived, and before the first acknowledgement nothing followed
an open state. -/
theorem open_attributed {past events : List Event} {start finish last : Client}
    {transaction : Text} {seconds : ℤ} {clock : Clock} {suspended : Request} {event : Event}
    (hpast : Trace.Run (Step decoder) init past client) (hrequests : client.requests = [])
    (hhandled : ∀ event ∈ past ++ events, event.Handled decoder)
    (hopen : client.openJoin seconds transaction clock = (.openRequested transaction, start))
    (hrun : Trace.Run (During decoder) start events finish)
    (hsuspended : finish.requests = [suspended])
    (hturn : Turn finish suspended event last) :
    (∀ (runtime : Runtime.Lifecycle) sessionId session baseline,
      runtime.provedClosed session baseline = false →
      (runtime.endOpening sessionId session false baseline).holder
        = some (.closing sessionId .openFailed))
      ∧ (∀ (before waiting runtime : Runtime.Lifecycle) found happened session baseline,
        before.start transaction found = some waiting →
        waiting.holder = some (.opening transaction) →
        Trace.Run Meanwhile waiting happened runtime →
        runtime.sessions.get? transaction = some session →
        ({ runtime with holder := none }.endOpening transaction session false baseline).holder
          = some (.closing transaction .openFailed))
      ∧ (event = .waiting ∨ event = .failed ∨ ∃ acknowledgedAt, event = .opened acknowledgedAt
        ∧ ∃ request : OpenRequest, request = ⟨transaction, seconds, clock, client.generation⟩
        ∧ (∃ message, .response message ∈ events ∧ request.Acknowledged decoder message)
        ∧ (∃ event ∈ events, ∃ finish, Said decoder request event true finish
          ∧ request.Expects finish)
        ∧ (∀ message clock, .info message clock ∈ events → ∃ permitJoin finish,
          Said decoder request (.info message clock) permitJoin finish
            ∧ (permitJoin = true → request.Expects finish))
        ∧ (∀ message, .state message ∉ events)
        ∧ ∃ before message after, events = before ++ .response message :: after
          ∧ request.Acknowledged decoder message ∧ Settled decoder request before) := by
  refine ⟨fun runtime sessionId session baseline => endOpening_forced,
    fun before waiting runtime found happened session baseline hstart hwaits hmeanwhile hget => ?_,
    ?_⟩
  · obtain ⟨stored, hstored, hopened⟩ := notClosed_of_start hstart hwaits hmeanwhile
    rw [hget, Option.some.injEq] at hstored
    subst hstored
    exact endOpening_forced (by rw [Runtime.Lifecycle.provedClosed, hopened]; rfl)
  have hbacked := run_backed hpast fun event hmem => hhandled event (List.mem_append_left _ hmem)
  -- no message makes a request wait
  have hempty : start.requests = [] → ∀ {events finish}, Trace.Run (During decoder) start events
      finish → finish.requests = [] := by
    intro hstart events finish hrun
    refine hrun.invariant (I := fun client => client.requests = []) hstart
      fun client event next hnone hstep => ?_
    cases hstep with
    | state message clock => exact requests_state.trans hnone
    | info message clock => exact requests_info.trans hnone
    | response message clock => exact (keeps_joinResponse message).requests.trans hnone
    | turn hsome _ =>
      rw [hnone] at hsome
      cases hsome
  rcases openJoin_clean hbacked hrequests hopen with hstart | ⟨halone, hclean⟩
  · rw [hempty hstart hrun] at hsuspended
    cases hsuspended
  obtain ⟨halone, hstate⟩ := run_during hrun
    (fun event hmem => hhandled event (List.mem_append_right _ hmem)) halone hclean
  rcases hturn.cases with hresumed | rfl
  -- the turn waits on, returns or raises
  · rcases turn_cases halone hsuspended hresumed with
      rfl | ⟨acknowledgedAt, rfl, hopened⟩ | ⟨rfl, -⟩
    · exact Or.inr (Or.inl rfl)
    · obtain ⟨hsafe, hattributed, hack, hinfo⟩ := hopened
      rcases hstate with ⟨-, hspoiled⟩ | hclean
      -- what it checks before it returns is that nothing spoiled it
      · rcases hspoiled with hspoiled | hspoiled
        · exact absurd hspoiled (Nat.not_lt.2 hsafe)
        · exact absurd hspoiled (Nat.not_lt.2 hattributed)
      · obtain ⟨hnone, response, hmem, hresponse⟩ := hclean.acknowledged hack
        obtain ⟨before, after, heq, hbefore, -, hafter⟩ := hclean.settled
        obtain ⟨message, rest, rfl, hmessage⟩ := hafter hack
        refine Or.inr (Or.inr ⟨acknowledgedAt, rfl, _, rfl, ⟨response, hmem, hresponse⟩,
          hclean.attributed hinfo, fun other time hother => ?_, hclean.noState, before, message,
          rest, heq, hmessage, hbefore⟩)
        obtain ⟨permitJoin, finish, hsaid, hexpects⟩ := hclean.infos other time hother
        refine ⟨permitJoin, finish, hsaid, fun hbad => ?_⟩
        rcases hexpects hbad with hexpects | ⟨state, hprovisional, -⟩
        · exact hexpects
        · rw [hnone] at hprovisional
          cases hprovisional
    · exact Or.inl rfl
  · exact Or.inr (Or.inl rfl)

/-! ## An open request on concrete messages -/

def openMessage : Message :=
  ⟨.str (chars "\x7b\"permit_join\":true,\"permit_join_end\":60\x7d"), some false⟩

def openAcknowledgement : Message :=
  ⟨.str (chars
    "\x7b\"data\":\x7b\"time\":60\x7d,\"status\":\"ok\",\"transaction\":\"open\"\x7d"), some false⟩

/-- An open request of the client with the closed baseline. -/
def sampleOpening : Client := (sampleClosed.2.openJoin 60 (chars "open") sampleClock).2

/-- The open state arrives before its acknowledgement. -/
def sampleAcknowledged : Client :=
  (sampleOpening.bridgeInfoReceived sampleDecoder openMessage sampleClock).joinResponseReceived
    sampleDecoder openAcknowledgement sampleClock

def sampleOpenRequest : Request := .openAck (chars "open") 3

def sampleOpened : Event × Client :=
  ({ sampleAcknowledged with requests := [] }.resume sampleOpenRequest).getD (.failed, init)

theorem sample_during : Trace.Run (During sampleDecoder) sampleOpening
    ([] ++ [.info openMessage sampleClock] ++ [.response openAcknowledgement])
    sampleAcknowledged :=
  (Trace.Run.start.snoc (.info _ _ _)).snoc (.response _ _ sampleClock)

theorem sample_open_handled :
    ∀ event ∈ sampleEvents ++ [.info openMessage sampleClock, .response openAcknowledgement],
      event.Handled sampleDecoder := by
  have hopen : readInfo sampleDecoder openMessage sampleClock ≠ .raised := by decide
  intro event hmem
  rcases List.mem_append.1 hmem with hmem | hmem
  · exact sample_handled event hmem
  · rcases List.mem_pair.1 hmem with rfl | rfl
    · exact hopen
    · exact trivial

/-- The open request of the run returns: its state was attributed. -/
theorem sample_open_attributed :
    sampleOpened.1 = .opened 0
      ∧ ∃ before message after,
        [Event.info openMessage sampleClock, .response openAcknowledgement]
          = before ++ .response message :: after
        ∧ OpenRequest.Acknowledged sampleDecoder
          ⟨chars "open", 60, sampleClock, sampleClosed.2.generation⟩ message := by
  have hrequests : sampleClosed.2.requests = [] := rfl
  have hopen : sampleClosed.2.openJoin 60 (chars "open") sampleClock
      = (.openRequested (chars "open"), sampleOpening) := rfl
  have hsuspended : sampleAcknowledged.requests = [sampleOpenRequest] := rfl
  have hturn : { sampleAcknowledged with requests := [] }.resume sampleOpenRequest
      = some (.opened 0, sampleOpened.2) := rfl
  refine ⟨rfl, ?_⟩
  rcases (open_attributed sample_run hrequests sample_open_handled hopen sample_during hsuspended
    (.resumed hturn)).2.2 with hwaiting | hfailed | ⟨_, _, _, rfl, -, -, -, -, hsplit⟩
  · cases hwaiting
  · cases hfailed
  · obtain ⟨before, message, after, heq, hmessage, -⟩ := hsplit
    exact ⟨before, message, after, heq, hmessage⟩

/-- A second acknowledgement does not disturb the request. -/
theorem repeated_acknowledgement :
    ¬ ∀ (past events : List Event) (client start finish last : Client) (transaction : Text)
        (seconds : ℤ) (clock : Clock) (suspended : Request) (acknowledgedAt : ℤ),
      Trace.Run (Step sampleDecoder) init past client → client.requests = [] →
      (∀ event ∈ past ++ events, event.Handled sampleDecoder) →
      client.openJoin seconds transaction clock = (.openRequested transaction, start) →
      Trace.Run (During sampleDecoder) start events finish → finish.requests = [suspended] →
      { finish with requests := [] }.resume suspended = some (.opened acknowledgedAt, last) →
      ∃ before message after, events = before ++ .response message :: after
        ∧ OpenRequest.Acknowledged sampleDecoder ⟨transaction, seconds, clock, client.generation⟩
          message
        ∧ ∀ other, .response other ∈ before ++ after → ¬ OpenRequest.Acknowledged sampleDecoder
          ⟨transaction, seconds, clock, client.generation⟩ other := by
  intro hall
  have hrun : Trace.Run (During sampleDecoder) sampleOpening
      ([.info openMessage sampleClock, .response openAcknowledgement]
        ++ [.response openAcknowledgement]) sampleAcknowledged :=
    sample_during.snoc (.response sampleAcknowledged openAcknowledgement sampleClock)
  have hhandled : ∀ event ∈ sampleEvents
      ++ ([.info openMessage sampleClock, .response openAcknowledgement]
        ++ [.response openAcknowledgement]), event.Handled sampleDecoder := by
    intro event hmem
    rw [← List.append_assoc, List.mem_append, List.mem_singleton] at hmem
    rcases hmem with hmem | rfl
    · exact sample_open_handled event hmem
    · exact trivial
  obtain ⟨before, message, after, heq, hmessage, hothers⟩ :=
    hall _ _ _ sampleOpening _ sampleOpened.2 (chars "open") 60 sampleClock sampleOpenRequest 0
      sample_run rfl hhandled rfl hrun rfl rfl
  match before, heq with
  | [event], heq =>
    cases heq
    exact hothers openAcknowledgement (by simp) hmessage
  | [event, other], heq =>
    cases heq
    exact hothers openAcknowledgement (by simp) hmessage
  | event :: other :: third :: rest, heq => simp at heq

end Client

end TrueFamily.Mqtt
