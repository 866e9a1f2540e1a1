import TrueFamily.Mqtt.Client

/-!
# The closed baseline

What stands behind a closed baseline: the last messages of the two topics, and a close barrier
since which nothing disturbed the proof. Messages on which the decoder raises something else than
its own error are left out.
-/

namespace TrueFamily.Mqtt

namespace Client

open JsonValue
open TrueFamily.Runtime (chars)

/-! ## What a step leaves alone -/

/-- The fields that a baseline reads, and the requests. -/
structure Keeps (client next : Client) : Prop where
  subscribed : next.subscribed = client.subscribed
  setupGeneration : next.setupGeneration = client.setupGeneration
  online : next.online = client.online
  permitJoin : next.permitJoin = client.permitJoin
  permitRetained : next.permitRetained = client.permitRetained
  permitObservedMonotonic : next.permitObservedMonotonic = client.permitObservedMonotonic
  closedProofGeneration : next.closedProofGeneration = client.closedProofGeneration
  requests : next.requests = client.requests
  bridgeInfoSeen : next.bridgeInfoSeen = client.bridgeInfoSeen

variable {decoder : Decoder} {client next : Client} {clock : Clock}

theorem Keeps.refl (client : Client) : Keeps client client :=
  ⟨rfl, rfl, rfl, rfl, rfl, rfl, rfl, rfl, rfl⟩

theorem Keeps.trans {middle : Client} (h : Keeps client middle) (h' : Keeps middle next) :
    Keeps client next :=
  ⟨h'.subscribed.trans h.subscribed, h'.setupGeneration.trans h.setupGeneration,
    h'.online.trans h.online, h'.permitJoin.trans h.permitJoin,
    h'.permitRetained.trans h.permitRetained,
    h'.permitObservedMonotonic.trans h.permitObservedMonotonic,
    h'.closedProofGeneration.trans h.closedProofGeneration, h'.requests.trans h.requests,
    h'.bridgeInfoSeen.trans h.bridgeInfoSeen⟩

theorem keeps_notify (state : Option BridgePermitState) (transaction : Option Text) :
    Keeps client (client.notifyPermitState state transaction) :=
  ⟨rfl, rfl, rfl, rfl, rfl, rfl, rfl, rfl, rfl⟩

theorem keeps_rejectOpenState (state : BridgePermitState) :
    Keeps client (client.rejectOpenState state) := ⟨rfl, rfl, rfl, rfl, rfl, rfl, rfl, rfl, rfl⟩

theorem keeps_attribution (attribution : OpenAttribution) :
    Keeps client { client with attribution := attribution } :=
  ⟨rfl, rfl, rfl, rfl, rfl, rfl, rfl, rfl, rfl⟩

theorem keeps_classified (state : Option BridgePermitState) :
    Keeps client (client.notifyClassifiedPermitState clock state) := by
  unfold notifyClassifiedPermitState
  cases state with
  | none => exact keeps_notify _ _
  | some state =>
    dsimp only
    split
    · split
      · exact keeps_rejectOpenState state
      · exact keeps_notify _ _
    · split
      · exact ⟨rfl, rfl, rfl, rfl, rfl, rfl, rfl, rfl, rfl⟩
      · split
        · split
          · exact keeps_rejectOpenState state
          · split
            · exact keeps_attribution _
            · split
              · exact .refl client
              · exact keeps_rejectOpenState state
        · split
          · exact keeps_rejectOpenState state
          · exact (keeps_attribution _).trans (keeps_notify _ _)

theorem keeps_rejectProvisionalOpen (fails : Bool) :
    Keeps client (client.rejectProvisionalOpen fails) := by
  unfold rejectProvisionalOpen
  split
  · exact .refl client
  · dsimp only
    split
    · exact ⟨rfl, rfl, rfl, rfl, rfl, rfl, rfl, rfl, rfl⟩
    · exact keeps_rejectOpenState _

theorem keeps_commitProvisionalOpen (transaction : Text) :
    Keeps client (client.commitProvisionalOpen clock transaction) := by
  unfold commitProvisionalOpen
  split
  · exact .refl client
  · dsimp only
    split
    · exact ⟨rfl, rfl, rfl, rfl, rfl, rfl, rfl, rfl, rfl⟩
    · exact ⟨rfl, rfl, rfl, rfl, rfl, rfl, rfl, rfl, rfl⟩

theorem keeps_resolve (transaction : Text) (seconds : ℤ) (result : Except Unit ℤ) :
    Keeps client (client.resolve transaction seconds result) :=
  ⟨rfl, rfl, rfl, rfl, rfl, rfl, rfl, rfl, rfl⟩

/-- A response changes no field that a baseline reads. -/
theorem keeps_joinResponse (message : Message) :
    Keeps client (client.joinResponseReceived decoder message clock) := by
  unfold joinResponseReceived
  split
  · exact .refl client
  · exact keeps_rejectProvisionalOpen true
  · split
    · split
      · exact keeps_rejectProvisionalOpen true
      · split
        · exact .refl client
        · split
          · dsimp only
            split
            · exact (keeps_rejectProvisionalOpen false).trans (keeps_resolve _ _ _)
            · exact keeps_resolve _ _ _
          · split
            · split
              · exact (keeps_rejectProvisionalOpen false).trans (keeps_resolve _ _ _)
              · exact ((keeps_attribution _).trans (keeps_commitProvisionalOpen _)).trans
                  (keeps_resolve _ _ _)
            · exact keeps_resolve _ _ _
    · exact keeps_rejectProvisionalOpen true

/-! ## Messages -/

/-- The state message of an event. -/
def Event.stateMessage? : Event → Option Message
  | .state message => some message
  | _ => none

/-- The info message of an event, with the clock. -/
def Event.infoMessage? : Event → Option (Message × Clock)
  | .info message clock => some (message, clock)
  | _ => none

def lastState (events : List Event) : Option Message :=
  (events.filterMap Event.stateMessage?).getLast?

def lastInfo (events : List Event) : Option (Message × Clock) :=
  (events.filterMap Event.infoMessage?).getLast?

theorem lastState_concat {events : List Event} {event : Event} :
    lastState (events ++ [event]) = event.stateMessage?.or (lastState events) := by
  rw [lastState, List.filterMap_append]
  cases h : event.stateMessage? with
  | none => simp [h, lastState]
  | some message => simp [h]

theorem lastInfo_concat {events : List Event} {event : Event} :
    lastInfo (events ++ [event]) = event.infoMessage?.or (lastInfo events) := by
  rw [lastInfo, List.filterMap_append]
  cases h : event.infoMessage? with
  | none => simp [h, lastInfo]
  | some message => simp [h]

/-- The message is decoded, or rejected as the callbacks expect. -/
def Event.Handled (decoder : Decoder) : Event → Prop
  | .state message => readState decoder message ≠ .raised
  | .info message clock => readInfo decoder message clock ≠ .raised
  | _ => True

/-- A message that the parser rejects. -/
def Event.Rejected (decoder : Decoder) : Event → Prop
  | .state message => readState decoder message = .rejected
  | .info message clock => readInfo decoder message clock = .rejected
  | _ => False

/-- What a closed proof does not survive: any state message, an info message other than a live one
that says closed, and an open request. -/
def Event.Disturbs (decoder : Decoder) : Event → Prop
  | .state _ => True
  | .info message clock => ∀ finish, readInfo decoder message clock ≠ .parsed (false, false, finish)
  | .openRequested _ => True
  | _ => False

/-! ## Requests -/

/-- What a request does to the fields that a baseline reads: nothing, it withdraws the closed proof,
or it completes a close barrier over a live closed state. -/
structure Requests (client : Client) (event : Event) (next : Client) : Prop where
  noState : event.stateMessage? = none
  noInfo : event.infoMessage? = none
  subscribed : next.subscribed = client.subscribed
  online : next.online = client.online
  permitJoin : next.permitJoin = client.permitJoin
  permitRetained : next.permitRetained = client.permitRetained
  permitObservedMonotonic : next.permitObservedMonotonic = client.permitObservedMonotonic
  bridgeInfoSeen : next.bridgeInfoSeen = client.bridgeInfoSeen
  closedProof : (next.closedProofGeneration = client.closedProofGeneration
      ∧ ∀ decoder, ¬ event.Disturbs decoder)
    ∨ next.closedProofGeneration = 0
    ∨ ∃ observedAt, event = .closed observedAt ∧ client.online = some true
      ∧ client.permitJoin = some false ∧ client.permitRetained = false

theorem Requests.not_rejected {event : Event} (h : Requests client event next) :
    ¬ event.Rejected decoder := by
  intro hrejected
  cases event with
  | state message => cases h.noState
  | info message clock => cases h.noInfo
  | setup => exact hrejected
  | response message => exact hrejected
  | openRequested transaction => exact hrejected
  | opened acknowledgedAt => exact hrejected
  | closed observedAt => exact hrejected
  | waiting => exact hrejected
  | failed => exact hrejected

theorem requests_failed (h : Keeps { client with requests := next.requests } next) :
    Requests client .failed next :=
  ⟨rfl, rfl, h.subscribed, h.online, h.permitJoin, h.permitRetained, h.permitObservedMonotonic,
    h.bridgeInfoSeen, Or.inl ⟨h.closedProofGeneration, fun _ hbad => hbad⟩⟩

theorem requests_waiting (h : Keeps { client with requests := next.requests } next) :
    Requests client .waiting next :=
  ⟨rfl, rfl, h.subscribed, h.online, h.permitJoin, h.permitRetained, h.permitObservedMonotonic,
    h.bridgeInfoSeen, Or.inl ⟨h.closedProofGeneration, fun _ hbad => hbad⟩⟩

theorem requests_of_popPending {transaction : Text} {event : Event}
    (h : Requests (client.popPending transaction) event next) : Requests client event next :=
  ⟨h.noState, h.noInfo, h.subscribed, h.online, h.permitJoin, h.permitRetained,
    h.permitObservedMonotonic, h.bridgeInfoSeen, h.closedProof⟩

theorem requestJoin_eq_some {seconds : ℤ} {transaction : Text} {request : Request}
    (h : client.requestJoin seconds transaction request = some next) :
    Keeps { client with requests := next.requests } next := by
  unfold requestJoin at h
  split at h
  · cases h
  · cases h
    exact ⟨rfl, rfl, rfl, rfl, rfl, rfl, rfl, rfl, rfl⟩

theorem requests_enterClose {transaction : Text} {event : Event}
    (h : client.enterClose transaction = (event, next)) : Requests client event next := by
  unfold enterClose at h
  split at h
  · split at h
    · obtain ⟨rfl, rfl⟩ := Prod.mk.inj h
      exact requests_failed ⟨rfl, rfl, rfl, rfl, rfl, rfl, rfl, rfl, rfl⟩
    · obtain ⟨rfl, rfl⟩ := Prod.mk.inj h
      exact requests_waiting ⟨rfl, rfl, rfl, rfl, rfl, rfl, rfl, rfl, rfl⟩
  · obtain ⟨rfl, rfl⟩ := Prod.mk.inj h
    exact requests_failed ⟨rfl, rfl, rfl, rfl, rfl, rfl, rfl, rfl, rfl⟩
  · dsimp only at h
    split at h
    · obtain ⟨rfl, rfl⟩ := Prod.mk.inj h
      exact requests_failed ⟨rfl, rfl, rfl, rfl, rfl, rfl, rfl, rfl, rfl⟩
    · rename_i joined hjoin
      obtain ⟨rfl, rfl⟩ := Prod.mk.inj h
      have hkeeps := requestJoin_eq_some hjoin
      exact requests_waiting ⟨hkeeps.subscribed, hkeeps.setupGeneration, hkeeps.online,
        hkeeps.permitJoin, hkeeps.permitRetained, hkeeps.permitObservedMonotonic,
        hkeeps.closedProofGeneration, rfl, hkeeps.bridgeInfoSeen⟩

/-- The permit state as the fields have it. -/
theorem currentPermitState_eq_some {state : BridgePermitState}
    (h : client.currentPermitState = some state) :
    client.online = some state.online ∧ client.permitJoin = some state.permitJoin
      ∧ client.permitRetained = state.retained := by
  unfold currentPermitState at h
  split at h
  · rename_i honline hpermit _
    cases h
    exact ⟨honline, hpermit, rfl⟩
  · cases h

theorem requests_checkClosed {requestGeneration : ℕ} {event : Event}
    (h : client.checkClosed requestGeneration = (event, next)) : Requests client event next := by
  unfold checkClosed at h
  split at h
  · obtain ⟨rfl, rfl⟩ := Prod.mk.inj h
    exact requests_failed ⟨rfl, rfl, rfl, rfl, rfl, rfl, rfl, rfl, rfl⟩
  · split at h
    · rename_i state hstate
      split at h
      · rename_i hproof
        obtain ⟨honline, -, hclosed, hlive⟩ := hproof
        obtain ⟨honline', hpermit, hretained⟩ := currentPermitState_eq_some hstate
        obtain ⟨rfl, rfl⟩ := Prod.mk.inj h
        refine ⟨rfl, rfl, rfl, rfl, rfl, rfl, rfl, rfl, Or.inr (Or.inr ⟨_, rfl, ?_, ?_, ?_⟩)⟩
        · rw [honline', honline]
        · rw [hpermit, hclosed]
        · rw [hretained, hlive]
      · obtain ⟨rfl, rfl⟩ := Prod.mk.inj h
        exact requests_waiting ⟨rfl, rfl, rfl, rfl, rfl, rfl, rfl, rfl, rfl⟩
    · obtain ⟨rfl, rfl⟩ := Prod.mk.inj h
      exact requests_waiting ⟨rfl, rfl, rfl, rfl, rfl, rfl, rfl, rfl, rfl⟩

theorem requests_checkOpened {requestGeneration : ℕ} {acknowledgedAt : ℤ} {event : Event}
    (h : client.checkOpened requestGeneration acknowledgedAt = (event, next)) :
    Requests client event next := by
  unfold checkOpened at h
  split at h
  · obtain ⟨rfl, rfl⟩ := Prod.mk.inj h
    exact requests_failed ⟨rfl, rfl, rfl, rfl, rfl, rfl, rfl, rfl, rfl⟩
  · split at h
    · obtain ⟨rfl, rfl⟩ := Prod.mk.inj h
      exact ⟨rfl, rfl, rfl, rfl, rfl, rfl, rfl, rfl, Or.inl ⟨rfl, fun _ hbad => hbad⟩⟩
    · obtain ⟨rfl, rfl⟩ := Prod.mk.inj h
      exact requests_waiting ⟨rfl, rfl, rfl, rfl, rfl, rfl, rfl, rfl, rfl⟩

theorem requests_resume {request : Request} {event : Event}
    (h : client.resume request = some (event, next)) : Requests client event next := by
  unfold resume at h
  split at h
  · split at h
    · exact requests_enterClose (Option.some.inj h)
    · cases h
  · split at h
    · exact requests_of_popPending (requests_checkClosed (Option.some.inj h))
    · obtain ⟨rfl, rfl⟩ := Prod.mk.inj (Option.some.inj h)
      exact requests_failed ⟨rfl, rfl, rfl, rfl, rfl, rfl, rfl, rfl, rfl⟩
    · cases h
  · split at h
    · exact requests_checkClosed (Option.some.inj h)
    · cases h
  · split at h
    · exact requests_of_popPending (requests_checkOpened (Option.some.inj h))
    · obtain ⟨rfl, rfl⟩ := Prod.mk.inj (Option.some.inj h)
      exact requests_failed ⟨rfl, rfl, rfl, rfl, rfl, rfl, rfl, rfl, rfl⟩
    · cases h
  · split at h
    · exact requests_checkOpened (Option.some.inj h)
    · cases h

theorem requests_interrupt (request : Request) :
    Requests client .failed (client.interrupt request) := by
  unfold interrupt
  split <;> exact requests_failed ⟨rfl, rfl, rfl, rfl, rfl, rfl, rfl, rfl, rfl⟩

/-- A baseline needs the subscriptions, a closed proof and the current state. -/
theorem currentClosedBaseline_eq_some {monotonic : ℤ} {state : BridgePermitState}
    (h : client.currentClosedBaseline monotonic = some state) :
    client.subscribed = true ∧ client.closedProofGeneration ≠ 0
      ∧ ∃ observed, client.permitObservedMonotonic = some observed
        ∧ monotonic - observed ≤ baselineMaxAge := by
  unfold currentClosedBaseline at h
  split at h
  · cases h
  · rename_i hproof
    rw [not_or, Bool.not_eq_false, not_le] at hproof
    obtain ⟨hsubscribed, hgeneration⟩ := hproof
    split at h
    · rename_i observed _ hobserved
      split at h
      · cases h
      · rename_i hfresh
        simp only [not_or, not_lt] at hfresh
        exact ⟨hsubscribed, by omega, observed, hobserved, hfresh.2.2.2.2⟩
    · cases h

theorem openJoin_eq {seconds : ℤ} {transaction : Text} {event : Event}
    (h : client.openJoin seconds transaction clock = (event, next)) :
    Requests client event next ∧ (next = client ∨ client.subscribed = true) := by
  unfold openJoin at h
  split at h
  · obtain ⟨rfl, rfl⟩ := Prod.mk.inj h
    exact ⟨requests_failed (.refl _), Or.inl rfl⟩
  split at h
  · obtain ⟨rfl, rfl⟩ := Prod.mk.inj h
    exact ⟨requests_failed (.refl _), Or.inl rfl⟩
  rename_i hbaseline
  obtain ⟨state, hstate⟩ := Option.ne_none_iff_exists'.1 hbaseline
  have hsubscribed := (currentClosedBaseline_eq_some hstate).1
  split at h
  · obtain ⟨rfl, rfl⟩ := Prod.mk.inj h
    exact ⟨requests_failed (.refl _), Or.inl rfl⟩
  · obtain ⟨rfl, rfl⟩ := Prod.mk.inj h
    refine ⟨?_, Or.inr hsubscribed⟩
    cases hjoin : (client.beginOpenAttribution transaction seconds clock).requestJoin seconds
        transaction (.openAck transaction
          (client.beginOpenAttribution transaction seconds clock).generation) with
    | none => exact ⟨rfl, rfl, rfl, rfl, rfl, rfl, rfl, rfl, Or.inr (Or.inl rfl)⟩
    | some joined =>
      have hkeeps := requestJoin_eq_some hjoin
      exact ⟨rfl, rfl, hkeeps.subscribed, hkeeps.online, hkeeps.permitJoin, hkeeps.permitRetained,
        hkeeps.permitObservedMonotonic, hkeeps.bridgeInfoSeen,
        Or.inr (Or.inl hkeeps.closedProofGeneration)⟩

theorem reconcileJoinClosed_eq {transaction : Text} {event : Event}
    (h : client.reconcileJoinClosed transaction = (event, next)) :
    Requests client event next ∧ (next = client ∨ client.subscribed = true) := by
  unfold reconcileJoinClosed at h
  split at h
  · obtain ⟨rfl, rfl⟩ := Prod.mk.inj h
    exact ⟨requests_failed (.refl _), Or.inl rfl⟩
  · rename_i hcovered
    rw [not_or, Bool.not_eq_false] at hcovered
    exact ⟨requests_enterClose h, Or.inr hcovered.1⟩

/-! ## What stands behind the fields -/

/-- A close barrier after the setup, and since then nothing that a closed proof does not survive. -/
def Barrier (decoder : Decoder) (events : List Event) : Prop :=
  ∃ before observedAt after, events = before ++ .closed observedAt :: after ∧ .setup ∈ before
    ∧ ∀ event ∈ after, ¬ event.Disturbs decoder

/-- The fields, by the messages and the requests that set them. -/
structure Backed (decoder : Decoder) (events : List Event) (client : Client) : Prop where
  setup : client.subscribed = true → .setup ∈ events
  requests : client.requests ≠ [] → client.subscribed = true
  online : client.online = some true →
    ∃ message, lastState events = some message ∧ readState decoder message = .parsed true
  info : ∀ permitJoin, client.permitJoin = some permitJoin →
    ∃ message clock finish, lastInfo events = some (message, clock)
      ∧ readInfo decoder message clock = .parsed (client.permitRetained, permitJoin, finish)
      ∧ client.permitObservedMonotonic = some clock.monotonic
  seen : client.permitJoin ≠ none → client.bridgeInfoSeen = true
  proof : client.closedProofGeneration ≠ 0 →
    client.online = some true ∧ client.permitJoin = some false ∧ client.permitRetained = false
      ∧ Barrier decoder events

theorem backed_init : Backed decoder [] init where
  setup h := by cases h
  requests h := absurd rfl h
  online h := by cases h
  info _ h := by cases h
  seen h := absurd rfl h
  proof h := absurd rfl h

theorem Barrier.concat {events : List Event} {event : Event} (h : Barrier decoder events)
    (hquiet : ¬ event.Disturbs decoder) : Barrier decoder (events ++ [event]) := by
  obtain ⟨before, observedAt, after, rfl, hsetup, hafter⟩ := h
  refine ⟨before, observedAt, after ++ [event], by simp, hsetup, fun other hmem => ?_⟩
  rcases List.mem_append.1 hmem with hmem | hmem
  · exact hafter other hmem
  · rw [List.mem_singleton.1 hmem]
    exact hquiet

section

variable {events : List Event} {event : Event}

/-- A request keeps what stands behind the fields. -/
theorem Backed.requestStep (h : Backed decoder events client) (hstep : Requests client event next)
    (hcovered : next.requests ≠ [] → client.subscribed = true)
    (hclosed : (∃ observedAt, event = .closed observedAt) → client.subscribed = true) :
    Backed decoder (events ++ [event]) next where
  setup hsubscribed := by
    rw [hstep.subscribed] at hsubscribed
    exact List.mem_append_left _ (h.setup hsubscribed)
  requests hne := by
    rw [hstep.subscribed]
    exact hcovered hne
  online honline := by
    rw [hstep.online] at honline
    rw [lastState_concat, hstep.noState]
    exact h.online honline
  info permitJoin hpermit := by
    rw [hstep.permitJoin] at hpermit
    rw [lastInfo_concat, hstep.noInfo, hstep.permitRetained, hstep.permitObservedMonotonic]
    exact h.info permitJoin hpermit
  seen hknown := by
    rw [hstep.permitJoin] at hknown
    rw [hstep.bridgeInfoSeen]
    exact h.seen hknown
  proof hproof := by
    rw [hstep.online, hstep.permitJoin, hstep.permitRetained]
    rcases hstep.closedProof with
      ⟨hsame, hquiet⟩ | hzero | ⟨observedAt, rfl, honline, hpermit, hlive⟩
    · rw [hsame] at hproof
      obtain ⟨honline, hpermit, hlive, hbarrier⟩ := h.proof hproof
      exact ⟨honline, hpermit, hlive, hbarrier.concat (hquiet decoder)⟩
    · exact absurd hzero hproof
    · exact ⟨honline, hpermit, hlive, events, observedAt, [], rfl,
        h.setup (hclosed ⟨observedAt, rfl⟩), fun _ hmem => by cases hmem⟩

/-- A response, too. -/
theorem Backed.response (h : Backed decoder events client) (message : Message)
    (hkeeps : Keeps client next) : Backed decoder (events ++ [.response message]) next :=
  h.requestStep ⟨rfl, rfl, hkeeps.subscribed, hkeeps.online, hkeeps.permitJoin,
      hkeeps.permitRetained, hkeeps.permitObservedMonotonic, hkeeps.bridgeInfoSeen,
      Or.inl ⟨hkeeps.closedProofGeneration, fun _ hbad => hbad⟩⟩
    (fun hne => h.requests (by rwa [hkeeps.requests] at hne)) fun ⟨_, hbad⟩ => by cases hbad

/-- A state message: what it says, and no closed proof. -/
theorem Backed.state (h : Backed decoder events client) (message : Message)
    (hhandled : readState decoder message ≠ .raised) :
    Backed decoder (events ++ [.state message])
        (client.bridgeStateReceived decoder message clock)
      ∧ (client.bridgeStateReceived decoder message clock).closedProofGeneration = 0 := by
  -- every branch is one of two: nothing is known of the bridge, or what the message says
  have hcases : ∃ middle : Client,
      Keeps middle (client.bridgeStateReceived decoder message clock)
        ∧ middle.subscribed = client.subscribed ∧ middle.requests = client.requests
        ∧ middle.permitJoin = client.permitJoin ∧ middle.permitRetained = client.permitRetained
        ∧ middle.permitObservedMonotonic = client.permitObservedMonotonic
        ∧ middle.bridgeInfoSeen = client.bridgeInfoSeen ∧ middle.closedProofGeneration = 0
        ∧ (middle.online = none
          ∨ ∃ online,
              readState decoder message = .parsed online ∧ middle.online = some online) := by
    unfold bridgeStateReceived
    split
    · rename_i hraised
      exact absurd hraised hhandled
    · exact ⟨_, keeps_notify none none, rfl, rfl, rfl, rfl, rfl, rfl, rfl, Or.inl rfl⟩
    · rename_i online hread
      dsimp only
      split
      · exact ⟨_, keeps_notify none none, rfl, rfl, rfl, rfl, rfl, rfl, rfl,
          Or.inr ⟨online, hread, rfl⟩⟩
      · rename_i hfirst
        refine ⟨_, keeps_classified _, ?_⟩
        split
        · exact ⟨rfl, rfl, rfl, rfl, rfl, rfl, rfl, Or.inr ⟨online, hread, rfl⟩⟩
        · rename_i honline
          rw [Bool.not_eq_false] at honline
          refine ⟨rfl, rfl, rfl, rfl, rfl, rfl, ?_, Or.inr ⟨online, hread, rfl⟩⟩
          -- a closed proof needs a bridge that was online already
          by_contra hproof
          exact hfirst ⟨honline, (h.proof hproof).1⟩
  obtain ⟨middle, hkeeps, hsubscribed, hrequests, hpermit, hretained, hmonotonic, hseen, hproof,
    honline⟩ := hcases
  refine ⟨⟨fun hset => ?_, fun hne => ?_, fun hset => ?_, fun permitJoin hset => ?_,
      fun hknown => ?_, fun hset => ?_⟩,
    hkeeps.closedProofGeneration.trans hproof⟩
  · rw [hkeeps.subscribed, hsubscribed] at hset
    exact List.mem_append_left _ (h.setup hset)
  · rw [hkeeps.requests, hrequests] at hne
    rw [hkeeps.subscribed, hsubscribed]
    exact h.requests hne
  · rw [hkeeps.online] at hset
    rw [lastState_concat]
    rcases honline with hnone | ⟨online, hread, hsome⟩
    · rw [hnone] at hset
      cases hset
    · rw [hsome, Option.some.injEq] at hset
      rw [hset] at hread
      exact ⟨message, rfl, hread⟩
  · rw [hkeeps.permitJoin, hpermit] at hset
    rw [lastInfo_concat, hkeeps.permitRetained, hretained, hkeeps.permitObservedMonotonic,
      hmonotonic]
    exact h.info permitJoin hset
  · rw [hkeeps.permitJoin, hpermit] at hknown
    rw [hkeeps.bridgeInfoSeen, hseen]
    exact h.seen hknown
  · exact absurd (hkeeps.closedProofGeneration.trans hproof) hset

/-- An info message: what it says, and a closed proof only where it is live and says closed. -/
theorem Backed.info_step (h : Backed decoder events client) (message : Message)
    (hhandled : readInfo decoder message clock ≠ .raised) :
    Backed decoder (events ++ [.info message clock])
        (client.bridgeInfoReceived decoder message clock)
      ∧ (readInfo decoder message clock = .rejected →
        (client.bridgeInfoReceived decoder message clock).closedProofGeneration = 0) := by
  have hcases : ∃ middle : Client,
      Keeps middle (client.bridgeInfoReceived decoder message clock)
        ∧ middle.subscribed = client.subscribed ∧ middle.requests = client.requests
        ∧ middle.online = client.online ∧ middle.bridgeInfoSeen = true
        ∧ ((middle.permitJoin = none ∧ middle.closedProofGeneration = 0)
          ∨ ∃ retained permitJoin finish,
            readInfo decoder message clock = .parsed (retained, permitJoin, finish)
              ∧ middle.permitJoin = some permitJoin ∧ middle.permitRetained = retained
              ∧ middle.permitObservedMonotonic = some clock.monotonic
              ∧ (middle.closedProofGeneration ≠ 0 → client.closedProofGeneration ≠ 0
                ∧ permitJoin = false ∧ retained = false)) := by
    unfold bridgeInfoReceived
    dsimp only
    split
    · rename_i hraised
      exact absurd hraised hhandled
    · exact ⟨_, keeps_notify none none, rfl, rfl, rfl, rfl, Or.inl ⟨rfl, rfl⟩⟩
    · rename_i retained permitJoin finish hread
      split
      · exact ⟨_, keeps_notify none none, rfl, rfl, rfl, rfl,
          Or.inr ⟨retained, permitJoin, finish, hread, rfl, rfl, rfl, fun hbad => absurd rfl hbad⟩⟩
      · rename_i hlate
        refine ⟨_, keeps_classified _, rfl, rfl, rfl, rfl,
          Or.inr ⟨retained, permitJoin, finish, hread, rfl, rfl, rfl, fun hproof => ?_⟩⟩
        dsimp only at hproof
        split at hproof
        · exact absurd rfl hproof
        · rename_i hclosed
          rw [Bool.not_eq_true] at hclosed
          refine ⟨hproof, hclosed, ?_⟩
          -- after an info message was seen, a retained one is late
          have hseen : client.bridgeInfoSeen = true := h.seen (by
            rw [(h.proof hproof).2.1]
            exact Option.some_ne_none false)
          by_contra hretained
          rw [Bool.not_eq_false] at hretained
          refine hlate ⟨hretained, Or.inl ?_⟩
          rw [hseen]
          exact Bool.and_false retained
  obtain ⟨middle, hkeeps, hsubscribed, hrequests, honline, hseen, hinfo⟩ := hcases
  refine ⟨⟨fun hset => ?_, fun hne => ?_, fun hset => ?_, fun permitJoin hset => ?_, fun _ => ?_,
    fun hset => ?_⟩, fun hrejected => ?_⟩
  · rw [hkeeps.subscribed, hsubscribed] at hset
    exact List.mem_append_left _ (h.setup hset)
  · rw [hkeeps.requests, hrequests] at hne
    rw [hkeeps.subscribed, hsubscribed]
    exact h.requests hne
  · rw [hkeeps.online, honline] at hset
    rw [lastState_concat]
    exact h.online hset
  · rw [hkeeps.permitJoin] at hset
    rw [lastInfo_concat, hkeeps.permitRetained, hkeeps.permitObservedMonotonic]
    rcases hinfo with ⟨hnone, -⟩ | ⟨retained, permit, finish, hread, hpermit, hretained, hclock, -⟩
    · rw [hnone] at hset
      cases hset
    · rw [hpermit, Option.some.injEq] at hset
      rw [hretained, ← hset]
      exact ⟨message, clock, finish, rfl, hread, hclock⟩
  · rw [hkeeps.bridgeInfoSeen]
    exact hseen
  · rw [hkeeps.closedProofGeneration] at hset
    rw [hkeeps.online, hkeeps.permitJoin, hkeeps.permitRetained, honline]
    rcases hinfo with ⟨-, hzero⟩ | ⟨retained, permit, finish, hread, hpermit, hretained, -, hproof⟩
    · exact absurd hzero hset
    · obtain ⟨hold, rfl, rfl⟩ := hproof hset
      obtain ⟨hon, -, -, hbarrier⟩ := h.proof hold
      exact ⟨hon, hpermit, hretained, hbarrier.concat fun hbad => hbad finish hread⟩
  · rw [hkeeps.closedProofGeneration]
    rcases hinfo with ⟨-, hzero⟩ | ⟨retained, permit, finish, hread, -⟩
    · exact hzero
    · rw [hread] at hrejected
      cases hrejected

/-- Every step keeps what stands behind the fields. -/
theorem Backed.step (h : Backed decoder events client) (hstep : Step decoder client event next)
    (hhandled : event.Handled decoder) : Backed decoder (events ++ [event]) next := by
  cases hstep with
  | setup hfresh =>
    -- a request can only wait after a setup
    have hno : client.requests = [] := by
      by_contra hne
      rw [h.requests hne] at hfresh
      cases hfresh
    refine ⟨fun _ => List.mem_append_right _ List.mem_cons_self, fun _ => rfl, fun hset => ?_,
      fun permitJoin hset => ?_, h.seen, fun hset => ?_⟩
    · rw [lastState_concat]
      exact h.online hset
    · rw [lastInfo_concat]
      exact h.info permitJoin hset
    · obtain ⟨honline, hpermit, hlive, hbarrier⟩ := h.proof hset
      exact ⟨honline, hpermit, hlive, hbarrier.concat fun hbad => hbad⟩
  | state message clock => exact (h.state message hhandled).1
  | info message clock => exact (h.info_step message hhandled).1
  | response message clock => exact h.response message (keeps_joinResponse message)
  | openJoin seconds transaction clock heq =>
    obtain ⟨hrequests, hcovered⟩ := openJoin_eq heq
    refine h.requestStep hrequests (fun hne => ?_) fun hclosed => ?_
    -- a request that does not touch the client proves nothing
    · rcases hcovered with rfl | hcovered
      · exact h.requests hne
      · exact hcovered
    · obtain ⟨observedAt, rfl⟩ := hclosed
      rcases hcovered with rfl | hcovered
      · unfold openJoin at heq
        repeat' split at heq
        all_goals cases heq
      · exact hcovered
  | closeJoin transaction heq =>
    obtain ⟨hrequests, hcovered⟩ := reconcileJoinClosed_eq heq
    refine h.requestStep hrequests (fun hne => ?_) fun hclosed => ?_
    · rcases hcovered with rfl | hcovered
      · exact h.requests hne
      · exact hcovered
    · obtain ⟨observedAt, rfl⟩ := hclosed
      rcases hcovered with rfl | hcovered
      · unfold reconcileJoinClosed at heq
        split at heq
        · cases heq
        · rename_i hcovered
          rw [not_or, Bool.not_eq_false] at hcovered
          exact hcovered.1
      · exact hcovered
  | resume hsplit heq =>
    have hcovered : client.subscribed = true := h.requests (by rw [hsplit]; simp)
    have hrequests := requests_resume heq
    exact h.requestStep ⟨hrequests.noState, hrequests.noInfo, hrequests.subscribed,
      hrequests.online, hrequests.permitJoin, hrequests.permitRetained,
      hrequests.permitObservedMonotonic, hrequests.bridgeInfoSeen, hrequests.closedProof⟩
      (fun _ => hcovered) fun _ => hcovered
  | interrupt hsplit =>
    rename_i before after request
    have hcovered : client.subscribed = true := h.requests (by rw [hsplit]; simp)
    have hrequests : Requests { client with requests := before ++ after } .failed
        ({ client with requests := before ++ after }.interrupt request) :=
      requests_interrupt request
    exact h.requestStep ⟨rfl, rfl, hrequests.subscribed, hrequests.online, hrequests.permitJoin,
      hrequests.permitRetained, hrequests.permitObservedMonotonic, hrequests.bridgeInfoSeen,
      hrequests.closedProof⟩ (fun _ => hcovered) fun _ => hcovered

theorem run_backed (hrun : Trace.Run (Step decoder) init events client)
    (hhandled : ∀ event ∈ events, event.Handled decoder) : Backed decoder events client := by
  induction hrun with
  | start => exact backed_init
  | snoc _ hlast ih =>
    exact (ih fun event hmem => hhandled event (List.mem_append_left _ hmem)).step hlast
      (hhandled _ (List.mem_append_right _ List.mem_cons_self))

/-- A closed baseline has a live closed info message within the age limit, a bridge that said
`online` last, and an undisturbed close barrier; a message that the parser rejects withdraws it. -/
theorem baseline_backed (hrun : Trace.Run (Step decoder) init events client)
    (hhandled : ∀ event ∈ events, event.Handled decoder) :
    (∀ monotonic state, client.currentClosedBaseline monotonic = some state →
      (∃ message clock finish, lastInfo events = some (message, clock)
        ∧ readInfo decoder message clock = .parsed (false, false, finish)
        ∧ monotonic - clock.monotonic ≤ baselineMaxAge)
      ∧ (∃ message, lastState events = some message ∧ readState decoder message = .parsed true)
      ∧ Barrier decoder events)
    ∧ ∀ event next, Step decoder client event next → event.Rejected decoder →
      ∀ monotonic, next.currentClosedBaseline monotonic = none := by
  have hbacked := run_backed hrun hhandled
  constructor
  · intro monotonic state hbaseline
    obtain ⟨-, hproof, observed, hobserved, hfresh⟩ := currentClosedBaseline_eq_some hbaseline
    obtain ⟨honline, hpermit, hlive, hbarrier⟩ := hbacked.proof hproof
    obtain ⟨message, clock, finish, hlast, hread, hclock⟩ := hbacked.info false hpermit
    rw [hlive] at hread
    rw [hobserved, Option.some.injEq] at hclock
    rw [hclock] at hfresh
    exact ⟨⟨message, clock, finish, hlast, hread, hfresh⟩, hbacked.online honline, hbarrier⟩
  · intro event next hstep hrejected monotonic
    have hzero : next.closedProofGeneration = 0 := by
      cases hstep with
      | state message clock =>
        exact (hbacked.state message fun hbad => by rw [hrejected] at hbad; cases hbad).2
      | info message clock =>
        exact (hbacked.info_step message fun hbad => by rw [hrejected] at hbad; cases hbad).2
          hrejected
      | setup => cases hrejected
      | response => cases hrejected
      | openJoin seconds transaction clock heq =>
        exact absurd hrejected (openJoin_eq heq).1.not_rejected
      | closeJoin transaction heq =>
        exact absurd hrejected (reconcileJoinClosed_eq heq).1.not_rejected
      | resume hsplit heq =>
        exact absurd hrejected (requests_resume heq).not_rejected
      | interrupt => cases hrejected
    cases hbaseline : next.currentClosedBaseline monotonic with
    | none => rfl
    | some state => exact absurd hzero (currentClosedBaseline_eq_some hbaseline).2.1

end

/-! ## A run on concrete messages -/

/-- `json.loads` on the texts of the messages below. -/
def sampleDecoder : Decoder where
  decode _ := none
  loads text :=
    if text = chars "\x7b\"state\":\"online\"\x7d" then
      .parsed (.obj [(chars "state", .str (chars "online"))])
    else if text = chars "\x7b\"permit_join\":false\x7d" then
      .parsed (.obj [(chars "permit_join", .bool false)])
    else if text = chars
        "\x7b\"data\":\x7b\"time\":0\x7d,\"status\":\"ok\",\"transaction\":\"close\"\x7d" then
      .parsed (.obj [(chars "data", .obj [(chars "time", .int 0)]),
        (chars "status", .str (chars "ok")), (chars "transaction", .str (chars "close"))])
    else if text = chars "\x7b\"permit_join\":true,\"permit_join_end\":60\x7d" then
      .parsed (.obj [(chars "permit_join", .bool true), (chars "permit_join_end", .int 60)])
    else if text = chars
        "\x7b\"data\":\x7b\"time\":60\x7d,\"status\":\"ok\",\"transaction\":\"open\"\x7d" then
      .parsed (.obj [(chars "data", .obj [(chars "time", .int 60)]),
        (chars "status", .str (chars "ok")), (chars "transaction", .str (chars "open"))])
    else .rejected

def onlineMessage : Message :=
  ⟨.str (chars "\x7b\"state\":\"online\"\x7d"), some false⟩

def closedMessage : Message :=
  ⟨.str (chars "\x7b\"permit_join\":false\x7d"), some false⟩

def acknowledgement : Message :=
  ⟨.str (chars
    "\x7b\"data\":\x7b\"time\":0\x7d,\"status\":\"ok\",\"transaction\":\"close\"\x7d"), some false⟩

def sampleClock : Clock := ⟨0, 0⟩

/-- The bridge says `online`, before the end of the setup and once more after it. -/
def sampleOnline : Client :=
  let client := init.bridgeStateReceived sampleDecoder onlineMessage sampleClock
  { client with subscribed := true, setupGeneration := client.generation }.bridgeStateReceived
    sampleDecoder onlineMessage sampleClock

/-- A close request is published, the bridge reports closed joining and acknowledges. -/
def sampleAnswered : Client :=
  ((sampleOnline.reconcileJoinClosed (chars "close")).2.bridgeInfoReceived sampleDecoder
    closedMessage sampleClock).joinResponseReceived sampleDecoder acknowledgement sampleClock

def sampleRequest : Request := .closeAck (chars "close") 2

/-- The close barrier completes. -/
def sampleClosed : Event × Client :=
  ({ sampleAnswered with requests := [] }.resume sampleRequest).getD (.failed, init)

def sampleEvents : List Event :=
  [] ++ [.state onlineMessage] ++ [.setup] ++ [.state onlineMessage] ++ [.waiting]
    ++ [.info closedMessage sampleClock] ++ [.response acknowledgement] ++ [sampleClosed.1]

theorem sample_run : Trace.Run (Step sampleDecoder) init sampleEvents sampleClosed.2 := by
  have hclose : sampleOnline.reconcileJoinClosed (chars "close")
      = (.waiting, (sampleOnline.reconcileJoinClosed (chars "close")).2) := rfl
  have hresume : { sampleAnswered with requests := [] }.resume sampleRequest
      = some (sampleClosed.1, sampleClosed.2) := rfl
  have hrequests : sampleAnswered.requests = [] ++ sampleRequest :: [] := rfl
  exact ((((((Trace.Run.start.snoc (.state _ _ sampleClock)).snoc (.setup rfl)).snoc
    (.state _ _ sampleClock)).snoc (.closeJoin _ hclose)).snoc (.info _ _ _)).snoc
    (.response _ _ sampleClock)).snoc (.resume hrequests hresume)

theorem sample_handled : ∀ event ∈ sampleEvents, event.Handled sampleDecoder := by
  have honline : readState sampleDecoder onlineMessage ≠ .raised := by decide
  have hclosed : readInfo sampleDecoder closedMessage sampleClock ≠ .raised := by decide
  have hlast : sampleClosed.1 = .closed 0 := rfl
  intro event hmem
  simp only [sampleEvents, hlast, List.mem_append, List.mem_singleton, List.not_mem_nil,
    false_or] at hmem
  rcases hmem with (((((rfl | rfl) | rfl) | rfl) | rfl) | rfl) | rfl
  · exact honline
  · exact trivial
  · exact honline
  · exact trivial
  · exact hclosed
  · exact trivial
  · exact trivial

/-- The closed baseline of the run has its close barrier. -/
theorem sample_baseline_backed :
    ∃ state, sampleClosed.2.currentClosedBaseline 0 = some state
      ∧ Barrier sampleDecoder sampleEvents := by
  have hsome : (sampleClosed.2.currentClosedBaseline 0).isSome = true := by decide
  obtain ⟨state, hstate⟩ := Option.isSome_iff_exists.1 hsome
  exact ⟨state, hstate, ((baseline_backed sample_run sample_handled).1 0 state hstate).2.2⟩

/-- The last state message is `online` and does not follow another `online`. -/
def FollowsOffline (decoder : Decoder) (events : List Event) : Prop :=
  ∃ before message, events.filterMap Event.stateMessage? = before ++ [message]
    ∧ readState decoder message = .parsed true
    ∧ ∀ previous ∈ before.getLast?, readState decoder previous ≠ .parsed true

/-- A close barrier restores the baseline after a repeated `online`. -/
theorem repeated_online_baseline :
    ¬ ∀ events client, Trace.Run (Step sampleDecoder) init events client →
      (∀ event ∈ events, event.Handled sampleDecoder) → ∀ monotonic state,
      client.currentClosedBaseline monotonic = some state →
        FollowsOffline sampleDecoder events := by
  intro hall
  have hsome : (sampleClosed.2.currentClosedBaseline 0).isSome = true := by decide
  obtain ⟨state, hstate⟩ := Option.isSome_iff_exists.1 hsome
  obtain ⟨before, message, hmessages, -, hprevious⟩ :=
    hall sampleEvents sampleClosed.2 sample_run sample_handled 0 state hstate
  have htwice : [onlineMessage] ++ [onlineMessage] = before ++ [message] := hmessages
  obtain ⟨rfl, -⟩ := List.append_inj' htwice rfl
  exact hprevious onlineMessage rfl (by decide)

end Client

end TrueFamily.Mqtt
