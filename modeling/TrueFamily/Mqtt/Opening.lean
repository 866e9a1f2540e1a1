import TrueFamily.Mqtt.Baseline

/-!
# An open request and its messages

What is known of the messages since an open request while nothing unsafe was observed, and that each
message and each turn of the request either keeps it or spoils the request.
-/

namespace TrueFamily.Mqtt

namespace Client

open JsonValue
open TrueFamily.Runtime (chars field)

/-- One open request: its transaction, its seconds, the clock at its start and its generation. -/
structure OpenRequest where
  transaction : Text
  seconds : ℤ
  clock : Clock
  generation : ℕ

namespace OpenRequest

def expectedEnd (request : OpenRequest) : ℤ := request.clock.now + request.seconds * 1000000

def attributionDeadline (request : OpenRequest) : ℤ :=
  request.clock.monotonic + permitJoinResponse + permitJoinOpenInfo

def windowDeadline (request : OpenRequest) : ℤ :=
  request.clock.monotonic + request.seconds * 1000000 + Decoder.permitJoinEndClockSkew

/-- A live open state that arrives in the windows of the request. -/
def InWindow (request : OpenRequest) (clock : Clock) : Prop :=
  request.clock.now ≤ clock.now ∧ clock.monotonic ≤ request.attributionDeadline
    ∧ clock.monotonic ≤ request.windowDeadline

/-- An open state whose end is the expected one, up to the skew of the clocks. -/
def Expects (request : OpenRequest) (finish : Option ℤ) : Prop :=
  ∃ time, finish = some time ∧ |time - request.expectedEnd| ≤ Decoder.permitJoinEndClockSkew

/-- A valid acknowledgement of the request. -/
def Acknowledged (decoder : Decoder) (request : OpenRequest) (message : Message) : Prop :=
  ∃ data, decoder.decodeObject message.payload = .parsed data
    ∧ field data "transaction" = .str request.transaction
    ∧ acknowledges message data request.seconds = true

end OpenRequest

variable {decoder : Decoder} {client next : Client} {request : OpenRequest}

/-- A message arrives, or the open request takes a turn and waits on. -/
inductive During (decoder : Decoder) : Client → Event → Client → Prop
  | state (client : Client) (message : Message) (clock : Clock) :
      During decoder client (.state message) (client.bridgeStateReceived decoder message clock)
  | info (client : Client) (message : Message) (clock : Clock) :
      During decoder client (.info message clock)
        (client.bridgeInfoReceived decoder message clock)
  | response (client : Client) (message : Message) (clock : Clock) :
      During decoder client (.response message)
        (client.joinResponseReceived decoder message clock)
  | turn {client next : Client} {suspended : Request} : client.requests = [suspended] →
      { client with requests := [] }.resume suspended = some (.waiting, next) →
      During decoder client .waiting next

/-- Something unsafe was observed since the request. -/
def Spoiled (request : OpenRequest) (client : Client) : Prop :=
  request.generation ≤ client.generation
    ∧ (request.generation < client.unsafeGeneration
      ∨ request.generation < client.unattributedOpenGeneration)

/-- The fields of the attribution that stay as they were at the start of the request. -/
structure Attributes (request : OpenRequest) (attribution : OpenAttribution) : Prop where
  transaction : attribution.transaction = some request.transaction
  requestGeneration : attribution.requestGeneration = request.generation
  requestStartedAt : attribution.requestStartedAt = some request.clock.now
  expectedEnd : attribution.expectedEnd = some request.expectedEnd
  attributionDeadline : attribution.attributionDeadline = request.attributionDeadline
  windowDeadline : attribution.windowDeadline = request.windowDeadline

/-- What an info message said: live, and closed or open in the windows with the end. -/
def Said (decoder : Decoder) (request : OpenRequest) (event : Event) (permitJoin : Bool)
    (finish : Option ℤ) : Prop :=
  ∃ message clock, event = .info message clock
    ∧ readInfo decoder message clock = .parsed (false, permitJoin, finish)
    ∧ (permitJoin = true → request.InWindow clock)

/-- No info message follows an open one. -/
def Settled (decoder : Decoder) (request : OpenRequest) (events : List Event) : Prop :=
  ∀ before event after finish, events = before ++ event :: after →
    Said decoder request event true finish → ∀ message clock, .info message clock ∉ after

/-- The request so far, when nothing unsafe was observed. -/
structure Clean (decoder : Decoder) (request : OpenRequest) (events : List Event)
    (client : Client) : Prop where
  generation : request.generation ≤ client.generation
  online : client.online = some true
  seen : client.bridgeInfoSeen = true
  attributes : Attributes request client.attribution
  pending : ∀ pending, client.pending.get? request.transaction = some pending →
    pending.seconds = request.seconds
  noState : ∀ message, .state message ∉ events
  acknowledged : client.attribution.acknowledged = true →
    client.attribution.provisionalState = none
      ∧ ∃ message, .response message ∈ events ∧ request.Acknowledged decoder message
  attributed : request.generation < client.attribution.infoGeneration →
    ∃ event ∈ events, ∃ finish, Said decoder request event true finish ∧ request.Expects finish
  infos : ∀ message clock, .info message clock ∈ events →
    ∃ permitJoin finish, Said decoder request (.info message clock) permitJoin finish
      ∧ (permitJoin = true → request.Expects finish
        ∨ ∃ state, client.attribution.provisionalState = some state
          ∧ state.permitJoinEnd = finish)
  provisional : ∀ state, client.attribution.provisionalState = some state →
    state.generation ≤ client.generation ∧ request.generation < state.generation
      ∧ ∃ event ∈ events, Said decoder request event true state.permitJoinEnd
  unseen : client.attribution.acknowledged = false → client.attribution.provisionalState = none →
    ∀ event ∈ events, ∀ finish, ¬ Said decoder request event true finish
  settled : ∃ before after, events = before ++ after ∧ Settled decoder request before
    ∧ (client.attribution.acknowledged = false → after = [])
    ∧ (client.attribution.acknowledged = true → ∃ message rest, after = .response message :: rest
      ∧ request.Acknowledged decoder message)

/-! ## What is unsafe stays so -/

/-- The generations that only grow. -/
structure Grows (client next : Client) : Prop where
  generation : client.generation ≤ next.generation
  unsafeGeneration : client.unsafeGeneration ≤ next.unsafeGeneration
    ∨ client.generation < next.unsafeGeneration
  unattributed : client.unattributedOpenGeneration ≤ next.unattributedOpenGeneration

theorem Grows.refl (client : Client) : Grows client client := ⟨le_rfl, Or.inl le_rfl, le_rfl⟩

theorem Grows.trans {middle : Client} (h : Grows client middle) (h' : Grows middle next) :
    Grows client next := by
  have h1 := h.generation
  have h2 := h.unsafeGeneration
  have h3 := h'.generation
  have h4 := h'.unsafeGeneration
  exact ⟨by omega, by omega, h.unattributed.trans h'.unattributed⟩

theorem Spoiled.grows (h : Spoiled request client) (hgrows : Grows client next) :
    Spoiled request next := by
  obtain ⟨hgeneration, hspoiled⟩ := h
  have h1 := hgrows.generation
  have h2 := hgrows.unsafeGeneration
  have h3 := hgrows.unattributed
  exact ⟨by omega, by omega⟩

theorem grows_rejectOpenState (state : BridgePermitState) :
    Grows client (client.rejectOpenState state) := ⟨le_rfl, Or.inl le_rfl, le_max_left _ _⟩

theorem grows_classified {clock : Clock} (state : Option BridgePermitState) :
    Grows client (client.notifyClassifiedPermitState clock state) := by
  unfold notifyClassifiedPermitState
  cases state with
  | none => exact ⟨le_rfl, Or.inl le_rfl, le_rfl⟩
  | some state =>
    dsimp only
    split
    · split
      · exact grows_rejectOpenState state
      · exact ⟨le_rfl, Or.inl le_rfl, le_rfl⟩
    · split
      · exact ⟨le_rfl, Or.inl le_rfl, le_max_left _ _⟩
      · split
        · split
          · exact grows_rejectOpenState state
          · split
            · exact ⟨le_rfl, Or.inl le_rfl, le_rfl⟩
            · split
              · exact .refl client
              · exact grows_rejectOpenState state
        · split
          · exact grows_rejectOpenState state
          · exact ⟨le_rfl, Or.inl le_rfl, le_rfl⟩

theorem grows_rejectProvisionalOpen (fails : Bool) :
    Grows client (client.rejectProvisionalOpen fails) := by
  unfold rejectProvisionalOpen
  split
  · exact .refl client
  · dsimp only
    split
    · exact ⟨le_rfl, Or.inl le_rfl, le_max_left _ _⟩
    · exact grows_rejectOpenState _

theorem grows_commitProvisionalOpen {clock : Clock} (transaction : Text) :
    Grows client (client.commitProvisionalOpen clock transaction) := by
  unfold commitProvisionalOpen
  split
  · exact .refl client
  · dsimp only
    split
    · exact ⟨le_rfl, Or.inl le_rfl, le_max_left _ _⟩
    · exact ⟨le_rfl, Or.inl le_rfl, le_rfl⟩

theorem grows_resolve (transaction : Text) (seconds : ℤ) (result : Except Unit ℤ) :
    Grows client (client.resolve transaction seconds result) := ⟨le_rfl, Or.inl le_rfl, le_rfl⟩

theorem grows_attribution (attribution : OpenAttribution) :
    Grows client { client with attribution := attribution } := ⟨le_rfl, Or.inl le_rfl, le_rfl⟩

theorem grows_response {clock : Clock} (message : Message) :
    Grows client (client.joinResponseReceived decoder message clock) := by
  unfold joinResponseReceived
  split
  · exact .refl client
  · exact grows_rejectProvisionalOpen true
  · split
    · split
      · exact grows_rejectProvisionalOpen true
      · split
        · exact .refl client
        · split
          · dsimp only
            split
            · exact (grows_rejectProvisionalOpen false).trans (grows_resolve _ _ _)
            · exact grows_resolve _ _ _
          · split
            · split
              · exact (grows_rejectProvisionalOpen false).trans (grows_resolve _ _ _)
              · exact ((grows_attribution _).trans (grows_commitProvisionalOpen _)).trans
                  (grows_resolve _ _ _)
            · exact grows_resolve _ _ _
    · exact grows_rejectProvisionalOpen true

theorem grows_state {clock : Clock} (message : Message) :
    Grows client (client.bridgeStateReceived decoder message clock) := by
  unfold bridgeStateReceived
  dsimp only
  split
  · exact ⟨Nat.le_succ _, Or.inl le_rfl, le_rfl⟩
  · exact ⟨Nat.le_succ _, Or.inr (Nat.lt_succ_self _), le_rfl⟩
  · split
    · exact ⟨Nat.le_succ _, Or.inr (Nat.lt_succ_self _), le_rfl⟩
    · refine Grows.trans ?_ (grows_classified _)
      split
      · exact ⟨Nat.le_succ _, Or.inr (Nat.lt_succ_self _), le_rfl⟩
      · exact ⟨Nat.le_succ _, Or.inl le_rfl, le_rfl⟩

theorem grows_info {clock : Clock} (message : Message) :
    Grows client (client.bridgeInfoReceived decoder message clock) := by
  unfold bridgeInfoReceived
  dsimp only
  split
  · exact ⟨Nat.le_succ _, Or.inl le_rfl, le_rfl⟩
  · exact ⟨Nat.le_succ _, Or.inr (Nat.lt_succ_self _), le_rfl⟩
  · split
    · exact ⟨Nat.le_succ _, Or.inr (Nat.lt_succ_self _), le_rfl⟩
    · refine Grows.trans ?_ (grows_classified _)
      exact ⟨Nat.le_succ _, Or.inl le_rfl, le_rfl⟩

/-- A state message while the bridge is online is unsafe. -/
theorem Clean.state {events : List Event} (h : Clean decoder request events client)
    (message : Message) (clock : Clock) (hhandled : readState decoder message ≠ .raised) :
    Spoiled request (client.bridgeStateReceived decoder message clock) := by
  have hgeneration := h.generation
  have hunsafe : client.generation
      < (client.bridgeStateReceived decoder message clock).unsafeGeneration := by
    unfold bridgeStateReceived
    dsimp only
    split
    · rename_i hraised
      exact absurd hraised hhandled
    · exact Nat.lt_succ_self _
    · rename_i online _
      split
      · exact Nat.lt_succ_self _
      · rename_i hfirst
        have hoffline : online = false := by
          by_contra honline
          rw [Bool.not_eq_false] at honline
          exact hfirst ⟨honline, h.online⟩
        rw [if_pos hoffline]
        set middle := markUnsafe _ _ with hmiddle
        have hgrows : Grows middle (middle.notifyClassifiedPermitState clock
          middle.currentPermitState) := grows_classified _
        have hunsafe : client.generation < middle.unsafeGeneration := Nat.lt_succ_self _
        have hmark : client.generation < middle.generation := Nat.lt_succ_self _
        have hnext := hgrows.unsafeGeneration
        omega
  exact ⟨h.generation.trans (grows_state message).generation, Or.inl (by omega)⟩

/-! ## Info messages -/

theorem split_concat {events before after : List Event} {event last : Event}
    (h : events ++ [last] = before ++ event :: after) :
    after = [] ∨ ∃ rest, after = rest ++ [last] ∧ events = before ++ event :: rest := by
  rcases List.eq_nil_or_concat after with rfl | ⟨rest, final, rfl⟩
  · exact Or.inl rfl
  · have hsplit : events ++ [last] = (before ++ event :: rest) ++ [final] := by
      rw [h]
      simp
    obtain ⟨hevents, hlast⟩ := List.append_inj' hsplit rfl
    cases hlast
    exact Or.inr ⟨rest, by simp, hevents⟩

theorem settled_concat {events : List Event} {last : Event}
    (h : ∀ event ∈ events, ∀ finish, ¬ Said decoder request event true finish) :
    Settled decoder request (events ++ [last]) := by
  intro before event after finish hsplit hsaid message clock hmem
  rcases split_concat hsplit with rfl | ⟨rest, rfl, rfl⟩
  · cases hmem
  · exact h event (by simp) finish hsaid

/-- The fields that an info message does not touch before it is classified. -/
structure Observed (client middle : Client) : Prop where
  generation : middle.generation = client.generation + 1
  online : middle.online = client.online
  seen : middle.bridgeInfoSeen = true
  attribution : middle.attribution = client.attribution
  pending : middle.pending = client.pending

theorem candidate_iff {middle : Client} {clock : Clock} {state : BridgePermitState}
    (hattributes : Attributes request middle.attribution)
    (hnew : request.generation < state.generation)
    (hlive : state.retained = false) (hnow : state.observedAt = clock.now) :
    middle.isProvisionalOpenCandidate clock state = true ↔ request.InWindow clock := by
  unfold isProvisionalOpenCandidate
  rw [hattributes.requestStartedAt, hattributes.requestGeneration, hattributes.attributionDeadline,
    hattributes.windowDeadline, hlive, hnow]
  simp [OpenRequest.InWindow, hnew, and_assoc]

theorem valid_iff {middle : Client} {clock : Clock} {state : BridgePermitState}
    (hattributes : Attributes request middle.attribution) :
    middle.isValidOpenCandidate clock state = true ↔
      middle.isProvisionalOpenCandidate clock state = true ∧
      request.Expects state.permitJoinEnd := by
  unfold isValidOpenCandidate
  rw [hattributes.expectedEnd, Bool.and_eq_true]
  simp [OpenRequest.Expects, Option.any_eq_true]

theorem Observed.attributes {middle : Client} (hobserved : Observed client middle)
    (h : Attributes request client.attribution) : Attributes request middle.attribution := by
  rw [hobserved.attribution]
  exact h

section

variable {events : List Event} {middle : Client} {message : Message} {clock : Clock}
  {state : BridgePermitState}

theorem Clean.noState_concat (h : Clean decoder request events client) {last : Event}
    (hlast : ∀ other, last ≠ .state other) : ∀ other, .state other ∉ events ++ [last] := by
  intro other hmem
  rcases List.mem_append.1 hmem with hmem | hmem
  · exact h.noState other hmem
  · exact hlast other (List.mem_singleton.1 hmem).symm

/-- Without a provisional state, every open state so far had the expected end. -/
theorem Clean.infos_of_none (h : Clean decoder request events client)
    (hnone : client.attribution.provisionalState = none) {other : Message} {time : Clock}
    (hmem : .info other time ∈ events) : ∃ permitJoin finish,
      Said decoder request (.info other time) permitJoin finish
        ∧ (permitJoin = true → request.Expects finish) := by
  obtain ⟨permitJoin, finish, hsaid, hexpects⟩ := h.infos other time hmem
  refine ⟨permitJoin, finish, hsaid, fun hopen => ?_⟩
  rcases hexpects hopen with hexpects | ⟨found, hfound, -⟩
  · exact hexpects
  · rw [hnone] at hfound
    cases hfound

/-- After the acknowledgement the events before it do not change any more. -/
theorem Clean.settled_acknowledged (h : Clean decoder request events client)
    (hack : client.attribution.acknowledged = true) (last : Event) :
    ∃ before after, events ++ [last] = before ++ after ∧ Settled decoder request before
      ∧ ∃ response rest, after = .response response :: rest
        ∧ request.Acknowledged decoder response := by
  obtain ⟨before, after, rfl, hbefore, -, hafter⟩ := h.settled
  obtain ⟨response, rest, rfl, hresponse⟩ := hafter hack
  exact ⟨before, .response response :: (rest ++ [last]), by simp, hbefore, response, _, rfl,
    hresponse⟩

/-- A state that is rejected is one since the request. -/
theorem Clean.spoils (h : Clean decoder request events client)
    (hobserved : Observed client middle) (hgeneration : state.generation = client.generation + 1) :
    Spoiled request (middle.rejectOpenState state) := by
  have hold := h.generation
  have hnext := hobserved.generation
  refine ⟨show request.generation ≤ middle.generation by omega, Or.inr ?_⟩
  show request.generation < max middle.unattributedOpenGeneration state.generation
  omega

/-- A closed state without a provisional one is not attributed. -/
theorem Clean.closed (h : Clean decoder request events client)
    (hobserved : Observed client middle)
    (hnone : client.attribution.provisionalState = none)
    (hread : readInfo decoder message clock = .parsed (false, false, state.permitJoinEnd)) :
    Clean decoder request (events ++ [.info message clock])
      (middle.notifyPermitState (some state) none) := by
  have hold := h.generation
  have hnext := hobserved.generation
  have hsame : (middle.notifyPermitState (some state) none).attribution = client.attribution :=
    hobserved.attribution
  -- the message says closed, so it is none of the open ones
  have hunsaid : ∀ finish, ¬ Said decoder request (.info message clock) true finish := by
    rintro finish ⟨other, time, heq, hbad, -⟩
    cases heq
    rw [hread] at hbad
    cases hbad
  refine
    { generation := show request.generation ≤ middle.generation by omega
      online := hobserved.online.trans h.online
      seen := hobserved.seen
      attributes := hobserved.attributes h.attributes
      pending := fun pending hget => h.pending pending (by rw [← hobserved.pending]; exact hget)
      noState := h.noState_concat fun _ hbad => (by cases hbad)
      acknowledged := fun hack => ?_
      attributed := fun hinfo => ?_
      infos := fun other time hmem => ?_
      provisional := fun found hfound => ?_
      unseen := fun hack _ event hmem finish => ?_
      settled := ?_ }
  · rw [hsame] at hack ⊢
    obtain ⟨-, response, hmem, hresponse⟩ := h.acknowledged hack
    exact ⟨hnone, response, List.mem_append_left _ hmem, hresponse⟩
  · rw [hsame] at hinfo
    obtain ⟨event, hmem, hevent⟩ := h.attributed hinfo
    exact ⟨event, List.mem_append_left _ hmem, hevent⟩
  · rcases List.mem_append.1 hmem with hmem | hmem
    · obtain ⟨permitJoin, finish, hsaid, hexpects⟩ := h.infos_of_none hnone hmem
      exact ⟨permitJoin, finish, hsaid, fun hopen => Or.inl (hexpects hopen)⟩
    · cases List.mem_singleton.1 hmem
      exact ⟨false, _, ⟨message, clock, rfl, hread, fun hbad => by cases hbad⟩,
        fun hbad => by cases hbad⟩
  · rw [hsame, hnone] at hfound
    cases hfound
  · rw [hsame] at hack
    rcases List.mem_append.1 hmem with hmem | hmem
    · exact h.unseen hack hnone event hmem finish
    · rw [List.mem_singleton.1 hmem]
      exact hunsaid finish
  · rw [hsame]
    cases hack : client.attribution.acknowledged with
    | true =>
      obtain ⟨before, after, heq, hbefore, hafter⟩ := h.settled_acknowledged hack
        (.info message clock)
      exact ⟨before, after, heq, hbefore, fun hbad => (by cases hbad), fun _ => hafter⟩
    | false =>
      exact ⟨_, [], (List.append_nil _).symm, settled_concat (h.unseen hack hnone), fun _ => rfl,
        fun hbad => (by cases hbad)⟩

/-- The first open state before the acknowledgement becomes the provisional one. -/
theorem Clean.provisionally (h : Clean decoder request events client)
    (hobserved : Observed client middle)
    (hgeneration : state.generation = client.generation + 1)
    (hack : client.attribution.acknowledged = false)
    (hnone : client.attribution.provisionalState = none)
    (hsaid : Said decoder request (.info message clock) true state.permitJoinEnd) :
    Clean decoder request (events ++ [.info message clock]) { middle with
      attribution := { middle.attribution with provisionalState := some state } } := by
  have hold := h.generation
  have hnext := hobserved.generation
  have hattributes := hobserved.attributes h.attributes
  have hack' : middle.attribution.acknowledged = false := by
    rw [hobserved.attribution]
    exact hack
  refine
    { generation := show request.generation ≤ middle.generation by omega
      online := hobserved.online.trans h.online
      seen := hobserved.seen
      attributes := ⟨hattributes.transaction, hattributes.requestGeneration,
        hattributes.requestStartedAt, hattributes.expectedEnd,
        hattributes.attributionDeadline, hattributes.windowDeadline⟩
      pending := fun pending hget => h.pending pending (by rw [← hobserved.pending]; exact hget)
      noState := h.noState_concat fun _ hbad => (by cases hbad)
      acknowledged := fun hbad => (by rw [hack'] at hbad; cases hbad)
      attributed := fun hinfo => ?_
      infos := fun other time hmem => ?_
      provisional := fun found hfound => ?_
      unseen := fun _ hbad => (by cases hbad)
      settled := ⟨_, [], (List.append_nil _).symm, settled_concat (h.unseen hack hnone),
        fun _ => rfl, fun hbad => (by rw [hack'] at hbad; cases hbad)⟩ }
  · obtain ⟨event, hmem, hevent⟩ := h.attributed (by rw [← hobserved.attribution]; exact hinfo)
    exact ⟨event, List.mem_append_left _ hmem, hevent⟩
  · rcases List.mem_append.1 hmem with hmem | hmem
    · obtain ⟨permitJoin, finish, hother, hexpects⟩ := h.infos_of_none hnone hmem
      exact ⟨permitJoin, finish, hother, fun hopen => Or.inl (hexpects hopen)⟩
    · cases List.mem_singleton.1 hmem
      exact ⟨true, _, hsaid, fun _ => Or.inr ⟨state, rfl, rfl⟩⟩
  · cases hfound
    exact ⟨show state.generation ≤ middle.generation by omega, by omega, _,
      List.mem_append_right _ List.mem_cons_self, hsaid⟩

/-- An open state after the acknowledgement that has the expected end is attributed. -/
theorem Clean.expected (h : Clean decoder request events client)
    (hobserved : Observed client middle)
    (hack : client.attribution.acknowledged = true)
    (hsaid : Said decoder request (.info message clock) true state.permitJoinEnd)
    (hexpects : request.Expects state.permitJoinEnd) :
    Clean decoder request (events ++ [.info message clock])
      ({ middle with attribution := { middle.attribution with infoGeneration := state.generation } }
        |>.notifyPermitState (some state) (some request.transaction)) := by
  have hold := h.generation
  have hnext := hobserved.generation
  have hattributes := hobserved.attributes h.attributes
  obtain ⟨hnone, response, hmem, hresponse⟩ := h.acknowledged hack
  have hnone' : middle.attribution.provisionalState = none := by
    rw [hobserved.attribution]
    exact hnone
  have hack' : middle.attribution.acknowledged = true := by
    rw [hobserved.attribution]
    exact hack
  obtain ⟨before, after, heq, hbefore, hafter⟩ := h.settled_acknowledged hack (.info message clock)
  refine
    { generation := show request.generation ≤ middle.generation by omega
      online := hobserved.online.trans h.online
      seen := hobserved.seen
      attributes := ⟨hattributes.transaction, hattributes.requestGeneration,
        hattributes.requestStartedAt, hattributes.expectedEnd,
        hattributes.attributionDeadline, hattributes.windowDeadline⟩
      pending := fun pending hget => h.pending pending (by rw [← hobserved.pending]; exact hget)
      noState := h.noState_concat fun _ hbad => (by cases hbad)
      acknowledged := fun _ => ⟨hnone', response, List.mem_append_left _ hmem, hresponse⟩
      attributed := fun _ => ⟨_, List.mem_append_right _ List.mem_cons_self, _, hsaid, hexpects⟩
      infos := fun other time hmem => ?_
      provisional := fun found hfound => ?_
      unseen := fun hbad => ?_
      settled := ⟨before, after, heq, hbefore, fun hbad => ?_, fun _ => hafter⟩ }
  · rcases List.mem_append.1 hmem with hmem | hmem
    · obtain ⟨permitJoin, finish, hother, hexpects⟩ := h.infos_of_none hnone hmem
      exact ⟨permitJoin, finish, hother, fun hopen => Or.inl (hexpects hopen)⟩
    · cases List.mem_singleton.1 hmem
      exact ⟨true, _, hsaid, fun _ => Or.inl hexpects⟩
  · rw [show middle.attribution.provisionalState = some found from hfound] at hnone'
    cases hnone'
  · rw [show middle.attribution.acknowledged = false from hbad] at hack'
    cases hack'
  · rw [show middle.attribution.acknowledged = false from hbad] at hack'
    cases hack'

/-- A live info message spoils the request, or is one that it allows. -/
theorem Clean.classified (h : Clean decoder request events client)
    (hobserved : Observed client middle) (honline : state.online = true)
    (hgeneration : state.generation = client.generation + 1) (hlive : state.retained = false)
    (hnow : state.observedAt = clock.now)
    (hread : readInfo decoder message clock =
      .parsed (false, state.permitJoin, state.permitJoinEnd)) :
    Spoiled request (middle.notifyClassifiedPermitState clock (some state))
      ∨ Clean decoder request (events ++ [.info message clock])
        (middle.notifyClassifiedPermitState clock (some state)) := by
  have hold := h.generation
  have hattributes := hobserved.attributes h.attributes
  have hspoiled := h.spoils hobserved hgeneration
  -- a provisional state is older than this one
  have holder : ∀ provisional, middle.attribution.provisionalState = some provisional →
      provisional.generation < state.generation := by
    intro provisional hprovisional
    rw [hobserved.attribution] at hprovisional
    have hle := (h.provisional provisional hprovisional).1
    omega
  unfold notifyClassifiedPermitState
  dsimp only
  split
  · rename_i hclosed
    have hclosed : state.permitJoin = false := by
      rcases hclosed with hbad | hclosed
      · rw [honline] at hbad
        cases hbad
      · exact hclosed
    rw [hclosed] at hread
    cases hprovisional : middle.attribution.provisionalState with
    | some provisional =>
      rw [Option.any_some, if_pos (decide_eq_true (holder provisional hprovisional))]
      exact Or.inl hspoiled
    | none =>
      rw [Option.any_none, if_neg Bool.false_ne_true]
      rw [hobserved.attribution] at hprovisional
      exact Or.inr (h.closed hobserved hprovisional hread)
  · rename_i hopen
    rw [not_or, Bool.not_eq_false, Bool.not_eq_false] at hopen
    rw [hopen.2] at hread
    have hcandidate := candidate_iff hattributes (by omega) hlive hnow
    split
    · rename_i hnone
      rw [hattributes.transaction] at hnone
      cases hnone
    rename_i transaction htransaction
    rw [hattributes.transaction, Option.some.injEq] at htransaction
    subst htransaction
    split
    · rename_i hack
      rw [hobserved.attribution] at hack
      split
      · exact Or.inl hspoiled
      rename_i hwindow
      rw [Bool.not_eq_false, hcandidate] at hwindow
      cases hprovisional : middle.attribution.provisionalState with
      | some provisional =>
        dsimp only
        rw [if_neg (holder provisional hprovisional).ne]
        exact Or.inl hspoiled
      | none =>
        rw [hobserved.attribution] at hprovisional
        exact Or.inr (h.provisionally hobserved hgeneration hack hprovisional
          ⟨message, clock, rfl, hread, fun _ => hwindow⟩)
    · rename_i hack
      rw [Bool.not_eq_false, hobserved.attribution] at hack
      split
      · exact Or.inl hspoiled
      rename_i hvalid
      rw [Bool.not_eq_false, valid_iff hattributes, hcandidate] at hvalid
      obtain ⟨hwindow, hexpects⟩ := hvalid
      exact Or.inr (h.expected hobserved hack ⟨message, clock, rfl, hread, fun _ => hwindow⟩
        hexpects)

end

/-- Every info message spoils the request, or is one that it allows. -/
theorem Clean.info {events : List Event} (h : Clean decoder request events client)
    (message : Message) (clock : Clock) (hhandled : readInfo decoder message clock ≠ .raised) :
    Spoiled request (client.bridgeInfoReceived decoder message clock)
      ∨ Clean decoder request (events ++ [.info message clock])
        (client.bridgeInfoReceived decoder message clock) := by
  have hold := h.generation
  unfold bridgeInfoReceived
  dsimp only
  split
  · rename_i hraised
    exact absurd hraised hhandled
  · exact Or.inl ⟨show request.generation ≤ client.generation + 1 by omega,
      Or.inl (show request.generation < client.generation + 1 by omega)⟩
  · rename_i retained permitJoin finish hread
    split
    · exact Or.inl ⟨show request.generation ≤ client.generation + 1 by omega,
        Or.inl (show request.generation < client.generation + 1 by omega)⟩
    · rename_i hlate
      have hlive : retained = false := by
        by_contra hretained
        rw [Bool.not_eq_false] at hretained
        refine hlate ⟨hretained, Or.inl ?_⟩
        rw [h.seen]
        exact Bool.and_false retained
      subst hlive
      simp only [currentPermitState, nextGeneration, h.online]
      refine h.classified ?_ ?_ ?_ ?_ ?_ ?_
      · exact ⟨rfl, h.online.symm, rfl, rfl, rfl⟩
      · rfl
      · rfl
      · rfl
      · rfl
      · exact hread

/-! ## Responses and turns -/

/-- A step that leaves the attribution, the bridge and the seconds of the request. -/
theorem Clean.keep {events : List Event} (h : Clean decoder request events client) {event : Event}
    (hgeneration : next.generation = client.generation) (honline : next.online = client.online)
    (hseen : next.bridgeInfoSeen = client.bridgeInfoSeen)
    (hattribution : next.attribution = client.attribution)
    (hpending : ∀ pending, next.pending.get? request.transaction = some pending →
      pending.seconds = request.seconds)
    (hevent : event = .waiting ∨ ∃ message, event = .response message) :
    Clean decoder request (events ++ [event]) next := by
  have hno : (∀ message, event ≠ .state message) ∧
      ∀ message clock, event ≠ .info message clock := by
    rcases hevent with rfl | ⟨message, rfl⟩
    · exact ⟨fun _ hbad => (by cases hbad), fun _ _ hbad => (by cases hbad)⟩
    · exact ⟨fun _ hbad => (by cases hbad), fun _ _ hbad => (by cases hbad)⟩
  -- an info message among the events is one of the earlier ones
  have hback : ∀ message clock, .info message clock ∈ events ++ [event] →
      .info message clock ∈ events := by
    intro message clock hmem
    rcases List.mem_append.1 hmem with hmem | hmem
    · exact hmem
    · exact absurd (List.mem_singleton.1 hmem).symm (hno.2 message clock)
  refine
    { generation := by rw [hgeneration]; exact h.generation
      online := honline.trans h.online
      seen := hseen.trans h.seen
      attributes := by rw [hattribution]; exact h.attributes
      pending := hpending
      noState := h.noState_concat hno.1
      acknowledged := fun hack => ?_
      attributed := fun hinfo => ?_
      infos := fun message clock hmem => ?_
      provisional := fun state hstate => ?_
      unseen := fun hack hnone other hmem finish hsaid => ?_
      settled := ?_ }
  · rw [hattribution] at hack ⊢
    obtain ⟨hnone, response, hmem, hresponse⟩ := h.acknowledged hack
    exact ⟨hnone, response, List.mem_append_left _ hmem, hresponse⟩
  · rw [hattribution] at hinfo
    obtain ⟨found, hmem, hfound⟩ := h.attributed hinfo
    exact ⟨found, List.mem_append_left _ hmem, hfound⟩
  · rw [hattribution]
    exact h.infos message clock (hback message clock hmem)
  · rw [hattribution] at hstate
    rw [hgeneration]
    obtain ⟨hle, hnew, found, hmem, hfound⟩ := h.provisional state hstate
    exact ⟨hle, hnew, found, List.mem_append_left _ hmem, hfound⟩
  · rw [hattribution] at hack hnone
    obtain ⟨message, clock, rfl, hread⟩ := hsaid
    exact h.unseen hack hnone _ (hback message clock hmem) finish ⟨message, clock, rfl, hread⟩
  · rw [hattribution]
    cases hack : client.attribution.acknowledged with
    | true =>
      obtain ⟨before, after, heq, hbefore, hafter⟩ := h.settled_acknowledged hack event
      exact ⟨before, after, heq, hbefore, fun hbad => (by cases hbad), fun _ => hafter⟩
    | false =>
      obtain ⟨before, after, rfl, hbefore, hempty, -⟩ := h.settled
      refine ⟨before ++ after ++ [event], [], by simp, ?_, fun _ => rfl, fun hbad => by cases hbad⟩
      rw [hempty hack, List.append_nil]
      intro first other last finish hsplit hsaid message clock hmem
      rcases split_concat hsplit with rfl | ⟨rest, rfl, heq⟩
      · cases hmem
      · rcases List.mem_append.1 hmem with hmem | hmem
        · exact hbefore first other rest finish heq hsaid message clock hmem
        · exact hno.2 message clock (List.mem_singleton.1 hmem).symm

/-- Without a provisional state nothing is rejected; with one the request is spoiled. -/
theorem Clean.rejectProvisionalOpen {events : List Event}
    (h : Clean decoder request events client) (fails : Bool) :
    Spoiled request (client.rejectProvisionalOpen fails)
      ∨ client.rejectProvisionalOpen fails = client := by
  unfold Client.rejectProvisionalOpen
  split
  · exact Or.inr rfl
  · rename_i state hstate
    obtain ⟨hle, hnew, -⟩ := h.provisional state hstate
    have hspoiled : Spoiled request (client.rejectOpenState state) := ⟨h.generation, Or.inr (by
      show request.generation < max client.unattributedOpenGeneration state.generation
      omega)⟩
    refine Or.inl ?_
    dsimp only
    split
    · exact hspoiled
    · exact hspoiled

/-- Resolving a future keeps the seconds of the request. -/
theorem Clean.resolve {events : List Event} (h : Clean decoder request events client)
    {transaction : Text} {pending : Pending}
    (hget : client.pending.get? transaction = some pending) (result : Except Unit ℤ) :
    Clean decoder request events (client.resolve transaction pending.seconds result) := by
  refine ⟨h.generation, h.online, h.seen, h.attributes, fun found hfound => ?_, h.noState,
    h.acknowledged, h.attributed, h.infos, h.provisional, h.unseen, h.settled⟩
  have hfound : (client.pending.set transaction ⟨pending.seconds, some result⟩).get?
      request.transaction = some found := hfound
  rw [Dict.get?_set] at hfound
  split at hfound
  · rename_i heq
    cases hfound
    exact h.pending pending (heq ▸ hget)
  · exact h.pending found hfound

/-- A response that changes nothing. -/
theorem Clean.same {events : List Event} (h : Clean decoder request events client)
    (message : Message) : Clean decoder request (events ++ [.response message]) client :=
  h.keep rfl rfl rfl rfl h.pending (Or.inr ⟨message, rfl⟩)

theorem pending_commitProvisionalOpen {clock : Clock} {transaction : Text} :
    (client.commitProvisionalOpen clock transaction).pending = client.pending := by
  unfold commitProvisionalOpen
  split
  · rfl
  · dsimp only
    split <;> rfl

/-- The acknowledgement commits a provisional state with the expected end, or spoils the request. -/
theorem Clean.acknowledge {events : List Event} (h : Clean decoder request events client)
    {message : Message} (clock : Clock) (hresponse : request.Acknowledged decoder message) :
    Spoiled request ({ client with
        attribution :=
          { client.attribution with
            acknowledged := true
            acknowledgedAt := some clock.now } }.commitProvisionalOpen clock request.transaction)
      ∨ Clean decoder request (events ++ [.response message]) ({ client with
        attribution :=
          { client.attribution with
            acknowledged := true
            acknowledgedAt := some clock.now } }.commitProvisionalOpen
              clock request.transaction) := by
  have hattributes := h.attributes
  have hsettled : ∃ before after, events ++ [.response message] = before ++ after
      ∧ Settled decoder request before ∧ ∃ other rest, after = .response other :: rest
        ∧ request.Acknowledged decoder other := by
    cases hack : client.attribution.acknowledged with
    | true => exact h.settled_acknowledged hack _
    | false =>
      obtain ⟨before, after, rfl, hbefore, hempty, -⟩ := h.settled
      rw [hempty hack, List.append_nil]
      exact ⟨before, [.response message], rfl, hbefore, message, [], rfl, hresponse⟩
  have hnoState : ∀ other, .state other ∉ events ++ [.response message] :=
    h.noState_concat fun _ hbad => (by cases hbad)
  have hinfos : ∀ other time, .info other time ∈ events ++ [.response message] →
      .info other time ∈ events := by
    intro other time hmem
    rcases List.mem_append.1 hmem with hmem | hmem
    · exact hmem
    · cases List.mem_singleton.1 hmem
  unfold commitProvisionalOpen
  dsimp only
  cases hprovisional : client.attribution.provisionalState with
  | none =>
    refine Or.inr
      { generation := h.generation
        online := h.online
        seen := h.seen
        attributes := ⟨hattributes.transaction, hattributes.requestGeneration,
          hattributes.requestStartedAt, hattributes.expectedEnd, hattributes.attributionDeadline,
          hattributes.windowDeadline⟩
        pending := h.pending
        noState := hnoState
        acknowledged := fun _ => ⟨rfl, message,
          List.mem_append_right _ List.mem_cons_self, hresponse⟩
        attributed := fun hinfo => ?_
        infos := fun other time hmem => ?_
        provisional := fun found hfound => (by cases hfound)
        unseen := fun hbad => (by cases hbad)
        settled := ?_ }
    · obtain ⟨event, hmem, hevent⟩ := h.attributed hinfo
      exact ⟨event, List.mem_append_left _ hmem, hevent⟩
    · obtain ⟨permitJoin, finish, hsaid, hexpects⟩ :=
        h.infos_of_none hprovisional (hinfos other time hmem)
      exact ⟨permitJoin, finish, hsaid, fun hopen => Or.inl (hexpects hopen)⟩
    · obtain ⟨before, after, heq, hbefore, hafter⟩ := hsettled
      exact ⟨before, after, heq, hbefore, fun hbad => (by cases hbad), fun _ => hafter⟩
  | some state =>
    -- the open state that came before the acknowledgement is attributed now, if its end is right
    obtain ⟨hle, hnew, event, hmem, hsaid⟩ := h.provisional state hprovisional
    dsimp only
    split
    · refine Or.inl ⟨h.generation, Or.inr ?_⟩
      show request.generation < max client.unattributedOpenGeneration state.generation
      omega
    · rename_i hvalid
      rw [not_or, not_not, Bool.not_eq_false] at hvalid
      have hexpects : request.Expects state.permitJoinEnd := by
        refine ((valid_iff ?_).1 hvalid.2).2
        exact ⟨hattributes.transaction, hattributes.requestGeneration,
          hattributes.requestStartedAt, hattributes.expectedEnd, hattributes.attributionDeadline,
          hattributes.windowDeadline⟩
      refine Or.inr
        { generation := h.generation
          online := h.online
          seen := h.seen
          attributes := ⟨hattributes.transaction, hattributes.requestGeneration,
            hattributes.requestStartedAt, hattributes.expectedEnd,
            hattributes.attributionDeadline, hattributes.windowDeadline⟩
          pending := h.pending
          noState := hnoState
          acknowledged := fun _ => ⟨rfl, message,
            List.mem_append_right _ List.mem_cons_self, hresponse⟩
          attributed := fun _ => ⟨event, List.mem_append_left _ hmem, _, hsaid, hexpects⟩
          infos := fun other time hmem => ?_
          provisional := fun found hfound => (by cases hfound)
          unseen := fun hbad => (by cases hbad)
          settled := ?_ }
      · obtain ⟨permitJoin, finish, hother, hexpects'⟩ := h.infos other time
          (hinfos other time hmem)
        refine ⟨permitJoin, finish, hother, fun hopen => ?_⟩
        rcases hexpects' hopen with hexpects' | ⟨found, hfound, heq⟩
        · exact Or.inl hexpects'
        · rw [hprovisional, Option.some.injEq] at hfound
          rw [← heq, ← hfound]
          exact Or.inl hexpects
      · obtain ⟨before, after, heq, hbefore, hafter⟩ := hsettled
        exact ⟨before, after, heq, hbefore, fun hbad => (by cases hbad), fun _ => hafter⟩

/-- Every response spoils the request, or is one that it allows. -/
theorem Clean.response {events : List Event} (h : Clean decoder request events client)
    (message : Message) (clock : Clock) :
    Spoiled request (client.joinResponseReceived decoder message clock)
      ∨ Clean decoder request (events ++ [.response message])
        (client.joinResponseReceived decoder message clock) := by
  -- an error rejects a provisional state, if there is one
  have hreject : ∀ fails, Spoiled request (client.rejectProvisionalOpen fails)
      ∨ Clean decoder request (events ++ [.response message])
        (client.rejectProvisionalOpen fails) := by
    intro fails
    rcases h.rejectProvisionalOpen fails with hspoiled | hsame
    · exact Or.inl hspoiled
    · rw [hsame]
      exact Or.inr (h.same message)
  have hrejectResolve : ∀ {transaction pending}, client.pending.get? transaction = some pending →
      ∀ result, Spoiled request
          ((client.rejectProvisionalOpen false).resolve transaction pending.seconds result)
        ∨ Clean decoder request (events ++ [.response message])
          ((client.rejectProvisionalOpen false).resolve transaction pending.seconds result) := by
    intro transaction pending hget result
    rcases h.rejectProvisionalOpen false with hspoiled | hsame
    · exact Or.inl (hspoiled.grows (grows_resolve _ _ _))
    · rw [hsame]
      exact Or.inr ((h.same message).resolve hget result)
  unfold joinResponseReceived
  split
  · exact Or.inr (h.same message)
  · exact hreject true
  rename_i data hdecode
  split
  · rename_i transaction htransaction
    split
    · exact hreject true
    rename_i pending hget
    split
    · exact Or.inr (h.same message)
    split
    · dsimp only
      split
      · exact hrejectResolve hget _
      · exact Or.inr ((h.same message).resolve hget _)
    rename_i hacknowledges
    rw [Bool.not_eq_false] at hacknowledges
    split
    · split
      · exact hrejectResolve hget _
      -- the transaction is the one of the request, so the acknowledgement is its own
      · rename_i hown
        rw [not_not, h.attributes.transaction, Option.some.injEq] at hown
        subst hown
        rw [h.pending pending hget] at hacknowledges ⊢
        have hresponse : request.Acknowledged decoder message :=
          ⟨data, hdecode, htransaction, hacknowledges⟩
        rcases h.acknowledge clock hresponse with hspoiled | hclean
        · exact Or.inl (hspoiled.grows (grows_resolve _ _ _))
        · refine Or.inr ?_
          rw [← h.pending pending hget]
          refine hclean.resolve ?_ _
          rw [pending_commitProvisionalOpen]
          exact hget
    · exact Or.inr ((h.same message).resolve hget _)
  · exact hreject true

end Client

end TrueFamily.Mqtt
