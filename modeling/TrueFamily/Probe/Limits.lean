import TrueFamily.Probe.Valid

/-!
# Valid records within the limits of the durable state

The canonical JSON of a record that satisfies `Scalars` and `Collections` fits the byte limit, and
so does the input of its result ID. A record is therefore valid exactly when the four validators
accept it.
-/

namespace TrueFamily.Probe

open Checked JsonValue TrueFamily.Preflight

/-- The keys of a proof. -/
def proofFields : List String := ["purpose", "frame_kind", "sequence", "target"]

/-- A bound on the bytes of a proof. -/
def proofSize : ℕ := dictSize (fun _ => 78) (proofFields.map chars)

theorem visible_purpose (purpose : ProbePurpose) :
    (chars purpose.value).length ≤ 17 ∧ isVisible (chars purpose.value) = true := by
  cases purpose <;> decide

/-- A proof is within the limits. -/
theorem bounded_proof {purpose : ProbePurpose} {sequence : Value} {target : ℤ} {depth : ℕ}
    (hdepth : depth + 1 ≤ maxProbeJsonDepth)
    (hsequence : Bounded sequence (depth + 1) 1 78)
    (htarget : 0 ≤ target ∧ target ≤ maxSafeInteger) :
    Bounded (proofDict purpose sequence target) depth 5 proofSize := by
  obtain ⟨hlength, hvisible⟩ := visible_purpose purpose
  have hlimit : maxJsonStringLength = 512 := rfl
  suffices hbounded : Bounded (proofDict purpose sequence target) depth
      (1 + (proofFields.map chars).length * 1) proofSize from hbounded
  refine bounded_obj (fun _ => 78) (by omega) (List.Perm.refl _) (by decide) ?_
  simp only [List.forall_mem_cons]
  refine ⟨?_, ?_, hsequence, ?_, fun _ hmem => by cases hmem⟩
  · exact bounded_str hdepth le_rfl (by omega) (isVisible_iff.1 hvisible) (by omega)
  · exact bounded_str hdepth le_rfl (by decide) (isVisible_iff.1 (by decide))
      (by decide)
  · exact bounded_int hdepth le_rfl htarget (by decide)

theorem failureCode_fits : ∀ code ∈ failureCodes, code.length ≤ 43 ∧ isVisible code = true := by
  decide

theorem outcome_fits (outcome : ProbeOutcome) :
    (chars outcome.value).length ≤ 43 ∧ isVisible (chars outcome.value) = true := by
  cases outcome <;> decide

theorem phase_fits (phase : ProbePhase) :
    (chars phase.value).length ≤ 43 ∧ isVisible (chars phase.value) = true := by
  cases phase <;> decide

/-- A list of bounded items, within a given bound. -/
theorem bounded_list {items : List Value} {depth count size maximum : ℕ}
    (hdepth : depth ≤ maxProbeJsonDepth) (hlength : items.length ≤ maximum)
    (h : ∀ item ∈ items, Bounded item (depth + 1) count size) :
    Bounded (.arr items) depth (1 + maximum * count) (maximum * (size + 1) + 2) := by
  have hbounded := bounded_arr hdepth h
  have hcount : items.length * count ≤ maximum * count := Nat.mul_le_mul_right _ hlength
  have hsize : items.length * (size + 1) ≤ maximum * (size + 1) := Nat.mul_le_mul_right _ hlength
  refine ⟨fun nodes hnodes => ?_, hbounded.visible, hbounded.size.trans (by omega)⟩
  obtain ⟨walked, hwalk, hwalked⟩ := hbounded.walks nodes (by omega)
  exact ⟨walked, hwalk, by omega⟩

namespace ProbeRecoveryRecord

/-- The bytes of the values of a record. -/
def valueCost (key : Text) : ℕ :=
  if key = chars "candidate_set_topic" then 642
  else if key = chars "expected_proof" then proofSize
  else if key = chars "proofs" then 5 * (proofSize + 1) + 2
  else if key = chars "consumed_request_ids" then 32 * (134 + 1) + 2
  else if key = chars "used_sequences" then 16 * (16 + 1) + 2
  else 174

/-- The nodes of the values of a record. -/
def valueCount (key : Text) : ℕ :=
  if key = chars "proofs" then 1 + 5 * 5
  else if key = chars "consumed_request_ids" then 1 + 32 * 1
  else if key = chars "used_sequences" then 1 + 16 * 1
  else 5

theorem checkSetTopic_fits {topic : Text} (h : checkSetTopic topic = .ok ()) :
    topic.length ≤ 160 ∧ Visible topic := by
  simp only [checkSetTopic, checkText, bind_unit_eq_ok, check_eq_ok] at h
  obtain ⟨⟨-, -, hlength, hcontrol⟩, -⟩ := h
  refine ⟨hlength, fun c hmem => ?_⟩
  have := of_decide_eq_true (List.all_eq_true.1 hcontrol c hmem)
  omega

variable {record : ProbeRecoveryRecord}

theorem bounded_optional {α : Type} {toValue : α → Value} {value : Option α} {depth count size : ℕ}
    (hdepth : depth ≤ maxProbeJsonDepth) (hcount : 1 ≤ count) (hsize : 4 ≤ size)
    (h : ∀ a ∈ value, Bounded (toValue a) depth count size) :
    Bounded (optional toValue value) depth count size := by
  cases value with
  | none => exact bounded_null hdepth hcount hsize
  | some a => exact h a rfl

/-- Every value of a record whose fields the validators accept is within its limits. -/
theorem bounded_entries (hs : Scalars record) (hc : Collections record)
    (hresult : ∀ resultId ∈ record.resultId, resultIdPattern resultId = true) :
    ∀ entry ∈ record.entries,
      Bounded entry.2 1 (valueCount (chars entry.1)) (valueCost (chars entry.1)) := by
  obtain ⟨hbootLength, hbootVisible⟩ := hexAfter_text (by decide) hs.boundBootId
  obtain ⟨hoperationLength, hoperationVisible⟩ := hexAfter_text (by decide) hs.operationId
  obtain ⟨hieeeLength, hieeeVisible⟩ := hexAfter_text (by decide) hs.ieee
  obtain ⟨htopicLength, htopicVisible⟩ := checkSetTopic_fits hs.setTopic
  have hboot : record.boundBootId.length = 42 := hbootLength
  have hoperation : record.operationId.length = 32 := hoperationLength
  have hieee : record.candidateIeee.length = 18 := hieeeLength
  have hlimit : maxJsonStringLength = 512 := rfl
  have hsafe : maxSafeInteger = 9007199254740991 := rfl
  have hdepth : (1 : ℕ) ≤ maxProbeJsonDepth := by decide
  have hdepth' : (2 : ℕ) ≤ maxProbeJsonDepth := by decide
  have hintended := hs.intendedTarget
  have hchallenge := hs.challengeRange
  have hgeneration := hs.generation
  have hmaxGeneration : maxGeneration = 64 := rfl
  have hattempts := hs.restoreAttempts
  have hmaxAttempts : maxRestoreAttempts = 3 := rfl
  have hfirst := hc.firstTarget
  have hsecond := hc.secondTarget
  -- one fact for each kind of field, at any limit that is large enough for it
  have hconst : ∀ text : Text, text.length ≤ 43 ∧ isVisible text = true →
      ∀ count size, 1 ≤ count → 174 ≤ size → Bounded (.str text) 1 count size :=
    fun text htext count size hcount hsize =>
      bounded_str hdepth hcount (by omega) (isVisible_iff.1 htext.2) (by omega)
  have hint : ∀ number : ℤ, 0 ≤ number ∧ number ≤ maxSafeInteger →
      ∀ count size, 1 ≤ count → 16 ≤ size → Bounded (.int number) 1 count size :=
    fun number hnumber count size hcount hsize => bounded_int hdepth hcount hnumber hsize
  have hflag : ∀ flag count size, 1 ≤ count → 5 ≤ size → Bounded (.bool flag) 1 count size :=
    fun flag count size hcount hsize => bounded_bool hdepth hcount hsize
  simp only [entries, List.forall_mem_cons]
  -- in the order of the durable fields
  refine ⟨?_, ?_, ?_, ?_, ?_, ?_, ?_, ?_, ?_, ?_, ?_, ?_, ?_, ?_, ?_, ?_, ?_, ?_, ?_, ?_, ?_, ?_,
    ?_, ?_, ?_, ?_, ?_, ?_, ?_, ?_, fun _ hmem => by cases hmem⟩
  · exact hconst _ (by rw [hs.schema.1]; decide) _ _ (by decide) (by decide)
  · exact hconst _ (by rw [hs.schema.2]; decide) _ _ (by decide) (by decide)
  · exact hint _ (by rw [hs.build.1]; decide) _ _ (by decide) (by decide)
  · exact hconst _ (by rw [hs.build.2]; decide) _ _ (by decide) (by decide)
  · exact hconst _ (by rw [hs.profile.1]; decide) _ _ (by decide) (by decide)
  · exact hint _ (by rw [hs.profile.2]; decide) _ _ (by decide) (by decide)
  · exact hconst _ ⟨by omega, isVisible_iff.2 hieeeVisible⟩ _ _ (by decide) (by decide)
  · have hcost : valueCost (chars "candidate_set_topic") = 642 := by decide
    rw [hcost]
    exact bounded_str hdepth (by decide) (by omega) htopicVisible (by omega)
  · exact hconst _ ⟨by omega, isVisible_iff.2 hoperationVisible⟩ _ _ (by decide)
      (by decide)
  · exact hconst _ ⟨by omega, isVisible_iff.2 hbootVisible⟩ _ _ (by decide) (by decide)
  · exact hconst _ (phase_fits _) _ _ (by decide) (by decide)
  · exact hint _ (by omega) _ _ (by decide) (by decide)
  · exact hint _ hs.operationDeadline _ _ (by decide) (by decide)
  · exact hint _ hs.lastRequestDeadline _ _ (by decide) (by decide)
  · exact hint _ hs.expectedProofDeadline _ _ (by decide) (by decide)
  · exact hint _ (by omega) _ _ (by decide) (by decide)
  · exact hint _ (by omega) _ _ (by decide) (by decide)
  · have hcount : valueCount (chars "physical_targets") = 1 + 2 * 2 := by decide
    have hcost : valueCost (chars "physical_targets") = 2 * (85 + 1) + 2 := by decide
    have hitems : ∀ item ∈ [JsonValue.int record.physicalTargets.1, .int record.physicalTargets.2],
        Bounded item 2 2 85 := by
      simp only [List.forall_mem_cons]
      exact ⟨bounded_int hdepth' (by decide) (by omega) (by decide),
        bounded_int hdepth' (by decide) (by omega) (by decide), fun _ hmem => by cases hmem⟩
    rw [hcount, hcost]
    exact bounded_list hdepth le_rfl hitems
  · exact hflag _ _ _ (by decide) (by decide)
  · exact hflag _ _ _ (by decide) (by decide)
  · exact hint _ (by omega) _ _ (by decide) (by decide)
  · have hcount : valueCount (chars "consumed_request_ids") = 1 + 32 * 1 := by decide
    have hcost : valueCost (chars "consumed_request_ids") = 32 * (134 + 1) + 2 := by decide
    have hlength : (record.consumedRequestIds.map JsonValue.str : List Value).length ≤ 32 := by
      rw [List.length_map]
      exact hc.consumedLength.2
    rw [hcount, hcost]
    refine bounded_list hdepth hlength fun item hmem => ?_
    obtain ⟨requestId, hrequest, rfl⟩ := List.mem_map.1 hmem
    obtain ⟨hrequestLength, hrequestVisible⟩ := hexAfter_text (by decide) (hc.consumed _ hrequest)
    have hrequestLength : requestId.length = 33 := hrequestLength
    exact bounded_str hdepth' le_rfl (by omega) hrequestVisible (by omega)
  · have hcount : valueCount (chars "used_sequences") = 1 + 16 * 1 := by decide
    have hcost : valueCost (chars "used_sequences") = 16 * (16 + 1) + 2 := by decide
    have hlength : (record.usedSequences.map JsonValue.int : List Value).length ≤ 16 := by
      rw [List.length_map]
      exact hc.usedLength
    rw [hcount, hcost]
    refine bounded_list hdepth hlength fun item hmem => ?_
    obtain ⟨sequence, hsequence, rfl⟩ := List.mem_map.1 hmem
    have hrange := hc.used _ hsequence
    exact bounded_int hdepth' le_rfl (by omega) le_rfl
  · have hcount : valueCount (chars "proofs") = 1 + 5 * 5 := by decide
    have hcost : valueCost (chars "proofs") = 5 * (proofSize + 1) + 2 := by decide
    have hlength : (record.proofs.map ProbeCommandProof.asDict).length ≤ 5 := by
      rw [List.length_map]
      exact hc.proofsLength
    rw [hcount, hcost]
    refine bounded_list hdepth hlength fun item hmem => ?_
    obtain ⟨proof, hproof, rfl⟩ := List.mem_map.1 hmem
    obtain ⟨htarget, hused, -⟩ := hc.proofs proof hproof
    have hrange := hc.used _ hused
    exact bounded_proof (by decide) (bounded_int (by decide) le_rfl (by omega) (by decide))
      (by omega)
  · have hcount : valueCount (chars "expected_proof") = 5 := by decide
    have hcost : valueCost (chars "expected_proof") = proofSize := by decide
    rw [hcount, hcost]
    refine bounded_optional hdepth (by decide) (by decide) fun expected hexpected => ?_
    have htarget := hc.expectedTarget expected hexpected
    refine bounded_proof (by decide) ?_ (by omega)
    cases hsequence : expected.sequence with
    | none => exact bounded_null (by decide) le_rfl (by decide)
    | some sequence =>
      have hrange := hc.used _ (hc.expectedSequence expected hexpected sequence hsequence)
      exact bounded_int (by decide) le_rfl (by omega) (by decide)
  · exact bounded_optional hdepth (by decide) (by decide) fun outcome _ =>
      hconst _ (outcome_fits outcome) _ _ (by decide) (by decide)
  · exact bounded_optional hdepth (by decide) (by decide) fun code hcode =>
      hconst _ (failureCode_fits code (hs.failureCode code hcode)) _ _ (by decide)
        (by decide)
  · refine bounded_optional hdepth (by decide) (by decide) fun resultId hid => ?_
    obtain ⟨hlength, hvisible⟩ := hexAfter_text (by decide) (hresult resultId hid)
    have hlength : resultId.length = 36 := hlength
    exact hconst _ ⟨by omega, isVisible_iff.2 hvisible⟩ _ _ (by decide) (by decide)
  · exact hint _ hs.resultNotBefore _ _ (by decide) (by decide)
  · exact hflag _ _ _ (by decide) (by decide)

/-- The part of a record with these fields is encoded. -/
theorem encode_part (hs : Scalars record) (hc : Collections record)
    (hresult : ∀ resultId ∈ record.resultId, resultIdPattern resultId = true)
    (p : String → Bool) :
    ∃ text, canonicalJsonText (.obj ((record.entries.filter fun entry => p entry.1).map
      fun entry => (chars entry.1, entry.2))) maxStateJsonBytes = .ok text := by
  have hnames : record.entries.map Prod.fst = recoveryFields := rfl
  have hkeys : (((record.entries.filter fun entry => p entry.1).map
      fun entry => (chars entry.1, entry.2)).map Prod.fst)
        = (recoveryFields.filter p).map chars := by
    rw [← hnames, List.filter_map, List.map_map, List.map_map]
    rfl
  have hsub : ((recoveryFields.filter p).map chars).Sublist (recoveryFields.map chars) :=
    (List.filter_sublist).map chars
  have hbounded := bounded_dict valueCount valueCost (Nat.zero_le _) (List.Perm.of_eq hkeys)
    (fun key hmem => (by decide : ∀ key ∈ recoveryFields.map chars, ShortKey key) key
      (hsub.subset hmem))
    (fun entry hmem => by
      obtain ⟨original, horiginal, rfl⟩ := List.mem_map.1 hmem
      exact bounded_entries hs hc hresult original (List.mem_of_mem_filter horiginal))
  have hcount : nodeCount valueCount ((recoveryFields.filter p).map chars)
      ≤ nodeCount valueCount (recoveryFields.map chars) :=
    (hsub.map valueCount).sum_le_sum fun _ _ => Nat.zero_le _
  have hsize : dictSize valueCost ((recoveryFields.filter p).map chars)
      ≤ dictSize valueCost (recoveryFields.map chars) :=
    Nat.add_le_add_right ((hsub.map _).sum_le_sum fun _ _ => Nat.zero_le _) 2
  have hnodes : 1 + nodeCount valueCount (recoveryFields.map chars) ≤ maxProbeJsonNodes := by
    decide
  have hbytes : dictSize valueCost (recoveryFields.map chars) ≤ maxStateJsonBytes := by
    decide
  exact ⟨_, canonicalJsonText_eq_ok hbounded (by omega) (by omega) (by decide)⟩

theorem encode_asDict (hs : Scalars record) (hc : Collections record)
    (hresult : ∀ resultId ∈ record.resultId, resultIdPattern resultId = true) :
    ∃ text, canonicalJsonText record.asDict maxStateJsonBytes = .ok text := by
  obtain ⟨text, htext⟩ := encode_part hs hc hresult fun _ => true
  rw [List.filter_true] at htext
  exact ⟨text, htext⟩

section

variable [Sha256]

/-- A valid record, as facts about its fields. -/
theorem of_validate (h : record.validate = .ok ()) :
    Scalars record ∧ Collections record ∧ record.validatePhase = .ok ()
      ∧ record.validateSequenceCapacity = .ok () := by
  simp only [validate, bind_eq_ok, exists_unit] at h
  obtain ⟨profile, hscalars, hcollections, hphase, hcapacity, -⟩ := h
  obtain ⟨hs, rfl⟩ := validateScalars_eq_ok.1 hscalars
  exact ⟨hs, validateCollections_eq_ok.1 hcollections, hphase, hcapacity⟩

/-- A record that the four validators accept is valid. -/
theorem validate_eq_ok (hs : Scalars record) (hc : Collections record)
    (hresult : ∀ resultId ∈ record.resultId, resultIdPattern resultId = true)
    (hphase : record.validatePhase = .ok ())
    (hcapacity : record.validateSequenceCapacity = .ok ()) :
    record.validate = .ok () := by
  obtain ⟨text, htext⟩ := encode_asDict hs hc hresult
  simp only [validate, bind_eq_ok, exists_unit]
  exact ⟨brtProfile, validateScalars_eq_ok.2 ⟨hs, rfl⟩, validateCollections_eq_ok.2 hc, hphase,
    hcapacity, text, htext, rfl⟩

/-- The result ID of a record. -/
def resultIdOf (record : ProbeRecoveryRecord) : Text :=
  chars "tfpp-result-" ++ (hexdigest (valueFrame
    (.obj ((record.entries.filter fun entry => entry.1 ∈ resultIdFields).map fun entry =>
      (chars entry.1, entry.2))) "true-family-physical-probe/result/v2")).take 24

theorem calculateResultId_eq_ok (hs : Scalars record) (hc : Collections record)
    (hresult : ∀ resultId ∈ record.resultId, resultIdPattern resultId = true) :
    calculateResultId record.entries = .ok record.resultIdOf := by
  obtain ⟨text, htext⟩ := encode_part hs hc hresult fun name => decide (name ∈ resultIdFields)
  simp only [calculateResultId, bind_eq_ok, pure_eq_ok]
  exact ⟨text, htext, rfl⟩

end

end ProbeRecoveryRecord

end TrueFamily.Probe
