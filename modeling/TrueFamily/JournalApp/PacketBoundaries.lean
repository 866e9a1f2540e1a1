import TrueFamily.JournalApp.Framing

/-!
# Framing and packet boundaries

What a request is read as depends on the stream and, through the bytes that arrived with the end
of the headers, on how it was cut: more of them than the body's declared length refuse the
request. `declared` is what the headers alone decide, and `visible` bounds the bytes that can
arrive with them.
-/

namespace TrueFamily.JournalApp

open Checked JsonValue Chunked Splitting

namespace StrictHttpServer

variable {self : StrictHttpServer} {chunks : List Bytes} {stream : Bytes}

/-! ## The header block -/

/-- A request's head: its method, path and headers, the declared length of its body, and where
the body begins. -/
structure Head where
  method : Text
  path : Text
  headers : List (Text × Text)
  contentLength : ℕ
  bodyStart : ℕ

/-- What the headers of a stream decide. -/
def declared (self : StrictHttpServer) (stream : Bytes) : Except ProtocolFailure Head :=
  match find blankLine stream with
  | none =>
    if self.maxHeaderBytes ≤ stream.length then .error ⟨431, "headers_too_large"⟩
    else .error ⟨400, "invalid_http"⟩
  | some marker =>
    if self.maxHeaderBytes < marker + 4 then .error ⟨431, "headers_too_large"⟩
    else do
      let (method, path, headers) ← parseHeaderBlock (stream.take marker)
      let contentLength ← self.validateStrictFraming method path headers
      return ⟨method, path, headers, contentLength, marker + 4⟩

/-- The bytes of the body that can arrive with the end of the headers. -/
def visible (self : StrictHttpServer) (bodyStart : ℕ) : ℕ :=
  min 1023 (self.maxHeaderBytes + 1 - bodyStart)

/-- What the header loop returns of a stream. -/
def HeaderResult (self : StrictHttpServer) (stream : Bytes)
    (result : Except ProtocolFailure (Bytes × Bytes × List Bytes)) : Prop :=
  match find blankLine stream with
  | none =>
    if self.maxHeaderBytes ≤ stream.length then result = .error ⟨431, "headers_too_large"⟩
    else result = .error ⟨400, "invalid_http"⟩
  | some marker =>
    if self.maxHeaderBytes < marker + 4 then result = .error ⟨431, "headers_too_large"⟩
    else ∃ seen reader later, result = .ok (stream.take marker, seen, reader) ∧
      Cuts reader later ∧ stream.drop (marker + 4) = seen ++ later ∧
      seen.length ≤ self.visible (marker + 4)

theorem blankLine_ne_nil : blankLine ≠ [] := by decide

/-- The blank line is not complete before the bytes that complete it arrive. -/
theorem length_lt_of_find {buffered later : Bytes} {marker : ℕ}
    (hnone : find blankLine buffered = none)
    (hfind : find blankLine (buffered ++ later) = some marker) : buffered.length < marker + 4 := by
  by_contra hle
  have hfound := find_of_append later blankLine_ne_nil hfind (Nat.not_lt.1 hle)
  rw [hnone] at hfound
  cases hfound

/-- Every pass keeps what the stream decides. -/
theorem readHeaderLoop_result : ∀ (passes : ℕ) (buffered : Bytes) (chunks : List Bytes)
    (stream : Bytes), Cuts chunks stream → find blankLine buffered = none →
    buffered.length < self.maxHeaderBytes → self.maxHeaderBytes + 1 ≤ passes + buffered.length →
    self.HeaderResult (buffered ++ stream) (self.readHeaderLoop passes buffered chunks)
  | 0, buffered, _, _, _, _, hlength, hpasses => by omega
  | passes + 1, buffered, chunks, stream, hcuts, hnone, hlength, hpasses => by
    obtain ⟨chunk, reader, hread, hshort, hend, later, hlater, hstream⟩ :=
      hcuts.read (n := min 1024 (self.maxHeaderBytes + 1 - buffered.length)) (by omega)
    rw [readHeaderLoop]
    dsimp only
    rw [if_neg (by omega), hread]
    cases chunk with
    | nil =>
      -- the stream has ended without a blank line
      rw [hend.1 rfl, List.append_nil]
      unfold HeaderResult
      rw [hnone]
      exact (if_neg (Nat.not_le.2 hlength)).symm ▸ rfl
    | cons b chunk =>
      dsimp only
      generalize hchunk : b :: chunk = arrived at hshort hstream
      have hpos : 1 ≤ arrived.length := by
        rw [← hchunk]
        exact Nat.succ_pos _
      rw [hstream, ← List.append_assoc]
      cases hfind : find blankLine (buffered ++ arrived) with
      | some marker =>
        -- the blank line ends in what has just arrived
        have hafter := length_lt_of_find hnone hfind
        have hwithin := length_le_of_find hfind blankLine_ne_nil
        have hfour : blankLine.length = 4 := rfl
        rw [hfour] at hwithin
        have hall := find_append blankLine_ne_nil later hfind
        unfold HeaderResult
        rw [hall]
        dsimp only
        split
        · rfl
        · refine ⟨(buffered ++ arrived).drop (marker + 4), reader, later, ?_, hlater, ?_, ?_⟩
          · rw [@List.take_append_of_le_length _ (buffered ++ arrived) later marker (by omega)]
          · rw [List.drop_append_of_le_length hwithin]
          · rw [List.length_append] at hwithin
            rw [List.length_drop, List.length_append, visible]
            omega
      | none =>
        dsimp only
        split
        -- the headers are too large, wherever the blank line may come later
        · rename_i hlarge
          unfold HeaderResult
          cases hall : find blankLine (buffered ++ arrived ++ later) with
          | none =>
            dsimp only
            rw [List.length_append, if_pos (by omega)]
          | some marker =>
            have hafter := length_lt_of_find hfind hall
            dsimp only
            rw [if_pos (by omega)]
        · rename_i hroom
          rw [List.length_append] at hroom
          exact readHeaderLoop_result passes (buffered ++ arrived) reader later hlater hfind
            (by rw [List.length_append]; omega) (by rw [List.length_append]; omega)

theorem readHeaderBlock_result (h : Cuts chunks stream) :
    self.HeaderResult stream (self.readHeaderBlock chunks) := by
  have hmax := self.atLeast
  exact self.readHeaderLoop_result (self.maxHeaderBytes + 1) [] chunks stream h (by decide)
    (by rw [List.length_nil]; omega) (by omega)

/-! ## The body -/

/-- The body loop reads the bytes that remain, when they arrive. -/
theorem readBodyLoop_eq : ∀ (passes remaining : ℕ) (body : Bytes) (chunks : List Bytes)
    (stream : Bytes), Cuts chunks stream → remaining ≤ passes →
    readBodyLoop passes remaining body chunks =
      if remaining ≤ stream.length then .ok (body ++ stream.take remaining)
      else .error ⟨400, "invalid_content_length"⟩
  | passes, 0, body, chunks, stream, _, _ => by
    rw [readBodyLoop.eq_def]
    simp
  | 0, remaining + 1, _, _, _, _, hpasses => by omega
  | passes + 1, remaining + 1, body, chunks, stream, hcuts, hpasses => by
    obtain ⟨chunk, reader, hread, hshort, hend, later, hlater, hstream⟩ :=
      hcuts.read (n := min (64 * 1024) (remaining + 1)) (by omega)
    rw [readBodyLoop.eq_def]
    dsimp only
    rw [hread]
    cases chunk with
    | nil =>
      dsimp only
      rw [hend.1 rfl, if_neg (by simp)]
    | cons b chunk =>
      dsimp only
      generalize hchunk : b :: chunk = arrived at hshort hstream
      have hpos : 1 ≤ arrived.length := by
        rw [← hchunk]
        exact Nat.succ_pos _
      rw [readBodyLoop_eq passes _ _ reader later hlater (by omega), hstream, List.length_append,
        List.take_append, List.take_of_length_le (l := arrived) (by omega), List.append_assoc]
      by_cases hle : remaining + 1 - arrived.length ≤ later.length
      · rw [if_pos hle, if_pos (by omega)]
      · rw [if_neg hle, if_neg (by omega)]

/-! ## Requests -/

/-- The request that a head and its body make up. -/
def Head.request (head : Head) (body : Bytes) : StrictHttpRequest :=
  { method := head.method, path := head.path, headers := head.headers, body := body }

/-- What is read when `seen` bytes of the body arrived with the end of the headers. -/
def outcome (self : StrictHttpServer) (stream : Bytes) (seen : ℕ) :
    Except ProtocolFailure StrictHttpRequest := do
  let head ← self.declared stream
  let rest := stream.drop head.bodyStart
  if head.contentLength < seen ∨ rest.length < head.contentLength then
    .error ⟨400, "invalid_content_length"⟩
  else .ok (head.request (rest.take head.contentLength))

theorem declared_eq_ok {head : Head} (h : self.declared stream = .ok head) :
    ∃ marker, find blankLine stream = some marker ∧ marker + 4 ≤ self.maxHeaderBytes ∧
      head.bodyStart = marker + 4 ∧
      parseHeaderBlock (stream.take marker) = .ok (head.method, head.path, head.headers) ∧
      self.validateStrictFraming head.method head.path head.headers = .ok head.contentLength := by
  unfold declared at h
  split at h
  · split at h <;> cases h
  · rename_i marker hfind
    split at h
    · cases h
    · rename_i hmax
      simp only [bind_eq_ok, pure_eq_ok] at h
      obtain ⟨⟨method, path, headers⟩, hparse, contentLength, hframing, rfl⟩ := h
      exact ⟨marker, hfind, Nat.not_lt.1 hmax, rfl, hparse, hframing⟩

/-- What is read after a header block. -/
theorem readRequest_of_block {marker : ℕ} {seen later : Bytes} {reader : List Bytes}
    (hblock : self.readHeaderBlock chunks = .ok (stream.take marker, seen, reader))
    (hfind : find blankLine stream = some marker) (hmax : marker + 4 ≤ self.maxHeaderBytes)
    (hcuts : Cuts reader later) (hdrop : stream.drop (marker + 4) = seen ++ later) :
    self.readRequest chunks = self.outcome stream seen.length := by
  unfold outcome declared
  rw [readRequest, hblock, hfind]
  dsimp only
  rw [if_neg (Nat.not_lt.2 hmax)]
  change ((parseHeaderBlock (stream.take marker)).bind _) = _
  cases hparse : parseHeaderBlock (stream.take marker) with
  | error e => rfl
  | ok parsed =>
    obtain ⟨method, path, headers⟩ := parsed
    change ((self.validateStrictFraming method path headers).bind _) =
      ((((self.validateStrictFraming method path headers).bind _) : Except _ _).bind _)
    cases hframing : self.validateStrictFraming method path headers with
    | error e => rfl
    | ok contentLength =>
      change ((check (seen.length ≤ contentLength) _).bind _) =
        if contentLength < seen.length ∨ (stream.drop (marker + 4)).length < contentLength then
          Except.error _
        else Except.ok _
      by_cases hseen : seen.length ≤ contentLength
      · rw [check, if_pos hseen]
        change (readBodyLoop _ _ _ _).bind _ = _
        rw [readBodyLoop_eq _ _ _ reader later hcuts (le_refl _), hdrop, List.length_append]
        by_cases hlong : contentLength - seen.length ≤ later.length
        · rw [if_pos hlong, if_neg (by omega), List.take_append,
            List.take_of_length_le (l := seen) hseen]
          rfl
        · rw [if_neg hlong, if_pos (by omega)]
          rfl
      · rw [check, if_neg hseen, if_pos (by omega)]
        rfl

/-- A request is read as its head and the bytes that were seen with it decide. -/
theorem readRequest_eq (h : Cuts chunks stream) : ∃ seen, self.readRequest chunks =
    self.outcome stream seen ∧ ∀ head, self.declared stream = .ok head →
      seen ≤ (stream.drop head.bodyStart).length ∧ seen ≤ self.visible head.bodyStart := by
  have hresult := self.readHeaderBlock_result h
  unfold HeaderResult at hresult
  cases hfind : find blankLine stream with
  | none =>
    refine ⟨0, ?_, fun head hhead => ?_⟩
    · unfold outcome declared
      rw [hfind] at hresult ⊢
      dsimp only at hresult ⊢
      rw [readRequest]
      split
      · rename_i hlarge
        rw [if_pos hlarge] at hresult
        rw [hresult]
        rfl
      · rename_i hsmall
        rw [if_neg hsmall] at hresult
        rw [hresult]
        rfl
    -- without a blank line no head is declared
    · obtain ⟨marker, hsome, _⟩ := declared_eq_ok hhead
      rw [hfind] at hsome
      cases hsome
  | some marker =>
    rw [hfind] at hresult
    dsimp only at hresult
    by_cases hmax : self.maxHeaderBytes < marker + 4
    · rw [if_pos hmax] at hresult
      refine ⟨0, ?_, fun head hhead => ?_⟩
      · unfold outcome declared
        rw [hfind]
        dsimp only
        rw [if_pos hmax, readRequest, hresult]
        rfl
      · obtain ⟨marker', hsome, hle, _⟩ := declared_eq_ok hhead
        rw [hfind, Option.some.injEq] at hsome
        omega
    · rw [if_neg hmax] at hresult
      -- the bytes after the blank line that arrived with it are the start of the body
      obtain ⟨seen, reader, later, hblock, hcuts, hdrop, hvisible⟩ := hresult
      refine ⟨seen.length, readRequest_of_block hblock hfind (Nat.not_lt.1 hmax) hcuts hdrop,
        fun head hhead => ?_⟩
      obtain ⟨marker', hsome, _, hstart, _⟩ := declared_eq_ok hhead
      rw [hfind, Option.some.injEq] at hsome
      rw [hstart, ← hsome]
      refine ⟨?_, hvisible⟩
      rw [hdrop, List.length_append]
      omega

/-! ## Cutting the stream -/

/-- A pass that does not complete the blank line. -/
theorem readHeaderLoop_step {passes : ℕ} {buffered chunk : Bytes} {reader rest : List Bytes}
    (hread : read (min 1024 (self.maxHeaderBytes + 1 - buffered.length)) reader = (chunk, rest))
    (hne : chunk ≠ []) (hnone : find blankLine (buffered ++ chunk) = none)
    (hlength : (buffered ++ chunk).length < self.maxHeaderBytes) :
    self.readHeaderLoop (passes + 1) buffered reader =
      self.readHeaderLoop passes (buffered ++ chunk) rest := by
  obtain ⟨b, tail, rfl⟩ := List.exists_cons_of_ne_nil hne
  have hbuffered := hlength
  rw [List.length_append] at hbuffered
  rw [readHeaderLoop]
  dsimp only
  rw [if_neg (by omega), hread]
  dsimp only
  rw [hnone]
  exact if_neg (Nat.not_le.2 hlength)

/-- A chunk without a blank line is taken before the next one is. -/
theorem readHeaderLoop_chunk (chunk : Bytes) : ∀ (passes : ℕ) (buffered : Bytes)
    (chunks : List Bytes), chunk ≠ [] → find blankLine (buffered ++ chunk) = none →
    (buffered ++ chunk).length < self.maxHeaderBytes →
    self.maxHeaderBytes + 1 ≤ passes + buffered.length →
    ∃ passes', self.maxHeaderBytes + 1 ≤ passes' + (buffered ++ chunk).length ∧
      self.readHeaderLoop passes buffered (chunk :: chunks) =
        self.readHeaderLoop passes' (buffered ++ chunk) chunks := by
  induction hn : chunk.length using Nat.strong_induction_on generalizing chunk with
  | _ n ih =>
    intro passes buffered chunks hne hnone hlength hpasses
    have hpos := List.length_pos_of_ne_nil hne
    have hroom := hlength
    rw [List.length_append] at hroom
    obtain ⟨passes, rfl⟩ : ∃ m, passes = m + 1 := ⟨passes - 1, by omega⟩
    by_cases hshort : chunk.length ≤ min 1024 (self.maxHeaderBytes + 1 - buffered.length)
    · exact ⟨passes, by rw [List.length_append]; omega,
        readHeaderLoop_step (read_of_le hshort chunks) hne hnone hlength⟩
    · have hread := read_of_lt (Nat.not_le.1 hshort) chunks
      generalize hm : min 1024 (self.maxHeaderBytes + 1 - buffered.length) = m at hshort hread
      have hmpos : 1 ≤ m := by omega
      have htake : (chunk.take m).length = m := by
        rw [List.length_take]
        omega
      have hdrop : (chunk.drop m).length = chunk.length - m := List.length_drop
      have hwhole : buffered ++ chunk = buffered ++ chunk.take m ++ chunk.drop m := by
        rw [List.append_assoc, List.take_append_drop]
      have hnone' : find blankLine (buffered ++ chunk.take m) = none := by
        cases hfind : find blankLine (buffered ++ chunk.take m) with
        | none => rfl
        | some marker =>
          have hall := find_append blankLine_ne_nil (chunk.drop m) hfind
          rw [← hwhole, hnone] at hall
          cases hall
      have hstep : self.readHeaderLoop (passes + 1) buffered (chunk :: chunks) =
          self.readHeaderLoop passes (buffered ++ chunk.take m) (chunk.drop m :: chunks) :=
        readHeaderLoop_step (by rw [hm, hread]) (List.ne_nil_of_length_pos (by omega)) hnone'
          (by rw [List.length_append]; omega)
      rw [hstep, hwhole]
      exact ih (chunk.drop m).length (by omega) (chunk.drop m) rfl passes
        (buffered ++ chunk.take m) chunks (List.ne_nil_of_length_pos (by omega))
        (by rw [← hwhole]; exact hnone) (by rw [← hwhole]; exact hlength)
        (by rw [List.length_append]; omega)

/-- The loop on what completes the blank line. -/
theorem readHeaderLoop_last {passes marker : ℕ} {buffered chunk : Bytes} {reader rest : List Bytes}
    (hread : read (min 1024 (self.maxHeaderBytes + 1 - buffered.length)) reader = (chunk, rest))
    (hne : chunk ≠ []) (hfind : find blankLine (buffered ++ chunk) = some marker)
    (hmax : marker + 4 ≤ self.maxHeaderBytes) (hbuffered : buffered.length < self.maxHeaderBytes) :
    self.readHeaderLoop (passes + 1) buffered reader =
      .ok ((buffered ++ chunk).take marker, (buffered ++ chunk).drop (marker + 4), rest) := by
  obtain ⟨b, tail, rfl⟩ := List.exists_cons_of_ne_nil hne
  rw [readHeaderLoop]
  dsimp only
  rw [if_neg (by omega), hread]
  dsimp only
  rw [hfind]
  exact if_neg (Nat.not_lt.2 hmax)

/-! ## Independence -/

/-- Every cut of the stream is read alike. -/
def Independent (self : StrictHttpServer) (stream : Bytes) : Prop :=
  ∀ chunks chunks', Cuts chunks stream → Cuts chunks' stream →
    self.readRequest chunks = self.readRequest chunks'

/-- Where the stream is accepted, the body is the declared number of bytes after the first blank
line. -/
def BodyExact (self : StrictHttpServer) (stream : Bytes) : Prop :=
  ∀ chunks request, Cuts chunks stream → self.readRequest chunks = .ok request →
    ∃ marker contentLength, find blankLine stream = some marker ∧
      parseHeaderBlock (stream.take marker) = .ok (request.method, request.path, request.headers) ∧
      self.validateStrictFraming request.method request.path request.headers = .ok contentLength ∧
      request.body = (stream.drop (marker + 4)).take contentLength ∧
      request.body.length = contentLength

/-- No byte beyond the declared body can arrive with the end of the headers: nothing follows the
body, or the body is at least as long as what can. -/
def NoVisibleSurplus (self : StrictHttpServer) (stream : Bytes) : Prop :=
  ∀ head, self.declared stream = .ok head →
    (stream.drop head.bodyStart).length ≤ head.contentLength ∨
      self.visible head.bodyStart ≤ head.contentLength

theorem outcome_eq_ok {seen : ℕ} {request : StrictHttpRequest}
    (h : self.outcome stream seen = .ok request) : ∃ head, self.declared stream = .ok head ∧
      seen ≤ head.contentLength ∧ head.contentLength ≤ (stream.drop head.bodyStart).length ∧
      request = head.request ((stream.drop head.bodyStart).take head.contentLength) := by
  simp only [outcome, bind_eq_ok] at h
  obtain ⟨head, hhead, h⟩ := h
  split at h
  · cases h
  · rename_i hnot
    cases h
    exact ⟨head, hhead, by omega, by omega, rfl⟩

theorem bodyExact (self : StrictHttpServer) (stream : Bytes) : self.BodyExact stream := by
  intro chunks request hcuts haccepted
  obtain ⟨seen, hread, -⟩ := self.readRequest_eq hcuts
  rw [hread] at haccepted
  obtain ⟨head, hhead, -, hlong, rfl⟩ := outcome_eq_ok haccepted
  obtain ⟨marker, hfind, -, hstart, hparse, hframing⟩ := declared_eq_ok hhead
  rw [hstart] at hlong ⊢
  refine ⟨marker, head.contentLength, hfind, hparse, hframing, rfl, ?_⟩
  change ((stream.drop (marker + 4)).take head.contentLength).length = head.contentLength
  rw [List.length_take]
  omega

/-- Without a visible surplus the bytes that were seen decide nothing. -/
theorem outcome_of_noVisibleSurplus (h : self.NoVisibleSurplus stream) {seen : ℕ}
    (hseen : ∀ head, self.declared stream = .ok head →
      seen ≤ (stream.drop head.bodyStart).length ∧ seen ≤ self.visible head.bodyStart) :
    self.outcome stream seen = self.outcome stream 0 := by
  unfold outcome
  cases hhead : self.declared stream with
  | error e => rfl
  | ok head =>
    have hvisible := hseen head hhead
    have hnone := h head hhead
    change (if _ then _ else _) = (if _ then _ else _)
    have hiff : (head.contentLength < seen ∨
        (stream.drop head.bodyStart).length < head.contentLength) ↔
        (head.contentLength < 0 ∨
          (stream.drop head.bodyStart).length < head.contentLength) := by
      omega
    rw [if_congr hiff rfl rfl]

/-- A surplus that can be seen is seen in one cut and not in another. -/
theorem noVisibleSurplus_of_independent (h : self.Independent stream) :
    self.NoVisibleSurplus stream := by
  intro head hhead
  by_contra hnot
  obtain ⟨hlong, hvisible⟩ := not_or.1 hnot
  obtain ⟨marker, hfind, hmax, hstart, -, -⟩ := declared_eq_ok hhead
  rw [hstart] at hlong hvisible
  have hwithin := length_le_of_find hfind blankLine_ne_nil
  have hfour : blankLine.length = 4 := rfl
  rw [hfour] at hwithin
  rw [List.length_drop] at hlong
  -- the stream before the last byte of the blank line, that byte, and the rest
  have hsplit : ∃ first last rest, stream = first ++ last :: rest ∧ first.length = marker + 3 := by
    refine ⟨stream.take (marker + 3), stream[marker + 3], stream.drop (marker + 3 + 1), ?_, ?_⟩
    · rw [← List.drop_eq_getElem_cons, List.take_append_drop]
    · rw [List.length_take]
      omega
  obtain ⟨first, last, rest, rfl, hfirst⟩ := hsplit
  rw [List.length_append, List.length_cons] at hlong hwithin
  have hfirstNone : find blankLine (first ++ []) = none := by
    rw [List.append_nil]
    cases hearly : find blankLine first with
    | none => rfl
    | some early =>
      have hall := find_append blankLine_ne_nil (last :: rest) hearly
      have hle := length_le_of_find hearly blankLine_ne_nil
      rw [hfind, Option.some.injEq] at hall
      omega
  rw [List.append_nil] at hfirstNone
  have hfirstNe : first ≠ [] := List.ne_nil_of_length_pos (by omega)
  have hrestNe : rest ≠ [] := List.ne_nil_of_length_pos (by omega)
  have hfull : find blankLine (first ++ [last]) = some marker :=
    find_of_append rest blankLine_ne_nil (by simpa using hfind)
      (by rw [List.length_append, List.length_singleton, hfour]; omega)
  have hloop := fun chunks => self.readHeaderLoop_chunk first (self.maxHeaderBytes + 1) [] chunks
    hfirstNe hfirstNone (by rw [List.nil_append]; omega) (by omega)
  have hwhole : first ++ last :: rest = first ++ [last] ++ rest := by simp
  have hdrop : (first ++ last :: rest).drop (marker + 4) = rest := by
    rw [hwhole]
    exact List.drop_left' (by rw [List.length_append, List.length_singleton, hfirst])
  -- the last byte of the blank line alone
  have hsplitCuts : Cuts [first, [last], rest] (first ++ last :: rest) :=
    ⟨by simp, by simp [hfirstNe, hrestNe]⟩
  -- the last byte of the blank line together with the rest
  have hjoinedCuts : Cuts [first, last :: rest] (first ++ last :: rest) :=
    ⟨by simp, by simp [hfirstNe]⟩
  have hsame := h _ _ hsplitCuts hjoinedCuts
  have haccepted : self.readRequest [first, [last], rest] =
      .ok (head.request (rest.take head.contentLength)) := by
    obtain ⟨passes, hpasses, hfirstLoop⟩ := hloop [[last], rest]
    rw [List.nil_append] at hpasses hfirstLoop
    obtain ⟨passes, rfl⟩ : ∃ m, passes = m + 1 := ⟨passes - 1, by omega⟩
    have hblock : self.readHeaderBlock [first, [last], rest] =
        .ok ((first ++ [last]).take marker, (first ++ [last]).drop (marker + 4), [rest]) := by
      rw [readHeaderBlock, hfirstLoop]
      exact readHeaderLoop_last (read_of_le (by rw [List.length_singleton]; omega) _) (by simp)
        hfull hmax (by omega)
    have hnothing : (first ++ [last]).drop (marker + 4) = [] :=
      List.drop_of_length_le (by rw [List.length_append, List.length_singleton]; omega)
    have htake : (first ++ [last]).take marker = (first ++ last :: rest).take marker := by
      rw [hwhole, @List.take_append_of_le_length _ (first ++ [last]) rest marker
        (by rw [List.length_append]; omega)]
    rw [hnothing, htake] at hblock
    rw [readRequest_of_block hblock hfind hmax (cuts_single hrestNe) hdrop, outcome, hhead]
    change (if _ then _ else _) = _
    rw [hstart, hdrop, List.length_nil, if_neg (by omega)]
  have hrefused : self.readRequest [first, last :: rest] =
      .error ⟨400, "invalid_content_length"⟩ := by
    obtain ⟨passes, hpasses, hfirstLoop⟩ := hloop [last :: rest]
    rw [List.nil_append] at hpasses hfirstLoop
    obtain ⟨passes, rfl⟩ : ∃ m, passes = m + 1 := ⟨passes - 1, by omega⟩
    have hseen : ∃ seen reader later,
        read (min 1024 (self.maxHeaderBytes + 1 - first.length)) [last :: rest] =
          (last :: seen, reader) ∧ Cuts reader later ∧ rest = seen ++ later ∧
        head.contentLength < seen.length := by
      unfold visible at hvisible
      by_cases hshort :
          (last :: rest).length ≤ min 1024 (self.maxHeaderBytes + 1 - first.length)
      · exact ⟨rest, [], [], read_of_le hshort [], ⟨rfl, by simp⟩, by simp, by omega⟩
      · have hread := read_of_lt (Nat.not_le.1 hshort) []
        rw [List.length_cons] at hshort
        obtain ⟨n, hn⟩ : ∃ n, min 1024 (self.maxHeaderBytes + 1 - first.length) = n + 1 :=
          ⟨min 1024 (self.maxHeaderBytes + 1 - first.length) - 1, by omega⟩
        rw [hn] at hread hshort ⊢
        refine ⟨rest.take n, [rest.drop n], rest.drop n, hread, cuts_single ?_,
          (List.take_append_drop n rest).symm, ?_⟩
        · exact List.ne_nil_of_length_pos (by rw [List.length_drop]; omega)
        · rw [List.length_take]
          omega
    obtain ⟨seen, reader, later, hread, hcuts, hrest, hsurplus⟩ := hseen
    have hseenFull : find blankLine (first ++ last :: seen) = some marker := by
      refine find_of_append later blankLine_ne_nil ?_ ?_
      · rw [hrest] at hfind
        simpa using hfind
      · rw [List.length_append, List.length_cons, hfour]
        omega
    have hblock : self.readHeaderBlock [first, last :: rest] =
        .ok ((first ++ last :: seen).take marker, (first ++ last :: seen).drop (marker + 4),
          reader) := by
      rw [readHeaderBlock, hfirstLoop]
      exact readHeaderLoop_last hread (by simp) hseenFull hmax (by omega)
    have hseenWhole : first ++ last :: seen = first ++ [last] ++ seen := by simp
    have hseenDrop : (first ++ last :: seen).drop (marker + 4) = seen := by
      rw [hseenWhole]
      exact List.drop_left' (by rw [List.length_append, List.length_singleton, hfirst])
    have htake : (first ++ last :: seen).take marker = (first ++ last :: rest).take marker := by
      rw [hseenWhole, hwhole, @List.take_append_of_le_length _ (first ++ [last]) seen marker
        (by rw [List.length_append]; omega), @List.take_append_of_le_length _ (first ++ [last]) rest
        marker (by rw [List.length_append]; omega)]
    rw [hseenDrop, htake] at hblock
    rw [readRequest_of_block hblock hfind hmax hcuts (by rw [hdrop, hrest]), outcome, hhead]
    change (if _ then _ else _) = _
    rw [if_pos (Or.inl hsurplus)]
  rw [haccepted, hrefused] at hsame
  cases hsame

/-- How a stream is cut does not matter, and an accepted body is the declared one, exactly when no
surplus byte can arrive with the end of the headers. -/
theorem framing_independent_iff (self : StrictHttpServer) (stream : Bytes) :
    self.Independent stream ∧ self.BodyExact stream ↔ self.NoVisibleSurplus stream := by
  constructor
  · intro h
    exact noVisibleSurplus_of_independent h.1
  · intro h
    refine ⟨fun chunks chunks' hcuts hcuts' => ?_, self.bodyExact stream⟩
    obtain ⟨seen, hread, hseen⟩ := self.readRequest_eq hcuts
    obtain ⟨seen', hread', hseen'⟩ := self.readRequest_eq hcuts'
    rw [hread, hread', outcome_of_noVisibleSurplus h hseen, outcome_of_noVisibleSurplus h hseen']

/-! ## A byte after a health check -/

/-- A server with the smallest bound. -/
def sampleServer : StrictHttpServer := ⟨256, [], le_refl 256⟩

/-- `GET /healthz` with its host. -/
def healthCheck : Bytes := "GET /healthz HTTP/1.1\x0d\nHost:a\x0d\n\x0d\n".toList.map
  fun c => UInt8.ofNat c.toNat

/-- A byte after the request is refused with it, and not seen after it. -/
theorem surplus_byte_depends : ¬ ∀ (self : StrictHttpServer) (stream : Bytes),
    self.Independent stream ∧ self.BodyExact stream := by
  intro h
  have hsame := (h sampleServer (healthCheck ++ [0x21])).1 [healthCheck, [0x21]]
    [healthCheck ++ [0x21]] ⟨by simp, by decide⟩ ⟨by simp, by decide⟩
  have haccepted : (sampleServer.readRequest [healthCheck, [0x21]]).isOk = true := by
    decide +kernel
  have hrefused : (sampleServer.readRequest [healthCheck ++ [0x21]]).isOk = false := by
    decide +kernel
  rw [hsame, hrefused] at haccepted
  cases haccepted

end StrictHttpServer

end TrueFamily.JournalApp
