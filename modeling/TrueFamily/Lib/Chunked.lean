import Mathlib.Data.List.Basic
import Mathlib.Tactic.Common

/-!
# Streams that arrive in chunks

A stream reader holds the chunks that have not been read, none of them empty, and gives at most
the bytes asked for out of the first one: every cut of a stream reads back the stream.
-/

namespace Chunked

variable {β : Type}

/-! ## Chunks -/

/-- The chunks make up the stream, and none is empty. -/
structure Cuts (chunks : List (List β)) (stream : List β) : Prop where
  flatten : chunks.flatten = stream
  nonempty : ∀ chunk ∈ chunks, chunk ≠ []

/-- `reader.read(n)`: at most `n` bytes of what has arrived, and none only at the end. -/
def read (n : ℕ) : List (List β) → List β × List (List β)
  | [] => ([], [])
  | chunk :: chunks =>
    if chunk.length ≤ n then (chunk, chunks) else (chunk.take n, chunk.drop n :: chunks)

theorem read_of_le {n : ℕ} {chunk : List β} (h : chunk.length ≤ n) (chunks : List (List β)) :
    read n (chunk :: chunks) = (chunk, chunks) := if_pos h

theorem read_of_lt {n : ℕ} {chunk : List β} (h : n < chunk.length) (chunks : List (List β)) :
    read n (chunk :: chunks) = (chunk.take n, chunk.drop n :: chunks) := if_neg (Nat.not_le.2 h)

theorem Cuts.cons {chunk : List β} {chunks : List (List β)} {stream : List β} (hne : chunk ≠ [])
    (h : Cuts chunks stream) : Cuts (chunk :: chunks) (chunk ++ stream) :=
  ⟨by rw [List.flatten_cons, h.flatten], List.forall_mem_cons.2 ⟨hne, h.nonempty⟩⟩

theorem Cuts.tail {chunk : List β} {chunks : List (List β)} {stream : List β}
    (h : Cuts (chunk :: chunks) stream) : chunk ≠ [] ∧ Cuts chunks chunks.flatten ∧
      stream = chunk ++ chunks.flatten :=
  ⟨h.nonempty chunk List.mem_cons_self,
    ⟨rfl, fun c hc => h.nonempty c (List.mem_cons_of_mem _ hc)⟩, h.flatten.symm⟩

/-- The stream as one chunk, or as none. -/
theorem cuts_single {stream : List β} (h : stream ≠ []) : Cuts [stream] stream :=
  ⟨by simp, by simpa using h⟩

/-- A read takes a prefix of the stream, which is not empty before the end. -/
theorem Cuts.read {chunks : List (List β)} {stream : List β} (h : Cuts chunks stream) {n : ℕ}
    (hn : 0 < n) : ∃ chunk rest, Chunked.read n chunks = (chunk, rest) ∧ chunk.length ≤ n ∧
      (chunk = [] ↔ stream = []) ∧ ∃ later, Cuts rest later ∧ stream = chunk ++ later := by
  cases chunks with
  | nil =>
    have hstream := h.flatten
    exact ⟨[], [], rfl, Nat.zero_le _, by simp [← hstream], [], ⟨rfl, by simp⟩, by simp [← hstream]⟩
  | cons chunk chunks =>
    obtain ⟨hne, htail, hstream⟩ := h.tail
    rw [Chunked.read]
    split
    · rename_i hshort
      exact ⟨chunk, chunks, rfl, hshort, by simp [hstream, hne], _, htail, hstream⟩
    · rename_i hlong
      have htake : chunk.take n ≠ [] := by
        intro hnil
        have hlength := congrArg List.length hnil
        rw [List.length_take, List.length_nil] at hlength
        omega
      have hdrop : chunk.drop n ≠ [] := by
        intro hnil
        have hlength := congrArg List.length hnil
        rw [List.length_drop, List.length_nil] at hlength
        omega
      refine ⟨_, _, rfl, List.length_take_le _ _, by simp [hstream, hne, htake], _,
        htail.cons hdrop, ?_⟩
      rw [← List.append_assoc, List.take_append_drop, hstream]

end Chunked
