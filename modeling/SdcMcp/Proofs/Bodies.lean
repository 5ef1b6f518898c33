/-
The response bound is exact.

Reading chunk by chunk with an early exit comes to the same as looking at the whole
body: the bytes are kept when all of them fit, and nothing is kept when they do not.
-/
import SdcMcp.Model.Body

namespace SdcMcp

/-- The total of a body after some bytes, when the chunks are all there is of it. -/
theorem readChunks_complete {limit : Nat} (chunks : List (List UInt8)) :
    ∀ body : List UInt8, body.length ≤ limit → readChunks limit body chunks .complete
      = if body.length + chunks.flatten.length ≤ limit then .ok (.ok (body ++ chunks.flatten))
        else .ok (.error (.responseTooLarge limit)) := by
  induction chunks with
  | nil =>
      intro body hbody
      rw [List.flatten_nil, List.length_nil, Nat.add_zero, if_pos hbody, List.append_nil]
      rfl
  | cons chunk rest ih =>
      intro body hbody
      rw [List.flatten_cons, List.length_append]
      unfold readChunks
      by_cases hfull : limit < body.length + chunk.length
      · rw [if_pos hfull, if_neg (by omega)]
      · have hnext : (body ++ chunk).length ≤ limit := by
          rw [List.length_append]
          omega
        rw [if_neg hfull, ih _ hnext, List.length_append, List.append_assoc, Nat.add_assoc]

/-! ### Saturating sums -/

/-- Saturation does not show where the exact sum fits a `usize`, or the limit is below the
largest one. -/
theorem lt_saturatingAdd_iff {limit a b : Nat} (h : usizeMax ≤ limit → a + b ≤ usizeMax) :
    limit < saturatingAdd a b ↔ limit < a + b := by
  unfold saturatingAdd
  unfold usizeMax at h
  rw [lt_min_iff]
  constructor
  · intro hlt
    exact hlt.1
  · intro hlt
    refine ⟨hlt, ?_⟩
    by_contra hmax
    have := h (Nat.le_of_not_lt hmax)
    omega

section Readers

variable {limit : Nat}

theorem bodyStep_eq {buffer chunk : List UInt8}
    (h : usizeMax ≤ limit → buffer.length + chunk.length ≤ usizeMax) :
    bodyStep limit buffer chunk = if limit < buffer.length + chunk.length then
      .error (.responseTooLarge limit) else .ok (buffer ++ chunk) := by
  unfold bodyStep
  by_cases hlt : limit < buffer.length + chunk.length
  · rw [if_pos ((lt_saturatingAdd_iff h).mpr hlt), if_pos hlt]
  · rw [if_neg fun hsat => hlt ((lt_saturatingAdd_iff h).mp hsat), if_neg hlt]

/-- One chunk fits the buffer, and the rest of the body is counted from there on. -/
private theorem count_next {buffer chunk : List UInt8} {rest : List (List UInt8)}
    (h : usizeMax ≤ limit → buffer.length + (chunk :: rest).flatten.length ≤ usizeMax) :
    (usizeMax ≤ limit → buffer.length + chunk.length ≤ usizeMax) ∧
      (usizeMax ≤ limit → (buffer ++ chunk).length + rest.flatten.length ≤ usizeMax) := by
  rw [List.flatten_cons, List.length_append] at h
  rw [List.length_append]
  constructor
  · intro hmax
    have := h hmax
    omega
  · intro hmax
    have := h hmax
    omega

theorem streamChunks_eq_readChunks (chunks : List (List UInt8)) (ending : BodyEnd) :
    ∀ buffer : List UInt8,
      (usizeMax ≤ limit → buffer.length + chunks.flatten.length ≤ usizeMax) →
      streamChunks limit buffer chunks ending = readChunks limit buffer chunks ending := by
  induction chunks with
  | nil =>
      intro buffer _
      cases ending <;> rfl
  | cons chunk rest ih =>
      intro buffer hcount
      obtain ⟨hchunk, hrest⟩ := count_next hcount
      unfold streamChunks readChunks
      rw [bodyStep_eq hchunk]
      by_cases hfull : limit < buffer.length + chunk.length
      · rw [if_pos hfull, if_pos hfull]
      · rw [if_neg hfull, if_neg hfull]
        exact ih _ hrest

/-- The loop of the source is the reader of the model, where a `usize` counts the body. -/
theorem streamBody_eq_readBody {answer : Answer}
    (hcount : usizeMax ≤ limit → answer.chunks.flatten.length ≤ usizeMax) :
    streamBody limit answer = readBody limit answer := by
  unfold streamBody readBody
  rw [streamChunks_eq_readChunks answer.chunks answer.ending []
    (by rw [List.length_nil, Nat.zero_add]; exact hcount)]

theorem buffersFrom_bounded (chunks : List (List UInt8)) :
    ∀ buffer : List UInt8, buffer.length ≤ limit →
      (usizeMax ≤ limit → buffer.length + chunks.flatten.length ≤ usizeMax) →
      ∀ b ∈ buffersFrom limit buffer chunks, b.length ≤ limit := by
  induction chunks with
  | nil =>
      intro buffer hbuffer _ b hb
      rw [buffersFrom, List.mem_singleton] at hb
      rw [hb]
      exact hbuffer
  | cons chunk rest ih =>
      intro buffer hbuffer hcount b hb
      obtain ⟨hchunk, hrest⟩ := count_next hcount
      unfold buffersFrom at hb
      rw [bodyStep_eq hchunk] at hb
      by_cases hfull : limit < buffer.length + chunk.length
      · rw [if_pos hfull] at hb
        rw [List.mem_singleton.mp hb]
        exact hbuffer
      · rw [if_neg hfull] at hb
        have hnext : (buffer ++ chunk).length ≤ limit := by
          rw [List.length_append]
          omega
        rcases List.mem_cons.mp hb with rfl | hb
        · exact hbuffer
        · exact ih _ hnext hrest b hb

theorem buffers_bounded {answer : Answer}
    (hcount : usizeMax ≤ limit → answer.chunks.flatten.length ≤ usizeMax) :
    ∀ b ∈ buffers limit answer, b.length ≤ limit := by
  intro b hb
  unfold buffers at hb
  by_cases hlarge : answer.contentLength.any (limit < ·) = true
  · rw [if_pos hlarge] at hb
    cases hb
  · rw [if_neg hlarge] at hb
    exact buffersFrom_bounded answer.chunks [] (Nat.zero_le limit)
      (by rw [List.length_nil, Nat.zero_add]; exact hcount) b hb

/-- After so many chunks the loop goes on with the buffer in that place. -/
theorem streamChunks_resumes (chunks : List (List UInt8)) (ending : BodyEnd) :
    ∀ (buffer : List UInt8) (i : Nat) (b : List UInt8),
      (buffersFrom limit buffer chunks)[i]? = some b →
      streamChunks limit buffer chunks ending = streamChunks limit b (chunks.drop i) ending := by
  induction chunks with
  | nil =>
      intro buffer i b hb
      cases i with
      | zero =>
          cases hb
          rfl
      | succ i => cases hb
  | cons chunk rest ih =>
      intro buffer i b hb
      unfold buffersFrom at hb
      cases i with
      | zero =>
          have hfirst : b = buffer := by
            cases hstep : bodyStep limit buffer chunk with
            | ok next =>
                rw [hstep] at hb
                exact (Option.some.inj hb).symm
            | error e =>
                rw [hstep] at hb
                exact (Option.some.inj hb).symm
          rw [hfirst, List.drop_zero]
      | succ i =>
          cases hstep : bodyStep limit buffer chunk with
          | ok next =>
              rw [hstep] at hb
              rw [List.drop_succ_cons, ← ih next i b hb, streamChunks, hstep]
          | error e =>
              rw [hstep] at hb
              cases hb

/-- It has a last buffer, with which the chunks are at an end or the next one does not fit. -/
theorem buffersFrom_ends (chunks : List (List UInt8)) :
    ∀ buffer : List UInt8, ∃ front last, buffersFrom limit buffer chunks = front ++ [last] ∧
      (front.length = chunks.length ∨
        ∃ chunk e, chunks[front.length]? = some chunk ∧ bodyStep limit last chunk = .error e) := by
  induction chunks with
  | nil => exact fun buffer => ⟨[], buffer, rfl, .inl rfl⟩
  | cons chunk rest ih =>
      intro buffer
      unfold buffersFrom
      cases hstep : bodyStep limit buffer chunk with
      | error e => exact ⟨[], buffer, rfl, .inr ⟨chunk, e, rfl, hstep⟩⟩
      | ok next =>
          obtain ⟨front, last, hfrom, hends⟩ := ih next
          refine ⟨buffer :: front, last, by rw [List.cons_append, ← hfrom], ?_⟩
          rcases hends with hall | ⟨later, e, hlater, hfull⟩
          · exact .inl (congrArg (· + 1) hall)
          · exact .inr ⟨later, e, hlater, hfull⟩

/-- The buffers of an answer are those that its reading goes through: it can be resumed at each,
and a body that is returned is the last of them. -/
theorem streamBody_buffers {answer : Answer} (hlength : ¬ answer.contentLength.any (limit < ·)) :
    (∀ i b, (buffers limit answer)[i]? = some b → streamBody limit answer
      = streamChunks limit b (answer.chunks.drop i) answer.ending) ∧
    ∃ front last, buffers limit answer = front ++ [last] ∧
      ∀ body, streamBody limit answer = .ok (.ok body) → body = last := by
  unfold streamBody buffers
  rw [if_neg hlength, if_neg hlength]
  refine ⟨streamChunks_resumes answer.chunks answer.ending [], ?_⟩
  obtain ⟨front, last, hfrom, hends⟩ := @buffersFrom_ends limit answer.chunks []
  refine ⟨front, last, hfrom, fun body hbody => ?_⟩
  have hlast : (buffersFrom limit [] answer.chunks)[front.length]? = some last := by
    rw [hfrom, List.getElem?_concat_length]
  rw [streamChunks_resumes answer.chunks answer.ending [] _ _ hlast] at hbody
  rcases hends with hall | ⟨chunk, e, hchunk, hfull⟩
  · rw [hall, List.drop_length] at hbody
    cases hending : answer.ending with
    | complete =>
        rw [hending] at hbody
        cases hbody
        rfl
    | failed error =>
        rw [hending] at hbody
        cases hbody
    | interrupted why =>
        rw [hending] at hbody
        cases hbody
  · obtain ⟨hlt, hat⟩ := List.getElem?_eq_some_iff.mp hchunk
    rw [List.drop_eq_getElem_cons hlt, hat, streamChunks, hfull] at hbody
    cases hbody

/-- Both the declared length, if there is one, and the real one are within the limit. -/
def WithinLimit (limit : Nat) (answer : Answer) : Prop :=
  (∀ declared, answer.contentLength = some declared → declared ≤ limit) ∧
    answer.chunks.flatten.length ≤ limit

instance (limit : Nat) (answer : Answer) : Decidable (WithinLimit limit answer) :=
  inferInstanceAs (Decidable (_ ∧ _))

theorem readBody_complete {answer : Answer} (hending : answer.ending = .complete) :
    readBody limit answer = if WithinLimit limit answer then .ok (.ok answer.chunks.flatten)
      else .ok (.error (.responseTooLarge limit)) := by
  unfold readBody
  rw [hending]
  by_cases hlarge : answer.contentLength.any (limit < ·) = true
  · obtain ⟨declared, hdeclared, hlt⟩ := (Option.any_eq_true _ _).mp hlarge
    have hbeyond : ¬ WithinLimit limit answer := by
      intro hwithin
      have := hwithin.1 declared hdeclared
      have := of_decide_eq_true hlt
      omega
    rw [if_pos hlarge, if_neg hbeyond]
  · rw [if_neg hlarge, readChunks_complete answer.chunks [] (Nat.zero_le limit), List.length_nil,
      Nat.zero_add, List.nil_append]
    have hdeclared : ∀ declared, answer.contentLength = some declared → declared ≤ limit := by
      intro declared hd
      by_contra hlt
      exact hlarge ((Option.any_eq_true _ _).mpr ⟨declared, hd, decide_eq_true (by omega)⟩)
    by_cases hfits : answer.chunks.flatten.length ≤ limit
    · rw [if_pos hfits, if_pos ⟨hdeclared, hfits⟩]
    · rw [if_neg hfits, if_neg fun hwithin => hfits hwithin.2]

/-- **The response bound is exact.**  A body none of whose chunks fails is returned whole when
its declared length, if it has one, and its total are within the limit, and is refused as too
large otherwise.  No buffer on the way exceeds the limit, and it makes no difference where the
body is cut into chunks.  With the largest `usize` as the limit, the bytes that arrive are
assumed to be countable in a `usize`. -/
theorem response_bound_exact {answer : Answer} (hending : answer.ending = .complete)
    (hcount : usizeMax ≤ limit → answer.chunks.flatten.length ≤ usizeMax) :
    (streamBody limit answer = .ok (.ok answer.chunks.flatten) ↔ WithinLimit limit answer) ∧
    (¬ WithinLimit limit answer →
      streamBody limit answer = .ok (.error (.responseTooLarge limit))) ∧
    (∀ buffer ∈ buffers limit answer, buffer.length ≤ limit) ∧
    ∀ other : Answer, other.ending = .complete → other.contentLength = answer.contentLength →
      other.chunks.flatten = answer.chunks.flatten →
      streamBody limit other = streamBody limit answer := by
  have hbody : ∀ other : Answer, other.ending = .complete →
      other.chunks.flatten = answer.chunks.flatten → streamBody limit other
        = if WithinLimit limit other then .ok (.ok other.chunks.flatten)
          else .ok (.error (.responseTooLarge limit)) := by
    intro other hother hflatten
    rw [streamBody_eq_readBody (by rw [hflatten]; exact hcount), readBody_complete hother]
  have hself := hbody answer hending rfl
  refine ⟨?_, ?_, buffers_bounded hcount, ?_⟩
  · by_cases hwithin : WithinLimit limit answer
    · rw [if_pos hwithin] at hself
      exact iff_of_true hself hwithin
    · rw [if_neg hwithin] at hself
      refine iff_of_false (fun h => ?_) hwithin
      rw [hself] at h
      cases h
  · intro hwithin
    rw [if_neg hwithin] at hself
    exact hself
  · intro other hother hlength hflatten
    have hiff : WithinLimit limit other ↔ WithinLimit limit answer := by
      unfold WithinLimit
      rw [hlength, hflatten]
    rw [hself, hbody other hother hflatten, hflatten]
    by_cases hwithin : WithinLimit limit answer
    · rw [if_pos hwithin, if_pos (hiff.mpr hwithin)]
    · rw [if_neg hwithin, if_neg fun h => hwithin (hiff.mp h)]

end Readers

/-- Eight bytes that were announced as six, in three chunks, one of them empty. -/
def shortAnnounced : Answer :=
  ⟨200, none, some 6, [[1, 2, 3], [], [4, 5, 6, 7, 8]], .complete⟩

/-- A limit of eight bytes takes them all, and however they are cut. -/
theorem shortAnnounced_exact :
    streamBody 8 shortAnnounced = .ok (.ok [1, 2, 3, 4, 5, 6, 7, 8]) ∧
      streamBody 8 ⟨200, none, some 6, [[1, 2, 3, 4, 5, 6, 7, 8]], .complete⟩
        = streamBody 8 shortAnnounced := by
  have hlimit : ¬ usizeMax ≤ 8 := by decide
  obtain ⟨hiff, -, -, hcuts⟩ :=
    @response_bound_exact 8 shortAnnounced rfl fun h => absurd h hlimit
  exact ⟨hiff.mpr (by decide), hcuts _ rfl rfl rfl⟩

end SdcMcp
