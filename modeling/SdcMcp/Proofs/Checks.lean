/-
What the client checks before it sends anything.

Each check is described from both sides: when it passes, and what the errors are
that it fails with.  The errors are never one of the four that say something about
a request that may have reached SDC, so a local refusal is told from an interrupted
request by the error alone.
-/
import SdcMcp.Proofs.Send

namespace SdcMcp

open Interactive

/-! ### Local refusals -/

/-- A local refusal: of the identifiers, the body, the path or the credential. -/
def LocalRefusal (e : SdcError) : Prop :=
  e ≠ .cancelled ∧ e ≠ .timeout ∧ e ≠ .mutationOutcomeUnknown ∧ e ≠ .jobDeadline

theorem validateAtom_error {field value : String} {e : SdcError}
    (h : validateAtom field value = .error e) : LocalRefusal e := by
  unfold validateAtom at h
  split at h
  · cases h
  · cases h
    simp [LocalRefusal]

theorem validateAtoms_error {atoms : List (String × String)} {e : SdcError}
    (h : validateAtoms atoms = .error e) : LocalRefusal e := by
  obtain ⟨atom, -, hatom⟩ := Except.forM_eq_error h
  exact validateAtom_error hatom

theorem validateObjectBody_error {body : Json} {e : SdcError}
    (h : validateObjectBody body = .error e) : LocalRefusal e := by
  unfold validateObjectBody at h
  split at h
  · split_ifs at h
    all_goals
      cases h
      simp [LocalRefusal, markerError]
  · cases h
    simp [LocalRefusal]

theorem WriteCall.validate_error {call : WriteCall} {e : SdcError}
    (h : call.validate = .error e) : LocalRefusal e := by
  rcases Except.bind_eq_error_iff.mp h with hatoms | ⟨u, -, hbody⟩
  · exact validateAtoms_error hatoms
  · cases hb : call.body with
    | none =>
        rw [hb] at hbody
        cases hbody
    | some body =>
        rw [hb] at hbody
        exact validateObjectBody_error hbody

section Refusals

variable [Crates]

theorem checkRequest_error {client : SdcClient} {request : Request} {e : SdcError}
    (h : checkRequest client request = .error e) : LocalRefusal e := by
  unfold checkRequest at h
  split_ifs at h
  all_goals
    cases h
    simp [LocalRefusal]

theorem WriteCall.admits_error {client : SdcClient} {call : WriteCall} {e : SdcError}
    (h : call.admits client = .error e) : LocalRefusal e := by
  rcases Except.bind_eq_error_iff.mp h with hvalid | ⟨u, -, hrequest⟩
  · exact WriteCall.validate_error hvalid
  · exact checkRequest_error hrequest

theorem readAdmits_error {client : SdcClient} {atoms : List (String × String)} {request : Request}
    {e : SdcError} (h : readAdmits client atoms request = .error e) : LocalRefusal e := by
  rcases Except.bind_eq_error_iff.mp h with hatoms | ⟨u, -, hrequest⟩
  · exact validateAtoms_error hatoms
  · exact checkRequest_error hrequest

end Refusals

/-! ### What the client takes -/

/-- An identifier that the client takes and that can be a segment of a path. -/
def FitsSegment (id : String) : Prop := isAtom 256 id = true ∧ id ∉ [".", ".."]

/-- A body that the client takes. -/
structure FitsBody (body : Value) : Prop where
  populated : isPopulatedObject body.tree = true
  size : body.tree.toVec.length ≤ maxWriteBodyBytes
  unredacted : containsRedactionMarker body.tree = false

/-- A write that passes every check of the client that does not look at the credential. -/
structure WriteCall.Executable (call : WriteCall) : Prop where
  atoms : ∀ atom ∈ call.atoms, validateAtom atom.1 atom.2 = .ok ()
  segments : ∀ segment ∈ call.segments, segment ∉ ["", ".", ".."]
  body : ∀ body, call.body = some body → validateObjectBody body.tree = .ok ()

theorem validateAtom_ok_iff {field value : String} :
    validateAtom field value = .ok () ↔ isAtom 256 value = true := by
  unfold validateAtom
  by_cases hatom : isAtom 256 value = true
  · rw [if_pos hatom]
    exact iff_of_true rfl hatom
  · rw [if_neg hatom]
    exact iff_of_false nofun hatom

private theorem validateObjectBody_eq_ok {body : Json} :
    validateObjectBody body = .ok () ↔ isPopulatedObject body = true ∧
      body.toVec.length ≤ maxWriteBodyBytes ∧ containsRedactionMarker body = false := by
  cases body with
  | obj fields =>
      simp only [validateObjectBody, Except.ite_error_eq_ok_iff, isPopulatedObject, not_lt,
        Bool.not_eq_true, Bool.not_eq_true', and_true]
  | _ => exact iff_of_false nofun fun h => by simp [isPopulatedObject] at h

theorem validateObjectBody_ok_iff {body : Value} :
    validateObjectBody body.tree = .ok () ↔ FitsBody body := by
  rw [validateObjectBody_eq_ok]
  exact ⟨fun ⟨hpopulated, hsize, hmarker⟩ => ⟨hpopulated, hsize, hmarker⟩,
    fun ⟨hpopulated, hsize, hmarker⟩ => ⟨hpopulated, hsize, hmarker⟩⟩

theorem validateAtoms_ok_iff {atoms : List (String × String)} :
    validateAtoms atoms = .ok () ↔ ∀ atom ∈ atoms, validateAtom atom.1 atom.2 = .ok () :=
  Except.forM_eq_ok_iff

section Calls

variable [Crates]

theorem checkRequest_ok_iff {client : SdcClient}
    (hcredential : Crates.isHeaderValue client.credential = true) {request : Request} :
    checkRequest client request = .ok () ↔
      ∀ segment ∈ request.segments, segment ∉ ["", ".", ".."] := by
  unfold checkRequest
  by_cases hdots : (request.segments.any fun segment => segment ∈ ["", ".", ".."]) = true
  · rw [if_pos hdots]
    refine iff_of_false nofun fun hall => ?_
    obtain ⟨segment, hmem, hbad⟩ := List.any_eq_true.mp hdots
    exact hall segment hmem (by simpa using hbad)
  · rw [if_neg hdots, if_pos hcredential]
    refine iff_of_true rfl fun segment hmem hbad => hdots ?_
    exact List.any_eq_true.mpr ⟨segment, hmem, by simpa using hbad⟩

/-- What the client refuses locally, besides its own credential, is what is not executable. -/
theorem WriteCall.executable_iff_admits {client : SdcClient}
    (hcredential : Crates.isHeaderValue client.credential = true) {call : WriteCall} :
    call.Executable ↔ call.admits client = .ok () := by
  unfold WriteCall.admits WriteCall.validate
  rw [Except.bind_eq_ok_iff]
  constructor
  · rintro ⟨hatoms, hsegments, hbody⟩
    refine ⟨(), Except.bind_eq_ok_iff.mpr ⟨(), validateAtoms_ok_iff.mpr hatoms, ?_⟩,
      (checkRequest_ok_iff hcredential).mpr hsegments⟩
    cases hb : call.body with
    | none => rfl
    | some body => exact hbody body hb
  · rintro ⟨u, hvalid, hrequest⟩
    obtain ⟨u', hatoms, hbody⟩ := Except.bind_eq_ok_iff.mp hvalid
    refine ⟨validateAtoms_ok_iff.mp hatoms, (checkRequest_ok_iff hcredential).mp hrequest, ?_⟩
    intro body hb
    rw [hb] at hbody
    exact hbody

/-- The call of a write, if neither the transaction nor the client refuses it. -/
def admitted (client : SdcClient) (call : Except SdcError WriteCall) :
    Except SdcError WriteCall := do
  let c ← call
  c.admits client
  return c

theorem admitted_ok_iff {client : SdcClient} {call : Except SdcError WriteCall} {c : WriteCall} :
    admitted client call = .ok c ↔ call = .ok c ∧ c.admits client = .ok () := by
  constructor
  · intro h
    obtain ⟨c', hcall, hrest⟩ := Except.bind_eq_ok_iff.mp h
    obtain ⟨u, hadmits, hc⟩ := Except.bind_eq_ok_iff.mp hrest
    cases hc
    exact ⟨hcall, hadmits⟩
  · rintro ⟨hcall, hadmits⟩
    exact Except.bind_eq_ok_iff.mpr ⟨c, hcall, Except.bind_eq_ok_iff.mpr ⟨(), hadmits, rfl⟩⟩

/-- A refused write was refused by the transaction, or locally by the client. -/
theorem admitted_error {client : SdcClient} {call : Except SdcError WriteCall} {e : SdcError}
    (h : admitted client call = .error e) :
    call = .error e ∨ ∃ c, call = .ok c ∧ c.admits client = .error e := by
  rcases Except.bind_eq_error_iff.mp h with hcall | ⟨c, hcall, hrest⟩
  · exact Or.inl hcall
  · rcases Except.bind_eq_error_iff.mp hrest with hadmits | ⟨u, -, hc⟩
    · exact Or.inr ⟨c, hcall, hadmits⟩
    · cases hc

end Calls

end SdcMcp
