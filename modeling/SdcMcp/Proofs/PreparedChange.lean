/-
What the policy deploy envelope is built of.

The constructor sorts the targets before it checks them, so it does not matter in which
order they are given; the check that each is above the one before it then finds exactly
the repetitions.  What it makes can be stored and validated again, and a preview that is
another document is found by its digest.
-/
import SdcMcp.Lib.Map
import SdcMcp.Lib.Sorting
import SdcMcp.Proofs.DeployFidelity
import SdcMcp.Proofs.Plans

namespace SdcMcp

/-! ### Atoms -/

/-- 1 to `maximum` bytes, none of them a white space or a control. -/
structure PlainAtom (maximum : Nat) (value : String) : Prop where
  nonempty : 1 ≤ value.utf8ByteSize
  size : value.utf8ByteSize ≤ maximum
  plain : ∀ byte ∈ Json.utf8 value, isAsciiControl byte = false ∧ isAsciiWhitespace byte = false

theorem isAtom_iff {maximum : Nat} {value : String} :
    isAtom maximum value = true ↔ PlainAtom maximum value := by
  have hempty : value.isEmpty = false ↔ 1 ≤ value.utf8ByteSize := by
    rw [String.isEmpty, beq_eq_false_iff_ne]
    exact Nat.one_le_iff_ne_zero.symm
  have hplain : ((Json.utf8 value).any fun byte => isAsciiControl byte || isAsciiWhitespace byte)
      = false ↔ ∀ byte ∈ Json.utf8 value,
        isAsciiControl byte = false ∧ isAsciiWhitespace byte = false := by
    rw [List.any_eq_false]
    exact forall₂_congr fun byte _ => by simp
  unfold isAtom
  rw [Bool.and_eq_true, Bool.and_eq_true, Bool.not_eq_true', Bool.not_eq_true', decide_eq_true_eq,
    hempty, hplain]
  constructor
  · rintro ⟨⟨hne, hsize⟩, hbytes⟩
    exact ⟨hne, hsize, hbytes⟩
  · rintro ⟨hne, hsize, hbytes⟩
    exact ⟨⟨hne, hsize⟩, hbytes⟩

/-! ### Targets -/

namespace SdcPreparedTarget

/-- The fields of a target are atoms of their sizes. -/
structure Valid (target : SdcPreparedTarget) : Prop where
  kind : PlainAtom 64 target.kind
  identifier : PlainAtom 256 target.identifier

theorem validate_ok_iff {target : SdcPreparedTarget} : target.validate = .ok () ↔ target.Valid := by
  unfold validate
  rw [Except.check_bind_eq_ok_iff, validatePreparedAtom_ok_iff, validatePreparedAtom_ok_iff,
    isAtom_iff, isAtom_iff]
  exact ⟨fun ⟨hkind, hid⟩ => ⟨hkind, hid⟩, fun ⟨hkind, hid⟩ => ⟨hkind, hid⟩⟩

theorem key_injective : Function.Injective key := by
  intro a b h
  have hpair : (a.kind, a.identifier) = (b.kind, b.identifier) := toLex_inj.mp h
  cases a
  cases b
  simp only [Prod.mk.injEq] at hpair
  rw [hpair.1, hpair.2]

instance : Std.Total le := ⟨fun a b => le_total a.key b.key⟩

instance : IsTrans SdcPreparedTarget le := ⟨fun _ _ _ hab hbc => le_trans hab hbc⟩

end SdcPreparedTarget

theorem sortTargets_perm (targets : List SdcPreparedTarget) : (sortTargets targets).Perm targets :=
  targets.perm_insertionSort SdcPreparedTarget.le

theorem sortTargets_sorted (targets : List SdcPreparedTarget) :
    (sortTargets targets).Pairwise fun a b => a.key ≤ b.key :=
  targets.pairwise_insertionSort SdcPreparedTarget.le

/-- Sorting forgets in which order targets were given. -/
theorem sortTargets_congr {targets targets' : List SdcPreparedTarget}
    (h : targets.Perm targets') : sortTargets targets = sortTargets targets' :=
  Sorting.eq_of_perm SdcPreparedTarget.key_injective
    ((sortTargets_perm targets).trans (h.trans (sortTargets_perm targets').symm))
    (sortTargets_sorted targets) (sortTargets_sorted targets')

namespace SdcPreparedChange

/-- The walk over the targets passes when each is valid and they are in strict order. -/
theorem validateTargets_ok_iff {previous : Option SdcPreparedTarget}
    {targets : List SdcPreparedTarget} :
    validateTargets previous targets = .ok () ↔ (∀ t ∈ targets, t.Valid) ∧
      (∀ p ∈ previous, ∀ t ∈ targets, p.key < t.key) ∧
      targets.Pairwise fun a b => a.key < b.key := by
  constructor
  · intro h
    obtain ⟨habove, hsorted⟩ := validateTargets_sorted h
    refine ⟨?_, habove, hsorted⟩
    clear habove hsorted
    induction targets generalizing previous with
    | nil => intro t ht; cases ht
    | cons target rest ih =>
        obtain ⟨hvalid, h⟩ := Except.check_bind_eq_ok_iff.mp h
        obtain ⟨-, hrest⟩ := Except.guard_bind_eq_ok_iff.mp h
        intro t ht
        rcases List.mem_cons.mp ht with rfl | ht
        · exact SdcPreparedTarget.validate_ok_iff.mp hvalid
        · exact ih hrest t ht
  · rintro ⟨hvalid, habove, hsorted⟩
    induction targets generalizing previous with
    | nil => rfl
    | cons target rest ih =>
        obtain ⟨hfirst, hrest⟩ := List.pairwise_cons.mp hsorted
        unfold validateTargets
        refine Except.check_bind_eq_ok_iff.mpr
          ⟨SdcPreparedTarget.validate_ok_iff.mpr (hvalid target List.mem_cons_self), ?_⟩
        refine Except.guard_bind_eq_ok_iff.mpr ⟨?_, ?_⟩
        · intro hbelow
          obtain ⟨p, hp, hle⟩ := (Option.any_eq_true _ _).mp hbelow
          have hlt := habove p hp target List.mem_cons_self
          exact absurd (of_decide_eq_true hle) (not_le_of_gt hlt)
        · refine ih (fun t ht => hvalid t (List.mem_cons_of_mem _ ht)) ?_ hrest
          intro p hp t ht
          have hp' : target = p := Option.some.inj hp
          rw [← hp']
          exact hfirst t ht

/-- The walk over sorted targets finds what is not valid and what is there twice. -/
theorem validateTargets_sortTargets {targets : List SdcPreparedTarget} :
    validateTargets none (sortTargets targets) = .ok () ↔
      (∀ t ∈ targets, t.Valid) ∧ targets.Nodup := by
  have hnone : ∀ p ∈ (none : Option SdcPreparedTarget), ∀ t ∈ sortTargets targets,
      p.key < t.key := by
    intro p hp
    cases hp
  rw [validateTargets_ok_iff, and_iff_right hnone,
    Sorting.strict_iff_nodup SdcPreparedTarget.key_injective (sortTargets_sorted targets),
    (sortTargets_perm targets).nodup_iff]
  exact and_congr_left fun _ => forall_congr' fun t => by rw [mem_sortTargets]

variable [Crates]

/-- The envelope that the constructor checks. -/
def draft (targets : List SdcPreparedTarget) (request preview : Value) (previewJobId : String) :
    SdcPreparedChange where
  operation := "policy_deploy"
  targets := sortTargets targets
  request := request
  preview := preview
  previewDigest := canonicalDigest preview
  previewJobId := previewJobId

theorem new_eq (targets : List SdcPreparedTarget) (request preview : Value)
    (previewJobId : String) : new targets request preview previewJobId
      = (draft targets request preview previewJobId).validate >>= fun _ =>
        .ok (draft targets request preview previewJobId) := rfl

/-- What a deploy is prepared from. -/
structure Admissible (targets : List SdcPreparedTarget) (request preview : Value)
    (previewJobId : String) : Prop where
  nonempty : 1 ≤ targets.length
  count : targets.length ≤ 4096
  distinct : targets.Nodup
  kinds : ∀ t ∈ targets, PlainAtom 64 t.kind
  identifiers : ∀ t ∈ targets, PlainAtom 256 t.identifier
  jobId : PlainAtom 256 previewJobId
  size : (draft targets request preview previewJobId).encode.toVec.length ≤ 8 * 1024 * 1024

section Construction

variable {targets : List SdcPreparedTarget} {request preview : Value} {previewJobId : String}
  {p : SdcPreparedChange}

theorem draft_validate_iff :
    (draft targets request preview previewJobId).validate = .ok () ↔
      Admissible targets request preview previewJobId := by
  have hlength := (sortTargets_perm targets).length_eq
  have hnonempty : sortTargets targets ≠ [] ↔ 1 ≤ targets.length := by
    rw [← hlength]
    exact List.length_pos_iff.symm
  rw [validate_ok_iff]
  show _ ∧ (sortTargets targets ≠ [] ∧ (sortTargets targets).length ≤ maxTargets) ∧
    validateTargets none (sortTargets targets) = .ok () ∧ isAtom 256 previewJobId = true ∧ _ ↔ _
  rw [hnonempty, hlength, validateTargets_sortTargets, isAtom_iff]
  constructor
  · rintro ⟨-, ⟨hpos, hcount⟩, ⟨hvalid, hnodup⟩, hjob, -, hsize⟩
    exact ⟨hpos, hcount, hnodup, fun t ht => (hvalid t ht).kind,
      fun t ht => (hvalid t ht).identifier, hjob, hsize⟩
  · rintro ⟨hpos, hcount, hnodup, hkinds, hids, hjob, hsize⟩
    exact ⟨rfl, ⟨hpos, hcount⟩, ⟨fun t ht => ⟨hkinds t ht, hids t ht⟩, hnodup⟩, hjob, rfl, hsize⟩

theorem new_ok_iff : new targets request preview previewJobId = .ok p ↔
    Admissible targets request preview previewJobId ∧
      p = draft targets request preview previewJobId := by
  rw [new_eq, Except.check_bind_eq_ok_iff, draft_validate_iff, Except.ok.injEq, eq_comm]

theorem new_congr {targets' : List SdcPreparedTarget} (h : targets'.Perm targets) :
    new targets' request preview previewJobId = new targets request preview previewJobId := by
  have hdraft : draft targets' request preview previewJobId
      = draft targets request preview previewJobId := by
    unfold draft
    rw [sortTargets_congr h]
  rw [new_eq, new_eq, hdraft]

/-- A valid envelope is found out when its preview is replaced by another document. -/
theorem validate_replaced (hsha : Function.Injective Crates.sha256) (hp : p.validate = .ok ())
    {other : Value} (hother : ¬ other.Same p.preview) :
    ∃ e, ({ p with preview := other } : SdcPreparedChange).validate = .error e := by
  cases hreplaced : ({ p with preview := other } : SdcPreparedChange).validate with
  | error e => exact ⟨e, rfl⟩
  | ok u =>
      obtain ⟨-, -, -, -, hdigest, -⟩ := validate_ok_iff.mp hp
      obtain ⟨-, -, -, -, hdigest', -⟩ := validate_ok_iff.mp hreplaced
      exact absurd (canonicalDigest_same hsha (hdigest'.trans hdigest.symm)) hother

end Construction

/-- **A deploy is prepared canonically.**  The order of the targets makes no difference; the
constructor takes exactly what is admissible; what it makes can be written as a document, read
back and validated, and without collisions of SHA-256 it validates no more with a preview that is
another document. -/
theorem prepared_change_canonical (targets : List SdcPreparedTarget) (request preview : Value)
    (previewJobId : String) :
    (∀ targets' : List SdcPreparedTarget, targets'.Perm targets →
      new targets' request preview previewJobId = new targets request preview previewJobId) ∧
    ((∃ p, new targets request preview previewJobId = .ok p) ↔
      Admissible targets request preview previewJobId) ∧
    ∀ p, new targets request preview previewJobId = .ok p →
      (∃ q, decode p.encode = some q ∧ q.validate = .ok ()) ∧
      (Function.Injective Crates.sha256 → ∀ other : Value, ¬ other.Same p.preview →
        ∃ e, ({ p with preview := other } : SdcPreparedChange).validate = .error e) := by
  refine ⟨fun targets' hperm => new_congr hperm, ?_, ?_⟩
  · constructor
    · rintro ⟨p, hp⟩
      exact (new_ok_iff.mp hp).1
    · intro hadmissible
      exact ⟨_, new_ok_iff.mpr ⟨hadmissible, rfl⟩⟩
  · intro p hp
    obtain ⟨hadmissible, rfl⟩ := new_ok_iff.mp hp
    have hvalid := draft_validate_iff.mpr hadmissible
    exact ⟨⟨_, decode_encode _, hvalid⟩, fun hsha other => validate_replaced hsha hvalid⟩

end SdcPreparedChange

section TwoTargets

/-- Crates under which no two texts have one digest. -/
local instance plainCrates : Crates := Tables.crates ⟨[], []⟩

def deviceTarget (identifier : String) : SdcPreparedTarget := ⟨"device", identifier⟩

private theorem twoTargets_admissible :
    SdcPreparedChange.Admissible [deviceTarget "dev-1", deviceTarget "dev-2"] .null .null
      "job-1" where
  nonempty := by decide
  count := by decide
  distinct := by decide
  kinds := by
    intro t ht
    exact isAtom_iff.mp (List.all_eq_true.mp (show ([deviceTarget "dev-1",
      deviceTarget "dev-2"].all fun t => isAtom 64 t.kind) = true by decide) t ht)
  identifiers := by
    intro t ht
    exact isAtom_iff.mp (List.all_eq_true.mp (show ([deviceTarget "dev-1",
      deviceTarget "dev-2"].all fun t => isAtom 256 t.identifier) = true by decide) t ht)
  jobId := isAtom_iff.mp (by decide)
  size := by decide +kernel

/-- Two devices in either order make one envelope, which does not take another preview. -/
theorem twoTargets_prepared : ∃ p,
    SdcPreparedChange.new [deviceTarget "dev-2", deviceTarget "dev-1"] .null .null "job-1" = .ok p ∧
      ∃ e, ({ p with preview := .string "changed" } : SdcPreparedChange).validate = .error e := by
  obtain ⟨hperm, hok, hmade⟩ := SdcPreparedChange.prepared_change_canonical
    [deviceTarget "dev-1", deviceTarget "dev-2"] .null .null "job-1"
  obtain ⟨p, hp⟩ := hok.mpr twoTargets_admissible
  refine ⟨p, (hperm _ (List.Perm.swap _ _ _)).trans hp, ?_⟩
  refine (hmade p hp).2 (Tables.sha256_injective (by simp) (by simp)) (.string "changed") ?_
  obtain ⟨-, rfl⟩ := SdcPreparedChange.new_ok_iff.mp hp
  intro hsame
  exact hsame

end TwoTargets

end SdcMcp
