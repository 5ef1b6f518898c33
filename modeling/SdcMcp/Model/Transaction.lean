/-
What the transactions have in common.

A transaction stages one stored envelope, shows its plan, checks that the target
has not moved and commits.  Between the check inside `commit` and the write, the
flag that says "refused before anything was written" is cleared.  The transactions
differ in their texts, in what they read and in what they send; those are
parameters here and each transaction names its own.
-/
import SdcMcp.Model.Jobs
import SdcMcp.Model.Prepared

namespace SdcMcp

open Interactive

structure CommitOptions where
  confirmTimeout : Option Nat

/-- The dispositions a transaction reports; an error of `commit` is recorded as a failure. -/
inductive CommitOutcome where
  | reconciled (succeeded : Bool) (jobId details : Option String)
  | indeterminate (reason : String)
  deriving DecidableEq

/-- A transaction over one kind of envelope, with its validation report. -/
structure Transaction (α β : Type) where
  stage : List α → Except SdcError α
  diff : α → Value
  validate : α → Io β
  commit : α → CommitOptions → Io CommitOutcome

/-- Hard cap on one serialized write envelope. -/
def maxEnvelopeBytes : Nat := 2 * 1024 * 1024

variable [Crates]

/-- Admits exactly one envelope, if it is valid and the approved one. -/
def stageOne {α : Type} (wrongCount : String) (validate : α → Except SdcError Unit)
    (approved : α → Bool) : List α → Except SdcError α
  | [prepared] => do
      validate prepared
      if approved prepared then return prepared
      else throw (.preparedChange "prepared action does not match the approved plan digest")
  | _ => .error (.invalidInput wrongCount)

omit [Crates] in
/-- What is staged is the one action of the change set, valid and approved. -/
theorem stageOne_ok {α : Type} {wrongCount : String} {validate : α → Except SdcError Unit}
    {approved : α → Bool} {actions : List α} {p : α} :
    stageOne wrongCount validate approved actions = .ok p ↔
      actions = [p] ∧ validate p = .ok () ∧ approved p = true := by
  have hone : ∀ q, stageOne wrongCount validate approved [q] = (do
      validate q
      if approved q then return q
      else throw (.preparedChange "prepared action does not match the approved plan digest")) :=
    fun _ => rfl
  constructor
  · intro h
    match actions, h with
    | [q], h =>
        rw [hone] at h
        cases hv : validate q with
        | error e =>
            rw [hv] at h
            cases h
        | ok u =>
            rw [hv] at h
            by_cases ha : approved q = true
            · rw [ha] at h
              cases h
              exact ⟨rfl, hv, ha⟩
            · simp only [ha] at h
              cases h
  · rintro ⟨rfl, hv, ha⟩
    rw [hone, hv, ha]
    rfl

/-- Refuses if the target moved. -/
def validateUnchanged {β : Type} (unchanged : Io Bool) (report : Bool → β) : Io β := do
  let targetUnchanged ← unchanged
  if targetUnchanged then return report targetUnchanged
  else Run.fail .targetDrifted

/-- The part of a commit that every transaction repeats around its own read and write. -/
def commitUnchanged (unsupported : String) (options : CommitOptions) (unchanged : Io Bool)
    (write : Io CommitOutcome) : Io CommitOutcome := do
  -- Until the write is issued, every exit is a refusal that sent nothing.
  Run.emit (.markRefused true)
  if options.confirmTimeout.isSome then Run.fail (.invalidInput unsupported)
  else
    let targetUnchanged ← unchanged
    if targetUnchanged then
      Run.emit (.markRefused false)
      write
    else Run.fail .targetDrifted

/-- Whether a value read just now is the one the plan was made from. -/
def sameDigest (before current : Value) : Bool :=
  canonicalDigest current = canonicalDigest before

/-- The disposition of a write that SDC answers at once. -/
def reconcileWrite (details reason : String) : Except SdcError Value → Except SdcError CommitOutcome
  | .ok _ => .ok (.reconciled true none (some details))
  | .error .cancelled => .ok (.indeterminate reason)
  | .error .timeout => .ok (.indeterminate reason)
  | .error .mutationOutcomeUnknown => .ok (.indeterminate reason)
  | .error error => .error error

def commitWrite (client : SdcClient) (details reason : String)
    (call : Except SdcError WriteCall) : Io CommitOutcome := do
  let call ← Run.lift call
  let result ← (call.run client).observe
  Run.lift (reconcileWrite details reason result)

end SdcMcp
