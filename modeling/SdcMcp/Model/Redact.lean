/-
The part of `redact.rs` that is this server's own.

The scan for credentials is a separate crate.  The license keys a device lacks are no
credentials, and are the elements of a list and not its keys, so they are blanked here.
-/
import SdcMcp.Lib.Map
import SdcMcp.Model.Checks

namespace SdcMcp

/-- The value in a list's place keeps the length of the list; anything else is blanked whole. -/
def redactLicenses (licenses : Value) : Value :=
  match licenses.asArray with
  | some items => .array (items.map fun _ => .string redacted)
  | none => if licenses.tree.isNull then licenses else .string redacted

/-- `redact_rma_state`: the top-level `missing_licenses` of the state of a replaced device. -/
def redactRmaState (value : Value) : Value :=
  match value.asObject with
  | none => value
  | some object =>
      match object.get "missing_licenses" with
      | none => value
      | some licenses => .object (object.insert "missing_licenses" (redactLicenses licenses))

end SdcMcp
