/-
The check of a shipped SBOM, `main.rs`.

The text is read by a visitor that refuses an object with a repeated member, then
its components are compared with the expected ones, and the text and the value written
out again are searched for what must not be shipped.  Reading the file is left out:
the checks start from its text.  An error is the chain of its messages, outermost first.
-/
import SdcMcp.Lib.JsonText
import SdcMcp.Lib.Visitor
import SdcMcp.Model.Checks
import Mathlib.Data.List.Sort
import Mathlib.Data.Prod.Lex

namespace SdcMcp

open Json (Driven Document ReadError)

/-- The tokenizer of `serde_json`: what it hands to a visitor of a text, and the line and the
column where it stands in the text when the visitor gives up. -/
class JsonReader where
  drive : String → Document
  position : String → Nat × Nat

/-! ### Strict parsing -/

def duplicateMember (key : String) : ReadError :=
  .custom ("duplicate object member '" ++ key ++ "'")

mutual

/-- `StrictVisitor`. -/
def visitStrict : Driven → Except ReadError Value
  | .unit => .ok Value.null
  | .bool b => .ok (Value.bool b)
  | .i64 n => .ok (Value.ofNumber (.ofI64 n))
  | .u64 n => .ok (Value.ofNumber (.ofU64 n))
  | .f64 text => .ok (Value.ofF64 text)
  | .str s => .ok (Value.string s)
  | .seq items ending => do
      let values ← strictItems items
      ending.check
      return Value.array values
  | .map entries ending => do
      let out ← strictEntries Map.empty entries
      ending.check
      return Value.object out
  | .broken error => .error error

def strictItems : List Driven → Except ReadError (List Value)
  | [] => .ok []
  | d :: rest => do
      let value ← visitStrict d
      let values ← strictItems rest
      return value :: values

/-- Binds the members one by one, up to one whose name is bound already. -/
def strictEntries (out : Map) : List (String × Driven) → Except ReadError Map
  | [] => .ok out
  | (key, d) :: rest => do
      let value ← visitStrict d
      if (out.get key).isSome then .error (duplicateMember key)
      else strictEntries (out.insert key value) rest

end

def parseJsonRejectingDuplicateKeys [JsonReader] (text : String) : Except ReadError Value :=
  Json.readWith visitStrict (JsonReader.drive text)

/-! ### The SBOM -/

def expectedMecmcpComponents : List (String × String) :=
  [("mecmcp-audit", "0.26.0"), ("mecmcp-auth", "0.26.0"), ("mecmcp-changeset", "0.26.0"),
    ("mecmcp-redact", "0.26.0"), ("mecmcp-runtime", "0.26.0"), ("mecmcp-secret", "0.26.0"),
    ("mecmcp-server", "0.26.0"), ("mecmcp-transport", "0.26.0")]

/-- A member of a value that is a string. -/
def stringMember (v : Value) (key : String) : Option String :=
  (v.get key).bind fun member => member.tree.asStr

/-- The name of a component that has to be one of the expected ones. -/
def mecmcpName (component : Value) : Option String :=
  (stringMember component "name").filter fun name => "mecmcp-".toList.isPrefixOf name.toList

/-- The names and versions of the components that have to be the expected ones. -/
def foundMecmcp : List Value → Except (List String) (List (String × String))
  | [] => .ok []
  | component :: rest =>
      match mecmcpName component with
      | none => foundMecmcp rest
      | some name => do
          let version ← match stringMember component "version" with
            | some version => .ok version
            | none => .error ["SBOM mecmcp-* component '" ++ name
                ++ "' has missing or non-string version"]
          let found ← foundMecmcp rest
          return (name, version) :: found

/-- `sort` on pairs of strings. -/
def sortPairs (pairs : List (String × String)) : List (String × String) :=
  pairs.insertionSort fun a b => toLex a ≤ toLex b

/-- Pairs of strings as `{:?}` prints them. -/
def debugPairs [Crates] (pairs : List (String × String)) : String :=
  "[" ++ String.intercalate ", " (pairs.map fun pair =>
    "(" ++ Crates.debugStr pair.1 ++ ", " ++ Crates.debugStr pair.2 ++ ")") ++ "]"

/-- What must not be shipped, with the message for each. -/
def forbiddenMarkers : List (String × String) :=
  [("v0.8.0", "SBOM must not contain 'v0.8.0'"),
    ("70ac3d8fb5f27db3257d11aef28bd09587f085e1", "SBOM must not contain forbidden commit hash"),
    ("/home/", "SBOM contains an absolute repository or worktree path"),
    ("/workspace/", "SBOM contains an absolute repository or worktree path"),
    ("/workspaces/", "SBOM contains an absolute repository or worktree path")]

def containsForbidden (content normalized needle : String) : Bool :=
  hasInfix needle.toList content.toList || hasInfix needle.toList normalized.toList

/-- An error of reading as `serde_json` displays it.  One of the tokenizer names its place itself;
one of a visitor is given the place where the tokenizer stands. -/
def displayReadError [JsonReader] (content : String) : ReadError → String
  | .tokens text => text
  | .custom text =>
      let (line, column) := JsonReader.position content
      text ++ " at line " ++ toString line ++ " column " ++ toString column

def validateSbomFile [Crates] [JsonReader] (content : String) : Except (List String) Unit := do
  let value ← (parseJsonRejectingDuplicateKeys content).mapError fun error =>
    ["SBOM is not valid JSON with unique object members", displayReadError content error]
  if stringMember value "bomFormat" ≠ some "CycloneDX" then
    throw ["SBOM bomFormat must be 'CycloneDX'"]
  if ((value.get "metadata").bind fun m => (m.get "component").bind fun c => stringMember c "name")
      ≠ some "rustsdcmcp" then
    throw ["SBOM metadata.component.name must be 'rustsdcmcp'"]
  let components ← match (value.get "components").bind Value.asArray with
    | some components => pure components
    | none => throw ["SBOM components must be a non-empty array"]
  if components.isEmpty then throw ["SBOM components array must not be empty"]
  if !components.any fun c => stringMember c "name" = some "serde" then
    throw ["SBOM must contain 'serde' component"]
  let found ← foundMecmcp components
  if sortPairs found ≠ expectedMecmcpComponents then
    throw ["SBOM mecmcp-* components mismatch. Expected: " ++ debugPairs expectedMecmcpComponents
      ++ ", Found: " ++ debugPairs (sortPairs found)]
  let normalized := String.ofList value.tree.render
  forbiddenMarkers.forM fun marker =>
    if containsForbidden content normalized marker.1 then .error [marker.2] else .ok ()

end SdcMcp
