/-
`scripts/spec-drift.py`: a fingerprint for every operation of an OpenAPI document,
and the drift between two documents.

A document is a JSON value.  `get`, `items` and `elements` have nothing to give of
a value that is no dict or no list, where Python raises; in an OpenAPI document the
script finds a dict or a list wherever it asks for one.
-/
import SdcMcp.Lib.PyDumps
import SdcMcp.Lib.SortedMap
import SdcMcp.Model.Types
import Mathlib.Data.List.Sort

namespace SdcMcp.SpecDrift

inductive Method where
  | get
  | put
  | post
  | delete
  | patch
  deriving DecidableEq

def METHODS : List Method := [.get, .put, .post, .delete, .patch]

namespace Method

def name : Method → String
  | .get => "get"
  | .put => "put"
  | .post => "post"
  | .delete => "delete"
  | .patch => "patch"

def upper : Method → String
  | .get => "GET"
  | .put => "PUT"
  | .post => "POST"
  | .delete => "DELETE"
  | .patch => "PATCH"

end Method

/-! ### Path templates -/

/-- Matches only `{x}` segments. -/
def PARAM : String := "\x7bparam\x7d"

/-- Matches both literals and `{x}` segments. -/
def ANY : String := "\x7bany\x7d"

/-- `text.split("/")`. -/
def splitSlash (text : String) : List String := (text.toList.splitOn '/').map String.ofList

def segments (specPath : String) : List String :=
  let stripped := (specPath.toList.dropWhile (· = '/')).reverse.dropWhile (· = '/')
  splitSlash (String.ofList stripped.reverse)

def segmentMatches (want have_ : String) : Bool :=
  want = have_ || want = ANY ||
    (want = PARAM && have_.toList.head? = some '{' && have_.toList.getLast? = some '}')

def pathMatches (template : List String) (specPath : String) : Bool :=
  template.length = (segments specPath).length &&
    (template.zip (segments specPath)).all fun pair => segmentMatches pair.1 pair.2

/-! ### `_inline` -/

/-- The reference of a dict into the components: its `$ref`, when that is such a string. -/
def localRef (node : PyJson) : Option String :=
  (node.get "$ref").bind fun ref =>
    ref.asStr.filter fun text => "#/components/".toList.isPrefixOf text.toList

/-- The kind and the name in `#/components/<kind>/<name>`; a longer pointer has none. -/
def kindAndName (ref : String) : Option (String × String) :=
  match splitSlash ref with
  | [_, root, kind, name] => if root = "components" then some (kind, name) else none
  | _ => none

/-- The reference of a dict that names a component, with the kind and the name. -/
def componentRef (node : PyJson) : Option (String × String × String) :=
  (localRef node).bind fun ref => (kindAndName ref).map fun named => (ref, named)

/-- `components.get(kind, {}).get(name)`. -/
def component (components : PyJson) (named : String × String) : Option PyJson :=
  ((components.get named.1).getD (.dict [])).get named.2

def cycle (ref : String) : PyJson := .dict [("$cycle", .str ref)]

def missing (ref : String) : PyJson := .dict [("$missing", .str ref)]

mutual

/-- A node with its references to components resolved; every other dict is walked. -/
def walk (resolve : String × String × String → PyJson) : PyJson → PyJson
  | .dict items =>
      match componentRef (.dict items) with
      | some ref => resolve ref
      | none => .dict (walkItems resolve items)
  | .list items => .list (walkList resolve items)
  | .atom a => .atom a
  | .str s => .str s

def walkList (resolve : String × String × String → PyJson) : List PyJson → List PyJson
  | [] => []
  | v :: rest => walk resolve v :: walkList resolve rest

def walkItems (resolve : String × String × String → PyJson) :
    List (String × PyJson) → List (String × PyJson)
  | [] => []
  | (key, v) :: rest => (key, walk resolve v) :: walkItems resolve rest

end

/-- `_inline`, going through at most `fuel` components one inside the other. -/
def inlineWithin (components : PyJson) : Nat → List String → PyJson → PyJson
  | 0, stack => walk fun ref => if ref.1 ∈ stack then cycle ref.1 else missing ref.1
  | fuel + 1, stack => walk fun ref =>
      if ref.1 ∈ stack then cycle ref.1
      else match (component components ref.2).filter PyJson.truthy with
        | some resolved => inlineWithin components fuel (ref.1 :: stack) resolved
        | none => missing ref.1

/-- The references that the components have. -/
def references (components : PyJson) : List String :=
  components.items.flatMap fun group =>
    group.2.items.map fun named => "#/components/" ++ group.1 ++ "/" ++ named.1

/-- How many components can still be gone into: one that is on the stack is a cycle. -/
def unvisited (components : PyJson) (stack : List String) : Nat :=
  (references components).countP fun ref => ref ∉ stack

/-- `_inline(node, components, stack)`. -/
def inline (components : PyJson) (stack : List String) (node : PyJson) : PyJson :=
  inlineWithin components (unvisited components stack) stack node

/-- `_inline(node, components, stack)` call by call, with at most `depth` calls one inside the
other; `none` if that is not enough. -/
def inlineCalls (components : PyJson) : Nat → List String → PyJson → Option PyJson
  | 0, _, _ => none
  | depth + 1, stack, .dict items =>
      match componentRef (.dict items) with
      | some (ref, named) =>
          if ref ∈ stack then some (cycle ref)
          else match (component components named).filter PyJson.truthy with
            | some resolved => inlineCalls components depth (ref :: stack) resolved
            | none => some (missing ref)
      | none =>
          (items.mapM fun m => (inlineCalls components depth stack m.2).map fun v => (m.1, v)).map
            .dict
  | depth + 1, stack, .list items => (items.mapM (inlineCalls components depth stack)).map .list
  | _ + 1, _, node => some node

/-! ### Fingerprints -/

/-- `(name, in)` of a parameter that was inlined, or the reference it still is. -/
def paramIdentity (param : PyJson) : Option String × Option String :=
  match param.get "$missing" with
  | some ref => (some "$ref", ref.asStr)
  | none =>
      match param.get "$ref" with
      | some ref => (some "$ref", ref.asStr)
      | none => ((param.get "name").bind PyJson.asStr, (param.get "in").bind PyJson.asStr)

/-- `(in or "", name or "")`. -/
def sortKey (param : PyJson) : String × String :=
  ((paramIdentity param).2.getD "", (paramIdentity param).1.getD "")

def keyLe (a b : String × String) : Prop := a.1 < b.1 ∨ a.1 = b.1 ∧ a.2 ≤ b.2

instance : DecidableRel keyLe := fun a b =>
  inferInstanceAs (Decidable (a.1 < b.1 ∨ a.1 = b.1 ∧ a.2 ≤ b.2))

/-- `merged.sort(key=…)`, a stable sort. -/
def sortParams (params : List PyJson) : List PyJson :=
  params.insertionSort fun p q => keyLe (sortKey p) (sortKey q)

/-- The parameters of an operation and those of its path that it does not declare itself. -/
def mergeParams (opParams pathParams : List PyJson) : List PyJson :=
  opParams ++ pathParams.filter fun p => paramIdentity p ∉ opParams.map paramIdentity

/-- What the fingerprint of an operation is taken of. -/
def operationBody (components : PyJson) (pathParams : List PyJson) (operation : PyJson) : PyJson :=
  let body := inline components [] operation
  let opParams := ((body.get "parameters").getD (.list [])).elements
  if pathParams = [] ∧ opParams = [] then body
  else
    .dict (SortedMap.insert "parameters" (.list (sortParams (mergeParams opParams pathParams)))
      body.items)

/-- The part of a document that bears on every operation. -/
def docContract (spec : PyJson) : PyJson :=
  let components := (spec.get "components").getD (.dict [])
  .dict [("security", (spec.get "security").getD (.list [])),
    ("securitySchemes", (components.get "securitySchemes").getD (.dict [])),
    ("servers", (spec.get "servers").getD (.list []))]

/-- `hashlib.sha256(json.dumps(v, …).encode()).hexdigest()`. -/
def fingerprint [Crates] (v : PyJson) : String := Hex.encode (Crates.sha256 (Json.utf8 v.dumps))

def pathFingerprints [Crates] (components : PyJson) (specPath : String) (operations : PyJson) :
    List ((String × String) × String) :=
  let pathParams :=
    (inline components [] ((operations.get "parameters").getD (.list []))).elements
  METHODS.filterMap fun method =>
    (operations.get method.name).map fun operation =>
      ((method.upper, specPath), fingerprint (operationBody components pathParams operation))

def fingerprints [Crates] (spec : PyJson) : List ((String × String) × String) :=
  let components := (spec.get "components").getD (.dict [])
  (("DOC", ""), fingerprint (docContract spec)) ::
    ((spec.get "paths").getD (.dict [])).items.flatMap fun path =>
      pathFingerprints components path.1 path.2

/-! ### `diff` -/

/-- `info.version`, a string in an OpenAPI document. -/
def version (spec : PyJson) : Option String :=
  (((spec.get "info").getD (.dict [])).get "version").bind PyJson.asStr

def sortKeys (keys : List (String × String)) : List (String × String) := keys.insertionSort keyLe

/-- The keys of the first prints that the second have not. -/
def keysWithout (these those : List ((String × String) × String)) : List (String × String) :=
  sortKeys ((these.map Prod.fst).filter fun key => key ∉ those.map Prod.fst)

def keysChanged (before after : List ((String × String) × String)) : List (String × String) :=
  sortKeys ((before.map Prod.fst).filter fun key =>
    key ∈ after.map Prod.fst ∧ before.lookup key ≠ after.lookup key)

def operationKeys (keys : List (String × String)) : List (String × String) :=
  keys.filter fun key => key.1 ≠ "DOC"

def reportSection (title : String) (keys : List (String × String)) : List String :=
  if keys = [] then ["### " ++ title, "", "_None._", ""]
  else
    ["### " ++ title, ""] ++ keys.map (fun key => "- `" ++ key.1 ++ " " ++ key.2 ++ "`")
      ++ [""]

def reportLines (oldVersion newVersion : Option String) (docChanged : Bool)
    (opChanged opRemoved opAdded : List (String × String)) (called : List (List String)) :
    List String :=
  let isCalled := fun key : String × String => called.any fun template => pathMatches template key.2
  let touched := opChanged ++ opRemoved
  (if oldVersion ≠ newVersion then
    ["`info.version`: " ++ oldVersion.getD "None" ++ " → " ++ newVersion.getD "None", ""]
  else []) ++
  ["- " ++ toString opChanged.length ++ " changed", "- " ++ toString opRemoved.length ++ " removed",
    "- " ++ toString opAdded.length ++ " added", ""] ++
  (if docChanged then
    ["### Document-level contract (affects every call)", "",
      "Changed: `servers`, `security`, or `securitySchemes`", ""]
  else []) ++
  reportSection "Operations this server calls" (touched.filter isCalled) ++
  reportSection "Other operations" (touched.filter (fun key => !isCalled key) ++ opAdded) ++
  ["Refresh with `docs/sdc-api/fetch-spec.sh`, re-run " ++
    "`scripts/gen-endpoint-inventory.py`, and land it through a normal PR."]

/-- `diff(old, new, called)`: the report, and whether the documents differ. -/
def diff [Crates] (old new : PyJson) (called : List (List String)) : String × Bool :=
  let before := fingerprints old
  let after := fingerprints new
  let added := keysWithout after before
  let removed := keysWithout before after
  let changed := keysChanged before after
  let docChanged := decide (("DOC", "") ∈ changed)
  let drifted := decide (operationKeys added ≠ [] ∨ operationKeys removed ≠ [] ∨
    operationKeys changed ≠ [] ∨ docChanged = true ∨ version old ≠ version new)
  let lines :=
    if drifted then
      reportLines (version old) (version new) docChanged (operationKeys changed)
        (operationKeys removed) (operationKeys added) called
    else ["No drift."]
  (String.intercalate "\n" (["## SDC OpenAPI drift", ""] ++ lines), drifted)

end SdcMcp.SpecDrift
