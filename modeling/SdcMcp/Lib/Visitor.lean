/-
What a JSON tokenizer hands to a visitor, and the visitor of the generic value.

A tokenizer drives a visitor through a text: it calls it with one scalar, or lets it
take the items of an array or the members of an object one by one.  Names and strings
are unescaped by then and numbers are of one of three kinds.  When the tokenizer cannot
go on, the visitor sees an error in the place of what would have come next.
`Driven` is all that a visitor can see of a text.

`visitValue` builds the generic value.  It binds a member that is named again anew, so
only the last binding of a name is left in what it builds.
-/
import SdcMcp.Lib.Fallible
import SdcMcp.Lib.Map

namespace Json

/-- An error of reading: one of the tokenizer, or one that a visitor raises. -/
inductive ReadError where
  | tokens (text : String)
  | custom (text : String)
  deriving DecidableEq

/-- How the items of an array or the members of an object end. -/
inductive Ending where
  | closed
  | broken (error : ReadError)

def Ending.check : Ending → Except ReadError Unit
  | .closed => .ok ()
  | .broken error => .error error

/-- A value as it is handed to a visitor. -/
inductive Driven where
  | unit
  | bool (b : Bool)
  | i64 (n : Int64)
  | u64 (n : UInt64)
  /-- A double, or none when it is not finite. -/
  | f64 (text : Option FloatText)
  | str (s : String)
  | seq (items : List Driven) (ending : Ending)
  | map (entries : List (String × Driven)) (ending : Ending)
  | broken (error : ReadError)

/-- A text as it is handed over: its value, and what is wrong behind it. -/
structure Document where
  value : Driven
  trailing : Ending

namespace Driven

/-- Induction over what is handed over, with one hypothesis for all that stands in it. -/
@[elab_as_elim, induction_eliminator]
theorem induct {P : Driven → Prop} (unit : P .unit) (bool : ∀ b, P (.bool b))
    (i64 : ∀ n, P (.i64 n)) (u64 : ∀ n, P (.u64 n)) (f64 : ∀ text, P (.f64 text))
    (str : ∀ s, P (.str s)) (seq : ∀ items ending, (∀ d ∈ items, P d) → P (.seq items ending))
    (map : ∀ entries ending, (∀ e ∈ entries, P e.2) → P (.map entries ending))
    (broken : ∀ error, P (.broken error)) : ∀ d, P d := by
  intro d
  refine @Driven.rec P (fun items => ∀ d ∈ items, P d) (fun entries => ∀ e ∈ entries, P e.2)
    (fun e => P e.2)
    unit bool i64 u64 f64 str seq map broken ?_ ?_ ?_ ?_ ?_ d
  · simp
  · intro head tail hh ht w hw
    rcases List.mem_cons.mp hw with rfl | hw'
    · exact hh
    · exact ht w hw'
  · simp
  · intro head tail hh ht e he
    rcases List.mem_cons.mp he with rfl | he'
    · exact hh
    · exact ht e he'
  · intro _ _ h
    exact h

/-- `d` stands somewhere in what is handed over, at any depth. -/
inductive Within (d : Driven) : Driven → Prop where
  | self : Within d d
  | item {items : List Driven} {ending : Ending} {x : Driven} (hx : x ∈ items)
      (h : Within d x) : Within d (.seq items ending)
  | member {entries : List (String × Driven)} {ending : Ending} {e : String × Driven}
      (he : e ∈ entries) (h : Within d e.2) : Within d (.map entries ending)

/-- No object, at any depth, has two members of one name. -/
def Unambiguous (d : Driven) : Prop :=
  ∀ entries ending, Within (.map entries ending) d → (entries.map Prod.fst).Nodup

theorem unambiguous_seq {items : List Driven} {ending : Ending} :
    Unambiguous (.seq items ending) ↔ ∀ d ∈ items, Unambiguous d := by
  constructor
  · intro h d hd entries ending' hwithin
    exact h entries ending' (.item hd hwithin)
  · intro h entries ending' hwithin
    cases hwithin with
    | item hd hwithin => exact h _ hd entries ending' hwithin

theorem unambiguous_map {entries : List (String × Driven)} {ending : Ending} :
    Unambiguous (.map entries ending) ↔
      (entries.map Prod.fst).Nodup ∧ ∀ e ∈ entries, Unambiguous e.2 := by
  constructor
  · intro h
    refine ⟨h entries ending .self, ?_⟩
    intro e he entries' ending' hwithin
    exact h entries' ending' (.member he hwithin)
  · rintro ⟨hnd, h⟩ entries' ending' hwithin
    cases hwithin with
    | self => exact hnd
    | member he hwithin => exact h _ he entries' ending' hwithin

end Driven

end Json

/-! ### Numbers -/

namespace Number

private theorem natAbs_lt {n : Int64} (h : 0 ≤ n.toInt) : n.toInt.toNat < 2 ^ 64 := by
  have := n.toInt_lt
  omega

private theorem negated_lt (n : Int64) : (-n.toInt - 1).toNat < 2 ^ 63 := by
  have := n.le_toInt
  omega

/-- The number of a signed word. -/
def ofI64 (n : Int64) : Number :=
  if h : 0 ≤ n.toInt then .posInt ⟨n.toInt.toNat, natAbs_lt h⟩
  else .negInt ⟨(-n.toInt - 1).toNat, negated_lt n⟩

/-- The number of an unsigned word. -/
def ofU64 (n : UInt64) : Number := .posInt ⟨n.toNat, n.toNat_lt⟩

end Number

namespace Value

def bool (b : Bool) : Value := ⟨.bool b, trivial⟩

def ofNumber (n : Number) : Value := ⟨.num n, trivial⟩

/-- The value of a double; one that is not finite has no number. -/
def ofF64 : Option FloatText → Value
  | some text => ofNumber (.float text)
  | none => null

end Value

/-! ### The generic value -/

namespace Json

mutual

def visitValue : Driven → Except ReadError Value
  | .unit => .ok Value.null
  | .bool b => .ok (Value.bool b)
  | .i64 n => .ok (Value.ofNumber (.ofI64 n))
  | .u64 n => .ok (Value.ofNumber (.ofU64 n))
  | .f64 text => .ok (Value.ofF64 text)
  | .str s => .ok (Value.string s)
  | .seq items ending => do
      let values ← visitItems items
      ending.check
      return Value.array values
  | .map entries ending => do
      let out ← visitEntries Map.empty entries
      ending.check
      return Value.object out
  | .broken error => .error error

def visitItems : List Driven → Except ReadError (List Value)
  | [] => .ok []
  | d :: rest => do
      let value ← visitValue d
      let values ← visitItems rest
      return value :: values

/-- Binds the members one by one; a name that comes again is bound anew. -/
def visitEntries (out : Map) : List (String × Driven) → Except ReadError Map
  | [] => .ok out
  | (key, d) :: rest => do
      let value ← visitValue d
      visitEntries (out.insert key value) rest

end

/-- Reads a whole text with a visitor. -/
def readWith (visit : Driven → Except ReadError Value) (document : Document) :
    Except ReadError Value := do
  let value ← visit document.value
  document.trailing.check
  return value

/-! ### What is read of a text -/

private theorem visitItems_mem {items : List Driven} {values : List Value}
    (h : visitItems items = .ok values) {d : Driven} (hd : d ∈ items) :
    ∃ v ∈ values, visitValue d = .ok v := by
  induction items generalizing values with
  | nil => cases hd
  | cons x rest ih =>
      unfold visitItems at h
      obtain ⟨v, hv, h⟩ := Except.bind_eq_ok_iff.mp h
      obtain ⟨vs, hvs, h⟩ := Except.bind_eq_ok_iff.mp h
      cases h
      rcases List.mem_cons.mp hd with rfl | hrest
      · exact ⟨v, List.mem_cons_self, hv⟩
      · obtain ⟨w, hw, hread⟩ := ih hvs hrest
        exact ⟨w, List.mem_cons_of_mem v hw, hread⟩

/-- Members whose names differ are all bound in the end, and nothing else is bound anew. -/
private theorem visitEntries_get {entries : List (String × Driven)} {out m : Map}
    (h : visitEntries out entries = .ok m) (hnd : (entries.map Prod.fst).Nodup) :
    (∀ key, key ∉ entries.map Prod.fst → m.get key = out.get key) ∧
      ∀ e ∈ entries, ∃ v, visitValue e.2 = .ok v ∧ m.get e.1 = some v := by
  induction entries generalizing out with
  | nil =>
      cases h
      exact ⟨fun key _ => rfl, by simp⟩
  | cons e rest ih =>
      obtain ⟨k, d⟩ := e
      unfold visitEntries at h
      obtain ⟨v, hv, h⟩ := Except.bind_eq_ok_iff.mp h
      rw [List.map_cons, List.nodup_cons] at hnd
      obtain ⟨hother, hbound⟩ := ih h hnd.2
      constructor
      · intro key hkey
        rw [List.map_cons, List.mem_cons, not_or] at hkey
        rw [hother key hkey.2, Map.get_insert, if_neg hkey.1]
      · intro e he
        rcases List.mem_cons.mp he with rfl | hrest
        · exact ⟨v, hv, by rw [hother k hnd.1, Map.get_insert, if_pos rfl]⟩
        · exact hbound e hrest

/-- Nothing is lost of a text whose names are unambiguous: what stands in it is read, and
stands in the value. -/
theorem visitValue_within {d x : Driven} (hx : Driven.Within x d) {v : Value}
    (h : visitValue d = .ok v) (hu : d.Unambiguous) :
    ∃ w, visitValue x = .ok w ∧ Within w.tree v.tree := by
  induction hx generalizing v with
  | self => exact ⟨v, h, .self⟩
  | item hmem hwithin ih =>
      unfold visitValue at h
      obtain ⟨values, hvalues, h⟩ := Except.bind_eq_ok_iff.mp h
      obtain ⟨-, h⟩ := Except.check_bind_eq_ok_iff.mp h
      cases h
      obtain ⟨value, hvalue, hread⟩ := visitItems_mem hvalues hmem
      obtain ⟨w, hw, hin⟩ := ih hread (Driven.unambiguous_seq.mp hu _ hmem)
      exact ⟨w, hw, .item (List.mem_map_of_mem hvalue) hin⟩
  | @member entries ending e hmem hwithin ih =>
      unfold visitValue at h
      obtain ⟨out, hout, h⟩ := Except.bind_eq_ok_iff.mp h
      obtain ⟨-, h⟩ := Except.check_bind_eq_ok_iff.mp h
      cases h
      obtain ⟨hnd, hu⟩ := Driven.unambiguous_map.mp hu
      obtain ⟨value, hread, hbound⟩ := (visitEntries_get hout hnd).2 e hmem
      obtain ⟨w, hw, hin⟩ := ih hread (hu e hmem)
      have hentry := List.mem_map_of_mem (f := fun m => (m.1, m.2.tree))
        (Map.get_eq_some_iff.mp hbound)
      exact ⟨w, hw, .member hentry hin⟩

theorem visitValue_names {entries : List (String × Driven)} {ending : Ending} {v : Value}
    (h : visitValue (.map entries ending) = .ok v) (hnd : (entries.map Prod.fst).Nodup)
    {e : String × Driven} (he : e ∈ entries) :
    ∃ members, v.tree = .obj members ∧ ∃ m ∈ members, m.1 = e.1 := by
  unfold visitValue at h
  obtain ⟨out, hout, h⟩ := Except.bind_eq_ok_iff.mp h
  obtain ⟨-, h⟩ := Except.check_bind_eq_ok_iff.mp h
  cases h
  obtain ⟨value, -, hbound⟩ := (visitEntries_get hout hnd).2 e he
  exact ⟨_, rfl, _, List.mem_map_of_mem (f := fun m => (m.1, m.2.tree))
    (Map.get_eq_some_iff.mp hbound), rfl⟩

end Json
