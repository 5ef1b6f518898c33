/-
JSON values as Python holds them.

Integers are unbounded and a float is named by the text `json.dumps` writes for
it.  A dict is the list of its items in key order: nothing here looks at the order
in which a dict was filled, and so two dicts with the same items are one value.
`Ordered` says of a value that its dicts are listed that way at every depth.
-/
import Mathlib.Data.String.Basic
import Mathlib.Tactic.Common

/-- The characters of the tokens that are neither strings nor brackets. -/
def isTokenChar (c : Char) : Bool := c.isAlphanum || c ∈ ['+', '-', '.']

/-- A float, named by its text; infinities and NaN have one too. -/
structure PyFloat where
  chars : List Char
  /-- The text is a token, and not that of an integer or of a constant. -/
  wf : chars.all isTokenChar = true ∧ (chars.any fun c => !(c.isDigit || c = '-')) = true ∧
    chars ∉ ["null".toList, "true".toList, "false".toList]

/-- The values that are neither strings nor containers. -/
inductive Atom where
  | null
  | bool (b : Bool)
  | int (z : Int)
  | float (f : PyFloat)

inductive PyJson where
  | atom (a : Atom)
  | str (s : String)
  | list (items : List PyJson)
  | dict (items : List (String × PyJson))

namespace PyJson

/-- Induction over a value, with one hypothesis for all the children of a container. -/
@[elab_as_elim, induction_eliminator]
theorem induct {P : PyJson → Prop} (atom : ∀ a, P (.atom a)) (str : ∀ s, P (.str s))
    (list : ∀ items, (∀ v ∈ items, P v) → P (.list items))
    (dict : ∀ items, (∀ m ∈ items, P m.2) → P (.dict items)) : ∀ v, P v := by
  intro v
  refine @PyJson.rec P (fun items => ∀ v ∈ items, P v) (fun items => ∀ m ∈ items, P m.2)
    (fun m => P m.2) atom str list dict ?_ ?_ ?_ ?_ ?_ v
  · simp
  · intro head tail hh ht w hw
    rcases List.mem_cons.mp hw with rfl | hw'
    · exact hh
    · exact ht w hw'
  · simp
  · intro head tail hh ht m hm
    rcases List.mem_cons.mp hm with rfl | hm'
    · exact hh
    · exact ht m hm'
  · intro _ _ h
    exact h

/-! ### Reading a value -/

/-- `v.items()` of a dict. -/
def items : PyJson → List (String × PyJson)
  | .dict items => items
  | _ => []

/-- `v.get(key)` of a dict. -/
def get (v : PyJson) (key : String) : Option PyJson := v.items.lookup key

/-- The elements of a list. -/
def elements : PyJson → List PyJson
  | .list items => items
  | _ => []

def asStr : PyJson → Option String
  | .str s => some s
  | _ => none

/-- Whether `if v` takes the branch. -/
def truthy : PyJson → Bool
  | .atom .null => false
  | .atom (.bool b) => b
  | .atom (.int z) => z ≠ 0
  | .atom (.float f) => f.chars ∉ ["0.0".toList, "-0.0".toList]
  | .str s => s ≠ ""
  | .list items => !items.isEmpty
  | .dict items => !items.isEmpty

theorem mem_of_lookup {key : String} {v : PyJson} {items : List (String × PyJson)}
    (h : items.lookup key = some v) : (key, v) ∈ items := by
  obtain ⟨before, after, hitems, -⟩ := List.lookup_eq_some_iff.mp h
  rw [hitems]
  simp

theorem lookup_of_mem {key : String} {v : PyJson} {items : List (String × PyJson)}
    (hnd : (items.map Prod.fst).Nodup) (h : (key, v) ∈ items) : items.lookup key = some v := by
  induction items with
  | nil => simp at h
  | cons m rest ih =>
      obtain ⟨k, w⟩ := m
      simp only [List.map_cons, List.nodup_cons] at hnd
      rw [List.lookup_cons]
      rcases List.mem_cons.mp h with heq | hrest
      · rw [Prod.mk.injEq] at heq
        simp [heq.1, heq.2]
      · have hne : key ≠ k := by
          rintro rfl
          exact hnd.1 (List.mem_map_of_mem (f := Prod.fst) hrest)
        rw [beq_eq_false_iff_ne.mpr hne]
        exact ih hnd.2 hrest

/-- Items that are changed one by one are found changed. -/
theorem lookup_map (f : PyJson → PyJson) (key : String) (items : List (String × PyJson)) :
    (items.map fun m => (m.1, f m.2)).lookup key = (items.lookup key).map f := by
  induction items with
  | nil => rfl
  | cons m rest ih =>
      rw [List.map_cons, List.lookup_cons, List.lookup_cons]
      by_cases hk : key = m.1
      · rw [beq_iff_eq.mpr hk]
        rfl
      · rw [beq_eq_false_iff_ne.mpr hk]
        exact ih

/-! ### What stands in a value -/

/-- `w` stands somewhere in a value, at any depth; the whole value stands in itself. -/
inductive Within (w : PyJson) : PyJson → Prop where
  | self : Within w w
  | item {items : List PyJson} {v : PyJson} (hv : v ∈ items) (h : Within w v) :
      Within w (.list items)
  | member {items : List (String × PyJson)} {m : String × PyJson} (hm : m ∈ items)
      (h : Within w m.2) : Within w (.dict items)

/-! ### Items are in key order -/

mutual

/-- The items of every dict stand in key order, and no key stands twice. -/
def Ordered : PyJson → Prop
  | .list items => OrderedList items
  | .dict items => (items.map Prod.fst).Pairwise (· < ·) ∧ OrderedItems items
  | _ => True

def OrderedList : List PyJson → Prop
  | [] => True
  | v :: rest => v.Ordered ∧ OrderedList rest

def OrderedItems : List (String × PyJson) → Prop
  | [] => True
  | (_, v) :: rest => v.Ordered ∧ OrderedItems rest

end

@[simp] theorem ordered_atom (a : Atom) : Ordered (.atom a) := trivial
@[simp] theorem ordered_str (s : String) : Ordered (.str s) := trivial

theorem orderedList_iff {items : List PyJson} : OrderedList items ↔ ∀ v ∈ items, v.Ordered := by
  induction items with
  | nil => simp [OrderedList]
  | cons v rest ih => simp [OrderedList, ih]

theorem orderedItems_iff {items : List (String × PyJson)} :
    OrderedItems items ↔ ∀ m ∈ items, m.2.Ordered := by
  induction items with
  | nil => simp [OrderedItems]
  | cons m rest ih => simp [OrderedItems, ih]

@[simp] theorem ordered_list {items : List PyJson} :
    Ordered (.list items) ↔ ∀ v ∈ items, v.Ordered :=
  orderedList_iff

@[simp] theorem ordered_dict {items : List (String × PyJson)} :
    Ordered (.dict items) ↔
      (items.map Prod.fst).Pairwise (· < ·) ∧ ∀ m ∈ items, m.2.Ordered := by
  rw [← orderedItems_iff]
  exact Iff.rfl

theorem keys_nodup {keys : List String} (h : keys.Pairwise (· < ·)) : keys.Nodup :=
  h.imp fun hlt heq => absurd (heq ▸ hlt) (lt_irrefl _)

theorem Ordered.items_nodup {v : PyJson} (h : v.Ordered) : (v.items.map Prod.fst).Nodup := by
  cases v with
  | dict items => exact keys_nodup (ordered_dict.mp h).1
  | _ => exact List.nodup_nil

theorem Ordered.of_mem_items {v : PyJson} (h : v.Ordered) {m : String × PyJson}
    (hm : m ∈ v.items) : m.2.Ordered := by
  cases v with
  | dict items => exact (ordered_dict.mp h).2 m hm
  | _ => simp [items] at hm

theorem Ordered.get {v w : PyJson} {key : String} (h : v.Ordered) (hget : v.get key = some w) :
    w.Ordered :=
  h.of_mem_items (mem_of_lookup hget)

theorem Ordered.of_mem_elements {v w : PyJson} (h : v.Ordered) (hw : w ∈ v.elements) :
    w.Ordered := by
  cases v with
  | list items => exact ordered_list.mp h w hw
  | _ => simp [elements] at hw

end PyJson
