/-
The text `json.dumps` writes for a value, with sorted keys and no blanks, and that
it determines the value.

The text is ASCII: in a string everything outside the printable ASCII characters
is written as its UTF-16 units, four hexadecimal digits each.  It is read back
one token at a time.  A string ends at the first quote that is not escaped, every
other token at the first character that cannot belong to one, and the first
character of a text says what kind of value it is, `render_unique`.
-/
import SdcMcp.Lib.Hex
import SdcMcp.Lib.JsonText
import SdcMcp.Lib.PyJson

/-! ### Numbers and constants -/

/-- `int.__repr__`. -/
def renderInt : Int → List Char
  | .ofNat n => Nat.toDigits 10 n
  | .negSucc n => '-' :: Nat.toDigits 10 (n + 1)

namespace Atom

def text : Atom → List Char
  | .null => "null".toList
  | .bool true => "true".toList
  | .bool false => "false".toList
  | .int z => renderInt z
  | .float f => f.chars

end Atom

namespace PyJson

/-! ### Strings -/

/-- A UTF-16 unit as four hexadecimal digits. -/
def hex4 (n : Nat) : List Char :=
  [Hex.digit (n / 4096), Hex.digit (n / 256 % 16), Hex.digit (n / 16 % 16), Hex.digit (n % 16)]

def escapeUnit (n : Nat) : List Char := '\\' :: 'u' :: hex4 n

/-- One character of a string, with `ensure_ascii`. -/
def escapeChar (c : Char) : List Char :=
  if c = '"' then ['\\', '"']
  else if c = '\\' then ['\\', '\\']
  else if c = '\n' then ['\\', 'n']
  else if c = '\r' then ['\\', 'r']
  else if c = '\t' then ['\\', 't']
  else if c = '\x0c' then ['\\', 'f']
  else if c = '\x08' then ['\\', 'b']
  else if 32 ≤ c.toNat ∧ c.toNat ≤ 126 then [c]
  else if c.toNat < 65536 then escapeUnit c.toNat
  else
    escapeUnit (55296 + (c.toNat - 65536) / 1024) ++ escapeUnit (56320 + (c.toNat - 65536) % 1024)

/-- The rest of a string after its opening quote. -/
def renderChars : List Char → List Char
  | [] => ['"']
  | c :: rest => escapeChar c ++ renderChars rest

def renderStr (s : String) : List Char := '"' :: renderChars s.toList

/-! ### Values -/

mutual

def render : PyJson → List Char
  | .atom a => a.text
  | .str s => renderStr s
  | .list items => '[' :: renderList true items
  | .dict items => '{' :: renderItems true items

/-- The rest of a list; `first` says that no element has been written yet. -/
def renderList (first : Bool) : List PyJson → List Char
  | [] => [']']
  | v :: rest => (if first then [] else [',']) ++ (render v ++ renderList false rest)

def renderItems (first : Bool) : List (String × PyJson) → List Char
  | [] => ['}']
  | (k, v) :: rest =>
      (if first then [] else [',']) ++
        (renderStr k ++ (':' :: (render v ++ renderItems false rest)))

end

/-- `json.dumps(v, sort_keys=True, separators=(",", ":"))`. -/
def dumps (v : PyJson) : String := String.ofList v.render

/-! ### Reading a string back -/

private def unhex (c : Char) : Nat := ((List.range 16).find? fun n => Hex.digit n = c).getD 0

private def unhex4 (a b c d : Char) : Nat :=
  unhex a * 4096 + unhex b * 256 + unhex c * 16 + unhex d

private theorem unhex_digit : ∀ n < 16, unhex (Hex.digit n) = n := by
  decide

private theorem unhex4_hex4 {n : Nat} (hn : n < 65536) :
    unhex4 (Hex.digit (n / 4096)) (Hex.digit (n / 256 % 16)) (Hex.digit (n / 16 % 16))
      (Hex.digit (n % 16)) = n := by
  unfold unhex4
  rw [unhex_digit _ (by omega), unhex_digit _ (by omega), unhex_digit _ (by omega),
    unhex_digit _ (by omega)]
  omega

/-- Reads one escaped character back. -/
private def readEscaped : List Char → Option (Char × List Char)
  | '\\' :: 'u' :: a :: b :: c :: d :: r =>
      let n := unhex4 a b c d
      if 55296 ≤ n ∧ n < 56320 then
        match r with
        | _ :: _ :: e :: f :: g :: h :: r' =>
            some (Char.ofNat (65536 + (n - 55296) * 1024 + (unhex4 e f g h - 56320)), r')
        | _ => none
      else some (Char.ofNat n, r)
  | '\\' :: '"' :: r => some ('"', r)
  | '\\' :: '\\' :: r => some ('\\', r)
  | '\\' :: 'n' :: r => some ('\n', r)
  | '\\' :: 'r' :: r => some ('\r', r)
  | '\\' :: 't' :: r => some ('\t', r)
  | '\\' :: 'f' :: r => some ('\x0c', r)
  | '\\' :: 'b' :: r => some ('\x08', r)
  | c :: r => some (c, r)
  | [] => none

private theorem readEscaped_unit {n : Nat} (hn : n < 65536) (hs : n < 55296 ∨ 56320 ≤ n)
    (r : List Char) : readEscaped (escapeUnit n ++ r) = some (Char.ofNat n, r) := by
  simp only [escapeUnit, hex4, List.cons_append, List.nil_append, readEscaped, unhex4_hex4 hn]
  rw [if_neg (by omega)]

private theorem readEscaped_pair {n : Nat} (hn : n < 1048576) (r : List Char) :
    readEscaped (escapeUnit (55296 + n / 1024) ++ escapeUnit (56320 + n % 1024) ++ r)
      = some (Char.ofNat (65536 + n), r) := by
  have hhigh : 55296 + n / 1024 < 65536 := by omega
  have hlow : 56320 + n % 1024 < 65536 := by omega
  simp only [escapeUnit, hex4, List.cons_append, List.nil_append, readEscaped,
    unhex4_hex4 hhigh, unhex4_hex4 hlow]
  rw [if_pos (by omega)]
  have hsum : 65536 + (55296 + n / 1024 - 55296) * 1024 + (56320 + n % 1024 - 56320)
      = 65536 + n := by omega
  rw [hsum]

private theorem toNat_not_surrogate (c : Char) : c.toNat < 55296 ∨ 57344 ≤ c.toNat := by
  rcases c.valid with h | h
  · exact Or.inl h
  · have hgt : 57343 < c.toNat := h.1
    exact Or.inr hgt

private theorem toNat_lt (c : Char) : c.toNat < 1114112 := by
  rcases c.valid with h | h
  · have : c.toNat < 55296 := h
    omega
  · exact h.2

private theorem readEscaped_escapeChar (c : Char) (r : List Char) :
    readEscaped (escapeChar c ++ r) = some (c, r) := by
  unfold escapeChar
  split
  · next h => rw [h]; rfl
  split
  · next h => rw [h]; rfl
  split
  · next h => rw [h]; rfl
  split
  · next h => rw [h]; rfl
  split
  · next h => rw [h]; rfl
  split
  · next h => rw [h]; rfl
  split
  · next h => rw [h]; rfl
  split
  · next h1 h2 h3 h4 h5 h6 h7 h8 =>
      simp only [List.cons_append, List.nil_append]
      unfold readEscaped
      split <;> simp_all
  split
  · next h =>
      rcases toNat_not_surrogate c with hc | hc
      · rw [readEscaped_unit h (Or.inl hc), Char.ofNat_toNat]
      · rw [readEscaped_unit h (Or.inr (by omega)), Char.ofNat_toNat]
  · next h =>
      have hlt := toNat_lt c
      rw [readEscaped_pair (by omega), show 65536 + (c.toNat - 65536) = c.toNat by omega,
        Char.ofNat_toNat]

private theorem escapeChar_head (c : Char) : ∃ d t, escapeChar c = d :: t ∧ d ≠ '"' := by
  unfold escapeChar
  by_cases h : c = '"'
  · exact ⟨'\\', ['"'], by rw [if_pos h], by decide⟩
  · rw [if_neg h]
    split_ifs
    all_goals first
      | exact ⟨_, _, rfl, by decide⟩
      | exact ⟨_, _, rfl, h⟩

theorem renderChars_eq (cs : List Char) :
    renderChars cs = cs.flatMap escapeChar ++ ['"'] := by
  induction cs with
  | nil => rfl
  | cons c cs ih => rw [renderChars, ih, List.flatMap_cons, List.append_assoc]

/-- A string's text ends at its closing quote. -/
theorem renderChars_unique (cs ds r s : List Char)
    (h : renderChars cs ++ r = renderChars ds ++ s) : cs = ds ∧ r = s := by
  rw [renderChars_eq, renderChars_eq, List.append_assoc, List.append_assoc] at h
  exact Json.flatMap_quote_unique readEscaped_escapeChar escapeChar_head cs ds r s h

theorem renderStr_unique {a b : String} {r s : List Char}
    (h : renderStr a ++ r = renderStr b ++ s) : a = b ∧ r = s := by
  simp only [renderStr, List.cons_append, List.cons.injEq, true_and] at h
  obtain ⟨hl, hr⟩ := renderChars_unique _ _ _ _ h
  exact ⟨String.toList_inj.mp hl, hr⟩

end PyJson

/-! ### Tokens -/

/-- The rest of a text does not go on with a token. -/
def TokenEnds (r : List Char) : Prop := ∀ c t, r = c :: t → isTokenChar c = false

theorem tokenEnds_nil : TokenEnds [] := by
  intro c t h
  simp at h

theorem tokenEnds_cons {c : Char} {t : List Char} (hc : isTokenChar c = false) :
    TokenEnds (c :: t) := by
  intro d u h
  rw [← (List.cons.inj h).1]
  exact hc

namespace Atom

private theorem mem_toDigits {n : Nat} {c : Char} (h : c ∈ Nat.toDigits 10 n) :
    c.isDigit = true :=
  Nat.isDigit_of_mem_toDigits (by decide) (by decide) h

private theorem toDigits_injective {m n : Nat} (h : Nat.toDigits 10 m = Nat.toDigits 10 n) :
    m = n := by
  have hval := congrArg (fun l => Nat.ofDigitChars 10 l 0) h
  simpa only [Nat.ofDigitChars_ten_toDigits] using hval

private theorem mem_renderInt {z : Int} {c : Char} (h : c ∈ renderInt z) :
    c.isDigit = true ∨ c = '-' := by
  cases z with
  | ofNat n => exact Or.inl (mem_toDigits h)
  | negSucc n =>
      rcases List.mem_cons.mp h with hc | hc
      · exact Or.inr hc
      · exact Or.inl (mem_toDigits hc)

private theorem not_mem_toDigits {n : Nat} : '-' ∉ Nat.toDigits 10 n := by
  intro h
  have hdigit := mem_toDigits h
  exact absurd hdigit (by decide)

private theorem renderInt_injective {y z : Int} (h : renderInt y = renderInt z) : y = z := by
  cases y with
  | ofNat m =>
      cases z with
      | ofNat n => exact congrArg Int.ofNat (toDigits_injective h)
      | negSucc n =>
          have hmem : '-' ∈ renderInt (.ofNat m) := by rw [h]; exact List.mem_cons_self
          exact absurd hmem not_mem_toDigits
  | negSucc m =>
      cases z with
      | ofNat n =>
          have hmem : '-' ∈ renderInt (.ofNat n) := by rw [← h]; exact List.mem_cons_self
          exact absurd hmem not_mem_toDigits
      | negSucc n =>
          have hdigits := toDigits_injective (List.cons.inj h).2
          exact congrArg Int.negSucc (by omega)

theorem text_token (a : Atom) : ∀ c ∈ a.text, isTokenChar c = true := by
  intro c hc
  cases a with
  | null => exact List.all_eq_true.mp (by decide : "null".toList.all isTokenChar = true) c hc
  | bool b =>
      cases b with
      | true => exact List.all_eq_true.mp (by decide : "true".toList.all isTokenChar = true) c hc
      | false => exact List.all_eq_true.mp (by decide : "false".toList.all isTokenChar = true) c hc
  | int z =>
      rcases mem_renderInt hc with hdigit | rfl
      · simp [isTokenChar, Char.isAlphanum, hdigit]
      · decide
  | float f => exact List.all_eq_true.mp f.wf.1 c hc

theorem text_ne_nil (a : Atom) : a.text ≠ [] := by
  cases a with
  | null => decide
  | bool b => cases b <;> decide
  | int z =>
      cases z with
      | ofNat n => exact Nat.toDigits_ne_nil
      | negSucc n => exact List.cons_ne_nil _ _
  | float f =>
      intro h
      have hany := f.wf.2.1
      rw [show f.chars = [] from h] at hany
      simp at hany

/-- What the text of an atom is made of. -/
private def sort (text : List Char) : Nat :=
  if text = "null".toList then 0
  else if text = "true".toList then 1
  else if text = "false".toList then 2
  else if text.any (fun c => !(c.isDigit || c = '-')) then 3
  else 4

private theorem sort_int (z : Int) : sort (renderInt z) = 4 := by
  have hnone : (renderInt z).any (fun c => !(c.isDigit || c = '-')) = false := by
    rw [List.any_eq_false]
    intro c hc
    rcases mem_renderInt hc with hdigit | rfl
    · simp [hdigit]
    · decide
  have hne : ∀ text : List Char, text.any (fun c => !(c.isDigit || c = '-')) = true →
      renderInt z ≠ text := by
    intro text htext heq
    rw [heq, htext] at hnone
    cases hnone
  unfold sort
  rw [if_neg (hne _ (by decide)), if_neg (hne _ (by decide)), if_neg (hne _ (by decide)), hnone]
  rfl

private theorem sort_float (f : PyFloat) : sort f.chars = 3 := by
  have hconst := f.wf.2.2
  simp only [List.mem_cons, List.not_mem_nil, or_false, not_or] at hconst
  unfold sort
  rw [if_neg hconst.1, if_neg hconst.2.1, if_neg hconst.2.2, if_pos f.wf.2.1]

private def order : Atom → Nat
  | .null => 0
  | .bool true => 1
  | .bool false => 2
  | .float _ => 3
  | .int _ => 4

private theorem sort_text (a : Atom) : sort a.text = order a := by
  cases a with
  | null => decide
  | bool b => cases b <;> decide
  | int z => exact sort_int z
  | float f => exact sort_float f

/-- The text of an atom names it. -/
theorem text_injective {a b : Atom} (h : a.text = b.text) : a = b := by
  have horder : order a = order b := by rw [← sort_text, ← sort_text, h]
  rcases a with _ | (_ | _) | y | f <;> rcases b with _ | (_ | _) | z | g <;>
    first
      | rfl
      | (simp only [order, Nat.reduceEqDiff, zero_ne_one, one_ne_zero] at horder; done)
      | skip
  · exact congrArg Atom.int (renderInt_injective h)
  · obtain ⟨cs, hcs⟩ := f
    obtain ⟨ds, hds⟩ := g
    have hchars : cs = ds := h
    subst hchars
    rfl

private theorem takeWhile_token {ds r : List Char} (hd : ∀ c ∈ ds, isTokenChar c = true)
    (hr : TokenEnds r) : (ds ++ r).takeWhile isTokenChar = ds := by
  rw [List.takeWhile_append_of_pos hd]
  cases r with
  | nil => simp
  | cons c t => rw [List.takeWhile_cons_of_neg (by simp [hr c t rfl]), List.append_nil]

/-- A token ends where its characters do. -/
theorem text_unique {a b : Atom} {r s : List Char} (hr : TokenEnds r) (hs : TokenEnds s)
    (h : a.text ++ r = b.text ++ s) : a = b ∧ r = s := by
  have htext := congrArg (List.takeWhile isTokenChar) h
  rw [takeWhile_token a.text_token hr, takeWhile_token b.text_token hs] at htext
  rw [htext] at h
  exact ⟨text_injective htext, List.append_cancel_left h⟩

end Atom

namespace PyJson

/-! ### The first character announces the value -/

private def shape : PyJson → Nat
  | .atom _ => 0
  | .str _ => 1
  | .list _ => 2
  | .dict _ => 3

private def shapeOf (c : Char) : Nat :=
  if c = '"' then 1 else if c = '[' then 2 else if c = '{' then 3 else if c = ']' then 4 else 0

private theorem shapeOf_token {c : Char} (h : isTokenChar c = true) : shapeOf c = 0 := by
  have hne : ∀ d, isTokenChar d = false → c ≠ d := by
    rintro d hd rfl
    rw [h] at hd
    cases hd
  unfold shapeOf
  rw [if_neg (hne _ (by decide)), if_neg (hne _ (by decide)), if_neg (hne _ (by decide)),
    if_neg (hne _ (by decide))]

private theorem render_first (v : PyJson) : ∃ c t, render v = c :: t ∧ shapeOf c = shape v := by
  cases v with
  | atom a =>
      cases ha : a.text with
      | nil => exact absurd ha a.text_ne_nil
      | cons c t =>
          refine ⟨c, t, by rw [render, ha], shapeOf_token (a.text_token c ?_)⟩
          rw [ha]
          exact List.mem_cons_self
  | str s => exact ⟨_, _, by rw [render, renderStr], rfl⟩
  | list items => exact ⟨_, _, by rw [render], rfl⟩
  | dict items => exact ⟨_, _, by rw [render], rfl⟩

private theorem shape_eq {v w : PyJson} {r s : List Char} (h : render v ++ r = render w ++ s) :
    shape v = shape w := by
  obtain ⟨c, t, hc, hkc⟩ := render_first v
  obtain ⟨d, u, hd, hkd⟩ := render_first w
  rw [hc, hd, List.cons_append, List.cons_append, List.cons.injEq] at h
  rw [← hkc, ← hkd, h.1]

private theorem render_not_closing (v : PyJson) (r s : List Char) : ']' :: s ≠ render v ++ r := by
  intro h
  obtain ⟨c, t, hc, hshape⟩ := render_first v
  rw [hc, List.cons_append, List.cons.injEq] at h
  rw [← h.1] at hshape
  cases v <;> exact absurd hshape (by simp [shape]; decide)

/-! ### Unique reading -/

private theorem tokenEnds_renderList (vs : List PyJson) (r : List Char) :
    TokenEnds (renderList false vs ++ r) := by
  cases vs with
  | nil =>
      rw [renderList]
      exact tokenEnds_cons (by decide)
  | cons v rest =>
      rw [renderList]
      exact tokenEnds_cons (by decide)

private theorem tokenEnds_renderItems (ms : List (String × PyJson)) (r : List Char) :
    TokenEnds (renderItems false ms ++ r) := by
  cases ms with
  | nil =>
      rw [renderItems]
      exact tokenEnds_cons (by decide)
  | cons m rest =>
      rw [renderItems]
      exact tokenEnds_cons (by decide)

/-- Reading one value off a text leaves no choice. -/
private def ReadsOff (v : PyJson) : Prop :=
  ∀ (w : PyJson) (r s : List Char), TokenEnds r → TokenEnds s →
    render v ++ r = render w ++ s → v = w ∧ r = s

private theorem renderList_unique {xs : List PyJson} (ih : ∀ x ∈ xs, ReadsOff x) :
    ∀ (first : Bool) (ys : List PyJson) (r s : List Char),
      renderList first xs ++ r = renderList first ys ++ s → xs = ys ∧ r = s := by
  induction xs with
  | nil =>
      intro first ys r s h
      cases ys with
      | nil => simpa [renderList] using h
      | cons y ys =>
          cases first with
          | true =>
              simp only [renderList, if_true, List.nil_append, List.append_assoc,
                List.cons_append] at h
              exact absurd h (render_not_closing _ _ _)
          | false => simp [renderList] at h
  | cons x xs ihxs =>
      intro first ys r s h
      cases ys with
      | nil =>
          cases first with
          | true =>
              simp only [renderList, if_true, List.nil_append, List.append_assoc,
                List.cons_append] at h
              exact absurd h.symm (render_not_closing _ _ _)
          | false => simp [renderList] at h
      | cons y ys =>
          simp only [renderList, List.append_assoc, List.append_cancel_left_eq] at h
          obtain ⟨hxy, hrest⟩ := ih x (by simp) y _ _ (tokenEnds_renderList xs r)
            (tokenEnds_renderList ys s) h
          obtain ⟨hxs, hrs⟩ := ihxs (fun z hz => ih z (by simp [hz])) false ys r s hrest
          exact ⟨by rw [hxy, hxs], hrs⟩

private theorem renderItems_unique {ms : List (String × PyJson)} (ih : ∀ m ∈ ms, ReadsOff m.2) :
    ∀ (first : Bool) (ns : List (String × PyJson)) (r s : List Char),
      renderItems first ms ++ r = renderItems first ns ++ s → ms = ns ∧ r = s := by
  induction ms with
  | nil =>
      intro first ns r s h
      cases ns with
      | nil => simpa [renderItems] using h
      | cons n ns => cases first <;> simp [renderItems, renderStr] at h
  | cons m ms ihms =>
      obtain ⟨k, v⟩ := m
      intro first ns r s h
      cases ns with
      | nil => cases first <;> simp [renderItems, renderStr] at h
      | cons n ns =>
          obtain ⟨l, w⟩ := n
          simp only [renderItems, List.append_assoc, List.append_cancel_left_eq] at h
          obtain ⟨hkl, hrest⟩ := renderStr_unique h
          simp only [List.cons_append, List.append_assoc, List.cons.injEq, true_and] at hrest
          obtain ⟨hvw, htail⟩ := ih (k, v) (by simp) w _ _ (tokenEnds_renderItems ms r)
            (tokenEnds_renderItems ns s) hrest
          obtain ⟨hms, hrs⟩ := ihms (fun z hz => ih z (by simp [hz])) false ns r s htail
          have hvw : v = w := hvw
          exact ⟨by rw [hkl, hvw, hms], hrs⟩

/-- **A text starts with the text of at most one value.** -/
theorem render_unique (v : PyJson) : ∀ (w : PyJson) (r s : List Char), TokenEnds r →
    TokenEnds s → render v ++ r = render w ++ s → v = w ∧ r = s := by
  induction v with
  | atom a =>
      intro w r s hr hs h
      have hk := shape_eq h
      cases w with
      | atom b =>
          simp only [render] at h
          obtain ⟨hab, hrs⟩ := Atom.text_unique hr hs h
          exact ⟨by rw [hab], hrs⟩
      | _ => simp [shape] at hk
  | str a =>
      intro w r s _ _ h
      have hk := shape_eq h
      cases w with
      | str b =>
          simp only [render] at h
          obtain ⟨hab, hrs⟩ := renderStr_unique h
          exact ⟨by rw [hab], hrs⟩
      | _ => simp [shape] at hk
  | list xs ih =>
      intro w r s _ _ h
      have hk := shape_eq h
      cases w with
      | list ys =>
          simp only [render, List.cons_append, List.cons.injEq, true_and] at h
          obtain ⟨hxy, hrs⟩ := renderList_unique ih true ys r s h
          exact ⟨by rw [hxy], hrs⟩
      | _ => simp [shape] at hk
  | dict ms ih =>
      intro w r s _ _ h
      have hk := shape_eq h
      cases w with
      | dict ns =>
          simp only [render, List.cons_append, List.cons.injEq, true_and] at h
          obtain ⟨hmn, hrs⟩ := renderItems_unique ih true ns r s h
          exact ⟨by rw [hmn], hrs⟩
      | _ => simp [shape] at hk

/-- **The text of a value names it.** -/
theorem dumps_injective {v w : PyJson} (h : v.dumps = w.dumps) : v = w := by
  have htext : v.render = w.render := String.ofList_injective h
  exact (render_unique v w [] [] tokenEnds_nil tokenEnds_nil (by rw [htext])).1

end PyJson
