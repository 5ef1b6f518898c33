/-
The compact text of a JSON tree, and that it determines the tree.

`render` writes a tree the way a compact serialiser does: no blanks, strings with
the short escapes, integers in decimal and doubles by the text they are named
with.  `toVec` is its UTF-8.

The text is read back one token at a time.  A string ends at the first quote that
is not escaped, a number at the first character that cannot belong to one, and
every other token announces itself by its first character.  So a text that starts
with the text of a tree starts with the text of no other, `render_unique`, and
the bytes of a tree name it, `toVec_injective`.
-/
import SdcMcp.Lib.Json
import Mathlib.Tactic.Common

namespace Json

def hexDigit (n : Nat) : Char :=
  if n < 10 then Char.ofNat (48 + n) else Char.ofNat (87 + n)

/-- One character of a string, escaped as the compact serialiser does it. -/
def escapeChar (c : Char) : List Char :=
  if c = '"' then ['\\', '"']
  else if c = '\\' then ['\\', '\\']
  else if c = '\x08' then ['\\', 'b']
  else if c = '\t' then ['\\', 't']
  else if c = '\n' then ['\\', 'n']
  else if c = '\x0c' then ['\\', 'f']
  else if c = '\r' then ['\\', 'r']
  else if c.toNat < 32 then
    ['\\', 'u', '0', '0', hexDigit (c.toNat / 16), hexDigit (c.toNat % 16)]
  else [c]

/-- The rest of a string after its opening quote. -/
def renderChars : List Char → List Char
  | [] => ['"']
  | c :: rest => escapeChar c ++ renderChars rest

def renderStr (s : String) : List Char := '"' :: renderChars s.toList

def renderNumber : Number → List Char
  | .posInt n => Nat.toDigits 10 n.val
  | .negInt n => '-' :: Nat.toDigits 10 (n.val + 1)
  | .float text => text.chars

mutual

/-- The compact text of a tree. -/
def render : Json → List Char
  | .null => ['n', 'u', 'l', 'l']
  | .bool true => ['t', 'r', 'u', 'e']
  | .bool false => ['f', 'a', 'l', 's', 'e']
  | .num n => renderNumber n
  | .str s => renderStr s
  | .arr items => '[' :: renderItems true items
  | .obj members => '{' :: renderMembers true members

/-- The rest of an array; `first` says that no item has been written yet. -/
def renderItems (first : Bool) : List Json → List Char
  | [] => [']']
  | v :: rest => (if first then [] else [',']) ++ (render v ++ renderItems false rest)

def renderMembers (first : Bool) : List (String × Json) → List Char
  | [] => ['}']
  | (k, v) :: rest =>
      (if first then [] else [',']) ++
        (renderStr k ++ (':' :: (render v ++ renderMembers false rest)))

end

/-- The UTF-8 bytes of a string. -/
def utf8 (s : String) : List UInt8 := s.toUTF8.data.toList

/-- The compact text of a tree as bytes. -/
def toVec (v : Json) : List UInt8 := v.render.flatMap String.utf8EncodeChar

theorem utf8_ofList (cs : List Char) :
    utf8 (String.ofList cs) = cs.flatMap String.utf8EncodeChar := by
  have hbytes : (String.ofList cs).toUTF8 = (cs.flatMap String.utf8EncodeChar).toByteArray := rfl
  unfold utf8
  rw [hbytes, List.data_toByteArray]

theorem utf8_injective {s t : String} (h : utf8 s = utf8 t) : s = t := by
  have harr : s.toUTF8.data = t.toUTF8.data := Array.toList_inj.mp h
  have hbytes : s.toByteArray = t.toByteArray := ByteArray.ext harr
  exact String.toByteArray_inj.mp hbytes

/-! ### Strings -/

/-- Reads one escaped character back. -/
private def readChar : List Char → Option (Char × List Char)
  | '\\' :: '"' :: r => some ('"', r)
  | '\\' :: '\\' :: r => some ('\\', r)
  | '\\' :: 'b' :: r => some ('\x08', r)
  | '\\' :: 't' :: r => some ('\t', r)
  | '\\' :: 'n' :: r => some ('\n', r)
  | '\\' :: 'f' :: r => some ('\x0c', r)
  | '\\' :: 'r' :: r => some ('\r', r)
  | '\\' :: 'u' :: _ :: _ :: hi :: lo :: r =>
      ((List.range 32).find? fun n => hexDigit (n / 16) = hi ∧ hexDigit (n % 16) = lo).map
        fun n => (Char.ofNat n, r)
  | c :: r => some (c, r)
  | [] => none

private theorem find_hexDigit : ∀ n, n < 32 →
    (List.range 32).find? (fun m => hexDigit (m / 16) = hexDigit (n / 16) ∧
      hexDigit (m % 16) = hexDigit (n % 16)) = some n := by
  decide

private theorem readChar_escapeChar (c : Char) (r : List Char) :
    readChar (escapeChar c ++ r) = some (c, r) := by
  unfold escapeChar
  split
  · next h => rw [h]; rfl
  split
  · next h => rw [h]; rfl
  split
  · next h => rw [h]; rfl
  split
  · next h => rw [h]; rfl
  split
  · next h => rw [h]; rfl
  split
  · next h => rw [h]; rfl
  split
  · next h => rw [h]; rfl
  split
  · next h =>
      simp only [List.cons_append, List.nil_append, readChar]
      rw [find_hexDigit _ h]
      simp
  · next h1 h2 h3 h4 h5 h6 h7 h8 =>
      simp only [List.cons_append, List.nil_append]
      unfold readChar
      split <;> simp_all

private theorem escapeChar_head (c : Char) : ∃ d t, escapeChar c = d :: t ∧ d ≠ '"' := by
  unfold escapeChar
  by_cases h : c = '"'
  · exact ⟨'\\', ['"'], by rw [if_pos h], by decide⟩
  · rw [if_neg h]
    split_ifs
    all_goals first
      | exact ⟨_, _, rfl, by decide⟩
      | exact ⟨_, _, rfl, h⟩

/-- Characters that can be read back one after another, none of them starting with a quote, end
at the quote after them. -/
theorem flatMap_quote_unique {escape : Char → List Char}
    {read : List Char → Option (Char × List Char)}
    (hread : ∀ c r, read (escape c ++ r) = some (c, r))
    (hhead : ∀ c, ∃ d t, escape c = d :: t ∧ d ≠ '"') (cs : List Char) :
    ∀ ds r s : List Char, cs.flatMap escape ++ '"' :: r = ds.flatMap escape ++ '"' :: s →
      cs = ds ∧ r = s := by
  induction cs with
  | nil =>
      intro ds r s h
      cases ds with
      | nil => exact ⟨rfl, (List.cons.inj h).2⟩
      | cons d ds =>
          obtain ⟨e, t, he, hne⟩ := hhead d
          rw [List.flatMap_cons, he] at h
          exact absurd (List.cons.inj h).1.symm hne
  | cons c cs ih =>
      intro ds r s h
      cases ds with
      | nil =>
          obtain ⟨e, t, he, hne⟩ := hhead c
          rw [List.flatMap_cons, he] at h
          exact absurd (List.cons.inj h).1 hne
      | cons d ds =>
          rw [List.flatMap_cons, List.flatMap_cons, List.append_assoc, List.append_assoc] at h
          have hboth := congrArg read h
          rw [hread, hread, Option.some.injEq, Prod.mk.injEq] at hboth
          obtain ⟨hcs, hrs⟩ := ih ds r s hboth.2
          exact ⟨by rw [hboth.1, hcs], hrs⟩

theorem renderChars_eq (cs : List Char) :
    renderChars cs = cs.flatMap escapeChar ++ ['"'] := by
  induction cs with
  | nil => rfl
  | cons c cs ih => rw [renderChars, ih, List.flatMap_cons, List.append_assoc]

/-- A string's text ends at its closing quote. -/
theorem renderChars_unique (cs ds r s : List Char)
    (h : renderChars cs ++ r = renderChars ds ++ s) : cs = ds ∧ r = s := by
  rw [renderChars_eq, renderChars_eq, List.append_assoc, List.append_assoc] at h
  exact flatMap_quote_unique readChar_escapeChar escapeChar_head cs ds r s h

theorem renderStr_unique {a b : String} {r s : List Char}
    (h : renderStr a ++ r = renderStr b ++ s) : a = b ∧ r = s := by
  simp only [renderStr, List.cons_append, List.cons.injEq, true_and] at h
  obtain ⟨hl, hr⟩ := renderChars_unique _ _ _ _ h
  exact ⟨String.toList_inj.mp hl, hr⟩

/-! ### Numbers -/

/-- A character that can stand in the text of a number. -/
def isNumberChar (c : Char) : Bool := c.isDigit || c ∈ ['-', '+', '.', 'e']

/-- The rest of a text does not go on with a number. -/
def Follow (r : List Char) : Prop := ∀ c t, r = c :: t → isNumberChar c = false

theorem follow_nil : Follow [] := by
  intro c t h
  simp at h

theorem follow_cons {c : Char} {t : List Char} (hc : isNumberChar c = false) : Follow (c :: t) := by
  intro d u h
  simp only [List.cons.injEq] at h
  rw [← h.1]
  exact hc

private theorem toDigits_digits {n : Nat} {c : Char} (h : c ∈ Nat.toDigits 10 n) :
    c.isDigit = true :=
  Nat.isDigit_of_mem_toDigits (by decide) (by decide) h

private theorem toDigits_inj {m n : Nat} (h : Nat.toDigits 10 m = Nat.toDigits 10 n) : m = n := by
  have := congrArg (fun l => Nat.ofDigitChars 10 l 0) h
  simpa only [Nat.ofDigitChars_ten_toDigits] using this

private theorem renderNumber_chars (n : Number) : ∀ c ∈ renderNumber n, isNumberChar c = true := by
  intro c hc
  cases n with
  | posInt n => simp [isNumberChar, toDigits_digits hc]
  | negInt n =>
      rcases List.mem_cons.mp hc with rfl | hd
      · decide
      · simp [isNumberChar, toDigits_digits hd]
  | float text => exact List.all_eq_true.mp text.wf.1 c hc

private theorem renderNumber_ne_nil (n : Number) : renderNumber n ≠ [] := by
  cases n with
  | posInt n => exact Nat.toDigits_ne_nil
  | negInt n => simp [renderNumber]
  | float text =>
      intro h
      have := text.wf.2
      rw [show text.chars = [] from h] at this
      simp at this

private theorem float_not_digits {text : FloatText} {ds : List Char}
    (hd : ∀ c ∈ ds, c.isDigit = true ∨ c = '-') (h : text.chars = ds) : False := by
  obtain ⟨c, hc, hpoint⟩ := List.any_eq_true.mp text.wf.2
  rw [h] at hc
  rcases hd c hc with h1 | h1
  · simp only [List.mem_cons, List.not_mem_nil, or_false, decide_eq_true_eq] at hpoint
    rcases hpoint with rfl | rfl
    · exact absurd h1 (by decide)
    · exact absurd h1 (by decide)
  · rw [h1] at hpoint
    exact absurd hpoint (by decide)

private theorem posInt_ne_neg {m n : Nat} (h : Nat.toDigits 10 m = '-' :: Nat.toDigits 10 n) :
    False := by
  have := toDigits_digits (n := m) (c := '-') (by rw [h]; simp)
  exact absurd this (by decide)

private theorem renderNumber_inj {m n : Number} (h : renderNumber m = renderNumber n) : m = n := by
  cases m with
  | posInt m =>
      cases n with
      | posInt n => exact congrArg Number.posInt (Fin.ext (toDigits_inj h))
      | negInt n => exact (posInt_ne_neg h).elim
      | float t => exact (float_not_digits (fun c hc => Or.inl (toDigits_digits hc)) h.symm).elim
  | negInt m =>
      cases n with
      | posInt n => exact (posInt_ne_neg h.symm).elim
      | negInt n =>
          simp only [renderNumber, List.cons.injEq, true_and] at h
          have := toDigits_inj h
          exact congrArg Number.negInt (Fin.ext (by omega))
      | float t =>
          refine (float_not_digits (fun c hc => ?_) h.symm).elim
          rcases List.mem_cons.mp hc with h1 | h1
          · exact Or.inr h1
          · exact Or.inl (toDigits_digits h1)
  | float s =>
      cases n with
      | posInt n => exact (float_not_digits (fun c hc => Or.inl (toDigits_digits hc)) h).elim
      | negInt n =>
          refine (float_not_digits (fun c hc => ?_) h).elim
          rcases List.mem_cons.mp hc with h1 | h1
          · exact Or.inr h1
          · exact Or.inl (toDigits_digits h1)
      | float t =>
          obtain ⟨cs, hs⟩ := s
          obtain ⟨ds, ht⟩ := t
          simp only [renderNumber] at h
          subst h
          rfl

private theorem takeWhile_number {ds r : List Char} (hd : ∀ c ∈ ds, isNumberChar c = true)
    (hr : Follow r) : (ds ++ r).takeWhile isNumberChar = ds := by
  induction ds with
  | nil =>
      cases r with
      | nil => rfl
      | cons c t => simp [hr c t rfl]
  | cons c ds ih =>
      simp [hd c (by simp), ih fun d hm => hd d (by simp [hm])]

theorem renderNumber_unique {m n : Number} {r s : List Char} (hr : Follow r) (hs : Follow s)
    (h : renderNumber m ++ r = renderNumber n ++ s) : m = n ∧ r = s := by
  have htext := congrArg (List.takeWhile isNumberChar) h
  rw [takeWhile_number (renderNumber_chars m) hr, takeWhile_number (renderNumber_chars n) hs]
    at htext
  rw [htext] at h
  exact ⟨renderNumber_inj htext, List.append_cancel_left h⟩

/-! ### The first character announces the token -/

private def kind : Json → Nat
  | .null => 0
  | .bool _ => 1
  | .num _ => 2
  | .str _ => 3
  | .arr _ => 4
  | .obj _ => 5

private def tokenKind (c : Char) : Nat :=
  if c = 'n' then 0
  else if c = 't' then 1
  else if c = 'f' then 1
  else if c = '"' then 3
  else if c = '[' then 4
  else if c = '{' then 5
  else if c = ']' then 6
  else 2

private theorem tokenKind_number {c : Char} (h : isNumberChar c = true) : tokenKind c = 2 := by
  unfold tokenKind
  split_ifs with h1 h2 h3 h4 h5 h6 h7
  · rw [h1] at h; exact absurd h (by decide)
  · rw [h2] at h; exact absurd h (by decide)
  · rw [h3] at h; exact absurd h (by decide)
  · rw [h4] at h; exact absurd h (by decide)
  · rw [h5] at h; exact absurd h (by decide)
  · rw [h6] at h; exact absurd h (by decide)
  · rw [h7] at h; exact absurd h (by decide)
  · rfl

private theorem render_head (v : Json) : ∃ c t, render v = c :: t ∧ tokenKind c = kind v := by
  cases v with
  | null => exact ⟨_, _, by rw [render], by decide⟩
  | bool b => cases b <;> exact ⟨_, _, by rw [render], by decide⟩
  | num n =>
      cases hn : renderNumber n with
      | nil => exact absurd hn (renderNumber_ne_nil n)
      | cons c t =>
          refine ⟨c, t, by rw [render, hn], ?_⟩
          exact tokenKind_number (renderNumber_chars n c (by rw [hn]; simp))
  | str s => exact ⟨_, _, by rw [render, renderStr], rfl⟩
  | arr items => exact ⟨_, _, by rw [render], rfl⟩
  | obj members => exact ⟨_, _, by rw [render], rfl⟩

private theorem kind_eq {v w : Json} {r s : List Char} (h : render v ++ r = render w ++ s) :
    kind v = kind w := by
  obtain ⟨c, t, hc, hkc⟩ := render_head v
  obtain ⟨d, u, hd, hkd⟩ := render_head w
  rw [hc, hd, List.cons_append, List.cons_append, List.cons.injEq] at h
  rw [← hkc, ← hkd, h.1]

/-! ### Unique reading -/

private theorem follow_renderItems (vs : List Json) (r : List Char) :
    Follow (renderItems false vs ++ r) := by
  cases vs with
  | nil =>
      rw [renderItems]
      exact follow_cons (by decide)
  | cons v rest =>
      rw [renderItems]
      exact follow_cons (by decide)

private theorem follow_renderMembers (ms : List (String × Json)) (r : List Char) :
    Follow (renderMembers false ms ++ r) := by
  cases ms with
  | nil =>
      rw [renderMembers]
      exact follow_cons (by decide)
  | cons m rest =>
      rw [renderMembers]
      exact follow_cons (by decide)

/-- Reading one tree off a text leaves no choice. -/
private def Reads (v : Json) : Prop :=
  ∀ (w : Json) (r s : List Char), Follow r → Follow s →
    render v ++ r = render w ++ s → v = w ∧ r = s

private theorem renderItems_unique {xs : List Json} (ih : ∀ x ∈ xs, Reads x) :
    ∀ (first : Bool) (ys : List Json) (r s : List Char),
      renderItems first xs ++ r = renderItems first ys ++ s → xs = ys ∧ r = s := by
  induction xs with
  | nil =>
      intro first ys r s h
      cases ys with
      | nil => simpa [renderItems] using h
      | cons y ys =>
          exfalso
          obtain ⟨c, t, hc, hk⟩ := render_head y
          cases first with
          | true =>
              simp only [renderItems, hc, if_true, List.nil_append, List.cons_append,
                List.cons.injEq] at h
              rw [← h.1] at hk
              cases y <;> exact absurd hk (by simp [kind]; decide)
          | false => simp [renderItems] at h
  | cons x xs ihxs =>
      intro first ys r s h
      cases ys with
      | nil =>
          exfalso
          obtain ⟨c, t, hc, hk⟩ := render_head x
          cases first with
          | true =>
              simp only [renderItems, hc, if_true, List.nil_append, List.cons_append,
                List.cons.injEq] at h
              rw [h.1] at hk
              cases x <;> exact absurd hk (by simp [kind]; decide)
          | false => simp [renderItems] at h
      | cons y ys =>
          simp only [renderItems, List.append_assoc, List.append_cancel_left_eq] at h
          obtain ⟨hxy, hrest⟩ := ih x (by simp) y _ _ (follow_renderItems xs r)
            (follow_renderItems ys s) h
          obtain ⟨hxs, hrs⟩ := ihxs (fun z hz => ih z (by simp [hz])) false ys r s hrest
          exact ⟨by rw [hxy, hxs], hrs⟩

private theorem renderMembers_unique {ms : List (String × Json)} (ih : ∀ m ∈ ms, Reads m.2) :
    ∀ (first : Bool) (ns : List (String × Json)) (r s : List Char),
      renderMembers first ms ++ r = renderMembers first ns ++ s → ms = ns ∧ r = s := by
  induction ms with
  | nil =>
      intro first ns r s h
      cases ns with
      | nil => simpa [renderMembers] using h
      | cons n ns => cases first <;> simp [renderMembers, renderStr] at h
  | cons m ms ihms =>
      obtain ⟨k, v⟩ := m
      intro first ns r s h
      cases ns with
      | nil => cases first <;> simp [renderMembers, renderStr] at h
      | cons n ns =>
          obtain ⟨l, w⟩ := n
          simp only [renderMembers, List.append_assoc, List.append_cancel_left_eq] at h
          obtain ⟨hkl, hrest⟩ := renderStr_unique h
          simp only [List.cons_append, List.append_assoc, List.cons.injEq, true_and] at hrest
          obtain ⟨hvw, htail⟩ := ih (k, v) (by simp) w _ _ (follow_renderMembers ms r)
            (follow_renderMembers ns s) hrest
          obtain ⟨hms, hrs⟩ := ihms (fun z hz => ih z (by simp [hz])) false ns r s htail
          exact ⟨by rw [hkl, show v = w from hvw, hms], hrs⟩

/-- **A text starts with the text of at most one tree.** -/
theorem render_unique (v : Json) : ∀ (w : Json) (r s : List Char), Follow r → Follow s →
    render v ++ r = render w ++ s → v = w ∧ r = s := by
  induction v with
  | null =>
      intro w r s _ _ h
      have hk := kind_eq h
      cases w <;> simp_all [kind, render]
  | bool b =>
      intro w r s _ _ h
      have hk := kind_eq h
      cases w with
      | bool c => cases b <;> cases c <;> simp_all [render]
      | _ => simp [kind] at hk
  | num n =>
      intro w r s hr hs h
      have hk := kind_eq h
      cases w with
      | num m =>
          simp only [render] at h
          obtain ⟨hnm, hrs⟩ := renderNumber_unique hr hs h
          exact ⟨by rw [hnm], hrs⟩
      | _ => simp [kind] at hk
  | str a =>
      intro w r s _ _ h
      have hk := kind_eq h
      cases w with
      | str b =>
          simp only [render] at h
          obtain ⟨hab, hrs⟩ := renderStr_unique h
          exact ⟨by rw [hab], hrs⟩
      | _ => simp [kind] at hk
  | arr xs ih =>
      intro w r s _ _ h
      have hk := kind_eq h
      cases w with
      | arr ys =>
          simp only [render, List.cons_append, List.cons.injEq, true_and] at h
          obtain ⟨hxy, hrs⟩ := renderItems_unique ih true ys r s h
          exact ⟨by rw [hxy], hrs⟩
      | _ => simp [kind] at hk
  | obj ms ih =>
      intro w r s _ _ h
      have hk := kind_eq h
      cases w with
      | obj ns =>
          simp only [render, List.cons_append, List.cons.injEq, true_and] at h
          obtain ⟨hmn, hrs⟩ := renderMembers_unique ih true ns r s h
          exact ⟨by rw [hmn], hrs⟩
      | _ => simp [kind] at hk

/-- **The bytes of a tree name it.** -/
theorem toVec_injective {v w : Json} (h : v.toVec = w.toVec) : v = w := by
  have htext : v.render = w.render := by
    unfold toVec at h
    rw [← utf8_ofList, ← utf8_ofList] at h
    have := utf8_injective h
    simpa using congrArg String.toList this
  exact (render_unique v w [] [] follow_nil follow_nil (by rw [htext])).1

/-! ### What stands in a text -/

private theorem flatMap_plain {cs : List Char} (h : ∀ c ∈ cs, escapeChar c = [c]) :
    cs.flatMap escapeChar = cs := by
  induction cs with
  | nil => rfl
  | cons c rest ih =>
      rw [List.flatMap_cons, h c List.mem_cons_self,
        ih fun d hd => h d (List.mem_cons_of_mem c hd)]
      rfl

/-- Characters that are never escaped stand in the text of a string as they stand in the
string. -/
theorem plain_within_renderStr {cs : List Char} {s : String} (hplain : ∀ c ∈ cs, escapeChar c = [c])
    (h : cs <:+: s.toList) : cs <:+: renderStr s := by
  obtain ⟨front, back, heq⟩ := h
  refine ⟨'"' :: front.flatMap escapeChar, renderChars back, ?_⟩
  unfold renderStr
  rw [← heq, renderChars_eq, renderChars_eq, List.flatMap_append, List.flatMap_append,
    flatMap_plain hplain]
  simp

private theorem infix_items {items : List Json} {v : Json} (hv : v ∈ items) (first : Bool) :
    v.render <:+: renderItems first items := by
  induction items generalizing first with
  | nil => cases hv
  | cons w rest ih =>
      unfold renderItems
      apply List.infix_append_of_infix_right
      rcases List.mem_cons.mp hv with rfl | hrest
      · exact List.infix_append_left
      · exact List.infix_append_of_infix_right (ih hrest false)

private theorem infix_members {members : List (String × Json)} {m : String × Json}
    (hm : m ∈ members) (first : Bool) : renderStr m.1 <:+: renderMembers first members ∧
      m.2.render <:+: renderMembers first members := by
  induction members generalizing first with
  | nil => cases hm
  | cons n rest ih =>
      obtain ⟨k, w⟩ := n
      unfold renderMembers
      rcases List.mem_cons.mp hm with rfl | hrest
      · refine ⟨List.infix_append_of_infix_right List.infix_append_left, ?_⟩
        apply List.infix_append_of_infix_right
        apply List.infix_append_of_infix_right
        exact List.infix_cons List.infix_append_left
      · have hback : renderMembers false rest <:+:
            (if first then [] else [',']) ++
              (renderStr k ++ (':' :: (w.render ++ renderMembers false rest))) := by
          apply List.infix_append_of_infix_right
          apply List.infix_append_of_infix_right
          exact List.infix_cons List.infix_append_right
        obtain ⟨hname, hvalue⟩ := ih hrest false
        exact ⟨hname.trans hback, hvalue.trans hback⟩

theorem renderStr_of_member {members : List (String × Json)} {m : String × Json}
    (hm : m ∈ members) : renderStr m.1 <:+: render (.obj members) :=
  List.infix_cons (infix_members hm true).1

/-- The text of what stands in a tree stands in the text of the tree. -/
theorem render_within {v w : Json} (h : Within w v) : w.render <:+: v.render := by
  induction h with
  | self => exact List.infix_rfl
  | item hv h ih => exact ih.trans (List.infix_cons (infix_items hv true))
  | member hm h ih => exact ih.trans (List.infix_cons (infix_members hm true).2)

end Json
