/-
Graphs of values with references, and what a cut unfolding says of them.

A node is a value with a label and children, or a reference to another node.  Its
unfolding has every reference replaced by what it denotes, again and again, and
may be infinite, so it is given by its places: `At n p l` says that the label `l`
stands at the place `p` of the unfolding of `n`.

An outline follows references only so far.  It refuses some of them, and puts
something of its own in their place; because what it follows is ranked, its own
unfolding is finite.  `Seen` says what the outline shows at a place and `CutAt`
that it stops at a reference there.

Two nodes that their outlines show alike unfold alike exactly as far as they do
below the cuts, `at_iff_of_seen`.
-/
import Mathlib.Logic.Relation
import Mathlib.Tactic.Common

universe u

/-- A graph of values: the label and the children of a node, and what a reference denotes. -/
structure RefGraph (Node Step Label Ref : Type u) where
  label : Node → Label
  child : Node → Step → Option Node
  /-- The reference a node is, if it is one. -/
  ref : Node → Option Ref
  target : Ref → Option Node
  /-- What stands for a reference that denotes nothing. -/
  dangling : Ref → Label

namespace RefGraph

variable {Node Step Label Ref : Type u} (G : RefGraph Node Step Label Ref)

/-- The label `l` stands at the place `p` of the unfolding of a node. -/
inductive At : Node → List Step → Label → Prop
  | here {n : Node} (hplain : G.ref n = none) : At n [] (G.label n)
  | child {n c : Node} {s : Step} {p : List Step} {l : Label} (hplain : G.ref n = none)
      (hc : G.child n s = some c) (h : At c p l) : At n (s :: p) l
  | follow {n c : Node} {r : Ref} {p : List Step} {l : Label} (hr : G.ref n = some r)
      (ht : G.target r = some c) (h : At c p l) : At n p l
  | dangling {n : Node} {r : Ref} (hr : G.ref n = some r) (ht : G.target r = none) :
      At n [] (G.dangling r)

/-- The value that the references from a node on lead to. -/
inductive Head : Node → Node → Prop
  | here {n : Node} (hplain : G.ref n = none) : Head n n
  | follow {n c d : Node} {r : Ref} (hr : G.ref n = some r) (ht : G.target r = some c)
      (h : Head c d) : Head n d

/-- A node is a reference to the other one. -/
def Refers (n c : Node) : Prop := ∃ r, G.ref n = some r ∧ G.target r = some c

variable {G}

/-- A place of an unfolding has one label. -/
theorem At.unique {n : Node} {p : List Step} {l l' : Label} (h : G.At n p l)
    (h' : G.At n p l') : l = l' := by
  induction h with
  | here hplain =>
      cases h' with
      | here => rfl
      | follow hr ht h => rw [hplain] at hr; cases hr
      | dangling hr ht => rw [hplain] at hr; cases hr
  | child hplain hc h ih =>
      cases h' with
      | child hplain' hc' h' =>
          rw [hc, Option.some.injEq] at hc'
          rw [← hc'] at h'
          exact ih h'
      | follow hr ht h => rw [hplain] at hr; cases hr
  | follow hr ht h ih =>
      cases h' with
      | here hplain => rw [hplain] at hr; cases hr
      | child hplain => rw [hplain] at hr; cases hr
      | follow hr' ht' h' =>
          rw [hr, Option.some.injEq] at hr'
          rw [← hr', ht, Option.some.injEq] at ht'
          rw [← ht'] at h'
          exact ih h'
      | dangling hr' ht' =>
          rw [hr, Option.some.injEq] at hr'
          rw [← hr', ht] at ht'
          cases ht'
  | dangling hr ht =>
      cases h' with
      | here hplain => rw [hplain] at hr; cases hr
      | follow hr' ht' h' =>
          rw [hr, Option.some.injEq] at hr'
          rw [← hr', ht] at ht'
          cases ht'
      | dangling hr' ht' =>
          rw [hr, Option.some.injEq] at hr'
          rw [hr']

theorem Head.plain {n d : Node} (h : G.Head n d) : G.ref d = none := by
  induction h with
  | here hplain => exact hplain
  | follow _ _ _ ih => exact ih

/-- References lead to one value. -/
theorem Head.unique {n d e : Node} (h : G.Head n d) (h' : G.Head n e) : d = e := by
  induction h with
  | here hplain =>
      cases h' with
      | here => rfl
      | follow hr ht h => rw [hplain] at hr; cases hr
  | follow hr ht h ih =>
      cases h' with
      | here hplain => rw [hplain] at hr; cases hr
      | follow hr' ht' h' =>
          rw [hr, Option.some.injEq] at hr'
          rw [← hr', ht, Option.some.injEq] at ht'
          rw [← ht'] at h'
          exact ih h'

/-- A node unfolds as the value its references lead to. -/
theorem Head.at_iff {n d : Node} (h : G.Head n d) {p : List Step} {l : Label} :
    G.At n p l ↔ G.At d p l := by
  induction h with
  | here => exact Iff.rfl
  | follow hr ht _ ih =>
      rw [← ih]
      constructor
      · intro hn
        cases hn with
        | here hplain => rw [hplain] at hr; cases hr
        | child hplain => rw [hplain] at hr; cases hr
        | follow hr' ht' hc =>
            rw [hr, Option.some.injEq] at hr'
            rw [← hr', ht, Option.some.injEq] at ht'
            rw [ht']
            exact hc
        | dangling hr' ht' =>
            rw [hr, Option.some.injEq] at hr'
            rw [← hr', ht] at ht'
            cases ht'
      · exact At.follow hr ht

/-- References that lead to a value do not go in a circle. -/
theorem Head.not_refers {c v : Node} (h : G.Head c v) :
    ∀ {d}, Relation.ReflTransGen G.Refers c d → ¬G.Refers d c := by
  induction h with
  | here hplain =>
      rintro d hreach ⟨r, hr, ht⟩
      rcases Relation.ReflTransGen.cases_head hreach with rfl | ⟨e, ⟨r', hr', -⟩, -⟩
      · rw [hplain] at hr
        cases hr
      · rw [hplain] at hr'
        cases hr'
  | @follow c c' v r hr ht _ ih =>
      intro d hreach hback
      refine ih (d := c) ?_ ⟨r, hr, ht⟩
      rcases Relation.ReflTransGen.cases_head hreach with rfl | ⟨e, ⟨r', hr', ht'⟩, hrest⟩
      · obtain ⟨r', hr', ht'⟩ := hback
        rw [hr, Option.some.injEq] at hr'
        rw [← hr', ht, Option.some.injEq] at ht'
        rw [ht']
      · rw [hr, Option.some.injEq] at hr'
        rw [← hr', ht, Option.some.injEq] at ht'
        rw [ht']
        exact hrest.tail hback

end RefGraph

/-- How far references are followed, and what stands where they are not. -/
structure Outline (Node Step Label Ref : Type u) extends RefGraph Node Step Label Ref where
  /-- The reference followed from a node, with what it denotes; the list has the references
  that are being followed already. -/
  next : List Ref → Node → Option (Ref × Node)
  /-- What stands at a node from which nothing is followed. -/
  shown : List Ref → Node → Node
  rank : List Ref → Nat
  next_ref : ∀ {S n r c}, next S n = some (r, c) → ref n = some r
  next_target : ∀ {S n r c}, next S n = some (r, c) → target r = some c
  shown_plain : ∀ {S n}, ref n = none → shown S n = n
  rank_lt : ∀ {S n r c}, next S n = some (r, c) → rank (r :: S) < rank S

namespace Outline

variable {Node Step Label Ref : Type u} (O : Outline Node Step Label Ref)

/-- The outline shows the label `l` at the place `p` of a node. -/
inductive Seen : List Ref → Node → List Step → Label → Prop
  | here {S : List Ref} {n : Node} (hstop : O.next S n = none) :
      Seen S n [] (O.label (O.shown S n))
  | child {S : List Ref} {n c : Node} {s : Step} {p : List Step} {l : Label}
      (hstop : O.next S n = none) (hc : O.child (O.shown S n) s = some c)
      (h : Seen S c p l) : Seen S n (s :: p) l
  | follow {S : List Ref} {n c : Node} {r : Ref} {p : List Step} {l : Label}
      (hnext : O.next S n = some (r, c)) (h : Seen (r :: S) c p l) : Seen S n p l

/-- The outline comes to the place `p` of a node and stops at a reference there. -/
inductive CutAt : List Ref → Node → List Step → Prop
  | here {S : List Ref} {n : Node} {r : Ref} (hstop : O.next S n = none)
      (hr : O.ref n = some r) : CutAt S n []
  | child {S : List Ref} {n c : Node} {s : Step} {p : List Step} (hplain : O.ref n = none)
      (hc : O.child n s = some c) (h : CutAt S c p) : CutAt S n (s :: p)
  | follow {S : List Ref} {n c : Node} {r : Ref} {p : List Step}
      (hnext : O.next S n = some (r, c)) (h : CutAt (r :: S) c p) : CutAt S n p

/-- From a node the outline follows references to another one. -/
inductive Leads : List Ref → Node → List Ref → Node → Prop
  | here {S : List Ref} {n : Node} (hstop : O.next S n = none) : Leads S n S n
  | follow {S T : List Ref} {n c d : Node} {r : Ref} (hnext : O.next S n = some (r, c))
      (h : Leads (r :: S) c T d) : Leads S n T d

variable {O}

theorem next_plain {S : List Ref} {n : Node} (hplain : O.ref n = none) : O.next S n = none := by
  cases hnext : O.next S n with
  | none => rfl
  | some rc =>
      have href := O.next_ref (r := rc.1) (c := rc.2) hnext
      rw [hplain] at href
      cases href

/-- **What stands in an unfolding is seen, unless a cut comes before it.** -/
theorem seen_or_cutAt {n : Node} {p : List Step} {l : Label} (h : O.At n p l) :
    ∀ S, O.Seen S n p l ∨ ∃ q t, p = q ++ t ∧ O.CutAt S n q := by
  induction h with
  | @here n hplain =>
      intro S
      have hseen := Seen.here (next_plain (S := S) hplain)
      rw [O.shown_plain hplain] at hseen
      exact Or.inl hseen
  | @child n c s p l hplain hc _ ih =>
      intro S
      rcases ih S with hseen | ⟨q, t, rfl, hcut⟩
      · refine Or.inl (Seen.child (next_plain hplain) ?_ hseen)
        rw [O.shown_plain hplain]
        exact hc
      · exact Or.inr ⟨s :: q, t, rfl, CutAt.child hplain hc hcut⟩
  | @follow n c r p l hr ht _ ih =>
      intro S
      cases hnext : O.next S n with
      | none => exact Or.inr ⟨[], p, rfl, CutAt.here hnext hr⟩
      | some rc =>
          obtain ⟨r', c'⟩ := rc
          have hr' := O.next_ref hnext
          rw [hr, Option.some.injEq] at hr'
          subst hr'
          have ht' := O.next_target hnext
          rw [ht, Option.some.injEq] at ht'
          subst ht'
          rcases ih (r :: S) with hseen | ⟨q, t, hp, hcut⟩
          · exact Or.inl (Seen.follow hnext hseen)
          · exact Or.inr ⟨q, t, hp, CutAt.follow hnext hcut⟩
  | @dangling n r hr ht =>
      intro S
      cases hnext : O.next S n with
      | none => exact Or.inr ⟨[], [], rfl, CutAt.here hnext hr⟩
      | some rc =>
          obtain ⟨r', c'⟩ := rc
          have hr' := O.next_ref hnext
          rw [hr, Option.some.injEq] at hr'
          subst hr'
          have ht' := O.next_target hnext
          rw [ht] at ht'
          cases ht'

/-- **What is seen stands in the unfolding, unless a cut comes before it.** -/
theorem at_or_cutAt {S : List Ref} {n : Node} {p : List Step} {l : Label} (h : O.Seen S n p l) :
    O.At n p l ∨ ∃ q t, p = q ++ t ∧ O.CutAt S n q := by
  induction h with
  | @here S n hstop =>
      cases href : O.ref n with
      | none =>
          rw [O.shown_plain href]
          exact Or.inl (RefGraph.At.here href)
      | some r => exact Or.inr ⟨[], [], rfl, CutAt.here hstop href⟩
  | @child S n c s p l hstop hc _ ih =>
      cases href : O.ref n with
      | none =>
          rw [O.shown_plain href] at hc
          rcases ih with hat | ⟨q, t, rfl, hcut⟩
          · exact Or.inl (RefGraph.At.child href hc hat)
          · exact Or.inr ⟨s :: q, t, rfl, CutAt.child href hc hcut⟩
      | some r => exact Or.inr ⟨[], s :: p, rfl, CutAt.here hstop href⟩
  | follow hnext _ ih =>
      rcases ih with hat | ⟨q, t, hp, hcut⟩
      · exact Or.inl (RefGraph.At.follow (O.next_ref hnext) (O.next_target hnext) hat)
      · exact Or.inr ⟨q, t, hp, CutAt.follow hnext hcut⟩

/-- Below every cut of either outline the two nodes unfold alike. -/
def AgreeBelowCuts (O P : Outline Node Step Label Ref) (n m : Node) : Prop :=
  ∀ q, O.CutAt [] n q ∨ P.CutAt [] m q → ∀ t l, O.At n (q ++ t) l ↔ P.At m (q ++ t) l

/-- **Nodes that are shown alike and agree below the cuts unfold alike.** -/
theorem at_iff_of_seen {O P : Outline Node Step Label Ref} {n m : Node}
    (hseen : ∀ p l, O.Seen [] n p l ↔ P.Seen [] m p l) (hcuts : AgreeBelowCuts O P n m)
    (p : List Step) (l : Label) : O.At n p l ↔ P.At m p l := by
  constructor
  · intro hat
    rcases seen_or_cutAt hat [] with hs | ⟨q, t, rfl, hcut⟩
    · rcases at_or_cutAt ((hseen p l).mp hs) with hat' | ⟨q, t, rfl, hcut⟩
      · exact hat'
      · exact (hcuts q (Or.inr hcut) t l).mp hat
    · exact (hcuts q (Or.inl hcut) t l).mp hat
  · intro hat
    rcases seen_or_cutAt hat [] with hs | ⟨q, t, rfl, hcut⟩
    · rcases at_or_cutAt ((hseen p l).mpr hs) with hat' | ⟨q, t, rfl, hcut⟩
      · exact hat'
      · exact (hcuts q (Or.inl hcut) t l).mpr hat
    · exact (hcuts q (Or.inr hcut) t l).mpr hat

/-! ### Where references lead -/

theorem Leads.stop {S T : List Ref} {n d : Node} (h : O.Leads S n T d) : O.next T d = none := by
  induction h with
  | here hstop => exact hstop
  | follow _ _ ih => exact ih

/-- Because following is ranked, it ends. -/
theorem exists_leads (S : List Ref) (n : Node) : ∃ T d, O.Leads S n T d := by
  induction hk : O.rank S using Nat.strongRecOn generalizing S n with
  | ind k ih =>
      cases hnext : O.next S n with
      | none => exact ⟨S, n, Leads.here hnext⟩
      | some rc =>
          obtain ⟨r, c⟩ := rc
          have hlt := O.rank_lt hnext
          rw [hk] at hlt
          obtain ⟨T, d, hleads⟩ := ih _ hlt (r :: S) c rfl
          exact ⟨T, d, Leads.follow hnext hleads⟩

theorem Leads.seen_iff {S T : List Ref} {n d : Node} (h : O.Leads S n T d) {p : List Step}
    {l : Label} : O.Seen S n p l ↔ O.Seen T d p l := by
  induction h with
  | here => exact Iff.rfl
  | follow hnext _ ih =>
      rw [← ih]
      constructor
      · intro hn
        cases hn with
        | here hstop => rw [hnext] at hstop; cases hstop
        | child hstop => rw [hnext] at hstop; cases hstop
        | follow hnext' hc =>
            rw [hnext, Option.some.injEq, Prod.mk.injEq] at hnext'
            rw [hnext'.1, hnext'.2]
            exact hc
      · exact Seen.follow hnext

theorem Leads.cutAt_iff {S T : List Ref} {n d : Node} (h : O.Leads S n T d) {p : List Step} :
    O.CutAt S n p ↔ O.CutAt T d p := by
  induction h with
  | here => exact Iff.rfl
  | follow hnext _ ih =>
      rw [← ih]
      constructor
      · intro hn
        cases hn with
        | here hstop => rw [hnext] at hstop; cases hstop
        | child hplain => rw [next_plain hplain] at hnext; cases hnext
        | follow hnext' hc =>
            rw [hnext, Option.some.injEq, Prod.mk.injEq] at hnext'
            rw [hnext'.1, hnext'.2]
            exact hc
      · exact CutAt.follow hnext

/-- The value that a node leads to is the one of where the outline stops. -/
theorem Leads.head_iff {S T : List Ref} {n d e : Node} (h : O.Leads S n T d) :
    O.Head n e ↔ O.Head d e := by
  induction h with
  | here => exact Iff.rfl
  | @follow S T n c d r hnext _ ih =>
      rw [← ih]
      constructor
      · intro hn
        have hr := O.next_ref hnext
        have ht := O.next_target hnext
        cases hn with
        | here hplain => rw [hplain] at hr; cases hr
        | follow hr' ht' hc =>
            rw [hr, Option.some.injEq] at hr'
            rw [← hr', ht, Option.some.injEq] at ht'
            rw [ht']
            exact hc
      · exact RefGraph.Head.follow (O.next_ref hnext) (O.next_target hnext)

theorem Leads.reaches {S T : List Ref} {n d : Node} (h : O.Leads S n T d) :
    Relation.ReflTransGen O.Refers n d := by
  induction h with
  | here => exact Relation.ReflTransGen.refl
  | follow hnext _ ih =>
      exact Relation.ReflTransGen.head ⟨_, O.next_ref hnext, O.next_target hnext⟩ ih

/-- What was followed on the way leads on to where the outline stops. -/
theorem Leads.reaches_of_mem {S T : List Ref} {n d : Node} (h : O.Leads S n T d) {r : Ref}
    (hr : r ∈ T) : r ∈ S ∨ ∃ c, O.target r = some c ∧ Relation.ReflTransGen O.Refers c d := by
  induction h with
  | here => exact Or.inl hr
  | @follow S T n c d r' hnext hleads ih =>
      rcases ih hr with hmem | hfound
      · rcases List.mem_cons.mp hmem with rfl | hold
        · exact Or.inr ⟨c, O.next_target hnext, hleads.reaches⟩
        · exact Or.inl hold
      · exact Or.inr hfound

/-- On the way to a value no reference comes twice. -/
theorem Leads.ref_not_mem {T : List Ref} {n d v : Node} {r : Ref} (h : O.Leads [] n T d)
    (hhead : O.Head n v) (hr : O.ref d = some r) : r ∉ T := by
  intro hmem
  rcases h.reaches_of_mem hmem with hnil | ⟨c, hc, hreach⟩
  · cases hnil
  · have hd : O.Head d v := h.head_iff.mp hhead
    cases hd with
    | here hplain => rw [hplain] at hr; cases hr
    | follow hr' ht' hc' =>
        rw [hr, Option.some.injEq] at hr'
        rw [← hr', hc, Option.some.injEq] at ht'
        rw [← ht'] at hc'
        exact hc'.not_refers hreach ⟨r, hr, hc⟩

/-! ### An outline written out as a value -/

/-- The label at a place of a value that is read as it stands. -/
def labelAt (label : Node → Label) (child : Node → Step → Option Node) :
    Node → List Step → Option Label
  | n, [] => some (label n)
  | n, s :: p => (child n s).bind fun c => labelAt label child c p

/-- A function that writes outlines out: it goes on where a reference is followed, and else
has the label and the written out children of what is shown. -/
structure Writes (O : Outline Node Step Label Ref) (write : List Ref → Node → Node) : Prop where
  next : ∀ {S n r c}, O.next S n = some (r, c) → write S n = write (r :: S) c
  label : ∀ {S n}, O.next S n = none → O.label (write S n) = O.label (O.shown S n)
  child : ∀ {S n}, O.next S n = none →
    ∀ s, O.child (write S n) s = (O.child (O.shown S n) s).map (write S)

theorem Writes.leads {write : List Ref → Node → Node} (hw : Writes O write) {S T : List Ref}
    {n d : Node} (h : O.Leads S n T d) : write S n = write T d := by
  induction h with
  | here => rfl
  | follow hnext _ ih => rw [hw.next hnext, ih]

/-- **The labels of an outline written out are those it shows.** -/
theorem Writes.labelAt_eq_some_iff {write : List Ref → Node → Node} (hw : Writes O write)
    {S : List Ref} {n : Node} {p : List Step} {l : Label} :
    labelAt O.label O.child (write S n) p = some l ↔ O.Seen S n p l := by
  induction p generalizing S n with
  | nil =>
      obtain ⟨T, d, hleads⟩ := exists_leads S n
      rw [hw.leads hleads, hleads.seen_iff]
      simp only [labelAt, hw.label hleads.stop, Option.some.injEq]
      constructor
      · intro hl
        rw [← hl]
        exact Seen.here hleads.stop
      · intro hs
        cases hs with
        | here => rfl
        | follow hnext => rw [hleads.stop] at hnext; cases hnext
  | cons s p ih =>
      obtain ⟨T, d, hleads⟩ := exists_leads S n
      rw [hw.leads hleads, hleads.seen_iff]
      simp only [labelAt, hw.child hleads.stop, Option.bind_eq_some_iff, Option.map_eq_some_iff]
      constructor
      · rintro ⟨-, ⟨c, hc, rfl⟩, hl⟩
        exact Seen.child hleads.stop hc (ih.mp hl)
      · intro hs
        cases hs with
        | child _ hc h => exact ⟨_, ⟨_, hc, rfl⟩, ih.mpr h⟩
        | follow hnext => rw [hleads.stop] at hnext; cases hnext

end Outline
