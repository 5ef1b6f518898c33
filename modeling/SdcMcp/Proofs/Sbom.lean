/-
What an accepted SBOM says.

The strict visitor builds what the generic one builds, and fails besides at every name
that an object repeats.  So nothing that stands in the text is lost in the value: each
name and each string of the text is one of the value, and it is found again in the text
that the value is written out to, where a marker of plain characters stays as it is.
-/
import SdcMcp.Model.Sbom
import SdcMcp.Proofs.Redaction
import SdcMcp.Proofs.Scripted

namespace SdcMcp

open Json (Driven Document ReadError Ending)

/-! ### The strict visitor -/

/-- The strict visitor agrees with the generic one on a value without repeated names. -/
private def Agrees (d : Driven) : Prop :=
  ∀ v, visitStrict d = .ok v ↔ Json.visitValue d = .ok v ∧ d.Unambiguous

private theorem agrees_scalar {d : Driven} (heq : visitStrict d = Json.visitValue d)
    (hseq : ∀ items ending, d ≠ .seq items ending)
    (hmap : ∀ entries ending, d ≠ .map entries ending) : Agrees d := by
  intro v
  have hscalar : d.Unambiguous := by
    intro entries ending hwithin
    cases hwithin with
    | self => exact absurd rfl (hmap entries ending)
    | item hx h => exact absurd rfl (hseq _ _)
    | member he h => exact absurd rfl (hmap _ _)
  rw [heq]
  exact (and_iff_left hscalar).symm

private theorem strictItems_ok_iff {items : List Driven} (h : ∀ d ∈ items, Agrees d)
    {values : List Value} : strictItems items = .ok values ↔
      Json.visitItems items = .ok values ∧ ∀ d ∈ items, d.Unambiguous := by
  induction items generalizing values with
  | nil => exact (and_iff_left (by simp)).symm
  | cons d rest ih =>
      have hd := h d List.mem_cons_self
      have hrest := @ih fun x hx => h x (List.mem_cons_of_mem d hx)
      unfold strictItems Json.visitItems
      rw [Except.bind_eq_ok_iff, Except.bind_eq_ok_iff, List.forall_mem_cons]
      constructor
      · rintro ⟨value, hvalue, hmore⟩
        obtain ⟨others, hothers, hdone⟩ := Except.bind_eq_ok_iff.mp hmore
        obtain ⟨hv, hdu⟩ := (hd value).mp hvalue
        obtain ⟨ho, hru⟩ := hrest.mp hothers
        exact ⟨⟨value, hv, Except.bind_eq_ok_iff.mpr ⟨others, ho, hdone⟩⟩, hdu, hru⟩
      · rintro ⟨⟨value, hv, hmore⟩, hdu, hru⟩
        obtain ⟨others, ho, hdone⟩ := Except.bind_eq_ok_iff.mp hmore
        exact ⟨value, (hd value).mpr ⟨hv, hdu⟩,
          Except.bind_eq_ok_iff.mpr ⟨others, hrest.mpr ⟨ho, hru⟩, hdone⟩⟩

/-- The members are bound one by one, and none of them has a name that is bound already. -/
private theorem strictEntries_ok_iff {entries : List (String × Driven)}
    (h : ∀ e ∈ entries, Agrees e.2) {out m : Map} :
    strictEntries out entries = .ok m ↔ Json.visitEntries out entries = .ok m ∧
      ((entries.map Prod.fst).Nodup ∧ ∀ e ∈ entries, e.1 ∉ out.keys) ∧
      ∀ e ∈ entries, e.2.Unambiguous := by
  induction entries generalizing out with
  | nil => exact (and_iff_left (by simp)).symm
  | cons e rest ih =>
      obtain ⟨key, d⟩ := e
      have hd : Agrees d := h (key, d) List.mem_cons_self
      have hrest := fun out => @ih (fun x hx => h x (List.mem_cons_of_mem _ hx)) out
      unfold strictEntries Json.visitEntries
      rw [Except.bind_eq_ok_iff, Except.bind_eq_ok_iff, List.map_cons, List.nodup_cons,
        List.forall_mem_cons, List.forall_mem_cons]
      constructor
      · rintro ⟨value, hvalue, hmore⟩
        obtain ⟨hfree, hmore⟩ := Except.ite_error_eq_ok_iff.mp hmore
        obtain ⟨hv, hdu⟩ := (hd value).mp hvalue
        obtain ⟨ho, ⟨hnd, hfresh⟩, hru⟩ := (hrest (out.insert key value)).mp hmore
        have hkey : key ∉ out.keys := by
          rw [← Map.get_eq_none_iff]
          simpa using hfree
        refine ⟨⟨value, hv, ho⟩, ⟨⟨?_, hnd⟩, hkey, ?_⟩, hdu, hru⟩
        · intro hmem
          obtain ⟨x, hx, hxkey⟩ := List.mem_map.mp hmem
          exact hfresh x hx (Map.mem_keys_insert.mpr (Or.inl hxkey))
        · intro x hx hmem
          exact hfresh x hx (Map.mem_keys_insert.mpr (Or.inr hmem))
      · rintro ⟨⟨value, hv, ho⟩, ⟨⟨hkeyrest, hnd⟩, hkey, hothers⟩, hdu, hru⟩
        refine ⟨value, (hd value).mpr ⟨hv, hdu⟩, Except.ite_error_eq_ok_iff.mpr ⟨?_, ?_⟩⟩
        · rw [Map.get_eq_none_iff.mpr hkey]
          simp
        · refine (hrest (out.insert key value)).mpr ⟨ho, ⟨hnd, ?_⟩, hru⟩
          intro x hx hmem
          rcases Map.mem_keys_insert.mp hmem with heq | hmem
          · exact hkeyrest (List.mem_map.mpr ⟨x, hx, heq⟩)
          · exact hothers x hx hmem

theorem visitStrict_ok_iff {d : Driven} {v : Value} :
    visitStrict d = .ok v ↔ Json.visitValue d = .ok v ∧ d.Unambiguous := by
  have hall : Agrees d := by
    induction d with
    | unit => exact agrees_scalar rfl (by simp) (by simp)
    | bool b => exact agrees_scalar rfl (by simp) (by simp)
    | i64 n => exact agrees_scalar rfl (by simp) (by simp)
    | u64 n => exact agrees_scalar rfl (by simp) (by simp)
    | f64 text => exact agrees_scalar rfl (by simp) (by simp)
    | str s => exact agrees_scalar rfl (by simp) (by simp)
    | broken error => exact agrees_scalar rfl (by simp) (by simp)
    | seq items ending ih =>
        intro v
        rw [Driven.unambiguous_seq]
        unfold visitStrict Json.visitValue
        rw [Except.bind_eq_ok_iff, Except.bind_eq_ok_iff]
        constructor
        · rintro ⟨values, hvalues, hdone⟩
          obtain ⟨hv, hu⟩ := (strictItems_ok_iff ih).mp hvalues
          exact ⟨⟨values, hv, hdone⟩, hu⟩
        · rintro ⟨⟨values, hv, hdone⟩, hu⟩
          exact ⟨values, (strictItems_ok_iff ih).mpr ⟨hv, hu⟩, hdone⟩
    | map entries ending ih =>
        intro v
        have hempty : ∀ e ∈ entries, e.1 ∉ Map.empty.keys := fun e _ => List.not_mem_nil
        rw [Driven.unambiguous_map]
        unfold visitStrict Json.visitValue
        rw [Except.bind_eq_ok_iff, Except.bind_eq_ok_iff]
        constructor
        · rintro ⟨out, hout, hdone⟩
          obtain ⟨hv, ⟨hnd, -⟩, hu⟩ := (strictEntries_ok_iff ih).mp hout
          exact ⟨⟨out, hv, hdone⟩, hnd, hu⟩
        · rintro ⟨⟨out, hv, hdone⟩, hnd, hu⟩
          exact ⟨out, (strictEntries_ok_iff ih).mpr ⟨hv, ⟨hnd, hempty⟩, hu⟩, hdone⟩
  exact hall v

/-- **Strict parsing refuses exactly the ambiguous documents.**  It reads what the generic
parser of `serde_json` reads, as the same value, unless an object at some depth has two members
whose names are equal once they are unescaped. -/
theorem strict_parse_iff [JsonReader] (text : String) (v : Value) :
    parseJsonRejectingDuplicateKeys text = .ok v ↔
      Json.readWith Json.visitValue (JsonReader.drive text) = .ok v ∧
      ∀ entries ending, Driven.Within (.map entries ending) (JsonReader.drive text).value →
        (entries.map Prod.fst).Nodup := by
  unfold parseJsonRejectingDuplicateKeys Json.readWith
  rw [Except.bind_eq_ok_iff, Except.bind_eq_ok_iff]
  constructor
  · rintro ⟨value, hvalue, hdone⟩
    obtain ⟨hv, hu⟩ := visitStrict_ok_iff.mp hvalue
    exact ⟨⟨value, hv, hdone⟩, hu⟩
  · rintro ⟨⟨value, hv, hdone⟩, hu⟩
    exact ⟨value, visitStrict_ok_iff.mpr ⟨hv, hu⟩, hdone⟩

/-! ### What must not be shipped -/

/-- The text says `s`: as a string, or as the name of a member, at any depth. -/
def Says (d : Driven) (s : String) : Prop :=
  Driven.Within (.str s) d ∨
    ∃ entries ending, Driven.Within (.map entries ending) d ∧ s ∈ entries.map Prod.fst

/-- What a text says is found in the text that its value is written out to. -/
private theorem rendered_of_said {d : Driven} {v : Value} (h : visitStrict d = .ok v)
    {s : String} (hs : Says d s) : Json.renderStr s <:+: v.tree.render := by
  obtain ⟨hread, hu⟩ := visitStrict_ok_iff.mp h
  rcases hs with hstr | ⟨entries, ending, hmap, hname⟩
  · obtain ⟨w, hw, hin⟩ := Json.visitValue_within hstr hread hu
    cases hw
    exact Json.render_within hin
  · obtain ⟨e, he, rfl⟩ := List.mem_map.mp hname
    obtain ⟨w, hw, hin⟩ := Json.visitValue_within hmap hread hu
    obtain ⟨members, htree, m, hm, hkey⟩ := Json.visitValue_names hw (hu _ _ hmap) he
    rw [htree] at hin
    rw [← hkey]
    exact (Json.renderStr_of_member hm).trans (Json.render_within hin)

/-- No marker has a character that is escaped. -/
private theorem plain_of_forbidden {marker : String × String} (hm : marker ∈ forbiddenMarkers) :
    ∀ c ∈ marker.1.toList, Json.escapeChar c = [c] := by
  have hall : (forbiddenMarkers.all fun marker =>
      marker.1.toList.all fun c => Json.escapeChar c = [c]) = true := by decide +kernel
  intro c hc
  have h := List.all_eq_true.mp (List.all_eq_true.mp hall marker hm) c hc
  exact of_decide_eq_true h

/-! ### The components -/

def isMecmcp (component : Value) : Bool :=
  (stringMember component "name").any fun name => "mecmcp-".toList.isPrefixOf name.toList

private theorem isMecmcp_eq (component : Value) :
    isMecmcp component = (mecmcpName component).isSome :=
  Option.isSome_filter.symm

private theorem foundMecmcp_eq_ok {components : List Value} {found : List (String × String)}
    (h : foundMecmcp components = .ok found) :
    (components.filter isMecmcp).map
        (fun c => (stringMember c "name", stringMember c "version"))
      = found.map fun pair => (some pair.1, some pair.2) := by
  induction components generalizing found with
  | nil =>
      cases h
      rfl
  | cons component rest ih =>
      unfold foundMecmcp at h
      cases hname : mecmcpName component with
      | none =>
          have hout : isMecmcp component = false := by
            rw [isMecmcp_eq, hname]
            rfl
          rw [hname] at h
          rw [List.filter_cons_of_neg (by rw [hout]; exact Bool.false_ne_true)]
          exact ih h
      | some name =>
          have hin : isMecmcp component = true := by
            rw [isMecmcp_eq, hname]
            rfl
          have hstring : stringMember component "name" = some name :=
            (Option.filter_eq_some_iff.mp hname).1
          rw [hname] at h
          cases hversion : stringMember component "version" with
          | none =>
              rw [hversion] at h
              cases h
          | some version =>
              rw [hversion] at h
              obtain ⟨read, hread, h⟩ := Except.bind_eq_ok_iff.mp h
              cases hread
              obtain ⟨others, hothers, h⟩ := Except.bind_eq_ok_iff.mp h
              cases h
              rw [List.filter_cons_of_pos hin, List.map_cons, List.map_cons, hstring, hversion,
                ih hothers]

/-- What the check asks of a text. -/
theorem validateSbomFile_eq_ok_iff [Crates] [JsonReader] {content : String} :
    validateSbomFile content = .ok () ↔ ∃ v components found,
      parseJsonRejectingDuplicateKeys content = .ok v ∧
      stringMember v "bomFormat" = some "CycloneDX" ∧
      ((v.get "metadata").bind fun m => (m.get "component").bind fun c => stringMember c "name")
        = some "rustsdcmcp" ∧
      (v.get "components").bind Value.asArray = some components ∧ components.isEmpty = false ∧
      (components.any fun c => stringMember c "name" = some "serde") = true ∧
      foundMecmcp components = .ok found ∧ sortPairs found = expectedMecmcpComponents ∧
      ∀ marker ∈ forbiddenMarkers,
        containsForbidden content (String.ofList v.tree.render) marker.1 = false := by
  constructor
  · intro h
    unfold validateSbomFile at h
    obtain ⟨v, hv, h⟩ := Except.bind_eq_ok_iff.mp h
    obtain ⟨hformat, h⟩ := Except.guard_bind_eq_ok_iff.mp h
    obtain ⟨hname, h⟩ := Except.guard_bind_eq_ok_iff.mp h
    cases hcomponents : (v.get "components").bind Value.asArray with
    | none =>
        rw [hcomponents] at h
        cases h
    | some components =>
        rw [hcomponents] at h
        obtain ⟨listed, hlisted, h⟩ := Except.bind_eq_ok_iff.mp h
        cases hlisted
        obtain ⟨hsome, h⟩ := Except.guard_bind_eq_ok_iff.mp h
        obtain ⟨hserde, h⟩ := Except.guard_bind_eq_ok_iff.mp h
        obtain ⟨found, hfound, h⟩ := Except.bind_eq_ok_iff.mp h
        obtain ⟨hsorted, h⟩ := Except.guard_bind_eq_ok_iff.mp h
        refine ⟨v, components, found, Except.mapError_eq_ok_iff.mp hv, not_not.mp hformat,
          not_not.mp hname, hcomponents, Bool.eq_false_iff.mpr hsome, by simpa using hserde,
          hfound, not_not.mp hsorted, ?_⟩
        intro marker hm
        have hpass := Except.forM_eq_ok_iff.mp h marker hm
        exact Bool.eq_false_iff.mpr (Except.ite_error_eq_ok_iff.mp hpass).1
  · rintro ⟨v, components, found, hv, hformat, hname, hcomponents, hsome, hserde, hfound,
      hsorted, hclean⟩
    unfold validateSbomFile
    refine Except.bind_eq_ok_iff.mpr ⟨v, Except.mapError_eq_ok_iff.mpr hv, ?_⟩
    refine Except.guard_bind_eq_ok_iff.mpr ⟨not_not.mpr hformat, ?_⟩
    refine Except.guard_bind_eq_ok_iff.mpr ⟨not_not.mpr hname, ?_⟩
    rw [hcomponents]
    refine Except.bind_eq_ok_iff.mpr ⟨components, rfl, ?_⟩
    refine Except.guard_bind_eq_ok_iff.mpr ⟨Bool.eq_false_iff.mp hsome, ?_⟩
    refine Except.guard_bind_eq_ok_iff.mpr ⟨by simpa using hserde, ?_⟩
    refine Except.bind_eq_ok_iff.mpr ⟨found, hfound, ?_⟩
    refine Except.guard_bind_eq_ok_iff.mpr ⟨not_not.mpr hsorted, ?_⟩
    refine Except.forM_eq_ok_iff.mpr fun marker hm => ?_
    exact Except.ite_error_eq_ok_iff.mpr ⟨Bool.eq_false_iff.mp (hclean marker hm), rfl⟩

/-- **An accepted SBOM ships nothing it must not.**  No string and no member name that the text
says, at any depth and however it is escaped, contains a marker, and the components named
`mecmcp-` are the expected ones, each once. -/
theorem accepted_sbom_clean [Crates] [JsonReader] (content : String)
    (h : validateSbomFile content = .ok ()) :
    (∀ s, Says (JsonReader.drive content).value s →
      ∀ marker ∈ forbiddenMarkers, ¬ marker.1.toList <:+: s.toList) ∧
    ∃ v components, parseJsonRejectingDuplicateKeys content = .ok v ∧
      (v.get "components").bind Value.asArray = some components ∧
      ((components.filter isMecmcp).map
        fun c => (stringMember c "name", stringMember c "version")).Perm
        (expectedMecmcpComponents.map fun pair => (some pair.1, some pair.2)) := by
  obtain ⟨v, components, found, hv, -, -, hcomponents, -, -, hfound, hsorted, hclean⟩ :=
    validateSbomFile_eq_ok_iff.mp h
  refine ⟨?_, v, components, hv, hcomponents, ?_⟩
  · intro s hs marker hm hinfix
    obtain ⟨value, hvalue, hdone⟩ := Except.bind_eq_ok_iff.mp hv
    obtain ⟨-, hdone⟩ := Except.check_bind_eq_ok_iff.mp hdone
    cases hdone
    have hrendered : marker.1.toList <:+: v.tree.render :=
      (Json.plain_within_renderStr (plain_of_forbidden hm) hinfix).trans
        (rendered_of_said hvalue hs)
    have hfree := hclean marker hm
    unfold containsForbidden at hfree
    rw [Bool.or_eq_false_iff, String.toList_ofList] at hfree
    exact Bool.eq_false_iff.mp hfree.2 (hasInfix_iff.mpr hrendered)
  · rw [foundMecmcp_eq_ok hfound, ← hsorted]
    exact (List.perm_insertionSort _ found).symm.map _

/-- The SBOM of a package with nothing but the expected components and `serde`. -/
private def shippedSbom : Driven :=
  .map [("bomFormat", .str "CycloneDX"),
    ("metadata", .map [("component", .map [("name", .str "rustsdcmcp")] .closed)] .closed),
    ("components", .seq ((("serde", "1.0.219") :: expectedMecmcpComponents).map fun pair =>
      .map [("name", .str pair.1), ("version", .str pair.2)] .closed) .closed)] .closed

private def shippedValue : Value := (visitStrict shippedSbom).toOption.getD Value.null

private def shippedComponents : List Value :=
  ((shippedValue.get "components").bind Value.asArray).getD []

private def shippedText : String := String.ofList shippedValue.tree.render

private abbrev shippedReader : JsonReader where
  drive text :=
    if text = shippedText then ⟨shippedSbom, .closed⟩
    else ⟨.broken (.tokens "expected value at line 1 column 1"), .closed⟩
  position _ := (1, 1)

private theorem sortPairs_expected : sortPairs expectedMecmcpComponents
    = expectedMecmcpComponents := by
  have hnames : expectedMecmcpComponents.Pairwise fun a b => a.1.toList < b.1.toList := by
    decide +kernel
  refine List.Pairwise.insertionSort_eq (hnames.imp ?_)
  intro a b hab
  exact Prod.Lex.toLex_le_toLex.mpr (Or.inl (String.lt_iff_toList_lt.mpr hab))

/-- Each marker has a character that the text does not have. -/
private theorem shippedText_free {marker : String × String} (hm : marker ∈ forbiddenMarkers) :
    containsForbidden shippedText shippedText marker.1 = false := by
  have hall : (forbiddenMarkers.all fun marker => marker.1.toList.any fun c =>
      !shippedValue.tree.render.contains c) = true := by decide +kernel
  obtain ⟨c, hc, hfree⟩ := List.any_eq_true.mp (List.all_eq_true.mp hall marker hm)
  have hnot : hasInfix marker.1.toList shippedText.toList = false := by
    refine Bool.eq_false_iff.mpr fun hinfix => ?_
    have hmem := (hasInfix_iff.mp hinfix).subset hc
    unfold shippedText at hmem
    rw [String.toList_ofList] at hmem
    simp [hmem] at hfree
  unfold containsForbidden
  rw [hnot]
  rfl

theorem shippedSbom_clean : ∃ (_ : Crates) (_ : JsonReader) (content : String),
    validateSbomFile content = .ok () ∧
    (∀ s, Says (JsonReader.drive content).value s →
      ∀ marker ∈ forbiddenMarkers, ¬ marker.1.toList <:+: s.toList) ∧
    ∃ v components, parseJsonRejectingDuplicateKeys content = .ok v ∧
      (v.get "components").bind Value.asArray = some components ∧
      ((components.filter isMecmcp).map
        fun c => (stringMember c "name", stringMember c "version")).Perm
        (expectedMecmcpComponents.map fun pair => (some pair.1, some pair.2)) := by
  have hdrive : shippedReader.drive shippedText = ⟨shippedSbom, .closed⟩ := if_pos rfl
  have hparse : @parseJsonRejectingDuplicateKeys shippedReader shippedText = .ok shippedValue := by
    unfold parseJsonRejectingDuplicateKeys
    rw [hdrive]
    rfl
  have hlisted : ((shippedValue.get "components").bind Value.asArray).isSome = true := by
    decide +kernel
  have hok : @validateSbomFile (Tables.crates ⟨[], []⟩) shippedReader shippedText = .ok () := by
    refine (@validateSbomFile_eq_ok_iff (Tables.crates ⟨[], []⟩) shippedReader _).mpr
      ⟨shippedValue, shippedComponents, expectedMecmcpComponents, hparse, by decide +kernel,
        by decide +kernel, ?_, by decide +kernel, by decide +kernel, by decide +kernel,
        sortPairs_expected, fun marker hm => shippedText_free hm⟩
    unfold shippedComponents
    rw [← @Option.get_eq_getD _ [] _ hlisted, Option.some_get hlisted]
  exact ⟨Tables.crates ⟨[], []⟩, shippedReader, shippedText, hok,
    @accepted_sbom_clean (Tables.crates ⟨[], []⟩) shippedReader shippedText hok⟩

end SdcMcp
