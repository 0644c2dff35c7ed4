import ReviewDiagnostics.Proofs.Reconciliation
import ReviewDiagnostics.Proofs.Strictness

/-!
# The order of fields

Fields are looked up by their names.  Where the order of fields shows is in the fields that a schema does
not declare, which are gone through as they stand in the document.  So documents that are equal up to the
order of fields are found fault with alike, and in the same order wherever no property is unknown.
-/

namespace ReviewDiagnostics

/-- Equal up to the order of fields, at every depth. -/
inductive Document.Reordered : Document → Document → Prop
  | refl (d : Document) : Reordered d d
  | array {items items' : List Document} (hlength : items.length = items'.length)
    (hitems : ∀ (i : Nat) (x y : Document), items[i]? = some x → items'[i]? = some y → Reordered x y) :
    Reordered (.array items) (.array items')
  | object {fields fields' : Fields} (hnames : (fields.map (·.1)).Perm (fields'.map (·.1)))
    (hfields : ∀ name x y, fields.get? name = some x → fields'.get? name = some y → Reordered x y) :
    Reordered (.object fields) (.object fields')

/-- What a finding says but for the value that it is about: the path, the code, what should be there and
the bound. -/
def Finding.gist (f : Finding) : String × Code × Document × Document := (f.path, f.code, f.expected, f.bound)

/-- A finding without the value that it is about and the message that quotes it. -/
def Finding.outline (f : Finding) : Finding := { f with message := "", value := .null }

/-- What a notice says: the path and the code. -/
def Notice.gist (n : Notice) : String × Code := (n.path, n.code)

/-- Outcomes that say the same but for values, in a comparison of lists. -/
abbrev Outcome.Alike (R : ∀ {α : Type}, List α → List α → Prop) (x y : Outcome) : Prop :=
  x.Matches (fun k l => R (k.map Finding.outline) (l.map Finding.outline))
    (fun k l => R (k.map Notice.gist) (l.map Notice.gist)) y

namespace Proofs.FieldOrder

open Comparison Conformity Origins Outcome Reconciliation

variable {o : Options} {s : Schema} {d d' : Document} {fields fields' : Fields} {path name : String}

/-! ## Documents -/

theorem kind?_of_reordered (h : d.Reordered d') : d.kind? = d'.kind? := by
  cases h <;> rfl

theorem first_of_reordered {items items' : List Document} (hlength : items.length = items'.length)
    (hitems : ∀ (i : Nat) (x y : Document), items[i]? = some x → items'[i]? = some y → x.Reordered y) :
    items = [] ∧ items' = [] ∨
      ∃ x rest y rest', items = x :: rest ∧ items' = y :: rest' ∧ x.Reordered y := by
  cases items with
  | nil => exact .inl ⟨rfl, List.eq_nil_of_length_eq_zero hlength.symm⟩
  | cons x rest =>
      cases items' with
      | nil => cases hlength
      | cons y rest' => exact .inr ⟨x, rest, y, rest', rfl, rfl, hitems 0 x y rfl rfl⟩

theorem reordered_of_perm (hnames : (fields.map (·.1)).Nodup) (h : fields.Perm fields') :
    (Document.object fields).Reordered (.object fields') := by
  refine .object (h.map (·.1)) fun name x y hx hy => ?_
  have hx := Addresses.mem_of_get? hx
  have hy := h.mem_iff.mpr (Addresses.mem_of_get? hy)
  obtain ⟨-, rfl⟩ := Prod.mk.inj (Addresses.eq_of_nodup_fst hnames hx hy rfl)
  exact .refl x

section

variable (h : (Document.object fields).Reordered (.object fields'))

include h

theorem names_of_reordered : (fields.map (·.1)).Perm (fields'.map (·.1)) := by
  cases h with
  | refl => exact .refl _
  | object hnames _ => exact hnames

theorem length_of_reordered : fields.length = fields'.length := by
  simpa using (names_of_reordered h).length_eq

theorem has_of_reordered : fields.has = fields'.has := by
  have hhas (l : Fields) (name : String) : l.has name = (l.map (·.1)).any (· == name) := by
    rw [List.any_map]
    rfl
  funext name
  rw [hhas, hhas, (names_of_reordered h).any_eq]

private theorem reordered_of_get? {x y : Document} (hx : fields.get? name = some x)
    (hy : fields'.get? name = some y) :
    x.Reordered y := by
  cases h with
  | refl =>
      obtain rfl := Option.some.inj (hx.symm.trans hy)
      exact .refl x
  | object _ hfields => exact hfields name x y hx hy

theorem get?_of_reordered (name : String) :
    (fields.get? name = none ∧ fields'.get? name = none) ∨
      ∃ x y, fields.get? name = some x ∧ fields'.get? name = some y ∧ x.Reordered y := by
  have hhas := congrFun (has_of_reordered h) name
  rw [Fields.has_eq_isSome_get?, Fields.has_eq_isSome_get?] at hhas
  cases hx : fields.get? name with
  | none =>
      rw [hx, Option.isSome_none] at hhas
      exact .inl ⟨rfl, Option.not_isSome_iff_eq_none.mp (by simp [← hhas])⟩
  | some x =>
      rw [hx, Option.isSome_some] at hhas
      obtain ⟨y, hy⟩ := Option.isSome_iff_exists.mp hhas.symm
      exact .inr ⟨x, y, rfl, hy, reordered_of_get? h hx hy⟩

theorem field_of_reordered (name : String) :
    (Document.field fields name).Reordered (Document.field fields' name) := by
  rw [Document.field, Document.field]
  obtain ⟨hx, hy⟩ | ⟨x, y, hx, hy, hvalues⟩ := get?_of_reordered h name
  · rw [hx, hy]
    exact .refl _
  · rw [hx, hy]
    exact hvalues

end

/-! ## Measures -/

theorem terms_of_reordered (s : Schema) (h : d.Reordered d') :
    Likelihood.terms s d = Likelihood.terms s d' := by
  induction s using Schema.induction generalizing d d' with
  | string | number | boolean | null =>
      rw [Likelihood.terms, Likelihood.terms, Schema.admitsKind, Schema.admitsKind, kind?_of_reordered h]
      all_goals simp
  | object about required properties additional ih =>
      cases h with
      | object hnames hfields =>
          have hobjects := Document.Reordered.object hnames hfields
          simp only [Likelihood.terms, Likelihood.requiredTerms, Likelihood.declaredTerms,
            Likelihood.signatureTerms, has_of_reordered hobjects, length_of_reordered hobjects]
      | _ => rfl
  | anyArray about =>
      cases h with
      | @array items items' => cases items <;> cases items' <;> rfl
      | _ => rfl
  | array about item ih =>
      cases h with
      | array hlength hitems =>
          obtain ⟨rfl, rfl⟩ | ⟨x, _, y, _, rfl, rfl, hfirst⟩ := first_of_reordered hlength hitems
          · rfl
          · rw [Likelihood.terms, Likelihood.terms, ih hfirst]
      | _ => rfl
  | oneOf about alternatives uri ih =>
      have hbest : Likelihood.best alternatives d = Likelihood.best alternatives d' := by
        induction alternatives with
        | nil => rfl
        | cons s alternatives hrest =>
            obtain ⟨hs, halternatives⟩ := List.forall_mem_cons.mp ih
            rw [Likelihood.best, Likelihood.best, hs h, hrest halternatives]
      rw [Likelihood.terms, Likelihood.terms, hbest]

theorem misnamed_of_reordered (s : Schema) (h : d.Reordered d') :
    Likelihood.misnamed s d = Likelihood.misnamed s d' := by
  induction s using Schema.induction generalizing d d' with
  | string | number | boolean | null => rfl
  | object about required properties additional ih => cases h <;> rfl
  | anyArray about =>
      cases h with
      | @array items items' => cases items <;> cases items' <;> rfl
      | _ => rfl
  | array about item ih =>
      cases h with
      | array hlength hitems =>
          obtain ⟨rfl, rfl⟩ | ⟨x, _, y, _, rfl, rfl, hfirst⟩ := first_of_reordered hlength hitems
          · rfl
          · exact ih hfirst
      | _ => rfl
  | oneOf about alternatives uri ih =>
      rw [Likelihood.misnamed, Likelihood.misnamed, Choice.misnamedAny_eq_any, Choice.misnamedAny_eq_any,
        Bool.eq_iff_iff, List.any_eq_true, List.any_eq_true]
      exact exists_congr fun t => and_congr_right fun ht => by rw [ih t ht h]

private theorem closeness_of_reordered (s : Schema) (codes : List Code) (h : d.Reordered d') :
    Closeness.score s d codes = Closeness.score s d' codes := by
  simp only [Closeness.score, Closeness.terms, Schema.admitsKind, kind?_of_reordered h]
  cases s with
  | object about required properties additional =>
      cases h with
      | object hnames hfields =>
          simp only [Closeness.fieldTerms, Closeness.diagnosticShaped,
            has_of_reordered (.object hnames hfields)]
          rfl
      | _ => rfl
  | _ => rfl

theorem measuresAlike_of_reordered (h : d.Reordered d') : d.MeasuresAlike d' where
  misnamed := fun s => misnamed_of_reordered s h
  likelihood := fun s => by rw [Likelihood.score, Likelihood.score, terms_of_reordered s h]
  closeness := fun s codes => closeness_of_reordered s codes h

/-! ## The check -/

theorem checkRequired_of_reordered {properties : List (String × Schema)}
    (h : (Document.object fields).Reordered (.object fields')) :
    checkRequired path fields properties = checkRequired path fields' properties := by
  funext name
  cases name with
  | string name => rw [checkRequired, checkRequired, has_of_reordered h]
  | _ => rfl

section

variable {R : ∀ {α : Type}, List α → List α → Prop} (hR : ∀ {α : Type}, Compares (@R α))

include hR

theorem alike_refl (x : Outcome) : x.Alike R x :=
  matches_refl (compares_map hR _) (compares_map hR _) x

theorem alike_append {a b x y : Outcome} (hax : a.Alike R x) (hby : b.Alike R y) :
    (a ++ b).Alike R (x ++ y) :=
  matches_append (compares_map hR _) (compares_map hR _) hax hby

theorem alike_ofError {f g : Finding} (h : f.outline = g.outline) : (ofError f).Alike R (ofError g) :=
  matches_ofError (compares_map hR _) (by rw [List.map_singleton, List.map_singleton, h]; exact hR.refl _)

theorem alike_mismatch (path : String) (d d' : Document) (kind : Kind) :
    (mismatch path d kind).Alike R (mismatch path d' kind) := alike_ofError hR rfl

theorem alike_check {P : Schema → Prop} (hperm : ∀ {α : Type} {k l : List α}, R k l → k.Perm l)
    (hunknown : ∀ {about required properties additional fields fields'} (path : String),
      P (.object about required properties additional) →
      (Document.object fields).Reordered (.object fields') →
      (checkUnknown path fields properties additional o).Alike R
        (checkUnknown path fields' properties additional o))
    (hs : s.Throughout P) (h : d.Reordered d') (path : String) :
    (check o s path d).Alike R (check o s path d') := by
  induction s using Schema.induction generalizing path d d' with
  | string | number | boolean | null | anyArray =>
      cases h with
      | refl => exact alike_refl hR _
      | _ => first | exact alike_mismatch hR _ _ _ _ | exact alike_refl hR _
  | object about required properties additional ih =>
      cases h with
      | refl => exact alike_refl hR _
      | array => exact alike_mismatch hR _ _ _ _
      | @object fields fields' hnames hfields =>
          have hobjects := Document.Reordered.object hnames hfields
          have hproperties : ∀ p ∈ properties,
              (checkProperty o path fields p).Alike R (checkProperty o path fields' p) := by
            intro p hp
            rw [checkProperty, checkProperty]
            obtain ⟨hx, hy⟩ | ⟨x, y, hx, hy, hvalues⟩ := get?_of_reordered hobjects p.1
            · rw [hx, hy]
              exact alike_refl hR _
            · rw [hx, hy]
              exact ih p hp (throughout_property hs hp) hvalues _
          rw [check_object_eq, check_object_eq,
            checkRequired_of_reordered hobjects]
          refine alike_append hR (alike_refl hR _) (alike_append hR ?_ ?_)
          · exact join_map (alike_refl hR _) (alike_append hR) hproperties
          · exact hunknown path (of_throughout hs) hobjects
  | array about item ih =>
      cases h with
      | refl => exact alike_refl hR _
      | object => exact alike_mismatch hR _ _ _ _
      | array hlength hitems =>
          rw [check, check]
          refine join_mapIdx (alike_refl hR _) (alike_append hR) hlength fun i x y hx hy => ?_
          exact ih (throughout_item hs) (hitems i x y hx hy) _
  | oneOf about alternatives uri ih =>
      rw [check_oneOf_eq, check_oneOf_eq]
      refine matches_choose (compares_map hR _) (compares_map hR _) ?codes (measuresAlike_of_reordered h)
        (hR.refl _) fun t ht => ih t ht (throughout_alternative hs ht) h path
      case codes =>
        intro k l hkl
        have hcodes := (hperm hkl).map (·.code)
        simpa only [List.map_map, Function.comp_def, Finding.outline] using hcodes

end

/-! ## Properties that are not declared -/

section

variable {properties : List (String × Schema)}

theorem alike_checkUnknown {additional : Bool} (h : (Document.object fields).Reordered (.object fields')) :
    (checkUnknown path fields properties additional o).Alike List.Perm
      (checkUnknown path fields' properties additional o) := by
  have hundeclared := (names_of_reordered h).filter fun name => (Schema.property? properties name).isNone
  rw [List.filter_map, List.filter_map] at hundeclared
  refine ⟨?errors, ?warnings, by rw [WellTyped.fault_checkUnknown, WellTyped.fault_checkUnknown]⟩
  all_goals
    rw [checkUnknown, checkUnknown]
    split
    · exact .refl _
  case errors =>
    have hfindings := hundeclared.flatMap_right fun name =>
      if o.strict then [Finding.outline (.expecting (Path.join path (.name name)) .unknownProperty .null
        "property not present")] else []
    rw [List.flatMap_map, List.flatMap_map] at hfindings
    rw [errors_join, errors_join, List.flatMap_map, List.flatMap_map, List.map_flatMap, List.map_flatMap]
    obtain ⟨strict, extra⟩ := o
    cases strict <;> exact hfindings
  case warnings =>
    have hnotices := hundeclared.flatMap_right fun name =>
      if o.strict then [] else [(Path.join path (.name name), Code.unknownProperty)]
    rw [List.flatMap_map, List.flatMap_map] at hnotices
    rw [warnings_join, warnings_join, List.flatMap_map, List.flatMap_map, List.map_flatMap, List.map_flatMap]
    obtain ⟨strict, extra⟩ := o
    cases strict <;> exact hnotices

end

/-! ## The second look -/

section

open Refinement

theorem shaped_of_reordered (h : (Document.object fields).Reordered (.object fields')) :
    Closeness.diagnosticShaped fields = Closeness.diagnosticShaped fields' := by
  simp only [Closeness.diagnosticShaped, has_of_reordered h]

theorem alike_severity (h : (Document.object fields).Reordered (.object fields')) (path : String) :
    (severity path fields).Alike Eq (severity path fields') := by
  rw [severity, severity]
  obtain ⟨hx, hy⟩ | ⟨x, y, hx, hy, hvalues⟩ := get?_of_reordered h "severity"
  · rw [hx, hy]
    exact alike_refl compares_eq _
  · have hsame : isSeverity x = isSeverity y := by cases hvalues <;> rfl
    rw [hx, hy]
    dsimp only
    rw [hsame]
    split
    · exact alike_refl compares_eq _
    · exact alike_ofError compares_eq rfl

theorem alike_ordinal (h : (Document.object fields).Reordered (.object fields')) (path name : String) :
    (ordinal path fields name).Alike Eq (ordinal path fields' name) := by
  rw [ordinal, ordinal]
  obtain ⟨hx, hy⟩ | ⟨x, y, hx, hy, hvalues⟩ := get?_of_reordered h name
  · rw [hx, hy]
    exact alike_refl compares_eq _
  · rw [hx, hy]
    cases hvalues <;> exact alike_refl compares_eq _

theorem alike_position (h : d.Reordered d') (path : String) :
    (position path d).Alike Eq (position path d') := by
  cases h with
  | refl | array => exact alike_refl compares_eq _
  | object hnames hfields =>
      have hobjects := Document.Reordered.object hnames hfields
      exact alike_append compares_eq (alike_ordinal hobjects _ _) (alike_ordinal hobjects _ _)

theorem alike_range (h : d.Reordered d') (path : String) : (range path d).Alike Eq (range path d') := by
  cases h with
  | refl | array => exact alike_refl compares_eq _
  | @object fields fields' hnames hfields =>
      have hobjects := Document.Reordered.object hnames hfields
      rw [range, range]
      refine alike_append compares_eq ?_ (alike_position (field_of_reordered hobjects _) _)
      obtain ⟨hx, hy⟩ | ⟨x, y, hx, hy, hvalues⟩ := get?_of_reordered hobjects "start"
      · rw [hx, hy]
        exact alike_refl compares_eq _
      · rw [hx, hy]
        exact alike_position hvalues _

theorem alike_location (h : d.Reordered d') (path : String) :
    (location path d).Alike Eq (location path d') := by
  cases h with
  | refl | array => exact alike_refl compares_eq _
  | object hnames hfields => exact alike_range (field_of_reordered (.object hnames hfields) _) _

theorem alike_diagnostic (h : (Document.object fields).Reordered (.object fields')) (path : String) :
    (diagnostic path fields).Alike Eq (diagnostic path fields') := by
  rw [diagnostic, diagnostic, has_of_reordered h]
  refine alike_append compares_eq (alike_refl compares_eq _)
    (alike_append compares_eq ?_ (alike_severity h path))
  obtain ⟨hx, hy⟩ | ⟨x, y, hx, hy, hvalues⟩ := get?_of_reordered h "location"
  · rw [hx, hy]
    exact alike_refl compares_eq _
  · rw [hx, hy]
    exact alike_location hvalues _

private theorem alike_item (h : d.Reordered d') (path : String) : (item path d).Alike Eq (item path d') := by
  cases h with
  | refl | array => exact alike_refl compares_eq _
  | object hnames hfields =>
      have hobjects := Document.Reordered.object hnames hfields
      rw [item, item, shaped_of_reordered hobjects]
      split
      · exact alike_diagnostic hobjects path
      · exact alike_refl compares_eq _

/-- The second look goes from a result to the items of its list, so that what is shown of a document is
shown of the list as the list of a result, too. -/
theorem alike_node_and_list (h : d.Reordered d') :
    (∀ path, (node path d).Alike Eq (node path d')) ∧
      ∀ path, (SecondLook.lookAtList path (some d)).Alike Eq (SecondLook.lookAtList path (some d')) := by
  induction h with
  | refl d => exact ⟨fun _ => alike_refl compares_eq _, fun _ => alike_refl compares_eq _⟩
  | @array items items' hlength hitems ih =>
      refine ⟨fun path => ?_, fun path => ?_⟩
      · rw [node, node]
        exact join_mapIdx (alike_refl compares_eq _) (alike_append compares_eq) hlength
          fun i x y hx hy => alike_item (hitems i x y hx hy) _
      · obtain ⟨rfl, rfl⟩ | ⟨x, _, y, _, rfl, rfl, -⟩ := first_of_reordered hlength hitems
        · exact alike_refl compares_eq _
        · rw [SecondLook.lookAtList_cons, SecondLook.lookAtList_cons, nodes_eq_join, nodes_eq_join]
          exact join_mapIdx (alike_refl compares_eq _) (alike_append compares_eq) hlength
            fun i x y hx hy => (ih i x y hx hy).1 _
  | @object fields fields' hnames hfields ih =>
      have hobjects := Document.Reordered.object hnames hfields
      refine ⟨fun path => ?_, fun path => alike_ofError compares_eq rfl⟩
      rw [node, node, shaped_of_reordered hobjects, has_of_reordered hobjects]
      split
      · exact alike_diagnostic hobjects path
      · split
        · refine alike_append compares_eq ?_ (alike_severity hobjects path)
          rw [SecondLook.listIn_eq_lookAtList, SecondLook.listIn_eq_lookAtList]
          obtain ⟨hx, hy⟩ | ⟨x, y, hx, hy, -⟩ := get?_of_reordered hobjects "diagnostics"
          · rw [hx, hy]
            exact alike_refl compares_eq _
          · rw [hx, hy]
            exact (ih _ x y hx hy).2 _
        · exact alike_refl compares_eq _

end

/-! ## Verdicts -/

theorem rejection?_of_reordered (h : d.Reordered d') : Validator.rejection? d = Validator.rejection? d' := by
  cases h with
  | refl => rfl
  | array hlength hitems =>
      obtain ⟨rfl, rfl⟩ | ⟨x, _, y, _, rfl, rfl, -⟩ := first_of_reordered hlength hitems <;> rfl
  | @object fields fields' hnames _ =>
      have hlength := hnames.length_eq
      cases fields <;> cases fields' <;> first | rfl | cases hlength

private theorem outlines_mergeFindings {R : ∀ {α : Type}, List α → List α → Prop}
    (hmerge : ∀ {k l specific : List Finding}, R k l → R (mergeFindings k specific) (mergeFindings l specific))
    {generic generic' specific specific' : List Finding}
    (hgeneric : R (generic.map Finding.outline) (generic'.map Finding.outline))
    (hspecific : specific.map Finding.outline = specific'.map Finding.outline) :
    R ((mergeFindings generic specific).map Finding.outline)
      ((mergeFindings generic' specific').map Finding.outline) := by
  have hmap := @Merging.mergeFindings_map Finding.outline fun _ _ => rfl
  rw [← hmap, ← hmap, hspecific]
  exact hmerge hgeneric

theorem gists_of_alike {R : ∀ {α : Type}, List α → List α → Prop} (hR : ∀ {α : Type}, Compares (@R α))
    (hmap : ∀ {α β : Type} {k l : List α} (f : α → β), R k l → R (k.map f) (l.map f))
    (hmerge : ∀ {k l specific : List Finding}, R k l → R (mergeFindings k specific) (mergeFindings l specific))
    (h : d.Reordered d') (hcheck : (check o ReviewFormat.document "" d).Alike R
      (check o ReviewFormat.document "" d')) :
    ∃ v w, Validator.validate ⟨o, ReviewFormat.document⟩ d = .ok v ∧
      Validator.validate ⟨o, ReviewFormat.document⟩ d' = .ok w ∧
      R (v.errors.map Finding.gist) (w.errors.map Finding.gist) ∧
      R (v.warnings.map Notice.gist) (w.warnings.map Notice.gist) := by
  cases hrejected : Validator.rejection? d with
  | some f =>
      have hrejected' := rejection?_of_reordered h ▸ hrejected
      refine ⟨⟨[f], []⟩, ⟨[f], []⟩, ?_, ?_, hR.refl _, hR.refl _⟩
      · rw [Validator.validate, Validator.examine, hrejected]
        rfl
      · rw [Validator.validate, Validator.examine, hrejected']
        rfl
  | none =>
      have hadmitted := rejection?_of_reordered h ▸ hrejected
      have hlook := (alike_node_and_list h).1 ""
      refine ⟨_, _, Agreement.validate_eq hrejected, Agreement.validate_eq hadmitted, ?_, ?_⟩
      · have houtlines := hmap Finding.gist (outlines_mergeFindings hmerge hcheck.errors hlook.errors)
        rw [List.map_map, List.map_map] at houtlines
        exact houtlines
      · rw [List.map_append, List.map_append]
        refine hR.append hcheck.warnings ?_
        rw [hlook.warnings]
        exact hR.refl _

/-- The order of fields does not matter.  Documents that are equal up to the order of fields have the same
verdict, with the same errors and notices up to their order, and in the same order if fields that are not
declared are let pass. -/
theorem verdict_of_reordered (o : Options) {d d' : Document} (h : d.Reordered d') :
    ∃ v w, Validator.validate ⟨o, ReviewFormat.document⟩ d = .ok v ∧
      Validator.validate ⟨o, ReviewFormat.document⟩ d' = .ok w ∧ v.valid = w.valid ∧
      (o.allowExtra = true → v.errors.map Finding.gist = w.errors.map Finding.gist ∧
        v.warnings.map Notice.gist = w.warnings.map Notice.gist) ∧
      (v.errors.map Finding.gist).Perm (w.errors.map Finding.gist) ∧
      (v.warnings.map Notice.gist).Perm (w.warnings.map Notice.gist) := by
  have hcheck := alike_check (R := List.Perm) compares_perm id (fun _ _ hfields => alike_checkUnknown hfields)
    FormatParts.throughout_document h "" (o := o)
  obtain ⟨v, w, hv, hw, herrors, hwarnings⟩ := gists_of_alike compares_perm (fun f hkl => hkl.map f)
    Merging.mergeFindings_perm_of_perm h hcheck
  have hvalid : v.valid = w.valid := by
    have hempty := herrors.isEmpty_eq
    rwa [List.isEmpty_map, List.isEmpty_map] at hempty
  refine ⟨v, w, hv, hw, hvalid, fun hextra => ?_, herrors, hwarnings⟩
  have hcheck := alike_check (R := Eq) compares_eq (fun hkl => .of_eq hkl) (fun path hpass _ => ?same)
    Strictness.letsPass_document h "" (o := o)
  case same =>
    rw [Strictness.checkUnknown_of_letsPass hextra hpass, Strictness.checkUnknown_of_letsPass hextra hpass]
    exact alike_refl compares_eq _
  obtain ⟨v', w', hv', hw', heq⟩ := gists_of_alike compares_eq (fun f hkl => congrArg (List.map f) hkl)
    (fun hkl => by rw [hkl]) h hcheck
  rw [Except.ok.inj (hv.symm.trans hv'), Except.ok.inj (hw.symm.trans hw')]
  exact heq

/-- A diagnostic without a location whose fields are swapped, in a list. -/
theorem verdict_of_swapped_fields :
    (Document.array [.object [("message", .string "m"), ("note", .null)]]).Reordered
      (.array [.object [("note", .null), ("message", .string "m")]]) ∧
    ∃ v w, Validator.validate Validator.standard
        (.array [.object [("message", .string "m"), ("note", .null)]]) = .ok v ∧
      Validator.validate Validator.standard
        (.array [.object [("note", .null), ("message", .string "m")]]) = .ok w ∧ v.valid = w.valid ∧
      v.errors.map Finding.gist = w.errors.map Finding.gist := by
  have hitem : (Document.object [("message", .string "m"), ("note", .null)]).Reordered
      (.object [("note", .null), ("message", .string "m")]) := reordered_of_perm (by decide) (.swap ..)
  have hlist : (Document.array [.object [("message", .string "m"), ("note", .null)]]).Reordered
      (.array [.object [("note", .null), ("message", .string "m")]]) := by
    refine .array rfl fun i x y hx hy => ?_
    cases i with
    | zero => exact Option.some.inj hx ▸ Option.some.inj hy ▸ hitem
    | succ i => cases hx
  obtain ⟨v, w, hv, hw, hvalid, hsame, -, -⟩ := verdict_of_reordered .standard hlist
  exact ⟨hlist, v, w, hv, hw, hvalid, (hsame rfl).1⟩

end Proofs.FieldOrder

end ReviewDiagnostics
