import ReviewDiagnostics.Proofs.PlannedValues

/-!
# What is found fault with

Apart from the findings that are never repaired, a finding has one of five causes: the value at its path is of
another kind than the form of the place, it is a blank text, a number below one or no severity, or a field is
missing that the form asks for.
-/

namespace ReviewDiagnostics

namespace Finding

/-- A finding that is not about the whole document, and of a kind that may be repaired. -/
def Treatable (f : Finding) : Prop :=
  f.path ≠ "" ∧ f.code ∉ [.unknownProperty, .oneofValidationFailed, .patternMismatch,
    .enumValidationFailed, .invalidRange]

/-- What a finding at a path blames, by the form of the place. -/
inductive Against (steps : List Segment) : Schema → Finding → Prop
  | kind {t : Schema} {k : Kind} {c : Document} (hkind : t.kind? = some k) (hother : c.kind? ≠ some k) :
    Against steps t (.expecting (Path.ofSegments steps) .typeMismatch c k.word)
  | blank {about : About} {text : String} (hblank : Text.allBlank text = true) :
    Against steps (.string about { TextLimits.none with minLength := some (.int 1) })
      (.expecting (Path.ofSegments steps) .emptyString (.string text) "non-empty string")
  | low {code : Code} {c : Document} {text : String}
    (hcode : code = .minValueViolation ∨ code = .invalidPosition) (hkind : c.kind? = some .number)
    (hless : c.less (.int 1) = true) :
    Against steps ReviewFormat.ordinal (.of (Path.ofSegments steps) code c (.string text) (.int 1))
  | severity {c : Document} (hother : Refinement.isSeverity c = false) : Against steps ReviewFormat.severity
      (.expecting (Path.ofSegments steps) .invalidSeverity c Refinement.severityText)
  | missing {base : List Segment} {code : Code} {u t : Schema} {name : String}
    (hcode : code ∈ [.requiredPropertyMissing, .missingDiagnosticMessage, .missingDiagnosticLocation])
    (hsteps : steps = base ++ [.name name]) (hu : u ∈ ReviewFormat.components)
    (hname : .string name ∈ u.required) (ht : Schema.property? u.properties name = some t)
    (hstart : name = "start" → Repair.parent? steps = some "range") :
    Against steps t (.expecting (Path.ofSegments steps) code .null (Conformity.missingText (some t)))

end Finding

namespace Proofs.Causes

open Conformity FormatParts Forms Origins PartEdits PathText PlannedValues Reconciliation Repair
  RepairRound ReviewFormat Separation WellTyped

variable {o : Options} {level : FixLevel} {s t u : Schema} {d c : Document} {step : Segment}
  {steps : List Segment} {f : Finding} {name : String}

theorem treatable_of_repair {w : List Segment × Document} (h : f.repair? level = some w) : f.Treatable := by
  obtain ⟨hread, hplan⟩ := repair?_eq_some_iff.mp h
  refine ⟨fun hroot => ?_, code_of_plan hplan⟩
  rw [hroot] at hread
  exact ne_nil_of_plan hplan (Except.ok.inj (hread.symm.trans parse_empty))

theorem not_idle_of_treatable (h : f.Treatable) : ¬ f.Idle := by
  rintro (hcode | hroot)
  · exact h.2 (by simp [hcode])
  · exact h.1 hroot

theorem path_of_against (h : f.Against steps t) : f.path = Path.ofSegments steps := by
  cases h <;> rfl

/-! ## Forms of places that the check comes to -/

private theorem eq_list_of_property? : ∀ u ∈ components, ∀ t,
    Schema.property? u.properties "diagnostics" = some t → t = diagnosticList := by
  simp only [components, List.forall_mem_cons, List.not_mem_nil, false_imp_iff, implies_true, and_true]
  and_intros <;> intro t h <;> first | exact (Option.some.inj h).symm | cases h

theorem part?_of_property? (hu : u ∈ components) (h : Schema.property? u.properties name = some t) :
    u.part? (.name name) = some t := by
  cases u with
  | object about required properties additional =>
      by_cases hname : name = "diagnostics"
      · subst hname
        rw [eq_list_of_property? _ hu t h, part?_list]
      · rw [part?_property hname]
        exact h
  | _ => cases h

theorem form?_of_leadsTo (hs : s.Throughout (· ∈ components)) (h : LeadsTo s d steps t c) :
    s.form? steps = some t := by
  induction h with
  | refl => rfl
  | property hp _ _ ih =>
      have hdistinct := (of_throughout (single_of_throughout_parts (throughout_parts hs))).2
      have hpart := part?_of_property? (of_throughout hs) (property?_of_mem hdistinct hp)
      exact (form?_cons hpart).trans (ih (throughout_property hs hp))
  | item _ _ ih => exact (form?_cons rfl).trans (ih (throughout_item hs))
  | alternative => exact (kind?_inner _ (of_throughout hs) rfl).elim

private theorem part?_diagnostic (hs : s ∈ [diagnostic, diagnosticArray, diagnosticResult])
    (h : s.part? step = some t) : diagnostic.part? step = some t := by
  simp only [List.mem_cons, List.not_mem_nil, or_false] at hs
  -- The forms share the source and the severity, and what is below a list of diagnostics.
  rcases hs with rfl | rfl | rfl
  · exact h
  · cases step with
    | name => cases h
    | index => exact h
  · cases step with
    | index => exact h
    | name name =>
        by_cases hlist : name = "diagnostics"
        · subst hlist
          exact h
        · rw [diagnosticResult, part?_property hlist] at h
          have hmem := mem_of_property? h
          simp only [List.mem_cons, List.not_mem_nil, or_false, Prod.mk.injEq] at hmem
          rcases hmem with ⟨rfl, rfl⟩ | ⟨rfl, rfl⟩ | ⟨rfl, rfl⟩
          · exact (hlist rfl).elim
          · rfl
          · rfl

theorem form?_diagnostic (hs : s ∈ [diagnostic, diagnosticArray, diagnosticResult]) (hsteps : steps ≠ [])
    (h : s.form? steps = some t) : diagnostic.form? steps = some t := by
  cases steps with
  | nil => exact (hsteps rfl).elim
  | cons step steps =>
      obtain ⟨u, hpart, hrest⟩ := exists_part?_of_form? h
      exact (form?_cons (part?_diagnostic hs hpart)).trans hrest

/-! ## Findings of the check -/

theorem eq_ordinal : ∀ u ∈ components, u.kind? = some .number → u = ordinal := by
  simp only [components, List.forall_mem_cons, List.not_mem_nil, false_imp_iff, implies_true, and_true,
    true_and]
  and_intros <;> intro h <;> cases h

private theorem isSome_of_range : ∀ u ∈ components, Schema.requires u.required "range" = true →
    (Schema.property? u.properties "range").isSome = true := by decide +kernel

theorem isSome_of_mem_required (hu : u ∈ components) (hname : .string name ∈ u.required) :
    (Schema.property? u.properties name).isSome = true := by
  rcases exists_filling_of_required u hu name hname with rfl | ⟨q, hq, rfl⟩
  · exact isSome_of_range u hu (requires_of_mem hname)
  · exact isSome_of_required u hu q hq (requires_of_mem hname)

private theorem ne_nil_of_path (hpath : f.path = Path.ofSegments steps) (hf : f.Treatable) : steps ≠ [] := by
  rintro rfl
  exact hf.1 hpath

/-- Whatever the check finds that may be repaired has one of the five causes. -/
theorem against_of_mem_check (hf : f ∈ (check o document "" d).errors) (htreatable : f.Treatable) :
    ∃ steps t, (∀ step ∈ steps, step.Plain) ∧ diagnostic.form? steps = some t ∧ f.Against steps t := by
  obtain ⟨s, hs, hjudged⟩ := Distance.exists_judged o d
  rw [hjudged] at hf
  have hinner := throughout_form hs
  have hnames := plainNames_of_throughout_inner hinner
  obtain ⟨steps, t, c, hleads, hreported⟩ := @exists_reported o s d [] f hnames hf
  rw [List.nil_append] at hreported
  have hplain := plain_of_leadsTo hnames hleads
  have ht := mem_inner_of_leadsTo hs hleads
  have hform := form?_of_leadsTo hinner hleads
  have hsingle := of_throughout (throughout_of_leadsTo
    (single_of_throughout_parts (throughout_parts hinner)) hleads)
  have hhere (hpath : f.path = Path.ofSegments steps) : diagnostic.form? steps = some t :=
    form?_diagnostic hs (ne_nil_of_path hpath htreatable) hform
  cases detected_of_reported hsingle hreported with
  | kind hkind hother => exact ⟨steps, t, hplain, hhere rfl, .kind hkind hother⟩
  | blank htext _ hblank =>
      subst htext
      exact ⟨steps, _, hplain, hhere rfl, .blank hblank⟩
  | low hnumber hc hless =>
      obtain rfl := eq_ordinal t ht (by rw [hnumber]; rfl)
      exact ⟨steps, _, hplain, hhere rfl, .low (.inl rfl) hc hless⟩
  | @missing _ _ properties _ _ name hobject hc hname =>
      subst hobject hc
      obtain ⟨_, heq, hplainName⟩ := (of_throughout (throughout_of_leadsTo hnames hleads)).1 _ hname
      obtain rfl := Document.string.inj heq
      obtain ⟨u, hu⟩ := Option.isSome_iff_exists.mp (isSome_of_mem_required ht hname)
      have hproperty : Schema.property? properties name = some u := hu
      refine ⟨steps ++ [.name name], u, plain_field hplain hplainName, form?_diagnostic hs (by simp)
        ((form?_concat hform).trans (part?_of_property? ht hu)), ?_⟩
      rw [← ofSegments_append, hproperty]
      refine .missing (by simp) rfl ht hname hu fun hstart => ?_
      subst hstart
      exact parent?_of_start hs hleads (requires_of_mem hname)
  | lasting hcode => exact (htreatable.2 hcode).elim

/-! ## Findings of the second look -/

/-- So has whatever the second look finds that may be repaired. -/
theorem against_of_mem_node (hf : f ∈ (Refinement.node "" d).errors) (htreatable : f.Treatable) :
    ∃ steps t, (∀ step ∈ steps, step.Plain) ∧ diagnostic.form? steps = some t ∧ f.Against steps t := by
  obtain ⟨steps, fields, t, hsteps, hslot, hform, hnoted⟩ := traced_node [] d hf
  rw [List.nil_append] at hnoted
  have hfield (name : String) {u : Schema} (hname : PlainName name) (hpart : t.part? (.name name) = some u)
      (hagainst : f.Against (steps ++ [.name name]) u) : ∃ steps t, (∀ step ∈ steps, step.Plain) ∧
        diagnostic.form? steps = some t ∧ f.Against steps t :=
    ⟨_, u, plain_field hsteps hname, (form?_concat hform).trans hpart, hagainst⟩
  have hdiagnostic : diagnostic ∈ components := List.mem_cons_self
  cases hnoted with
  | message =>
      rw [inField_ofSegments] at hfield ⊢
      exact hfield "message" (by decide) rfl
        (.missing (by simp) rfl hdiagnostic List.mem_cons_self rfl (by simp))
  | location =>
      rw [inField_ofSegments] at hfield ⊢
      exact hfield "location" (by decide) rfl
        (.missing (by simp) rfl hdiagnostic (List.mem_cons_of_mem _ List.mem_cons_self) rfl (by simp))
  | start => exact (htreatable.2 (by simp [Finding.expecting])).elim
  | ordinal hname hd hkind hless =>
      rw [inField_ofSegments] at hfield ⊢
      rcases hname with rfl | rfl
      · exact hfield "line" (by decide) rfl (.low (.inr rfl) hkind hless)
      · exact hfield "column" (by decide) rfl (.low (.inr rfl) hkind hless)
  | severity hd hother =>
      rw [inField_ofSegments] at hfield ⊢
      exact hfield "severity" (by decide) rfl (.severity hother)
  | list hd hother =>
      rw [inField_ofSegments] at hfield ⊢
      refine hfield "diagnostics" (by decide) rfl (.kind (k := .array) rfl fun hkind => ?_)
      obtain ⟨items, hitems⟩ := exists_items_of_kind? hkind
      exact hother items hitems

theorem against_of_mem_examine (hf : f ∈ (Validator.examine ⟨o, document⟩ d).errors)
    (htreatable : f.Treatable) :
    ∃ steps t, (∀ step ∈ steps, step.Plain) ∧ diagnostic.form? steps = some t ∧ f.Against steps t := by
  rw [Validator.examine] at hf
  split at hf
  · rename_i g hg
    obtain rfl := List.mem_singleton.mp hf
    exact (htreatable.1 (Addresses.blames_rejection hg).path).elim
  · rcases Merging.mem_mergeFindings.mp hf with ⟨hgeneric, -⟩ | hspecific
    · exact against_of_mem_check hgeneric htreatable
    · exact against_of_mem_node hspecific htreatable

end Proofs.Causes

end ReviewDiagnostics
