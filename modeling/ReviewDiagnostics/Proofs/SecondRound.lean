import ReviewDiagnostics.Proofs.Passes
import ReviewDiagnostics.Proofs.PlannedValues
import ReviewDiagnostics.Proofs.ResultKept

/-!
# A second round

A round that leaves nothing over has repaired everything that was found.  If every value that it puts in
suits the form that the document is judged by, nothing is wrong with the document any more, and a second
round has nothing to do.  That is so where no value was of a wrong kind and no range was missing.  The empty
object that is put in the place of a number among diagnostics does not suit: a diagnostic has a message and
a location, which the second round goes on to add.
-/

namespace ReviewDiagnostics

/-- What is written into a value is planned for what either look finds there, and something is written for
everything that the second look finds there. -/
structure Resolved (o : Options) (level : FixLevel) (s : Schema) (base : List Segment) (d : Document)
    (writes : List (List Segment × Document)) : Prop where
  planned : ∀ w ∈ writes, ∃ f, (f ∈ (Conformity.check o s (Path.ofSegments base) d).errors ∨
    f ∈ (Refinement.node (Path.ofSegments base) d).errors) ∧
      f.repair? level = some (base ++ w.1, w.2)
  complete : ∀ f ∈ (Refinement.node (Path.ofSegments base) d).errors,
    ∃ w ∈ writes, f.repair? level = some (base ++ w.1, w.2)

namespace Proofs.SecondRound

open Conformance Conformity FormatParts NodeRepairs Origins PartEdits PathText PlannedValues
  Reconciliation Repair RepairRound ReviewFormat Rounds SecondLook Separation Slots WellTyped

variable {o : Options} {level : FixLevel} {s : Schema} {d d' c x y : Document} {base rest : List Segment}
  {step other : Segment} {f : Finding} {fields : Fields} {items : List Document} {i : Nat} {name : String}
  {writes : List (List Segment × Document)} {value : Document}

/-! ## Findings by the places of their repairs -/

theorem not_idle_of_repair {w : List Segment × Document} (h : f.repair? level = some w) : ¬ f.Idle :=
  not_idle_of_fixable (fixable_iff.mpr ⟨_, _, h⟩)

theorem not_under_of_repair_here (hrepair : f.repair? level = some (base, value)) :
    ¬ Under (base ++ [step]) f := by
  intro hunder
  obtain ⟨tail, htail⟩ := steps_of_under hunder hrepair
  simp at htail

section

variable {about : About} {required : List Document} {properties : List (String × Schema)}
  {additional : Bool}
  (hs : (Schema.object about required properties additional).PlainNames)
  (hbase : ∀ step ∈ base, step.Plain)
  (hf : f ∈ (check o (.object about required properties additional) (Path.ofSegments base)
    (.object fields)).errors)

include hs hbase hf

theorem exists_property_of_repair (hc : fields.get? name = some c)
    (hrepair : f.repair? level = some (base ++ .name name :: rest, value)) :
    ∃ s, (name, s) ∈ properties ∧
      f ∈ (check o s (Path.ofSegments (base ++ [.name name])) c).errors := by
  rcases mem_errors_object hs hf with
    hunknown | ⟨missing, -, hplain, hfield, rfl⟩ | ⟨p, hp, c', hc', hf⟩
  · exact (not_idle_of_repair hrepair (.inl hunknown)).elim
  · have hstep := step_eq_of_under (under_here (plain_field hbase hplain) rfl) hrepair
    rw [Segment.name.inj hstep, Fields.has_eq_isSome_get?, hc] at hfield
    contradiction
  · rcases idle_or_under_of_check (throughout_property hs hp)
      (plain_field hbase ((of_throughout hs).2 p hp)) hf with hidle | hunder
    · exact (not_idle_of_repair hrepair hidle).elim
    · obtain ⟨property, s⟩ := p
      obtain rfl : property = name := Segment.name.inj (step_eq_of_under hunder hrepair)
      obtain rfl := Option.some.inj (hc'.symm.trans hc)
      exact ⟨s, hp, hf⟩

theorem not_repair_here : f.repair? level ≠ some (base, value) := by
  intro hrepair
  rcases mem_errors_object hs hf with hunknown | ⟨missing, -, hplain, -, rfl⟩ | ⟨p, hp, c, -, hf⟩
  · exact not_idle_of_repair hrepair (.inl hunknown)
  · exact not_under_of_repair_here hrepair (under_here (plain_field hbase hplain) rfl)
  · rcases idle_or_under_of_check (throughout_property hs hp)
      (plain_field hbase ((of_throughout hs).2 p hp)) hf with hidle | hunder
    · exact not_idle_of_repair hrepair hidle
    · exact not_under_of_repair_here hrepair hunder

end

theorem exists_item_of_repair {look : Nat → Document → Outcome}
    (hlook : ∀ i x, ∀ f ∈ (look i x).errors, f.Idle ∨ Under (base ++ [.index i]) f)
    (hf : f ∈ (Outcome.join (items.mapIdx look)).errors) (hx : items[i]? = some x)
    (hrepair : f.repair? level = some (base ++ .index i :: rest, value)) : f ∈ (look i x).errors := by
  obtain ⟨j, hj, hf⟩ := Outcome.mem_errors_join_mapIdx.mp hf
  have hunder := (hlook _ _ f hf).resolve_left (not_idle_of_repair hrepair)
  obtain rfl : j = i := Decidable.byContradiction fun hne =>
    index_ne hne (step_eq_of_under hunder hrepair)
  obtain ⟨hi, rfl⟩ := List.getElem?_eq_some_iff.mp hx
  exact hf

/-! ## The second look at an object with a list -/

theorem errors_node_of_list {path : String} (hc : fields.get? "diagnostics" = some c) :
    (Refinement.node path (.object fields)).errors = (resultParts path fields).flatMap (·.2) := by
  have hlist := has_of_get? hc
  have hshaped : ¬ Closeness.diagnosticShaped fields = true := fun hshaped => by
    rw [has_diagnostics_of_diagnosticShaped hshaped] at hlist
    contradiction
  rw [Refinement.node, if_neg hshaped, if_pos hlist, errors_result]

theorem mem_listIn_of_repair (hbase : ∀ step ∈ base, step.Plain)
    (hc : fields.get? "diagnostics" = some c)
    (hf : f ∈ (Refinement.node (Path.ofSegments base) (.object fields)).errors)
    (hrepair : f.repair? level = some (base ++ .name "diagnostics" :: rest, value)) :
    f ∈ (Refinement.listIn (Path.ofSegments (base ++ [.name "diagnostics"])) fields).errors := by
  rw [errors_node_of_list hc, List.mem_flatMap] at hf
  obtain ⟨part, hpart, hf⟩ := hf
  have hstep := step_eq_of_under (belowFields_result hbase part hpart f hf) hrepair
  simp only [resultParts, List.mem_cons, List.not_mem_nil, or_false] at hpart
  rcases hpart with rfl | rfl
  · rwa [inField_ofSegments] at hf
  · exact absurd (show "severity" = "diagnostics" from Segment.name.inj hstep) (by decide)

theorem mem_node_of_listIn (hc : fields.get? "diagnostics" = some c)
    (hf : f ∈ (Refinement.listIn (Path.ofSegments (base ++ [.name "diagnostics"])) fields).errors) :
    f ∈ (Refinement.node (Path.ofSegments base) (.object fields)).errors := by
  rw [errors_node_of_list hc, List.mem_flatMap]
  refine ⟨_, List.mem_cons_self, ?_⟩
  rwa [inField_ofSegments]

private theorem under_of_nodes_item (hbase : ∀ step ∈ base, step.Plain) {x : Document}
    (hf : f ∈ (Refinement.node (Path.join (Path.ofSegments base) (.index i)) x).errors) :
    Under (base ++ [.index i]) f := by
  rw [← ofSegments_append] at hf
  exact under_of_traced (plain_item hbase i) (traced_node _ _ hf)

theorem mem_item_of_repair (hbase : ∀ step ∈ base, step.Plain)
    (hc : fields.get? "diagnostics" = some (.array items)) (hx : items[i]? = some x)
    (hf : f ∈ (Refinement.listIn (Path.ofSegments base) fields).errors)
    (hrepair : f.repair? level = some (base ++ .index i :: rest, value)) :
    f ∈ (Refinement.node (Path.ofSegments (base ++ [.index i])) x).errors := by
  rw [errors_listIn_of_list hc, nodes_eq_join] at hf
  simp only [Nat.zero_add] at hf
  rw [ofSegments_append]
  refine exists_item_of_repair ?_ hf hx hrepair
  exact fun j y g hg => .inr (under_of_nodes_item hbase hg)

theorem mem_listIn_of_item (hc : fields.get? "diagnostics" = some (.array items))
    (hx : items[i]? = some x)
    (hf : f ∈ (Refinement.node (Path.ofSegments (base ++ [.index i])) x).errors) :
    f ∈ (Refinement.listIn (Path.ofSegments base) fields).errors := by
  obtain ⟨hi, rfl⟩ := List.getElem?_eq_some_iff.mp hx
  rw [ofSegments_append] at hf
  rw [errors_listIn_of_list hc, nodes_eq_join]
  simp only [Nat.zero_add]
  exact Outcome.mem_errors_join_mapIdx.mpr ⟨i, hi, hf⟩

/-! ## Parts of what is repaired -/

section

variable (hbase : ∀ step ∈ base, step.Plain)

include hbase

theorem repairs_list (hc : fields.get? "diagnostics" = some c)
    (h : Resolved o level diagnostic base (.object fields) writes) :
    RepairsOf level (base ++ [.name "diagnostics"])
      (Refinement.listIn (Path.ofSegments (base ++ [.name "diagnostics"])) fields).errors
      (below (.name "diagnostics") writes) where
  planned := by
    rintro ⟨rest, v⟩ hw
    obtain ⟨f, hf, hrepair⟩ := h.planned _ (mem_below.mp hw)
    refine ⟨f, ?_, by rw [hrepair, List.append_assoc]; rfl⟩
    rcases hf with hf | hf
    · obtain ⟨s, hs, -⟩ := exists_property_of_repair
        (plainNames_component diagnostic (by simp [components])) hbase hf hc hrepair
      simp at hs
    · exact mem_listIn_of_repair hbase hc hf hrepair
  complete := fun f hf => exists_repair_below (under_of_listIn hbase hf)
    (h.complete f (mem_node_of_listIn hc hf))

omit hbase in
theorem resolved_item (hc : fields.get? "diagnostics" = some (.array items)) (hx : items[i]? = some x)
    (h : Resolved o level diagnosticResult [] (.object fields) writes) :
    Resolved o level diagnostic [.name "diagnostics", .index i] x
      (below (.index i) (below (.name "diagnostics") writes)) where
  planned := by
    rintro ⟨rest, v⟩ hw
    obtain ⟨f, hf, hrepair⟩ := h.planned _ (mem_below.mp (mem_below.mp hw))
    refine ⟨f, ?_, hrepair⟩
    have hplain := plain_field plain_nil (show PlainName "diagnostics" by decide)
    rcases hf with hf | hf
    · left
      have hs := plainNames_component diagnosticResult (by simp [components])
      obtain ⟨s, hs, hf⟩ := exists_property_of_repair hs plain_nil hf hc hrepair
      obtain rfl : s = .array .nothing (some diagnostic) := by simpa using hs
      rw [check] at hf
      have hlook : ∀ (j : Nat) (y : Document), ∀ g ∈ (check o diagnostic
          (Path.join (Path.ofSegments [.name "diagnostics"]) (.index j)) y).errors,
          g.Idle ∨ Under ([.name "diagnostics"] ++ [.index j]) g := by
        intro j y g hg
        rw [← ofSegments_append] at hg
        exact idle_or_under_of_check (plainNames_component diagnostic (by simp [components]))
          (plain_item hplain j) hg
      have hitem := exists_item_of_repair hlook hf hx hrepair
      rwa [← ofSegments_append] at hitem
    · exact .inr (mem_item_of_repair hplain hc hx (mem_listIn_of_repair plain_nil hc hf hrepair) hrepair)
  complete := by
    intro f hf
    have hplain := plain_field plain_nil (show PlainName "diagnostics" by decide)
    have hlist : f ∈ (Refinement.listIn (Path.ofSegments [.name "diagnostics"]) fields).errors :=
      mem_listIn_of_item hc hx hf
    have hunder : Under ([.name "diagnostics"] ++ [.index i]) f :=
      under_of_traced (plain_item hplain i) (traced_node _ _ hf)
    exact exists_repair_below hunder (exists_repair_below (under_of_listIn plain_nil hlist)
      (h.complete f (mem_node_of_listIn hc hlist)))

private theorem eq_of_written (h : Resolved o level diagnostic base x writes) (hw : ([], y) ∈ writes) :
    y = .object [] := by
  obtain ⟨f, hf, hrepair⟩ := h.planned _ hw
  rw [List.append_nil] at hrepair
  rcases hf with hf | hf
  · by_cases hkind : x.kind? = some .object
    · obtain ⟨fields, rfl⟩ := exists_fields_of_kind? hkind
      exact (not_repair_here (plainNames_component diagnostic (by simp [components])) hbase hf
        hrepair).elim
    · rw [check_of_kind?_ne rfl hkind] at hf
      obtain rfl := List.mem_singleton.mp hf
      obtain ⟨hread, hplan⟩ := repair?_eq_some_iff.mp hrepair
      rw [plan_of_object_expected rfl rfl (ne_nil_of_plan hplan)] at hplan
      exact eq_of_coerce_object (Except.ok.inj hplan)
  · obtain ⟨step, hunder⟩ := under_of_node hbase hf
    exact (not_under_of_repair_here hrepair hunder).elim

/-! ## What the second look accepts -/

theorem nodeFits_of_became (h : Resolved o level diagnostic base x writes)
    (hbecame : Became writes (some x) (some y)) (hlists : ListsFit writes)
    (hconforms : Conforms o diagnostic y) : NodeFits y := by
  cases hbecame with
  | written hw =>
      rw [eq_of_written hbase h hw] at hconforms
      exact absurd (Agreement.has_of_conforms "message" hconforms (by simp)) (by decide)
  | edited hedits =>
      obtain ⟨fields', rfl⟩ := Agreement.fields_of_conforms_diagnostic hconforms
      obtain ⟨fields, rfl⟩ := exists_object_of_edits_object hedits
      refine (Agreement.nodeFits_iff_of_conforms
        (Agreement.conforms_document_iff.mpr (.inl hconforms))).mpr fun hlist => ?_
      have hbecame := became_field hedits "diagnostics"
      have hwritten : ∀ value, ([], value) ∈ below (.name "diagnostics") writes →
          NodeFits (.object [("diagnostics", value)]) := fun value hw =>
        hlists _ (mem_below.mp hw) rfl
      cases hc : fields.get? "diagnostics" with
      | none =>
          rw [hc] at hbecame
          obtain ⟨list, hlist⟩ := Agreement.exists_get?_of_has hlist
          rw [hlist] at hbecame
          cases hbecame with
          | written hw =>
              obtain ⟨items, rfl, hitems⟩ := exists_items_of_nodeFits (hwritten _ hw)
              exact ⟨items, hlist, hitems⟩
      | some c =>
          rw [hc] at hbecame
          have hplain := plain_field hbase (show PlainName "diagnostics" by decide)
          exact items_of_became hplain hc (repairs_list hbase hc h) hbecame hwritten
            fun items hitems i x y hx hrepairs hinner =>
              nodeFits_of_edits (plain_item hplain i) x hrepairs hinner
                (listsFit_below (listsFit_below hlists))

end

theorem listFits_of_result (h : Resolved o level diagnosticResult [] d writes)
    (hedits : Edits d writes d') (hlists : ListsFit writes)
    (hconforms : Conforms o diagnosticResult d') : Agreement.ListFits d' := by
  cases d' with
  | object fields' =>
      intro hlist
      obtain ⟨fields, rfl⟩ := exists_object_of_edits_object hedits
      obtain ⟨list, hlist⟩ := Agreement.exists_get?_of_has hlist
      have hbecame := became_field hedits "diagnostics"
      rw [hlist] at hbecame
      have hlistConforms : Conforms o (.array .nothing (some diagnostic)) list :=
        Agreement.conforms_property hconforms (by simp) hlist
      generalize hbefore : fields.get? "diagnostics" = before at hbecame
      cases hbecame with
      | written hw =>
          obtain ⟨items, rfl, hitems⟩ := exists_items_of_nodeFits (hlists _ (mem_below.mp hw) rfl)
          exact ⟨items, hlist, hitems⟩
      | edited hinner =>
          cases hlistConforms with
          | @array _ _ items' hitems =>
              obtain ⟨items, rfl, -⟩ := exists_array_of_edits_array hinner
              refine ⟨items', hlist, fun y hy => ?_⟩
              obtain ⟨i, x, hx, hbecame⟩ := exists_became_of_mem hinner hy
              exact nodeFits_of_became (plain_item (plain_field plain_nil (by decide)) i)
                (resolved_item hbefore hx h) hbecame
                (listsFit_below (listsFit_below hlists)) (hitems _ hy)
  | _ => trivial

/-! ## Objects that read as a diagnostic -/

section

variable (hshaped : Closeness.diagnosticShaped fields = true) (hrefuses : o.RefusesUnknown true)
  (hlive : ∀ g ∈ (check o diagnosticResult "" (.object fields)).errors, ¬ g.Idle)

include hshaped hrefuses hlive

theorem source_or_severity {q : String × Document} (hq : q ∈ fields) :
    q.1 = "source" ∨ q.1 = "severity" := by
  have hclean : (checkUnknown "" fields diagnosticResult.properties true o).errors = [] :=
    errors_checkUnknown_of_live hlive
  obtain ⟨p, hp, hname⟩ := errors_checkUnknown_eq_nil_iff.mp hclean hrefuses (by decide +kernel) q hq
  have hnames : ∀ p ∈ diagnosticResult.properties,
      p.1 = "diagnostics" ∨ p.1 = "source" ∨ p.1 = "severity" := by decide +kernel
  rcases hnames p hp with hlist | hother
  · have hfield := has_of_mem hq
    rw [← hname, hlist, has_diagnostics_of_diagnosticShaped hshaped] at hfield
    contradiction
  · rwa [hname] at hother

theorem has_eq_false_of_refused (hname : name ≠ "source" ∧ name ≠ "severity") :
    fields.has name = false := by
  refine List.any_eq_false.mpr fun q hq heq => ?_
  obtain hsource | hseverity := source_or_severity hshaped hrefuses hlive hq
  · exact hname.1 ((beq_iff_eq.mp heq).symm.trans hsource)
  · exact hname.2 ((beq_iff_eq.mp heq).symm.trans hseverity)

private theorem outcomeDistance_diagnostic :
    Distance.outcomeDistance (check o diagnostic "" (.object fields)) =
    Distance.outcomeDistance (check o diagnosticResult "" (.object fields)) + 35 := by
  have hgone (name : String) (hname : name ≠ "source" ∧ name ≠ "severity") : fields.has name = false :=
    has_eq_false_of_refused hshaped hrefuses hlive hname
  have hpart (name : String) (hname : name ≠ "source" ∧ name ≠ "severity") (t : Schema) :
      Distance.outcomeDistance (checkProperty o "" fields (name, t)) = 0 := by
    rw [checkProperty, get?_of_has_eq_false (hgone name hname)]
    rfl
  have hunknown {properties : List (String × Schema)} (hsource : "source" ∈ properties.map (·.1))
      (hseverity : "severity" ∈ properties.map (·.1)) :
      Distance.outcomeDistance (checkUnknown "" fields properties true o) = 0 := by
    have hclean : (checkUnknown "" fields properties true o).errors = [] := by
      refine errors_checkUnknown_eq_nil_iff.mpr fun _ _ q hq => ?_
      rcases source_or_severity hshaped hrefuses hlive hq with hname | hname
      · exact hname ▸ List.mem_map.mp hsource
      · exact hname ▸ List.mem_map.mp hseverity
    rw [Distance.outcomeDistance, hclean]
    rfl
  rw [diagnostic, diagnosticResult, Distance.outcomeDistance_object, Distance.outcomeDistance_object,
    hunknown (by simp) (by simp), hunknown (by simp) (by simp)]
  simp only [List.map_cons, List.map_nil, List.sum_cons, List.sum_nil]
  simp only [hgone "message" (by decide), hgone "location" (by decide), hgone "diagnostics" (by decide),
    hpart "message" (by decide), hpart "location" (by decide), hpart "code" (by decide),
    hpart "suggestions" (by decide), hpart "original_output" (by decide),
    hpart "related_locations" (by decide), hpart "diagnostics" (by decide), Bool.false_eq_true,
    if_false]
  omega

end

theorem not_refuses_of_result (hshaped : Closeness.diagnosticShaped fields = true)
    (hjudged : (check o document "" (.object fields)).errors =
      (check o diagnosticResult "" (.object fields)).errors)
    (hlive : ∀ g ∈ (check o diagnosticResult "" (.object fields)).errors, ¬ g.Idle) :
    ¬ o.RefusesUnknown true := by
  intro hrefuses
  -- As a result the object has a source and a severity at most, and is then closer to a diagnostic.
  have hdistance := outcomeDistance_diagnostic hshaped hrefuses hlive
  rcases SingleDiagnostic.errors_document_object o fields hshaped with
    ⟨-, herrors⟩ | ⟨-, herrors⟩ | ⟨hdiagnostic, hlist, -⟩
  · rw [Distance.outcomeDistance, ← herrors, hjudged, Distance.outcomeDistance] at hdistance
    omega
  · rw [← hjudged, herrors] at hlive
    exact hlive _ (List.mem_singleton_self _) (.inr rfl)
  · have hnear : SingleDiagnostic.nearDiagnostic o fields = SingleDiagnostic.nearResult o fields + 10 := by
      have hgone (name : String) (hname : name ≠ "source" ∧ name ≠ "severity") :
          fields.has name = false := has_eq_false_of_refused hshaped hrefuses hlive hname
      rw [SingleDiagnostic.nearDiagnostic, SingleDiagnostic.nearResult, hgone "message" (by decide),
        hgone "location" (by decide)]
      simp only [Distance.outcomeDistance] at hdistance
      simp only [Bool.false_eq_true, if_false]
      omega
    rw [SingleDiagnostic.DiagnosticClosest] at hdiagnostic
    rw [SingleDiagnostic.ListClosest] at hlist
    omega

/-! ## A round that leaves nothing over -/

/-- The paths and values that are planned for findings. -/
def plans (level : FixLevel) (findings : List Finding) : List (List Segment × Document) :=
  findings.filterMap (·.repair? level)

theorem mem_plans {findings : List Finding} {w : List Segment × Document} :
    w ∈ plans level findings ↔ ∃ f ∈ findings, f.repair? level = some w := List.mem_filterMap

private theorem exists_repaired_of_fixable {findings : List Finding} (hf : f ∈ findings)
    (hfixable : f.fixable level = true) : ∃ g ∈ findings, g.repaired level findings = true := by
  obtain ⟨steps, after, hrepair⟩ := fixable_iff.mp hfixable
  -- What sweeps a finding away has a shorter path and can be repaired itself.
  induction hlength : steps.length using Nat.strongRecOn generalizing f steps after with
  | ind n ih =>
      by_cases hswept : findings.any (·.sweeps f) = true
      · obtain ⟨g, hg, hsweeps⟩ := List.any_eq_true.mp hswept
        obtain ⟨p, step, tail, hplanned, hread⟩ := @repair?_of_sweeps level g f hsweeps
        obtain rfl := Except.ok.inj (hread.symm.trans (repair?_eq_some_iff.mp hrepair).1)
        refine ih p.length ?_ hg (fixable_iff.mpr ⟨p, _, hplanned⟩) p _ hplanned rfl
        rw [← hlength, List.length_append, List.length_cons]
        omega
      · exact ⟨f, hf, by simp [Finding.repaired, hfixable, hswept]⟩

section

variable {v : Verdict} (hv : Validator.validate ⟨o, document⟩ d = .ok v)

include hv

/-- A round applies nothing exactly if nothing that is found can be repaired. -/
theorem applied_eq_nil_iff : (fix level d v.errors).applied = [] ↔
    ∀ f ∈ v.errors, f.fixable level = false := by
  have happlied : (fix level d v.errors).applied = [] ↔
      ∀ f ∈ v.errors, f.repaired level v.errors = false := by
    rw [← List.map_eq_nil_iff, (completed_fix level hv).applied]
    simp [Round.start, List.filter_eq_nil_iff]
  rw [happlied]
  refine ⟨fun h f hf => Bool.eq_false_iff.mpr fun hfixable => ?_,
    fun h f hf => by rw [Finding.repaired, h f hf]; rfl⟩
  obtain ⟨g, hg, hrepaired⟩ := exists_repaired_of_fixable hf hfixable
  rw [h g hg] at hrepaired
  contradiction

theorem idle_iff : (fix level d v.errors).applied = [] ∧ (fix level d v.errors).document = d ↔
    ∀ f ∈ v.errors, f.fixable level = false := by
  rw [← applied_eq_nil_iff hv]
  refine and_iff_left_of_imp fun h => ?_
  exact @document_of_length_applied level v.errors (.start d) (by
    have happlied : (v.errors.foldl (Round.step level) (.start d)).applied = [] := h
    rw [happlied]
    exact Nat.zero_le _)

variable (hnone : (fix level d v.errors).remaining = [])

include hnone

theorem repaired_of_remaining_eq_nil (hf : f ∈ v.errors) : f.repaired level v.errors = true := by
  have hremaining := (completed_fix level hv).remaining
  rw [hnone] at hremaining
  simp only [Round.start, List.nil_append] at hremaining
  simpa using List.filter_eq_nil_iff.mp hremaining.symm f hf

theorem exists_plan (hf : f ∈ v.errors) : ∃ w ∈ plans level v.errors, f.repair? level = some w := by
  have hrepaired := repaired_of_remaining_eq_nil hv hnone hf
  rw [Finding.repaired, Bool.and_eq_true] at hrepaired
  obtain ⟨steps, after, hrepair⟩ := fixable_iff.mp hrepaired.1
  exact ⟨_, mem_plans.mpr ⟨f, hf, hrepair⟩, hrepair⟩

theorem edits_fix : Edits d (plans level v.errors) (fix level d v.errors).document where
  rewritten := by
    have hrewritten := (completed_fix level hv).rewritten
    rwa [List.filter_eq_self.mpr fun f hf => repaired_of_remaining_eq_nil hv hnone hf] at hrewritten
  inside := by
    intro w hw
    obtain ⟨f, -, hrepair⟩ := mem_plans.mp hw
    exact ne_nil_of_plan (repair?_eq_some_iff.mp hrepair).2
  slots := by
    intro w hw
    obtain ⟨f, hf, hrepair⟩ := mem_plans.mp hw
    rw [Addresses.errors_of_validate hv] at hf
    have hholds := (holds_of_mem_examine plainNames_document hf).1.resolve_left
      (not_idle_of_repair hrepair)
    exact ⟨_, hholds _ (repair?_eq_some_iff.mp hrepair).1⟩

theorem eq_or_separate (hf : f ∈ v.errors) (hg : g ∈ v.errors) : f = g ∨ Separate f g := by
  have hpairs : v.errors.Pairwise fun f g => f = g ∨ Separate f g := by
    have hexamined := pairwise_examine o d
    rw [← Addresses.errors_of_validate hv] at hexamined
    refine hexamined.imp_of_mem fun {f g} hf hg hpair => .inr (hpair.resolve_right fun hsweeps => ?_)
    have hrepaired := repaired_of_remaining_eq_nil hv hnone hg
    rw [Finding.repaired, List.any_eq_true.mpr ⟨f, hf, hsweeps.2⟩] at hrepaired
    simp at hrepaired
  exact hpairs.forall_of_forall_of_flip (fun f _ => .inl rfl)
    (hpairs.imp fun h => h.imp Eq.symm separate_comm) hf hg

theorem rejection?_eq_none : Validator.rejection? d = none := by
  cases hrejected : Validator.rejection? d with
  | none => rfl
  | some f =>
      have hf : f ∈ v.errors := by
        rw [Addresses.errors_of_validate hv, Validator.examine, hrejected]
        exact List.mem_singleton_self f
      obtain ⟨w, -, hrepair⟩ := exists_plan hv hnone hf
      exact (not_idle_of_repair hrepair (.inr (Addresses.blames_rejection hrejected).path)).elim

theorem errors_eq_merged : v.errors = mergeFindings (check o document "" d).errors
    (Refinement.node "" d).errors := by
  rw [Addresses.errors_of_validate hv, Validator.examine, rejection?_eq_none hv hnone]

variable (hjudged : (check o document "" d).errors = (check o s "" d).errors)

include hjudged

theorem covered_of_judged : Covered [] (plans level v.errors)
    (check o s (Path.ofSegments []) d).errors := by
  intro g hg
  rw [ofSegments_nil, ← hjudged] at hg
  have hplaced : ∃ f ∈ v.errors, f.path = g.path ∧ (g.code = .unknownProperty → f = g) := by
    rw [errors_eq_merged hv hnone]
    by_cases hstands : (Refinement.node "" d).errors.any (·.supersedes g) = true
    · obtain ⟨f, hf, hsupersedes⟩ := List.any_eq_true.mp hstands
      refine ⟨f, Merging.mem_mergeFindings.mpr (.inr hf), Merging.path_eq_of_supersedes hsupersedes,
        fun hcode => ?_⟩
      rw [Finding.supersedes, hcode] at hsupersedes
      cases hs : f.code <;> simp [hs, Code.supersedes] at hsupersedes
    · exact ⟨g, Merging.mem_mergeFindings.mpr (.inl ⟨hg, by simpa using hstands⟩), rfl, fun _ => rfl⟩
  obtain ⟨f, hf, hpath, hunknown⟩ := hplaced
  obtain ⟨w, hw, hrepair⟩ := exists_plan hv hnone hf
  have hlive := not_idle_of_repair hrepair
  refine ⟨?_, w, hw, hpath ▸ (repair?_eq_some_iff.mp hrepair).1⟩
  rintro (hcode | hroot)
  · exact hlive (.inl (hunknown hcode ▸ hcode))
  · exact hlive (.inr (hpath.trans hroot))

private theorem passable_of_judged {w : List Segment × Document} (hf : f ∈ v.errors)
    (hrepair : f.repair? level = some w) : Passable o s [] d w.1.dropLast := by
  have hexamined := hf
  rw [Addresses.errors_of_validate hv] at hexamined
  obtain ⟨steps, hplain, hpath, -, -⟩ := Addresses.located_of_mem_examine plainNames_document hexamined
    fun hcode => not_idle_of_repair hrepair (.inl hcode)
  obtain ⟨value, hw, -⟩ := plan_of_repair hplain hpath hrepair
  obtain rfl : w.1 = steps := congrArg Prod.fst hw
  intro g hg
  obtain ⟨hlive, u, hu, hread⟩ := covered_of_judged hv hnone hjudged g hg
  refine ⟨hlive, fun before hbefore hpath => ?_⟩
  obtain ⟨e, he, hplanned⟩ := mem_plans.mp hu
  have hbegins : before <+: w.1 := hbefore.trans (List.dropLast_prefix w.1)
  have hsteps : u.1 = before := by
    rw [hpath] at hread
    exact eq_of_parse (fun step hstep => hplain step (hbegins.subset hstep)) hread
  rcases eq_or_separate hv hnone hf he with rfl | hidle | hidle | hapart
  · obtain rfl := Option.some.inj (hplanned.symm.trans hrepair)
    have hlength := hbefore.length_le
    have hpos := List.length_pos_iff.mpr (ne_nil_of_plan (repair?_eq_some_iff.mp hrepair).2)
    rw [← hsteps, List.length_dropLast] at hlength
    omega
  · exact not_idle_of_repair hrepair hidle
  · exact not_idle_of_repair hplanned hidle
  · exact (hapart w.1 u.1 (repair?_eq_some_iff.mp hrepair).1 (repair?_eq_some_iff.mp hplanned).1).2
      (hsteps ▸ hbegins)

theorem suits_of_judged (hs : s ∈ [diagnostic, diagnosticArray, diagnosticResult])
    (hguessed : ∀ f ∈ v.errors, f.Guessed → ∀ w, f.repair? level = some w → Suits o s w) :
    ∀ w ∈ plans level v.errors, Suits o s w := by
  intro w hw
  obtain ⟨f, hf, hrepair⟩ := mem_plans.mp hw
  by_cases hsure : f.Guessed
  · exact hguessed f hf hsure w hrepair
  · have hmerged := hf
    rw [errors_eq_merged hv hnone, hjudged] at hmerged
    rcases Merging.mem_mergeFindings.mp hmerged with ⟨hcheck, -⟩ | hnode
    · exact suits_of_mem_check hs hcheck hrepair hsure
    · refine suits_of_mem_node hs hnode hrepair hsure
        (passable_of_judged hv hnone hjudged hf hrepair) ?_
      rintro rfl fields rfl hshaped
      refine not_refuses_of_result hshaped hjudged fun g hg => ?_
      exact (covered_of_judged hv hnone hjudged g hg).1

theorem resolved_of_judged : Resolved o level s [] d (plans level v.errors) where
  planned := by
    intro w hw
    obtain ⟨f, hf, hrepair⟩ := mem_plans.mp hw
    refine ⟨f, ?_, hrepair⟩
    rw [errors_eq_merged hv hnone, hjudged] at hf
    rw [ofSegments_nil]
    exact (Merging.mem_mergeFindings.mp hf).imp_left And.left
  complete := by
    intro f hf
    refine exists_plan hv hnone ?_
    rw [errors_eq_merged hv hnone]
    exact Merging.mem_mergeFindings.mpr (.inr hf)

end

theorem admitted_of_edits (h : Edits d writes d') (hadmitted : Validator.rejection? d = none)
    (hconforms : Conforms o document d') : Validator.rejection? d' = none := by
  cases d' with
  | object fields =>
      cases fields with
      | nil =>
          rcases Agreement.conforms_document_iff.mp hconforms with hform | hform | hform
          · exact absurd (Agreement.has_of_conforms "message" hform (by simp)) (by decide)
          · cases hform
          · exact absurd (Agreement.has_of_conforms "diagnostics" hform (by simp)) (by decide)
      | cons => rfl
  | array items =>
      obtain ⟨before, rfl, hlength⟩ := exists_array_of_edits_array h
      cases items with
      | nil =>
          obtain rfl := List.eq_nil_of_length_eq_zero hlength
          cases hadmitted
      | cons => rfl
  | null | string =>
      rcases Agreement.conforms_document_iff.mp hconforms with hform | hform | hform <;> cases hform
  | _ => rfl

theorem conforms_of_suited (hs : s ∈ [diagnostic, diagnosticArray, diagnosticResult])
    (h : Edits d writes d') (hcovered : Covered [] writes (check o s (Path.ofSegments []) d).errors)
    (hsuits : ∀ w ∈ writes, Suits o s w) : Conforms o s d' := by
  have hinner := throughout_form hs
  exact conforms_of_edits (wellTyped_inner s (of_throughout hinner))
    (plainNames_of_throughout_inner hinner) (single_of_throughout_parts (throughout_parts hinner))
    plain_nil h hcovered fun w hw => (hsuits w hw).takes

/-- The second verdict is clean if everything that is put in suits the form that the document is judged by. -/
theorem errors_eq_nil_of_suited {v w : Verdict} (hv : Validator.validate ⟨o, document⟩ d = .ok v)
    (hnone : (fix level d v.errors).remaining = [])
    (hjudged : (check o document "" d).errors = (check o s "" d).errors)
    (hs : s ∈ [diagnostic, diagnosticArray, diagnosticResult])
    (hsuits : ∀ p ∈ plans level v.errors, Suits o s p)
    (hw : Validator.validate ⟨o, document⟩ (fix level d v.errors).document = .ok w) : w.errors = [] := by
  have hedits := edits_fix hv hnone
  have hresolved := resolved_of_judged hv hnone hjudged
  have hlists : ListsFit (plans level v.errors) := fun p hp => (hsuits p hp).fits
  have hform := conforms_of_suited hs hedits (covered_of_judged hv hnone hjudged) hsuits
  have hconforms : Conforms o document (fix level d v.errors).document := .oneOf hs hform
  have hfits : NodeFits (fix level d v.errors).document := by
    refine (Agreement.nodeFits_iff_of_conforms hconforms).mpr ?_
    simp only [List.mem_cons, List.not_mem_nil, or_false] at hs
    rcases hs with rfl | rfl | rfl
    · exact (Agreement.nodeFits_iff_of_conforms hconforms).mp
        (nodeFits_of_became plain_nil hresolved (.edited hedits) hlists hform)
    · generalize (fix level d v.errors).document = d' at hform
      cases hform
      trivial
    · exact listFits_of_result hresolved hedits hlists hform
  rw [Agreement.validate_eq (admitted_of_edits hedits (rejection?_eq_none hv hnone) hconforms)] at hw
  rw [← Except.ok.inj hw, Merging.mergeFindings_eq_nil_iff, errors_check_eq_nil_iff wellTyped_document,
    errors_node_eq_nil_iff]
  exact ⟨hconforms, hfits⟩

/-- After a round that leaves nothing over, a second round does nothing exactly if nothing that is found in
the document by then can be repaired.  Nothing is found at all if no value was of a wrong kind and no range
was missing, or if what was put in for these suits the form that the document is judged by. -/
theorem second_round_idle_of_suited (o : Options) (level : FixLevel) (d : Document) (v : Verdict)
    (hv : Validator.validate ⟨o, document⟩ d = .ok v)
    (hnone : (fix level d v.errors).remaining = []) :
    ∃ w, Validator.validate ⟨o, document⟩ (fix level d v.errors).document = .ok w ∧
      ((fix level (fix level d v.errors).document w.errors).applied = [] ∧
          (fix level (fix level d v.errors).document w.errors).document =
            (fix level d v.errors).document ↔
        ∀ f ∈ w.errors, f.fixable level = false) ∧
      ((∀ f ∈ v.errors, ¬ f.Guessed) → w.errors = []) ∧
      ∀ s ∈ [diagnostic, diagnosticArray, diagnosticResult],
        (check o document "" d).errors = (check o s "" d).errors →
        (∀ f ∈ v.errors, f.Guessed → ∀ p, f.repair? level = some p → Suits o s p) → w.errors = [] := by
  obtain ⟨w, hw⟩ := exists_validate o (fix level d v.errors).document
  have hclean : ∀ s ∈ [diagnostic, diagnosticArray, diagnosticResult],
      (check o document "" d).errors = (check o s "" d).errors →
      (∀ f ∈ v.errors, f.Guessed → ∀ p, f.repair? level = some p → Suits o s p) → w.errors = [] :=
    fun s hs hjudged hguessed => errors_eq_nil_of_suited hv hnone hjudged hs
      (suits_of_judged hv hnone hjudged hs hguessed) hw
  refine ⟨w, hw, idle_iff hw, fun hsure => ?_, hclean⟩
  obtain ⟨s, hs, hjudged⟩ := Distance.exists_judged o d
  exact hclean s hs hjudged fun f hf hguessed => (hsure f hf hguessed).elim

/-! ## A missing location, and a number among diagnostics -/

theorem fix_of_writes {steps : List Segment} {before after : Document}
    (h : Writes level d f steps before after d') :
    (fix level d [f]).document = d' ∧ (fix level d [f]).remaining = [] := by
  obtain ⟨hdocument, -, hremaining⟩ := @step_of_writes level d' f steps before after (.start d) h
  exact ⟨hdocument, hremaining⟩

/-- A diagnostic without a location. -/
def unplaced : Document := .object [("message", .string "m")]

def unplacedFinding : Finding := .expecting "location" .missingDiagnosticLocation .null "object"

def unknownPlace : Document := .object [("path", .string "unknown")]

private theorem errors_unplaced : (check .standard document "" unplaced).errors =
    (check .standard diagnostic "" unplaced).errors := by
  have hclosest : SingleDiagnostic.DiagnosticClosest .standard [("message", .string "m")] :=
    ⟨by decide, .inl (by decide)⟩
  rcases SingleDiagnostic.errors_document_object .standard [("message", .string "m")] rfl with
    ⟨-, herrors⟩ | ⟨hlist, -⟩ | ⟨hother, -, -⟩
  · exact herrors
  · have hnear := hclosest.1
    have hfar := hlist.1
    omega
  · exact (hother hclosest).elim

private theorem writes_unplaced : Writes .basic unplaced unplacedFinding [.name "location"] .null unknownPlace
    (.object [("message", .string "m"), ("location", unknownPlace)]) where
  read := by
    have hread : Path.parse "location" = .ok [.name "location"] := by cbv
    exact hread
  found := ⟨none, rfl, rfl⟩
  planned := rfl
  written := rfl

/-- A diagnostic without a location is clean after a round. -/
theorem second_round_idle_of_unplaced :
    ∃ v w, Validator.validate Validator.standard unplaced = .ok v ∧
      (fix .basic unplaced v.errors).remaining = [] ∧
      Validator.validate Validator.standard (fix .basic unplaced v.errors).document = .ok w ∧
      w.errors = [] ∧
      (fix .basic (fix .basic unplaced v.errors).document w.errors).applied = [] ∧
      (fix .basic (fix .basic unplaced v.errors).document w.errors).document =
        (fix .basic unplaced v.errors).document := by
  have hv := @Agreement.validate_eq .standard unplaced rfl
  have hmerged : mergeFindings (check .standard document "" unplaced).errors
      (Refinement.node "" unplaced).errors = [unplacedFinding] := by
    rw [errors_unplaced]
    rfl
  rw [hmerged] at hv
  obtain ⟨-, hnone⟩ := fix_of_writes writes_unplaced
  obtain ⟨w, hw, hidle, hclean, -⟩ := second_round_idle_of_suited .standard .basic unplaced _ hv hnone
  have herrors : w.errors = [] := by
    refine hclean fun f hf hguessed => ?_
    obtain rfl := List.mem_singleton.mp hf
    rcases hguessed with hcode | ⟨hcode, -⟩ <;> cases hcode
  obtain ⟨happlied, hdocument⟩ := hidle.mpr (by simp [herrors])
  exact ⟨_, w, hv, hnone, hw, herrors, happlied, hdocument⟩

/-- A result with a number in its list. -/
def numbered : Document := .object [("diagnostics", .array [.int 1])]

def numberFinding : Finding := .expecting "diagnostics[0]" .typeMismatch (.int 1) "object"

/-- The result with an empty object in the place of the number. -/
def emptied : Document := .object [("diagnostics", .array [.object []])]

def missingFinding : Finding :=
  .expecting "diagnostics[0].message" .requiredPropertyMissing .null "string"

private theorem errors_numbered : (check .standard document "" numbered).errors = [numberFinding] :=
  Distance.errors_document_of_result (by decide) (.inl (by decide)) (.inl (by decide))

theorem examine_numbered : (Validator.examine Validator.standard numbered).errors = [numberFinding] := by
  show mergeFindings (check .standard document "" numbered).errors (Refinement.node "" numbered).errors = _
  rw [errors_numbered]
  rfl

def unlocatedFinding : Finding :=
  .expecting "diagnostics[0].location" .requiredPropertyMissing .null "object"

private theorem errors_emptied :
    (check .standard document "" emptied).errors = [missingFinding, unlocatedFinding] := by
  -- Both forms are as close, and the result is likelier.
  have hlikelier : Likelihood.score diagnostic emptied < Likelihood.score diagnosticResult emptied := by
    decide +kernel
  exact @Distance.errors_document_of_result .standard emptied (by decide)
    (.inr ⟨by decide, hlikelier⟩) (.inl (by decide))

private theorem missing_mem_emptied : missingFinding ∈ (check .standard document "" emptied).errors := by
  rw [errors_emptied]
  exact List.mem_cons_self

theorem writes_numbered : Writes .basic numbered numberFinding [.name "diagnostics", .index 0] (.int 1)
    (.object []) emptied where
  read := by
    have hread : Path.parse "diagnostics[0]" = .ok [.name "diagnostics", .index 0] := by cbv
    exact hread
  found := ⟨some (.int 1), rfl, rfl⟩
  planned := rfl
  written := rfl

theorem parse_missing : Path.parse "diagnostics[0].message" =
    .ok [.name "diagnostics", .index 0, .name "message"] := by cbv

private theorem fixable_missing : missingFinding.fixable .basic = true :=
  fixable_iff.mpr ⟨_, _, repair?_eq_some_iff.mpr ⟨parse_missing, rfl⟩⟩

/-- A round on a result with a number in its list leaves nothing over, but a second round goes on. -/
theorem not_second_round_idle_of_number :
    ∃ v w, Validator.validate Validator.standard numbered = .ok v ∧
      (fix .basic numbered v.errors).remaining = [] ∧
      (fix .basic numbered v.errors).document = emptied ∧
      Validator.validate Validator.standard emptied = .ok w ∧
      (fix .basic emptied w.errors).applied ≠ [] := by
  have hv := @Agreement.validate_eq .standard numbered rfl
  have hmerged : mergeFindings (check .standard document "" numbered).errors
      (Refinement.node "" numbered).errors = [numberFinding] := examine_numbered
  rw [hmerged] at hv
  obtain ⟨hdocument, hnone⟩ := fix_of_writes writes_numbered
  have hw := @Agreement.validate_eq .standard emptied rfl
  refine ⟨_, _, hv, hnone, hdocument, hw, fun happlied => ?_⟩
  have hfixable := (applied_eq_nil_iff hw).mp happlied missingFinding
    (Merging.mem_mergeFindings.mpr (.inl ⟨missing_mem_emptied, rfl⟩))
  rw [fixable_missing] at hfixable
  contradiction

/-! ## Two rounds on a number among diagnostics -/

/-- The text that is put in for a missing message. -/
def unsaid : Document := .string "No message provided"

/-- The result with a message in its diagnostic. -/
def messaged : Document := .object [("diagnostics", .array [.object [("message", unsaid)]])]

/-- The result with all that its diagnostic has to have. -/
def placed : Document :=
  .object [("diagnostics", .array [.object [("message", unsaid), ("location", unknownPlace)]])]

/-- The records of the first round and of the second one. -/
def numberFix : AppliedFix :=
  ⟨"diagnostics[0]", fixMessage .typeMismatch (.int 1) (.object []), .int 1, .object []⟩

def messageFix : AppliedFix :=
  ⟨"diagnostics[0].message", fixMessage .requiredPropertyMissing .null unsaid, .null, unsaid⟩

def locationFix : AppliedFix :=
  ⟨"diagnostics[0].location", fixMessage .requiredPropertyMissing .null unknownPlace, .null, unknownPlace⟩

theorem parse_unlocated : Path.parse "diagnostics[0].location" =
    .ok [.name "diagnostics", .index 0, .name "location"] := by cbv

private theorem writes_missing : Writes .basic emptied missingFinding
    [.name "diagnostics", .index 0, .name "message"] .null unsaid messaged where
  read := parse_missing
  found := ⟨none, rfl, rfl⟩
  planned := rfl
  written := rfl

private theorem writes_unlocated : Writes .basic messaged unlocatedFinding
    [.name "diagnostics", .index 0, .name "location"] .null unknownPlace placed where
  read := parse_unlocated
  found := ⟨none, rfl, rfl⟩
  planned := rfl
  written := rfl

theorem examine_emptied :
    (Validator.examine Validator.standard emptied).errors = [missingFinding, unlocatedFinding] := by
  show mergeFindings (check .standard document "" emptied).errors (Refinement.node "" emptied).errors = _
  rw [errors_emptied]
  rfl

private theorem examine_placed : (Validator.examine Validator.standard placed).errors = [] := by
  have hresult := (errors_check_eq_nil_iff (wellTyped_form (by simp)) .standard "" placed).mp
    (rfl : (check .standard diagnosticResult "" placed).errors = [])
  have hconforms : Conforms .standard document placed := .oneOf (by simp) hresult
  exact Merging.mergeFindings_eq_nil_iff.mpr
    ⟨(errors_check_eq_nil_iff wellTyped_document .standard "" placed).mpr hconforms, rfl⟩

theorem fix_numbered : (fix .basic numbered [numberFinding]).document = emptied ∧
    (fix .basic numbered [numberFinding]).applied = [numberFix] := by
  obtain ⟨hdocument, happlied, -⟩ := step_of_writes (r := .start numbered) writes_numbered
  exact ⟨hdocument, happlied⟩

theorem fix_emptied : (fix .basic emptied [missingFinding, unlocatedFinding]).document = placed ∧
    (fix .basic emptied [missingFinding, unlocatedFinding]).applied = [messageFix, locationFix] := by
  obtain ⟨hmessaged, hfirst, -⟩ := step_of_writes (r := .start emptied) writes_missing
  obtain ⟨hplaced, hsecond, -⟩ := step_of_writes (hmessaged.symm ▸ writes_unlocated)
  rw [hfirst] at hsecond
  exact ⟨hplaced, hsecond⟩

private theorem afterRound_numbered : afterRound Validator.standard .basic numbered = emptied := by
  rw [afterRound, examine_numbered, fix_numbered.1]

private theorem afterRound_emptied : afterRound Validator.standard .basic emptied = placed := by
  rw [afterRound, examine_emptied, fix_emptied.1]

private theorem afterRounds_numbered : afterRounds Validator.standard .basic 2 numbered = placed := by
  simp only [afterRounds, afterRound_numbered, afterRound_emptied]

private theorem journal_numbered :
    journal Validator.standard .basic 2 numbered = [numberFix, messageFix, locationFix] := by
  simp only [journal, examine_numbered, examine_emptied, afterRound_numbered, fix_numbered.2, fix_emptied.2,
    List.append_nil, List.singleton_append]

private theorem busyRounds_numbered : busyRounds Validator.standard .basic 2 numbered = 2 := by
  have hfirst : busy Validator.standard .basic numbered = true := by
    rw [busy, examine_numbered, fix_numbered.2]
    rfl
  have hsecond : busy Validator.standard .basic emptied = true := by
    rw [busy, examine_emptied, fix_emptied.2]
    rfl
  rw [Passes.busyRounds_succ, Passes.busyRounds_succ, afterRound_numbered, if_pos hfirst, if_pos hsecond]
  rfl

private theorem idle_numbered :
    busy Validator.standard .basic (afterRounds Validator.standard .basic 2 numbered) = false := by
  rw [afterRounds_numbered]
  exact Passes.not_busy_of_clean examine_placed

/-- Two rounds are enough, and more do not matter. -/
theorem exists_report_numbered {n : Int} (hn : 2 ≤ n) : ∃ report,
    (Session.run Validator.standard ⟨true, .ok .basic, .int n⟩ numbered).result = .ok report ∧
      report.document = placed ∧ report.applied = [numberFix, messageFix, locationFix] ∧
      (Session.run Validator.standard ⟨true, .ok .basic, .int n⟩ numbered).passes = 2 := by
  have hfault (d : Document) : (Validator.examine Validator.standard d).fault = none :=
    ResultKept.fault_examine .standard d
  have htwo : 2 ≤ n.toNat := by omega
  obtain ⟨report, hreport, hdocument, -, happlied⟩ :=
    @exists_report Validator.standard (.int n) n.toNat .basic hfault rfl numbered
  rw [Passes.afterRounds_of_not_busy idle_numbered htwo, afterRounds_numbered] at hdocument
  rw [Passes.journal_of_not_busy idle_numbered htwo, journal_numbered] at happlied
  refine ⟨report, hreport, hdocument, happlied, ?_⟩
  rw [@Passes.passes_run Validator.standard n.toNat (.int n) .basic hfault rfl numbered,
    Passes.busyRounds_of_le idle_numbered htwo, busyRounds_numbered]

end Proofs.SecondRound

end ReviewDiagnostics
