import ReviewDiagnostics.Proofs.DistinctPaths
import ReviewDiagnostics.Proofs.IndependentParts
import ReviewDiagnostics.Proofs.MergeOrder
import ReviewDiagnostics.Proofs.SingleDiagnostic

/-!
# Repairs of severities

Where nothing but severities is wrong with a diagnostic or with a list of diagnostics, the second look finds
each of them, and stands in for whatever the check finds about them, if the check does not find fault with
the whole list.  A round then writes the normalized severities, one after the other, and nothing is left to
be found.
-/

namespace ReviewDiagnostics

namespace Severity

/-- The severity of a diagnostic, if it is none of the format. -/
def wrong? (fields : Fields) : Option Document :=
  (fields.get? "severity").filter (!Refinement.isSeverity ·)

/-- A diagnostic with its severity normalized, if it is none of the format. -/
def mendDiagnostic : Document → Document
  | .object fields =>
    match wrong? fields with
    | some c => .object (Fields.put fields "severity" (.string (normalize c)))
    | none => .object fields
  | d => d

/-- A diagnostic or a list of diagnostics with all severities normalized that are none of the format. -/
def mend : Document → Document
  | .array items => .array (items.map mendDiagnostic)
  | d => mendDiagnostic d

/-- A severity that is none of the format, and where it stands. -/
structure Mistake where
  steps : List Segment
  value : Document

/-- The mistake in a diagnostic, if there is one. -/
def mistakesIn (base : List Segment) : Document → List Mistake
  | .object fields => (wrong? fields).toList.map fun c => ⟨base ++ [.name "severity"], c⟩
  | _ => []

/-- The mistakes in the items of a list, in order, where the items are counted from a number on. -/
def mistakesAmong (n : Nat) (items : List Document) : List Mistake :=
  (items.zipIdx n).flatMap fun x => mistakesIn [.index x.2] x.1

/-- The mistakes in a diagnostic or in a list of diagnostics, in order. -/
def mistakes : Document → List Mistake
  | .array items => mistakesAmong 0 items
  | d => mistakesIn [] d

namespace Mistake

/-- What the check finds. -/
def general (m : Mistake) : Finding :=
  match m.value with
  | .string _ =>
    .expecting (Path.ofSegments m.steps) .enumValidationFailed m.value Refinement.severityText
  | _ => .expecting (Path.ofSegments m.steps) .typeMismatch m.value Kind.string.word

/-- What the second look finds. -/
def special (m : Mistake) : Finding :=
  .expecting (Path.ofSegments m.steps) .invalidSeverity m.value Refinement.severityText

/-- The record of the repair. -/
def record (m : Mistake) : AppliedFix :=
  let after := Document.string (normalize m.value)
  ⟨Path.ofSegments m.steps, Repair.fixMessage .invalidSeverity m.value after, m.value, after⟩

end Mistake

/-- An object without a list of its own that is a diagnostic once its severity is mended. -/
def Mendable (o : Options) (d : Document) : Prop :=
  ∃ fields, d = .object fields ∧ Fields.has fields "diagnostics" = false ∧
    Conforms o ReviewFormat.diagnostic (mendDiagnostic d)

end Severity

/-- A single diagnostic or a list of diagnostics that is not empty, none of which has a list of its own. -/
def Document.OfDiagnostics : Document → Prop
  | .object fields => Fields.has fields "diagnostics" = false
  | .array items =>
    items ≠ [] ∧ ∀ fields, .object fields ∈ items → Fields.has fields "diagnostics" = false
  | _ => False

namespace Proofs.SeverityRepair

open Agreement Conformance Conformity Distance IndependentParts ListDocument MergeOrder Origins PathText
  Repair RepairRound ReviewFormat Rounds SecondLook Separation Severity SingleDiagnostic Slots WellTyped

variable {o : Options} {level : FixLevel} {d c x : Document} {fields : Fields} {items first rest : List Document}
  {base steps : List Segment} {r : Round} {m : Mistake}

/-! ## Mistakes -/

theorem wrong?_eq_some_iff :
    wrong? fields = some c ↔ fields.get? "severity" = some c ∧ Refinement.isSeverity c = false := by
  simp [wrong?, Option.filter_eq_some_iff]

theorem mendDiagnostic_of_none (h : wrong? fields = none) :
    mendDiagnostic (.object fields) = .object fields := by
  rw [mendDiagnostic, h]

theorem mendDiagnostic_of_some (h : wrong? fields = some c) :
    mendDiagnostic (.object fields) = .object (fields.put "severity" (.string (normalize c))) := by
  rw [mendDiagnostic, h]

theorem mistakesIn_of_none (h : wrong? fields = none) : mistakesIn base (.object fields) = [] := by
  rw [mistakesIn, h]
  rfl

theorem mistakesIn_of_some (h : wrong? fields = some c) :
    mistakesIn base (.object fields) = [⟨base ++ [.name "severity"], c⟩] := by
  rw [mistakesIn, h]
  rfl

theorem mistakesAmong_cons (n : Nat) (x : Document) (items : List Document) :
    mistakesAmong n (x :: items) = mistakesIn [.index n] x ++ mistakesAmong (n + 1) items := by
  rw [mistakesAmong, List.zipIdx_cons, List.flatMap_cons, mistakesAmong]

theorem code_general (m : Mistake) :
    m.general.code = .enumValidationFailed ∨ m.general.code = .typeMismatch := by
  obtain ⟨steps, value⟩ := m
  cases value with
  | string text => exact .inl rfl
  | _ => exact .inr rfl

theorem supersedes_general (m : Mistake) : m.special.supersedes m.general = true := by
  obtain ⟨steps, value⟩ := m
  refine Reconciliation.supersedes_of_code ?_ ?_ <;> cases value <;> rfl

theorem errors_severity (h : Refinement.isSeverity c = false) :
    (check o severity (Path.ofSegments steps) c).errors = [Mistake.general ⟨steps, c⟩] := by
  by_cases hkind : c.kind? = some .string
  · obtain ⟨text, rfl⟩ := exists_text_of_kind? hkind
    have hrefused : isAllowed (names severities) text = false := by
      rw [Bool.eq_false_iff]
      intro hallowed
      have hword : Refinement.isSeverity (.string text) = true := by
        simpa [isAllowed, names, Refinement.isSeverity] using hallowed
      rw [h] at hword
      cases hword
    rw [severity, check, checkText]
    dsimp only
    rw [if_neg (by simp [hrefused])]
    rfl
  · rw [check_of_kind?_ne rfl hkind, Mistake.general]
    cases c with
    | string text => exact (hkind rfl).elim
    | _ => rfl

/-! ## One diagnostic -/

theorem replaceAt_severity (h : wrong? fields = some c) :
    (Document.object fields).replaceAt [.name "severity"] (.string (normalize c)) =
      mendDiagnostic (.object fields) := by
  have hchild : (Document.object fields).child? (.name "severity") = some c := (wrong?_eq_some_iff.mp h).1
  rw [replaceAt_cons hchild, mendDiagnostic_of_some h]
  rfl

theorem errors_check_diagnostic (base : List Segment)
    (h : Conforms o diagnostic (mendDiagnostic (.object fields))) :
    (check o diagnostic (Path.ofSegments base) (.object fields)).errors =
      (mistakesIn base (.object fields)).map Mistake.general := by
  have hclean := (errors_check_eq_nil_iff wellTyped_diagnostic o (Path.ofSegments base) _).mpr h
  cases hwrong : wrong? fields with
  | none =>
      rw [mendDiagnostic_of_none hwrong] at hclean
      rw [hclean, mistakesIn_of_none hwrong, List.map_nil]
  | some c =>
      obtain ⟨hget, hother⟩ := wrong?_eq_some_iff.mp hwrong
      have hleads : LeadsTo diagnostic (.object fields) [.name "severity"] severity c :=
        .property (p := ("severity", severity)) (by simp) hget .refl
      obtain ⟨before, after, hcheck⟩ := exists_check_replaceAt o (Path.ofSegments base)
        (oneForm_of_throughout_components FormatParts.throughout_diagnostic)
        (declaresOnce_of_throughout_components FormatParts.throughout_diagnostic) hleads
      rw [← replaceAt_severity hwrong, hcheck, Outcome.errors_append, Outcome.errors_append,
        List.append_eq_nil_iff, List.append_eq_nil_iff] at hclean
      have hpath : [Segment.name "severity"].foldl Path.join (Path.ofSegments base) =
          Path.ofSegments (base ++ [.name "severity"]) := by
        rw [ofSegments_append]
        rfl
      have hfound := hcheck c
      rw [replaceAt_self (slot?_of_leadsTo hleads)] at hfound
      rw [hfound, Outcome.errors_append, Outcome.errors_append, hclean.1, hclean.2.2, hpath,
        errors_severity hother, mistakesIn_of_some hwrong]
      rfl

theorem get?_of_mended {kept : Fields} {name : String} (h : mendDiagnostic (.object fields) = .object kept)
    (hname : name ≠ "severity") : kept.get? name = fields.get? name := by
  cases hwrong : wrong? fields with
  | none =>
      rw [mendDiagnostic_of_none hwrong] at h
      rw [Document.object.inj h]
  | some c =>
      rw [mendDiagnostic_of_some hwrong] at h
      rw [← Document.object.inj h, Fields.get?_put_of_ne _ hname]

theorem fits_of_mended (h : Conforms o diagnostic (mendDiagnostic (.object fields))) :
    fields.has "message" = true ∧ ∃ place, fields.get? "location" = some place ∧ LocationFits place := by
  obtain ⟨kept, hkept⟩ := fields_of_conforms_diagnostic h
  have hfits := diagnosticFits_of_conforms (hkept ▸ h)
  obtain ⟨place, hplace, hlocation⟩ := hfits.location
  have hmessage := hfits.message
  rw [Fields.has_eq_isSome_get?, get?_of_mended hkept (by decide), ← Fields.has_eq_isSome_get?] at hmessage
  rw [get?_of_mended hkept (by decide)] at hplace
  exact ⟨hmessage, place, hplace, hlocation⟩

theorem errors_look_diagnostic (base : List Segment)
    (h : Conforms o diagnostic (mendDiagnostic (.object fields))) :
    (Refinement.diagnostic (Path.ofSegments base) fields).errors =
      (mistakesIn base (.object fields)).map Mistake.special := by
  obtain ⟨hmessage, place, hplace, hlocation⟩ := fits_of_mended h
  rw [Refinement.diagnostic, if_pos hmessage, hplace, Outcome.errors_append, Outcome.errors_append,
    Outcome.errors_clean, List.nil_append]
  dsimp only
  rw [errors_location_eq_nil_iff.mpr hlocation, List.nil_append]
  cases hwrong : wrong? fields with
  | none =>
      rw [mistakesIn_of_none hwrong, List.map_nil, errors_severity_eq_nil_iff]
      intro c hc
      cases hother : Refinement.isSeverity c with
      | true => rfl
      | false =>
          rw [wrong?_eq_some_iff.mpr ⟨hc, hother⟩] at hwrong
          cases hwrong
  | some c =>
      obtain ⟨hget, hother⟩ := wrong?_eq_some_iff.mp hwrong
      rw [mistakesIn_of_some hwrong, Refinement.severity, hget]
      dsimp only
      rw [if_neg (by simp [hother]), inField_ofSegments]
      rfl

theorem shaped_of_mendable (hlist : fields.has "diagnostics" = false)
    (h : Conforms o diagnostic (mendDiagnostic (.object fields))) :
    Closeness.diagnosticShaped fields = true :=
  diagnosticShaped_of_message (fits_of_mended h).1 hlist

/-! ## Mended documents -/

theorem exists_mended (fields : Fields) : ∃ kept, mendDiagnostic (.object fields) = .object kept := by
  cases hwrong : wrong? fields with
  | none => exact ⟨_, mendDiagnostic_of_none hwrong⟩
  | some c => exact ⟨_, mendDiagnostic_of_some hwrong⟩

theorem conforms_of_valid {w : Verdict} (hw : Validator.validate ⟨o, document⟩ d = .ok w)
    (hvalid : w.valid = true) : Validator.rejection? d = none ∧ Conforms o document d := by
  have hadmitted : Validator.rejection? d = none := by
    cases hrejected : Validator.rejection? d with
    | none => rfl
    | some f =>
        rw [Verdict.valid, Addresses.errors_of_validate hw, Validator.examine, hrejected] at hvalid
        cases hvalid
  obtain ⟨v, hv, hconforms⟩ := Agreement.exists_validate (o := o) hadmitted
  obtain rfl := Except.ok.inj (hv.symm.trans hw)
  exact ⟨hadmitted, (hconforms.mp hvalid).1⟩

theorem mendable_of_object (hlist : fields.has "diagnostics" = false)
    (h : Conforms o document (mend (.object fields))) : Mendable o (.object fields) := by
  obtain ⟨kept, hkept⟩ := exists_mended fields
  have h : Conforms o document (mendDiagnostic (.object fields)) := h
  rcases conforms_document_iff.mp h with h | h | h
  · exact ⟨fields, rfl, hlist, h⟩
  · rw [hkept] at h
    cases h
  · rw [hkept] at h
    have hhas := has_of_conforms "diagnostics" h (by simp)
    rw [Fields.has_eq_isSome_get?, get?_of_mended hkept (by decide), ← Fields.has_eq_isSome_get?, hlist] at hhas
    cases hhas

theorem mendable_of_mem (hlists : ∀ fields, .object fields ∈ items → Fields.has fields "diagnostics" = false)
    (h : Conforms o document (mend (.array items))) : ∀ x ∈ items, Mendable o x := by
  rw [mend] at h
  rcases conforms_document_iff.mp h with h | h | h
  · cases h
  · intro x hx
    have hconforms : Conforms o diagnostic (mendDiagnostic x) := by
      cases h with
      | array hitems => exact hitems _ (List.mem_map_of_mem hx)
    obtain ⟨kept, hkept⟩ := fields_of_conforms_diagnostic hconforms
    cases x with
    | object fields => exact ⟨fields, rfl, hlists fields hx, hconforms⟩
    | _ => cases hkept
  · cases h

/-! ## What is found -/

theorem errors_of_items {look : Nat → Document → Outcome} {found : Mistake → Finding}
    (hitems : ∀ x ∈ items, Mendable o x)
    (hlook : ∀ i x, Mendable o x → (look i x).errors = (mistakesIn [.index i] x).map found) :
    (items.mapIdx look).flatMap (·.errors) = (mistakes (.array items)).map found := by
  rw [List.mapIdx_eq_zipIdx_map, List.flatMap_map, mistakes, mistakesAmong, List.map_flatMap,
    List.flatMap_def, List.flatMap_def]
  refine congrArg List.flatten (List.map_congr_left fun x hx => ?_)
  exact hlook x.2 x.1 (hitems x.1 (List.fst_mem_of_mem_zipIdx hx))

theorem errors_node_object (h : Mendable o (.object fields)) :
    (Refinement.node "" (.object fields)).errors = (mistakes (.object fields)).map Mistake.special := by
  obtain ⟨_, hfields, hlist, hconforms⟩ := h
  obtain rfl := Document.object.inj hfields
  rw [Refinement.node, if_pos (shaped_of_mendable hlist hconforms)]
  exact errors_look_diagnostic [] hconforms

theorem errors_node_array (hitems : ∀ x ∈ items, Mendable o x) :
    (Refinement.node "" (.array items)).errors = (mistakes (.array items)).map Mistake.special := by
  rw [Refinement.node, Outcome.errors_join]
  refine errors_of_items hitems fun i x hx => ?_
  obtain ⟨fields, rfl, hlist, hconforms⟩ := hx
  rw [Refinement.item, if_pos (shaped_of_mendable hlist hconforms)]
  exact errors_look_diagnostic [.index i] hconforms

theorem itemFindings_eq (hitems : ∀ x ∈ items, Mendable o x) :
    itemFindings o items = (mistakes (.array items)).map Mistake.general := by
  refine errors_of_items hitems fun i x hx => ?_
  obtain ⟨fields, rfl, -, hconforms⟩ := hx
  exact errors_check_diagnostic [.index i] hconforms

private theorem diagnosticClosest_of_mendable (h : Conforms o diagnostic (mendDiagnostic (.object fields))) :
    DiagnosticClosest o fields := by
  obtain ⟨hmessage, place, hplace, -⟩ := fits_of_mended h
  have hlocation : fields.has "location" = true := by rw [Fields.has_eq_isSome_get?, hplace]; rfl
  have hfound : (check o diagnostic "" (.object fields)).errors =
      (mistakesIn [] (.object fields)).map Mistake.general := errors_check_diagnostic [] h
  have hdistance : distance (((mistakesIn [] (.object fields)).map Mistake.general).map (·.code)) ≤ 55 := by
    cases hwrong : wrong? fields with
    | none =>
        rw [mistakesIn_of_none hwrong]
        decide
    | some c =>
        rw [mistakesIn_of_some hwrong, List.map_singleton, List.map_singleton]
        rcases code_general ⟨[] ++ [.name "severity"], c⟩ with hcode | hcode <;> rw [hcode] <;> decide
  have hresult := three_mul_length_le_distance
    ((check o diagnosticResult "" (.object fields)).errors.map (·.code))
  rw [DiagnosticClosest, nearDiagnostic, nearResult, hfound, if_pos hmessage, if_pos hlocation]
  omega

theorem errors_document_mendable (h : Mendable o (.object fields)) :
    (check o document "" (.object fields)).errors = (mistakes (.object fields)).map Mistake.general := by
  obtain ⟨_, hfields, hlist, hconforms⟩ := h
  obtain rfl := Document.object.inj hfields
  have hclosest := diagnosticClosest_of_mendable hconforms
  rcases errors_document_object o fields (shaped_of_mendable hlist hconforms) with
    ⟨-, herrors⟩ | ⟨hother, -⟩ | ⟨hother, -⟩
  · rw [herrors]
    exact errors_check_diagnostic [] hconforms
  · rw [DiagnosticClosest] at hclosest
    rw [ListClosest] at hother
    omega
  · exact (hother hclosest).elim

/-- Both looks together find the mistakes, and possibly one thing about the whole document. -/
theorem errors_examine_cases (hadmitted : Validator.rejection? d = none)
    (hlook : (Refinement.node "" d).errors = (mistakes d).map Mistake.special)
    (hcheck : (check o document "" d).errors = (mistakes d).map Mistake.general ∨
      ∃ f, f.path = "" ∧ (check o document "" d).errors = [f]) :
    (Validator.examine ⟨o, document⟩ d).errors = (mistakes d).map Mistake.special ∨
      ∃ f, f.path = "" ∧
        (Validator.examine ⟨o, document⟩ d).errors = f :: (mistakes d).map Mistake.special := by
  have hlive {f : Finding} (hf : f ∈ (mistakes d).map Mistake.special) : ¬ f.Idle :=
    DistinctPaths.not_idle_of_node (d := d) (hlook ▸ hf)
  have hdistinct : (mistakes d).Pairwise fun m n => m.special.path ≠ n.special.path := by
    have hparted := pairwise_node [] plain_nil d
    rw [ofSegments_nil, hlook] at hparted
    have hpaths : ((mistakes d).map Mistake.special).Pairwise fun f g => f.path ≠ g.path :=
      hparted.imp_of_mem fun hf hg h => DistinctPaths.path_ne_of_parted h (hlive hf) (hlive hg)
    rwa [List.pairwise_map] at hpaths
  rw [Validator.examine, hadmitted]
  dsimp only
  rw [hlook]
  rcases hcheck with hcheck | ⟨f, hroot, hcheck⟩
  · rw [hcheck]
    exact .inl (mergeFindings_of_aligned (fun m _ => supersedes_general m) hdistinct)
  · refine .inr ⟨f, hroot, ?_⟩
    rw [hcheck, mergeFindings_of_unsuperseded, List.singleton_append]
    rw [List.forall_mem_singleton, List.any_eq_false]
    intro s hs hsupersedes
    exact hlive hs (.inr ((Merging.path_eq_of_supersedes hsupersedes).trans hroot))

/-! ## A round -/

private theorem plan_special (level : FixLevel) (hsteps : m.steps ≠ []) :
    plan level m.special m.steps m.value = .ok (some (.string (normalize m.value))) := by
  rw [plan, if_neg]
  · rfl
  · rintro (hempty | ⟨haggressive, -⟩)
    · exact hsteps (List.isEmpty_iff.mp hempty)
    · cases haggressive

theorem step_special (hread : Path.parse (Path.ofSegments m.steps) = .ok m.steps) (hsteps : m.steps ≠ [])
    (hslot : r.document.slot? m.steps = some (some m.value)) :
    (Round.step level r m.special).document =
        r.document.replaceAt m.steps (.string (normalize m.value)) ∧
      (Round.step level r m.special).applied = r.applied ++ [m.record] := by
  have hwrites : Writes level r.document m.special m.steps m.value (.string (normalize m.value))
      (r.document.replaceAt m.steps (.string (normalize m.value))) :=
    ⟨hread, ⟨_, at?_of_slot? hslot, rfl⟩, plan_special level hsteps, set?_eq_replaceAt hsteps hslot _⟩
  obtain ⟨hdocument, happlied, -⟩ := step_of_writes hwrites
  exact ⟨hdocument, happlied⟩

private theorem parse_severity (hplain : ∀ step ∈ base, step.Plain) (hshort : ∀ step ∈ base, step.Short) :
    Path.parse (Path.ofSegments (base ++ [.name "severity"])) = .ok (base ++ [.name "severity"]) := by
  refine parse_of_short (plain_field hplain (by decide)) (List.forall_mem_append.mpr ⟨hshort, ?_⟩)
  rw [List.forall_mem_singleton]
  trivial

theorem foldl_mistakesIn (hplain : ∀ step ∈ base, step.Plain) (hshort : ∀ step ∈ base, step.Short)
    (hslot : r.document.slot? base = some (some (.object fields))) :
    (((mistakesIn base (.object fields)).map Mistake.special).foldl (Round.step level) r).document =
        r.document.replaceAt base (mendDiagnostic (.object fields)) ∧
      (((mistakesIn base (.object fields)).map Mistake.special).foldl (Round.step level) r).applied =
        r.applied ++ (mistakesIn base (.object fields)).map Mistake.record := by
  cases hwrong : wrong? fields with
  | none =>
      rw [mistakesIn_of_none hwrong, mendDiagnostic_of_none hwrong, replaceAt_self hslot]
      exact ⟨rfl, (List.append_nil _).symm⟩
  | some c =>
      have hplace : r.document.slot? (base ++ [.name "severity"]) = some (some c) := by
        rw [slot?_append hslot, slot?_field, (wrong?_eq_some_iff.mp hwrong).1]
      rw [mistakesIn_of_some hwrong, ← replaceAt_severity hwrong, ← replaceAt_append hslot]
      exact @step_special level r ⟨_, c⟩ (parse_severity hplain hshort) (by simp) hplace

theorem foldl_mistakesAmong (hdocument : r.document = .array (first ++ rest))
    (hrest : ∀ x ∈ rest, ∃ fields, x = .object fields)
    (hshort : ∀ n : Nat, n < (first ++ rest).length → (Segment.index n).Short) :
    (((mistakesAmong first.length rest).map Mistake.special).foldl (Round.step level) r).document =
        .array (first ++ rest.map mendDiagnostic) ∧
      (((mistakesAmong first.length rest).map Mistake.special).foldl (Round.step level) r).applied =
        r.applied ++ (mistakesAmong first.length rest).map Mistake.record := by
  induction rest generalizing first r with
  | nil => exact ⟨hdocument, (List.append_nil _).symm⟩
  | cons x rest ih =>
      obtain ⟨⟨fields, rfl⟩, hlater⟩ := List.forall_mem_cons.mp hrest
      have hlt : first.length < (first ++ .object fields :: rest).length := by simp
      have hchild : (Document.array (first ++ .object fields :: rest)).child? (.index first.length) =
          some (.object fields) := by simp [Document.child?]
      have hslot : r.document.slot? [.index first.length] = some (some (.object fields)) := by
        rw [hdocument, slot?_cons_of_child? hchild, Document.slot?]
      obtain ⟨hstep, happlied⟩ := @foldl_mistakesIn level fields [.index first.length] r
        (plain_item plain_nil first.length) (by simpa using hshort _ hlt) hslot
      have hreplaced : r.document.replaceAt [.index first.length] (mendDiagnostic (.object fields)) =
          .array ((first ++ [mendDiagnostic (.object fields)]) ++ rest) := by
        rw [hdocument, replaceAt_cons hchild, Document.replaceAt, Document.putChild]
        simp
      obtain ⟨hlast, hrecords⟩ := @ih _ _ (hstep.trans hreplaced) hlater (by simpa using hshort)
      rw [List.length_append, List.length_singleton] at hlast hrecords
      rw [mistakesAmong_cons, List.map_append, List.foldl_append, List.map_append, hlast, hrecords, happlied,
        List.append_assoc, List.append_assoc, List.map_cons]
      exact ⟨rfl, rfl⟩

theorem fix_of_cases {findings : List Finding}
    (hfindings : findings = (mistakes d).map Mistake.special ∨
      ∃ f, f.path = "" ∧ findings = f :: (mistakes d).map Mistake.special)
    (hfold : ∀ r : Round, r.document = d →
      (((mistakes d).map Mistake.special).foldl (Round.step level) r).document = mend d ∧
        (((mistakes d).map Mistake.special).foldl (Round.step level) r).applied =
          r.applied ++ (mistakes d).map Mistake.record) :
    (Repair.fix level d findings).document = mend d ∧
      (Repair.fix level d findings).applied = (mistakes d).map Mistake.record := by
  rcases hfindings with rfl | ⟨f, hroot, rfl⟩
  · exact hfold (.start d) rfl
  · obtain ⟨hdocument, happlied, -⟩ := @step_of_not_writes level f (.start d)
      fun _ _ _ _ => not_writes_of_idle (.inr hroot)
    obtain ⟨hlast, hrecords⟩ := hfold (Round.step level (.start d) f) hdocument
    rw [happlied] at hrecords
    exact ⟨hlast, hrecords⟩

private theorem rejection?_of_mend (hform : d.OfDiagnostics) (h : Validator.rejection? (mend d) = none) :
    Validator.rejection? d = none := by
  cases d with
  | object fields =>
      cases fields with
      | nil => cases h
      | cons => rfl
  | array items =>
      cases items with
      | nil => exact absurd rfl hform.1
      | cons => rfl
  | _ => exact hform.elim

/-- A round on a document with no other faults mends it. -/
theorem fix_mendable {w : Verdict} (level : FixLevel) (hform : d.OfDiagnostics) (hindex : d.Indexable)
    (hw : Validator.validate ⟨o, document⟩ (mend d) = .ok w) (hvalid : w.valid = true) :
    (Repair.fix level d (Validator.examine ⟨o, document⟩ d).errors).document = mend d ∧
      (Repair.fix level d (Validator.examine ⟨o, document⟩ d).errors).applied =
        (mistakes d).map Mistake.record := by
  obtain ⟨hadmitted, hconforms⟩ := conforms_of_valid hw hvalid
  have hfilled := rejection?_of_mend hform hadmitted
  cases d with
  | object fields =>
      have hmendable := mendable_of_object hform hconforms
      refine fix_of_cases (errors_examine_cases hfilled (errors_node_object hmendable)
        (.inl (errors_document_mendable hmendable))) fun r hr => ?_
      have hslot : r.document.slot? [] = some (some (.object fields)) := by rw [hr, Document.slot?]
      exact foldl_mistakesIn plain_nil (by simp) hslot
  | array items =>
      obtain ⟨hitems, hlists⟩ := hform
      have hmendable := mendable_of_mem hlists hconforms
      have hcheck : (check o document "" (.array items)).errors =
            (mistakes (.array items)).map Mistake.general ∨
          ∃ f, f.path = "" ∧ (check o document "" (.array items)).errors = [f] := by
        rw [errors_document_array hitems, itemFindings_eq hmendable]
        split
        · exact .inl rfl
        · exact .inr ⟨_, rfl, rfl⟩
      refine fix_of_cases (errors_examine_cases hfilled (errors_node_array hmendable) hcheck) fun r hr => ?_
      refine @foldl_mistakesAmong level [] items r hr (fun x hx => ?_) fun n hn => ?_
      · obtain ⟨fields, hfields, -⟩ := hmendable x hx
        exact ⟨fields, hfields⟩
      · rw [List.nil_append] at hn
        have hchild : (Document.array items).child? (.index n) = some items[n] := by
          rw [Document.child?, if_pos (Int.natCast_nonneg n), Int.toNat_natCast, List.getElem?_eq_getElem hn]
        exact (Addresses.indexable_child hindex hchild).1
  | _ => exact hform.elim

/-! ## A session -/

/-- A session on diagnostics that only their severities keep from being valid normalizes these severities,
keeps one record for each of them, in order, and changes nothing else. -/
theorem severities_are_mended {o : Options} {d : Document} {v w : Verdict} {n : Int} (level : FixLevel)
    (hform : d.OfDiagnostics) (hindex : d.Indexable)
    (hv : Validator.validate ⟨o, document⟩ d = .ok v) (hinvalid : v.valid = false)
    (hw : Validator.validate ⟨o, document⟩ (mend d) = .ok w) (hvalid : w.valid = true) (hn : 1 ≤ n) :
    ∃ report, (Session.run ⟨o, document⟩ ⟨true, .ok level, .int n⟩ d).result = .ok report ∧
      report.verdict.valid = true ∧ report.document = mend d ∧
      report.applied = (mistakes d).map Mistake.record ∧ report.applied ≠ [] := by
  obtain ⟨hdocument, happlied⟩ := fix_mendable level hform hindex hw hvalid
  have hround : afterRound ⟨o, document⟩ level d = mend d := hdocument
  have hclean : (Validator.examine ⟨o, document⟩ (mend d)).errors = [] := by
    rw [← Addresses.errors_of_validate hw]
    exact List.isEmpty_iff.mp hvalid
  obtain ⟨passes, hpasses⟩ : ∃ passes, n.toNat = passes + 1 := ⟨n.toNat - 1, by omega⟩
  obtain ⟨report, hreport, hlast, hverdict, hrecords⟩ :=
    @exists_report _ (.int n) _ level (ResultKept.fault_examine o) rfl d
  rw [hpasses, afterRounds, hround, afterRounds_of_fixed (afterRound_of_clean hclean)] at hlast
  rw [hpasses, journal, hround, journal_of_clean hclean, List.append_nil, happlied] at hrecords
  rw [hlast, hw] at hverdict
  refine ⟨report, hreport, Except.ok.inj hverdict ▸ hvalid, hlast, hrecords, fun hnone => ?_⟩
  -- Without a repair the document would be as it was, and it was not valid.
  have hsame := afterRound_of_applied (happlied.trans (hrecords.symm.trans hnone))
  rw [hround] at hsame
  rw [hsame, hv] at hw
  rw [Except.ok.inj hw, hvalid] at hinvalid
  cases hinvalid

/-! ## Two wrong severities -/

/-- A diagnostic with a certain severity. -/
def withSeverity (c : Document) : Document :=
  .object [("message", .string "m"), ("location", .object [("path", .string "p")]), ("severity", c)]

theorem indexable_withSeverity (hobject : ∀ fields, c ≠ .object fields) (harray : ∀ items, c ≠ .array items) :
    (withSeverity c).Indexable := by
  have htext (text : String) : (Document.string text).Indexable := .scalar (by simp) (by simp)
  refine .object ?_
  simp only [List.forall_mem_cons, List.not_mem_nil, false_imp_iff, implies_true, and_true]
  refine ⟨htext "m", .object ?_, .scalar hobject harray⟩
  simpa using htext "p"

/-- A severity by another name and a number are mended. -/
theorem severities_are_mended_of_warn_and_number : ∃ report,
    (Session.run Validator.standard ⟨true, .ok .basic, .int 1⟩
      (.array [withSeverity (.string "warn"), withSeverity (.int 3)])).result = .ok report ∧
    report.verdict.valid = true ∧
    report.document = .array [withSeverity (.string "WARNING"), withSeverity (.string "UNKNOWN_SEVERITY")] ∧
    report.applied.map (·.path) = ["[0].severity", "[1].severity"] := by
  have hindex : (Document.array [withSeverity (.string "warn"), withSeverity (.int 3)]).Indexable := by
    refine .array (Nat.le_trans (by decide) (Nat.le_self_pow (by decide) 10)) ?_
    simp only [List.forall_mem_cons, List.not_mem_nil, false_imp_iff, implies_true, and_true]
    exact ⟨indexable_withSeverity (by simp) (by simp), indexable_withSeverity (by simp) (by simp)⟩
  have hform : (Document.array [withSeverity (.string "warn"), withSeverity (.int 3)]).OfDiagnostics := by
    refine ⟨by simp, fun fields hfields => ?_⟩
    simp only [List.mem_cons, List.not_mem_nil, or_false] at hfields
    rcases hfields with hfields | hfields <;> rw [Document.object.inj hfields] <;> rfl
  obtain ⟨v, hv, hvconforms⟩ := Agreement.exists_validate (o := .standard)
    (d := .array [withSeverity (.string "warn"), withSeverity (.int 3)]) rfl
  obtain ⟨w, hw, hwconforms⟩ := Agreement.exists_validate (o := .standard)
    (d := .array [withSeverity (.string "WARNING"), withSeverity (.string "UNKNOWN_SEVERITY")]) rfl
  have hinvalid : v.valid = false := by
    rw [Bool.eq_false_iff]
    intro hvalid
    have hclean := (errors_node_eq_nil_iff "" _).mpr (hvconforms.mp hvalid).2
    cases hclean
  have hvalid : w.valid = true := hwconforms.mpr
    ⟨conforms_document_iff.mpr
      (.inr (.inl ((errors_check_eq_nil_iff wellTyped_diagnosticArray .standard "" _).mp rfl))),
      (errors_node_eq_nil_iff "" _).mp rfl⟩
  obtain ⟨report, hreport, hclean, hdocument, happlied, -⟩ := severities_are_mended .basic hform
    hindex hv hinvalid (show Validator.validate _ (mend _) = .ok w from hw) hvalid (Int.le_refl 1)
  refine ⟨report, hreport, hclean, hdocument, ?_⟩
  rw [happlied]
  rfl

end Proofs.SeverityRepair

end ReviewDiagnostics
