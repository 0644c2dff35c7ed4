import ReviewDiagnostics.Proofs.Rounds
import ReviewDiagnostics.Proofs.SingleDiagnostic

/-!
# Results under repair

A result has a list of diagnostics and none of the fields that only a single diagnostic needs.  A round of
repairs adds such a field exactly if the result is judged as a single diagnostic, which happens where what is
found in its list takes it further away from a result than the missing fields take it away from a diagnostic.
A session keeps a result a result as long as that happens in none of its rounds.
-/

namespace ReviewDiagnostics

/-- Fields of a result: a list of diagnostics, but no message and no location. -/
structure Fields.OfResult (fields : Fields) : Prop where
  list : ∃ items, fields.get? "diagnostics" = some (.array items)
  message : fields.has "message" = false
  location : fields.has "location" = false

namespace Proofs.ResultKept

open Conformance Conformity Distance FormatParts Origins Parts PathText Ranking Reconciliation Repair RepairRound
  ReviewFormat Rounds Separation SingleDiagnostic Slots WellTyped

variable {o : Options} {level : FixLevel} {fields : Fields} {f : Finding} {name : String}
  {steps : List Segment}

/-! ## The form that a result is judged by -/

/-- How close fields with a list are to a result. -/
def nearListed (o : Options) (fields : Fields) : Int :=
  100 - distance ((check o diagnosticResult "" (.object fields)).errors.map (·.code))

/-- A single diagnostic is the closest form for fields with a list. -/
def MistakenForDiagnostic (o : Options) (fields : Fields) : Prop :=
  -55 ≤ nearDiagnostic o fields ∧
    (nearListed o fields < nearDiagnostic o fields ∨ nearListed o fields = nearDiagnostic o fields ∧
      Likelihood.score diagnosticResult (.object fields) ≤
        Likelihood.score diagnostic (.object fields))

theorem has_list (h : fields.OfResult) : fields.has "diagnostics" = true := by
  obtain ⟨items, hitems⟩ := h.list
  rw [Fields.has_eq_isSome_get?, hitems]
  rfl

theorem not_shaped (h : fields.OfResult) : Closeness.diagnosticShaped fields = false := by
  rw [Closeness.diagnosticShaped, has_list h]
  rfl

theorem score_listed (h : fields.OfResult) {codes : List Code} :
    Closeness.score diagnosticResult (.object fields) codes = 100 - distance codes := by
  rw [diagnosticResult, score_object]
  simp [Closeness.fieldTerms, Schema.requires, names, not_shaped h, has_list h]

theorem errors_diagnostic_ne_nil (h : fields.OfResult) :
    (check o diagnostic "" (.object fields)).errors ≠ [] := by
  rw [Ne, errors_check_eq_nil_iff wellTyped_diagnostic]
  intro hconforms
  have hmessage := Agreement.has_of_conforms "message" hconforms (by simp)
  rw [h.message] at hmessage
  contradiction

theorem nearDiagnostic_lt (o : Options) (h : fields.OfResult) : nearDiagnostic o fields < 100 := by
  have hdistance := three_mul_length_le_distance
    ((check o diagnostic "" (.object fields)).errors.map (·.code))
  have hlength := List.length_pos_iff.mpr (errors_diagnostic_ne_nil (o := o) h)
  rw [List.length_map] at hdistance
  simp only [nearDiagnostic, h.message, h.location, Bool.false_eq_true, if_false]
  omega

theorem conforms_result (h : fields.OfResult) (hconforms : Conforms o document (.object fields)) :
    Conforms o diagnosticResult (.object fields) := by
  rcases Agreement.conforms_document_iff.mp hconforms with hdiagnostic | hlist | hresult
  · exact (errors_diagnostic_ne_nil h
      ((errors_check_eq_nil_iff wellTyped_diagnostic o "" _).mpr hdiagnostic)).elim
  · cases hlist
  · exact hresult

theorem errors_document_listed (o : Options) (h : fields.OfResult) :
    (MistakenForDiagnostic o fields ∧ (check o document "" (.object fields)).errors =
      (check o diagnostic "" (.object fields)).errors) ∨
    (¬ MistakenForDiagnostic o fields ∧ (check o document "" (.object fields)).errors =
      [.expecting "" .typeMismatch (.object fields) "array"]) ∨
    (¬ MistakenForDiagnostic o fields ∧ (check o document "" (.object fields)).errors =
      (check o diagnosticResult "" (.object fields)).errors) := by
  by_cases hconforms : Conforms o document (.object fields)
  · have hclean : (check o diagnosticResult "" (.object fields)).errors = [] :=
      (errors_check_eq_nil_iff (wellTyped_form (by simp)) o "" _).mpr (conforms_result h hconforms)
    have hnear : nearListed o fields = 100 := by
      rw [nearListed, hclean]
      rfl
    have hfar := nearDiagnostic_lt o h
    refine .inr (.inr ⟨fun hmistaken => ?_, ?_⟩)
    · rw [MistakenForDiagnostic, hnear] at hmistaken
      omega
    · rw [hclean, errors_check_eq_nil_iff wellTyped_document]
      exact hconforms
  · have hdiagnostic : closeness (.object fields) (tried o (.object fields) diagnostic) =
        nearDiagnostic o fields := by
      rw [closeness, tried, score_diagnostic, nearDiagnostic]
    have hlist : closeness (.object fields) (tried o (.object fields) diagnosticArray) = -55 := rfl
    have hresult : closeness (.object fields) (tried o (.object fields) diagnosticResult) =
        nearListed o fields := by
      rw [closeness, tried, score_listed h, nearListed]
    have hunlikely : Likelihood.score diagnosticArray (.object fields) = 0 := score_eq_zero rfl
    have hlikely := score_nonneg diagnostic (.object fields)
    have hcases := errors_document_cases hconforms
    simp only [Overtakes, hdiagnostic, hlist, hresult] at hcases
    simp only [tried, hunlikely] at hcases
    simp only [MistakenForDiagnostic]
    rcases hcases with ⟨herrors, hnear, hfar⟩ | ⟨herrors, hnear, hfar⟩ | ⟨herrors, hnear, hfar⟩
    · exact .inl ⟨by grind, herrors⟩
    · exact .inr (.inl ⟨by grind, herrors⟩)
    · exact .inr (.inr ⟨by grind, herrors⟩)

theorem errors_examine (o : Options) (h : fields.OfResult) :
    (Validator.examine ⟨o, document⟩ (.object fields)).errors =
      mergeFindings (check o document "" (.object fields)).errors
        (Refinement.node "" (.object fields)).errors := by
  cases fields with
  | nil =>
      obtain ⟨items, hitems⟩ := h.list
      cases hitems
  | cons => rfl

/-! ## Mistaken for a single diagnostic -/

private theorem sweeps_field (hread : Path.parse f.path = .ok [.name name]) (g : Finding) :
    g.sweeps f = false := by
  rw [Bool.eq_false_iff]
  intro hsweeps
  obtain ⟨-, -, -, p, q, -, hq, hne, hprefix, hdiffer⟩ := sweeps_iff.mp hsweeps
  obtain rfl := Except.ok.inj (hread.symm.trans hq)
  rcases prefix_singleton hprefix with hnil | hpath
  · exact hne hnil
  · exact hdiffer hpath

theorem has_of_missing {kept : Fields} {text : String} {default : Document}
    (hkept : afterRound ⟨o, document⟩ level (.object fields) = .object kept)
    (hf : .expecting name .requiredPropertyMissing .null text ∈
      (Validator.examine ⟨o, document⟩ (.object fields)).errors)
    (hread : Path.parse name = .ok [.name name])
    (hdefault : missingDefault [.name name] (.string text) = .ok (some default)) :
    kept.has name = true := by
  have hrepair : (Finding.expecting name .requiredPropertyMissing .null text).repair? level =
      some ([.name name], default) := by
    refine repair?_eq_some_iff.mpr ⟨hread, ?_⟩
    rw [plan, if_neg (by simp [isAggressive])]
    exact hdefault
  have hrepaired : Finding.repaired level (Validator.examine ⟨o, document⟩ (.object fields)).errors
      (.expecting name .requiredPropertyMissing .null text) = Finding.fixable level _ :=
    repaired_eq_fixable fun _ g _ => sweeps_field hread g
  have hwritten := (rewritten_afterRound o level (.object fields)).written _
    (mem_writes.mpr ⟨_, hf, hrepaired.trans (fixable_iff.mpr ⟨_, _, hrepair⟩), hrepair⟩)
  rw [hkept, slot?_field] at hwritten
  rw [Fields.has_eq_isSome_get?, Option.some.inj hwritten]
  rfl

theorem errors_node_listed {items : List Document} (h : fields.OfResult)
    (hitems : fields.get? "diagnostics" = some (.array items))
    (hf : f ∈ (Refinement.node (Path.ofSegments []) (.object fields)).errors) :
    Under [.name "severity"] f ∨ ∃ i : Nat, Under [.name "diagnostics", .index i] f := by
  rw [Refinement.node, not_shaped h, if_neg (by simp), has_list h, if_pos rfl, Outcome.errors_append,
    List.mem_append, inField_ofSegments] at hf
  rcases hf with hf | hf
  · rw [errors_listIn_of_list hitems, nodes_eq_join] at hf
    simp only [Nat.zero_add] at hf
    obtain ⟨i, hi, hf⟩ := Outcome.mem_errors_join_mapIdx.mp hf
    rw [← ofSegments_append] at hf
    exact .inr ⟨i, under_of_traced (plain_item (plain_field plain_nil (by decide)) i)
      (traced_node _ _ hf)⟩
  · exact .inl (under_field plain_nil (by decide) (path_severity hf))

theorem path_ne_of_under {first : String} {more : List Segment} (hf : Under (.name first :: more) f)
    (hread : Path.parse name = .ok [.name name]) (hne : first ≠ name) : f.path ≠ name := by
  intro hpath
  obtain ⟨rest, hplain, htext⟩ := hf
  have hother : Path.parse (Path.ofSegments (.name first :: more ++ rest)) = .ok [.name name] := by
    rw [← htext, hpath, hread]
  have hsteps := eq_of_parse hplain hother
  rw [List.cons_append] at hsteps
  exact hne (Segment.name.inj (List.cons.inj hsteps).1).symm

theorem exists_missing (h : fields.OfResult) (hmistaken : MistakenForDiagnostic o fields)
    (hread : Path.parse name = .ok [.name name]) (hname : .string name ∈ names ["message", "location"])
    (hfield : fields.has name = false) :
    ∃ text, .expecting name .requiredPropertyMissing .null text ∈
      (Validator.examine ⟨o, document⟩ (.object fields)).errors := by
  obtain ⟨items, hitems⟩ := h.list
  have hgeneric : ∃ text, .expecting name .requiredPropertyMissing .null text ∈
      (check o document "" (.object fields)).errors := by
    rcases errors_document_listed o h with ⟨-, herrors⟩ | ⟨hnot, -⟩ | ⟨hnot, -⟩
    · rw [herrors, diagnostic]
      exact ⟨_, mem_errors_of_missing hname hfield⟩
    · exact (hnot hmistaken).elim
    · exact (hnot hmistaken).elim
  obtain ⟨text, hgeneric⟩ := hgeneric
  refine ⟨text, ?_⟩
  rw [errors_examine o h]
  refine Merging.mem_mergeFindings.mpr (.inl ⟨hgeneric, List.any_eq_false.mpr fun s hs hsupersedes => ?_⟩)
  have hpath : s.path = name := Merging.path_eq_of_supersedes hsupersedes
  -- What the second look finds is inside the list or at the severity, so that it supersedes nothing here.
  have hdistinct : ∀ first ∈ ["severity", "diagnostics"], first ≠ name := by
    simp only [names, List.map_cons, List.map_nil, List.mem_cons, List.not_mem_nil, or_false,
      Document.string.injEq] at hname
    rcases hname with rfl | rfl <;> decide
  rcases errors_node_listed h hitems hs with hunder | ⟨i, hunder⟩
  · exact path_ne_of_under hunder hread (hdistinct _ (by simp)) hpath
  · exact path_ne_of_under hunder hread (hdistinct _ (by simp)) hpath

/-- A result that is mistaken for a single diagnostic gets both fields that it lacks. -/
theorem afterRound_of_mistaken (level : FixLevel) (h : fields.OfResult)
    (hmistaken : MistakenForDiagnostic o fields) :
    ∃ kept : Fields, afterRound ⟨o, document⟩ level (.object fields) = .object kept ∧
      kept.has "message" = true ∧ kept.has "location" = true := by
  obtain ⟨kept, hkept, -⟩ := object_afterRound o level fields
  have hmessage : Path.parse "message" = .ok [.name "message"] := by cbv
  have hlocation : Path.parse "location" = .ok [.name "location"] := by cbv
  obtain ⟨text, hmissing⟩ := exists_missing h hmistaken hmessage (by simp [names]) h.message
  obtain ⟨text', hmissing'⟩ := exists_missing h hmistaken hlocation (by simp [names]) h.location
  exact ⟨kept, hkept, has_of_missing hkept hmissing hmessage rfl,
    has_of_missing hkept hmissing' hlocation rfl⟩

/-! ## Recognized as a result -/

/-- A finding whose repair, if there is one, goes into the list of a result or into other fields than those
of a single diagnostic. -/
def Elsewhere (f : Finding) : Prop :=
  f.Idle ∨ Under [.name "severity"] f ∨ Under [.name "source"] f ∨
    ∃ i : Nat, Under [.name "diagnostics", .index i] f

private theorem elsewhere_of_result {items : List Document} (h : fields.OfResult)
    (hitems : fields.get? "diagnostics" = some (.array items))
    (hf : f ∈ (check o diagnosticResult (Path.ofSegments []) (.object fields)).errors) :
    Elsewhere f := by
  have hplain := plainNames_component diagnosticResult (by simp [components])
  rcases mem_errors_object hplain hf with
    hunknown | ⟨name, hname, -, hfield, -⟩ | ⟨p, hp, c, hc, hf⟩
  · exact .inl (.inl hunknown)
  · obtain rfl : name = "diagnostics" := by simpa [names] using hname
    rw [has_list h] at hfield
    contradiction
  · have hinside := throughout_property hplain hp
    simp only [List.mem_cons, List.not_mem_nil, or_false] at hp
    rcases hp with rfl | rfl | rfl
    · obtain rfl := Option.some.inj (hitems.symm.trans hc)
      obtain ⟨i, hi, hf⟩ := mem_errors_array_iff.mp hf
      rw [← ofSegments_append] at hf
      exact (idle_or_under_of_check (throughout_item hinside)
        (plain_item (plain_field plain_nil (by decide)) i) hf).imp_right fun h => .inr (.inr ⟨i, h⟩)
    · exact (idle_or_under_of_check hinside (plain_field plain_nil (by decide)) hf).imp_right
        fun h => .inr (.inl h)
    · exact (idle_or_under_of_check hinside (plain_field plain_nil (by decide)) hf).imp_right .inl

theorem elsewhere_of_mem_examine (h : fields.OfResult) (hresult : ¬ MistakenForDiagnostic o fields)
    (hf : f ∈ (Validator.examine ⟨o, document⟩ (.object fields)).errors) : Elsewhere f := by
  obtain ⟨items, hitems⟩ := h.list
  rw [errors_examine o h] at hf
  rcases Merging.mem_mergeFindings.mp hf with ⟨hf, -⟩ | hf
  · rcases errors_document_listed o h with ⟨hmistaken, -⟩ | ⟨-, herrors⟩ | ⟨-, herrors⟩
    · exact (hresult hmistaken).elim
    · rw [herrors] at hf
      exact .inl (.inr (List.mem_singleton.mp hf ▸ rfl))
    · rw [herrors] at hf
      exact elsewhere_of_result h hitems hf
  · rcases errors_node_listed h hitems hf with hunder | hunder
    · exact .inr (.inl hunder)
    · exact .inr (.inr (.inr hunder))

theorem exists_step_of_under {first : String} {more : List Segment} (h : Under (.name first :: more) f)
    (hread : Path.parse f.path = .ok steps) : ∃ rest, steps = .name first :: rest ∧ more <+: rest := by
  obtain ⟨rest, hplain, hpath⟩ := h
  rw [hpath] at hread
  exact ⟨more ++ rest, eq_of_parse hplain hread, List.prefix_append more rest⟩

theorem exists_step_of_mem_writes (h : fields.OfResult) (hresult : ¬ MistakenForDiagnostic o fields)
    {w : List Segment × Document} (hw : w ∈ writes o level (.object fields)) :
    ∃ first ∈ ["severity", "source", "diagnostics"], ∃ rest, w.1 = .name first :: rest ∧
      (first = "diagnostics" → rest ≠ []) := by
  obtain ⟨f, hf, -, hrepair⟩ := mem_writes.mp hw
  have hread := (repair?_eq_some_iff.mp hrepair).1
  rcases elsewhere_of_mem_examine h hresult hf with hidle | hunder | hunder | ⟨i, hunder⟩
  · exact (not_idle_of_fixable (fixable_iff.mpr ⟨_, _, hrepair⟩) hidle).elim
  · obtain ⟨rest, hsteps, -⟩ := exists_step_of_under hunder hread
    exact ⟨_, by simp, rest, hsteps, by simp⟩
  · obtain ⟨rest, hsteps, -⟩ := exists_step_of_under hunder hread
    exact ⟨_, by simp, rest, hsteps, by simp⟩
  · obtain ⟨rest, hsteps, hprefix⟩ := exists_step_of_under hunder hread
    exact ⟨_, by simp, rest, hsteps, fun _ => hprefix.ne_nil (by simp)⟩

/-- A round leaves a result that is recognized as one without the fields of a diagnostic, and with its
list. -/
theorem afterRound_of_recognized (level : FixLevel) (h : fields.OfResult)
    (hresult : ¬ MistakenForDiagnostic o fields) :
    ∃ kept : Fields, afterRound ⟨o, document⟩ level (.object fields) = .object kept ∧
      kept.OfResult := by
  obtain ⟨kept, hkept, -⟩ := object_afterRound o level fields
  obtain ⟨items, hitems⟩ := h.list
  have hrewritten := rewritten_afterRound o level (.object fields)
  rw [hkept] at hrewritten
  have hlacks {name : String} (hfield : fields.has name = false)
      (hdistinct : ∀ first ∈ ["severity", "source", "diagnostics"], first ≠ name) :
      kept.has name = false := by
    have hslot := hrewritten.apart [.name name] fun w hw => by
      obtain ⟨first, hfirst, rest, hsteps, -⟩ := exists_step_of_mem_writes h hresult hw
      rw [hsteps]
      exact apart_cons_iff.mpr fun heq => (hdistinct first hfirst (Segment.name.inj heq)).elim
    rw [slot?_field, slot?_field, SecondLook.get?_of_has_eq_false hfield] at hslot
    rw [Fields.has_eq_isSome_get?, Option.some.inj hslot]
    rfl
  obtain ⟨y, hy, hshape⟩ := hrewritten.above [.name "diagnostics"] (.array items)
    (fun w hw hprefix => by
      obtain ⟨first, -, rest, hsteps, hrest⟩ := exists_step_of_mem_writes h hresult hw
      rw [hsteps, List.cons_prefix_cons, List.prefix_nil] at hprefix
      exact hrest (Segment.name.inj hprefix.1) hprefix.2)
    (by rw [slot?_field, hitems])
  rw [slot?_field] at hy
  cases y with
  | array after =>
      exact ⟨kept, hkept, ⟨after, Option.some.inj hy⟩, hlacks h.message (by decide),
        hlacks h.location (by decide)⟩
  | _ => cases hshape

/-! ## Sessions -/

theorem fault_examine (o : Options) (d : Document) :
    (Validator.examine ⟨o, document⟩ d).fault = none := by
  rw [Validator.examine]
  split
  · rfl
  · exact fault_check wellTyped_document o "" d

theorem lacks_afterRounds_iff {kept : Fields} {n : Nat} (h : fields.OfResult)
    (hkept : afterRounds ⟨o, document⟩ level n (.object fields) = .object kept) :
    (kept.has "message" = false ∧ kept.has "location" = false) ↔
      ∀ k < n, ∀ reached : Fields,
        afterRounds ⟨o, document⟩ level k (.object fields) = .object reached →
          ¬ MistakenForDiagnostic o reached := by
  induction n generalizing fields with
  | zero =>
      obtain rfl := Document.object.inj hkept
      exact iff_of_true ⟨h.message, h.location⟩ (by simp)
  | succ n ih =>
      by_cases hmistaken : MistakenForDiagnostic o fields
      · refine iff_of_false (fun hlacks => ?_) fun hnever =>
          hnever 0 (Nat.succ_pos n) fields rfl hmistaken
        obtain ⟨next, hnext, hmessage, -⟩ := afterRound_of_mistaken level h hmistaken
        obtain ⟨last, hlast, hfields⟩ := object_afterRounds o level n next
        rw [afterRounds, hnext, hlast] at hkept
        obtain rfl := Document.object.inj hkept
        rw [hfields "message" hmessage] at hlacks
        exact Bool.noConfusion hlacks.1
      · obtain ⟨next, hnext, hresult⟩ := afterRound_of_recognized level h hmistaken
        rw [afterRounds, hnext] at hkept
        rw [ih hresult hkept]
        constructor
        · intro hnever k hk reached hreached
          cases k with
          | zero =>
              obtain rfl := Document.object.inj hreached
              exact hmistaken
          | succ k =>
              rw [afterRounds, hnext] at hreached
              exact hnever k (by omega) reached hreached
        · intro hnever k hk reached hreached
          refine hnever (k + 1) (by omega) reached ?_
          rw [afterRounds, hnext, hreached]

/-- A session leaves a result without message and location exactly if none of its rounds starts from a
document that is mistaken for a single diagnostic. -/
theorem result_kept_iff (o : Options) (level : FixLevel) (passes : Document) (n : Nat) (fields : Fields)
    (hpasses : Session.passCount passes = .ok n) (h : fields.OfResult) :
    ∃ report, ∃ kept : Fields,
      (Session.run ⟨o, document⟩ ⟨true, .ok level, passes⟩ (.object fields)).result = .ok report ∧
      report.document = .object kept ∧
      ((kept.has "message" = false ∧ kept.has "location" = false) ↔
        ∀ k < n, ∀ reached : Fields,
          afterRounds ⟨o, document⟩ level k (.object fields) = .object reached →
            ¬ MistakenForDiagnostic o reached) := by
  obtain ⟨report, hreport, hdocument, -⟩ :=
    exists_report level (fault_examine o) hpasses (.object fields)
  obtain ⟨kept, hkept, -⟩ := object_afterRounds o level n fields
  exact ⟨report, kept, hreport, hdocument.trans hkept, lacks_afterRounds_iff h hkept⟩

/-- A result whose list holds one number stays a result in a round. -/
theorem result_kept_of_number :
    Session.passCount (.int 1) = .ok 1 ∧
    Fields.OfResult [("diagnostics", .array [.int 1])] ∧
    ∃ report, ∃ kept : Fields,
      (Session.run Validator.standard ⟨true, .ok .basic, .int 1⟩
        (.object [("diagnostics", .array [.int 1])])).result = .ok report ∧
      report.document = .object kept ∧ kept.has "message" = false ∧ kept.has "location" = false := by
  have hresult : Fields.OfResult [("diagnostics", .array [.int 1])] := ⟨⟨_, rfl⟩, rfl, rfl⟩
  refine ⟨rfl, hresult, ?_⟩
  obtain ⟨report, kept, hreport, hdocument, hlacks⟩ :=
    result_kept_iff .standard .basic (.int 1) 1 _ rfl hresult
  refine ⟨report, kept, hreport, hdocument, hlacks.mpr fun k hk reached hreached hmistaken => ?_⟩
  obtain rfl : k = 0 := by omega
  obtain rfl := Document.object.inj hreached
  have hdiagnostic : nearDiagnostic .standard [("diagnostics", .array [.int 1])] = 30 := by decide
  have hlisted : nearListed .standard [("diagnostics", .array [.int 1])] = 45 := by decide
  rw [MistakenForDiagnostic, hdiagnostic, hlisted] at hmistaken
  omega

/-- A result whose list holds two numbers becomes a single diagnostic in a round. -/
theorem not_result_kept_of_two_numbers :
    Fields.OfResult [("diagnostics", .array [.int 1, .int 2])] ∧
    ∃ report, ∃ kept : Fields,
      (Session.run Validator.standard ⟨true, .ok .basic, .int 1⟩
        (.object [("diagnostics", .array [.int 1, .int 2])])).result = .ok report ∧
      report.document = .object kept ∧ kept.has "message" = true ∧ kept.has "location" = true := by
  have hresult : Fields.OfResult [("diagnostics", .array [.int 1, .int 2])] := ⟨⟨_, rfl⟩, rfl, rfl⟩
  refine ⟨hresult, ?_⟩
  have hmistaken : MistakenForDiagnostic .standard [("diagnostics", .array [.int 1, .int 2])] :=
    ⟨by decide, .inl (by decide)⟩
  obtain ⟨report, hreport, hdocument, -⟩ := @exists_report _ (.int 1) 1 .basic
    (fault_examine .standard) rfl
    (.object [("diagnostics", .array [.int 1, .int 2])])
  obtain ⟨kept, hkept, hmessage, hlocation⟩ := afterRound_of_mistaken .basic hresult hmistaken
  exact ⟨report, kept, hreport, hdocument.trans hkept, hmessage, hlocation⟩

end Proofs.ResultKept

end ReviewDiagnostics
