import ReviewDiagnostics.Proofs.ResultKept
import ReviewDiagnostics.Proofs.Strictness

/-!
# One finding per path

Where fields that are not declared are let pass, no two findings of a verdict have the same path.  What one
look finds lies apart; what both looks find at one path is superseded.  At the path of the whole document
nothing is found but that it is of no form, and then the check finds nothing else.
-/

namespace ReviewDiagnostics.Proofs.DistinctPaths

open Conformity FormatParts Origins Parts PathText Reconciliation ReviewFormat Separation Slots Strictness

variable {o : Options} {s : Schema} {d : Document} {base : List Segment} {step : Segment} {f g : Finding}
  {fields : Fields}

/-! ## Places and paths -/

theorem path_ne_of_parted (h : Parted f g) (hf : ¬ f.Idle) (hg : ¬ g.Idle) : f.path ≠ g.path := by
  obtain ⟨p, q, hp, hq, hfpath, hgpath, hapart⟩ := (h.resolve_left hf).resolve_left hg
  intro hsame
  rw [hfpath, hgpath] at hsame
  obtain rfl := ofSegments_injective hp hq hsame
  exact hapart.1 (List.prefix_refl p)

theorem path_ne_of_encloses (h : g.Encloses f) : g.path ≠ f.path := by
  obtain ⟨base, items, step, rest, -, hplain, rfl, hpath⟩ := h
  intro hsame
  rw [Finding.path_expecting, hpath] at hsame
  have hbase : ∀ s ∈ base, s.Plain := fun s hs => hplain s (List.mem_append_left _ hs)
  have hsteps := ofSegments_injective hbase hplain hsame
  simp at hsteps

theorem path_ne_root_of_under (h : Under (base ++ [step]) f) : f.path ≠ "" := by
  obtain ⟨rest, hplain, hpath⟩ := h
  rw [hpath]
  cases base with
  | nil => exact ofSegments_ne_empty (hplain step (by simp))
  | cons first base => exact ofSegments_ne_empty (hplain first (by simp))

/-! ## The second look -/

private theorem not_idle_of_noted {t : Schema} (h : Noted (Path.ofSegments base) fields t f) : ¬ f.Idle := by
  have hroot {name : String} (hname : PlainName name) :
      Refinement.inField (Path.ofSegments base) name ≠ "" := join_ne_empty (.inr hname)
  rintro (hcode | hpath)
  · cases h <;> cases hcode
  · cases h with
    | ordinal hname => rcases hname with rfl | rfl <;> exact hroot (by decide) hpath
    | _ => exact hroot (by decide) hpath

theorem not_idle_of_node (hf : f ∈ (Refinement.node (Path.ofSegments []) d).errors) : ¬ f.Idle := by
  obtain ⟨_, _, _, -, -, -, hnoted⟩ := traced_node [] d hf
  exact not_idle_of_noted hnoted

/-! ## The check -/

theorem path_ne_root_of_object {about : About} {required : List Document}
    {properties : List (String × Schema)} {additional : Bool}
    (hs : (Schema.object about required properties additional).PlainNames)
    (hcode : g.code ≠ .unknownProperty)
    (hg : g ∈ (check o (.object about required properties additional) (Path.ofSegments [])
      (.object fields)).errors) : g.path ≠ "" := by
  rcases mem_errors_object hs hg with hunknown | ⟨name, -, hplain, -, rfl⟩ | ⟨p, hp, c, -, hg⟩
  · exact (hcode hunknown).elim
  · exact path_ne_root_of_under (under_here (plain_field plain_nil hplain) rfl)
  · have hplain := plain_field plain_nil ((of_throughout hs).2 p hp)
    have hunder := (unknown_or_under_of_check (throughout_property hs hp) hplain hg).resolve_left hcode
    exact path_ne_root_of_under hunder

private theorem path_ne_root_of_array {about : About} {item : Schema} {items : List Document}
    (hs : (Schema.array about (some item)).PlainNames) (hcode : g.code ≠ .unknownProperty)
    (hg : g ∈ (check o (.array about (some item)) (Path.ofSegments []) (.array items)).errors) :
    g.path ≠ "" := by
  obtain ⟨i, hi, hg⟩ := mem_errors_array_iff.mp hg
  rw [← ofSegments_append] at hg
  have hunder := unknown_or_under_of_check (throughout_item hs) (plain_item plain_nil i) hg
  exact path_ne_root_of_under (hunder.resolve_left hcode)

private theorem alone_at_root_of_form (hs : s ∈ [diagnostic, diagnosticArray, diagnosticResult])
    (hcode : g.code ≠ .unknownProperty) (hg : g ∈ (check o s (Path.ofSegments []) d).errors)
    (hroot : g.path = "") : (check o s (Path.ofSegments []) d).errors = [g] := by
  have hplain := plainNames_of_throughout_inner (throughout_form hs)
  have hmismatch {k : Kind} (hkind : s.kind? = some k) (hother : d.kind? ≠ some k) :
      (check o s (Path.ofSegments []) d).errors = [g] := by
    rw [check_of_kind?_ne hkind hother] at hg ⊢
    rw [List.mem_singleton.mp hg]
    rfl
  simp only [List.mem_cons, List.not_mem_nil, or_false] at hs
  rcases hs with rfl | rfl | rfl
  · by_cases hkind : d.kind? = some .object
    · obtain ⟨fields, rfl⟩ := exists_fields_of_kind? hkind
      exact (path_ne_root_of_object hplain hcode hg hroot).elim
    · exact hmismatch rfl hkind
  · by_cases hkind : d.kind? = some .array
    · obtain ⟨items, rfl⟩ := exists_items_of_kind? hkind
      exact (path_ne_root_of_array hplain hcode hg hroot).elim
    · exact hmismatch rfl hkind
  · by_cases hkind : d.kind? = some .object
    · obtain ⟨fields, rfl⟩ := exists_fields_of_kind? hkind
      exact (path_ne_root_of_object hplain hcode hg hroot).elim
    · exact hmismatch rfl hkind

section

variable (hextra : o.allowExtra = true)

include hextra

private theorem alone_at_root (hg : g ∈ (check o document (Path.ofSegments []) d).errors)
    (hroot : g.path = "") :
    (check o document (Path.ofSegments []) d).errors = [g] := by
  have hcode := code_ne_unknown_of_letsPass hextra letsPass_document hg
  rw [document, check_oneOf_eq] at hg ⊢
  rcases Choice.errors_choose_cases with hnil | hnone | ⟨t, ht, herrors⟩
  · rw [hnil] at hg
    cases hg
  · rw [hnone] at hg ⊢
    rw [List.mem_singleton.mp hg]
  · rw [herrors] at hg ⊢
    obtain ⟨s, hs, rfl⟩ := List.mem_map.mp ht
    exact alone_at_root_of_form hs hcode hg hroot

/-- No two findings of the check have the same path. -/
theorem pairwise_check_path_ne :
    (check o document (Path.ofSegments []) d).errors.Pairwise fun f g => f.path ≠ g.path := by
  -- A finding about the whole document lies apart from nothing, but it stands alone.
  by_cases hroot : ∃ g ∈ (check o document (Path.ofSegments []) d).errors, g.path = ""
  · obtain ⟨g, hg, hroot⟩ := hroot
    rw [alone_at_root hextra hg hroot]
    exact List.pairwise_singleton _ _
  · have hlive : ∀ g ∈ (check o document (Path.ofSegments []) d).errors, ¬ g.Idle := by
      rintro g hg (hcode | hpath)
      · exact code_ne_unknown_of_letsPass hextra letsPass_document hg hcode
      · exact hroot ⟨g, hg, hpath⟩
    have hparted := pairwise_check (o := o) (d := d) plainNames_document
      (single_of_throughout_parts throughout_document) plain_nil
    exact hparted.imp_of_mem fun hf hg h => path_ne_of_parted h (hlive _ hf) (hlive _ hg)

private theorem path_ne_of_not_superseded (hg : g ∈ (check o document (Path.ofSegments []) d).errors)
    (hkept : (Refinement.node (Path.ofSegments []) d).errors.any (·.supersedes g) = false)
    (hf : f ∈ (Refinement.node (Path.ofSegments []) d).errors) : g.path ≠ f.path := by
  have hlive := not_idle_of_node hf
  rcases reconciled_document g hg with hsuperseded | hlies
  · rw [hkept] at hsuperseded
    contradiction
  · rcases hlies f hf with hparted | ⟨-, hencloses⟩
    · by_cases hroot : g.path = ""
      · rw [hroot]
        exact fun hpath => hlive (.inr hpath.symm)
      · have hcode := code_ne_unknown_of_letsPass hextra letsPass_document hg
        exact path_ne_of_parted hparted (not_or.mpr ⟨hcode, hroot⟩) hlive
    · exact path_ne_of_encloses hencloses

theorem pairwise_examine_path_ne :
    (Validator.examine ⟨o, document⟩ d).errors.Pairwise fun f g => f.path ≠ g.path := by
  rw [Validator.examine, ← ofSegments_nil]
  split
  · exact List.pairwise_singleton _ _
  · refine Merging.pairwise_mergeFindings Ne.symm ?stand id (pairwise_check_path_ne hextra) ?specific
      fun g hg hkept f hf => path_ne_of_not_superseded hextra hg hkept hf
    case stand =>
      intro s g x hsupersedes hne
      rwa [Merging.path_eq_of_supersedes hsupersedes]
    case specific =>
      exact (pairwise_node [] plain_nil d).imp_of_mem fun hf hg h =>
        path_ne_of_parted h (not_idle_of_node hf) (not_idle_of_node hg)

end

/-! ## Verdicts -/

private theorem length_codesAt_le {v : Verdict} (h : v.errors.Pairwise fun f g => f.path ≠ g.path)
    (path : String) :
    (v.codesAt path).length ≤ 1 := by
  rw [Verdict.codesAt, List.length_map]
  have hfilter := h.filter (·.path == path)
  have hpath : ∀ f ∈ v.errors.filter (·.path == path), f.path = path := by simp
  generalize v.errors.filter (·.path == path) = found at hfilter hpath ⊢
  match found, hfilter, hpath with
  | [], _, _ => exact Nat.zero_le 1
  | [_], _, _ => exact Nat.le_refl 1
  | f :: g :: rest, hfilter, hpath =>
      have hne := (List.pairwise_cons.mp hfilter).1 g List.mem_cons_self
      exact (hne ((hpath f (by simp)).trans (hpath g (by simp)).symm)).elim

/-- Where fields that are not declared are let pass, no two errors have the same path, so that there is
never more than one code at a path. -/
theorem one_error_per_path (strict : Bool) (d : Document) :
    ∃ v, Validator.validate ⟨⟨strict, true⟩, document⟩ d = .ok v ∧ (v.errors.map (·.path)).Nodup ∧
      ∀ path, (v.codesAt path).length ≤ 1 := by
  have hverdict := Outcome.verdict_of_fault_eq_none (ResultKept.fault_examine ⟨strict, true⟩ d)
  have hpaths := @pairwise_examine_path_ne ⟨strict, true⟩ d rfl
  refine ⟨_, hverdict, ?_, length_codesAt_le hpaths⟩
  rw [List.Nodup, List.pairwise_map]
  exact hpaths

end ReviewDiagnostics.Proofs.DistinctPaths
