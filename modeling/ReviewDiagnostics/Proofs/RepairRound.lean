import ReviewDiagnostics.Proofs.Distance
import ReviewDiagnostics.Proofs.Reconciliation
import ReviewDiagnostics.Repair.Fixer

/-!
# What a round of repairs does

A round plans with the values that stand in the document when a finding's turn comes, whereas the question
whether a finding can be repaired is answered from the finding alone.  The answers agree because every
finding reports what stands at its path and the repairs before it lie apart from that path.  The exception
are findings inside a list that an earlier repair replaces by an object: their places are gone.
-/

namespace ReviewDiagnostics

namespace Finding

/-- What is planned to be written for a finding, and where, by what the finding reports. -/
def repair? (level : FixLevel) (f : Finding) : Option (List Segment × Document) :=
  match Path.parse f.path with
  | .error _ => none
  | .ok steps =>
    match Repair.plan level f steps f.value with
    | .ok (some after) => some (steps, after)
    | _ => none

/-- Whether a finding is said to be repairable. -/
def fixable (level : FixLevel) (f : Finding) : Bool :=
  match Repair.canFix level f with
  | .ok b => b
  | .error _ => false

/-- Whether a finding is said to be repairable and no repair of other findings sweeps its place away. -/
def repaired (level : FixLevel) (findings : List Finding) (f : Finding) : Bool :=
  f.fixable level && !findings.any (·.sweeps f)

/-- A finding reports what stands at its path, as far as the path is read. -/
def Holds (d : Document) (f : Finding) : Prop :=
  ∀ steps, Path.parse f.path = .ok steps → d.slot? steps = some f.content?

/-- Whether the place of a finding is gone. -/
def barred (d : Document) (f : Finding) : Bool :=
  match Path.parse f.path with
  | .error _ => false
  | .ok steps => d.bars steps

end Finding

/-- Repairing a finding about a document writes a value. -/
structure Writes (level : FixLevel) (d : Document) (f : Finding) (steps : List Segment)
    (before after d' : Document) : Prop where
  read : Path.parse f.path = .ok steps
  found : ∃ slot, d.at? steps = .ok slot ∧ slot.getD .null = before
  planned : Repair.plan level f steps before = .ok (some after)
  written : d.set? steps after = some d'

/-- What is planned for a finding is written at its path, where what the finding reports stands. -/
structure Treated (level : FixLevel) (d : Document) (f : Finding) (steps : List Segment)
    (after d' : Document) : Prop where
  planned : f.repair? level = some (steps, after)
  holds : f.Holds d
  written : d.set? steps after = some d'
  replaced : Proofs.Slots.Replaced d steps after d'

namespace Proofs.RepairRound

open Addresses Conformity Origins PathText Reconciliation Repair Separation Slots

variable {level : FixLevel} {d d' : Document} {f g : Finding} {steps : List Segment}
  {before after : Document} {findings : List Finding} {r : Round}

/-! ## Plans -/

theorem repair?_eq_some_iff : f.repair? level = some (steps, after) ↔
    Path.parse f.path = .ok steps ∧ plan level f steps f.value = .ok (some after) := by
  rw [Finding.repair?]
  cases Path.parse f.path with
  | error fault => simp
  | ok read =>
      dsimp only
      constructor
      · intro h
        split at h
        · rename_i hplan
          obtain ⟨rfl, rfl⟩ := Prod.mk.inj (Option.some.inj h)
          exact ⟨rfl, hplan⟩
        · cases h
      · rintro ⟨hread, hplan⟩
        obtain rfl := Except.ok.inj hread
        rw [hplan]

theorem fixable_iff : f.fixable level = true ↔ ∃ steps after, f.repair? level = some (steps, after) := by
  simp only [repair?_eq_some_iff]
  rw [Finding.fixable, canFix]
  cases Path.parse f.path with
  | error fault => simp [bind, Except.bind]
  | ok read =>
      cases hplan : plan level f read f.value with
      | error fault => simp [bind, Except.bind, hplan]
      | ok after? =>
          cases after? with
          | none => simp [bind, Except.bind, pure, Except.pure, hplan]
          | some after => simp [bind, Except.bind, pure, Except.pure, hplan]

theorem plan_nil : plan level f [] before = .ok none := by
  rw [plan, if_pos (by simp)]

theorem plan_unknown (h : f.code = .unknownProperty) : plan level f steps before = .ok none := by
  rw [plan, h]
  split <;> rfl

theorem reaches_of_plan (h : plan level f steps before = .ok (some after)) :
    ¬ (steps.isEmpty = true ∨ isAggressive f.code = true ∧ level ≠ .aggressive) := by
  intro hnot
  rw [plan, if_pos hnot] at h
  cases h

theorem ne_nil_of_plan (h : plan level f steps before = .ok (some after)) : steps ≠ [] := by
  rintro rfl
  rw [plan_nil] at h
  cases h

section

variable (h : plan level f steps before = .ok (some after))

include h

theorem missingDefault_of_plan (hcode : f.code ∈ [.requiredPropertyMissing, .missingDiagnosticMessage,
    .missingDiagnosticLocation]) : missingDefault steps f.expected = .ok (some after) := by
  have hreaches := reaches_of_plan h
  rw [plan, if_neg hreaches] at h
  simp only [List.mem_cons, List.not_mem_nil, or_false] at hcode
  rcases hcode with hcode | hcode | hcode <;> rwa [hcode] at h

theorem eq_normalize_of_plan (hcode : f.code = .invalidSeverity) :
    after = .string (Severity.normalize before) := by
  have hreaches := reaches_of_plan h
  rw [plan, if_neg hreaches, hcode] at h
  exact (Option.some.inj (Except.ok.inj h)).symm

theorem positionValue_of_plan (hcode : f.code = .invalidPosition) :
    positionValue steps before = some after := by
  have hreaches := reaches_of_plan h
  rw [plan, if_neg hreaches, hcode] at h
  exact Except.ok.inj h

theorem code_of_plan : f.code ∉ [.unknownProperty, .oneofValidationFailed, .patternMismatch,
    .enumValidationFailed, .invalidRange] := by
  intro hcode
  have hreaches := reaches_of_plan h
  rw [plan, if_neg hreaches] at h
  simp only [List.mem_cons, List.not_mem_nil, or_false] at hcode
  rcases hcode with hcode | hcode | hcode | hcode | hcode <;> rw [hcode] at h <;> cases h

end

theorem not_idle_of_fixable (h : f.fixable level = true) : ¬ f.Idle := by
  obtain ⟨steps, after, hrepair⟩ := fixable_iff.mp h
  obtain ⟨hread, hplan⟩ := repair?_eq_some_iff.mp hrepair
  rintro (hcode | hroot)
  · rw [plan_unknown hcode] at hplan
    cases hplan
  · rw [hroot] at hread
    obtain rfl := Except.ok.inj (parse_empty.symm.trans hread)
    exact ne_nil_of_plan hplan rfl

/-! ## One finding -/

theorem applyFix_of_writes (h : Writes level d f steps before after d') :
    applyFix level d f = .ok ⟨d', some ⟨f.path, fixMessage f.code before after, before, after⟩,
      [.fixed f.code f.path]⟩ := by
  obtain ⟨slot, hslot, rfl⟩ := h.found
  simp only [applyFix, h.read, hslot, h.planned, h.written, bind, Except.bind, pure, Except.pure]

theorem step_of_writes (h : Writes level r.document f steps before after d') :
    (Round.step level r f).document = d' ∧
      (Round.step level r f).applied =
        r.applied ++ [⟨f.path, fixMessage f.code before after, before, after⟩] ∧
      (Round.step level r f).remaining = r.remaining := by
  simp [Round.step, applyFix_of_writes h]

theorem step_of_not_writes
    (h : ∀ steps before after d', ¬ Writes level r.document f steps before after d') :
    (Round.step level r f).document = r.document ∧ (Round.step level r f).applied = r.applied ∧
      (Round.step level r f).remaining = r.remaining ++ [f] := by
  have hfix : (∃ fault, applyFix level r.document f = .error fault) ∨
      ∃ events, applyFix level r.document f = .ok ⟨r.document, none, events⟩ := by
    simp only [applyFix, bind, Except.bind, pure, Except.pure]
    cases hread : Path.parse f.path with
    | error fault => exact .inl ⟨fault, rfl⟩
    | ok steps =>
        cases hslot : r.document.at? steps with
        | error fault => exact .inl ⟨fault, by simp [hslot]⟩
        | ok slot =>
            cases hplan : plan level f steps (slot.getD .null) with
            | error fault => exact .inl ⟨fault, by simp [hslot, hplan]⟩
            | ok after? =>
                cases after? with
                | none => exact .inr ⟨[], by simp [hslot, hplan]⟩
                | some after =>
                    cases hwritten : r.document.set? steps after with
                    | none => exact .inr ⟨_, by simp [hslot, hplan, hwritten]; rfl⟩
                    | some d' =>
                        exact (h steps _ after d' ⟨hread, ⟨slot, hslot, rfl⟩, hplan, hwritten⟩).elim
  rcases hfix with ⟨fault, hfix⟩ | ⟨events, hfix⟩ <;> simp [Round.step, hfix]

theorem at?_of_holds (hread : Path.parse f.path = .ok steps) (hholds : f.Holds d)
    (hnull : f.code.isAbsence = true → f.value = .null) :
    ∃ slot, d.at? steps = .ok slot ∧ slot.getD .null = f.value := by
  refine ⟨_, at?_of_slot? (hholds steps hread), ?_⟩
  rw [Finding.content?]
  split
  · rename_i habsent
    exact (hnull habsent).symm
  · rfl

theorem exists_writes (hrepair : f.repair? level = some (steps, after)) (hholds : f.Holds d)
    (hnull : f.code.isAbsence = true → f.value = .null) :
    ∃ d', Writes level d f steps f.value after d' ∧ Replaced d steps after d' := by
  obtain ⟨hread, hplan⟩ := repair?_eq_some_iff.mp hrepair
  obtain ⟨d', hset, hreplaced⟩ := exists_replaced (ne_nil_of_plan hplan) (hholds steps hread) after
  exact ⟨d', ⟨hread, at?_of_holds hread hholds hnull, hplan, hset⟩, hreplaced⟩

theorem not_writes_of_idle (h : f.Idle) : ¬ Writes level d f steps before after d' := by
  intro hwrites
  rcases h with hcode | hroot
  · have hplan := hwrites.planned
    rw [plan_unknown hcode] at hplan
    cases hplan
  · have hread := hwrites.read
    rw [hroot] at hread
    obtain rfl := Except.ok.inj (parse_empty.symm.trans hread)
    exact ne_nil_of_plan hwrites.planned rfl

theorem fixable_of_writes (hwrites : Writes level d f steps before after d') (hholds : f.Holds d)
    (hnull : f.code.isAbsence = true → f.value = .null) : f.fixable level = true := by
  obtain ⟨slot, hslot, hvalue⟩ := at?_of_holds hwrites.read hholds hnull
  obtain ⟨other, hother, rfl⟩ := hwrites.found
  obtain rfl := Except.ok.inj (hslot.symm.trans hother)
  exact fixable_iff.mpr ⟨steps, after, repair?_eq_some_iff.mpr ⟨hwrites.read, hvalue ▸ hwrites.planned⟩⟩

theorem not_writes_of_barred (h : f.barred d = true) : ¬ Writes level d f steps before after d' := by
  intro hwrites
  rw [Finding.barred, hwrites.read] at h
  have hset := hwrites.written
  rw [set?_of_bars h] at hset
  cases hset

/-! ## Findings whose places are swept away -/

theorem sweeps_iff : f.sweeps g = true ↔ f.code = .typeMismatch ∧ (∃ items, f.value = .array items) ∧
    f.expected = .string Kind.object.word ∧
    ∃ p q, Path.parse f.path = .ok p ∧ Path.parse g.path = .ok q ∧ p ≠ [] ∧ p <+: q ∧ p ≠ q := by
  rw [Finding.sweeps]
  constructor
  · intro h
    split at h
    · rename_i items kind p q hcode hvalue hexpected hp hq
      simp only [Bool.and_eq_true, beq_iff_eq, bne_iff_ne, Bool.not_eq_true', List.isEmpty_eq_false_iff,
        List.isPrefixOf_iff_prefix] at h
      obtain ⟨⟨⟨rfl, hne⟩, hprefix⟩, hdiffer⟩ := h
      exact ⟨hcode, ⟨items, hvalue⟩, hexpected, p, q, hp, hq, hne, hprefix, hdiffer⟩
    · cases h
  · rintro ⟨hcode, ⟨items, hvalue⟩, hexpected, p, q, hp, hq, hne, hprefix, hdiffer⟩
    simp only [hcode, hvalue, hexpected, hp, hq]
    simpa [hne, hdiffer, List.isPrefixOf_iff_prefix] using hprefix

theorem plan_of_object_expected (hcode : f.code = .typeMismatch)
    (hexpected : f.expected = .string Kind.object.word) (hsteps : steps ≠ []) :
    plan level f steps before = .ok (Coercion.coerce (some .object) before) := by
  have hkind : Coercion.expectedKind? (.string Kind.object.word) = .ok (some .object) := rfl
  rw [plan, if_neg (by simp [hsteps, hcode, isAggressive]), hcode, hexpected]
  simp only [hkind]
  rfl

theorem repair?_of_sweeps (h : f.sweeps g = true) : ∃ p step rest,
    f.repair? level = some (p, .object []) ∧ Path.parse g.path = .ok (p ++ step :: rest) := by
  obtain ⟨hcode, ⟨items, hvalue⟩, hexpected, p, q, hp, hq, hne, ⟨tail, rfl⟩, hdiffer⟩ := sweeps_iff.mp h
  cases tail with
  | nil => simp at hdiffer
  | cons step rest =>
      refine ⟨p, step, rest, repair?_eq_some_iff.mpr ⟨hp, ?_⟩, hq⟩
      rw [hvalue]
      exact plan_of_object_expected hcode hexpected hne

private theorem not_idle_of_sweeps (h : f.sweeps g = true) : ¬ f.Idle := by
  obtain ⟨p, step, rest, hrepair, -⟩ := @repair?_of_sweeps .basic f g h
  exact not_idle_of_fixable (fixable_iff.mpr ⟨p, _, hrepair⟩)

theorem sweeps_eq_false_of_separate (h : Separate f g) (hg : ¬ g.Idle) : f.sweeps g = false := by
  rw [Bool.eq_false_iff]
  intro hsweeps
  rcases h with hidle | hidle | hapart
  · exact not_idle_of_sweeps hsweeps hidle
  · exact hg hidle
  · obtain ⟨-, -, -, p, q, hp, hq, -, hprefix, -⟩ := sweeps_iff.mp hsweeps
    exact (hapart p q hp hq).1 hprefix

theorem sweeps_asymm (h : f.sweeps g = true) : g.sweeps f = false := by
  rw [Bool.eq_false_iff]
  intro hback
  obtain ⟨-, -, -, p, q, hp, hq, -, hpq, hne⟩ := sweeps_iff.mp h
  obtain ⟨-, -, -, q', p', hq', hp', -, hqp, -⟩ := sweeps_iff.mp hback
  obtain rfl := Except.ok.inj (hp.symm.trans hp')
  obtain rfl := Except.ok.inj (hq.symm.trans hq')
  exact hne (hpq.eq_of_length_le hqp.length_le)

theorem sweeps_irrefl : f.sweeps f = false := by
  by_cases h : f.sweeps f = true
  · exact sweeps_asymm h
  · simpa using h

theorem barred_of_sweeps (hsweeps : f.sweeps g = true) (hf : f.Holds d)
    (hg : g.barred d = true ∨ g.Holds d) (hrepair : f.repair? level = some (steps, after))
    (hreplaced : Replaced d steps after d') : g.barred d' = true := by
  obtain ⟨hcode, ⟨items, hvalue⟩, -⟩ := sweeps_iff.mp hsweeps
  obtain ⟨p, step, rest, hplanned, hq⟩ := @repair?_of_sweeps level f g hsweeps
  obtain ⟨rfl, rfl⟩ := Prod.mk.inj (Option.some.inj (hrepair.symm.trans hplanned))
  have hslot : d.slot? steps = some (some (.array items)) := by
    rw [hf steps (repair?_eq_some_iff.mp hrepair).1, Finding.content?, hcode, hvalue]
    rfl
  obtain ⟨n, rfl⟩ : ∃ n, step = .index n := by
    cases step with
    | index n => exact ⟨n, rfl⟩
    | name s =>
        rcases hg with hbarred | hholds
        · rw [Finding.barred, hq] at hbarred
          dsimp only at hbarred
          rw [bars_append_of_slot? hslot] at hbarred
          cases hbarred
        · have hreached := hholds _ hq
          rw [slot?_append hslot] at hreached
          cases hreached
  -- Where the list was, the path goes on with an index from an object.
  rw [Finding.barred, hq]
  exact bars_iff.mpr ⟨steps, n, rest, [], rfl, hreplaced.written⟩

theorem barred_of_barred_sweeps (hsweeps : f.sweeps g = true) (h : f.barred d = true) :
    g.barred d = true := by
  obtain ⟨p, step, rest, hrepair, hq⟩ := @repair?_of_sweeps .basic f g hsweeps
  rw [Finding.barred, (repair?_eq_some_iff.mp hrepair).1] at h
  rw [Finding.barred, hq]
  exact bars_append h

/-! ## The round -/

/-- Whether a finding is repaired in the rest of a round, given what has become of the document. -/
def kept (level : FixLevel) (findings : List Finding) (d : Document) (f : Finding) : Bool :=
  f.repaired level findings && !f.barred d

/-- What is known of a finding during a round: it is never repaired, or its place is gone, or it reports
what stands at its path. -/
def Tracked (d : Document) (f : Finding) : Prop := f.Idle ∨ f.barred d = true ∨ f.Holds d

/-- What a round comes to that still has some findings to deal with. -/
structure Completed (level : FixLevel) (r r' : Round) (findings : List Finding) (p : Finding → Bool) :
    Prop where
  applied : r'.applied.map (·.path) = r.applied.map (·.path) ++ (findings.filter p).map (·.path)
  remaining : r'.remaining = r.remaining ++ findings.filter (!p ·)
  rewritten : Rewritten r.document ((findings.filter p).filterMap (·.repair? level)) r'.document

theorem tracked_of_replaced (hf : f.Holds d) (hrepair : f.repair? level = some (steps, after))
    (hreplaced : Replaced d steps after d') (hpair : Separate f g ∨ f.sweeps g = true)
    (hg : Tracked d g) : Tracked d' g := by
  obtain ⟨hread, hplan⟩ := repair?_eq_some_iff.mp hrepair
  have hlive : ¬ f.Idle := not_idle_of_fixable (fixable_iff.mpr ⟨steps, after, hrepair⟩)
  rcases hg with hidle | hg
  · exact .inl hidle
  · rcases hpair with (hidle | hidle | hapart) | hsweeps
    · exact (hlive hidle).elim
    · exact .inl hidle
    · right
      rcases hg with hbarred | hholds
      · left
        rw [Finding.barred] at hbarred ⊢
        split
        · simp_all
        · rename_i q hq
          rw [hq] at hbarred
          rw [bars_of_replaced (hf steps hread) hreplaced (hapart steps q hread hq)]
          exact hbarred
      · right
        intro q hq
        rw [hreplaced.apart q (hapart steps q hread hq)]
        exact hholds q hq
    · exact .inr (.inl (barred_of_sweeps hsweeps hf hg hrepair hreplaced))

/-- When the turn of a finding comes, it is treated, or nothing happens. -/
theorem step_of_tracked (level : FixLevel) (hnull : f.code.isAbsence = true → f.value = .null)
    (hf : Tracked r.document f) :
    (∃ steps after, Treated level r.document f steps after (Round.step level r f).document ∧
        ∃ fix, (Round.step level r f).applied = r.applied ++ [fix]) ∨
      (Round.step level r f).document = r.document ∧ (Round.step level r f).applied = r.applied := by
  by_cases hwrites : ∃ steps before after d', Writes level r.document f steps before after d'
  · obtain ⟨steps, before, after, d', hwrites⟩ := hwrites
    rcases hf with hidle | hbarred | hholds
    · exact (not_writes_of_idle hidle hwrites).elim
    · exact (not_writes_of_barred hbarred hwrites).elim
    · obtain ⟨steps, after, hrepair⟩ := fixable_iff.mp (fixable_of_writes hwrites hholds hnull)
      obtain ⟨d', hwrites, hreplaced⟩ := exists_writes hrepair hholds hnull
      obtain ⟨rfl, happlied, -⟩ := step_of_writes hwrites
      exact .inl ⟨steps, after, ⟨hrepair, hholds, hwrites.written, hreplaced⟩, _, happlied⟩
  · simp only [not_exists] at hwrites
    obtain ⟨hdocument, happlied, -⟩ := step_of_not_writes hwrites
    exact .inr ⟨hdocument, happlied⟩

theorem tracked_step (hpair : Separate f g ∨ f.sweeps g = true)
    (hnull : f.code.isAbsence = true → f.value = .null) (hf : Tracked r.document f)
    (hg : Tracked r.document g) : Tracked (Round.step level r f).document g := by
  rcases step_of_tracked level hnull hf with ⟨steps, after, htreated, -⟩ | ⟨hdocument, -⟩
  · exact tracked_of_replaced htreated.holds htreated.planned htreated.replaced hpair hg
  · rwa [hdocument]

theorem tracked_foldl {rest : List Finding}
    (hpairs : (findings ++ rest).Pairwise fun f g => Separate f g ∨ f.sweeps g = true)
    (hnull : ∀ f ∈ findings, f.code.isAbsence = true → f.value = .null)
    (htracked : ∀ f ∈ findings ++ rest, Tracked r.document f) :
    ∀ g ∈ rest, Tracked (findings.foldl (Round.step level) r).document g := by
  induction findings generalizing r with
  | nil => exact htracked
  | cons f findings ih =>
      obtain ⟨hpair, hpairs⟩ := List.pairwise_cons.mp hpairs
      obtain ⟨hfnull, hnull⟩ := List.forall_mem_cons.mp hnull
      obtain ⟨hf, htracked⟩ := List.forall_mem_cons.mp htracked
      exact ih hpairs hnull fun g hg => tracked_step (hpair g hg) hfnull hf (htracked g hg)

theorem kept_of_replaced (hf : f.Holds d) (hrepair : f.repair? level = some (steps, after))
    (hreplaced : Replaced d steps after d') (hpair : Separate f g ∨ f.sweeps g = true)
    (hg : Tracked d g) : kept level (f :: findings) d g = kept level findings d' g := by
  obtain ⟨hread, hplan⟩ := repair?_eq_some_iff.mp hrepair
  have hlive : ¬ f.Idle := not_idle_of_fixable (fixable_iff.mpr ⟨steps, after, hrepair⟩)
  rw [kept, kept, Finding.repaired, Finding.repaired, List.any_cons]
  by_cases hfixable : g.fixable level = true
  · have hlively := not_idle_of_fixable hfixable
    rcases hpair with hseparate | hsweeps
    · have hnot := sweeps_eq_false_of_separate hseparate hlively
      rcases hseparate with hidle | hidle | hapart
      · exact (hlive hidle).elim
      · exact (hlively hidle).elim
      · have hbarred : g.barred d' = g.barred d := by
          rw [Finding.barred, Finding.barred]
          split
          · rfl
          · rename_i q hq
            exact bars_of_replaced (hf steps hread) hreplaced (hapart steps q hread hq)
        rw [hnot, hbarred, Bool.false_or]
    · have hbarred := barred_of_sweeps hsweeps hf (hg.resolve_left hlively) hrepair hreplaced
      rw [hsweeps, hbarred]
      simp
  · simp [hfixable]

theorem barred_of_not_kept (hpair : ∀ g ∈ findings, Separate f g ∨ f.sweeps g = true)
    (hfixable : f.fixable level = true) (hkept : kept level (f :: findings) d f = false) :
    f.barred d = true := by
  have hlive := not_idle_of_fixable hfixable
  have hswept : (f :: findings).any (·.sweeps f) = false := by
    rw [List.any_cons, sweeps_irrefl, Bool.false_or, List.any_eq_false]
    intro g hg hsweeps
    rcases hpair g hg with hseparate | hback
    · rw [sweeps_eq_false_of_separate (separate_comm hseparate) hlive] at hsweeps
      contradiction
    · rw [sweeps_asymm hback] at hsweeps
      contradiction
  simpa [kept, Finding.repaired, hfixable, hswept] using hkept

theorem not_writes_of_not_kept (hpair : ∀ g ∈ findings, Separate f g ∨ f.sweeps g = true)
    (hnull : f.code.isAbsence = true → f.value = .null) (hf : Tracked d f)
    (hkept : kept level (f :: findings) d f = false) : ¬ Writes level d f steps before after d' := by
  intro hwrites
  rcases hf with hidle | hbarred | hholds
  · exact not_writes_of_idle hidle hwrites
  · exact not_writes_of_barred hbarred hwrites
  · have hfixable := fixable_of_writes hwrites hholds hnull
    exact not_writes_of_barred (barred_of_not_kept hpair hfixable hkept) hwrites

theorem kept_of_not_kept (hpair : ∀ g ∈ findings, Separate f g ∨ f.sweeps g = true)
    (hkept : kept level (f :: findings) d f = false) :
    kept level (f :: findings) d g = kept level findings d g := by
  rw [kept, kept, Finding.repaired, Finding.repaired, List.any_cons]
  by_cases hsweeps : f.sweeps g = true
  · obtain ⟨p, step, rest, hrepair, -⟩ := @repair?_of_sweeps level f g hsweeps
    have hbarred := barred_of_not_kept hpair (fixable_iff.mpr ⟨p, _, hrepair⟩) hkept
    rw [barred_of_barred_sweeps hsweeps hbarred]
    simp
  · rw [Bool.eq_false_iff.mpr hsweeps, Bool.false_or]

theorem apart_of_kept {w : List Segment × Document} (hf : f.repair? level = some (steps, after))
    (hg : g.repair? level = some w) (hpair : Separate f g ∨ f.sweeps g = true)
    (hkept : kept level (f :: findings) d g = true) : Apart steps w.1 := by
  have hnot : f.sweeps g = false := by
    rw [kept, Finding.repaired, List.any_cons] at hkept
    cases hsweeps : f.sweeps g with
    | false => rfl
    | true => simp [hsweeps] at hkept
  obtain ⟨q, written⟩ := w
  rcases hpair with (hidle | hidle | hapart) | hsweeps
  · exact (not_idle_of_fixable (fixable_iff.mpr ⟨_, _, hf⟩) hidle).elim
  · exact (not_idle_of_fixable (fixable_iff.mpr ⟨_, _, hg⟩) hidle).elim
  · exact hapart steps q (repair?_eq_some_iff.mp hf).1 (repair?_eq_some_iff.mp hg).1
  · rw [hsweeps] at hnot
    contradiction

section

variable {r₁ r' : Round} {p q : Finding → Bool}

theorem completed_cons_of_repaired (hp : p f = true) (hsame : ∀ g ∈ findings, p g = q g)
    (hrepair : f.repair? level = some (steps, after)) (hreplaced : Replaced r.document steps after r₁.document)
    (hapart : ∀ g ∈ findings, p g = true → ∀ w, g.repair? level = some w → Apart steps w.1)
    (happlied : r₁.applied.map (·.path) = r.applied.map (·.path) ++ [f.path])
    (hremaining : r₁.remaining = r.remaining) (h : Completed level r₁ r' findings q) :
    Completed level r r' (f :: findings) p where
  applied := by
    rw [h.applied, happlied, List.filter_cons_of_pos hp, List.filter_congr hsame, List.append_assoc]
    rfl
  remaining := by
    rw [h.remaining, hremaining, List.filter_cons_of_neg (by simp [hp])]
    exact congrArg _ (List.filter_congr fun g hg => by rw [hsame g hg])
  rewritten := by
    rw [List.filter_cons_of_pos hp, List.filterMap_cons_some hrepair]
    refine rewritten_cons (fun u hu => ?_) hreplaced (List.filter_congr hsame ▸ h.rewritten)
    obtain ⟨g, hg, hu⟩ := List.mem_filterMap.mp hu
    exact hapart g (List.mem_filter.mp hg).1 (List.mem_filter.mp hg).2 u hu

theorem completed_cons_of_left (hp : p f = false) (hsame : ∀ g ∈ findings, p g = q g)
    (hdocument : r₁.document = r.document) (happlied : r₁.applied = r.applied)
    (hremaining : r₁.remaining = r.remaining ++ [f]) (h : Completed level r₁ r' findings q) :
    Completed level r r' (f :: findings) p where
  applied := by
    rw [h.applied, happlied, List.filter_cons_of_neg (by simp [hp]), List.filter_congr hsame]
  remaining := by
    rw [h.remaining, hremaining, List.filter_cons_of_pos (by simp [hp]), List.append_assoc]
    exact congrArg _ (congrArg _ (List.filter_congr fun g hg => by rw [hsame g hg]))
  rewritten := by
    rw [List.filter_cons_of_neg (by simp [hp]), List.filter_congr hsame, ← hdocument]
    exact h.rewritten

end

private theorem fixable_of_kept (h : kept level findings d f = true) :
    f.fixable level = true ∧ f.barred d = false := by
  simp only [kept, Finding.repaired, Bool.and_eq_true, Bool.not_eq_true'] at h
  exact ⟨h.1.1, h.2⟩

/-- A round repairs the findings that can be repaired and whose places are not swept away, writes for each
of them what is planned, and touches nothing else. -/
theorem foldl_step (hpairs : findings.Pairwise fun f g => Separate f g ∨ f.sweeps g = true)
    (hnull : ∀ f ∈ findings, f.code.isAbsence = true → f.value = .null)
    (htracked : ∀ f ∈ findings, Tracked r.document f) :
    Completed level r (findings.foldl (Round.step level) r) findings
      (kept level findings r.document) := by
  induction findings generalizing r with
  | nil => exact ⟨by simp, by simp, rewritten_nil⟩
  | cons f findings ih =>
      obtain ⟨hpair, hpairs⟩ := List.pairwise_cons.mp hpairs
      obtain ⟨hfnull, hnull⟩ := List.forall_mem_cons.mp hnull
      obtain ⟨hf, htracked⟩ := List.forall_mem_cons.mp htracked
      rw [List.foldl_cons]
      cases hkept : kept level (f :: findings) r.document f with
      | true =>
          obtain ⟨hfixable, hopen⟩ := fixable_of_kept hkept
          have hholds : f.Holds r.document :=
            (hf.resolve_left (not_idle_of_fixable hfixable)).resolve_left (by simp [hopen])
          obtain ⟨steps, after, hrepair⟩ := fixable_iff.mp hfixable
          obtain ⟨d', hwrites, hreplaced⟩ := exists_writes hrepair hholds hfnull
          obtain ⟨rfl, happlied, hremaining⟩ := step_of_writes hwrites
          have hsame : ∀ g ∈ findings, kept level (f :: findings) r.document g =
              kept level findings (Round.step level r f).document g := fun g hg =>
            kept_of_replaced hholds hrepair hreplaced (hpair g hg) (htracked g hg)
          refine completed_cons_of_repaired hkept hsame hrepair hreplaced
            (fun g hg hgkept w hw => apart_of_kept hrepair hw (hpair g hg) hgkept)
            (by rw [happlied, List.map_append]; rfl) hremaining (ih hpairs hnull fun g hg => ?_)
          exact tracked_of_replaced hholds hrepair hreplaced (hpair g hg) (htracked g hg)
      | false =>
          obtain ⟨hdocument, happlied, hremaining⟩ := step_of_not_writes
            fun steps before after d' => not_writes_of_not_kept hpair hfnull hf hkept
          have hsame : ∀ g ∈ findings, kept level (f :: findings) r.document g =
              kept level findings (Round.step level r f).document g := fun g _ => by
            rw [kept_of_not_kept hpair hkept, hdocument]
          exact completed_cons_of_left hkept hsame hdocument happlied hremaining
            (ih hpairs hnull (hdocument ▸ htracked))

/-! ## Verdicts -/

theorem holds_of_mem_examine {s : Schema} {o : Options} (hs : s.PlainNames)
    (hf : f ∈ (Validator.examine ⟨o, s⟩ d).errors) :
    (f.Idle ∨ f.Holds d) ∧ (f.code.isAbsence = true → f.value = .null) := by
  by_cases hcode : f.code = .unknownProperty
  · refine ⟨.inl (.inl hcode), fun habsent => ?_⟩
    rw [hcode] at habsent
    contradiction
  · obtain ⟨steps, hsteps, hpath, hslot, hnull⟩ := located_of_mem_examine hs hf hcode
    refine ⟨.inr fun read hread => ?_, hnull⟩
    rw [hpath] at hread
    rw [eq_of_parse hsteps hread]
    exact hslot

theorem barred_of_holds (h : f.Holds d) : f.barred d = false := by
  rw [Finding.barred]
  split
  · rfl
  · rename_i steps hread
    exact bars_of_slot? (h steps hread)

/-- A finding for which the plan always makes sense. -/
def Plannable (f : Finding) : Prop :=
  ∀ level steps before, ∃ after?, plan level f steps before = .ok after?

theorem exists_missingDefault (steps : List Segment) (text : String) :
    ∃ after?, missingDefault steps (.string text) = .ok after? := by
  simp only [missingDefault]
  split <;> exact ⟨_, rfl⟩

theorem plannable_of_text {text : String} (hexpected : f.expected = .string text)
    (hminimum : f.code = .minValueViolation → f.bound = .int 1)
    (hmaximum : f.code ≠ .maxValueViolation) : Plannable f := by
  intro level steps before
  rw [plan]
  split
  · exact ⟨_, rfl⟩
  · split
    · exact ⟨_, by rw [hexpected]; rfl⟩
    · exact hexpected ▸ exists_missingDefault steps text
    · exact hexpected ▸ exists_missingDefault steps text
    · exact hexpected ▸ exists_missingDefault steps text
    · exact ⟨_, rfl⟩
    · exact ⟨_, rfl⟩
    · rename_i hcode
      have hbound : bound f "at least " defaultMinimum = .int 1 := by
        rw [bound, hminimum hcode]
        rfl
      rw [hbound, atLeast]
      split <;> exact ⟨_, rfl⟩
    · rename_i hcode
      exact (hmaximum hcode).elim
    · exact ⟨_, rfl⟩
    · exact ⟨_, rfl⟩

private theorem plannable_of_lasting
    (h : f.code ∈ [.unknownProperty, .oneofValidationFailed, .patternMismatch, .enumValidationFailed,
      .invalidRange]) : Plannable f := by
  intro level steps before
  refine ⟨none, ?_⟩
  rw [plan]
  split
  · rfl
  · simp only [List.mem_cons, List.not_mem_nil, or_false] at h
    rcases h with h | h | h | h | h <;> rw [h]

theorem plannable_check {s : Schema} {o : Options} {base : List Segment}
    (hs : s.Throughout (· ∈ ReviewFormat.parts))
    (hf : f ∈ (check o s (Path.ofSegments base) d).errors) : Plannable f := by
  obtain ⟨steps, t, c, hleads, hreported⟩ :=
    exists_reported (FormatParts.plainNames_of_throughout_parts hs) hf
  have hsingle := of_throughout
    (throughout_of_leadsTo (FormatParts.single_of_throughout_parts hs) hleads)
  cases detected_of_reported hsingle hreported with
  | kind | blank | missing => exact plannable_of_text rfl (by simp) (by simp)
  | low => exact plannable_of_text rfl (fun _ => rfl) (by simp)
  | lasting hcode => exact plannable_of_lasting hcode

private theorem plannable_of_noted {path : String} {fields : Fields} {s : Schema}
    (h : Noted path fields s f) :
    Plannable f := by
  cases h <;> exact plannable_of_text rfl (by simp) (by simp)

theorem plannable_of_mem_examine {o : Options}
    (hf : f ∈ (Validator.examine ⟨o, ReviewFormat.document⟩ d).errors) : Plannable f := by
  rw [Validator.examine] at hf
  split at hf
  · rename_i g hg
    obtain rfl := List.mem_singleton.mp hf
    rw [Validator.rejection?.eq_def] at hg
    split at hg
    · exact Option.some.inj hg ▸ plannable_of_text rfl (by simp) (by simp)
    · split at hg
      · exact Option.some.inj hg ▸ plannable_of_text rfl (by simp) (by simp)
      · cases hg
    · exact Option.some.inj hg ▸ plannable_of_text rfl (by simp) (by simp)
    · exact Option.some.inj hg ▸ plannable_of_text rfl (by simp) (by simp)
    · cases hg
  · rcases Merging.mem_mergeFindings.mp hf with ⟨hgeneric, -⟩ | hspecific
    · exact @plannable_check _ _ _ _ [] FormatParts.throughout_document hgeneric
    · obtain ⟨_, _, _, -, -, -, hnoted⟩ := traced_node [] d hspecific
      exact plannable_of_noted hnoted

theorem of_sweeps {P : Prop} (hpairs : findings.Pairwise fun f g => Separate f g ∨ P ∧ f.sweeps g = true)
    (hf : f ∈ findings) (hg : g ∈ findings) (hlive : ¬ f.Idle) (hsweeps : g.sweeps f = true) : P := by
  have hnot {x y : Finding} (hlive : ¬ y.Idle) (h : Separate x y) : ¬ x.sweeps y = true := by
    simp [sweeps_eq_false_of_separate h hlive]
  induction findings with
  | nil => cases hf
  | cons x findings ih =>
      obtain ⟨hpair, hpairs⟩ := List.pairwise_cons.mp hpairs
      rcases List.mem_cons.mp hf with rfl | hftail <;> rcases List.mem_cons.mp hg with rfl | hgtail
      · rw [sweeps_irrefl] at hsweeps
        contradiction
      · rcases hpair g hgtail with hseparate | ⟨hp, -⟩
        · exact (hnot hlive (separate_comm hseparate) hsweeps).elim
        · exact hp
      · rcases hpair f hftail with hseparate | ⟨hp, -⟩
        · exact (hnot hlive hseparate hsweeps).elim
        · exact hp
      · exact ih hpairs hftail hgtail

theorem exists_canFix {o : Options} (hd : d.Indexable)
    (hf : f ∈ (Validator.examine ⟨o, ReviewFormat.document⟩ d).errors)
    (hcode : f.code ≠ .unknownProperty) : ∃ b, canFix level f = .ok b := by
  obtain ⟨steps, hsteps, hpath, hslot, -⟩ :=
    located_of_mem_examine FormatParts.plainNames_document hf hcode
  have hread : Path.parse f.path = .ok steps := by
    rw [hpath]
    exact parse_of_short hsteps (short_of_slot? hd hslot)
  obtain ⟨after?, hplan⟩ := plannable_of_mem_examine hf level steps f.value
  exact ⟨after?.isSome, by simp only [canFix, hread, hplan, bind, Except.bind, pure, Except.pure]⟩

theorem completed_of_holds (hpairs : findings.Pairwise fun f g => Separate f g ∨ f.sweeps g = true)
    (hnull : ∀ f ∈ findings, f.code.isAbsence = true → f.value = .null)
    (hholds : ∀ f ∈ findings, f.Idle ∨ f.Holds d) :
    Completed level (.start d) (fix level d findings) findings (·.repaired level findings) := by
  have hkept : ∀ f ∈ findings,
      kept level findings (Round.start d).document f = f.repaired level findings := by
    intro f hf
    rw [kept, Finding.repaired, Round.start]
    by_cases hfixable : f.fixable level = true
    · rw [barred_of_holds ((hholds f hf).resolve_left (not_idle_of_fixable hfixable))]
      simp
    · simp [hfixable]
  obtain ⟨happlied, hremaining, hrewritten⟩ :=
    @foldl_step level findings (.start d) hpairs hnull fun f hf => (hholds f hf).imp_right .inr
  rw [List.filter_congr hkept] at happlied hrewritten
  refine ⟨happlied, hremaining.trans ?_, hrewritten⟩
  exact congrArg _ (List.filter_congr fun f hf => by rw [hkept f hf])

/-- What one round comes to on a verdict. -/
theorem completed_fix {o : Options} {v : Verdict} (level : FixLevel)
    (hv : Validator.validate ⟨o, ReviewFormat.document⟩ d = .ok v) :
    Completed level (.start d) (fix level d v.errors) v.errors (·.repaired level v.errors) := by
  rw [errors_of_validate hv]
  have hholds {f : Finding} (hf : f ∈ (Validator.examine ⟨o, ReviewFormat.document⟩ d).errors) :=
    holds_of_mem_examine FormatParts.plainNames_document hf
  exact completed_of_holds ((pairwise_examine o d).imp fun h => h.imp_right And.right)
    (fun f hf => (hholds hf).2) (fun f hf => (hholds hf).1)

theorem exists_validate (o : Options) (d : Document) :
    ∃ v, Validator.validate ⟨o, ReviewFormat.document⟩ d = .ok v := by
  rw [Validator.validate, Validator.examine]
  split
  · exact ⟨_, rfl⟩
  · exact ⟨_, Outcome.verdict_of_fault_eq_none
      (WellTyped.fault_check WellTyped.wellTyped_document o "" d)⟩

theorem repaired_eq_fixable
    (h : f.fixable level = true → ∀ g ∈ findings, g.sweeps f = false) :
    f.repaired level findings = f.fixable level := by
  rw [Finding.repaired]
  by_cases hfixable : f.fixable level = true
  · have hany : findings.any (·.sweeps f) = false := List.any_eq_false.mpr fun g hg => by
      simp [h hfixable g hg]
    rw [hany, Bool.not_false, Bool.and_true]
  · simp [hfixable]

theorem filter_not_repaired_eq_iff :
    findings.filter (!·.repaired level findings) = findings.filter (!·.fixable level) ↔
      ∀ f ∈ findings, f.fixable level = true → ∀ g ∈ findings, g.sweeps f = false := by
  refine ⟨fun h f hf hfixable g hg => ?_, fun h => List.filter_congr fun f hf => ?_⟩
  · rw [Bool.eq_false_iff]
    intro hsweeps
    have hany : findings.any (·.sweeps f) = true := List.any_eq_true.mpr ⟨g, hg, hsweeps⟩
    have hleft : f ∈ findings.filter (!·.repaired level findings) :=
      List.mem_filter.mpr ⟨hf, by simp [Finding.repaired, hany]⟩
    rw [h] at hleft
    simp [hfixable] at hleft
  · rw [repaired_eq_fixable (h f hf)]

/-- A round leaves the findings that are not said to be repairable, and keeps a record for every other one,
in their order, with one exception: a finding inside a list that is itself replaced by an object is left
over too.  That happens only where there is a list among the items of the list of a result. -/
theorem round_follows_canFix_iff (o : Options) (level : FixLevel) (d : Document) :
    ∃ v, Validator.validate ⟨o, ReviewFormat.document⟩ d = .ok v ∧
      (d.Indexable → ∀ f ∈ v.errors, f.code ≠ .unknownProperty → ∃ b, canFix level f = .ok b) ∧
      (fix level d v.errors).remaining = v.errors.filter (!·.repaired level v.errors) ∧
      (fix level d v.errors).applied.map (·.path) =
        (v.errors.filter (·.repaired level v.errors)).map (·.path) ∧
      ((fix level d v.errors).remaining = v.errors.filter (!·.fixable level) ∧
          (fix level d v.errors).applied.map (·.path) =
            (v.errors.filter (·.fixable level)).map (·.path) ↔
        ∀ f ∈ v.errors, f.fixable level = true → ∀ g ∈ v.errors, g.sweeps f = false) ∧
      ((∃ f ∈ v.errors, f.fixable level = true ∧ ∃ g ∈ v.errors, g.sweeps f = true) →
        d.HasNestedList) := by
  obtain ⟨v, hv⟩ := exists_validate o d
  obtain ⟨happlied, hremaining, -⟩ := completed_fix level hv
  refine ⟨v, hv, ?_, hremaining, happlied, ?_, ?_⟩
  · intro hd f hf hcode
    exact exists_canFix hd (errors_of_validate hv ▸ hf) hcode
  · rw [hremaining, happlied, ← filter_not_repaired_eq_iff]
    refine and_iff_left_of_imp fun h => ?_
    have hunswept := filter_not_repaired_eq_iff.mp h
    exact congrArg (List.map (·.path))
      (List.filter_congr fun f hf => repaired_eq_fixable (hunswept f hf))
  · rintro ⟨f, hf, hfixable, g, hg, hsweeps⟩
    rw [errors_of_validate hv] at hf hg
    exact of_sweeps (pairwise_examine o d) hf hg (not_idle_of_fixable hfixable) hsweeps

/-! ## A list among the items of a list -/

/-- A list that holds a list with a diagnostic that has no location. -/
def nestedList : Document :=
  .object [("diagnostics", .array [.array [.object [("message", .string "m")]]])]

def listFinding : Finding :=
  .expecting "diagnostics[0]" .typeMismatch (.array [.object [("message", .string "m")]]) "object"

def locationFinding : Finding :=
  .expecting "diagnostics[0][0].location" .missingDiagnosticLocation .null "object"

theorem errors_nestedList :
    (check .standard ReviewFormat.document "" nestedList).errors = [listFinding] :=
  Distance.errors_document_of_result (by decide) (.inl (by decide)) (.inl (by decide))

theorem parse_location : Path.parse "diagnostics[0][0].location" =
    .ok [.name "diagnostics", .index 0, .index 0, .name "location"] := by cbv

private theorem listFinding_sweeps : listFinding.sweeps locationFinding = true := by
  have hlist : Path.parse "diagnostics[0]" = .ok [.name "diagnostics", .index 0] := by cbv
  exact sweeps_iff.mpr
    ⟨rfl, ⟨_, rfl⟩, rfl, _, _, hlist, parse_location, by simp, by simp, by simp⟩

/-- The missing location inside the inner list is said to be repairable, but it is left over. -/
theorem not_round_follows_canFix_of_nested_list :
    ∃ v, Validator.validate Validator.standard nestedList = .ok v ∧
      v.errors = [listFinding, locationFinding] ∧
      canFix .basic locationFinding = .ok true ∧
      locationFinding ∈ (fix .basic nestedList v.errors).remaining := by
  have hmerged : mergeFindings (check .standard ReviewFormat.document "" nestedList).errors
      (Refinement.node "" nestedList).errors = [listFinding, locationFinding] := by
    rw [errors_nestedList]
    rfl
  have hv := Agreement.validate_eq (o := .standard) (d := nestedList) rfl
  refine ⟨_, hv, hmerged, ?_, ?_⟩
  · have hread : Path.parse locationFinding.path = _ := parse_location
    rw [canFix, hread]
    rfl
  · have hremaining := (completed_fix .basic hv).remaining
    dsimp only at hremaining ⊢
    rw [hremaining, hmerged]
    refine List.mem_append_right _ (List.mem_filter.mpr ⟨by simp, ?_⟩)
    simp [Finding.repaired, listFinding_sweeps]

end Proofs.RepairRound

end ReviewDiagnostics
