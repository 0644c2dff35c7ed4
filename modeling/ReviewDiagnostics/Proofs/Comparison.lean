import ReviewDiagnostics.Proofs.Ranking

/-!
# Two checks side by side

Two checks of the same alternatives come to the same choice if they find equally much wrong with each
of them.  Which alternative is tried first depends on the measures of the document alone, and which one
is reported on also on how many findings there are with each code, in whatever order.  So whatever two
checks have in common alternative by alternative, they have in common after the choice.
-/

namespace ReviewDiagnostics

/-- A comparison of lists that holds of equal lists and that appending keeps. -/
structure Compares {α : Type} (E : List α → List α → Prop) : Prop where
  refl : ∀ l, E l l
  append : ∀ {k l m n}, E k l → E m n → E (k ++ m) (l ++ n)

/-- Two outcomes whose findings and notices compare in given ways, and which have the same fault. -/
structure Outcome.Matches (E : List Finding → List Finding → Prop)
    (W : List Notice → List Notice → Prop) (x y : Outcome) : Prop where
  errors : E x.errors y.errors
  warnings : W x.warnings y.warnings
  fault : x.fault = y.fault

/-- Two documents that no measure of resemblance tells apart. -/
structure Document.MeasuresAlike (d d' : Document) : Prop where
  misnamed : ∀ s, Likelihood.misnamed s d = Likelihood.misnamed s d'
  likelihood : ∀ s, Likelihood.score s d = Likelihood.score s d'
  closeness : ∀ s codes, Closeness.score s d codes = Closeness.score s d' codes

namespace Proofs.Comparison

open Conformity Outcome

variable {E : List Finding → List Finding → Prop} {W : List Notice → List Notice → Prop}
  {d d' : Document} {s : Schema} {path : String} {alternatives : List Schema}

/-! ## Comparisons -/

theorem compares_eq {α : Type} : Compares (@Eq (List α)) where
  refl := fun _ => rfl
  append := fun hkl hmn => by rw [hkl, hmn]

theorem compares_any {α : Type} : Compares fun _ _ : List α => True where
  refl := fun _ => trivial
  append := fun _ _ => trivial

theorem compares_perm {α : Type} : Compares (@List.Perm α) where
  refl := .refl
  append := List.Perm.append

theorem compares_map {α β : Type} {R : List β → List β → Prop} (hR : Compares R) (f : α → β) :
    Compares fun k l => R (k.map f) (l.map f) where
  refl := fun _ => hR.refl _
  append := fun hkl hmn => by
    rw [List.map_append, List.map_append]
    exact hR.append hkl hmn

theorem measuresAlike_refl (d : Document) : d.MeasuresAlike d :=
  ⟨fun _ => rfl, fun _ => rfl, fun _ _ => rfl⟩

/-! ## Outcomes -/

section

variable (hE : Compares E) (hW : Compares W)

include hW

theorem matches_ofError {f g : Finding} (h : E [f] [g]) : (ofError f).Matches E W (ofError g) :=
  ⟨h, hW.refl _, rfl⟩

include hE

theorem matches_refl (x : Outcome) : x.Matches E W x :=
  ⟨hE.refl _, hW.refl _, rfl⟩

theorem matches_append {a b x y : Outcome} (hax : a.Matches E W x) (hby : b.Matches E W y) :
    (a ++ b).Matches E W (x ++ y) where
  errors := hE.append hax.errors hby.errors
  warnings := hW.append hax.warnings hby.warnings
  fault := by rw [fault_append, fault_append, hax.fault, hby.fault]

end

theorem join_map {α : Type} {R : Outcome → Outcome → Prop} {f g : α → Outcome} {l : List α}
    (hclean : R clean clean) (happend : ∀ {a b x y}, R a x → R b y → R (a ++ b) (x ++ y))
    (h : ∀ a ∈ l, R (f a) (g a)) : R (join (l.map f)) (join (l.map g)) := by
  induction l with
  | nil => exact hclean
  | cons a l ih =>
      obtain ⟨ha, hl⟩ := List.forall_mem_cons.mp h
      exact happend ha (ih hl)

theorem join_mapIdx {α : Type} {R : Outcome → Outcome → Prop} {f g : Nat → α → Outcome}
    {l m : List α} (hclean : R clean clean)
    (happend : ∀ {a b x y}, R a x → R b y → R (a ++ b) (x ++ y)) (hlength : l.length = m.length)
    (h : ∀ i a b, l[i]? = some a → m[i]? = some b → R (f i a) (g i b)) :
    R (join (l.mapIdx f)) (join (m.mapIdx g)) := by
  induction l generalizing m f g with
  | nil =>
      obtain rfl := List.eq_nil_of_length_eq_zero hlength.symm
      exact hclean
  | cons a l ih =>
      cases m with
      | nil => cases hlength
      | cons b m =>
          rw [List.mapIdx_cons, List.mapIdx_cons]
          have hhead : R (f 0 a) (g 0 b) := h 0 a b rfl rfl
          have htail := ih (f := fun i => f (i + 1)) (g := fun i => g (i + 1)) (Nat.succ.inj hlength)
            fun i x y hx hy => h (i + 1) x y hx hy
          exact happend hhead htail

/-! ## The order in which alternatives are tried -/

/-- Alternatives by descending likelihood. -/
def likeliest (d : Document) (alternatives : List Schema) : List Schema :=
  alternatives.mergeSort fun s t => decide (Likelihood.score t d ≤ Likelihood.score s d)

theorem order_map {α : Type} (f : Schema → α) :
    Likelihood.order d (alternatives.map fun s => (s, f s)) =
      (likeliest d alternatives).map fun s => (s, f s) := by
  have hmap := List.map_mergeSort (r := fun s t => decide (Likelihood.score t d ≤ Likelihood.score s d))
    (s := Ranking.notLessLikely d) (f := fun s => (s, f s)) (l := alternatives) fun _ _ _ _ => rfl
  rw [Ranking.order_eq_mergeSort, likeliest, hmap]

theorem mem_likeliest : s ∈ likeliest d alternatives ↔ s ∈ alternatives :=
  (List.mergeSort_perm _ _).mem_iff

private theorem likeliest_of_measuresAlike (h : d.MeasuresAlike d') :
    likeliest d alternatives = likeliest d' alternatives := by
  simp only [likeliest, h.likelihood]

theorem choose_of_settle {R : Outcome → Outcome → Prop} {f g : Schema → Outcome}
    (hd : d.MeasuresAlike d') (hfault : R (ofFault .wrongKind) (ofFault .wrongKind))
    (hsettle : R (settle path d none ((likeliest d alternatives).map fun s => (s, f s)))
      (settle path d' none ((likeliest d alternatives).map fun s => (s, g s)))) :
    R (choose path d (alternatives.map fun s => (s, f s)))
      (choose path d' (alternatives.map fun s => (s, g s))) := by
  have hnamed : (alternatives.map fun s => (s, f s)).any (fun t => Likelihood.misnamed t.1 d) =
      (alternatives.map fun s => (s, g s)).any (fun t => Likelihood.misnamed t.1 d') := by
    simp only [List.any_map, Function.comp_def, hd.misnamed]
  rw [choose, choose, order_map, order_map, ← likeliest_of_measuresAlike hd, hnamed]
  split
  · exact hfault
  · exact hsettle

/-! ## The alternative that is reported on -/

theorem closeness_of_perm {codes more : List Code} (h : codes.Perm more) :
    Closeness.score s d codes = Closeness.score s d more := by
  simp only [Closeness.score, Closeness.terms, h.length_eq, h.count_eq, h.countP_eq]

/-- The closest alternatives of two checks so far. -/
inductive SameBest (E : List Finding → List Finding → Prop) (W : List Notice → List Notice → Prop) :
    Option Candidate → Option Candidate → Prop
  | none : SameBest E W none none
  | some {b c : Candidate} (hscore : b.score = c.score) (hmatch : b.outcome.Matches E W c.outcome) :
    SameBest E W (some b) (some c)

theorem sameBest_closer {best? best'? : Option Candidate} {b c : Candidate}
    (hbest : SameBest E W best? best'?) (hscore : b.score = c.score)
    (hmatch : b.outcome.Matches E W c.outcome) :
    SameBest E W (some (closer best? b)) (some (closer best'? c)) := by
  cases hbest with
  | none => exact .some hscore hmatch
  | some hbestscore hbestmatch =>
      rw [closer, closer, hscore, hbestscore]
      split
      · exact .some hscore hmatch
      · exact .some hbestscore hbestmatch

section

variable (hE : Compares E) (hW : Compares W)
  (hcodes : ∀ {k l}, E k l → (k.map (·.code)).Perm (l.map (·.code)))

include hcodes in
private theorem isEmpty_of_comparison {k l : List Finding} (h : E k l) : k.isEmpty = l.isEmpty := by
  have hlength : k.length = l.length := by simpa using (hcodes h).length_eq
  rw [Bool.eq_iff_iff, List.isEmpty_iff_length_eq_zero, List.isEmpty_iff_length_eq_zero, hlength]

include hE hW hcodes

theorem matches_settle {f g : Schema → Outcome} {best? best'? : Option Candidate}
    {tried : List Schema} (hd : d.MeasuresAlike d')
    (hnone : E [.expecting path .oneofValidationFailed d "a schema with at least one alternative"]
      [.expecting path .oneofValidationFailed d' "a schema with at least one alternative"])
    (hbest : SameBest E W best? best'?) (htried : ∀ s ∈ tried, (f s).Matches E W (g s)) :
    (settle path d best? (tried.map fun s => (s, f s))).Matches E W
      (settle path d' best'? (tried.map fun s => (s, g s))) := by
  -- The closest alternatives so far match; as many findings with each code keep it so.
  induction tried generalizing best? best'? with
  | nil =>
      cases hbest with
      | none => exact matches_ofError hW hnone
      | some _ hmatch => exact ⟨hmatch.errors, hmatch.warnings, rfl⟩
  | cons s tried ih =>
      obtain ⟨hs, htried⟩ := List.forall_mem_cons.mp htried
      have hempty := isEmpty_of_comparison hcodes hs.errors
      have hscore : Closeness.score s d ((f s).errors.map (·.code)) =
          Closeness.score s d' ((g s).errors.map (·.code)) :=
        (closeness_of_perm (hcodes hs.errors)).trans (hd.closeness s _)
      rw [List.map_cons, List.map_cons, settle, settle, hs.fault, hempty]
      split
      · exact ⟨hE.refl _, hW.refl _, rfl⟩
      · split
        · exact ⟨hE.refl _, hs.warnings, rfl⟩
        · obtain ⟨herrors, hwarnings, hfault⟩ := ih
            (sameBest_closer (b := ⟨_, s, f s⟩) (c := ⟨_, s, g s⟩) hbest hscore hs) htried
          exact ⟨herrors, hwarnings, hfault⟩

/-- Choices between alternatives that compare one by one compare. -/
theorem matches_choose {f g : Schema → Outcome} (hd : d.MeasuresAlike d')
    (hnone : E [.expecting path .oneofValidationFailed d "a schema with at least one alternative"]
      [.expecting path .oneofValidationFailed d' "a schema with at least one alternative"])
    (halternatives : ∀ s ∈ alternatives, (f s).Matches E W (g s)) :
    (choose path d (alternatives.map fun s => (s, f s))).Matches E W
      (choose path d' (alternatives.map fun s => (s, g s))) := by
  refine choose_of_settle hd (matches_refl hE hW _) ?_
  exact matches_settle hE hW hcodes hd hnone .none fun s hs => halternatives s (mem_likeliest.mp hs)

end

end Proofs.Comparison

end ReviewDiagnostics
