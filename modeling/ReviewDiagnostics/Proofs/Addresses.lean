import ReviewDiagnostics.Proofs.ListDocument
import ReviewDiagnostics.Proofs.FormatParts

/-!
# What the paths of findings lead to

The path of a finding leads to the value that it blames, or to an object that lacks the field that the
path ends in.  Both looks at a document build their paths step by step, a choice passes on the findings
of one of its alternatives, and merging moves none of them, so that this holds of the whole verdict.
-/

namespace ReviewDiagnostics

-- Powers are those of the core library, whatever else is imported.
attribute [local instance (2000)] instPowNat

/-- What stands at the path of a finding: nothing if a field is missing there, the value that the finding
blames otherwise. -/
def Finding.content? (f : Finding) : Option Document :=
  if f.code.isAbsence then none else some f.value

/-- No list in a document has an item whose index has more digits than a number is read with.  That holds
of every document that fits into a memory. -/
inductive Document.Indexable : Document → Prop
  | scalar {d : Document} (hobject : ∀ fields, d ≠ .object fields)
    (harray : ∀ items, d ≠ .array items) : Indexable d
  | array {items : List Document} (hlength : items.length ≤ 10 ^ Text.maxDigits)
    (hitems : ∀ x ∈ items, Indexable x) : Indexable (.array items)
  | object {fields : Fields} (hfields : ∀ p ∈ fields, Indexable p.2) : Indexable (.object fields)

/-- What the path of a finding leads to: an object that lacks the last step, or the value that the finding
blames. -/
def Finding.LeadsInto (d : Document) (f : Finding) (steps : List Segment) : Prop :=
  if f.code.isAbsence then
    ∃ place name fields, steps = place ++ [.name name] ∧ d.at? place = .ok (some (.object fields)) ∧
      Fields.has fields name = false
  else d.at? steps = .ok (some f.value)

namespace Proofs.Addresses

open Conformity FormatParts Origins PathText Places Slots

variable {o : Options} {s t : Schema} {d c : Document} {base steps place rest : List Segment}
  {step : Segment} {f : Finding} {fields : Fields} {name : String}

/-! ## Slots and what stands in them -/

theorem exists_object_of_slot? (h : d.slot? steps = some none) :
    ∃ place name fields, steps = place ++ [.name name] ∧
      d.slot? place = some (some (.object fields)) ∧ Fields.get? fields name = none := by
  induction steps generalizing d with
  | nil => simp [Document.slot?] at h
  | cons step steps ih =>
      rw [slot?_cons] at h
      split at h
      · rename_i child hchild
        obtain ⟨place, name, fields, rfl, hplace, hname⟩ := ih h
        exact ⟨step :: place, name, fields, rfl, (slot?_cons_of_child? hchild).trans hplace, hname⟩
      · split at h
        · rename_i hempty
          obtain ⟨hlacks, hrest⟩ := Bool.and_eq_true_iff.mp hempty
          obtain rfl := List.isEmpty_iff.mp hrest
          cases d with
          | object fields =>
              cases step with
              | name s =>
                  have hget : (Fields.get? fields s).isNone = true := hlacks
                  exact ⟨[], s, fields, rfl, rfl, Option.isNone_iff_eq_none.mp hget⟩
              | index n => cases hlacks
          | _ => cases hlacks
        · cases h

theorem mem_of_get? (h : Fields.get? fields name = some c) : (name, c) ∈ fields := by
  induction fields with
  | nil => cases h
  | cons p fields ih =>
      rw [Fields.get?] at h
      split at h
      · rename_i hname
        obtain rfl := Option.some.inj h
        exact hname ▸ List.mem_cons_self
      · exact List.mem_cons_of_mem p (ih h)

theorem eq_of_nodup_fst {α : Type} {parts : List (String × α)} (h : (parts.map (·.1)).Nodup)
    {p q : String × α} (hp : p ∈ parts) (hq : q ∈ parts) (hsame : p.1 = q.1) : p = q := by
  induction parts with
  | nil => cases hp
  | cons r parts ih =>
      rw [List.map_cons, List.nodup_cons] at h
      rcases List.mem_cons.mp hp with rfl | hpin <;> rcases List.mem_cons.mp hq with rfl | hqin
      · rfl
      · exact (h.1 (hsame ▸ List.mem_map_of_mem hqin)).elim
      · exact (h.1 (hsame ▸ List.mem_map_of_mem hpin)).elim
      · exact ih h.2 hpin hqin

theorem indexable_child (hd : d.Indexable) (h : d.child? step = some c) :
    step.Short ∧ c.Indexable := by
  cases d with
  | object fields =>
      cases step with
      | index n => cases h
      | name s =>
          cases hd with
          | object hfields => exact ⟨trivial, hfields _ (mem_of_get? h)⟩
          | scalar hobject _ => exact (hobject fields rfl).elim
  | array items =>
      cases step with
      | name s => cases h
      | index n =>
          rw [Document.child?] at h
          split at h
          · obtain ⟨hn, hc⟩ := List.getElem?_eq_some_iff.mp h
            cases hd with
            | array hlength hitems =>
                exact ⟨Nat.lt_of_lt_of_le hn hlength, hitems c (hc ▸ List.getElem_mem hn)⟩
            | scalar _ harray => exact (harray items rfl).elim
          · cases h
  | _ => cases step <;> cases h

theorem short_of_slot? (hd : d.Indexable) {slot : Option Document} (h : d.slot? steps = some slot) :
    ∀ step ∈ steps, step.Short := by
  induction steps generalizing d with
  | nil => simp
  | cons step steps ih =>
      rw [slot?_cons] at h
      split at h
      · rename_i child hchild
        obtain ⟨hshort, hinside⟩ := indexable_child hd hchild
        exact List.forall_mem_cons.mpr ⟨hshort, ih hinside h⟩
      · split at h
        · rename_i hempty
          obtain ⟨hlacks, hrest⟩ := Bool.and_eq_true_iff.mp hempty
          obtain rfl := List.isEmpty_iff.mp hrest
          cases step with
          | name s => exact List.forall_mem_singleton.mpr trivial
          | index n => cases d <;> cases hlacks
        · cases h

/-! ## Located findings -/

/-- A finding about a value whose path leads from `base` on to what the finding says. -/
def Located (base : List Segment) (d : Document) (f : Finding) : Prop :=
  ∃ steps, (∀ step ∈ steps, step.Plain) ∧ f.path = Path.ofSegments (base ++ steps) ∧
    d.slot? steps = some f.content? ∧ (f.code.isAbsence = true → f.value = .null)

theorem located_of_blames (hsteps : ∀ step ∈ steps, step.Plain) (hslot : d.slot? steps = some (some c))
    (h : Blames (Path.ofSegments (base ++ steps)) c f) : Located base d f := by
  refine ⟨steps, hsteps, h.path, ?_, fun habsent => ?_⟩
  · rw [hslot, Finding.content?, if_neg (by simp [h.present]), h.value]
  · rw [h.present] at habsent
    contradiction

theorem located_of_missing (hsteps : ∀ step ∈ steps, step.Plain) (hname : PlainName name)
    (hslot : d.slot? steps = some (some (.object fields))) (hfield : Fields.get? fields name = none)
    (hpath : f.path = Path.join (Path.ofSegments (base ++ steps)) (.name name))
    (habsent : f.code.isAbsence = true) (hvalue : f.value = .null) : Located base d f := by
  refine ⟨steps ++ [.name name], ?_, ?_, ?_, fun _ => hvalue⟩
  · simpa [or_imp, forall_and] using ⟨hsteps, hname⟩
  · rw [hpath, ← ofSegments_append, List.append_assoc]
  · rw [slot?_append hslot, slot?_field, hfield, Finding.content?, if_pos habsent]

theorem located_check (hs : s.PlainNames) (hf : f ∈ (check o s (Path.ofSegments base) d).errors)
    (hcode : f.code ≠ .unknownProperty) : Located base d f := by
  obtain ⟨steps, t, c, hleads, hreported⟩ := exists_reported hs hf
  have hsteps := plain_of_leadsTo hs hleads
  have hslot := slot?_of_leadsTo hleads
  cases hreported with
  | kind => exact located_of_blames hsteps hslot ⟨rfl, rfl, rfl⟩
  | text _ hc hf =>
      subst hc
      exact located_of_blames hsteps hslot (blames_checkText hf)
  | number _ _ hf => exact located_of_blames hsteps hslot (blames_checkNumber hf)
  | missing ht' hc hname hfield =>
      subst ht' hc
      obtain ⟨name, hname, hplain⟩ := (of_throughout (throughout_of_leadsTo hs hleads)).1 _ hname
      obtain rfl := Document.string.inj hname
      exact located_of_missing hsteps hplain hslot (SecondLook.get?_of_has_eq_false hfield) rfl rfl
        rfl
  | unknown h => exact (hcode h).elim
  | noAlternative hpath hcode hvalue =>
      exact located_of_blames hsteps hslot ⟨hpath, hvalue, by rw [hcode]; rfl⟩

theorem located_of_traced (h : Traced s base d f) : Located base d f := by
  obtain ⟨steps, fields, t, hsteps, hslot, -, hnoted⟩ := h
  have hfield {name : String} {part : Document} (hname : PlainName name)
      (hpart : Fields.get? fields name = some part)
      (hblames : Blames (Refinement.inField (Path.ofSegments (base ++ steps)) name) part f) :
      Located base d f := by
    rw [inField_ofSegments, List.append_assoc] at hblames
    refine located_of_blames ?_ ?_ hblames
    · simpa [or_imp, forall_and] using ⟨hsteps, hname⟩
    · have hchild : (Document.object fields).child? (.name name) = some part := hpart
      rw [slot?_append hslot, slot?_cons_of_child? hchild, Document.slot?]
  cases hnoted with
  | message _ h =>
      exact located_of_missing hsteps (by decide) hslot (SecondLook.get?_of_has_eq_false h)
        rfl rfl rfl
  | location _ h => exact located_of_missing hsteps (by decide) hslot h rfl rfl rfl
  | start h => exact located_of_missing hsteps (by decide) hslot h rfl rfl rfl
  | ordinal hname hd =>
      rcases hname with rfl | rfl <;> exact hfield (by decide) hd ⟨rfl, rfl, rfl⟩
  | severity hd => exact hfield (by decide) hd ⟨rfl, rfl, rfl⟩
  | list hd => exact hfield (by decide) hd ⟨rfl, rfl, rfl⟩

/-! ## Verdicts -/

theorem leadsInto_of_slot? (h : d.slot? steps = some f.content?) : f.LeadsInto d steps := by
  rw [Finding.LeadsInto]
  rw [Finding.content?] at h
  split
  · rename_i habsent
    rw [if_pos habsent] at h
    obtain ⟨place, name, fields, hsteps, hplace, hname⟩ := exists_object_of_slot? h
    refine ⟨place, name, fields, hsteps, at?_of_slot? hplace, ?_⟩
    rw [Fields.has_eq_isSome_get?, hname]
    rfl
  · rename_i hpresent
    rw [if_neg hpresent] at h
    exact at?_of_slot? h

theorem blames_rejection (h : Validator.rejection? d = some f) : Blames "" d f := by
  rw [Validator.rejection?.eq_def] at h
  split at h
  · exact Option.some.inj h ▸ ⟨rfl, rfl, rfl⟩
  · split at h
    · exact Option.some.inj h ▸ ⟨rfl, rfl, rfl⟩
    · cases h
  · exact Option.some.inj h ▸ ⟨rfl, rfl, rfl⟩
  · exact Option.some.inj h ▸ ⟨rfl, rfl, rfl⟩
  · cases h

private theorem located_rejection (h : Validator.rejection? d = some f) : Located [] d f :=
  @located_of_blames d d [] [] f (by simp) rfl (blames_rejection h)

/-- Everything in a verdict but an unknown property is located in the document. -/
theorem located_of_mem_examine (hs : s.PlainNames)
    (hf : f ∈ (Validator.examine ⟨o, s⟩ d).errors) (hcode : f.code ≠ .unknownProperty) :
    Located [] d f := by
  rw [Validator.examine] at hf
  split at hf
  · rename_i g hg
    obtain rfl := List.mem_singleton.mp hf
    exact located_rejection hg
  · rcases Merging.mem_mergeFindings.mp hf with ⟨hgeneric, -⟩ | hspecific
    · exact located_check hs hgeneric hcode
    · exact located_of_traced (traced_node [] d hspecific)

theorem errors_of_validate {v : Validator} {w : Verdict} (h : v.validate d = .ok w) :
    w.errors = (v.examine d).errors := by
  rw [Validator.validate, Outcome.verdict] at h
  split at h
  · cases h
  · obtain rfl := Except.ok.inj h
    rfl

/-- Every finding but an unknown property has a path of plain steps that leads to an object without the
field that is missing, or to the value that the finding blames, and the path is read back from its text. -/
theorem paths_lead_into_document (o : Options) (s : Schema) (d : Document) (hs : s.PlainNames) :
    (s.WellTyped → ∃ v, Validator.validate ⟨o, s⟩ d = .ok v) ∧
      ∀ v, Validator.validate ⟨o, s⟩ d = .ok v → ∀ f ∈ v.errors, f.code ≠ .unknownProperty →
        ∃ steps, f.path = Path.ofSegments steps ∧ f.LeadsInto d steps ∧
          (d.Indexable → Path.parse f.path = .ok steps) := by
  refine ⟨fun hwell => ?_, fun v hv f hf hcode => ?_⟩
  · rw [Validator.validate, Validator.examine]
    split
    · exact ⟨_, rfl⟩
    · exact ⟨_, Outcome.verdict_of_fault_eq_none (WellTyped.fault_check hwell o "" d)⟩
  · rw [errors_of_validate hv] at hf
    obtain ⟨steps, hsteps, hpath, hslot, -⟩ := located_of_mem_examine hs hf hcode
    rw [List.nil_append] at hpath
    refine ⟨steps, hpath, leadsInto_of_slot? hslot, fun hd => ?_⟩
    rw [hpath]
    exact parse_of_short hsteps (short_of_slot? hd hslot)

/-- The finding about a list that holds a number leads to the number. -/
theorem path_leads_to_number_in_list :
    ReviewFormat.document.PlainNames ∧
    ∃ v f, Validator.validate Validator.standard (.array [.int 1]) = .ok v ∧ f ∈ v.errors ∧
      ∃ steps, f.path = Path.ofSegments steps ∧ Path.parse f.path = .ok steps ∧
        Document.at? (.array [.int 1]) steps = .ok (some (.int 1)) := by
  refine ⟨plainNames_document, ?_⟩
  obtain ⟨-, hpaths⟩ :=
    paths_lead_into_document .standard ReviewFormat.document (.array [.int 1]) plainNames_document
  have hindexable : (Document.array [.int 1]).Indexable := by
    refine .array (Nat.one_le_pow _ _ (by decide)) (List.forall_mem_singleton.mpr ?_)
    exact .scalar (by simp) (by simp)
  have herrors : (check .standard ReviewFormat.document "" (.array [.int 1])).errors =
      [.expecting "[0]" .typeMismatch (.int 1) "object"] := by
    rw [ListDocument.errors_document_array (by simp), if_pos (by decide)]
    rfl
  have hmember : Finding.expecting "[0]" .typeMismatch (.int 1) "object" ∈
      mergeFindings (check .standard ReviewFormat.document "" (.array [.int 1])).errors
        (Refinement.node "" (.array [.int 1])).errors := by
    rw [herrors]
    exact List.mem_singleton_self _
  obtain ⟨steps, hpath, hleads, hread⟩ :=
    hpaths _ (Agreement.validate_eq rfl) _ hmember (by decide)
  exact ⟨_, _, Agreement.validate_eq rfl, hmember, steps, hpath, hread hindexable, hleads⟩

end Proofs.Addresses

end ReviewDiagnostics
