import ReviewDiagnostics.Proofs.Addresses

/-!
# Findings that lie apart

What one look at a document finds lies at places of which none leads to another one.  The check goes
into each part once and finds at most one thing wrong with a value that has no parts; the second look
finds at most one thing wrong with each field.  Unknown properties and findings about the whole
document are left out: nothing is ever written for them.
-/

namespace ReviewDiagnostics

/-- A finding that is never repaired: an unknown property, or one about the whole document. -/
def Finding.Idle (f : Finding) : Prop := f.code = .unknownProperty ∨ f.path = ""

/-- The paths of two findings, as far as they are read, do not lead to one another. -/
def Separate (f g : Finding) : Prop :=
  f.Idle ∨ g.Idle ∨ ∀ p q, Path.parse f.path = .ok p → Path.parse g.path = .ok q → Apart p q

/-- Findings of which one is never repaired, or at places that do not lead to one another, whether or not
their paths are read. -/
def Parted (f g : Finding) : Prop :=
  f.Idle ∨ g.Idle ∨ ∃ p q, (∀ step ∈ p, step.Plain) ∧ (∀ step ∈ q, step.Plain) ∧
    f.path = Path.ofSegments p ∧ g.path = Path.ofSegments q ∧ Apart p q

/-- A finding at a path that begins with certain steps. -/
def Under (base : List Segment) (f : Finding) : Prop :=
  ∃ steps, (∀ step ∈ base ++ steps, step.Plain) ∧ f.path = Path.ofSegments (base ++ steps)

/-- A finding about a value at a path, by a schema with no two limits that can be broken at once. -/
inductive Detected (t : Schema) (path : String) (c : Document) : Finding → Prop
  | kind {k : Kind} (hkind : t.kind? = some k) (hother : c.kind? ≠ some k) :
    Detected t path c (.expecting path .typeMismatch c k.word)
  | blank {about : About} {text : String}
    (ht : t = .string about { TextLimits.none with minLength := some (.int 1) }) (hc : c = .string text)
    (hblank : Text.allBlank text = true) :
    Detected t path c (.expecting path .emptyString (.string text) "non-empty string")
  | low {about : About} {text : String} (ht : t = .number about (some (.int 1)) none)
    (hc : c.kind? = some .number) (hless : c.less (.int 1) = true) :
    Detected t path c (.of path .minValueViolation c (.string text) (.int 1))
  | missing {about : About} {required : List Document} {properties : List (String × Schema)}
    {additional : Bool} {fields : Fields} {name : String}
    (ht : t = .object about required properties additional) (hc : c = .object fields)
    (hname : .string name ∈ required) :
    Detected t path c (.expecting (Path.join path (.name name)) .requiredPropertyMissing .null
      (Conformity.missingText (Schema.property? properties name)))
  /-- Nothing is ever written for it. -/
  | lasting {f : Finding} (hcode : f.code ∈ [.unknownProperty, .oneofValidationFailed, .patternMismatch,
    .enumValidationFailed, .invalidRange]) : Detected t path c f

namespace Proofs.Separation

open Addresses Conformity Origins Parts PathText Places Slots

variable {o : Options} {s t : Schema} {d c : Document} {base steps : List Segment}
  {a b : Segment} {f g : Finding} {fields : Fields} {name : String}

/-! ## Places of findings -/

theorem separate_comm (h : Separate f g) : Separate g f := by
  rcases h with hf | hg | h
  · exact .inr (.inl hf)
  · exact .inl hg
  · exact .inr (.inr fun q p hq hp => apart_comm.mp (h p q hp hq))

theorem separate_of_parted (h : Parted f g) : Separate f g := by
  rcases h with hf | hg | ⟨p, q, hp, hq, hfpath, hgpath, hapart⟩
  · exact .inl hf
  · exact .inr (.inl hg)
  · refine .inr (.inr fun fsteps gsteps hfread hgread => ?_)
    rw [hfpath] at hfread
    rw [hgpath] at hgread
    rwa [eq_of_parse hp hfread, eq_of_parse hq hgread]

theorem parted_comm (h : Parted f g) : Parted g f := by
  rcases h with hf | hg | ⟨p, q, hp, hq, hfpath, hgpath, hapart⟩
  · exact .inr (.inl hf)
  · exact .inl hg
  · exact .inr (.inr ⟨q, p, hq, hp, hgpath, hfpath, apart_comm.mp hapart⟩)

theorem parted_of_idle (h : f.Idle) : Parted f g := .inl h

theorem under_of_located (hbase : ∀ step ∈ base, step.Plain) (h : Located base d f) :
    Under base f := by
  obtain ⟨steps, hsteps, hpath, -⟩ := h
  exact ⟨steps, List.forall_mem_append.mpr ⟨hbase, hsteps⟩, hpath⟩

theorem under_here (hbase : ∀ step ∈ base, step.Plain) (h : f.path = Path.ofSegments base) :
    Under base f :=
  ⟨[], by simpa using hbase, by simpa using h⟩

theorem parted_of_ne (hf : Under (base ++ [a]) f) (hg : Under (base ++ [b]) g) (hne : a ≠ b) :
    Parted f g := by
  obtain ⟨p, hp, hfpath⟩ := hf
  obtain ⟨q, hq, hgpath⟩ := hg
  refine .inr (.inr ⟨_, _, hp, hq, hfpath, hgpath, ?_⟩)
  rw [List.append_assoc, List.append_assoc]
  exact apart_of_ne hne

theorem plain_nil : ∀ step ∈ ([] : List Segment), step.Plain := by simp

theorem plain_append (hbase : ∀ step ∈ base, step.Plain) (ha : a.Plain) :
    ∀ step ∈ base ++ [a], step.Plain :=
  List.forall_mem_append.mpr ⟨hbase, List.forall_mem_singleton.mpr ha⟩

theorem plain_field (hbase : ∀ step ∈ base, step.Plain) (hname : PlainName name) :
    ∀ step ∈ base ++ [.name name], step.Plain :=
  plain_append hbase hname

theorem plain_item (hbase : ∀ step ∈ base, step.Plain) (i : Nat) :
    ∀ step ∈ base ++ [.index i], step.Plain :=
  plain_append hbase (plain_index i)

theorem unknown_or_under_of_check (hs : s.PlainNames) (hbase : ∀ step ∈ base, step.Plain)
    (hf : f ∈ (check o s (Path.ofSegments base) d).errors) :
    f.code = .unknownProperty ∨ Under base f := by
  by_cases hcode : f.code = .unknownProperty
  · exact .inl hcode
  · exact .inr (under_of_located hbase (located_check hs hf hcode))

theorem idle_or_under_of_check (hs : s.PlainNames) (hbase : ∀ step ∈ base, step.Plain)
    (hf : f ∈ (check o s (Path.ofSegments base) d).errors) : f.Idle ∨ Under base f :=
  (unknown_or_under_of_check hs hbase hf).imp_left .inl

theorem parted_check_of_ne {x y : Document} (hs : s.PlainNames) (ht : t.PlainNames)
    (hbase : ∀ step ∈ base, step.Plain) (ha : a.Plain) (hb : b.Plain) (hne : a ≠ b)
    (hf : f ∈ (check o s (Path.join (Path.ofSegments base) a) x).errors)
    (hg : g ∈ (check o t (Path.join (Path.ofSegments base) b) y).errors) : Parted f g := by
  rw [← ofSegments_append] at hf hg
  rcases idle_or_under_of_check hs (plain_append hbase ha) hf with hidle | hf
  · exact .inl hidle
  · rcases idle_or_under_of_check ht (plain_append hbase hb) hg with hidle | hg
    · exact .inr (.inl hidle)
    · exact parted_of_ne hf hg hne

/-! ## The check -/

theorem errors_checkText_nonEmpty (path text : String) :
    (checkText path text { TextLimits.none with minLength := some (.int 1) }).errors =
      if Text.allBlank text then [.expecting path .emptyString (.string text) "non-empty string"]
      else [] := by
  have hlimits : (checkText path text { TextLimits.none with minLength := some (.int 1) }).errors =
      (checkMinLength path text (some (.int 1))).errors := List.append_nil _
  rw [hlimits, checkMinLength]
  by_cases hblank : Text.allBlank text = true
  · rw [if_pos (by simp [hblank, Document.truthy]), if_pos hblank]
    rfl
  · have hlength : text.length ≠ 0 := by
      intro hlength
      rw [String.length_eq_zero_iff.mp hlength] at hblank
      exact hblank (by decide)
    rw [if_neg (by simp [hblank]), if_neg hblank, WellTyped.isBelow_of_isNumeric rfl rfl,
      Conformance.errors_when_eq_nil_iff, Conformance.less_int]
    simp only [decide_eq_false_iff_not]
    omega

theorem mem_errors_checkText {limits : TextLimits} (h : limits.Single) {path text : String}
    (hf : f ∈ (checkText path text limits).errors) :
    limits = { TextLimits.none with minLength := some (.int 1) } ∧
        f = .expecting path .emptyString (.string text) "non-empty string" ∨
      f.code = .patternMismatch ∨ f.code = .enumValidationFailed := by
  cases h with
  | none => cases hf
  | nonEmpty =>
      rw [errors_checkText_nonEmpty] at hf
      split at hf
      · exact .inl ⟨rfl, List.mem_singleton.mp hf⟩
      · cases hf
  | @pattern pattern =>
      have hlimits : (checkText path text
          { TextLimits.none with pattern := some (.string pattern) }).errors =
          (checkPattern path text (some (.string pattern))).errors := rfl
      rw [hlimits, checkPattern] at hf
      split at hf
      · cases hf
      · split at hf
        · cases hf
        · exact .inr (.inl (List.mem_singleton.mp hf ▸ rfl))
  | @enum texts =>
      rw [checkText] at hf
      dsimp only at hf
      split at hf
      · cases hf
      · split at hf
        · cases hf
        · exact .inr (.inr (List.mem_singleton.mp hf ▸ rfl))

theorem mem_errors_checkNumber {path : String} (hkind : c.kind? = some .number)
    (hf : f ∈ (checkNumber path c (some (.int 1)) none).errors) :
    c.less (.int 1) = true ∧ ∃ text, f = .of path .minValueViolation c (.string text) (.int 1) := by
  rw [checkNumber, Outcome.errors_append, Outcome.errors_clean, List.append_nil, checkBound.eq_def,
    WellTyped.isBelow_of_isNumeric (WellTyped.isNumeric_of_kind? hkind) rfl] at hf
  cases hless : c.less (.int 1) with
  | false => simp [hless] at hf
  | true =>
      simp only [hless] at hf
      split at hf
      · cases hf
      · exact ⟨rfl, _, List.mem_singleton.mp hf⟩

theorem detected_of_reported {path : String} (hsingle : t.Single) (h : Reported t path c f) :
    Detected t path c f := by
  cases h with
  | kind hkind hother => exact .kind hkind hother
  | @text about limits s _ ht hc hf =>
      subst ht hc
      have hlimits : limits.Single := hsingle
      rcases mem_errors_checkText hlimits hf with ⟨rfl, rfl⟩ | hpattern | henum
      · rw [errors_checkText_nonEmpty] at hf
        split at hf
        · rename_i hblank
          exact .blank rfl rfl hblank
        · cases hf
      · exact .lasting (by simp [hpattern])
      · exact .lasting (by simp [henum])
  | number ht hc hf =>
      subst ht
      obtain ⟨rfl, rfl⟩ := hsingle
      obtain ⟨hless, text, rfl⟩ := mem_errors_checkNumber hc hf
      exact .low rfl hc hless
  | missing ht hc hname => exact .missing ht hc hname
  | unknown hcode => exact .lasting (by simp [hcode])
  | noAlternative _ hcode => exact .lasting (by simp [hcode])

theorem length_checkText_le {limits : TextLimits} (h : limits.Single) (path text : String) :
    (checkText path text limits).errors.length ≤ 1 := by
  cases h with
  | none => exact Nat.zero_le 1
  | nonEmpty =>
      rw [errors_checkText_nonEmpty]
      split <;> simp
  | @pattern pattern =>
      have hlimits : (checkText path text
          { TextLimits.none with pattern := some (.string pattern) }).errors =
          (checkPattern path text (some (.string pattern))).errors := rfl
      rw [hlimits, checkPattern]
      split
      · simp
      · split <;> simp
  | @enum texts =>
      rw [checkText]
      dsimp only
      split
      · exact Nat.zero_le 1
      · split <;> simp

theorem pairwise_of_length_le {R : Finding → Finding → Prop} {l : List Finding} (h : l.length ≤ 1) :
    l.Pairwise R := by
  match l with
  | [] => exact .nil
  | [f] => exact List.pairwise_singleton R f
  | _ :: _ :: _ => simp at h

theorem length_checkBound_le (path sign : String) (code : Code) (value bound : Document)
    (exceeded : Except Fault Bool) :
    (checkBound path code sign value bound exceeded).errors.length ≤ 1 := by
  rw [checkBound.eq_def]
  split
  · exact Nat.zero_le 1
  · exact Nat.zero_le 1
  · split <;> simp

theorem under_of_required {properties : List (String × Schema)} (hbase : ∀ step ∈ base, step.Plain)
    (hname : PlainName name)
    (hf : f ∈ (checkRequired (Path.ofSegments base) fields properties (.string name)).errors) :
    fields.has name = false ∧ Under (base ++ [.name name]) f := by
  obtain ⟨hfield, rfl⟩ := mem_errors_checkRequired_iff.mp hf
  exact ⟨hfield, under_here (plain_field hbase hname) (ofSegments_append base (.name name)).symm⟩

theorem code_of_unknown {path : String} {properties : List (String × Schema)} {additional : Bool}
    (hf : f ∈ (checkUnknown path fields properties additional o).errors) : f.code = .unknownProperty := by
  obtain ⟨p, -, rfl⟩ := eq_of_mem_errors_checkUnknown hf
  rfl

theorem idle_of_unknown {path : String} {properties : List (String × Schema)} {additional : Bool}
    (hf : f ∈ (checkUnknown path fields properties additional o).errors) : f.Idle :=
  .inl (code_of_unknown hf)

theorem errors_checkUnknown_of_live {path : String} {about : About} {required : List Document}
    {properties : List (String × Schema)} {additional : Bool}
    (h : ∀ g ∈ (check o (.object about required properties additional) path (.object fields)).errors,
      ¬ g.Idle) : (checkUnknown path fields properties additional o).errors = [] := by
  exact List.eq_nil_iff_forall_not_mem.mpr fun g hg =>
    h g (mem_errors_object_iff.mpr (.inr (.inr hg))) (idle_of_unknown hg)

theorem pairwise_join_items {R : Finding → Finding → Prop} {items : List Document}
    {look : Nat → Document → Outcome}
    (hone : ∀ i, ∀ hi : i < items.length, (look i items[i]).errors.Pairwise R)
    (htwo : ∀ i j, ∀ hi : i < items.length, ∀ hj : j < items.length, i < j →
      ∀ f ∈ (look i items[i]).errors, ∀ g ∈ (look j items[j]).errors, R f g) :
    (Outcome.join (items.mapIdx look)).errors.Pairwise R := by
  rw [Outcome.errors_join, List.pairwise_flatMap]
  constructor
  · intro outcome houtcome
    obtain ⟨i, hi, rfl⟩ := List.mem_mapIdx.mp houtcome
    exact hone i hi
  · rw [List.pairwise_iff_getElem]
    intro i j hi hj hij
    rw [List.length_mapIdx] at hi hj
    rw [List.getElem_mapIdx, List.getElem_mapIdx]
    exact htwo i j hi hj hij

theorem pairwise_mismatch {R : Finding → Finding → Prop} {path : String} {k : Kind}
    (hkind : s.kind? = some k) (hother : d.kind? ≠ some k) : (check o s path d).errors.Pairwise R := by
  rw [check_of_kind?_ne hkind hother]
  exact List.pairwise_singleton _ _

theorem pairwise_required {texts : List String} {properties : List (String × Schema)}
    (hbase : ∀ step ∈ base, step.Plain) (hplain : ∀ text ∈ texts, PlainName text)
    (htexts : texts.Nodup) :
    ((ReviewFormat.names texts).flatMap fun name =>
      (checkRequired (Path.ofSegments base) fields properties name).errors).Pairwise Parted := by
  rw [ReviewFormat.names, List.flatMap_map, List.pairwise_flatMap]
  constructor
  · intro text _
    rw [checkRequired]
    split
    · exact .nil
    · exact List.pairwise_singleton _ _
  · refine htexts.imp_of_mem fun ht hu hne f hf g hg => ?_
    have hf := (under_of_required hbase (hplain _ ht) hf).2
    have hg := (under_of_required hbase (hplain _ hu) hg).2
    exact parted_of_ne hf hg fun h => hne (Segment.name.inj h)

theorem pairwise_properties {properties : List (String × Schema)}
    (hs : ∀ p ∈ properties, p.2.PlainNames) (hbase : ∀ step ∈ base, step.Plain)
    (hplain : ∀ p ∈ properties, PlainName p.1) (hdistinct : (properties.map (·.1)).Nodup)
    (hinside : ∀ p ∈ properties, ∀ c,
      (check o p.2 (Path.ofSegments (base ++ [.name p.1])) c).errors.Pairwise Parted) :
    (properties.flatMap fun p => (checkProperty o (Path.ofSegments base) fields p).errors).Pairwise
      Parted := by
  rw [List.pairwise_flatMap]
  constructor
  · intro p hp
    rw [checkProperty]
    split
    · rw [← ofSegments_append]
      exact hinside p hp _
    · exact .nil
  · rw [List.Nodup, List.pairwise_map] at hdistinct
    refine hdistinct.imp_of_mem fun hp hq hne f hf g hg => ?_
    obtain ⟨x, -, hf⟩ := mem_errors_checkProperty_iff.mp hf
    obtain ⟨y, -, hg⟩ := mem_errors_checkProperty_iff.mp hg
    exact parted_check_of_ne (hs _ hp) (hs _ hq) hbase (hplain _ hp) (hplain _ hq)
      (fun h => hne (Segment.name.inj h)) hf hg

private theorem parted_of_missing {p : String × Schema} (hs : p.2.PlainNames)
    (hbase : ∀ step ∈ base, step.Plain) (hplain : PlainName p.1)
    (hmissing : fields.has name = false) (hf : Under (base ++ [.name name]) f)
    (hg : g ∈ (checkProperty o (Path.ofSegments base) fields p).errors) : Parted f g := by
  obtain ⟨c, hc, hg⟩ := mem_errors_checkProperty_iff.mp hg
  rw [← ofSegments_append] at hg
  have hpresent : p.1 ≠ name := by
    rintro rfl
    rw [SecondLook.get?_of_has_eq_false hmissing] at hc
    cases hc
  rcases idle_or_under_of_check hs (plain_field hbase hplain) hg with hidle | hg
  · exact parted_comm (parted_of_idle hidle)
  · exact parted_of_ne hf hg fun h => hpresent (Segment.name.inj h).symm

theorem pairwise_object {about : About} {required : List Document}
    {properties : List (String × Schema)} {additional : Bool}
    (hs : (Schema.object about required properties additional).PlainNames)
    (hsingle : (Schema.object about required properties additional).Single)
    (hbase : ∀ step ∈ base, step.Plain)
    (hinside : ∀ p ∈ properties, ∀ c,
      (check o p.2 (Path.ofSegments (base ++ [.name p.1])) c).errors.Pairwise Parted) :
    (check o (.object about required properties additional) (Path.ofSegments base)
      (.object fields)).errors.Pairwise Parted := by
  obtain ⟨⟨texts, rfl, htexts⟩, hdistinct⟩ := hsingle
  obtain ⟨hrequired, hproperties⟩ := of_throughout hs
  have hparts : ∀ p ∈ properties, p.2.PlainNames := fun p hp => throughout_property hs hp
  have hplain : ∀ text ∈ texts, PlainName text := by
    intro text htext
    obtain ⟨name, hname, hplain⟩ := hrequired _ (List.mem_map_of_mem htext)
    exact Document.string.inj hname ▸ hplain
  rw [check_object_eq, Outcome.errors_append, Outcome.errors_append, Outcome.errors_join,
    Outcome.errors_join, List.flatMap_map, List.flatMap_map, List.pairwise_append, List.pairwise_append]
  refine ⟨pairwise_required hbase hplain htexts, ⟨?declared, ?undeclared, ?idle⟩, ?missing⟩
  case declared => exact pairwise_properties hparts hbase hproperties hdistinct hinside
  case undeclared =>
    exact List.pairwise_of_forall_mem_list fun f hf _ _ => parted_of_idle (idle_of_unknown hf)
  case idle => exact fun f _ g hg => parted_comm (parted_of_idle (idle_of_unknown hg))
  case missing =>
    intro f hf g hg
    obtain ⟨_, hname, hf⟩ := List.mem_flatMap.mp hf
    obtain ⟨text, htext, rfl⟩ := List.mem_map.mp hname
    obtain ⟨hmissing, hf⟩ := under_of_required hbase (hplain text htext) hf
    rcases List.mem_append.mp hg with hg | hg
    · obtain ⟨p, hp, hg⟩ := List.mem_flatMap.mp hg
      exact parted_of_missing (hparts p hp) hbase (hproperties p hp) hmissing hf hg
    · exact parted_comm (parted_of_idle (idle_of_unknown hg))

/-- What checking a value finds lies apart, if no two limits on one of its parts can be broken at once. -/
theorem pairwise_check (hs : s.PlainNames) (hsingle : s.Throughout Schema.Single)
    (hbase : ∀ step ∈ base, step.Plain) :
    (check o s (Path.ofSegments base) d).errors.Pairwise Parted := by
  induction s using Schema.induction generalizing base d with
  | string about limits =>
      by_cases hkind : d.kind? = some .string
      · obtain ⟨text, rfl⟩ := exists_text_of_kind? hkind
        exact pairwise_of_length_le (length_checkText_le (of_throughout hsingle) _ text)
      · exact pairwise_mismatch rfl hkind
  | number about minimum maximum =>
      by_cases hkind : d.kind? = some .number
      · obtain ⟨rfl, rfl⟩ := of_throughout hsingle
        rw [check, if_pos hkind, checkNumber, Outcome.errors_append, Outcome.errors_clean,
          List.append_nil]
        exact pairwise_of_length_le (length_checkBound_le ..)
      · exact pairwise_mismatch rfl hkind
  | boolean | null | anyArray =>
      rw [check]
      split
      · exact .nil
      · exact List.pairwise_singleton _ _
  | object about required properties additional ih =>
      by_cases hkind : d.kind? = some .object
      · obtain ⟨fields, rfl⟩ := exists_fields_of_kind? hkind
        have hplain := (of_throughout hs).2
        exact pairwise_object hs (of_throughout hsingle) hbase fun p hp c =>
          ih p hp (throughout_property hs hp) (throughout_property hsingle hp)
            (plain_field hbase (hplain p hp))
      · exact pairwise_mismatch rfl hkind
  | array about item ih =>
      by_cases hkind : d.kind? = some .array
      · obtain ⟨items, rfl⟩ := exists_items_of_kind? hkind
        rw [check]
        refine pairwise_join_items (fun i hi => ?_) (fun i j hi hj hij f hf g hg => ?_)
        · rw [← ofSegments_append]
          exact ih (throughout_item hs) (throughout_item hsingle) (plain_item hbase i)
        · have hne : Segment.index i ≠ .index j := fun h => by
            have hindex := Segment.index.inj h
            omega
          exact parted_check_of_ne (throughout_item hs) (throughout_item hs) hbase (plain_index i)
            (plain_index j) hne hf hg
      · exact pairwise_mismatch rfl hkind
  | oneOf about alternatives uri ih =>
      rw [check_oneOf_eq]
      rcases Choice.errors_choose_cases with hnil | hnone | ⟨t, ht, herrors⟩
      · rw [hnil]
        exact .nil
      · rw [hnone]
        exact List.pairwise_singleton _ _
      · obtain ⟨s, hmem, rfl⟩ := List.mem_map.mp ht
        rw [herrors]
        exact ih s hmem (throughout_alternative hs hmem) (throughout_alternative hsingle hmem) hbase

/-! ## The second look -/

theorem under_field (hbase : ∀ step ∈ base, step.Plain) (hname : PlainName name)
    (hpath : f.path = Refinement.inField (Path.ofSegments base) name) :
    Under (base ++ [.name name]) f :=
  under_here (plain_field hbase hname) (hpath.trans (inField_ofSegments base name))

theorem under_of_traced (hbase : ∀ step ∈ base, step.Plain) (h : Traced s base d f) : Under base f :=
  under_of_located hbase (located_of_traced h)

theorem path_ordinal {path : String} (hf : f ∈ (Refinement.ordinal path fields name).errors) :
    f.path = Refinement.inField path name := by
  obtain ⟨d, -, -, -, rfl⟩ := exists_of_mem_ordinal hf
  rfl

theorem path_severity {path : String} (hf : f ∈ (Refinement.severity path fields).errors) :
    f.path = Refinement.inField path "severity" := by
  obtain ⟨d, -, -, rfl⟩ := exists_of_mem_severity hf
  rfl

theorem pairwise_ordinal {R : Finding → Finding → Prop} {path : String} :
    (Refinement.ordinal path fields name).errors.Pairwise R := by
  rw [Refinement.ordinal]
  split
  · exact .nil
  · split
    · exact List.pairwise_singleton _ _
    · exact .nil

theorem pairwise_severity {R : Finding → Finding → Prop} {path : String} :
    (Refinement.severity path fields).errors.Pairwise R := by
  rw [Refinement.severity]
  split
  · exact .nil
  · split
    · exact .nil
    · exact List.pairwise_singleton _ _

/-- Findings sorted by the fields that they lie below. -/
def BelowFields (base : List Segment) (parts : List (String × List Finding)) : Prop :=
  ∀ p ∈ parts, ∀ f ∈ p.2, Under (base ++ [.name p.1]) f

theorem pairwise_of_belowFields {parts : List (String × List Finding)} (hbelow : BelowFields base parts)
    (hnames : (parts.map (·.1)).Nodup) (hparts : ∀ p ∈ parts, p.2.Pairwise Parted) :
    (parts.flatMap (·.2)).Pairwise Parted := by
  rw [List.pairwise_flatMap]
  refine ⟨hparts, ?_⟩
  rw [List.Nodup, List.pairwise_map] at hnames
  refine hnames.imp_of_mem fun hp hq hne f hf g hg => ?_
  exact parted_of_ne (hbelow _ hp f hf) (hbelow _ hq g hg) fun h => hne (Segment.name.inj h)

/-- What the second look finds about the fields of a position. -/
def positionParts (path : String) (fields : Fields) : List (String × List Finding) :=
  [("line", (Refinement.ordinal path fields "line").errors),
    ("column", (Refinement.ordinal path fields "column").errors)]

theorem errors_position {path : String} : (Refinement.position path (.object fields)).errors =
    (positionParts path fields).flatMap (·.2) := by
  simp [Refinement.position, positionParts]

theorem belowFields_position (hbase : ∀ step ∈ base, step.Plain) :
    BelowFields base (positionParts (Path.ofSegments base) fields) := by
  simp only [BelowFields, positionParts, List.forall_mem_cons, List.not_mem_nil, false_imp_iff,
    implies_true, and_true]
  exact ⟨fun f hf => under_field hbase (by decide) (path_ordinal hf),
    fun f hf => under_field hbase (by decide) (path_ordinal hf)⟩

theorem pairwise_position (hbase : ∀ step ∈ base, step.Plain) :
    (Refinement.position (Path.ofSegments base) d).errors.Pairwise Parted := by
  cases d with
  | object fields =>
      rw [errors_position]
      refine pairwise_of_belowFields (belowFields_position hbase)
        (show ["line", "column"].Nodup by decide) ?_
      simp [positionParts, pairwise_ordinal]
  | _ => exact .nil

/-- What the second look finds about the start of a range. -/
def startFindings (path : String) (fields : Fields) : List Finding :=
  (match Fields.get? fields "start" with
    | none =>
      Outcome.ofError (.expecting (Refinement.inField path "start") .invalidRange .null
        "position object with line number")
    | some d => Refinement.position (Refinement.inField path "start") d).errors

/-- What the second look finds about the fields of a range. -/
def rangeParts (path : String) (fields : Fields) : List (String × List Finding) :=
  [("start", startFindings path fields),
    ("end", (Refinement.position (Refinement.inField path "end")
      (Document.field fields "end")).errors)]

theorem errors_range {path : String} : (Refinement.range path (.object fields)).errors =
    (rangeParts path fields).flatMap (·.2) := by
  rw [Refinement.range, rangeParts, List.flatMap_cons, List.flatMap_cons, List.flatMap_nil,
    List.append_nil]
  rfl

theorem belowFields_range (hbase : ∀ step ∈ base, step.Plain) :
    BelowFields base (rangeParts (Path.ofSegments base) fields) := by
  simp only [BelowFields, rangeParts, List.forall_mem_cons, List.not_mem_nil, false_imp_iff,
    implies_true, and_true]
  refine ⟨fun f hf => ?_, fun f hf => ?_⟩
  · rw [startFindings] at hf
    split at hf
    · obtain rfl := List.mem_singleton.mp hf
      exact under_field hbase (by decide) rfl
    · rw [inField_ofSegments] at hf
      exact under_of_traced (plain_field hbase (by decide)) (traced_position hf)
  · rw [inField_ofSegments] at hf
    exact under_of_traced (plain_field hbase (by decide)) (traced_position hf)

theorem pairwise_range (hbase : ∀ step ∈ base, step.Plain) :
    (Refinement.range (Path.ofSegments base) d).errors.Pairwise Parted := by
  cases d with
  | object fields =>
      rw [errors_range]
      refine pairwise_of_belowFields (belowFields_range hbase)
        (show ["start", "end"].Nodup by decide) ?_
      simp only [rangeParts, List.forall_mem_cons, List.not_mem_nil, false_imp_iff, implies_true,
        and_true]
      constructor
      · rw [startFindings]
        split
        · exact List.pairwise_singleton _ _
        · rw [inField_ofSegments]
          exact pairwise_position (plain_field hbase (by decide))
      · rw [inField_ofSegments]
        exact pairwise_position (plain_field hbase (by decide))
  | _ => exact .nil

/-- What the second look finds about the field of a location. -/
def locationParts (path : String) (fields : Fields) : List (String × List Finding) :=
  [("range", (Refinement.range (Refinement.inField path "range")
    (Document.field fields "range")).errors)]

theorem errors_location {path : String} : (Refinement.location path (.object fields)).errors =
    (locationParts path fields).flatMap (·.2) := by
  simp [Refinement.location, locationParts]

theorem belowFields_location (hbase : ∀ step ∈ base, step.Plain) :
    BelowFields base (locationParts (Path.ofSegments base) fields) := by
  simp only [BelowFields, locationParts, List.forall_mem_singleton]
  intro f hf
  rw [inField_ofSegments] at hf
  exact under_of_traced (plain_field hbase (by decide)) (traced_range hf)

theorem pairwise_location (hbase : ∀ step ∈ base, step.Plain) :
    (Refinement.location (Path.ofSegments base) d).errors.Pairwise Parted := by
  cases d with
  | object fields =>
      rw [errors_location]
      refine pairwise_of_belowFields (belowFields_location hbase)
        (show ["range"].Nodup by decide) ?_
      simp only [locationParts, List.forall_mem_singleton]
      rw [inField_ofSegments]
      exact pairwise_range (plain_field hbase (by decide))
  | _ => exact .nil

/-- What the second look finds about the message of a diagnostic. -/
def messageFindings (path : String) (fields : Fields) : List Finding :=
  if fields.has "message" then []
  else [.expecting (Refinement.inField path "message") .missingDiagnosticMessage .null "string"]

/-- What the second look finds about the location of a diagnostic. -/
def placeFindings (path : String) (fields : Fields) : List Finding :=
  (match fields.get? "location" with
    | none =>
      Outcome.ofError
        (.expecting (Refinement.inField path "location") .missingDiagnosticLocation .null "object")
    | some d => Refinement.location (Refinement.inField path "location") d).errors

/-- What the second look finds about the fields of a diagnostic. -/
def diagnosticParts (path : String) (fields : Fields) : List (String × List Finding) :=
  [("message", messageFindings path fields), ("location", placeFindings path fields),
    ("severity", (Refinement.severity path fields).errors)]

theorem errors_diagnostic {path : String} : (Refinement.diagnostic path fields).errors =
    (diagnosticParts path fields).flatMap (·.2) := by
  rw [Refinement.diagnostic, diagnosticParts, messageFindings, List.flatMap_cons, List.flatMap_cons,
    List.flatMap_cons, List.flatMap_nil, List.append_nil, Outcome.errors_append]
  cases fields.has "message" <;> rfl

theorem belowFields_diagnostic (hbase : ∀ step ∈ base, step.Plain) :
    BelowFields base (diagnosticParts (Path.ofSegments base) fields) := by
  simp only [BelowFields, diagnosticParts, List.forall_mem_cons, List.not_mem_nil, false_imp_iff,
    implies_true, and_true]
  refine ⟨fun f hf => ?_, fun f hf => ?_, fun f hf => under_field hbase (by decide) (path_severity hf)⟩
  · rw [messageFindings] at hf
    split at hf
    · cases hf
    · obtain rfl := List.mem_singleton.mp hf
      exact under_field hbase (by decide) rfl
  · rw [placeFindings] at hf
    split at hf
    · obtain rfl := List.mem_singleton.mp hf
      exact under_field hbase (by decide) rfl
    · rw [inField_ofSegments] at hf
      exact under_of_traced (plain_field hbase (by decide)) (traced_location hf)

theorem pairwise_diagnostic (hbase : ∀ step ∈ base, step.Plain) :
    (Refinement.diagnostic (Path.ofSegments base) fields).errors.Pairwise Parted := by
  rw [errors_diagnostic]
  refine pairwise_of_belowFields (belowFields_diagnostic hbase)
        (show ["message", "location", "severity"].Nodup by decide) ?_
  simp only [diagnosticParts, List.forall_mem_cons, List.not_mem_nil, false_imp_iff, implies_true,
    and_true]
  refine ⟨?message, ?location, pairwise_severity⟩
  case message =>
    rw [messageFindings]
    split
    · exact .nil
    · exact List.pairwise_singleton _ _
  case location =>
    rw [placeFindings]
    split
    · exact List.pairwise_singleton _ _
    · rw [inField_ofSegments]
      exact pairwise_location (plain_field hbase (by decide))

/-- What the second look finds about the fields of a result. -/
def resultParts (path : String) (fields : Fields) : List (String × List Finding) :=
  [("diagnostics", (Refinement.listIn (Refinement.inField path "diagnostics") fields).errors),
    ("severity", (Refinement.severity path fields).errors)]

theorem under_of_listIn (hbase : ∀ step ∈ base, step.Plain) {rest : List (String × Document)}
    (hf : f ∈ (Refinement.listIn (Path.ofSegments (base ++ [.name "diagnostics"])) rest).errors) :
    Under (base ++ [.name "diagnostics"]) f := by
  have hplain := plain_field hbase (show PlainName "diagnostics" by decide)
  obtain ⟨d, -, ⟨-, rfl⟩ | htraced⟩ := traced_listIn base rest hf
  · exact under_here hplain rfl
  · exact under_of_traced hplain htraced

theorem belowFields_result (hbase : ∀ step ∈ base, step.Plain) :
    BelowFields base (resultParts (Path.ofSegments base) fields) := by
  simp only [BelowFields, resultParts, List.forall_mem_cons, List.not_mem_nil, false_imp_iff,
    implies_true, and_true]
  refine ⟨fun f hf => ?_, fun f hf => under_field hbase (by decide) (path_severity hf)⟩
  rw [inField_ofSegments] at hf
  exact under_of_listIn hbase hf

theorem errors_result {path : String} :
    (Refinement.listIn (Refinement.inField path "diagnostics") fields ++
      Refinement.severity path fields).errors = (resultParts path fields).flatMap (·.2) := by
  simp [resultParts]

theorem pairwise_result (hbase : ∀ step ∈ base, step.Plain)
    (hlist : (Refinement.listIn (Path.ofSegments (base ++ [.name "diagnostics"]))
      fields).errors.Pairwise Parted) :
    ((resultParts (Path.ofSegments base) fields).flatMap (·.2)).Pairwise Parted := by
  refine pairwise_of_belowFields (belowFields_result hbase)
    (show ["diagnostics", "severity"].Nodup by decide) ?_
  simp only [resultParts, List.forall_mem_cons, List.not_mem_nil, false_imp_iff, implies_true,
    and_true]
  exact ⟨inField_ofSegments base _ ▸ hlist, pairwise_severity⟩

theorem index_ne {i j : Nat} (h : i ≠ j) : Segment.index i ≠ .index j := fun heq => by
  have hindex := Segment.index.inj heq
  omega

mutual

/-- What the second look finds lies apart. -/
theorem pairwise_node (base : List Segment) (hbase : ∀ step ∈ base, step.Plain) : (d : Document) →
    (Refinement.node (Path.ofSegments base) d).errors.Pairwise Parted
  | .object fields => by
      rw [Refinement.node]
      split
      · exact pairwise_diagnostic hbase
      · split
        · rw [errors_result]
          exact pairwise_result hbase (pairwise_listIn base hbase fields)
        · exact .nil
  | .array items => by
      rw [Refinement.node]
      refine pairwise_join_items (fun i hi => ?_) (fun i j hi hj hij f hf g hg => ?_)
      · rw [← ofSegments_append]
        cases items[i] with
        | object fields =>
            rw [Refinement.item]
            split
            · exact pairwise_diagnostic (plain_item hbase i)
            · exact .nil
        | _ => exact .nil
      · rw [← ofSegments_append] at hf hg
        have hf := under_of_traced (plain_item hbase i) (traced_of_item hf)
        have hg := under_of_traced (plain_item hbase j) (traced_of_item hg)
        exact parted_of_ne hf hg (index_ne (by omega))
  | .null | .bool _ | .int _ | .float _ | .string _ => .nil

theorem pairwise_listIn (base : List Segment) (hbase : ∀ step ∈ base, step.Plain) :
    (fields : List (String × Document)) →
    (Refinement.listIn (Path.ofSegments (base ++ [.name "diagnostics"])) fields).errors.Pairwise
      Parted
  | [] => .nil
  | (name, d) :: rest => by
      rw [Refinement.listIn.eq_def]
      dsimp only
      split
      · match d with
        | .array [] => exact .nil
        | .array (x :: items) =>
            exact pairwise_nodes _ (plain_field hbase (by decide)) 0 (x :: items)
        | .null | .bool _ | .int _ | .float _ | .string _ | .object _ =>
            exact List.pairwise_singleton _ _
      · exact pairwise_listIn base hbase rest

theorem pairwise_nodes (base : List Segment) (hbase : ∀ step ∈ base, step.Plain) (i : Nat) :
    (items : List Document) →
    (Refinement.nodes (Path.ofSegments base) i items).errors.Pairwise Parted
  | [] => .nil
  | d :: rest => by
      rw [Refinement.nodes, Outcome.errors_append, List.pairwise_append, ← ofSegments_append]
      refine ⟨pairwise_node _ (plain_item hbase i) d, pairwise_nodes base hbase _ rest, ?_⟩
      intro f hf g hg
      obtain ⟨k, c, -, hg⟩ := traced_nodes base (i + 1) rest hg
      have hf := under_of_traced (plain_item hbase i) (traced_node _ d hf)
      have hg := under_of_traced (plain_item hbase _) hg
      exact parted_of_ne hf hg (index_ne (by omega))

end

end Proofs.Separation

end ReviewDiagnostics
