import ReviewDiagnostics.Proofs.Separation

/-!
# The two looks side by side

What the check finds and the second look does not stand in for lies apart from everything that the
second look finds, with one exception: where the check wants an object and finds a list, the second look
may still have found something inside the list.  A repair of the former takes away the places of the
latter.
-/

namespace ReviewDiagnostics

/-- Whether a finding asks for an object where a list stands, and another one is about something inside
that list. -/
def Finding.sweeps (x f : Finding) : Bool :=
  match x.code, x.value, x.expected, Path.parse x.path, Path.parse f.path with
  | .typeMismatch, .array _, .string kind, .ok p, .ok q =>
    kind == Kind.object.word && !p.isEmpty && p.isPrefixOf q && p != q
  | _, _, _, _, _ => false

/-- A result has a list among the items of its list. -/
def Document.HasNestedList (d : Document) : Prop :=
  ∃ fields items inner, d = .object fields ∧ Fields.get? fields "diagnostics" = some (.array items) ∧
    .array inner ∈ items

/-- A finding asks for an object where a list stands, and another one is about something inside that list,
whether or not their paths are read. -/
def Finding.Encloses (x f : Finding) : Prop :=
  ∃ base items step rest, base ≠ [] ∧ (∀ s ∈ base ++ step :: rest, s.Plain) ∧
    x = .expecting (Path.ofSegments base) .typeMismatch (.array items) Kind.object.word ∧
    f.path = Path.ofSegments (base ++ step :: rest)

/-- The second look stands in for what the check finds, or finds nothing but what lies apart from it or,
under a condition, inside a list that it is about. -/
def Reconciled (condition : Prop) (generic specific : List Finding) : Prop :=
  ∀ g ∈ generic, specific.any (·.supersedes g) = true ∨
    ∀ f ∈ specific, Parted g f ∨ condition ∧ g.Encloses f

namespace Proofs.Reconciliation

open Addresses Conformity FormatParts Origins Parts PathText ReviewFormat Separation Slots

variable {o : Options} {s : Schema} {d c : Document} {base : List Segment} {f g : Finding}
  {fields : Fields} {name : String} {generic specific : List Finding} {P : Prop}

/-! ## Parts of values -/

theorem reconciled_nil : Reconciled P generic [] := by simp [Reconciled]

theorem nil_reconciled : Reconciled P [] specific := by simp [Reconciled]

theorem mem_errors_object {about : About} {required : List Document}
    {properties : List (String × Schema)} {additional : Bool}
    (hs : (Schema.object about required properties additional).PlainNames)
    (hg : g ∈ (check o (.object about required properties additional) (Path.ofSegments base)
      (.object fields)).errors) :
    g.code = .unknownProperty ∨
      (∃ name, .string name ∈ required ∧ PlainName name ∧ fields.has name = false ∧
        g = .expecting (Path.ofSegments (base ++ [.name name])) .requiredPropertyMissing .null
          (missingText (Schema.property? properties name))) ∨
      ∃ p ∈ properties, ∃ c, fields.get? p.1 = some c ∧
        g ∈ (check o p.2 (Path.ofSegments (base ++ [.name p.1])) c).errors := by
  rcases mem_errors_object_iff.mp hg with ⟨text, htext, hg⟩ | ⟨p, hp, c, hc, hg⟩ | hg
  · obtain ⟨name, rfl, hplain⟩ := (of_throughout hs).1 text htext
    obtain ⟨hfield, rfl⟩ := mem_errors_checkRequired_iff.mp hg
    exact .inr (.inl ⟨name, htext, hplain, hfield, by rw [ofSegments_append]⟩)
  · rw [← ofSegments_append] at hg
    exact .inr (.inr ⟨p, hp, c, hc, hg⟩)
  · exact .inl (code_of_unknown hg)

theorem mem_errors_of_missing {about : About} {required : List Document}
    {properties : List (String × Schema)} {additional : Bool} {path : String}
    (hname : .string name ∈ required) (hfield : fields.has name = false) :
    Finding.expecting (Path.join path (.name name)) .requiredPropertyMissing .null
        (missingText (Schema.property? properties name)) ∈
      (check o (.object about required properties additional) path (.object fields)).errors :=
  mem_errors_object_iff.mpr (.inl ⟨_, hname, mem_errors_checkRequired_iff.mpr ⟨hfield, rfl⟩⟩)

theorem mem_errors_of_property {about : About} {required : List Document}
    {properties : List (String × Schema)} {additional : Bool} {p : String × Schema} (hp : p ∈ properties)
    (hc : fields.get? p.1 = some c)
    (hg : g ∈ (check o p.2 (Path.ofSegments (base ++ [.name p.1])) c).errors) :
    g ∈ (check o (.object about required properties additional) (Path.ofSegments base)
      (.object fields)).errors := by
  rw [ofSegments_append] at hg
  exact mem_errors_object_iff.mpr (.inr (.inl ⟨p, hp, c, hc, hg⟩))

theorem mem_errors_of_item {about : About} {item : Schema} {items : List Document} {i : Nat}
    (hc : items[i]? = some c)
    (hg : g ∈ (check o item (Path.ofSegments (base ++ [.index i])) c).errors) :
    g ∈ (check o (.array about (some item)) (Path.ofSegments base) (.array items)).errors := by
  obtain ⟨hi, rfl⟩ := List.getElem?_eq_some_iff.mp hc
  rw [ofSegments_append] at hg
  exact mem_errors_array_iff.mpr ⟨i, hi, hg⟩

/-- Findings about fields are reconciled field by field. -/
theorem reconciled_object {about : About} {required : List Document}
    {properties : List (String × Schema)} {additional : Bool} {parts : List (String × List Finding)}
    (hs : (Schema.object about required properties additional).PlainNames)
    (hbase : ∀ step ∈ base, step.Plain) (hbelow : BelowFields base parts)
    (hmissing : ∀ part ∈ parts, fields.has part.1 = false → part.2 = [] ∨
      ∃ f ∈ part.2, f.path = Path.ofSegments (base ++ [.name part.1]) ∧
        f.code.supersedes .requiredPropertyMissing = true)
    (hpresent : ∀ part ∈ parts, ∀ c, fields.get? part.1 = some c → ∀ s, (part.1, s) ∈ properties →
      Reconciled P (check o s (Path.ofSegments (base ++ [.name part.1])) c).errors part.2) :
    Reconciled P (check o (.object about required properties additional) (Path.ofSegments base)
      (.object fields)).errors (parts.flatMap (·.2)) := by
  have hapart {part : String × List Finding} (hpart : part ∈ parts) {name : String} {f g : Finding}
      (hf : f ∈ part.2) (hg : Under (base ++ [.name name]) g) (hne : part.1 ≠ name) : Parted g f :=
    parted_of_ne hg (hbelow part hpart f hf) fun h => hne (Segment.name.inj h).symm
  intro g hg
  by_cases hstands : (parts.flatMap (·.2)).any (·.supersedes g) = true
  · exact .inl hstands
  · have hnone : ∀ part ∈ parts, ∀ f ∈ part.2, ¬ f.supersedes g = true := by
      intro part hpart f hf hsupersedes
      exact hstands (List.any_eq_true.mpr ⟨f, List.mem_flatMap.mpr ⟨part, hpart, hf⟩, hsupersedes⟩)
    refine .inr fun f hf => ?_
    obtain ⟨part, hpart, hf⟩ := List.mem_flatMap.mp hf
    rcases mem_errors_object hs hg with
      hunknown | ⟨name, -, hplain, hfield, rfl⟩ | ⟨p, hp, c, hc, hg⟩
    · exact .inl (parted_of_idle (.inl hunknown))
    · by_cases hname : part.1 = name
      · subst hname
        rcases hmissing part hpart hfield with hempty | ⟨h, hh, hpath, hcode⟩
        · rw [hempty] at hf
          cases hf
        · refine (hnone part hpart h hh ?_).elim
          rw [Finding.supersedes, hpath, Finding.path_expecting, Finding.code_expecting, hcode,
            beq_self_eq_true, Bool.and_self]
      · exact .inl (hapart hpart hf (under_here (plain_field hbase hplain) rfl) hname)
    · by_cases hname : part.1 = p.1
      · obtain ⟨name, s⟩ := p
        obtain rfl : part.1 = name := hname
        rcases hpresent part hpart c hc s hp g hg with hstands | hlies
        · obtain ⟨h, hh, hsupersedes⟩ := List.any_eq_true.mp hstands
          exact (hnone part hpart h hh hsupersedes).elim
        · exact hlies f hf
      · rcases idle_or_under_of_check (throughout_property hs hp)
          (plain_field hbase ((of_throughout hs).2 p hp)) hg with hidle | hg
        · exact .inl (parted_of_idle hidle)
        · exact .inl (hapart hpart hf hg hname)

theorem reconciled_items {item : Schema} {items : List Document} {look : Nat → Document → Outcome}
    (hs : item.PlainNames) (hbase : ∀ step ∈ base, step.Plain)
    (hbelow : ∀ i, ∀ hi : i < items.length, ∀ f ∈ (look i items[i]).errors,
      Under (base ++ [.index i]) f)
    (hitems : ∀ i, ∀ hi : i < items.length, Reconciled P
      (check o item (Path.ofSegments (base ++ [.index i])) items[i]).errors (look i items[i]).errors) :
    Reconciled P
      (Outcome.join (items.mapIdx fun i x =>
        check o item (Path.join (Path.ofSegments base) (.index i)) x)).errors
      (Outcome.join (items.mapIdx look)).errors := by
  intro g hg
  obtain ⟨i, hi, hg⟩ := Outcome.mem_errors_join_mapIdx.mp hg
  rw [← ofSegments_append] at hg
  rcases hitems i hi g hg with hstands | hlies
  · obtain ⟨f, hf, hsupersedes⟩ := List.any_eq_true.mp hstands
    exact .inl (List.any_eq_true.mpr ⟨f, Outcome.mem_errors_join_mapIdx.mpr ⟨i, hi, hf⟩, hsupersedes⟩)
  · refine .inr fun f hf => ?_
    obtain ⟨j, hj, hf⟩ := Outcome.mem_errors_join_mapIdx.mp hf
    by_cases hij : i = j
    · subst hij
      exact hlies f hf
    · rcases idle_or_under_of_check hs (plain_item hbase i) hg with hidle | hg
      · exact .inl (parted_of_idle hidle)
      · exact .inl (parted_of_ne hg (hbelow j hj f hf) (index_ne hij))

/-! ## Positions, ranges and locations -/

theorem supersedes_of_code {s g : Finding} (hpath : s.path = g.path)
    (hcode : s.code.supersedes g.code = true) : s.supersedes g = true := by
  rw [Finding.supersedes, hpath, hcode, beq_self_eq_true, Bool.and_self]

theorem errors_ordinal_of_missing {path : String} (h : fields.has name = false) :
    (Refinement.ordinal path fields name).errors = [] := by
  rw [Refinement.ordinal, SecondLook.get?_of_has_eq_false h]
  rfl

theorem errors_severity_of_missing {path : String} (h : fields.has "severity" = false) :
    (Refinement.severity path fields).errors = [] := by
  rw [Refinement.severity, SecondLook.get?_of_has_eq_false h]
  rfl

private theorem mem_errors_ordinal {path : String} (hg : g ∈ (check o ordinal path c).errors) :
    c.kind? ≠ some .number ∧ g = .expecting path .typeMismatch c Kind.number.word ∨
      c.kind? = some .number ∧ c.less (.int 1) = true ∧
        ∃ text, g = .of path .minValueViolation c (.string text) (.int 1) := by
  by_cases hkind : c.kind? = some .number
  · rw [ordinal, check, if_pos hkind] at hg
    exact .inr ⟨hkind, mem_errors_checkNumber hkind hg⟩
  · rw [check_of_kind?_ne rfl hkind] at hg
    exact .inl ⟨hkind, List.mem_singleton.mp hg⟩

theorem reconciled_ordinal (hc : fields.get? name = some c) :
    Reconciled P (check o ordinal (Path.ofSegments (base ++ [.name name])) c).errors
      (Refinement.ordinal (Path.ofSegments base) fields name).errors := by
  intro g hg
  rw [Refinement.ordinal, hc]
  rcases mem_errors_ordinal hg with ⟨hkind, -⟩ | ⟨hkind, hless, text, rfl⟩
  · right
    simp [hkind]
  · left
    simp only [hkind, hless, decide_true, Bool.and_self, if_true, Outcome.errors_ofError,
      List.any_cons, List.any_nil, Bool.or_false]
    exact supersedes_of_code (inField_ofSegments base name) rfl

theorem reconciled_position (hbase : ∀ step ∈ base, step.Plain) :
    Reconciled P (check o position (Path.ofSegments base) d).errors
      (Refinement.position (Path.ofSegments base) d).errors := by
  cases d with
  | object fields =>
      rw [errors_position]
      refine reconciled_object (plainNames_component position (by simp [components])) hbase
        (belowFields_position hbase) ?missing ?present
      case missing =>
        simp only [positionParts, List.forall_mem_cons, List.not_mem_nil, false_imp_iff, implies_true,
          and_true]
        exact ⟨fun h => .inl (errors_ordinal_of_missing h), fun h => .inl (errors_ordinal_of_missing h)⟩
      case present =>
        simp only [positionParts, List.forall_mem_cons, List.not_mem_nil, false_imp_iff, implies_true,
          and_true]
        refine ⟨fun c hc s hs => ?_, fun c hc s hs => ?_⟩
        · obtain rfl : s = ordinal := by simpa using hs
          exact reconciled_ordinal hc
        · obtain rfl : s = ordinal := by simpa using hs
          exact reconciled_ordinal hc
  | _ => exact reconciled_nil

theorem field_of_get? (hc : fields.get? name = some c) : Document.field fields name = c := by
  rw [Document.field, hc, Option.getD_some]

theorem field_of_missing (h : fields.has name = false) : Document.field fields name = .null := by
  rw [Document.field, SecondLook.get?_of_has_eq_false h, Option.getD_none]

theorem reconciled_range (hbase : ∀ step ∈ base, step.Plain) :
    Reconciled P (check o range (Path.ofSegments base) d).errors
      (Refinement.range (Path.ofSegments base) d).errors := by
  cases d with
  | object fields =>
      rw [errors_range]
      refine reconciled_object (plainNames_component range (by simp [components])) hbase
        (belowFields_range hbase) ?missing ?present
      case missing =>
        simp only [rangeParts, List.forall_mem_cons, List.not_mem_nil, false_imp_iff, implies_true,
          and_true]
        refine ⟨fun h => .inr ?_, fun h => .inl ?_⟩
        · rw [startFindings, SecondLook.get?_of_has_eq_false h]
          exact ⟨_, List.mem_singleton_self _, inField_ofSegments base "start", rfl⟩
        · rw [field_of_missing h]
          rfl
      case present =>
        simp only [rangeParts, List.forall_mem_cons, List.not_mem_nil, false_imp_iff, implies_true,
          and_true]
        refine ⟨fun c hc s hs => ?_, fun c hc s hs => ?_⟩
        · obtain rfl : s = position := by simpa using hs
          rw [startFindings, hc, inField_ofSegments]
          exact reconciled_position (plain_field hbase (by decide))
        · obtain rfl : s = position := by simpa using hs
          rw [field_of_get? hc, inField_ofSegments]
          exact reconciled_position (plain_field hbase (by decide))
  | _ => exact reconciled_nil

theorem reconciled_location (hbase : ∀ step ∈ base, step.Plain) :
    Reconciled P (check o location (Path.ofSegments base) d).errors
      (Refinement.location (Path.ofSegments base) d).errors := by
  cases d with
  | object fields =>
      rw [errors_location]
      refine reconciled_object (plainNames_component location (by simp [components])) hbase
        (belowFields_location hbase) ?missing ?present
      case missing =>
        simp only [locationParts, List.forall_mem_singleton]
        intro h
        rw [field_of_missing h]
        exact .inl rfl
      case present =>
        simp only [locationParts, List.forall_mem_singleton]
        intro c hc s hs
        obtain rfl : s = range := by simpa using hs
        rw [field_of_get? hc, inField_ofSegments]
        exact reconciled_range (plain_field hbase (by decide))
  | _ => exact reconciled_nil

/-! ## Diagnostics and results -/

theorem reconciled_severity (hc : fields.get? "severity" = some c) :
    Reconciled P (check o severity (Path.ofSegments (base ++ [.name "severity"])) c).errors
      (Refinement.severity (Path.ofSegments base) fields).errors := by
  intro g hg
  have hblamed : Refinement.isSeverity c = false ∧ g.path =
      Path.ofSegments (base ++ [.name "severity"]) ∧
      (g.code = .typeMismatch ∨ g.code = .enumValidationFailed) := by
    by_cases hkind : c.kind? = some .string
    · obtain ⟨text, rfl⟩ := exists_text_of_kind? hkind
      rw [severity, check, checkText] at hg
      dsimp only at hg
      split at hg
      · cases hg
      · rename_i hallowed
        split at hg
        · cases hg
        · obtain rfl := List.mem_singleton.mp hg
          refine ⟨?_, rfl, .inr rfl⟩
          simpa [isAllowed, names, Refinement.isSeverity] using hallowed
    · rw [check_of_kind?_ne rfl hkind] at hg
      obtain rfl := List.mem_singleton.mp hg
      refine ⟨?_, rfl, .inl rfl⟩
      cases c with
      | string text => exact (hkind rfl).elim
      | _ => rfl
  obtain ⟨hother, hpath, hcode⟩ := hblamed
  left
  rw [Refinement.severity, hc]
  simp only [hother, Bool.false_eq_true, if_false, Outcome.errors_ofError, List.any_cons,
    List.any_nil, Bool.or_false]
  refine supersedes_of_code ((inField_ofSegments base "severity").trans hpath.symm) ?_
  rcases hcode with hcode | hcode <;> rw [hcode] <;> rfl

theorem reconciled_diagnosticParts {about : About} {required : List Document}
    {properties : List (String × Schema)} {additional : Bool}
    (hs : (Schema.object about required properties additional).PlainNames)
    (hbase : ∀ step ∈ base, step.Plain)
    (hlocation : ∀ s, ("location", s) ∈ properties → s = location)
    (hseverity : ∀ s, ("severity", s) ∈ properties → s = severity) :
    Reconciled P (check o (.object about required properties additional) (Path.ofSegments base)
      (.object fields)).errors (Refinement.diagnostic (Path.ofSegments base) fields).errors := by
  rw [errors_diagnostic]
  refine reconciled_object hs hbase (belowFields_diagnostic hbase) ?missing ?present
  case missing =>
    simp only [diagnosticParts, List.forall_mem_cons, List.not_mem_nil, false_imp_iff, implies_true,
      and_true]
    refine ⟨fun h => .inr ?_, fun h => .inr ?_, fun h => .inl (errors_severity_of_missing h)⟩
    · rw [messageFindings, if_neg (by simp [h])]
      exact ⟨_, List.mem_singleton_self _, inField_ofSegments base "message", rfl⟩
    · rw [placeFindings, SecondLook.get?_of_has_eq_false h]
      exact ⟨_, List.mem_singleton_self _, inField_ofSegments base "location", rfl⟩
  case present =>
    simp only [diagnosticParts, List.forall_mem_cons, List.not_mem_nil, false_imp_iff, implies_true,
      and_true]
    refine ⟨fun c hc s _ => ?_, fun c hc s hs => ?_, fun c hc s hs => ?_⟩
    · rw [messageFindings, Fields.has_eq_isSome_get?, hc, Option.isSome_some, if_pos rfl]
      exact reconciled_nil
    · obtain rfl := hlocation s hs
      rw [placeFindings, hc, inField_ofSegments]
      exact reconciled_location (plain_field hbase (by decide))
    · obtain rfl := hseverity s hs
      exact reconciled_severity hc

theorem reconciled_diagnostic (hbase : ∀ step ∈ base, step.Plain) :
    Reconciled P (check o diagnostic (Path.ofSegments base) (.object fields)).errors
      (Refinement.diagnostic (Path.ofSegments base) fields).errors :=
  reconciled_diagnosticParts (plainNames_component diagnostic (by simp [components])) hbase (by simp)
    (by simp)

private theorem encloses_of_under {items : List Document} (hbase : ∀ step ∈ base, step.Plain) {i : Nat}
    (hP : base ≠ [] → P) (hf : Under (base ++ [.index i]) f) :
    Parted (.expecting (Path.ofSegments base) .typeMismatch (.array items) Kind.object.word) f ∨
      P ∧ (Finding.expecting (Path.ofSegments base) .typeMismatch (.array items)
        Kind.object.word).Encloses f := by
  obtain ⟨rest, hplain, hpath⟩ := hf
  rw [List.append_assoc] at hplain hpath
  by_cases hroot : base = []
  · subst hroot
    exact .inl (parted_of_idle (.inr rfl))
  · exact .inr ⟨hP hroot, base, items, .index i, rest, hroot, hplain, rfl, hpath⟩

theorem reconciled_node (hbase : ∀ step ∈ base, step.Plain)
    (hP : base ≠ [] → ∀ items, d = .array items → P) :
    Reconciled P (check o diagnostic (Path.ofSegments base) d).errors
      (Refinement.node (Path.ofSegments base) d).errors := by
  cases d with
  | object fields =>
      rw [Refinement.node]
      split
      · exact reconciled_diagnostic hbase
      · split
        · rename_i hlist
          rw [errors_result]
          refine reconciled_object (plainNames_component diagnostic (by simp [components])) hbase
            (belowFields_result hbase) ?missing ?present
          case missing =>
            simp only [resultParts, List.forall_mem_cons, List.not_mem_nil, false_imp_iff,
              implies_true, and_true]
            refine ⟨fun h => ?_, fun h => .inl (errors_severity_of_missing h)⟩
            rw [hlist] at h
            contradiction
          case present =>
            simp only [resultParts, List.forall_mem_cons, List.not_mem_nil, false_imp_iff,
              implies_true, and_true]
            refine ⟨fun c hc s hs => by simp at hs, fun c hc s hs => ?_⟩
            obtain rfl : s = severity := by simpa using hs
            exact reconciled_severity hc
        · exact reconciled_nil
  | array items =>
      intro g hg
      refine .inr fun f hf => ?_
      obtain rfl : g = .expecting (Path.ofSegments base) .typeMismatch (.array items)
        Kind.object.word := List.mem_singleton.mp hg
      obtain ⟨i, hi, hf⟩ := Outcome.mem_errors_join_mapIdx.mp hf
      rw [← ofSegments_append] at hf
      have hunder := under_of_traced (plain_item hbase i) (traced_of_item hf)
      exact encloses_of_under hbase (fun hne => hP hne items rfl) hunder
  | _ => exact reconciled_nil

theorem nodes_eq_join {path : String} {i : Nat} {items : List Document} :
    Refinement.nodes path i items = Outcome.join (items.mapIdx fun k d =>
      Refinement.node (Path.join path (.index (i + k : Nat))) d) := by
  induction items generalizing i with
  | nil => rfl
  | cons d items ih =>
      rw [Refinement.nodes, ih, List.mapIdx_cons, Outcome.join_cons]
      simp only [Nat.add_assoc, Nat.add_comm 1, Nat.add_zero]

theorem errors_listIn_of_list {path : String} {items : List Document}
    (hc : fields.get? "diagnostics" = some (.array items)) :
    (Refinement.listIn path fields).errors = (Refinement.nodes path 0 items).errors := by
  rw [SecondLook.listIn_eq_lookAtList, hc]
  cases items <;> rfl

theorem errors_listIn_of_other {path : String} (hc : fields.get? "diagnostics" = some c)
    (hother : ∀ items, c ≠ .array items) :
    (Refinement.listIn path fields).errors = [.expecting path .typeMismatch c "array"] := by
  rw [SecondLook.listIn_eq_lookAtList, hc]
  cases c with
  | array items => exact (hother items rfl).elim
  | _ => rfl

theorem reconciled_list (hbase : ∀ step ∈ base, step.Plain)
    (hc : fields.get? "diagnostics" = some c)
    (hP : ∀ items inner, c = .array items → .array inner ∈ items → P) :
    Reconciled P
      (check o (.array .nothing (some diagnostic)) (Path.ofSegments (base ++ [.name "diagnostics"]))
        c).errors
      (Refinement.listIn (Refinement.inField (Path.ofSegments base) "diagnostics") fields).errors := by
  have hplain := plain_field hbase (show PlainName "diagnostics" by decide)
  by_cases hkind : c.kind? = some .array
  · obtain ⟨items, rfl⟩ := exists_items_of_kind? hkind
    rw [errors_listIn_of_list hc, nodes_eq_join, check, inField_ofSegments]
    simp only [Nat.zero_add]
    refine reconciled_items (plainNames_component diagnostic (by simp [components])) hplain
      (fun i hi f hf => ?_) fun i hi => ?_
    · rw [← ofSegments_append] at hf
      exact under_of_traced (plain_item hplain i) (traced_node _ _ hf)
    · rw [← ofSegments_append]
      refine reconciled_node (plain_item hplain i) fun _ inner hinner => ?_
      exact hP items inner rfl (hinner ▸ List.getElem_mem hi)
  · have hother : ∀ items, c ≠ .array items := fun items h => hkind (h ▸ rfl)
    intro g hg
    rw [check_of_kind?_ne rfl hkind] at hg
    obtain rfl := List.mem_singleton.mp hg
    left
    rw [errors_listIn_of_other hc hother, List.any_cons, List.any_nil, Bool.or_false]
    exact supersedes_of_code (inField_ofSegments base "diagnostics") rfl

/-! ## Documents -/

theorem reconciled_of_idle (h : ∀ g ∈ generic, g.Idle) : Reconciled P generic specific :=
  fun g hg => .inr fun _ _ => .inl (parted_of_idle (h g hg))

theorem reconciled_mismatch {k : Kind} (hkind : s.kind? = some k) (hother : d.kind? ≠ some k) :
    Reconciled P (check o s (Path.ofSegments []) d).errors specific := by
  refine reconciled_of_idle fun g hg => .inr ?_
  rw [check_of_kind?_ne hkind hother] at hg
  obtain rfl := List.mem_singleton.mp hg
  rfl

theorem reconciled_diagnosticArray :
    Reconciled P (check o diagnosticArray (Path.ofSegments []) d).errors
      (Refinement.node (Path.ofSegments []) d).errors := by
  by_cases hkind : d.kind? = some .array
  · obtain ⟨items, rfl⟩ := exists_items_of_kind? hkind
    rw [diagnosticArray, check, Refinement.node]
    refine reconciled_items (plainNames_component diagnostic (by simp [components])) plain_nil
      (fun i hi f hf => ?_) fun i hi => ?_
    · rw [← ofSegments_append] at hf
      exact under_of_traced (plain_item plain_nil i) (traced_of_item hf)
    · rw [← ofSegments_append]
      cases items[i] with
      | object fields =>
          rw [Refinement.item]
          split
          · exact reconciled_diagnostic (plain_item plain_nil i)
          · exact reconciled_nil
      | _ => exact reconciled_nil
  · exact reconciled_mismatch rfl hkind

theorem reconciled_diagnosticResult :
    Reconciled d.HasNestedList (check o diagnosticResult (Path.ofSegments []) d).errors
      (Refinement.node (Path.ofSegments []) d).errors := by
  have hs := plainNames_component diagnosticResult (by simp [components])
  by_cases hkind : d.kind? = some .object
  · obtain ⟨fields, rfl⟩ := exists_fields_of_kind? hkind
    rw [Refinement.node]
    split
    · exact reconciled_diagnosticParts hs plain_nil (by simp) (by simp)
    · split
      · rename_i hlist
        rw [errors_result]
        refine reconciled_object hs plain_nil (belowFields_result plain_nil) ?missing ?present
        case missing =>
          simp only [resultParts, List.forall_mem_cons, List.not_mem_nil, false_imp_iff, implies_true,
            and_true]
          refine ⟨fun h => ?_, fun h => .inl (errors_severity_of_missing h)⟩
          rw [hlist] at h
          contradiction
        case present =>
          simp only [resultParts, List.forall_mem_cons, List.not_mem_nil, false_imp_iff, implies_true,
            and_true]
          refine ⟨fun c hc s hs => ?_, fun c hc s hs => ?_⟩
          · obtain rfl : s = .array .nothing (some diagnostic) := by simpa using hs
            refine reconciled_list plain_nil hc fun items inner hitems hinner => ?_
            exact ⟨fields, items, inner, rfl, hitems ▸ hc, hinner⟩
          · obtain rfl : s = severity := by simpa using hs
            exact reconciled_severity hc
      · exact reconciled_nil
  · exact reconciled_mismatch rfl hkind

theorem reconciled_document :
    Reconciled d.HasNestedList (check o document (Path.ofSegments []) d).errors
      (Refinement.node (Path.ofSegments []) d).errors := by
  rw [document, check_oneOf_eq]
  rcases Choice.errors_choose_cases with hnil | hnone | ⟨t, ht, herrors⟩
  · rw [hnil]
    exact nil_reconciled
  · rw [hnone]
    exact reconciled_of_idle fun g hg => .inr (List.mem_singleton.mp hg ▸ rfl)
  · rw [herrors]
    simp only [List.map_cons, List.map_nil, List.mem_cons, List.not_mem_nil, or_false] at ht
    rcases ht with rfl | rfl | rfl
    · exact reconciled_node plain_nil fun h => (h rfl).elim
    · exact reconciled_diagnosticArray
    · exact reconciled_diagnosticResult

private theorem separate_or_sweeps_of_encloses (h : g.Encloses f) : Separate g f ∨ g.sweeps f = true := by
  obtain ⟨base, items, step, rest, hroot, hplain, rfl, hpath⟩ := h
  have hbase : ∀ s ∈ base, s.Plain := fun s hs => hplain s (List.mem_append_left _ hs)
  -- Where one of the two paths cannot be read, there is nothing to be shown.
  rcases parse_ofSegments hbase with ⟨-, count, hfault⟩ | ⟨-, hread⟩
  · refine .inl (.inr (.inr fun p q hp _ => ?_))
    rw [Finding.path_expecting, hfault] at hp
    cases hp
  · rcases parse_ofSegments hplain with ⟨-, count, hfault⟩ | ⟨-, hreadf⟩
    · refine .inl (.inr (.inr fun p q _ hq => ?_))
      rw [hpath, hfault] at hq
      cases hq
    · right
      have hprefix : base.isPrefixOf (base ++ step :: rest) = true := by
        rw [List.isPrefixOf_iff_prefix]
        exact List.prefix_append ..
      simp only [Finding.sweeps, Finding.expecting, Finding.of, hread, hpath, hreadf, hprefix]
      simp [hroot]

/-- The places of two findings of a verdict, in their order: they lie apart, or the repair of the former
sweeps the latter away. -/
theorem pairwise_examine (o : Options) (d : Document) :
    (Validator.examine ⟨o, document⟩ d).errors.Pairwise fun f g =>
      Separate f g ∨ d.HasNestedList ∧ f.sweeps g = true := by
  rw [Validator.examine, ← ofSegments_nil]
  split
  · exact List.pairwise_singleton _ _
  · refine Merging.pairwise_mergeFindings parted_comm ?stand (fun h => .inl (separate_of_parted h)) ?generic
      (pairwise_node [] plain_nil d) ?cross
    case stand =>
      intro s g x hsupersedes h
      have hpath := Merging.path_eq_of_supersedes hsupersedes
      rcases h with hidle | hidle | h
      · refine .inl (.inr ?_)
        rcases hidle with hcode | hroot
        · rw [Finding.supersedes, hcode] at hsupersedes
          cases hs : s.code <;> simp [hs, Code.supersedes] at hsupersedes
        · exact hpath.trans hroot
      · exact .inr (.inl hidle)
      · exact .inr (.inr (hpath ▸ h))
    case generic =>
      exact pairwise_check plainNames_document (single_of_throughout_parts throughout_document)
        plain_nil
    case cross =>
      intro g hg hunsuperseded
      rcases reconciled_document g hg with hstands | hlies
      · rw [hunsuperseded] at hstands
        contradiction
      · intro f hf
        rcases hlies f hf with hparted | ⟨hnested, hencloses⟩
        · exact .inl (separate_of_parted hparted)
        · exact (separate_or_sweeps_of_encloses hencloses).imp_right fun hsweeps => ⟨hnested, hsweeps⟩

end Proofs.Reconciliation

end ReviewDiagnostics
