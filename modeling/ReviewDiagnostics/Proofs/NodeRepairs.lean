import ReviewDiagnostics.Proofs.PartEdits
import ReviewDiagnostics.Proofs.RepairRound

/-!
# Repairs of what the second look finds

Where everything is repaired that the second look finds about a value, and nothing else is written into it,
the second look accepts what becomes of the value.  The one thing it depends on is what is put into a field
`diagnostics`, since the second look goes into the new list.
-/

namespace ReviewDiagnostics

/-- Writes that are planned for findings, with something planned for each of them. -/
structure RepairsOf (level : FixLevel) (base : List Segment) (findings : List Finding)
    (writes : List (List Segment × Document)) : Prop where
  planned : ∀ w ∈ writes, ∃ f ∈ findings, f.repair? level = some (base ++ w.1, w.2)
  complete : ∀ f ∈ findings, ∃ w ∈ writes, f.repair? level = some (base ++ w.1, w.2)

/-- The second look accepts a result with what is written at a field `diagnostics`. -/
def ListsFit (writes : List (List Segment × Document)) : Prop :=
  ∀ w ∈ writes, w.1.getLast? = some (.name "diagnostics") →
    Proofs.SecondLook.NodeFits (.object [("diagnostics", w.2)])

namespace Proofs.NodeRepairs

open Origins PartEdits PathText Reconciliation RepairRound SecondLook Separation Slots

variable {level : FixLevel} {base steps rest : List Segment} {step : Segment} {f : Finding}
  {findings inner : List Finding} {writes : List (List Segment × Document)} {value d d' : Document}
  {before after : Option Document} {fields fields' : Fields} {items items' : List Document}
  {name : String}

/-! ## Where repairs go -/

theorem writes_eq_nil (h : RepairsOf level base [] writes) : writes = [] :=
  List.eq_nil_iff_forall_not_mem.mpr fun w hw => by
    obtain ⟨f, hf, -⟩ := h.planned w hw
    cases hf

theorem steps_of_under (hunder : Under base f) (hrepair : f.repair? level = some (steps, value)) :
    ∃ rest, steps = base ++ rest := by
  obtain ⟨rest, hplain, hpath⟩ := hunder
  have hread := (repair?_eq_some_iff.mp hrepair).1
  rw [hpath] at hread
  exact ⟨rest, eq_of_parse hplain hread⟩

theorem exists_repair_below (hunder : Under (base ++ [step]) f)
    (h : ∃ w ∈ writes, f.repair? level = some (base ++ w.1, w.2)) :
    ∃ w ∈ below step writes, f.repair? level = some (base ++ [step] ++ w.1, w.2) := by
  obtain ⟨⟨path, v⟩, hw, hrepair⟩ := h
  obtain ⟨rest, hrest⟩ := steps_of_under hunder hrepair
  rw [List.append_assoc, List.append_cancel_left_eq] at hrest
  subst hrest
  exact ⟨(rest, v), mem_below.mpr hw, by rw [hrepair, List.append_assoc]⟩

theorem step_eq_of_under {other : Segment} (hunder : Under (base ++ [other]) f)
    (hrepair : f.repair? level = some (base ++ step :: rest, value)) : other = step := by
  obtain ⟨tail, htail⟩ := steps_of_under hunder hrepair
  rw [List.append_assoc, List.append_cancel_left_eq] at htail
  exact (List.cons.inj htail).1.symm

theorem repairs_below (h : RepairsOf level base findings writes)
    (hinner : ∀ f ∈ inner, f ∈ findings ∧ Under (base ++ [step]) f)
    (houter : ∀ f ∈ findings, f ∈ inner ∨ ∃ other, other ≠ step ∧ Under (base ++ [other]) f) :
    RepairsOf level (base ++ [step]) inner (below step writes) where
  planned := by
    rintro ⟨rest, v⟩ hw
    obtain ⟨f, hf, hrepair⟩ := h.planned _ (mem_below.mp hw)
    rcases houter f hf with hmem | ⟨other, hne, hunder⟩
    · exact ⟨f, hmem, by rw [hrepair, List.append_assoc]; rfl⟩
    · exact (hne (step_eq_of_under hunder hrepair)).elim
  complete := fun f hf => exists_repair_below (hinner f hf).2 (h.complete f (hinner f hf).1)

section

variable {parts : List (String × List Finding)} (hbelow : BelowFields base parts)
  (h : RepairsOf level base (parts.flatMap (·.2)) writes)

include hbelow h

theorem repairs_field (hnames : (parts.map (·.1)).Nodup) : ∀ part ∈ parts,
    RepairsOf level (base ++ [.name part.1]) part.2 (below (.name part.1) writes) := by
  intro part hpart
  refine repairs_below h (fun f hf => ⟨List.mem_flatMap.mpr ⟨part, hpart, hf⟩, hbelow part hpart f hf⟩)
    fun f hf => ?_
  obtain ⟨other, hother, hf⟩ := List.mem_flatMap.mp hf
  by_cases hsame : other.1 = part.1
  · exact .inl (Addresses.eq_of_nodup_fst hnames hother hpart hsame ▸ hf)
  · exact .inr ⟨.name other.1, fun heq => hsame (Segment.name.inj heq), hbelow other hother f hf⟩

theorem below_eq_nil_of_fields (hname : name ∉ parts.map (·.1)) : below (.name name) writes = [] := by
  refine writes_eq_nil (repairs_below h (by simp) fun f hf => .inr ?_)
  obtain ⟨part, hpart, hf⟩ := List.mem_flatMap.mp hf
  refine ⟨.name part.1, fun heq => hname ?_, hbelow part hpart f hf⟩
  exact Segment.name.inj heq ▸ List.mem_map_of_mem hpart

end

theorem repairs_item {look : Nat → Document → Outcome}
    (hlook : ∀ i x, ∀ f ∈ (look i x).errors, Under (base ++ [.index i]) f)
    (h : RepairsOf level base (Outcome.join (items.mapIdx look)).errors writes) {i : Nat} {x : Document}
    (hx : items[i]? = some x) :
    RepairsOf level (base ++ [.index i]) (look i x).errors (below (.index i) writes) := by
  obtain ⟨hi, rfl⟩ := List.getElem?_eq_some_iff.mp hx
  refine repairs_below h (fun f hf => ⟨Outcome.mem_errors_join_mapIdx.mpr ⟨i, hi, hf⟩,
    hlook _ _ f hf⟩) fun f hf => ?_
  obtain ⟨j, hj, hf⟩ := Outcome.mem_errors_join_mapIdx.mp hf
  by_cases hsame : j = i
  · subst hsame
    exact .inl hf
  · exact .inr ⟨.index j, index_ne hsame, hlook _ _ f hf⟩

/-! ## What becomes of a place -/

theorem settled_here (hbase : ∀ step ∈ base, step.Plain)
    (hpath : ∀ f ∈ findings, f.path = Path.ofSegments base) (h : RepairsOf level base findings writes)
    (hbecame : Became writes before after) :
    findings = [] ∧ after = before ∨
      ∃ f ∈ findings, ∃ value, f.repair? level = some (base, value) ∧ after = some value := by
  cases findings with
  | nil =>
      obtain rfl := writes_eq_nil h
      cases hbecame with
      | written hw => cases hw
      | edited hedits => exact .inl ⟨rfl, by rw [eq_of_edits_nil hedits]⟩
      | absent => exact .inl ⟨rfl, rfl⟩
  | cons f findings =>
      obtain ⟨⟨path, v⟩, hw, hrepair⟩ := h.complete f List.mem_cons_self
      have hread := (repair?_eq_some_iff.mp hrepair).1
      rw [hpath f List.mem_cons_self] at hread
      obtain rfl : path = [] := List.append_right_eq_self.mp (eq_of_parse hbase hread)
      cases hbecame with
      | written hv =>
          obtain ⟨g, hg, hplanned⟩ := h.planned _ hv
          exact .inr ⟨g, hg, _, by rw [hplanned, List.append_nil], rfl⟩
      | edited hedits => exact (hedits.inside _ hw rfl).elim
      | absent hnone =>
          subst hnone
          cases hw

theorem became_inside (hunder : ∀ f ∈ findings, ∃ step, Under (base ++ [step]) f)
    (h : RepairsOf level base findings writes) (hbecame : Became writes before after) :
    (∃ d d', before = some d ∧ after = some d' ∧ Edits d writes d') ∨ before = none ∧ after = none := by
  cases hbecame with
  | written hw =>
      obtain ⟨f, hf, hrepair⟩ := h.planned _ hw
      obtain ⟨step, hstep⟩ := hunder f hf
      obtain ⟨rest, hrest⟩ := steps_of_under hstep hrepair
      simp at hrest
  | edited hedits => exact .inl ⟨_, _, rfl, rfl, hedits⟩
  | absent => exact .inr ⟨rfl, rfl⟩

/-! ## What is written -/

theorem positionValue_of_number (hkind : d.kind? = some .number)
    (h : Repair.positionValue steps d = some value) : value = .int 1 := by
  have hnumber : Repair.positionValue steps d =
      if Repair.property? steps = some "line" ∨ Repair.property? steps = some "column" then
        if d.isNumber && !d.less (.int 1) then none else some (.int 1)
      else none := by
    cases d with
    | string s => cases hkind
    | _ => rfl
  rw [hnumber] at h
  split at h
  · split at h
    · cases h
    · exact (Option.some.inj h).symm
  · cases h

theorem isSeverity_normalize (d : Document) :
    Refinement.isSeverity (.string (Severity.normalize d)) = true := by
  have hknown : ∀ text ∈ Severity.synonyms.map (·.2), ReviewFormat.severities.contains text = true := by
    decide
  rw [Refinement.isSeverity, Severity.normalize.eq_def]
  split
  · rename_i s
    cases hfound : Severity.synonyms.lookup (Text.lowerAscii (String.ofList (Text.trim s.toList))) with
    | none => decide
    | some text =>
        obtain ⟨before, after, hentries, -⟩ := List.lookup_eq_some_iff.mp hfound
        exact hknown text (by simp [hentries])
  · decide

theorem property?_append (base : List Segment) (name : String) :
    Repair.property? (base ++ [.name name]) = some name := by
  rw [Repair.property?, List.getLast?_append]
  rfl

theorem missingDefault_of_ne_start (hname : name ≠ "start") :
    Repair.missingDefault (base ++ [.name name]) d =
      match Repair.propertyDefaults.lookup name with
      | some value => .ok (some value)
      | none => do return (← Coercion.expectedKind? d).bind Repair.kindDefault? := by
  have hnone : ∀ parent, Repair.parentDefaults.lookup (parent, name) = none := fun parent =>
    List.lookup_eq_none_iff.mpr (by simp [Repair.parentDefaults, hname])
  simp only [Repair.missingDefault, property?_append]
  cases Repair.parent? (base ++ [.name name]) with
  | none => rfl
  | some parent =>
      simp only [Option.bind_eq_bind, Option.bind_some, hnone]
      rfl

/-! ## Diagnostics -/

theorem ordinalFits_of_repairs (hbase : ∀ step ∈ base, step.Plain) (hname : name = "line" ∨ name = "column")
    (h : RepairsOf level (base ++ [.name name])
      (Refinement.ordinal (Path.ofSegments base) fields name).errors writes)
    (hbecame : Became writes (fields.get? name) (fields'.get? name)) : OrdinalFits fields' name := by
  have hplain : PlainName name := by rcases hname with rfl | rfl <;> decide
  have hpath : ∀ f ∈ (Refinement.ordinal (Path.ofSegments base) fields name).errors,
      f.path = Path.ofSegments (base ++ [.name name]) := fun f hf =>
    (path_ordinal hf).trans (inField_ofSegments base name)
  rcases settled_here (plain_field hbase hplain) hpath h hbecame with
    ⟨hclean, hsame⟩ | ⟨f, hf, value, hrepair, hvalue⟩
  · rw [OrdinalFits, hsame]
    exact errors_ordinal_eq_nil_iff.mp hclean
  · obtain ⟨d, -, hkind, -, rfl⟩ := Places.exists_of_mem_ordinal hf
    have hplan := (repair?_eq_some_iff.mp hrepair).2
    obtain rfl := positionValue_of_number hkind (positionValue_of_plan hplan rfl)
    intro e he _
    rw [hvalue] at he
    obtain rfl := Option.some.inj he
    decide

theorem under_of_fields {parts : List (String × List Finding)} (hbelow : BelowFields base parts)
    (hf : f ∈ parts.flatMap (·.2)) : ∃ step, Under (base ++ [step]) f := by
  obtain ⟨part, hpart, hf⟩ := List.mem_flatMap.mp hf
  exact ⟨_, hbelow part hpart f hf⟩

theorem positionFits_of_edits (hbase : ∀ step ∈ base, step.Plain)
    (h : RepairsOf level base (Refinement.position (Path.ofSegments base) d).errors writes)
    (hedits : Edits d writes d') : PositionFits d' := by
  cases d with
  | object fields =>
      obtain ⟨fields', rfl⟩ := exists_object_of_edits hedits
      rw [errors_position] at h
      have hfield := repairs_field (belowFields_position hbase) h
        (show ["line", "column"].Nodup by decide)
      exact ⟨ordinalFits_of_repairs hbase (.inl rfl) (hfield _ List.mem_cons_self)
          (became_field hedits "line"),
        ordinalFits_of_repairs hbase (.inr rfl) (hfield _ (List.mem_cons_of_mem _ List.mem_cons_self))
          (became_field hedits "column")⟩
  | _ =>
      obtain rfl := writes_eq_nil h
      rw [eq_of_edits_nil hedits]
      trivial

theorem under_of_position (hbase : ∀ step ∈ base, step.Plain)
    (hf : f ∈ (Refinement.position (Path.ofSegments base) d).errors) :
    ∃ step, Under (base ++ [step]) f := by
  cases d with
  | object fields => exact under_of_fields (belowFields_position hbase) (errors_position ▸ hf)
  | _ => cases hf

theorem positionFits_of_became (hbase : ∀ step ∈ base, step.Plain)
    (h : RepairsOf level base
      (Refinement.position (Path.ofSegments base) (before.getD .null)).errors writes)
    (hbecame : Became writes before after) : PositionFits (after.getD .null) := by
  rcases became_inside (fun f hf => under_of_position hbase hf) h hbecame with
    ⟨d, d', rfl, rfl, hedits⟩ | ⟨rfl, rfl⟩
  · exact positionFits_of_edits hbase h hedits
  · trivial

theorem rangeFits_of_edits (hbase : ∀ step ∈ base, step.Plain)
    (h : RepairsOf level base (Refinement.range (Path.ofSegments base) d).errors writes)
    (hedits : Edits d writes d') : RangeFits d' := by
  cases d with
  | object fields =>
      obtain ⟨fields', rfl⟩ := exists_object_of_edits hedits
      rw [errors_range] at h
      have hfield := repairs_field (belowFields_range hbase) h
        (show ["start", "end"].Nodup by decide)
      have hstart := hfield _ List.mem_cons_self
      have hend := hfield _ (List.mem_cons_of_mem _ List.mem_cons_self)
      have hbecame := became_field hedits "start"
      dsimp only at hstart hend
      rw [startFindings] at hstart
      rw [inField_ofSegments] at hend
      refine ⟨?_, positionFits_of_became (plain_field hbase (by decide)) hend (became_field hedits "end")⟩
      cases hget : Fields.get? fields "start" with
      | none =>
          -- Nothing is planned for a start that is missing.
          rw [hget] at hstart
          obtain ⟨w, -, hrepair⟩ := hstart.complete _ (List.mem_singleton_self _)
          exact (code_of_plan (repair?_eq_some_iff.mp hrepair).2 (by simp)).elim
      | some s =>
          rw [hget] at hstart hbecame
          rw [inField_ofSegments] at hstart
          obtain ⟨start, hstart'⟩ :=
            Option.isSome_iff_exists.mp (isSome_of_became hbecame (.inl rfl))
          have hfits := positionFits_of_became (plain_field hbase (by decide)) hstart hbecame
          rw [hstart'] at hfits
          exact ⟨start, hstart', hfits⟩
  | _ =>
      obtain rfl := writes_eq_nil h
      rw [eq_of_edits_nil hedits]
      trivial

theorem under_of_range (hbase : ∀ step ∈ base, step.Plain)
    (hf : f ∈ (Refinement.range (Path.ofSegments base) d).errors) :
    ∃ step, Under (base ++ [step]) f := by
  cases d with
  | object fields => exact under_of_fields (belowFields_range hbase) (errors_range ▸ hf)
  | _ => cases hf

private theorem rangeFits_of_became (hbase : ∀ step ∈ base, step.Plain)
    (h : RepairsOf level base (Refinement.range (Path.ofSegments base) (before.getD .null)).errors writes)
    (hbecame : Became writes before after) : RangeFits (after.getD .null) := by
  rcases became_inside (fun f hf => under_of_range hbase hf) h hbecame with
    ⟨d, d', rfl, rfl, hedits⟩ | ⟨rfl, rfl⟩
  · exact rangeFits_of_edits hbase h hedits
  · trivial

theorem locationFits_of_edits (hbase : ∀ step ∈ base, step.Plain)
    (h : RepairsOf level base (Refinement.location (Path.ofSegments base) d).errors writes)
    (hedits : Edits d writes d') : LocationFits d' := by
  cases d with
  | object fields =>
      obtain ⟨fields', rfl⟩ := exists_object_of_edits hedits
      rw [errors_location] at h
      have hrange := repairs_field (belowFields_location hbase) h (show ["range"].Nodup by decide) _
        List.mem_cons_self
      dsimp only at hrange
      rw [inField_ofSegments] at hrange
      exact rangeFits_of_became (plain_field hbase (by decide)) hrange (became_field hedits "range")
  | _ =>
      obtain rfl := writes_eq_nil h
      rw [eq_of_edits_nil hedits]
      trivial

theorem under_of_location (hbase : ∀ step ∈ base, step.Plain)
    (hf : f ∈ (Refinement.location (Path.ofSegments base) d).errors) :
    ∃ step, Under (base ++ [step]) f := by
  cases d with
  | object fields => exact under_of_fields (belowFields_location hbase) (errors_location ▸ hf)
  | _ => cases hf

theorem severityFits_of_repairs (hbase : ∀ step ∈ base, step.Plain)
    (h : RepairsOf level (base ++ [.name "severity"])
      (Refinement.severity (Path.ofSegments base) fields).errors writes)
    (hbecame : Became writes (fields.get? "severity") (fields'.get? "severity")) :
    SeverityFits fields' := by
  have hpath : ∀ f ∈ (Refinement.severity (Path.ofSegments base) fields).errors,
      f.path = Path.ofSegments (base ++ [.name "severity"]) := fun f hf =>
    (path_severity hf).trans (inField_ofSegments base "severity")
  rcases settled_here (plain_field hbase (by decide)) hpath h hbecame with
    ⟨hclean, hsame⟩ | ⟨f, hf, value, hrepair, hvalue⟩
  · rw [SeverityFits, hsame]
    exact errors_severity_eq_nil_iff.mp hclean
  · obtain ⟨d, -, -, rfl⟩ := Places.exists_of_mem_severity hf
    obtain rfl := eq_normalize_of_plan (repair?_eq_some_iff.mp hrepair).2 rfl
    intro e he
    rw [hvalue] at he
    exact Option.some.inj he ▸ isSeverity_normalize _

theorem message_of_repairs
    (h : RepairsOf level (base ++ [.name "message"])
      (messageFindings (Path.ofSegments base) fields) writes)
    (hbecame : Became writes (fields.get? "message") (fields'.get? "message")) :
    fields'.has "message" = true := by
  rw [Fields.has_eq_isSome_get?]
  refine isSome_of_became hbecame ?_
  by_cases hmessage : fields.has "message" = true
  · exact .inl (by rwa [Fields.has_eq_isSome_get?] at hmessage)
  · rw [messageFindings, if_neg hmessage] at h
    obtain ⟨w, hw, -⟩ := h.complete _ (List.mem_singleton_self _)
    exact .inr (List.ne_nil_of_mem hw)

private theorem location_of_repairs (hbase : ∀ step ∈ base, step.Plain)
    (h : RepairsOf level (base ++ [.name "location"])
      (placeFindings (Path.ofSegments base) fields) writes)
    (hbecame : Became writes (fields.get? "location") (fields'.get? "location")) :
    ∃ d, fields'.get? "location" = some d ∧ LocationFits d := by
  have hplain := plain_field hbase (show PlainName "location" by decide)
  cases hget : fields.get? "location" with
  | none =>
      rw [placeFindings, hget] at h
      rcases settled_here hplain (fun f hf => List.mem_singleton.mp hf ▸ inField_ofSegments base _) h
        hbecame with ⟨hclean, -⟩ | ⟨f, hf, value, hrepair, hvalue⟩
      · cases hclean
      · obtain rfl := List.mem_singleton.mp hf
        have hdefault := missingDefault_of_plan (repair?_eq_some_iff.mp hrepair).2 (by simp)
        rw [missingDefault_of_ne_start (by decide)] at hdefault
        obtain rfl := Option.some.inj (Except.ok.inj hdefault)
        exact ⟨_, hvalue, trivial⟩
  | some d =>
      rw [placeFindings, hget] at h
      rw [inField_ofSegments] at h
      rw [hget] at hbecame
      rcases became_inside (fun f hf => under_of_location hplain hf) h hbecame with
        ⟨d, d', hd, hd', hedits⟩ | ⟨hnone, -⟩
      · obtain rfl := Option.some.inj hd
        exact ⟨d', hd', locationFits_of_edits hplain h hedits⟩
      · cases hnone

theorem diagnosticFits_of_repairs (hbase : ∀ step ∈ base, step.Plain)
    (h : RepairsOf level base (Refinement.diagnostic (Path.ofSegments base) fields).errors writes)
    (hedits : Edits (.object fields) writes (.object fields')) : DiagnosticFits fields' := by
  rw [errors_diagnostic] at h
  have hfield := repairs_field (belowFields_diagnostic hbase) h
    (show ["message", "location", "severity"].Nodup by decide)
  exact {
    message := message_of_repairs (hfield _ List.mem_cons_self) (became_field hedits "message")
    location := location_of_repairs hbase (hfield _ (List.mem_cons_of_mem _ List.mem_cons_self))
      (became_field hedits "location")
    severity := severityFits_of_repairs hbase
      (hfield _ (List.mem_cons_of_mem _ (List.mem_cons_of_mem _ List.mem_cons_self)))
      (became_field hedits "severity") }

theorem diagnosticShaped_of_repairs (hbase : ∀ step ∈ base, step.Plain)
    (hshaped : Closeness.diagnosticShaped fields = true)
    (h : RepairsOf level base (Refinement.diagnostic (Path.ofSegments base) fields).errors writes)
    (hedits : Edits (.object fields) writes (.object fields')) :
    Closeness.diagnosticShaped fields' = true := by
  have hfits := diagnosticFits_of_repairs hbase h hedits
  rw [errors_diagnostic] at h
  have hnone : below (.name "diagnostics") writes = [] :=
    below_eq_nil_of_fields (belowFields_diagnostic hbase) h
      (show "diagnostics" ∉ ["message", "location", "severity"] by decide)
  have hbecame := became_field hedits "diagnostics"
  rw [hnone, get?_of_has_eq_false (has_diagnostics_of_diagnosticShaped hshaped)] at hbecame
  refine Agreement.diagnosticShaped_of_message hfits.message ?_
  rw [Fields.has_eq_isSome_get?]
  generalize fields'.get? "diagnostics" = list at hbecame
  cases hbecame with
  | written hw => cases hw
  | absent => rfl

/-! ## Nodes -/

theorem listsFit_below (h : ListsFit writes) : ListsFit (below step writes) := by
  rintro ⟨path, v⟩ hw hlast
  refine h (step :: path, v) (mem_below.mp hw) ?_
  have hpath : path.getLast? = some (.name "diagnostics") := hlast
  rw [List.getLast?_cons, hpath]
  rfl

theorem under_of_node (hbase : ∀ step ∈ base, step.Plain)
    (hf : f ∈ (Refinement.node (Path.ofSegments base) d).errors) :
    ∃ step, Under (base ++ [step]) f := by
  cases d with
  | object fields =>
      rw [Refinement.node] at hf
      split at hf
      · exact under_of_fields (belowFields_diagnostic hbase) (errors_diagnostic ▸ hf)
      · split at hf
        · exact under_of_fields (belowFields_result hbase) (errors_result ▸ hf)
        · cases hf
  | array items =>
      obtain ⟨i, hi, hf⟩ := Outcome.mem_errors_join_mapIdx.mp hf
      rw [← ofSegments_append] at hf
      exact ⟨_, under_of_traced (plain_item hbase i) (traced_of_item hf)⟩
  | _ => cases hf

theorem nodeFits_array_of_edits (hbase : ∀ step ∈ base, step.Plain)
    (h : RepairsOf level base (Refinement.node (Path.ofSegments base) (.array items)).errors writes)
    (hedits : Edits (.array items) writes (.array items')) : NodeFits (.array items') := by
  refine .array fun fields' hfields' hshaped => ?_
  obtain ⟨i, x, hx, hbecame⟩ := exists_became_of_mem hedits hfields'
  rw [Refinement.node] at h
  have hitem := repairs_item (fun i x f hf => by
    rw [← ofSegments_append] at hf
    exact under_of_traced (plain_item hbase i) (traced_of_item hf)) h hx
  rw [← ofSegments_append] at hitem
  by_cases hread : ∃ fields, x = .object fields ∧ Closeness.diagnosticShaped fields = true
  · obtain ⟨fields, rfl, hread⟩ := hread
    rw [Refinement.item, if_pos hread] at hitem
    have hunder : ∀ f ∈ (Refinement.diagnostic (Path.ofSegments (base ++ [.index i])) fields).errors,
        ∃ step, Under (base ++ [.index i] ++ [step]) f := fun f hf =>
      under_of_fields (belowFields_diagnostic (plain_item hbase i)) (errors_diagnostic ▸ hf)
    rcases became_inside hunder hitem hbecame with ⟨d, d', hd, hd', hinner⟩ | ⟨hnone, -⟩
    · obtain rfl := Option.some.inj hd
      obtain rfl := Option.some.inj hd'
      exact diagnosticFits_of_repairs (plain_item hbase i) hitem hinner
    · cases hnone
  · -- Nothing is found about any other item, so that it stays as it is.
    have hclean : (Refinement.item (Path.ofSegments (base ++ [.index i])) x).errors = [] :=
      errors_item_eq_nil_iff.mpr fun fields hx hshaped => (hread ⟨fields, hx, hshaped⟩).elim
    rw [hclean] at hitem
    rw [writes_eq_nil hitem] at hbecame
    cases hbecame with
    | written hw => cases hw
    | edited hinner => exact (hread ⟨fields', (eq_of_edits_nil hinner).symm, hshaped⟩).elim

theorem sizeOf_item_lt {list : List Document} {x : Document}
    (hlist : Fields.get? fields name = some (.array list)) (hx : x ∈ list) :
    sizeOf x < sizeOf (Document.object fields) := by
  have hfield := List.sizeOf_lt_of_mem (Addresses.mem_of_get? hlist)
  have hitem := List.sizeOf_lt_of_mem hx
  simp only [Prod.mk.sizeOf_spec, Document.array.sizeOf_spec] at hfield
  simp only [Document.object.sizeOf_spec]
  omega

theorem exists_items_of_nodeFits (h : NodeFits (.object [("diagnostics", value)])) :
    ∃ items, value = .array items ∧ ∀ x ∈ items, NodeFits x := by
  cases h with
  | diagnostic hshaped _ =>
      have hnone := has_diagnostics_of_diagnosticShaped hshaped
      contradiction
  | result hlist hitems _ => exact ⟨_, Option.some.inj hlist, hitems⟩
  | other _ hlist => cases hlist
  | scalar hobject _ => exact (hobject _ rfl).elim

theorem items_of_became {c : Document} (hbase : ∀ step ∈ base, step.Plain)
    (hc : fields.get? "diagnostics" = some c)
    (h : RepairsOf level base (Refinement.listIn (Path.ofSegments base) fields).errors writes)
    (hbecame : Became writes (some c) after)
    (hwritten : ∀ value, ([], value) ∈ writes → NodeFits (.object [("diagnostics", value)]))
    (hitems : ∀ items, c = .array items → ∀ (i : Nat) (x y : Document), items[i]? = some x →
      RepairsOf level (base ++ [.index i])
        (Refinement.node (Path.ofSegments (base ++ [.index i])) x).errors (below (.index i) writes) →
      Edits x (below (.index i) writes) y → NodeFits y) :
    ∃ items', after = some (.array items') ∧ ∀ y ∈ items', NodeFits y := by
  cases hbecame with
  | written hw =>
      obtain ⟨items', rfl, hfits⟩ := exists_items_of_nodeFits (hwritten _ hw)
      exact ⟨items', rfl, hfits⟩
  | edited hedits =>
      by_cases hlist : ∃ items, c = .array items
      · obtain ⟨items, rfl⟩ := hlist
        obtain ⟨items', rfl⟩ := exists_array_of_edits hedits
        refine ⟨items', rfl, fun y hy => ?_⟩
        obtain ⟨i, x, hx, hbecame⟩ := exists_became_of_mem hedits hy
        rw [errors_listIn_of_list hc, nodes_eq_join] at h
        simp only [Nat.zero_add] at h
        have hitem := repairs_item (fun i x f hf => by
          rw [← ofSegments_append] at hf
          exact under_of_traced (plain_item hbase i) (traced_node _ _ hf)) h hx
        rw [← ofSegments_append] at hitem
        rcases became_inside (fun f hf => under_of_node (plain_item hbase i) hf) hitem
          hbecame with ⟨d, d', hd, hd', hinner⟩ | ⟨hnone, -⟩
        · obtain rfl := Option.some.inj hd
          obtain rfl := Option.some.inj hd'
          exact hitems items rfl i _ _ hx hitem hinner
        · cases hnone
      · rw [errors_listIn_of_other hc fun items hitems => hlist ⟨items, hitems⟩] at h
        obtain ⟨⟨path, v⟩, hw, hrepair⟩ := h.complete _ (List.mem_singleton_self _)
        have hread := (repair?_eq_some_iff.mp hrepair).1
        obtain rfl : path = [] := List.append_right_eq_self.mp (eq_of_parse hbase hread)
        exact (hedits.inside _ hw rfl).elim

/-- The second look accepts what has become of a value, if everything that it found there has been repaired,
nothing else has been written, and it accepts what has been written for lists. -/
theorem nodeFits_of_edits {base : List Segment} {writes : List (List Segment × Document)} {d' : Document}
    (hbase : ∀ step ∈ base, step.Plain) :
    (d : Document) → RepairsOf level base (Refinement.node (Path.ofSegments base) d).errors writes →
      Edits d writes d' → ListsFit writes → NodeFits d'
  | .object fields, h, hedits, hlists => by
      obtain ⟨fields', rfl⟩ := exists_object_of_edits hedits
      by_cases hshaped : Closeness.diagnosticShaped fields = true
      · rw [Refinement.node, if_pos hshaped] at h
        exact .diagnostic (diagnosticShaped_of_repairs hbase hshaped h hedits)
          (diagnosticFits_of_repairs hbase h hedits)
      · rw [Refinement.node, if_neg hshaped] at h
        by_cases hlist : Fields.has fields "diagnostics" = true
        · rw [if_pos hlist, errors_result] at h
          have hfield := repairs_field (belowFields_result hbase) h
            (show ["diagnostics", "severity"].Nodup by decide)
          obtain ⟨c, hc⟩ := Agreement.exists_get?_of_has hlist
          have hbecame := became_field hedits "diagnostics"
          rw [hc] at hbecame
          have hlistIn := hfield _ List.mem_cons_self
          dsimp only at hlistIn
          rw [inField_ofSegments] at hlistIn
          have hplain := plain_field hbase (show PlainName "diagnostics" by decide)
          obtain ⟨items', hitems', hfits⟩ := items_of_became hplain hc hlistIn hbecame
            (fun value hw => hlists _ (mem_below.mp hw) rfl) fun items hitems i x y hx hrepairs hinner =>
              nodeFits_of_edits (plain_item hplain i) x hrepairs hinner
                (listsFit_below (listsFit_below hlists))
          exact .result hitems' hfits (severityFits_of_repairs hbase
            (hfield _ (List.mem_cons_of_mem _ List.mem_cons_self)) (became_field hedits "severity"))
        · rw [if_neg hlist] at h
          obtain rfl := writes_eq_nil h
          rw [eq_of_edits_nil hedits]
          exact .other (by simpa using hshaped) (get?_of_has_eq_false (by simpa using hlist))
  | .array items, h, hedits, _ => by
      obtain ⟨items', rfl⟩ := exists_array_of_edits hedits
      exact nodeFits_array_of_edits hbase h hedits
  | .null, h, hedits, _ | .bool _, h, hedits, _ | .int _, h, hedits, _ | .float _, h, hedits, _
  | .string _, h, hedits, _ => by
      obtain rfl := writes_eq_nil h
      rw [eq_of_edits_nil hedits]
      exact .scalar (by simp) (by simp)
termination_by d => sizeOf d
decreasing_by
  subst hitems
  exact sizeOf_item_lt hc (List.mem_of_getElem? hx)

end Proofs.NodeRepairs

end ReviewDiagnostics
