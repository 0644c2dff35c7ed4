import ReviewDiagnostics.Document.Path

/-!
# Paths and their texts

The text of a path is read step by step.  A path of plain steps, that is of names without marks and of
indices counted from the start, comes back as it was, unless one of its indices has more digits than a
number is read with; then it cannot be read at all.  No two paths of plain steps have one text.
-/

namespace ReviewDiagnostics

-- Powers are those of the core library, whatever else is imported.
attribute [local instance (2000)] instPowNat

/-- A step that stands apart from its neighbours in the text of a path. -/
def Segment.Plain : Segment → Prop
  | .name s => s ≠ "" ∧ ∀ c ∈ s.toList, Path.isMark c = false
  | .index n => 0 ≤ n

/-- A step with a number of digits that is read. -/
def Segment.Short : Segment → Prop
  | .name _ => True
  | .index n => n.toNat < 10 ^ Text.maxDigits

namespace Proofs.PathText

open ReviewDiagnostics.Path

/-! ## Writing -/

/-- The text of a step that is not the first one of its path, or is an index. -/
def stepText : Segment → List Char
  | .name s => '.' :: s.toList
  | .index n => '[' :: (toString n).toList ++ [']']

theorem toList_join {base : String} (hbase : base ≠ "") (step : Segment) :
    (join base step).toList = base.toList ++ stepText step := by
  cases step with
  | name s => simp [join, hbase, stepText, toString]
  | index n => simp [join, stepText, toString]

theorem join_ne_empty {base : String} {step : Segment} (h : base ≠ "" ∨ step.Plain) :
    join base step ≠ "" := by
  cases step with
  | name s =>
      rw [join]
      split
      · rename_i hbase
        exact (h.resolve_left (not_not_intro hbase)).1
      · intro hempty
        have hlist := congrArg String.toList hempty
        simp [toString] at hlist
  | index n =>
      intro hempty
      have hlist := congrArg String.toList hempty
      simp [join, toString] at hlist

private theorem toList_foldl_join {base : String} (hbase : base ≠ "") (steps : List Segment) :
    (steps.foldl join base).toList = base.toList ++ steps.flatMap stepText := by
  induction steps generalizing base with
  | nil => simp
  | cons step steps ih =>
      rw [List.foldl_cons, ih (join_ne_empty (.inl hbase)), toList_join hbase, List.flatMap_cons,
        List.append_assoc]

theorem toList_ofSegments {step : Segment} (hstep : step.Plain) (steps : List Segment) :
    (ofSegments (step :: steps)).toList = (join "" step).toList ++ steps.flatMap stepText :=
  toList_foldl_join (join_ne_empty (.inr hstep)) steps

theorem join_empty_index (n : Int) : (join "" (.index n)).toList = stepText (.index n) := by
  simp [join, stepText, toString]

theorem ofSegments_ne_empty {step : Segment} {steps : List Segment} (hstep : step.Plain) :
    ofSegments (step :: steps) ≠ "" := by
  intro hempty
  have htext := toList_ofSegments hstep steps
  rw [hempty, String.toList_empty] at htext
  have hjoin := (List.append_eq_nil_iff.mp htext.symm).1
  exact join_ne_empty (.inr hstep) (String.toList_inj.mp hjoin)

theorem ofSegments_nil : ofSegments [] = "" := rfl

theorem ofSegments_append (steps : List Segment) (step : Segment) :
    ofSegments (steps ++ [step]) = join (ofSegments steps) step := by
  rw [ofSegments, List.foldl_append]
  rfl

/-! ## Reading one step -/

/-- What follows a name in the text of a path. -/
def StartsWithMark : List Char → Prop
  | [] => True
  | c :: _ => isMark c = true

theorem startsWithMark_flatMap (steps : List Segment) :
    StartsWithMark (steps.flatMap stepText) := by
  cases steps with
  | nil => trivial
  | cons step steps =>
      cases step with
      | name s => exact (by decide : isMark '.' = true)
      | index n => exact (by decide : isMark '[' = true)

private theorem takeWhile_of_startsWithMark {rest : List Char} (h : StartsWithMark rest) :
    rest.takeWhile (!isMark ·) = [] := by
  cases rest with
  | nil => rfl
  | cons c rest =>
      have hmark : isMark c = true := h
      rw [List.takeWhile_cons_of_neg (by simp [hmark])]

theorem takeWhile_unmarked {cs rest : List Char} (hcs : ∀ c ∈ cs, isMark c = false)
    (hrest : StartsWithMark rest) : (cs ++ rest).takeWhile (!isMark ·) = cs := by
  rw [List.takeWhile_append_of_pos (by simpa using hcs), takeWhile_of_startsWithMark hrest,
    List.append_nil]

theorem scan_name {s : String} {rest : List Char} (hs : (Segment.name s).Plain)
    (hrest : StartsWithMark rest) :
    scan (s.toList ++ rest) = do return .name s :: (← scan rest) := by
  obtain ⟨hne, hmarks⟩ := hs
  cases hlist : s.toList with
  | nil => exact (hne (String.toList_inj.mp hlist)).elim
  | cons c cs =>
      rw [hlist, List.forall_mem_cons] at hmarks
      have hopen : c ≠ '[' := fun hc => by
        rw [hc] at hmarks
        exact absurd hmarks.1 (by decide)
      have hstretch := takeWhile_unmarked hmarks.2 hrest
      have hname : String.ofList (c :: cs) = s := by rw [← hlist, String.ofList_toList]
      rw [List.cons_append, scan, if_neg hopen, if_neg (by simp [hmarks.1]), hstretch]
      dsimp only
      rw [List.drop_left, hname]

theorem digitValue?_of_isDigit {c : Char} (h : c.isDigit = true) :
    Text.digitValue? c = some (c.toNat - '0'.toNat) := by
  have hrange : 48 ≤ c.toNat ∧ c.toNat ≤ 57 := by
    simpa [Char.isDigit, UInt32.le_iff_toNat_le] using h
  rw [Text.digitValue?, Text.zeros, List.find?_cons_of_pos (by simp; omega)]
  rfl

theorem foldl_digits {digits : List Char} (h : ∀ c ∈ digits, c.isDigit = true) (n : Nat) :
    digits.foldl (fun n c => n * 10 + (Text.digitValue? c).getD 0) n =
      Nat.ofDigitChars 10 digits n := by
  induction digits generalizing n with
  | nil => rfl
  | cons c digits ih =>
      obtain ⟨hc, hdigits⟩ := List.forall_mem_cons.mp h
      rw [List.foldl_cons, ih hdigits, Nat.ofDigitChars_cons, digitValue?_of_isDigit hc,
        Option.getD_some, Nat.mul_comm]

theorem stepText_index (k : Nat) (rest : List Char) :
    stepText (.index k) ++ rest = '[' :: (Nat.toDigits 10 k ++ ']' :: rest) := by
  have hrepr : (toString (k : Int)).toList = Nat.toDigits 10 k := String.toList_ofList
  rw [stepText, hrepr, List.cons_append, List.cons_append, List.append_assoc, List.singleton_append]

theorem scan_index {k : Nat} {rest : List Char} :
    scan (stepText (.index k) ++ rest) =
      if k < 10 ^ Text.maxDigits then do return .index k :: (← scan rest)
      else .error (.tooManyDigits (Nat.toDigits 10 k).length) := by
  have hdigits : ∀ c ∈ Nat.toDigits 10 k, c.isDigit = true := fun c hc =>
    Nat.isDigit_of_mem_toDigits (by decide) (by decide) hc
  have hstretch : (Nat.toDigits 10 k ++ ']' :: rest).takeWhile Text.isDecimalDigit =
      Nat.toDigits 10 k := by
    have hclose : Text.isDecimalDigit ']' = false := by decide
    rw [List.takeWhile_append_of_pos, List.takeWhile_cons_of_neg (by simp [hclose]), List.append_nil]
    intro c hc
    rw [Text.isDecimalDigit, digitValue?_of_isDigit (hdigits c hc), Option.isSome_some]
  have hclosed : Nat.toDigits 10 k ≠ [] ∧
      (Nat.toDigits 10 k ++ ']' :: rest)[(Nat.toDigits 10 k).length]? = some ']' := by
    refine ⟨List.ne_nil_of_length_pos Nat.length_toDigits_pos, ?_⟩
    rw [List.getElem?_append_right (Nat.le_refl _), Nat.sub_self, List.getElem?_cons_zero]
  have hlength : Text.maxDigits < (Nat.toDigits 10 k).length ↔ ¬ k < 10 ^ Text.maxDigits := by
    rw [← Nat.not_le, Nat.length_toDigits_le_iff (by decide) (by decide)]
  have hrest : (Nat.toDigits 10 k ++ ']' :: rest).drop ((Nat.toDigits 10 k).length + 1) = rest := by
    rw [List.drop_append, List.drop_eq_nil_of_le (Nat.le_succ _)]
    simp
  rw [stepText_index, scan, if_pos rfl]
  simp only [hstretch, if_pos hclosed, hrest, indexOf, foldl_digits hdigits]
  rw [Nat.ofDigitChars_toDigits (by decide) (by decide)]
  by_cases hk : k < 10 ^ Text.maxDigits
  · rw [if_neg (mt hlength.mp (not_not_intro hk)), if_pos hk]
  · rw [if_pos (hlength.mpr hk), if_neg hk]

/-! ## Telling paths apart -/

theorem takeWhile_index (k : Nat) (rest : List Char) :
    (Nat.toDigits 10 k ++ ']' :: rest).takeWhile Char.isDigit = Nat.toDigits 10 k := by
  have hclose : Char.isDigit ']' = false := by decide
  rw [List.takeWhile_append_of_pos, List.takeWhile_cons_of_neg (by simp [hclose]), List.append_nil]
  exact fun c hc => Nat.isDigit_of_mem_toDigits (by decide) (by decide) hc

private theorem toDigits_injective {k l : Nat} (h : Nat.toDigits 10 k = Nat.toDigits 10 l) : k = l := by
  rw [← Nat.ofDigitChars_toDigits (b := 10) (n := k) (by decide) (by decide), h,
    Nat.ofDigitChars_toDigits (by decide) (by decide)]

private theorem eq_of_stepText {step step' : Segment} {rest rest' : List Char} (hstep : step.Plain)
    (hstep' : step'.Plain) (hrest : StartsWithMark rest) (hrest' : StartsWithMark rest')
    (h : stepText step ++ rest = stepText step' ++ rest') : step = step' ∧ rest = rest' := by
  cases step with
  | name s =>
      cases step' with
      | name s' =>
          have htail : s.toList ++ rest = s'.toList ++ rest' := (List.cons.inj h).2
          have hname : s.toList = s'.toList := by
            rw [← takeWhile_unmarked hstep.2 hrest, htail, takeWhile_unmarked hstep'.2 hrest']
          rw [hname, List.append_cancel_left_eq] at htail
          exact ⟨congrArg Segment.name (String.toList_inj.mp hname), htail⟩
      | index n' => cases (List.cons.inj h).1
  | index n =>
      cases step' with
      | name s' => cases (List.cons.inj h).1
      | index n' =>
          obtain ⟨k, rfl⟩ := Int.eq_ofNat_of_zero_le hstep
          obtain ⟨k', rfl⟩ := Int.eq_ofNat_of_zero_le hstep'
          rw [stepText_index, stepText_index] at h
          have htail := (List.cons.inj h).2
          have hdigits : Nat.toDigits 10 k = Nat.toDigits 10 k' := by
            rw [← takeWhile_index k rest, htail, takeWhile_index]
          rw [hdigits, List.append_cancel_left_eq] at htail
          exact ⟨by rw [toDigits_injective hdigits], (List.cons.inj htail).2⟩

private theorem flatMap_stepText_injective {p q : List Segment} (hp : ∀ step ∈ p, step.Plain)
    (hq : ∀ step ∈ q, step.Plain) (h : p.flatMap stepText = q.flatMap stepText) : p = q := by
  induction p generalizing q with
  | nil =>
      cases q with
      | nil => rfl
      | cons step q => cases step <;> cases h
  | cons step p ih =>
      cases q with
      | nil => cases step <;> cases h
      | cons step' q =>
          obtain ⟨hstep, hsteps⟩ := List.forall_mem_cons.mp hp
          obtain ⟨hstep', hsteps'⟩ := List.forall_mem_cons.mp hq
          rw [List.flatMap_cons, List.flatMap_cons] at h
          obtain ⟨rfl, htail⟩ := eq_of_stepText hstep hstep' (startsWithMark_flatMap p)
            (startsWithMark_flatMap q) h
          rw [ih hsteps hsteps' htail]

theorem ofSegments_injective {p q : List Segment} (hp : ∀ step ∈ p, step.Plain)
    (hq : ∀ step ∈ q, step.Plain) (h : ofSegments p = ofSegments q) : p = q := by
  -- The first step of a path has no dot before its name, and no name begins with a bracket.
  have hbracket {s : String} {n : Int} {rest rest' : List Char} (hs : (Segment.name s).Plain) :
      s.toList ++ rest ≠ stepText (.index n) ++ rest' := by
    intro htext
    cases hlist : s.toList with
    | nil => exact hs.1 (String.toList_inj.mp hlist)
    | cons c cs =>
        rw [hlist] at htext
        obtain rfl : c = '[' := (List.cons.inj htext).1
        have hmark := hs.2 '[' (hlist ▸ List.mem_cons_self)
        exact absurd hmark (by decide)
  match p, q with
  | [], [] => rfl
  | [], _ :: _ => exact (ofSegments_ne_empty (List.forall_mem_cons.mp hq).1 h.symm).elim
  | _ :: _, [] => exact (ofSegments_ne_empty (List.forall_mem_cons.mp hp).1 h).elim
  | step :: p, step' :: q =>
      have hstep := (List.forall_mem_cons.mp hp).1
      have hstep' := (List.forall_mem_cons.mp hq).1
      have htext := congrArg String.toList h
      rw [toList_ofSegments hstep, toList_ofSegments hstep'] at htext
      refine flatMap_stepText_injective hp hq ?_
      rw [List.flatMap_cons, List.flatMap_cons]
      match step, step' with
      | .name s, .name s' => exact congrArg ('.' :: ·) htext
      | .index n, .index n' => rwa [join_empty_index, join_empty_index] at htext
      | .name s, .index n =>
          rw [join_empty_index] at htext
          exact (hbracket hstep htext).elim
      | .index n, .name s =>
          rw [join_empty_index] at htext
          exact (hbracket hstep' htext.symm).elim

/-! ## Reading a path -/

theorem scan_steps {steps : List Segment} (h : ∀ step ∈ steps, step.Plain) :
    (∃ step ∈ steps, ¬ step.Short) ∧
        (∃ count, scan (steps.flatMap stepText) = .error (.tooManyDigits count)) ∨
      (∀ step ∈ steps, step.Short) ∧ scan (steps.flatMap stepText) = .ok steps := by
  induction steps with
  | nil => exact .inr ⟨by simp, by rw [List.flatMap_nil, scan]⟩
  | cons step steps ih =>
      obtain ⟨hstep, hsteps⟩ := List.forall_mem_cons.mp h
      rw [List.flatMap_cons]
      cases step with
      | name s =>
          have hscan : scan (stepText (.name s) ++ steps.flatMap stepText) =
              do return .name s :: (← scan (steps.flatMap stepText)) := by
            rw [stepText, List.cons_append, scan, if_neg (by decide), if_pos (by decide)]
            exact scan_name hstep (startsWithMark_flatMap steps)
          rw [hscan]
          rcases ih hsteps with ⟨⟨long, hlong, hdigits⟩, count, hfault⟩ | ⟨hshort, hread⟩
          · exact .inl ⟨⟨long, List.mem_cons_of_mem _ hlong, hdigits⟩, count, by rw [hfault]; rfl⟩
          · exact .inr ⟨List.forall_mem_cons.mpr ⟨trivial, hshort⟩, by rw [hread]; rfl⟩
      | index n =>
          obtain ⟨k, rfl⟩ := Int.eq_ofNat_of_zero_le hstep
          rw [scan_index]
          split
          · rename_i hk
            rcases ih hsteps with ⟨⟨long, hlong, hdigits⟩, count, hfault⟩ | ⟨hshort, hread⟩
            · exact .inl ⟨⟨long, List.mem_cons_of_mem _ hlong, hdigits⟩, count, by rw [hfault]; rfl⟩
            · exact .inr ⟨List.forall_mem_cons.mpr ⟨hk, hshort⟩, by rw [hread]; rfl⟩
          · rename_i hk
            exact .inl ⟨⟨_, List.mem_cons_self, hk⟩, _, rfl⟩

/-- A path of plain steps is read back from its text, or one of its indices is too long. -/
theorem parse_ofSegments {steps : List Segment} (h : ∀ step ∈ steps, step.Plain) :
    (∃ step ∈ steps, ¬ step.Short) ∧
        (∃ count, parse (ofSegments steps) = .error (.tooManyDigits count)) ∨
      (∀ step ∈ steps, step.Short) ∧ parse (ofSegments steps) = .ok steps := by
  cases steps with
  | nil => exact .inr ⟨by simp, by rw [parse, ofSegments, List.foldl_nil, String.toList_empty, scan]⟩
  | cons step steps =>
      obtain ⟨hstep, hsteps⟩ := List.forall_mem_cons.mp h
      have htext := toList_ofSegments hstep steps
      cases step with
      | name s =>
          have hread := scan_name hstep (startsWithMark_flatMap steps)
          have hjoin : join "" (.name s) = s := rfl
          rw [parse, htext, hjoin, hread]
          rcases scan_steps hsteps with ⟨⟨long, hlong, hdigits⟩, count, hfault⟩ | ⟨hshort, hread⟩
          · exact .inl ⟨⟨long, List.mem_cons_of_mem _ hlong, hdigits⟩, count, by rw [hfault]; rfl⟩
          · exact .inr ⟨List.forall_mem_cons.mpr ⟨trivial, hshort⟩, by rw [hread]; rfl⟩
      | index n =>
          rw [parse, htext, join_empty_index, ← List.flatMap_cons]
          exact scan_steps h

theorem parse_empty : parse "" = .ok [] := by
  rw [parse, String.toList_empty, scan]

theorem eq_of_parse {steps read : List Segment} (h : ∀ step ∈ steps, step.Plain)
    (hread : parse (ofSegments steps) = .ok read) : read = steps := by
  rcases parse_ofSegments h with ⟨-, count, hfault⟩ | ⟨-, hsteps⟩
  · rw [hfault] at hread
    cases hread
  · exact Except.ok.inj (hread.symm.trans hsteps)

theorem parse_of_short {steps : List Segment} (hplain : ∀ step ∈ steps, step.Plain)
    (hshort : ∀ step ∈ steps, step.Short) : parse (ofSegments steps) = .ok steps := by
  rcases parse_ofSegments hplain with ⟨⟨step, hstep, hlong⟩, -⟩ | ⟨-, hread⟩
  · exact (hlong (hshort step hstep)).elim
  · exact hread

/-- **Paths are read back.**  The text of a path of plain steps, none of whose indices has more digits than a
number is read with, is read as that path; and no other path of plain steps has this text. -/
theorem path_is_read_back {steps : List Segment} (hplain : ∀ step ∈ steps, step.Plain)
    (hshort : ∀ step ∈ steps, step.Short) :
    parse (ofSegments steps) = .ok steps ∧
      ∀ other : List Segment, (∀ step ∈ other, step.Plain) → ofSegments other = ofSegments steps →
        other = steps :=
  ⟨parse_of_short hplain hshort, fun _ hother htext => ofSegments_injective hother hplain htext⟩

/-- Two indices behind a name of digits, and in front of a name of two lines. -/
theorem path_of_digits_is_read_back :
    let steps : List Segment := [.name "07", .index 0, .index 10, .name "a\nb"]
    (∀ step ∈ steps, step.Plain) ∧ (∀ step ∈ steps, step.Short) ∧
      parse "07[0][10].a\nb" = .ok steps ∧
      ∀ other : List Segment, (∀ step ∈ other, step.Plain) → ofSegments other = "07[0][10].a\nb" →
        other = steps := by
  intro steps
  have hplain : ∀ step ∈ steps, step.Plain := by
    simp [steps, Segment.Plain, Path.isMark]
  have hshort : ∀ step ∈ steps, step.Short := by
    simp only [steps, List.forall_mem_cons, Segment.Short, List.not_mem_nil, false_imp_iff, implies_true]
    decide +kernel
  exact ⟨hplain, hshort, path_is_read_back hplain hshort⟩

end Proofs.PathText

end ReviewDiagnostics
