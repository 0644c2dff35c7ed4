import ReviewDiagnostics.Proofs.CommentedText
import ReviewDiagnostics.Proofs.NumberText
import ReviewDiagnostics.Proofs.ReadDocuments
import ReviewDiagnostics.Proofs.WrittenText
import ReviewDiagnostics.Report.Json

/-!
# Reading back what is written

A document that was read is written as a text that is read as the same document, whatever the indentation
and the escapes, if all its numbers are finite.  A number that is too large for binary64 is read as an
infinity, and that is written as a word that is not read.
-/

namespace ReviewDiagnostics

-- Powers are those of the core library, whatever else is imported.
attribute [local instance (2000)] instPowNat

/-- All numbers in a document are finite. -/
inductive Document.AllFinite : Document → Prop
  | null : AllFinite .null
  | bool (b : Bool) : AllFinite (.bool b)
  | int (n : Int) : AllFinite (.int n)
  | float (negative : Bool) (scale : Fin 2047) (fraction : Fin (2 ^ (52 : Nat))) :
      AllFinite (.float (.finite negative scale fraction))
  | string (s : String) : AllFinite (.string s)
  | array {items : List Document} (h : ∀ d ∈ items, AllFinite d) : AllFinite (.array items)
  | object {fields : List (String × Document)} (h : ∀ p ∈ fields, AllFinite p.2) :
      AllFinite (.object fields)

/-- Lines are indented with white space only. -/
def Document.Style.Spaced (style : Document.Style) : Prop :=
  ∀ u, style.unit = some u → ∀ c ∈ u.toList, Lexeme.isSpace c = true

namespace Proofs.ReadBack

open Lexeme Reader Reading ReadDocuments Document

variable {again : Bool} {w text gap rest : List Char} {lexeme : Lexeme} {s next : State}
  {result d : Document} {frames : List Frame} {style : Style}

/-! ## Texts as they are seen -/

/-- A text as the reader sees it: comments are blanked if there may be any. -/
def seen (allowComments : Bool) (cs : List Char) : List Char :=
  if allowComments then Comments.blank cs else cs

theorem seen_nil : seen again [] = [] := by
  cases again <;> rfl

theorem seen_plain (h : ∀ c ∈ w, c ≠ '"' ∧ c ≠ '/') : seen again (w ++ rest) = w ++ seen again rest := by
  cases again with
  | false => rfl
  | true => exact CommentedText.blank_plain h rest

theorem seen_spelled (h : Spelled text lexeme) : seen again (text ++ rest) = text ++ seen again rest := by
  cases again with
  | false => rfl
  | true =>
      obtain ⟨c, cs, rfl, hstart⟩ := h
      rw [← List.append_nil cs] at hstart
      exact @CommentedText.blank_token c cs [] lexeme (by simpa using hstart) rest

theorem plain_of_isSpace {c : Char} (h : isSpace c = true) : c ≠ '"' ∧ c ≠ '/' := by
  constructor <;> (rintro rfl; cases h)

theorem closes_seen (h : Closes rest) : Closes (seen again rest) := by
  cases rest with
  | nil => rwa [seen_nil]
  | cons c rest =>
      have hclosing : isClosing c = true := h c rfl
      have hplain : ∀ x ∈ [c], x ≠ '"' ∧ x ≠ '/' := by
        simp only [List.mem_singleton, forall_eq]
        constructor <;> (rintro rfl; cases hclosing)
      rw [← List.singleton_append, seen_plain hplain]
      rintro _ ⟨⟩
      exact hclosing

theorem closes_gap {c : Char} (hgap : ∀ x ∈ gap, isSpace x = true) (hc : isClosing c = true) :
    Closes (gap ++ c :: rest) := by
  cases gap with
  | nil =>
      rintro _ ⟨⟩
      exact hc
  | cons x gap =>
      rintro _ ⟨⟩
      simp [isClosing, hgap x List.mem_cons_self]

/-! ## Reading one token -/

theorem reads_gap (hgap : ∀ c ∈ gap, isSpace c = true) :
    Reads s (seen again (gap ++ rest)) result ↔ Reads s (seen again rest) result := by
  rw [seen_plain fun c hc => plain_of_isSpace (hgap c hc)]
  induction gap with
  | nil => exact Iff.rfl
  | cons c gap ih =>
      obtain ⟨hc, hgap⟩ := List.forall_mem_cons.mp hgap
      rw [List.cons_append, reads_space hc, ih hgap]

theorem reads_spelled (h : Spelled text lexeme) (hstep : step s ⟨0, lexeme⟩ = .ok next)
    (hclose : ∀ d, lexeme = .scalar d → Closes rest) :
    Reads s (seen again (text ++ rest)) result ↔ Reads next (seen again rest) result := by
  rw [seen_spelled h]
  have hrest := fun d hd => @closes_seen again rest (hclose d hd)
  obtain ⟨c, cs, rfl, hstart⟩ := starts_of_spelled h hrest
  rw [List.cons_append, reads_token hstart, Nat.add_sub_cancel, List.drop_left]
  refine ⟨fun ⟨next', hstep', h⟩ => ?_, fun h => ⟨next, hstep, h⟩⟩
  rw [hstep] at hstep'
  cases hstep'
  exact h

theorem reads_mark (c : Char) (lexeme : Lexeme) (h : (c, lexeme) ∈ marks)
    (hstep : step s ⟨0, lexeme⟩ = .ok next) :
    Reads s (seen again (c :: rest)) result ↔ Reads next (seen again rest) result := by
  refine reads_spelled (spelled_mark h) hstep fun d hd => ?_
  subst hd
  simp [marks] at h

/-- A value is expected, which then stands in the given frames. -/
inductive Expects : List Frame → State → Prop
  | value (frames : List Frame) : Expects frames ⟨frames, .value⟩
  | firstItem (frames : List Frame) : Expects (.list [] :: frames) ⟨frames, .firstItem⟩

theorem step_of_expects (hs : Expects frames s) (h : lexeme ≠ .closeList) :
    step s ⟨0, lexeme⟩ = stepValue frames ⟨0, lexeme⟩ := by
  cases hs with
  | value => rfl
  | firstItem => exact step_firstItem h

theorem reads_scalar (h : Spelled text (.scalar d)) (hs : Expects frames s) (hrest : Closes rest) :
    Reads s (seen again (text ++ rest)) result ↔ Reads ⟨frames, .comma d⟩ (seen again rest) result :=
  reads_spelled h (step_of_expects hs (by simp)) fun _ _ => hrest

theorem not_reads {c : Char} {cs : List Char} (hc : isSpace c = false)
    (hbroken : (scan 0 c cs).1.isBroken = true) : ¬ Reads s (c :: cs) result := by
  intro h
  cases h with
  | space hspace => exact absurd hspace (by rw [hc]; decide)
  | token hstart =>
      rw [scan_of_starts hstart 0, whole_of_starts hstart] at hbroken
      cases hbroken

theorem not_reads_constant {x : Binary64} (h : x = .nan ∨ ∃ negative, x = .infinite negative) :
    ¬ Reads s (seen again (x.text Binary64.documentNames ++ rest)) result := by
  have hplain : ∀ c ∈ x.text Binary64.documentNames, c ≠ '"' ∧ c ≠ '/' := by
    obtain rfl | ⟨negative, rfl⟩ := h
    · simp [Binary64.text, Binary64.documentNames]
    · cases negative <;> simp [Binary64.text, Binary64.documentNames]
  rw [seen_plain hplain]
  obtain rfl | ⟨_ | _, rfl⟩ := h
  · refine @not_reads _ _ 'N' ("aN".toList ++ seen again rest) rfl ?_
    simp only [scan]
    split <;> rfl
  · refine @not_reads _ _ 'I' ("nfinity".toList ++ seen again rest) rfl ?_
    simp only [scan]
    split <;> rfl
  · have hletter : Text.isAsciiDigit 'I' = false := rfl
    refine @not_reads _ _ '-' ('I' :: ("nfinity".toList ++ seen again rest)) rfl ?_
    simp only [scan, hletter, Bool.false_eq_true, if_false]
    split <;> rfl

/-! ## Layout -/

theorem isSpace_of_mem_lineBreak (hstyle : style.Spaced) (depth : Nat) :
    ∀ c ∈ style.lineBreak depth, isSpace c = true := by
  rw [Style.lineBreak]
  cases hunit : style.unit with
  | none => exact fun _ hc => nomatch hc
  | some u =>
      refine List.forall_mem_cons.mpr ⟨rfl, fun c hc => ?_⟩
      obtain ⟨l, hl, hc⟩ := List.mem_flatten.mp hc
      rw [(List.mem_replicate.mp hl).2] at hc
      exact hstyle u hunit c hc

theorem isSpace_of_mem_blank : ∀ c ∈ [' '], isSpace c = true := fun c hc => by
  rw [List.mem_singleton.mp hc]
  rfl

theorem separator_eq (hstyle : style.Spaced) (depth : Nat) :
    ∃ gap, (∀ c ∈ gap, isSpace c = true) ∧ style.separator depth = ',' :: gap := by
  rw [Style.separator]
  cases style.unit with
  | none => exact ⟨[' '], isSpace_of_mem_blank, rfl⟩
  | some u => exact ⟨_, isSpace_of_mem_lineBreak hstyle depth, rfl⟩

theorem closes_separator (hstyle : style.Spaced) (depth : Nat) (cs : List Char) :
    Closes (style.separator depth ++ cs) := by
  obtain ⟨sep, -, hsep⟩ := separator_eq hstyle depth
  rw [hsep]
  rintro _ ⟨⟩
  rfl

theorem closes_renderItems (hstyle : style.Spaced) (depth : Nat) (xs : List Document) {c : Char}
    (hgap : ∀ x ∈ gap, isSpace x = true) (hc : isClosing c = true) :
    Closes (renderItems style depth xs ++ (gap ++ c :: rest)) := by
  cases xs with
  | nil => exact closes_gap hgap hc
  | cons x xs =>
      simp only [renderItems, List.append_assoc]
      exact closes_separator hstyle depth _

theorem closes_renderFields (hstyle : style.Spaced) (depth : Nat) (xs : List (String × Document))
    {c : Char} (hgap : ∀ x ∈ gap, isSpace x = true) (hc : isClosing c = true) :
    Closes (renderFields style depth xs ++ (gap ++ c :: rest)) := by
  cases xs with
  | nil => exact closes_gap hgap hc
  | cons x xs =>
      simp only [renderFields, List.append_assoc]
      exact closes_separator hstyle depth _

/-! ## Documents -/

theorem allFinite_array {items : List Document} :
    (Document.array items).AllFinite ↔ ∀ d ∈ items, d.AllFinite :=
  ⟨fun h => by cases h with | array h => exact h, .array⟩

theorem allFinite_object {fields : List (String × Document)} :
    (Document.object fields).AllFinite ↔ ∀ p ∈ fields, p.2.AllFinite :=
  ⟨fun h => by cases h with | object h => exact h, .object⟩

theorem step_openList (hs : Expects frames s) (hroom : frames.length < maxDepth) :
    step s ⟨0, .openList⟩ = .ok ⟨frames, .firstItem⟩ :=
  (step_of_expects hs (by simp)).trans (if_pos hroom)

theorem step_openObject (hs : Expects frames s) (hroom : frames.length < maxDepth) :
    step s ⟨0, .openObject⟩ = .ok ⟨frames, .firstName⟩ :=
  (step_of_expects hs (by simp)).trans (if_pos hroom)

theorem reads_float (x : Binary64) (hs : Expects frames s) (hrest : Closes rest) :
    Reads s (seen again (x.text Binary64.documentNames ++ rest)) result ↔
      (Document.float x).AllFinite ∧ Reads ⟨frames, .comma (.float x)⟩ (seen again rest) result := by
  cases x with
  | finite negative scale fraction =>
      rw [and_iff_right (.float negative scale fraction)]
      exact reads_scalar (NumberText.spelled_finite negative scale fraction) hs hrest
  | nan => exact iff_of_false (not_reads_constant (.inl rfl)) fun h => nomatch h.1
  | infinite negative =>
      exact iff_of_false (not_reads_constant (.inr ⟨negative, rfl⟩)) fun h => nomatch h.1

theorem reads_name {fields : List (String × Document)} {name : String}
    (hstep : step s ⟨0, .text name⟩ = .ok ⟨frames, .colon fields name⟩) :
    Reads s (seen again (writtenText style.ascii name ++ ':' :: ' ' :: rest)) result ↔
      Reads ⟨.object fields name :: frames, .value⟩ (seen again rest) result := by
  have hcolon : step ⟨frames, .colon fields name⟩ ⟨0, .colon⟩ =
      .ok ⟨.object fields name :: frames, .value⟩ := rfl
  rw [reads_spelled (WrittenText.spelled_writtenText style.ascii name) hstep (fun _ h => nomatch h),
    reads_mark ':' Lexeme.colon (by simp [marks]) hcolon]
  exact reads_gap isSpace_of_mem_blank

-- By induction on the document, as it is printed.  The frames around it are arbitrary, so that what is
-- proved of an item holds in every list; each list or object takes one of the levels that are left.
mutual

/-- Where a value is expected, the text of a document is read as that document. -/
theorem reads_render (hstyle : style.Spaced) (again : Bool) (result : Document) :
    (d : Document) → ∀ {room depth : Nat} {frames : List Frame} {s : State} {rest : List Char},
      d.Legible room → Expects frames s → frames.length + room ≤ maxDepth → Closes rest →
      (Reads s (seen again (d.render style depth ++ rest)) result ↔
        d.AllFinite ∧ Reads ⟨frames, .comma d⟩ (seen again rest) result)
  | .null, _, _, _, _, _, _, hs, _, hrest => by
      rw [and_iff_right .null]
      exact reads_scalar (@spelled_word "null".toList .null (by simp [words])) hs hrest
  | .bool true, _, _, _, _, _, _, hs, _, hrest => by
      rw [and_iff_right (.bool true)]
      exact reads_scalar (@spelled_word "true".toList (.bool true) (by simp [words])) hs hrest
  | .bool false, _, _, _, _, _, _, hs, _, hrest => by
      rw [and_iff_right (.bool false)]
      exact reads_scalar (@spelled_word "false".toList (.bool false) (by simp [words])) hs hrest
  | .int n, _, _, _, _, _, hd, hs, _, hrest => by
      rw [and_iff_right (.int n)]
      cases hd with
      | int hn => exact reads_scalar (NumberText.spelled_int hn) hs hrest
  | .float x, _, _, _, _, _, _, hs, _, hrest => reads_float x hs hrest
  | .string t, _, _, _, _, _, _, hs, _, _ => by
      rw [and_iff_right (.string t)]
      exact reads_spelled (WrittenText.spelled_writtenText style.ascii t)
        (step_of_expects hs (by simp)) fun _ h => nomatch h
  | .array [], _, _, _, _, _, .array _, hs, hroom, _ => by
      rw [and_iff_right (.array fun _ h => nomatch h)]
      exact (reads_mark '[' openList (by simp [marks]) (step_openList hs (by omega))).trans
        (reads_mark ']' closeList (by simp [marks]) rfl)
  | .array (x :: xs), _, depth, frames, _, rest, .array hd, hs, hroom, _ => by
      obtain ⟨hx, hxs⟩ := List.forall_mem_cons.mp hd
      have hbreak := isSpace_of_mem_lineBreak hstyle
      have hbehind : Closes (renderItems style (depth + 1) xs ++ (style.lineBreak depth ++ ']' :: rest)) :=
        closes_renderItems hstyle (depth + 1) xs (hbreak depth) rfl
      simp only [render, List.cons_append, List.append_assoc, List.nil_append]
      rw [reads_mark '[' openList (by simp [marks]) (step_openList hs (by omega)), reads_gap (hbreak _),
        reads_render hstyle again result x hx (.firstItem _) (by simp; omega) hbehind,
        reads_items hstyle again result xs hxs (by omega) (hbreak _), allFinite_array,
        List.forall_mem_cons, and_assoc]
      rfl
  | .object [], _, _, _, _, _, .object _ _, hs, hroom, _ => by
      rw [and_iff_right (.object fun _ h => nomatch h)]
      exact (reads_mark '\x7b' openObject (by simp [marks]) (step_openObject hs (by omega))).trans
        (reads_mark '\x7d' closeObject (by simp [marks]) rfl)
  | .object ((name, x) :: xs), _, depth, frames, _, rest, .object hnames hd, hs, hroom, _ => by
      obtain ⟨hx, hxs⟩ := List.forall_mem_cons.mp hd
      have hbreak := isSpace_of_mem_lineBreak hstyle
      have hbehind : Closes
          (renderFields style (depth + 1) xs ++ (style.lineBreak depth ++ '\x7d' :: rest)) :=
        closes_renderFields hstyle (depth + 1) xs (hbreak depth) rfl
      have hfirst : step ⟨frames, .firstName⟩ ⟨0, .text name⟩ = .ok ⟨frames, .colon [] name⟩ := rfl
      simp only [render, List.cons_append, List.append_assoc, List.nil_append]
      rw [reads_mark '\x7b' openObject (by simp [marks]) (step_openObject hs (by omega)),
        reads_gap (hbreak _), reads_name hfirst,
        reads_render hstyle again result x hx (.value _) (by simp; omega) hbehind,
        reads_fields hstyle again result xs hxs (by omega) (hbreak _), allFinite_object,
        List.forall_mem_cons, and_assoc, List.reverse_nil, List.nil_append, ofList_of_nodup hnames]

theorem reads_items (hstyle : style.Spaced) (again : Bool) (result : Document) :
    (xs : List Document) → ∀ {room depth : Nat} {frames : List Frame} {done : List Document}
      {x : Document} {gap rest : List Char},
      (∀ d ∈ xs, d.Legible room) → frames.length + 1 + room ≤ maxDepth →
      (∀ c ∈ gap, isSpace c = true) →
      (Reads ⟨.list done :: frames, .comma x⟩
          (seen again (renderItems style depth xs ++ (gap ++ ']' :: rest))) result ↔
        (∀ d ∈ xs, d.AllFinite) ∧
          Reads ⟨frames, .comma (.array (done.reverse ++ x :: xs))⟩ (seen again rest) result)
  | [], _, _, _, done, x, _, rest, _, _, hgap => by
      rw [and_iff_right (fun _ h => nomatch h), ← List.reverse_cons]
      exact (reads_gap hgap).trans (reads_mark ']' closeList (by simp [marks]) rfl)
  | y :: ys, _, depth, frames, done, x, gap, rest, hxs, hroom, hgap => by
      obtain ⟨hy, hys⟩ := List.forall_mem_cons.mp hxs
      obtain ⟨sep, hsep, hcomma⟩ := separator_eq hstyle depth
      have hstep : step ⟨.list done :: frames, .comma x⟩ ⟨0, .comma⟩ =
          .ok ⟨.list (x :: done) :: frames, .value⟩ := rfl
      have hbehind : Closes (renderItems style depth ys ++ (gap ++ ']' :: rest)) :=
        closes_renderItems hstyle depth ys hgap rfl
      have hdone : done.reverse ++ x :: y :: ys = (x :: done).reverse ++ y :: ys := by simp
      simp only [renderItems, hcomma, List.cons_append, List.append_assoc]
      rw [reads_mark ',' Lexeme.comma (by simp [marks]) hstep, reads_gap hsep,
        reads_render hstyle again result y hy (.value _) (by simp; omega) hbehind,
        reads_items hstyle again result ys hys hroom hgap, List.forall_mem_cons, and_assoc, hdone]

theorem reads_fields (hstyle : style.Spaced) (again : Bool) (result : Document) :
    (xs : List (String × Document)) → ∀ {room depth : Nat} {frames : List Frame}
      {done : List (String × Document)} {name : String} {x : Document} {gap rest : List Char},
      (∀ p ∈ xs, p.2.Legible room) → frames.length + 1 + room ≤ maxDepth →
      (∀ c ∈ gap, isSpace c = true) →
      (Reads ⟨.object done name :: frames, .comma x⟩
          (seen again (renderFields style depth xs ++ (gap ++ '\x7d' :: rest))) result ↔
        (∀ p ∈ xs, p.2.AllFinite) ∧
          Reads ⟨frames, .comma (.object (Fields.ofList (done.reverse ++ (name, x) :: xs)))⟩
            (seen again rest) result)
  | [], _, _, _, done, name, x, _, rest, _, _, hgap => by
      rw [and_iff_right (fun _ h => nomatch h), ← List.reverse_cons]
      exact (reads_gap hgap).trans (reads_mark '\x7d' closeObject (by simp [marks]) rfl)
  | (name, y) :: ys, _, depth, frames, done, before, x, gap, rest, hxs, hroom, hgap => by
      obtain ⟨hy, hys⟩ := List.forall_mem_cons.mp hxs
      obtain ⟨sep, hsep, hcomma⟩ := separator_eq hstyle depth
      have hstep : step ⟨.object done before :: frames, .comma x⟩ ⟨0, .comma⟩ =
          .ok ⟨frames, .name ((before, x) :: done)⟩ := rfl
      have hname : step ⟨frames, .name ((before, x) :: done)⟩ ⟨0, .text name⟩ =
          .ok ⟨frames, .colon ((before, x) :: done) name⟩ := rfl
      have hbehind : Closes (renderFields style depth ys ++ (gap ++ '\x7d' :: rest)) :=
        closes_renderFields hstyle depth ys hgap rfl
      have hdone : done.reverse ++ (before, x) :: (name, y) :: ys =
          ((before, x) :: done).reverse ++ (name, y) :: ys := by simp
      simp only [renderFields, hcomma, List.cons_append, List.append_assoc, List.nil_append]
      rw [reads_mark ',' Lexeme.comma (by simp [marks]) hstep, reads_gap hsep, reads_name hname,
        reads_render hstyle again result y hy (.value _) (by simp; omega) hbehind,
        reads_fields hstyle again result ys hys hroom hgap, List.forall_mem_cons, and_assoc, hdone]

end

/-! ## Texts -/

private theorem not_blank_of_starts {c : Char} {cs : List Char} {count : Nat} (h : Starts c cs lexeme count) :
    Text.isBlank c = false := by
  cases h with
  | @mark c lexeme h =>
      have hmarks : ∀ p ∈ marks, Text.isBlank p.1 = false := by simp [marks, Text.isBlank]
      exact hmarks (c, lexeme) h
  | @word c w d h rest =>
      simp only [words, List.mem_cons, List.not_mem_nil, or_false, Prod.mk.injEq] at h
      rcases h with ⟨hw, -⟩ | ⟨hw, -⟩ | ⟨hw, -⟩ <;> cases hw <;> rfl
  | text => decide
  | @number c cs d count hc h =>
      have hdigit : 48 ≤ c.toNat ∧ c.toNat ≤ 57 := by simpa [Text.isAsciiDigit] using hc
      simp [Text.isBlank]
      omega
  | negative => decide

private theorem not_all_blank_of_reads {cs : List Char} (h : Reads s cs result) (hs : s.awaiting = .value) :
    cs.all Text.isBlank ≠ true := by
  induction h with
  | @finish s d hfinish =>
      obtain ⟨frames, awaiting⟩ := s
      cases hs
      cases hfinish
  | space _ _ ih => exact fun hblank => ih hs (Bool.and_eq_true_iff.mp hblank).2
  | token hstart =>
      intro hblank
      have hc := (Bool.and_eq_true_iff.mp hblank).1
      rw [not_blank_of_starts hstart] at hc
      cases hc

theorem ofText_iff_reads {cs : List Char} :
    Source.ofText again cs = .ok d ↔ Reads start (seen again cs) d := by
  rw [ofText_eq_ok]
  refine and_iff_right_of_imp fun hreads hblank => ?_
  have hplain : ∀ c ∈ cs, c ≠ '"' ∧ c ≠ '/' := fun c hc => by
    have hc := List.all_eq_true.mp hblank c hc
    constructor <;> (rintro rfl; cases hc)
  have hseen : seen again cs = cs := by
    have h := @seen_plain again cs [] hplain
    rwa [List.append_nil, seen_nil, List.append_nil] at h
  change Reads start (seen again cs) d at hreads
  rw [hseen] at hreads
  exact not_all_blank_of_reads hreads rfl hblank

/-- The text of a document that could be read, also with white space behind it, is read as that document,
or not at all if it has a number that is not finite. -/
theorem ofText_print {tail : List Char} (hstyle : style.Spaced) (hd : d.Legible maxDepth)
    (htail : ∀ c ∈ tail, isSpace c = true) :
    Source.ofText again ((d.print style).toList ++ tail) = .ok result ↔ d.AllFinite ∧ result = d := by
  have htext : (d.print style).toList = d.render style 0 := String.toList_ofList
  have hclose : Closes tail := by
    cases tail with
    | nil => exact closes_nil
    | cons c tail =>
        rintro _ ⟨⟩
        simp [isClosing, htail c List.mem_cons_self]
  rw [htext, ofText_iff_reads]
  refine (reads_render hstyle again result d hd (.value []) (by simp) hclose).trans ?_
  refine and_congr_right fun _ => ?_
  rw [← List.append_nil tail, reads_gap htail, seen_nil, reads_nil]
  exact ⟨fun h => (Except.ok.inj h).symm, fun h => congrArg Except.ok h.symm⟩

private theorem printWith_eq_ok {indent : Yaml.Value} (hindent : indent = .null ∨ ∃ n : Nat, indent = .int n)
    (ascii : Bool) (d : Document) :
    ∃ style : Style, style.Spaced ∧ Document.printWith indent ascii d = .ok (d.print style) := by
  obtain ⟨unit, hunit, hspaces⟩ : ∃ unit, indent.indentUnit = .ok unit ∧
      ∀ u, unit = some u → ∀ c ∈ u.toList, isSpace c = true := by
    obtain rfl | ⟨n, rfl⟩ := hindent
    · exact ⟨none, rfl, fun _ h => nomatch h⟩
    · refine ⟨_, rfl, fun u hu c hc => ?_⟩
      cases hu
      rw [String.toList_ofList] at hc
      rw [(List.mem_replicate.mp hc).2]
      rfl
  by_cases hd : ∃ t, d = .string t
  · obtain ⟨t, rfl⟩ := hd
    exact ⟨⟨none, ascii⟩, fun _ h => (nomatch h), rfl⟩
  · refine ⟨⟨unit, ascii⟩, hspaces, ?_⟩
    rw [Document.printWith, hunit]
    · rfl
    · exact fun t ht => hd ⟨t, ht⟩

/-- **What is written can be read.**  A document that was read from a text can be written with every
indentation and with or without escapes; what is written is read as the same document and as no other
one if all its numbers are finite, and is not read at all otherwise. -/
theorem ofText_printWith {allowComments : Bool} {t : List Char} {d : Document}
    (hread : Source.ofText allowComments t = .ok d) {indent : Yaml.Value}
    (hindent : indent = .null ∨ ∃ n : Nat, indent = .int n) (ascii : Bool) :
    ∃ text, Document.printWith indent ascii d = .ok text ∧
      ∀ again result, Source.ofText again text.toList = .ok result ↔ d.AllFinite ∧ result = d := by
  obtain ⟨style, hstyle, hprint⟩ := printWith_eq_ok hindent ascii d
  refine ⟨d.print style, hprint, fun again result => ?_⟩
  rw [← ofText_print hstyle (legible_of_ofText hread) (fun c (hc : c ∈ []) => nomatch hc), List.append_nil]

/-- A text with an escape and a number with a point, written with two blanks for every level. -/
theorem ofText_printWith_list :
    Source.ofText false "[1.5, \"\\u00e9\"]".toList =
        .ok (.array [.float (.finite false 1023 2251799813685248), .string "é"]) ∧
      ∃ text, Document.printWith (.int 2) true
          (.array [.float (.finite false 1023 2251799813685248), .string "é"]) = .ok text ∧
        ∀ again result, Source.ofText again text.toList = .ok result ↔
          (Document.array [.float (.finite false 1023 2251799813685248), .string "é"]).AllFinite ∧
            result = .array [.float (.finite false 1023 2251799813685248), .string "é"] := by
  have hread : Source.ofText false "[1.5, \"\\u00e9\"]".toList =
      .ok (.array [.float (.finite false 1023 2251799813685248), .string "é"]) := by
    rw [ofText_iff_reads]
    change Reads start ['[', '1', '.', '5', ',', ' ', '"', '\\', 'u', '0', '0', 'e', '9', '"', ']'] _
    have hspells : Spells ['\\', 'u', '0', '0', 'e', '9', '"'] [0xe9] := .number rfl .close
    have hvalue : Binary64.ofDecimal false 15 (-1) = .finite false 1023 2251799813685248 := by decide
    refine .token (@Starts.mark '[' openList (by simp [marks]) _) rfl ?_
    refine .token (.number rfl (congrArg (fun x => (scalar (.float x), 3)) hvalue)) rfl ?_
    refine .token (@Starts.mark ',' comma (by simp [marks]) _) rfl (.space rfl ?_)
    refine .token (.text hspells [']']) rfl ?_
    exact .token (@Starts.mark ']' closeList (by simp [marks]) _) rfl (.finish rfl)
  exact ⟨hread, ofText_printWith hread (.inr ⟨2, rfl⟩) true⟩

/-- A number that is too large is read, but what is written for it is not. -/
theorem not_always_read_back :
    ¬ ∀ (t : List Char) (d : Document) (indent : Yaml.Value) (ascii : Bool),
      Source.ofText false t = .ok d → (indent = .null ∨ ∃ n : Nat, indent = .int n) →
        ∃ text, Document.printWith indent ascii d = .ok text ∧ Source.ofText false text.toList = .ok d := by
  intro h
  have hread : Source.ofText false "1e400".toList = .ok (.float (.infinite false)) := by
    rw [ofText_iff_reads]
    change Reads start ['1', 'e', '4', '0', '0'] _
    exact .token (.number rfl rfl) rfl (.finish rfl)
  obtain ⟨text, hprint, hback⟩ := h _ _ .null true hread (.inl rfl)
  cases hprint
  have hspaced : Style.Spaced ⟨none, true⟩ := fun _ h => nomatch h
  rw [← List.append_nil (String.toList _), ofText_print hspaced (.float _)
    (fun c (hc : c ∈ []) => nomatch hc)] at hback
  cases hback.1

end Proofs.ReadBack

end ReviewDiagnostics
