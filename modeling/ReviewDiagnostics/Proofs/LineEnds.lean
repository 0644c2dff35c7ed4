import ReviewDiagnostics.Proofs.BlankedText
import ReviewDiagnostics.Proofs.Respacing

/-!
# Line ends of files and streams

The text of a file has its line ends unified, that of a stream has not.  Outside of quotes a carriage return
is white space like a line feed, and in quotes neither can be read, so that both give the same document; but
a carriage return ends a line comment in a file only.  A stream is read as a file in which it does not stand
there.
-/

namespace ReviewDiagnostics

/-- Two sources give the same document, or both none. -/
def SameDocument (a b : Except SourceFault Document) : Prop :=
  ∀ d, a = .ok d ↔ b = .ok d

namespace Comments

/-- A line comment without carriage returns. -/
def Stretch.hushed : Stretch → Stretch
  | line w => line (w.filter (· ≠ '\r'))
  | s => s

/-- The text of stretches, without carriage returns in line comments. -/
def hushedText (ss : List Stretch) : List Char :=
  ss.flatMap fun s => s.hushed.text

/-- One stretch for another: a line comment may be any other one in which no carriage return stands before
its last character. -/
inductive Stretch.Replaces : Stretch → Stretch → Prop
  | plain (c : Char) : Replaces (.plain c) (.plain c)
  | quoted (w : List Char) : Replaces (.quoted w) (.quoted w)
  | block (w : List Char) : Replaces (.block w) (.block w)
  | line (w : List Char) {w' : List Char} (hline : '\n' ∉ w') (hreturn : '\r' ∉ w'.dropLast) :
      Replaces (.line w) (.line ('/' :: '/' :: w'))

end Comments

namespace Proofs.LineEnds

open BlankedText CommentedText Comments Lexeme ReadBack Reader Reading Respacing Source

variable {c : Char} {quoted closed : Bool} {g t t' u w w' : List Char} {s s' : Stretch} {ss : List Stretch}
  {f : Stretch → Stretch} {bytes : List UInt8} {a b x : Except SourceFault Document}

/-! ## Unified line ends -/

theorem unifyLineEnds_cons (hc : c ≠ '\r') (t : List Char) :
    unifyLineEnds (c :: t) = c :: unifyLineEnds t := by
  rw [unifyLineEnds]
  all_goals simp [hc]

theorem unifyLineEnds_return (ht : t.head? ≠ some '\n') :
    unifyLineEnds ('\r' :: t) = '\n' :: unifyLineEnds t := by
  rw [unifyLineEnds]
  rintro cs rfl
  exact ht rfl

theorem unifyLineEnds_pair (t : List Char) :
    unifyLineEnds ('\r' :: '\n' :: t) = unifyLineEnds ('\n' :: t) := rfl

theorem exists_unifyLineEnds (t : List Char) : ∃ rest, unifyLineEnds ('\r' :: t) = '\n' :: rest := by
  by_cases ht : t.head? = some '\n'
  · obtain ⟨t, rfl⟩ := List.head?_eq_some_iff.mp ht
    exact ⟨_, rfl⟩
  · exact ⟨_, unifyLineEnds_return ht⟩

theorem unifyLineEnds_of_not_mem (hw : '\r' ∉ w) (t : List Char) :
    unifyLineEnds (w ++ t) = w ++ unifyLineEnds t := by
  induction w with
  | nil => rfl
  | cons c w ih =>
      obtain ⟨hc, hw⟩ := not_or.mp (mt List.mem_cons.mpr hw)
      rw [List.cons_append, unifyLineEnds_cons (Ne.symm hc), ih hw]
      rfl

theorem unifyLineEnds_append (w : List Char) (ht : t.head? ≠ some '\n') :
    unifyLineEnds (w ++ t) = unifyLineEnds w ++ unifyLineEnds t := by
  fun_induction unifyLineEnds w with
  | case1 => rfl
  | case2 cs ih => exact congrArg ('\n' :: ·) ih
  | case3 cs hcs ih =>
      rw [List.cons_append, unifyLineEnds_return, ih]
      · rfl
      · cases cs with
        | nil => exact ht
        | cons c cs =>
            rintro ⟨⟩
            exact hcs cs rfl
  | case4 c cs _ hc ih =>
      rw [List.cons_append, unifyLineEnds_cons hc, ih]
      rfl

theorem unifyLineEnds_head?_ne (hc : c ≠ '\n') (h : t.head? ≠ some c) :
    (unifyLineEnds t).head? ≠ some c := by
  cases t with
  | nil => exact h
  | cons x t =>
      by_cases hx : x = '\r'
      · subst hx
        obtain ⟨rest, hrest⟩ := exists_unifyLineEnds t
        rw [hrest]
        exact fun heq => hc (Option.some.inj heq).symm
      · rw [unifyLineEnds_cons hx]
        exact h

theorem head?_unifyLineEnds (h : ∀ c, t.head? = some c → c = '\n') :
    ∀ c, (unifyLineEnds t).head? = some c → c = '\n' := by
  cases t with
  | nil => exact h
  | cons x t =>
      obtain rfl := h x rfl
      rw [unifyLineEnds_cons (by decide)]
      exact h

theorem not_infix_unifyLineEnds (h : ¬ ['*', '/'] <:+: w) : ¬ ['*', '/'] <:+: unifyLineEnds w := by
  induction w with
  | nil => exact h
  | cons c w ih =>
      rw [List.infix_cons_iff, not_or] at h
      obtain ⟨hfront, hbehind⟩ := h
      by_cases hc : c = '\r'
      · subst hc
        by_cases hw : w.head? = some '\n'
        · obtain ⟨w, rfl⟩ := List.head?_eq_some_iff.mp hw
          rw [unifyLineEnds_pair]
          exact ih hbehind
        · rw [unifyLineEnds_return hw, List.infix_cons_iff, not_or]
          exact ⟨by simp, ih hbehind⟩
      · rw [unifyLineEnds_cons hc, List.infix_cons_iff, not_or]
        refine ⟨fun hclose => ?_, ih hbehind⟩
        obtain ⟨rest, hrest⟩ := hclose
        obtain ⟨rfl, hmark⟩ := List.cons.inj hrest
        have hslash : (unifyLineEnds w).head? = some '/' := by rw [← hmark]; rfl
        refine unifyLineEnds_head?_ne (by decide) (fun hhead => ?_) hslash
        obtain ⟨w, rfl⟩ := List.head?_eq_some_iff.mp hhead
        exact hfront ⟨w, rfl⟩

/-! ## Texts without comments -/

theorem respaced_space {y : Char} (hc : isSpace c = true) (hy : isSpace y = true)
    (h : Respaced false (y :: t) u) : Respaced false (c :: y :: t) u := by
  generalize hct : y :: t = ct at h
  cases h with
  | done => cases hct
  | @gap g g' t u hg hg' h =>
      rw [← List.cons_append]
      exact .gap ⟨List.cons_ne_nil _ _, List.forall_mem_cons.mpr ⟨hc, hg.2⟩⟩ hg' h
  | @plain x t u _ h =>
      obtain ⟨rfl, rfl⟩ := List.cons.inj hct
      exact @Respaced.gap [c, y] [y] _ _ ⟨by simp, by simp [hc, hy]⟩ ⟨by simp, by simp [hy]⟩ h
  | opening =>
      obtain ⟨rfl, -⟩ := List.cons.inj hct
      cases hy

theorem isGap_return : IsGap ['\r'] := ⟨by simp, by simp [isSpace]⟩

theorem isGap_newline : IsGap ['\n'] := ⟨by simp, by simp [isSpace]⟩

/-- Unified line ends are other white space, or stand in quotes. -/
theorem respaced_unifyLineEnds (quoted : Bool) (t : List Char) : Respaced quoted t (unifyLineEnds t) := by
  match quoted, t with
  | quoted, [] => exact .done quoted
  | false, c :: t =>
      by_cases hc : c = '\r'
      · subst hc
        have ih := respaced_unifyLineEnds false t
        by_cases ht : t.head? = some '\n'
        · obtain ⟨t, rfl⟩ := List.head?_eq_some_iff.mp ht
          exact respaced_space rfl rfl ih
        · rw [unifyLineEnds_return ht]
          exact .gap isGap_return isGap_newline ih
      · rw [unifyLineEnds_cons hc]
        by_cases hquote : c = '"'
        · subst hquote
          exact .opening (respaced_unifyLineEnds true t)
        · exact .plain hquote (respaced_unifyLineEnds false t)
  | true, c :: t =>
      by_cases hc : c = '\r'
      · subst hc
        obtain ⟨rest, hrest⟩ := exists_unifyLineEnds t
        rw [hrest]
        exact .broken rfl rfl _ _
      · rw [unifyLineEnds_cons hc]
        by_cases hquote : c = '"'
        · subst hquote
          exact .closing (respaced_unifyLineEnds false t)
        · by_cases hslash : c = '\\'
          · subst hslash
            match t with
            | [] => exact .lone
            | x :: t =>
                by_cases hx : x = '\r'
                · subst hx
                  obtain ⟨rest, hrest⟩ := exists_unifyLineEnds t
                  rw [hrest]
                  exact .brokenEscape rfl rfl _ _
                · rw [unifyLineEnds_cons hx]
                  exact .escape (respaced_unifyLineEnds true t)
          · exact .inside hquote hslash (respaced_unifyLineEnds true t)

/-! ## Stretches -/

theorem respaced_quotes (hw : Quotes w closed) (hend : closed = false → t = []) (hhead : t'.head? = t.head?)
    (h : Respaced false (blank t) (blank (unifyLineEnds t'))) :
    Respaced true (w ++ blank t) (blankFrom .quoted (unifyLineEnds (w ++ t'))) := by
  have hnil : closed = false → t' = [] := fun hopen => by
    rw [hend hopen] at hhead
    exact List.head?_eq_none_iff.mp hhead
  induction hw with
  | close => exact .closing h
  | ends =>
      rw [hend rfl, hnil rfl]
      exact .done true
  | lone =>
      rw [hend rfl, hnil rfl]
      exact .lone
  | @escape c w closed hw ih =>
      rw [List.cons_append, List.cons_append, List.cons_append, List.cons_append, unifyLineEnds_cons (by decide)]
      by_cases hc : c = '\r'
      · subst hc
        obtain ⟨rest, hrest⟩ := exists_unifyLineEnds (w ++ t')
        rw [hrest]
        exact .brokenEscape rfl rfl _ _
      · rw [unifyLineEnds_cons hc]
        exact .escape (ih hend hnil)
  | @plain c w closed hquote hslash hw ih =>
      rw [List.cons_append, List.cons_append]
      by_cases hc : c = '\r'
      · subst hc
        obtain ⟨rest, hrest⟩ := exists_unifyLineEnds (w ++ t')
        rw [hrest]
        exact .broken rfl rfl _ _
      · rw [unifyLineEnds_cons hc, blankFrom, if_neg hslash, if_neg hquote]
        exact .inside hquote hslash (ih hend hnil)

theorem exists_gap_of_line (hline : '\n' ∉ w) (hreturn : '\r' ∉ w.dropLast)
    (hend : ∀ c, t.head? = some c → c = '\n') :
    ∃ g, (∀ c ∈ g, isSpace c = true) ∧
      blankFrom .line (unifyLineEnds (w ++ t)) = g ++ blank (unifyLineEnds t) := by
  by_cases hlast : '\r' ∈ w
  · obtain rfl | ⟨v, c, rfl⟩ := List.eq_nil_or_concat w
    · cases hlast
    · rw [List.concat_eq_append] at *
      rw [List.dropLast_concat] at hreturn
      obtain rfl : '\r' = c := by simpa [hreturn] using hlast
      have hv : '\n' ∉ v := fun hv => hline (List.mem_append_left _ hv)
      rw [List.append_assoc, List.singleton_append, unifyLineEnds_of_not_mem hreturn]
      -- a line feed that the carriage return becomes is one more space; the one that is there stays
      cases t with
      | nil =>
          refine ⟨gap (v ++ ['\n']), fun _ => isSpace_of_mem_gap, ?_⟩
          rw [gap, List.map_append]
          have hblank : blankFrom .line (v ++ ['\n']) = gap v ++ ['\n'] :=
            blank_line hv fun _ h => (Option.some.inj h).symm
          exact hblank.trans (List.append_nil _).symm
      | cons x t =>
          obtain rfl := hend x rfl
          rw [unifyLineEnds_pair]
          exact ⟨gap v, fun _ => isSpace_of_mem_gap, blank_line hv (head?_unifyLineEnds hend)⟩
  · rw [unifyLineEnds_of_not_mem hlast]
    exact ⟨gap w, fun _ => isSpace_of_mem_gap, blank_line hline (head?_unifyLineEnds hend)⟩

theorem head?_replaces (hs : s.Fits t) (hr : s.Replaces s') (t' : List Char) :
    (s'.text ++ t').head? = (s.text ++ t).head? := by
  cases hr <;> cases hs <;> rfl

theorem isGap_gap (c : Char) (w : List Char) : IsGap (gap (c :: w)) :=
  ⟨List.cons_ne_nil _ _, fun _ => isSpace_of_mem_gap⟩

theorem blank_slashes (u : List Char) : blank ('/' :: '/' :: u) = ' ' :: ' ' :: blankFrom .line u := by
  simp [blank, blankFrom]

theorem isGap_spaces (hg : ∀ c ∈ g, isSpace c = true) : IsGap (' ' :: ' ' :: g) :=
  ⟨List.cons_ne_nil _ _, by simpa [isSpace] using hg⟩

theorem blank_fits (hs : s.Fits t) : blank (s.text ++ t) = s.blanked ++ blank t :=
  blank_stretch hs

private theorem respaced_plain (hquote : c ≠ '"') (hmark : c = '/' → t.head? ≠ some '/' ∧ t.head? ≠ some '*')
    (hhead : t'.head? = t.head?) (h : Respaced false (blank t) (blank (unifyLineEnds t'))) :
    Respaced false (c :: blank t) (blank (unifyLineEnds (c :: t'))) := by
  by_cases hc : c = '\r'
  · subst hc
    by_cases hnewline : t.head? = some '\n'
    · obtain ⟨u', rfl⟩ := List.head?_eq_some_iff.mp (hhead.trans hnewline)
      obtain ⟨u, rfl⟩ := List.head?_eq_some_iff.mp hnewline
      exact respaced_space rfl rfl h
    · rw [unifyLineEnds_return (by rwa [hhead])]
      exact .gap isGap_return isGap_newline h
  · have hmark' : c = '/' →
        (unifyLineEnds t').head? ≠ some '/' ∧ (unifyLineEnds t').head? ≠ some '*' := by
      intro hslash
      rw [← hhead] at hmark
      exact ⟨unifyLineEnds_head?_ne (by decide) (hmark hslash).1,
        unifyLineEnds_head?_ne (by decide) (hmark hslash).2⟩
    have hblank : blank (c :: unifyLineEnds t') = c :: blank (unifyLineEnds t') :=
      blank_fits (.plain hquote hmark')
    rw [unifyLineEnds_cons hc, hblank]
    exact .plain hquote h

theorem respaced_stretch (hs : s.Fits t) (hr : s.Replaces s') (hhead : t'.head? = t.head?)
    (h : Respaced false (blank t) (blank (unifyLineEnds t'))) :
    Respaced false (s.blanked ++ blank t) (blank (unifyLineEnds (s'.text ++ t'))) := by
  -- Inside a comment line ends are blanked anyway; what matters is where the stretch ends.
  cases hs with
  | plain hquote hmark =>
      cases hr
      exact respaced_plain hquote hmark hhead h
  | @quoted w _ closed hw hend =>
      cases hr
      rw [blanked_quoted]
      exact .opening (respaced_quotes hw hend hhead h)
  | @line w _ hw hend =>
      cases hr with
      | @line _ w' hline hreturn =>
          rw [← hhead] at hend
          obtain ⟨g, hg, hblank⟩ := exists_gap_of_line hline hreturn hend
          simp only [Stretch.text, List.cons_append]
          rw [unifyLineEnds_cons (by decide), unifyLineEnds_cons (by decide), blank_slashes, hblank]
          exact .gap (isGap_gap '/' ('/' :: w)) (isGap_spaces hg) h
  | @block w hw =>
      cases hr
      have hblank := blank_fits (.block (not_infix_unifyLineEnds hw) (unifyLineEnds t'))
      simp only [Stretch.text, List.cons_append, List.append_assoc, List.nil_append] at hblank ⊢
      rw [unifyLineEnds_cons (by decide), unifyLineEnds_cons (by decide), unifyLineEnds_append w (by simp),
        unifyLineEnds_cons (by decide), unifyLineEnds_cons (by decide), hblank]
      exact .gap (isGap_gap _ _) (isGap_gap _ _) h
  | @openBlock w hw =>
      cases hr
      obtain rfl := List.head?_eq_none_iff.mp hhead
      have hblank := blank_fits (.openBlock (not_infix_unifyLineEnds hw))
      simp only [Stretch.text, List.append_nil] at hblank ⊢
      rw [unifyLineEnds_cons (by decide), unifyLineEnds_cons (by decide), hblank]
      exact .gap (isGap_gap _ _) (isGap_gap _ _) h

private theorem head?_of_cuts (h : Cuts t ss) (hf : ∀ s ∈ ss, s.Replaces (f s)) :
    (ss.flatMap fun s => (f s).text).head? = t.head? := by
  cases h with
  | done => rfl
  | next hs _ => exact head?_replaces hs (hf _ List.mem_cons_self) _

theorem respaced_of_cuts (h : Cuts t ss) (hf : ∀ s ∈ ss, s.Replaces (f s)) :
    Respaced false (blank t) (blank (unifyLineEnds (ss.flatMap fun s => (f s).text))) := by
  induction h with
  | done => exact .done false
  | @next s t ss hs h ih =>
      obtain ⟨hfirst, hf⟩ := List.forall_mem_cons.mp hf
      rw [blank_fits hs, List.flatMap_cons]
      exact respaced_stretch hs hfirst (head?_of_cuts h hf) (ih hf)

/-! ## Sources -/

theorem fits_of_mem (h : Cuts t ss) (hs : s ∈ ss) : ∃ t, s.Fits t := by
  induction h with
  | done => cases hs
  | next hfits _ ih =>
      obtain rfl | hs := List.mem_cons.mp hs
      · exact ⟨_, hfits⟩
      · exact ih hs

theorem replaces_hushed (hs : s.Fits t) : s.Replaces s.hushed := by
  cases hs with
  | plain => exact .plain _
  | quoted => exact .quoted _
  | block | openBlock => exact .block _
  | @line w _ hw hend =>
      have hline : '\n' ∉ w.filter (· ≠ '\r') := fun h => hw (List.mem_filter.mp h).1
      have hreturn : '\r' ∉ (w.filter (· ≠ '\r')).dropLast := fun h => by
        simpa using (List.mem_filter.mp (List.dropLast_subset _ h)).2
      exact .line _ hline hreturn

theorem replaces_self (hs : s.Fits t) (hreturn : ∀ w, s = .line w → '\r' ∉ w.dropLast) : s.Replaces s := by
  cases hs with
  | plain => exact .plain _
  | quoted => exact .quoted _
  | block | openBlock => exact .block _
  | @line w _ hw hend =>
      refine .line _ hw fun hmem => hreturn _ rfl ?_
      cases w with
      | nil => cases hmem
      | cons c w => exact List.mem_cons_of_mem _ (List.mem_cons_of_mem _ hmem)

private theorem decode_broken_mark (h : bytes = [0xef] ∨ bytes = [0xef, 0xbb]) :
    ∃ fault, Text.Utf8.decode bytes = .error fault := by
  obtain rfl | rfl := h <;> exact ⟨_, rfl⟩

theorem ofFile_of_decode {allowComments : Bool} (ht : Text.Utf8.decode bytes = .ok t) :
    ofFile allowComments bytes = ofText allowComments (unifyLineEnds t) := by
  have hmark : ¬ (bytes = [0xef] ∨ bytes = [0xef, 0xbb]) := fun h => by
    obtain ⟨fault, hfault⟩ := decode_broken_mark h
    rw [hfault] at ht
    cases ht
  unfold ofFile fileText
  rw [if_neg hmark, ht]
  rfl

theorem ofStream_of_decode {allowComments : Bool} (ht : Text.Utf8.decode bytes = .ok t) :
    ofStream allowComments bytes = ofText allowComments t := by
  unfold ofStream
  rw [ht]

theorem sameDocument_of_error {allowComments : Bool} {fault : Text.Utf8Fault}
    (h : Text.Utf8.decode bytes = .error fault) :
    SameDocument (ofFile allowComments bytes) (ofStream allowComments bytes) := by
  have hfile : ∀ d, ofFile allowComments bytes ≠ .ok d := fun d hd => by
    unfold ofFile fileText at hd
    split at hd
    · rename_i cs htext
      split at htext
      · cases htext
        cases hd
      · rw [h] at htext
        cases htext
    · cases hd
  have hstream : ∀ d, ofStream allowComments bytes ≠ .ok d := fun d hd => by
    unfold ofStream at hd
    rw [h] at hd
    cases hd
  exact fun d => iff_of_false (hfile d) (hstream d)

/-- Without comments, a text is read alike whether its line ends are unified or not. -/
theorem sameDocument_unifyLineEnds (t : List Char) :
    SameDocument (ofText false (unifyLineEnds t)) (ofText false t) := fun d => by
  rw [ofText_iff_reads, ofText_iff_reads]
  exact (reads_iff_of_respaced (respaced_unifyLineEnds false t)).symm

theorem sameDocument_of_cuts (h : Cuts t ss) (hf : ∀ s ∈ ss, s.Replaces (f s)) :
    SameDocument (ofText true (unifyLineEnds (ss.flatMap fun s => (f s).text))) (ofText true t) := fun d => by
  rw [ofText_iff_reads, ofText_iff_reads]
  exact (reads_iff_of_respaced (respaced_of_cuts h hf)).symm

theorem sameDocument_hushed (h : Cuts t ss) :
    SameDocument (ofText true (unifyLineEnds (hushedText ss))) (ofText true t) := by
  refine sameDocument_of_cuts h fun s hs => ?_
  obtain ⟨t', hfits⟩ := fits_of_mem h hs
  exact replaces_hushed hfits

/-- **A file and a stream of the same bytes.**  They give the same document, unless there are comments and
the text of the file reads otherwise without the carriage returns in its line comments; so they give the same
document if none stands in a line comment but at its end. -/
theorem file_and_stream_agree_iff (allowComments : Bool) (bytes : List UInt8) :
    (SameDocument (ofFile allowComments bytes) (ofStream allowComments bytes) ↔
      ∀ t ss, allowComments = true → Text.Utf8.decode bytes = .ok t → Cuts t ss →
        SameDocument (ofText true (unifyLineEnds t)) (ofText true (unifyLineEnds (hushedText ss)))) ∧
    ((∀ t ss w, allowComments = true → Text.Utf8.decode bytes = .ok t → Cuts t ss → .line w ∈ ss →
        '\r' ∉ w.dropLast) →
      SameDocument (ofFile allowComments bytes) (ofStream allowComments bytes)) := by
  cases hdecode : Text.Utf8.decode bytes with
  | error fault =>
      have hsame := @sameDocument_of_error bytes allowComments fault hdecode
      exact ⟨⟨fun _ t ss _ ht => (by cases ht), fun _ => hsame⟩, fun _ => hsame⟩
  | ok t =>
      rw [ofFile_of_decode hdecode, ofStream_of_decode hdecode]
      cases allowComments with
      | false =>
          have hsame := sameDocument_unifyLineEnds t
          exact ⟨⟨fun _ _ _ hcomments => Bool.noConfusion hcomments, fun _ => hsame⟩, fun _ => hsame⟩
      | true =>
          obtain ⟨ss, hss⟩ := exists_cuts t
          refine ⟨⟨fun hsame t' ss' _ ht hcuts d => ?_, fun hhushed d => ?_⟩, fun hreturn d => ?_⟩
          · cases ht
            exact (hsame d).trans (sameDocument_hushed hcuts d).symm
          · exact (hhushed t ss rfl rfl hss d).trans (sameDocument_hushed hss d)
          · have hself : ∀ s ∈ ss, s.Replaces (id s) := fun s hs => by
              obtain ⟨t', hfits⟩ := fits_of_mem hss hs
              exact replaces_self hfits fun w hw => hreturn t ss w rfl rfl hss (hw ▸ hs)
            have hsame := sameDocument_of_cuts hss hself d
            rwa [show ss.flatMap (fun s => (id s).text) = t from text_of_cuts hss] at hsame

/-- A line comment that ends with both characters, and the end of a line behind the document. -/
theorem file_and_stream_agree_on_pairs :
    let bytes := [0x2f, 0x2f, 0x0d, 0x0a, 0x31, 0x0d]
    SameDocument (ofFile true bytes) (ofStream true bytes) ∧ ofStream true bytes = .ok (.int 1) := by
  intro bytes
  have hdecode : Text.Utf8.decode bytes = .ok ['/', '/', '\r', '\n', '1', '\r'] := rfl
  have hbehind : Cuts ['\n', '1', '\r'] [.plain '\n', .plain '1', .plain '\r'] :=
    cuts_cons (by decide) (by simp) (cuts_cons (by decide) (by simp) (cuts_cons (by decide) (by simp) .done))
  have hline : Stretch.Fits (.line ['/', '/', '\r']) ['\n', '1', '\r'] := .line (by decide) (by simp)
  have hcuts : Cuts ['/', '/', '\r', '\n', '1', '\r']
      [.line ['/', '/', '\r'], .plain '\n', .plain '1', .plain '\r'] := .next hline hbehind
  refine ⟨(file_and_stream_agree_iff true _).2 fun t ss w _ ht hss hw => ?_, ?_⟩
  · cases hdecode.symm.trans ht
    obtain rfl := cuts_unique hss hcuts
    obtain rfl : w = ['/', '/', '\r'] := by simpa using hw
    decide
  · rw [ofStream_of_decode hdecode, ofText_iff_reads]
    change Reads start [' ', ' ', ' ', '\n', '1', '\r'] _
    refine .space rfl (.space rfl (.space rfl (.space rfl ?_)))
    exact .token (.number rfl rfl) rfl (.space rfl (.finish rfl))

/-- A carriage return in a line comment: it is a document in a file, and none in a stream. -/
theorem file_and_stream_disagree :
    ¬ ∀ (allowComments : Bool) (bytes : List UInt8),
      SameDocument (ofFile allowComments bytes) (ofStream allowComments bytes) := by
  intro h
  have hdecode : Text.Utf8.decode [0x2f, 0x2f, 0x0d, 0x31] = .ok ['/', '/', '\r', '1'] := rfl
  have hsame := h true [0x2f, 0x2f, 0x0d, 0x31] (.int 1)
  rw [ofFile_of_decode hdecode, ofStream_of_decode hdecode, ofText_iff_reads, ofText_iff_reads] at hsame
  have hfile : Reads start [' ', ' ', '\n', '1'] (.int 1) :=
    .space rfl (.space rfl (.space rfl (.token (.number rfl rfl) rfl (.finish rfl))))
  have hstream : Reads start [' ', ' ', ' ', ' '] (.int 1) := hsame.mp hfile
  rw [reads_space rfl, reads_space rfl, reads_space rfl, reads_space rfl, reads_nil] at hstream
  cases hstream

end Proofs.LineEnds

end ReviewDiagnostics
