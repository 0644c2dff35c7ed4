import ReviewDiagnostics.Proofs.Reading
import ReviewDiagnostics.Settings.Basic

/-!
# Settings are rejected or usable

Settings that make no sense are rejected when they are put together, with a message.  All others are
usable, that is, they can be given out again, as long as what should be a name is a text.  The fix level
and the format are only looked at if they are texts, and a log level is put into upper case without being
looked at; so what is no text is noticed too late, or in a way that there is no message for.
-/

namespace ReviewDiagnostics

open Yaml (Value)

/-- What comes of it is a fault of the values that were given. -/
def Fault.Rejected {α : Type} (x : Except Fault α) : Prop :=
  ∃ fault, x = .error fault ∧ fault.className = "ValueError"

namespace Settings

/-- A section is left out, or it is a mapping with none but the given names for keys. -/
def SectionFits (known : List String) : Option Value → Prop
  | none => True
  | some (.mapping pairs _) => ∀ p ∈ pairs, ∃ name ∈ known, p.1 = .string name
  | some _ => False

/-- What a section says under a name, or what stands for it if the name or the section is left out. -/
def setting (name : String) (standard : Value) : Option Value → Value
  | some (.mapping pairs _) => valueOr pairs name standard
  | _ => standard

/-- What a section says under a name is a text. -/
def SaysText (name : String) (standard : Value) (v : Option Value) : Prop :=
  ∃ text, setting name standard v = .string text

/-- The sections of an object. -/
def sectionsOf (fields : List (String × Document)) (name : String) : Option Value :=
  (Fields.get? fields name).map Value.ofDocument

end Settings

/-- Nothing unknown is said about repairs, a fix level that is a text is one of the names, and the number
of passes is a number and not below one. -/
def FixSettings.Sensible (v : Option Value) : Prop :=
  Settings.SectionFits ["enabled", "fix_level", "max_iterations"] v ∧
    (∀ text, Settings.setting "fix_level" (.string "basic") v = .string text →
      ∃ level : FixLevel, level.name = text) ∧
    (Settings.setting "max_iterations" (.int 3) v).isNumeric = true ∧
    (Settings.setting "max_iterations" (.int 3) v).toDocument.less (.int 1) = false

/-- Nothing unknown is said about reports, and a format that is a text is one of the names. -/
def OutputSettings.Sensible (v : Option Value) : Prop :=
  Settings.SectionFits ["format", "indent", "color", "ensure_ascii"] v ∧
    ∀ text, Settings.setting "format" (.string "text") v = .string text →
      ∃ format : ReportFormat, format.name = text

/-- The log level has an upper case: it is a text, or it is bytes. -/
def LogSettings.Cased (level : String) (v : Option Value) : Prop :=
  Settings.SaysText "level" (.string level) v ∨
    ∃ bytes, Settings.setting "level" (.string level) v = .bytes bytes

namespace Settings

/-- Every section makes sense by what is looked at when settings are put together. -/
def Sensible (given : String → Option Value) : Prop :=
  SectionFits ["strict_mode", "allow_extra_fields"] (given "validation") ∧
    FixSettings.Sensible (given "fix") ∧ OutputSettings.Sensible (given "output") ∧
    SectionFits ["level", "format", "file"] (given "logging")

/-- The fix level and the format are texts, and the log level has an upper case. -/
def Named (level : String) (given : String → Option Value) : Prop :=
  LogSettings.Cased level (given "logging") ∧
    SaysText "fix_level" (.string "basic") (given "fix") ∧
    SaysText "format" (.string "text") (given "output")

/-- The settings that come of it can be given out again. -/
def Usable (x : Except Fault Settings) : Prop :=
  ∃ s pairs, x = .ok s ∧ s.toPairs = .ok pairs

end Settings

namespace Proofs.UsableSettings

open Settings
open Reading (bind_eq_ok)

variable {α β : Type} {x : Except Fault α} {f : α → Except Fault β} {P Q A B : Prop}
variable {v : Option Value} {known : List String}

/-! ## Steps that judge -/

/-- A step rejects what makes no sense.  What makes sense gives something, unless there is a part missing
to go on with. -/
inductive Judges (x : Except Fault α) (sensible complete : Prop) : Prop
  | rejects (hsensible : ¬ sensible) (hx : Fault.Rejected x)
  | lacks (hsensible : sensible) (hcomplete : ¬ complete) (hx : x = .error .noParts)
  | gives (hsensible : sensible) (hcomplete : complete) (hx : ∃ a, x = .ok a)

theorem judges_ok (a : α) : Judges (.ok a : Except Fault α) True True :=
  .gives trivial trivial ⟨a, rfl⟩

theorem judges_congr (hx : Judges x P A) (hP : Q ↔ P) (hA : B ↔ A) : Judges x Q B := by
  rwa [propext hP, propext hA]

theorem rejected_bind (h : Fault.Rejected x) : Fault.Rejected (x >>= f) := by
  obtain ⟨fault, rfl, hclass⟩ := h
  exact ⟨fault, rfl, hclass⟩

theorem judges_bind (hx : Judges x P True) (hf : ∀ a, x = .ok a → Judges (f a) Q B) :
    Judges (x >>= f) (P ∧ Q) B := by
  rcases hx with ⟨hP, hx⟩ | ⟨-, hnot, -⟩ | ⟨hP, -, a, rfl⟩
  · exact .rejects (fun h => hP h.1) (rejected_bind hx)
  · exact absurd trivial hnot
  · exact judges_congr (hf a rfl) (and_iff_right hP) Iff.rfl

theorem judges_bind_complete (hx : Judges x P A) (hf : ∀ a, x = .ok a → Judges (f a) True B) :
    Judges (x >>= f) P (A ∧ B) := by
  rcases hx with ⟨hP, hx⟩ | ⟨hP, hA, rfl⟩ | ⟨hP, hA, a, rfl⟩
  · exact .rejects hP (rejected_bind hx)
  · exact .lacks hP (fun h => hA h.1) rfl
  · exact judges_congr (hf a rfl) (iff_true_intro hP) (and_iff_right hA)

theorem rejected_iff_of_judges (h : Judges x P A) : Fault.Rejected x ↔ ¬ P := by
  rcases h with ⟨hP, hx⟩ | ⟨hP, -, rfl⟩ | ⟨hP, -, a, rfl⟩
  · exact iff_of_true hx hP
  · refine iff_of_false ?_ (not_not_intro hP)
    rintro ⟨_, ⟨⟩, hclass⟩
    exact absurd hclass (by decide)
  · refine iff_of_false ?_ (not_not_intro hP)
    rintro ⟨_, ⟨⟩, -⟩

theorem isOk_iff_of_judges (h : Judges x P A) : (∃ a, x = .ok a) ↔ P ∧ A := by
  rcases h with ⟨hP, fault, rfl, -⟩ | ⟨-, hA, rfl⟩ | ⟨hP, hA, ha⟩
  · exact iff_of_false (fun ⟨_, h⟩ => nomatch h) fun h => hP h.1
  · exact iff_of_false (fun ⟨_, h⟩ => nomatch h) fun h => hA h.2
  · exact iff_of_true ha ⟨hP, hA⟩

theorem judges_map {g : α → β} (hx : Judges x P A) : Judges (x.map g) P A := by
  rcases hx with ⟨hP, fault, rfl, hclass⟩ | ⟨hP, hA, rfl⟩ | ⟨hP, hA, a, rfl⟩
  · exact .rejects hP ⟨fault, rfl, hclass⟩
  · exact .lacks hP hA rfl
  · exact .gives hP hA ⟨g a, rfl⟩

theorem judges_bind_pure {g : α → β} (hx : Judges x P A) :
    Judges (x >>= fun a => pure (g a)) P A := by
  have hmap : (x >>= fun a => pure (g a)) = x.map g := by cases x <;> rfl
  rw [hmap]
  exact judges_map hx

/-! ## One section -/

private theorem knownName?_isSome {key : Value} :
    (knownName? known key).isSome = true ↔ ∃ name ∈ known, key = .string name := by
  unfold knownName?
  split
  · rename_i name
    by_cases h : name ∈ known <;> simp [h]
  · rename_i hkey
    simp only [Option.isSome_none, Bool.false_eq_true, false_iff, not_exists, not_and]
    exact fun name _ h => hkey name h

theorem judges_sectionPairs (known : List String) (v : Option Value) :
    Judges (sectionPairs known v) (SectionFits known v) True := by
  rw [sectionPairs.eq_def]
  split
  · exact judges_ok []
  · rename_i pairs origin
    have hall : (pairs.all fun p => (knownName? known p.1).isSome) = true ↔
        SectionFits known (some (.mapping pairs origin)) := by
      simp only [List.all_eq_true, knownName?_isSome, SectionFits]
    split
    · exact .gives (hall.mp ‹_›) trivial ⟨pairs, rfl⟩
    · exact .rejects (fun h => absurd (hall.mpr h) ‹_›) ⟨_, rfl, rfl⟩
  · rename_i w hmapping
    refine .rejects ?_ ⟨_, rfl, rfl⟩
    cases w with
    | mapping pairs origin => exact absurd rfl (hmapping pairs origin)
    | _ => exact id

theorem setting_of_sectionPairs {pairs : List (Value × Value)} (h : sectionPairs known v = .ok pairs)
    (name : String) (standard : Value) : setting name standard v = valueOr pairs name standard := by
  rw [sectionPairs.eq_def] at h
  split at h
  · cases h
    rfl
  · split at h <;> cases h
    rfl
  · cases h

theorem judges_checks (v : Option Value) :
    Judges (CheckSettings.ofValue v) (SectionFits ["strict_mode", "allow_extra_fields"] v) True :=
  judges_bind_pure (judges_sectionPairs _ v)

theorem judges_fixLevel (name : String) :
    Judges (FixLevel.ofDocument (.string name)) (∃ level : FixLevel, level.name = name) True := by
  rw [FixLevel.ofDocument.eq_def]
  split
  · rename_i h
    cases h
    exact .gives ⟨.basic, rfl⟩ trivial ⟨_, rfl⟩
  · rename_i h
    cases h
    exact .gives ⟨.aggressive, rfl⟩ trivial ⟨_, rfl⟩
  · rename_i hbasic haggressive
    refine .rejects ?_ ⟨_, rfl, rfl⟩
    rintro ⟨level, rfl⟩
    cases level with
    | basic => exact hbasic rfl
    | aggressive => exact haggressive rfl

theorem judges_checkPasses (w : Value) :
    Judges (FixSettings.checkPasses w) (w.isNumeric = true ∧ w.toDocument.less (.int 1) = false)
      True := by
  simp only [FixSettings.checkPasses]
  split
  · rename_i h
    exact .rejects (fun hw => absurd hw.1 (by simpa using h)) ⟨_, rfl, rfl⟩
  · rename_i h
    split
    · rename_i hless
      exact .rejects (fun hw => absurd (hw.2.symm.trans hless) (by decide)) ⟨_, rfl, rfl⟩
    · rename_i hless
      exact .gives ⟨by simpa using h, by simpa using hless⟩ trivial ⟨(), rfl⟩

theorem judges_fixes (v : Option Value) :
    Judges (FixSettings.ofValue v) (FixSettings.Sensible v) True := by
  refine judges_bind (judges_sectionPairs _ v) fun pairs hpairs => ?_
  have hpasses : ∀ level : Choice FixLevel, Judges (do
      FixSettings.checkPasses (valueOr pairs "max_iterations" (.int 3))
      pure (FixSettings.mk (valueOr pairs "enabled" (.bool false)) level
        (valueOr pairs "max_iterations" (.int 3)))) _ True := fun level =>
    judges_bind_pure (judges_checkPasses _)
  simp only [setting_of_sectionPairs hpairs]
  split
  · rename_i name hname
    refine judges_congr (judges_bind (judges_map (judges_fixLevel name)) fun level _ => hpasses level) ?_
      Iff.rfl
    simp only [hname, Value.string.injEq, forall_eq']
  · rename_i hname
    exact judges_congr (hpasses _) (and_iff_right fun text h => absurd h (hname text)) Iff.rfl

private theorem ofName?_eq_some {name : String} {format : ReportFormat} :
    ReportFormat.ofName? name = some format ↔ format.name = name := by
  constructor
  · unfold ReportFormat.ofName?
    split <;> rintro ⟨⟩ <;> rfl
  · rintro rfl
    cases format <;> rfl

theorem judges_output (v : Option Value) :
    Judges (OutputSettings.ofValue v) (OutputSettings.Sensible v) True := by
  refine judges_bind (judges_sectionPairs _ v) fun pairs hpairs => ?_
  simp only [setting_of_sectionPairs hpairs]
  split
  · rename_i name hname
    simp only [hname, Value.string.injEq, forall_eq', ← ofName?_eq_some]
    cases hformat : ReportFormat.ofName? name with
    | none => exact .rejects nofun ⟨_, rfl, rfl⟩
    | some format => exact .gives ⟨format, rfl⟩ trivial ⟨_, rfl⟩
  · rename_i hname
    exact .gives (fun text h => absurd h (hname text)) trivial ⟨_, rfl⟩

theorem judges_levelOf (w : Value) :
    Judges (LogSettings.levelOf w) True ((∃ text, w = .string text) ∨ ∃ bytes, w = .bytes bytes) := by
  rw [LogSettings.levelOf.eq_def]
  split
  · exact .gives trivial (.inl ⟨_, rfl⟩) ⟨_, rfl⟩
  · exact .gives trivial (.inr ⟨_, rfl⟩) ⟨_, rfl⟩
  · rename_i hstring hbytes
    refine .lacks trivial ?_ rfl
    rintro (⟨text, rfl⟩ | ⟨bytes, rfl⟩)
    · exact hstring text rfl
    · exact hbytes bytes rfl

theorem judges_log (level : String) (v : Option Value) :
    Judges (LogSettings.ofValue level v) (SectionFits ["level", "format", "file"] v)
      (LogSettings.Cased level v) := by
  have h : Judges (LogSettings.ofValue level v) (SectionFits ["level", "format", "file"] v)
      (True ∧ LogSettings.Cased level v) :=
    judges_bind_complete (judges_sectionPairs _ v) fun pairs hpairs => by
      rw [LogSettings.Cased, SaysText, setting_of_sectionPairs hpairs]
      exact judges_bind_pure (judges_levelOf _)
  rwa [true_and] at h

/-! ## Giving a section out again -/

theorem judges_fixes_toValue {s : FixSettings} (h : FixSettings.ofValue v = .ok s) :
    Judges s.toValue True (SaysText "fix_level" (.string "basic") v) := by
  obtain ⟨pairs, hpairs, h⟩ := bind_eq_ok.mp h
  rw [SaysText, setting_of_sectionPairs hpairs]
  dsimp only at h
  split at h
  · rename_i name hname
    obtain ⟨choice, hchoice, h⟩ := bind_eq_ok.mp h
    obtain ⟨_, -, h⟩ := bind_eq_ok.mp h
    cases hlevel : FixLevel.ofDocument (.string name) with
    | error fault =>
        rw [hlevel] at hchoice
        cases hchoice
    | ok level =>
        rw [hlevel] at hchoice
        cases hchoice
        cases h
        exact .gives trivial ⟨name, hname⟩ ⟨_, rfl⟩
  · rename_i hname
    obtain ⟨choice, hchoice, h⟩ := bind_eq_ok.mp h
    obtain ⟨_, -, h⟩ := bind_eq_ok.mp h
    cases hchoice
    cases h
    exact .lacks trivial (fun ⟨text, ht⟩ => hname text ht) rfl

theorem judges_output_toValue {s : OutputSettings} (h : OutputSettings.ofValue v = .ok s) :
    Judges s.toValue True (SaysText "format" (.string "text") v) := by
  obtain ⟨pairs, hpairs, h⟩ := bind_eq_ok.mp h
  rw [SaysText, setting_of_sectionPairs hpairs]
  dsimp only at h
  split at h
  · rename_i name hname
    split at h <;> cases h
    exact .gives trivial ⟨name, hname⟩ ⟨_, rfl⟩
  · rename_i hname
    cases h
    exact .lacks trivial (fun ⟨text, ht⟩ => hname text ht) rfl

/-! ## All sections -/

variable {level : String} {given : String → Option Value}

/-- Sections are judged one after the other; only the last of them can lack a part. -/
theorem judges_ofSections (level : String) (given : String → Option Value) :
    Judges (ofSections level given) (Sensible given) (LogSettings.Cased level (given "logging")) := by
  refine judges_bind (judges_checks _) fun checks _ => ?_
  refine judges_bind (judges_fixes _) fun fixes _ => ?_
  refine judges_bind (judges_output _) fun output _ => ?_
  exact judges_bind_pure (judges_log level _)

theorem judges_toPairs {s : Settings} (h : ofSections level given = .ok s) :
    Judges s.toPairs True (SaysText "fix_level" (.string "basic") (given "fix") ∧
      SaysText "format" (.string "text") (given "output")) := by
  obtain ⟨checks, -, h⟩ := bind_eq_ok.mp h
  obtain ⟨fixes, hfixes, h⟩ := bind_eq_ok.mp h
  obtain ⟨output, houtput, h⟩ := bind_eq_ok.mp h
  obtain ⟨log, -, h⟩ := bind_eq_ok.mp h
  cases h
  refine judges_bind_complete (judges_fixes_toValue hfixes) fun _ _ => ?_
  exact judges_bind_pure (judges_output_toValue houtput)

theorem judges_both (level : String) (given : String → Option Value) :
    Judges (ofSections level given >>= toPairs) (Sensible given) (Named level given) :=
  judges_bind_complete (judges_ofSections level given) fun _ h => judges_toPairs h

theorem rejected_ofSections_iff : Fault.Rejected (ofSections level given) ↔ ¬ Sensible given :=
  rejected_iff_of_judges (judges_ofSections level given)

theorem usable_ofSections_iff : Usable (ofSections level given) ↔ Sensible given ∧ Named level given := by
  refine Iff.trans ?_ (isOk_iff_of_judges (judges_both level given))
  simp only [Usable, bind_eq_ok]
  exact exists_comm

theorem rejected_or_usable_ofSections :
    Fault.Rejected (ofSections level given) ∨ Usable (ofSections level given) ↔
      (Sensible given → Named level given) := by
  rw [rejected_ofSections_iff, usable_ofSections_iff]
  exact ⟨fun h hs => h.elim (absurd hs) And.right, fun h =>
    (Classical.em (Sensible given)).elim (fun hs => .inr ⟨hs, h hs⟩) .inl⟩

theorem ofDocument_object (level : String) (fields : List (String × Document)) :
    ofDocument level (.object fields) = ofSections level (sectionsOf fields) := rfl

/-- Settings are rejected if they make no sense; if they do, they are usable as long as the names in them
are texts.  Nothing but a missing part can stop the others, when they are put together or when they are
given out again.  An object stands for the settings of its sections. -/
theorem settings_are_rejected_or_usable_iff (level : String) :
    (∀ given, Fault.Rejected (ofSections level given) ∨ Usable (ofSections level given) ↔
      (Sensible given → Named level given)) ∧
    (∀ given, Fault.Rejected (ofSections level given) ↔ ¬ Sensible given) ∧
    (∀ given, Sensible given → ¬ Named level given →
      ofSections level given >>= toPairs = .error .noParts) ∧
    ∀ fields, Fault.Rejected (ofDocument level (.object fields)) ∨
      Usable (ofDocument level (.object fields)) ↔
        (Sensible (sectionsOf fields) → Named level (sectionsOf fields)) := by
  refine ⟨fun _ => rejected_or_usable_ofSections, fun _ => rejected_ofSections_iff, ?_, fun fields => ?_⟩
  · rintro given hsensible hnamed
    cases judges_both level given with
    | rejects hnot => exact absurd hsensible hnot
    | lacks _ _ h => exact h
    | gives _ h => exact absurd h hnamed
  · rw [ofDocument_object]
    exact rejected_or_usable_ofSections

/-- A log level that is a number is neither rejected nor put to use. -/
theorem not_always_rejected_or_usable :
    ¬ ∀ level fields, Fault.Rejected (ofDocument level (.object fields)) ∨
      Usable (ofDocument level (.object fields)) := by
  intro h
  have h := h "WARNING" [("logging", .object [("level", .int 5)])]
  rw [ofDocument_object, rejected_or_usable_ofSections] at h
  have hfixes : FixSettings.Sensible none :=
    ⟨trivial, fun text htext => ⟨.basic, Value.string.inj htext⟩, rfl, rfl⟩
  have houtput : OutputSettings.Sensible none :=
    ⟨trivial, fun text htext => ⟨.text, Value.string.inj htext⟩⟩
  have hlog : SectionFits ["level", "format", "file"]
      (some (.mapping [(.string "level", .int 5)] none)) := by
    simp [SectionFits]
  have hlevel : setting "level" (.string "WARNING")
      (some (.mapping [(.string "level", .int 5)] none)) = .int 5 := by
    simp [setting, valueOr, Value.valueOf?, Value.same]
  rcases (h ⟨trivial, hfixes, houtput, hlog⟩).1 with ⟨text, htext⟩ | ⟨bytes, hbytes⟩
  · cases hlevel.symm.trans htext
  · cases hlevel.symm.trans hbytes

end Proofs.UsableSettings

end ReviewDiagnostics
