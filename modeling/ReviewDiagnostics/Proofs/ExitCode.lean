import ReviewDiagnostics.Command.Run
import ReviewDiagnostics.Desk

/-!
# How a run ends

Whatever its inputs are, a run that has begun ends with the exit code zero or one.  What can keep it from
beginning are settings that cannot be loaded, for a reason that no message is made of, and a log that
cannot be set up: these faults are handled nowhere.
-/

namespace ReviewDiagnostics

open Command

namespace Desk

/-- Nothing is at the end of a path, and nothing can be. -/
def Lacks (d : Desk) (p : FilePath) : Prop :=
  ∃ cause, d.files.inspect d.here p = .error cause ∧ cause.isAbsence = true

/-- A path is looked at for settings: the given one, or a usual place with nothing at the places before
it. -/
inductive Consults (d : Desk) : Option FilePath → FilePath → Prop
  | given (p : FilePath) : Consults d (some p) p
  | usual {before after : List FilePath} {p : FilePath}
      (hplaces : ((Settings.places : ExceptT Fault Run (List FilePath)).run d).1 =
        .ok (before ++ p :: after))
      (hbefore : ∀ q ∈ before, d.Lacks q) : Consults d none p

/-- The log level that holds where none is given. -/
def usualLevel (d : Desk) : String :=
  (d.environment.lookup "RDFORMAT_LOG_LEVEL").getD "WARNING"

/-- Why settings are not loaded, where no message says so. -/
inductive Unloaded (d : Desk) : Option FilePath → Fault → Prop
  | homeless {home : String} (hhome : d.environment.lookup "HOME" = some home)
      (htilde : home.toList.head? = some '~') : Unloaded d none .homeless
  | refused {p? : Option FilePath} {p : FilePath} {cause : FileCause} (hp : d.Consults p? p)
      (hlook : d.files.inspect d.here p = .error cause) (hcause : cause.isAbsence = false) :
      Unloaded d p? (.file ⟨cause, p.shown⟩)
  | directory {p? : Option FilePath} {p : FilePath} (hp : d.Consults p? p)
      (hlook : d.files.inspect d.here p = .ok .directory) :
      Unloaded d p? (.file ⟨.isDirectory, p.shown⟩)
  /-- A value in the file makes no sense. -/
  | senseless {p? : Option FilePath} {p : FilePath} {bytes : List UInt8} {fault : Fault}
      (hp : d.Consults p? p) (hlook : d.files.inspect d.here p = .ok (.file bytes))
      (hsections : Settings.sectionsOfBytes p.shown bytes = .error fault)
      (hmessage : fault.message? = none) : Unloaded d p? fault
  /-- The log level is no text. -/
  | noLevel {p? : Option FilePath} {p : FilePath} {bytes : List UInt8}
      {sections : String → Option Yaml.Value} (hp : d.Consults p? p)
      (hlook : d.files.inspect d.here p = .ok (.file bytes))
      (hsections : Settings.sectionsOfBytes p.shown bytes = .ok sections)
      (hlevel : Settings.ofSections d.usualLevel sections = .error .noParts) : Unloaded d p? .noParts

/-- Why the file of a log cannot be opened. -/
inductive Unopened (d : Desk) : Yaml.Value → Fault → Prop
  | noPath {file : Yaml.Value} (hfile : file.truthy = true) (hpath : ∀ text, file ≠ .string text) :
      Unopened d file .wrongKind
  | directory {text : String} {fault : Fault} (htext : text ≠ "")
      (hdirectory : ((Host.prepareFor (FilePath.ofString text) : ExceptT Fault Run Unit).run d).1 =
        .error fault) : Unopened d (.string text) fault
  | file {text : String} {d' : Desk} {cause : FileCause} (htext : text ≠ "")
      (hdirectory : (Host.prepareFor (FilePath.ofString text) : ExceptT Fault Run Unit).run d =
        (.ok (), d'))
      (hopen : ((Host.append (FilePath.ofString text).collapsed "" : Run (Except FileCause Unit)).run d').1 =
        .error cause) : Unopened d (.string text) (.file ⟨cause, (FilePath.ofString text).shown⟩)

/-- Why a log cannot be set up. -/
inductive Unlogged (d : Desk) (s : LogSettings) : Fault → Prop
  /-- The level or the layout makes no sense. -/
  | basis {fault : Fault} (h : Journal.basis s.levelValue s.format = .error fault) : Unlogged d s fault
  | file {basis : Layout × Level} {fault : Fault}
      (hbasis : Journal.basis s.levelValue s.format = .ok basis) (h : d.Unopened s.file fault) :
      Unlogged d s fault

/-- Why a run does not even begin. -/
inductive Unbegun (d : Desk) (a : Arguments) : Fault → Prop
  | unloaded {fault : Fault} (h : d.Unloaded (a.config.bind Given.value?) fault) : Unbegun d a fault
  | unlogged {given : Settings} {fault : Fault}
      (hload : ((Settings.load (a.config.bind Given.value?) : ExceptT Fault Run Settings).run d).1 =
        .ok given)
      (h : d.Unlogged (override given a).log fault) : Unbegun d a fault

end Desk

namespace Proofs.ExitCode

variable {α β : Type}

/-! ## Steps at a desk -/

theorem bind_run (x : ExceptT Fault Desk.Run α) (f : α → ExceptT Fault Desk.Run β) (d : Desk) :
    (x >>= f).run d = match x.run d with
      | (.ok a, d') => (f a).run d'
      | (.error fault, d') => (.error fault, d') := by
  simp only [bind, ExceptT.bind, ExceptT.mk, ExceptT.run, StateT.bind]
  cases x d with
  | mk outcome d' => cases outcome <;> rfl

theorem lift_run (x : Desk.Run α) (d : Desk) :
    (x : ExceptT Fault Desk.Run α).run d = (.ok (x d).1, (x d).2) := rfl

/-- All that a run gives where it does not break off. -/
def Gives (P : α → Prop) (x : ExceptT Fault Desk.Run α) : Prop :=
  ∀ d a, (x.run d).1 = .ok a → P a

theorem gives_pure {P : α → Prop} {a : α} (h : P a) : Gives P (pure a) := by
  rintro d _ ⟨⟩
  exact h

theorem gives_bind {P : β → Prop} {x : ExceptT Fault Desk.Run α} {f : α → ExceptT Fault Desk.Run β}
    (h : ∀ a, Gives P (f a)) : Gives P (x >>= f) := by
  intro d b hb
  rw [bind_run] at hb
  cases hx : x.run d with
  | mk outcome d' =>
      rw [hx] at hb
      cases outcome with
      | error fault => cases hb
      | ok a => exact h a d' b hb

/-! ## Loading settings -/

/-- What a file of settings gives. -/
def settingsAt (d : Desk) (p : FilePath) : Except Fault Settings :=
  match d.files.inspect d.here p with
  | .error cause => .error (if cause.isAbsence then .missingSettings p.shown else .file ⟨cause, p.shown⟩)
  | .ok .directory => .error (.file ⟨.isDirectory, p.shown⟩)
  | .ok (.file bytes) => do Settings.ofSections d.usualLevel (← Settings.sectionsOfBytes p.shown bytes)

theorem present_run (p : FilePath) (d : Desk) :
    (Host.present p : ExceptT Fault Desk.Run Bool).run d =
      ((match d.files.inspect d.here p with
        | .ok _ => .ok true
        | .error cause => if cause.isAbsence then .ok false else .error (.file ⟨cause, p.shown⟩)), d) := by
  rw [Host.present, bind_run, lift_run]
  simp only [Host.look]
  cases d.files.inspect d.here p with
  | ok entry => rfl
  | error cause =>
      cases hcause : cause.isAbsence <;>
        simp only [Except.map, hcause, if_true, if_false, Bool.false_eq_true] <;> rfl

private theorem content_run (p : FilePath) (d : Desk) :
    (Host.atPath p (Host.content p) : ExceptT Fault Desk.Run (List UInt8)).run d =
      ((match d.files.content d.here p with
        | .ok bytes => .ok bytes
        | .error cause => .error (.file ⟨cause, p.shown⟩)), d) := by
  have hrun : (Host.atPath p (Host.content p) : ExceptT Fault Desk.Run (List UInt8)).run d =
      ((d.files.content d.here p).mapError fun cause => Fault.file ⟨cause, p.shown⟩, d) := rfl
  rw [hrun]
  cases d.files.content d.here p <;> rfl

theorem fromFile_run (p : FilePath) (d : Desk) :
    (Settings.fromFile p : ExceptT Fault Desk.Run Settings).run d = (settingsAt d p, d) := by
  rw [Settings.fromFile, bind_run, present_run, settingsAt]
  cases hlook : d.files.inspect d.here p with
  | error cause =>
      cases hcause : cause.isAbsence <;> simp only [hcause, if_true, if_false, Bool.false_eq_true]
      rfl
  | ok entry =>
      simp only [if_true]
      rw [bind_run, content_run, FileTree.content, hlook]
      cases entry with
      | directory => rfl
      | file bytes =>
          simp only []
          rw [bind_run]
          cases Settings.sectionsOfBytes p.shown bytes <;> rfl

theorem usual_run (d : Desk) :
    ∃ s, (Settings.usual : ExceptT Fault Desk.Run Settings).run d = (.ok s, d) :=
  ⟨_, rfl⟩

theorem firstPresent_append {before : List FilePath} {d : Desk} (h : ∀ q ∈ before, d.Lacks q)
    (ps : List FilePath) :
    (Settings.firstPresent (before ++ ps) : ExceptT Fault Desk.Run (Option FilePath)).run d =
      (Settings.firstPresent ps : ExceptT Fault Desk.Run (Option FilePath)).run d := by
  induction before with
  | nil => rfl
  | cons q before ih =>
      obtain ⟨⟨cause, hlook, hcause⟩, hbefore⟩ := List.forall_mem_cons.mp h
      rw [List.cons_append, Settings.firstPresent, bind_run, present_run, hlook]
      simp only [hcause, if_true, Bool.false_eq_true, if_false]
      exact ih hbefore

theorem firstPresent_cons {p : FilePath} {d : Desk} (h : ¬ d.Lacks p) (ps : List FilePath) :
    (Settings.firstPresent (p :: ps) : ExceptT Fault Desk.Run (Option FilePath)).run d =
      ((match d.files.inspect d.here p with
        | .ok _ => .ok (some p)
        | .error cause => .error (.file ⟨cause, p.shown⟩)), d) := by
  rw [Settings.firstPresent, bind_run, present_run]
  cases hlook : d.files.inspect d.here p with
  | ok entry => rfl
  | error cause =>
      have hcause : cause.isAbsence = false := Bool.eq_false_iff.mpr fun hcause => h ⟨cause, hlook, hcause⟩
      simp only [hcause, Bool.false_eq_true, if_false]

theorem exists_first_not_lacking (d : Desk) (ps : List FilePath) : (∀ p ∈ ps, d.Lacks p) ∨
    ∃ before p after, ps = before ++ p :: after ∧ (∀ q ∈ before, d.Lacks q) ∧ ¬ d.Lacks p := by
  classical
  cases hfirst : ps.find? fun p => !decide (d.Lacks p) with
  | none => exact .inl (by simpa using hfirst)
  | some p =>
      obtain ⟨hp, before, after, rfl, hbefore⟩ := List.find?_eq_some_iff_append.mp hfirst
      exact .inr ⟨before, p, after, rfl, by simpa using hbefore, by simpa using hp⟩

theorem home_run (d : Desk) :
    (Settings.home : ExceptT Fault Desk.Run FilePath).run d =
      ((match d.environment.lookup "HOME" with
        | none => .ok ⟨"", []⟩
        | some s =>
          if s.toList.head? = some '~' then .error .homeless
          else .ok (if s.toList.all (· = '/') then ⟨"/", []⟩ else FilePath.ofString s)), d) := by
  rw [Settings.home, bind_run, lift_run]
  simp only [Host.environment?]
  cases d.environment.lookup "HOME" with
  | none => rfl
  | some s =>
      simp only []
      split
      · rfl
      · split <;> rfl

theorem places_of_homeless {d : Desk} {home : String} (hhome : d.environment.lookup "HOME" = some home)
    (htilde : home.toList.head? = some '~') :
    (Settings.places : ExceptT Fault Desk.Run (List FilePath)).run d = (.error .homeless, d) := by
  rw [Settings.places, bind_run, home_run, hhome]
  simp only [htilde, if_true]

theorem places_cases (d : Desk) :
    (∃ home, d.environment.lookup "HOME" = some home ∧ home.toList.head? = some '~') ∨
      ∃ ps, (Settings.places : ExceptT Fault Desk.Run (List FilePath)).run d = (.ok ps, d) := by
  rw [Settings.places, bind_run, home_run]
  cases hlookup : d.environment.lookup "HOME" with
  | none => exact .inr ⟨_, rfl⟩
  | some home =>
      by_cases htilde : home.toList.head? = some '~'
      · exact .inl ⟨home, rfl, htilde⟩
      · exact .inr ⟨_, by simp only [htilde, if_false]; rfl⟩

theorem places_keeps {d : Desk} {ps : List FilePath}
    (h : ((Settings.places : ExceptT Fault Desk.Run (List FilePath)).run d).1 = .ok ps) :
    (Settings.places : ExceptT Fault Desk.Run (List FilePath)).run d = (.ok ps, d) := by
  rcases places_cases d with ⟨home, hhome, htilde⟩ | ⟨_, hrun⟩
  · rw [places_of_homeless hhome htilde] at h
    cases h
  · rw [hrun] at h ⊢
    cases h
    rfl

theorem load_of_homeless {d : Desk} {home : String} (hhome : d.environment.lookup "HOME" = some home)
    (htilde : home.toList.head? = some '~') :
    (Settings.load none : ExceptT Fault Desk.Run Settings).run d = (.error .homeless, d) := by
  rw [Settings.load, bind_run, places_of_homeless hhome htilde]

theorem load_of_consults {d : Desk} {p? : Option FilePath} {p : FilePath} (h : d.Consults p? p)
    (hp : ¬ d.Lacks p) :
    (Settings.load p? : ExceptT Fault Desk.Run Settings).run d = (settingsAt d p, d) := by
  cases h with
  | given => exact fromFile_run p d
  | usual hplaces hbefore =>
      rw [Settings.load, bind_run, places_keeps hplaces]
      simp only []
      rw [bind_run, firstPresent_append hbefore, firstPresent_cons hp]
      cases hlook : d.files.inspect d.here p with
      | ok entry => exact fromFile_run p d
      | error cause =>
          have hcause : cause.isAbsence = false :=
            Bool.eq_false_iff.mpr fun hcause => hp ⟨cause, hlook, hcause⟩
          simp only [settingsAt, hlook, hcause, Bool.false_eq_true, if_false]

theorem load_cases (p? : Option FilePath) (d : Desk) :
    (∃ p, d.Consults p? p ∧
        (Settings.load p? : ExceptT Fault Desk.Run Settings).run d = (settingsAt d p, d)) ∨
      (∃ s, (Settings.load p? : ExceptT Fault Desk.Run Settings).run d = (.ok s, d)) ∨
      p? = none ∧ (∃ home, d.environment.lookup "HOME" = some home ∧ home.toList.head? = some '~') ∧
        (Settings.load p? : ExceptT Fault Desk.Run Settings).run d = (.error .homeless, d) := by
  cases p? with
  | some p => exact .inl ⟨p, .given p, fromFile_run p d⟩
  | none =>
      rcases places_cases d with ⟨home, hhome, htilde⟩ | ⟨ps, hplaces⟩
      · exact .inr (.inr ⟨rfl, ⟨home, hhome, htilde⟩, load_of_homeless hhome htilde⟩)
      · rcases exists_first_not_lacking d ps with hall | ⟨before, p, after, rfl, hbefore, hp⟩
        · obtain ⟨s, hs⟩ := usual_run d
          refine .inr (.inl ⟨s, ?_⟩)
          have hnone := firstPresent_append hall []
          rw [List.append_nil] at hnone
          rw [Settings.load, bind_run, hplaces]
          simp only []
          rw [bind_run, hnone]
          exact hs
        · have hconsults : d.Consults none p := .usual (by rw [hplaces]) hbefore
          exact .inl ⟨p, hconsults, load_of_consults hconsults hp⟩

theorem load_keeps (p? : Option FilePath) (d : Desk) :
    ((Settings.load p? : ExceptT Fault Desk.Run Settings).run d).2 = d := by
  rcases load_cases p? d with ⟨_, _, hrun⟩ | ⟨_, hrun⟩ | ⟨_, _, hrun⟩ <;> rw [hrun]

/-! ## Faults without a message -/

theorem sectionPairs_fault {known : List String} {v : Option Yaml.Value} {fault : Fault}
    (h : Settings.sectionPairs known v = .error fault) : fault = .invalidSettings := by
  rw [Settings.sectionPairs.eq_def] at h
  split at h
  · cases h
  · split at h <;> cases h
    rfl
  · cases h
    rfl

theorem bind_eq_error {x : Except Fault α} {f : α → Except Fault β} {fault : Fault} :
    x >>= f = .error fault ↔ x = .error fault ∨ ∃ a, x = .ok a ∧ f a = .error fault := by
  cases x <;> simp [bind, Except.bind]

theorem checks_fault {v : Option Yaml.Value} {fault : Fault} (h : CheckSettings.ofValue v = .error fault) :
    fault.message?.isSome = true := by
  rcases bind_eq_error.mp h with h | ⟨pairs, -, h⟩
  · rw [sectionPairs_fault h]
    rfl
  · cases h

theorem checkPasses_fault {v : Yaml.Value} {fault : Fault} (h : FixSettings.checkPasses v = .error fault) :
    fault.message?.isSome = true := by
  simp only [FixSettings.checkPasses] at h
  split at h
  · cases h
    rfl
  · split at h <;> cases h
    rfl

theorem fixLevel_fault {d : Document} {fault : Fault} (h : FixLevel.ofDocument d = .error fault) :
    fault.message?.isSome = true := by
  rw [FixLevel.ofDocument.eq_def] at h
  split at h <;> cases h
  rfl

theorem fixes_fault {v : Option Yaml.Value} {fault : Fault} (h : FixSettings.ofValue v = .error fault) :
    fault.message?.isSome = true := by
  rcases bind_eq_error.mp h with h | ⟨pairs, -, h⟩
  · rw [sectionPairs_fault h]
    rfl
  have hpasses : ∀ {level : Choice FixLevel} {enabled passes : Yaml.Value},
      (do FixSettings.checkPasses passes; pure (FixSettings.mk enabled level passes)) = .error fault →
        fault.message?.isSome = true := fun h => by
    rcases bind_eq_error.mp h with h | ⟨_, -, h⟩
    · exact checkPasses_fault h
    · cases h
  dsimp only at h
  split at h
  · rename_i name _
    rcases bind_eq_error.mp h with h | ⟨level, -, h⟩
    · cases hlevel : FixLevel.ofDocument (.string name) with
      | ok l => rw [hlevel] at h; cases h
      | error f =>
          rw [hlevel] at h
          cases h
          exact fixLevel_fault hlevel
    · exact hpasses h
  · exact hpasses h

theorem output_fault {v : Option Yaml.Value} {fault : Fault}
    (h : OutputSettings.ofValue v = .error fault) : fault.message?.isSome = true := by
  rcases bind_eq_error.mp h with h | ⟨pairs, -, h⟩
  · rw [sectionPairs_fault h]
    rfl
  dsimp only at h
  split at h
  · split at h <;> cases h
    rfl
  · cases h

theorem log_fault {level : String} {v : Option Yaml.Value} {fault : Fault}
    (h : LogSettings.ofValue level v = .error fault) : fault.message?.isSome = true ∨ fault = .noParts := by
  rcases bind_eq_error.mp h with h | ⟨pairs, -, h⟩
  · rw [sectionPairs_fault h]
    exact .inl rfl
  rcases bind_eq_error.mp h with h | ⟨choice, -, h⟩
  · rw [LogSettings.levelOf.eq_def] at h
    split at h <;> cases h
    exact .inr rfl
  · cases h

theorem sections_fault {level : String} {given : String → Option Yaml.Value} {fault : Fault}
    (h : Settings.ofSections level given = .error fault) :
    fault.message?.isSome = true ∨ fault = .noParts := by
  rw [Settings.ofSections] at h
  rcases bind_eq_error.mp h with h | ⟨checks, -, h⟩
  · exact .inl (checks_fault h)
  rcases bind_eq_error.mp h with h | ⟨fixes, -, h⟩
  · exact .inl (fixes_fault h)
  rcases bind_eq_error.mp h with h | ⟨output, -, h⟩
  · exact .inl (output_fault h)
  rcases bind_eq_error.mp h with h | ⟨log, -, h⟩
  · exact log_fault h
  · cases h

theorem not_lacks_of_ok {d : Desk} {p : FilePath} {entry : Entry}
    (hlook : d.files.inspect d.here p = .ok entry) : ¬ d.Lacks p := by
  rintro ⟨cause, hnone, -⟩
  cases hlook.symm.trans hnone

private theorem not_lacks_of_refused {d : Desk} {p : FilePath} {cause : FileCause}
    (hlook : d.files.inspect d.here p = .error cause) (hcause : cause.isAbsence = false) :
    ¬ d.Lacks p := by
  rintro ⟨other, hother, habsence⟩
  cases hlook.symm.trans hother
  cases hcause.symm.trans habsence

theorem load_of_unloaded {d : Desk} {p? : Option FilePath} {fault : Fault} (h : d.Unloaded p? fault) :
    fault.message? = none ∧
      ((Settings.load p? : ExceptT Fault Desk.Run Settings).run d).1 = .error fault := by
  cases h with
  | homeless hhome htilde =>
      rw [load_of_homeless hhome htilde]
      exact ⟨rfl, rfl⟩
  | @refused _ p cause hp hlook hcause =>
      rw [load_of_consults hp (not_lacks_of_refused hlook hcause), settingsAt, hlook]
      simp only [hcause, Bool.false_eq_true, if_false, and_true]
      cases cause <;> first | rfl | cases hcause
  | directory hp hlook =>
      rw [load_of_consults hp (not_lacks_of_ok hlook), settingsAt, hlook]
      exact ⟨rfl, rfl⟩
  | senseless hp hlook hsections hmessage =>
      rw [load_of_consults hp (not_lacks_of_ok hlook), settingsAt, hlook]
      exact ⟨hmessage, bind_eq_error.mpr (.inl hsections)⟩
  | noLevel hp hlook hsections hlevel =>
      rw [load_of_consults hp (not_lacks_of_ok hlook), settingsAt, hlook]
      exact ⟨rfl, bind_eq_error.mpr (.inr ⟨_, hsections, hlevel⟩)⟩

private theorem unloaded_of_settingsAt {d : Desk} {p? : Option FilePath} {p : FilePath} {fault : Fault}
    (hp : d.Consults p? p) (hmessage : fault.message? = none) (h : settingsAt d p = .error fault) :
    d.Unloaded p? fault := by
  simp only [settingsAt] at h
  split at h
  · rename_i cause hlook
    cases hcause : cause.isAbsence with
    | true =>
        simp only [hcause, if_true] at h
        cases h
        cases hmessage
    | false =>
        simp only [hcause, Bool.false_eq_true, if_false] at h
        cases h
        exact .refused hp hlook hcause
  · rename_i hlook
    cases h
    exact .directory hp hlook
  · rename_i bytes hlook
    rcases bind_eq_error.mp h with hsections | ⟨sections, hsections, hlevel⟩
    · exact .senseless hp hlook hsections hmessage
    · rcases sections_fault hlevel with hsome | rfl
      · rw [hmessage] at hsome
        cases hsome
      · exact .noLevel hp hlook hsections hlevel

/-- The faults of loading that there is no message for. -/
theorem unloaded_iff {d : Desk} {p? : Option FilePath} {fault : Fault} :
    d.Unloaded p? fault ↔ fault.message? = none ∧
      ((Settings.load p? : ExceptT Fault Desk.Run Settings).run d).1 = .error fault := by
  refine ⟨load_of_unloaded, ?_⟩
  rintro ⟨hmessage, hload⟩
  rcases load_cases p? d with ⟨p, hp, hrun⟩ | ⟨s, hrun⟩ | ⟨rfl, ⟨home, hhome, htilde⟩, hrun⟩
  · rw [hrun] at hload
    exact unloaded_of_settingsAt hp hmessage hload
  · rw [hrun] at hload
    cases hload
  · rw [hrun] at hload
    cases hload
    exact .homeless hhome htilde

/-! ## Setting up the log -/

theorem setUp_run (j : Journal) (level format file : Yaml.Value) (console : Bool) (d : Desk) :
    (j.setUp level format file console : Desk.Run (Journal × Except Fault Unit)).run d =
      match Journal.basis level format with
      | .error fault => ((j, .error fault), d)
      | .ok (layout, threshold) =>
        match (Journal.openFile file : ExceptT Fault Desk.Run (Option FilePath)).run d with
        | (.error fault, d') => ((⟨threshold, layout, console, none⟩, .error fault), d')
        | (.ok p?, d') => ((⟨threshold, layout, console, p?⟩, .ok ()), d') := by
  rw [Journal.setUp]
  cases Journal.basis level format with
  | error fault => rfl
  | ok basis =>
      obtain ⟨layout, threshold⟩ := basis
      simp only [bind, StateT.bind, StateT.run]
      cases (Journal.openFile file : ExceptT Fault Desk.Run (Option FilePath)).run d with
      | mk outcome d' => cases outcome <;> rfl

theorem openFile_run {text : String} (htext : text ≠ "") (d : Desk) :
    (Journal.openFile (.string text) : ExceptT Fault Desk.Run (Option FilePath)).run d =
      match (Host.prepareFor (FilePath.ofString text) : ExceptT Fault Desk.Run Unit).run d with
      | (.error fault, d') => (.error fault, d')
      | (.ok (), d') =>
        match (Host.append (FilePath.ofString text).collapsed "" : Desk.Run (Except FileCause Unit)).run d'
        with
        | (.error cause, d'') => (.error (.file ⟨cause, (FilePath.ofString text).shown⟩), d'')
        | (.ok (), d'') => (.ok (some (FilePath.ofString text).collapsed), d'') := by
  have htruthy : (Yaml.Value.string text).truthy = true := bne_iff_ne.mpr htext
  rw [Journal.openFile, if_pos htruthy]
  simp only []
  rw [bind_run]
  cases (Host.prepareFor (FilePath.ofString text) : ExceptT Fault Desk.Run Unit).run d with
  | mk outcome d' =>
      cases outcome with
      | error fault => rfl
      | ok =>
          simp only []
          rw [bind_run]
          simp only [Host.atPath, ExceptT.mk, ExceptT.run, bind, StateT.bind, StateT.run]
          cases (Host.append (FilePath.ofString text).collapsed "" : Desk.Run (Except FileCause Unit)) d' with
          | mk outcome d'' => cases outcome <;> rfl

theorem openFile_of_unopened {d : Desk} {file : Yaml.Value} {fault : Fault} (h : d.Unopened file fault) :
    ((Journal.openFile file : ExceptT Fault Desk.Run (Option FilePath)).run d).1 = .error fault := by
  cases h with
  | noPath hfile hpath =>
      rw [Journal.openFile, if_pos hfile]
      · rfl
      · exact hpath
  | directory htext hdirectory =>
      rw [openFile_run htext]
      split
      · rename_i hrun
        rw [hrun] at hdirectory
        cases hdirectory
        rfl
      · rename_i hrun
        rw [hrun] at hdirectory
        cases hdirectory
  | file htext hdirectory hopen =>
      rw [openFile_run htext, hdirectory]
      simp only []
      split
      · rename_i hrun
        rw [hrun] at hopen
        cases hopen
        rfl
      · rename_i hrun
        rw [hrun] at hopen
        cases hopen

private theorem unopened_of_text {d : Desk} {text : String} {fault : Fault} (htext : text ≠ "")
    (h : ((Journal.openFile (.string text) : ExceptT Fault Desk.Run (Option FilePath)).run d).1 =
      .error fault) : d.Unopened (.string text) fault := by
  rw [openFile_run htext] at h
  split at h
  · rename_i hrun
    cases h
    exact .directory htext (by rw [hrun])
  · rename_i hrun
    split at h
    · rename_i hopen
      cases h
      exact .file htext hrun (by rw [hopen])
    · cases h

theorem unopened_iff {d : Desk} {file : Yaml.Value} {fault : Fault} :
    d.Unopened file fault ↔
      ((Journal.openFile file : ExceptT Fault Desk.Run (Option FilePath)).run d).1 = .error fault := by
  refine ⟨openFile_of_unopened, fun h => ?_⟩
  by_cases hfile : file.truthy = true
  · by_cases hpath : ∃ text, file = .string text
    · obtain ⟨text, rfl⟩ := hpath
      exact unopened_of_text (bne_iff_ne.mp hfile) h
    · have hpath : ∀ text, file ≠ .string text := fun text htext => hpath ⟨text, htext⟩
      rw [Journal.openFile, if_pos hfile] at h
      · cases h
        exact .noPath hfile hpath
      · exact hpath
  · rw [Journal.openFile.eq_def, if_neg hfile] at h
    cases h

theorem unlogged_iff {d : Desk} {s : LogSettings} {fault : Fault} :
    d.Unlogged s fault ↔
      ((Journal.silent.setUp s.levelValue s.format s.file true : Desk.Run (Journal × Except Fault Unit)).run
        d).1.2 = .error fault := by
  rw [setUp_run]
  cases hbasis : Journal.basis s.levelValue s.format with
  | error f =>
      constructor
      · intro h
        cases h with
        | basis h =>
            cases hbasis.symm.trans h
            rfl
        | file hok => cases hbasis.symm.trans hok
      · intro h
        cases h
        exact .basis hbasis
  | ok basis =>
      have hunopened := @unopened_iff d s.file fault
      obtain ⟨layout, threshold⟩ := basis
      cases hopen : (Journal.openFile s.file : ExceptT Fault Desk.Run (Option FilePath)).run d with
      | mk outcome d' =>
          rw [hopen] at hunopened
          have hunlogged : d.Unlogged s fault ↔ d.Unopened s.file fault := by
            refine ⟨fun h => ?_, .file hbasis⟩
            cases h with
            | basis h => cases hbasis.symm.trans h
            | file _ h => exact h
          rw [hunlogged, hunopened]
          cases outcome <;> simp

/-! ## Runs -/

theorem gives_run (s : Setup) :
    Gives (fun code => code = 0 ∨ code = 1) (run s : ExceptT Fault Desk.Run Nat) := by
  rw [run]
  refine gives_bind fun shows => ?_
  dsimp only
  split
  · exact gives_bind fun _ => gives_pure (.inr rfl)
  · refine gives_bind fun outcomes => ?_
    have hcode : Gives (fun code => code = 0 ∨ code = 1)
        (pure (if outcomes.all InputOutcome.valid then 0 else 1) : ExceptT Fault Desk.Run Nat) :=
      gives_pure (by split <;> simp)
    split <;> exact gives_bind fun _ => hcode

private theorem settle_run (s : Setup) (outcome : Except Fault Nat) (d : Desk) :
    ((settle s outcome : Desk.Run Nat).run d).1 = (match outcome with
      | .ok code => code
      | .error _ => 1) := by
  cases outcome with
  | ok code => rfl
  | error fault =>
      rw [settle]
      cases fault.systemFault? <;> rfl

theorem settles (s : Setup) {x : ExceptT Fault Desk.Run Nat} (hx : Gives (fun code => code = 0 ∨ code = 1) x)
    (d : Desk) :
    ((do return .ok (← settle s (← x.run)) : Desk.Run (Except Fault Nat)).run d).1 = .ok 0 ∨
      ((do return .ok (← settle s (← x.run)) : Desk.Run (Except Fault Nat)).run d).1 = .ok 1 := by
  have hcode := settle_run s (x.run d).1 (x.run d).2
  change Except.ok ((settle s (x.run d).1 : Desk.Run Nat).run (x.run d).2).1 = .ok 0 ∨
    Except.ok ((settle s (x.run d).1 : Desk.Run Nat).run (x.run d).2).1 = .ok 1
  rw [hcode]
  cases hbody : (x.run d).1 with
  | error fault => exact .inr rfl
  | ok code => exact (hx d code hbody).imp (congrArg Except.ok) (congrArg Except.ok)

section Execution

variable {args : List String} {a : Arguments} {d : Desk}

theorem execute_of_load_error (h : Arguments.ofList args = .ok a) {fault : Fault}
    (hload : ((Settings.load (a.config.bind Given.value?) : ExceptT Fault Desk.Run Settings).run d).1 =
      .error fault) :
    ((execute args : Desk.Run (Except Fault Nat)).run d).1 =
      if fault.message?.isSome then .ok 1 else .error fault := by
  cases hrun : (Settings.load (a.config.bind Given.value?) : ExceptT Fault Desk.Run Settings).run d with
  | mk outcome d' =>
      rw [hrun] at hload
      cases hload
      simp only [execute, h, bind, StateT.bind, StateT.run, hrun]
      cases fault.message? <;> rfl

theorem execute_of_load (h : Arguments.ofList args = .ok a) {given : Settings}
    (hload : ((Settings.load (a.config.bind Given.value?) : ExceptT Fault Desk.Run Settings).run d).1 =
      .ok given) :
    match ((Journal.silent.setUp (override given a).log.levelValue (override given a).log.format
        (override given a).log.file true : Desk.Run (Journal × Except Fault Unit)).run d).1.2 with
    | .error fault => ((execute args : Desk.Run (Except Fault Nat)).run d).1 = .error fault
    | .ok () => ((execute args : Desk.Run (Except Fault Nat)).run d).1 = .ok 0 ∨
        ((execute args : Desk.Run (Except Fault Nat)).run d).1 = .ok 1 := by
  have hrun : (Settings.load (a.config.bind Given.value?) : ExceptT Fault Desk.Run Settings).run d =
      (.ok given, d) := Prod.ext hload (load_keeps _ d)
  simp only [execute, h, bind, StateT.bind, StateT.run, hrun]
  cases hsetUp : (Journal.silent.setUp (override given a).log.levelValue (override given a).log.format
      (override given a).log.file true : Desk.Run (Journal × Except Fault Unit)) d with
  | mk outcome d' =>
      obtain ⟨journal, outcome⟩ := outcome
      cases outcome with
      | error fault => rfl
      | ok =>
          simp only []
          exact settles ⟨a, override given a, journal⟩ (gives_run _) d'

theorem unbegun_iff_of_load_error {fault other : Fault}
    (hload : ((Settings.load (a.config.bind Given.value?) : ExceptT Fault Desk.Run Settings).run d).1 =
      .error fault) : d.Unbegun a other ↔ other.message? = none ∧ other = fault := by
  constructor
  · intro hother
    cases hother with
    | unloaded hunloaded =>
        obtain ⟨hmessage, hother⟩ := unloaded_iff.mp hunloaded
        exact ⟨hmessage, Except.error.inj (hother.symm.trans hload)⟩
    | unlogged hgiven => cases hgiven.symm.trans hload
  · rintro ⟨hmessage, rfl⟩
    exact .unloaded (unloaded_iff.mpr ⟨hmessage, hload⟩)

theorem unbegun_iff_of_load {given : Settings} {other : Fault}
    (hload : ((Settings.load (a.config.bind Given.value?) : ExceptT Fault Desk.Run Settings).run d).1 =
      .ok given) : d.Unbegun a other ↔ d.Unlogged (override given a).log other := by
  refine ⟨fun hother => ?_, .unlogged hload⟩
  cases hother with
  | unloaded hunloaded => cases hload.symm.trans (unloaded_iff.mp hunloaded).2
  | unlogged hgiven h =>
      cases hload.symm.trans hgiven
      exact h

end Execution

/-- A run ends with zero, with one, or with a fault that kept it from beginning. -/
theorem execute_cases {args : List String} {a : Arguments} (h : Arguments.ofList args = .ok a) (d : Desk) :
    ((((execute args : Desk.Run (Except Fault Nat)).run d).1 = .ok 0 ∨
        ((execute args : Desk.Run (Except Fault Nat)).run d).1 = .ok 1) ∧ ∀ fault, ¬ d.Unbegun a fault) ∨
      ∃ fault, ((execute args : Desk.Run (Except Fault Nat)).run d).1 = .error fault ∧
        ∀ other, d.Unbegun a other ↔ other = fault := by
  cases hload : ((Settings.load (a.config.bind Given.value?) : ExceptT Fault Desk.Run Settings).run d).1 with
  | error fault =>
      have hresult := execute_of_load_error h hload
      cases hmessage : fault.message? with
      | some message =>
          rw [hmessage] at hresult
          refine .inl ⟨.inr hresult, fun other hother => ?_⟩
          obtain ⟨hnone, rfl⟩ := (unbegun_iff_of_load_error hload).mp hother
          cases hmessage.symm.trans hnone
      | none =>
          rw [hmessage] at hresult
          refine .inr ⟨fault, hresult, fun other => (unbegun_iff_of_load_error hload).trans ?_⟩
          exact ⟨And.right, fun heq => ⟨heq ▸ hmessage, heq⟩⟩
  | ok given =>
      have hresult := execute_of_load h hload
      split at hresult
      · rename_i fault hsetUp
        refine .inr ⟨fault, hresult, fun other => (unbegun_iff_of_load hload).trans (unlogged_iff.trans ?_)⟩
        rw [hsetUp]
        exact ⟨fun heq => (Except.error.inj heq).symm, fun heq => heq ▸ rfl⟩
      · rename_i hsetUp
        refine .inl ⟨hresult, fun other hother => ?_⟩
        have hfault := unlogged_iff.mp ((unbegun_iff_of_load hload).mp hother)
        rw [hsetUp] at hfault
        cases hfault

/-- **How a run ends.**  It ends with the exit code zero or one, unless settings cannot be loaded for a reason
that no message is made of, or the log cannot be set up; then it ends with that fault. -/
theorem execute_settles {args : List String} {a : Arguments} (h : Arguments.ofList args = .ok a)
    (d : Desk) :
    (((execute args : Desk.Run (Except Fault Nat)).run d).1 = .ok 0 ∨
        ((execute args : Desk.Run (Except Fault Nat)).run d).1 = .ok 1 ↔
      ∀ fault, ¬ d.Unbegun a fault) ∧
    ∀ fault, ((execute args : Desk.Run (Except Fault Nat)).run d).1 = .error fault ↔ d.Unbegun a fault := by
  rcases execute_cases h d with ⟨hcode, hbegun⟩ | ⟨fault, hresult, hunbegun⟩
  · refine ⟨⟨fun _ => hbegun, fun _ => hcode⟩, fun fault => ⟨fun hresult => ?_, fun h => (hbegun fault h).elim⟩⟩
    rcases hcode with hcode | hcode <;> cases hcode.symm.trans hresult
  · refine ⟨⟨fun hcode => ?_, fun hall => (hall fault ((hunbegun fault).mpr rfl)).elim⟩, fun other => ?_⟩
    · rcases hcode with hcode | hcode <;> cases hresult.symm.trans hcode
    · rw [hunbegun, hresult]
      exact ⟨fun heq => (Except.error.inj heq).symm, fun heq => heq ▸ rfl⟩

/-- A run does not begin with a directory for the file of settings; with a path that leads nowhere it is
told so. -/
theorem execute_settles_missing : (∃ a, Arguments.ofList ["-c", "."] = .ok a ∧
      (Desk.ofFiles [] []).Unbegun a (.file ⟨.isDirectory, "."⟩)) ∧
    ∃ a, Arguments.ofList ["-c", "none"] = .ok a ∧ ∀ fault, ¬ (Desk.ofFiles [] []).Unbegun a fault :=
  ⟨⟨_, rfl, ((@execute_settles ["-c", "."] _ rfl (Desk.ofFiles [] [])).2 _).mp rfl⟩,
    ⟨_, rfl, (@execute_settles ["-c", "none"] _ rfl (Desk.ofFiles [] [])).1.mp (.inr rfl)⟩⟩

/-- A run does not always end with zero or one: not with a directory for the file of settings. -/
theorem not_always_settled : ¬ ∀ (args : List String) (a : Arguments) (d : Desk),
    Arguments.ofList args = .ok a →
      ((execute args : Desk.Run (Except Fault Nat)).run d).1 = .ok 0 ∨
        ((execute args : Desk.Run (Except Fault Nat)).run d).1 = .ok 1 := by
  intro h
  have hresult : ((execute ["-c", "."] : Desk.Run (Except Fault Nat)).run (Desk.ofFiles [] [])).1 =
      .error (.file ⟨.isDirectory, "."⟩) := rfl
  rcases h ["-c", "."] _ (Desk.ofFiles [] []) rfl with hcode | hcode <;> cases hresult.symm.trans hcode

end Proofs.ExitCode

end ReviewDiagnostics
