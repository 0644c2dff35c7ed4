import ReviewDiagnostics.Finding.Message
import ReviewDiagnostics.Logging.Event

/-!
# Outcomes of checks

What checking a part of a document gives.  Outcomes of parts that are checked one after the other are
appended; the first fault counts.
-/

namespace ReviewDiagnostics

/-- Findings, notices, events and possibly a reason why the check cannot be carried out. -/
structure Outcome where
  errors : List Finding
  warnings : List Notice
  events : List Event
  fault : Option Fault

namespace Outcome

/-- Nothing was found. -/
def clean : Outcome := ⟨[], [], [], none⟩

def ofError (f : Finding) : Outcome := { clean with errors := [f] }

def ofWarning (n : Notice) : Outcome := { clean with warnings := [n] }

def ofFault (f : Fault) : Outcome := { clean with fault := some f }

/-- First one part, then another. -/
def append (a b : Outcome) : Outcome where
  errors := a.errors ++ b.errors
  warnings := a.warnings ++ b.warnings
  events := a.events ++ b.events
  fault := a.fault.or b.fault

instance : Append Outcome := ⟨append⟩

/-- Several parts in order. -/
def join (outcomes : List Outcome) : Outcome :=
  outcomes.foldr append clean

@[simp] theorem errors_append (a b : Outcome) : (a ++ b).errors = a.errors ++ b.errors := rfl

@[simp] theorem warnings_append (a b : Outcome) : (a ++ b).warnings = a.warnings ++ b.warnings := rfl

@[simp] theorem events_append (a b : Outcome) : (a ++ b).events = a.events ++ b.events := rfl

@[simp] theorem fault_append (a b : Outcome) : (a ++ b).fault = a.fault.or b.fault := rfl

@[simp] theorem errors_clean : clean.errors = [] := rfl

@[simp] theorem fault_clean : clean.fault = none := rfl

@[simp] theorem errors_ofError (f : Finding) : (ofError f).errors = [f] := rfl

@[simp] theorem fault_ofError (f : Finding) : (ofError f).fault = none := rfl

@[simp] theorem errors_ofWarning (n : Notice) : (ofWarning n).errors = [] := rfl

@[simp] theorem fault_ofWarning (n : Notice) : (ofWarning n).fault = none := rfl

@[simp] theorem errors_ofFault (f : Fault) : (ofFault f).errors = [] := rfl

@[simp] theorem fault_ofFault (f : Fault) : (ofFault f).fault = some f := rfl

theorem append_assoc (a b c : Outcome) : a ++ b ++ c = a ++ (b ++ c) := by
  change append (append a b) c = append a (append b c)
  simp only [append, List.append_assoc, Option.or_assoc]

theorem clean_append (a : Outcome) : clean ++ a = a := rfl

theorem append_clean (a : Outcome) : a ++ clean = a := by
  change append a clean = a
  simp only [append, clean, List.append_nil, Option.or_none]

@[simp] theorem join_nil : join [] = clean := rfl

@[simp] theorem join_cons (o : Outcome) (outcomes : List Outcome) :
    join (o :: outcomes) = o ++ join outcomes := rfl

theorem join_append (first last : List Outcome) : join (first ++ last) = join first ++ join last := by
  induction first with
  | nil => rfl
  | cons o first ih => rw [List.cons_append, join_cons, join_cons, ih, append_assoc]

@[simp] theorem errors_join (outcomes : List Outcome) :
    (join outcomes).errors = outcomes.flatMap (·.errors) := by
  induction outcomes with
  | nil => rfl
  | cons o outcomes ih => rw [join_cons, errors_append, ih, List.flatMap_cons]

@[simp] theorem warnings_join (outcomes : List Outcome) :
    (join outcomes).warnings = outcomes.flatMap (·.warnings) := by
  induction outcomes with
  | nil => rfl
  | cons o outcomes ih => rw [join_cons, warnings_append, ih, List.flatMap_cons]

theorem fault_join_eq_none_iff {outcomes : List Outcome} :
    (join outcomes).fault = none ↔ ∀ o ∈ outcomes, o.fault = none := by
  induction outcomes with
  | nil => simp
  | cons o outcomes ih => rw [join_cons, fault_append, Option.or_eq_none_iff, ih,
      List.forall_mem_cons]

/-! ## Parts that are looked at in the same way -/

section

variable {α : Type} {parts : List α} {look : α → Outcome} {lookAt : Nat → α → Outcome}

theorem mem_errors_join_map {f : Finding} :
    f ∈ (join (parts.map look)).errors ↔ ∃ x ∈ parts, f ∈ (look x).errors := by
  rw [errors_join, List.flatMap_map, List.mem_flatMap]

theorem errors_join_map_eq_nil_iff :
    (join (parts.map look)).errors = [] ↔ ∀ x ∈ parts, (look x).errors = [] := by
  rw [errors_join, List.flatMap_map, List.flatMap_eq_nil_iff]

theorem fault_join_map_eq_none_iff :
    (join (parts.map look)).fault = none ↔ ∀ x ∈ parts, (look x).fault = none := by
  rw [fault_join_eq_none_iff, List.forall_mem_map]

theorem mem_errors_join_mapIdx {f : Finding} : f ∈ (join (parts.mapIdx lookAt)).errors ↔
    ∃ i, ∃ hi : i < parts.length, f ∈ (lookAt i parts[i]).errors := by
  rw [errors_join, List.mem_flatMap]
  constructor
  · rintro ⟨_, houtcome, hf⟩
    obtain ⟨i, hi, rfl⟩ := List.mem_mapIdx.mp houtcome
    exact ⟨i, hi, hf⟩
  · rintro ⟨i, hi, hf⟩
    exact ⟨_, List.mem_mapIdx.mpr ⟨i, hi, rfl⟩, hf⟩

theorem errors_join_mapIdx_eq_nil_iff : (join (parts.mapIdx lookAt)).errors = [] ↔
    ∀ i, ∀ hi : i < parts.length, (lookAt i parts[i]).errors = [] := by
  simp only [List.eq_nil_iff_forall_not_mem, mem_errors_join_mapIdx, not_exists]
  exact ⟨fun h i hi f => h f i hi, fun h f i hi => h i hi f⟩

theorem fault_join_mapIdx_eq_none_iff : (join (parts.mapIdx lookAt)).fault = none ↔
    ∀ i, ∀ hi : i < parts.length, (lookAt i parts[i]).fault = none := by
  rw [fault_join_eq_none_iff]
  constructor
  · exact fun h i hi => h _ (List.mem_mapIdx.mpr ⟨i, hi, rfl⟩)
  · rintro h _ houtcome
    obtain ⟨i, hi, rfl⟩ := List.mem_mapIdx.mp houtcome
    exact h i hi

end

/-- The findings, unless there is a fault. -/
def verdict (o : Outcome) : Except Fault Verdict :=
  match o.fault with
  | some f => .error f
  | none => .ok ⟨o.errors, o.warnings⟩

theorem verdict_eq_ok_iff {o : Outcome} {v : Verdict} :
    o.verdict = .ok v ↔ o.fault = none ∧ v = ⟨o.errors, o.warnings⟩ := by
  rw [verdict]
  cases o.fault with
  | some f => simp
  | none => simp [eq_comm]

theorem verdict_of_fault_eq_none {o : Outcome} (h : o.fault = none) :
    o.verdict = .ok ⟨o.errors, o.warnings⟩ := by
  rw [verdict, h]

end Outcome

end ReviewDiagnostics
