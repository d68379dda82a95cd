import Mathlib.Data.List.Infix

namespace FileScript

/-!
# Writing a file in place, step by step

A script is a list of operations on one file.  Its run goes through states of
the file, one after the other, and it can be cut off at any operation: either
the operation fails, or the process ends there.  A write that is cut off has
written the first of its bytes.

The module is independent of what is written.  Its rules are about all states
of a run: an invariant that every operation keeps holds in each of them, and a
run that is not cut off goes through the state behind each operation.  From
both follows when a secret can be written in place.
-/

/-- Permission bits, in the order of `chmod`. -/
abbrev Mode :=
  BitVec 12

/-- A file. -/
structure File where
  mode : Mode
  bytes : List UInt8
  deriving DecidableEq, Repr

/-- An operation of a script. -/
inductive Operation where
  /-- Something that leaves the file alone. -/
  | prepare
  /-- The same, but a failure is ignored. -/
  | attempt
  /-- The file is opened for writing: it is created, or emptied. -/
  | create (mode : Mode)
  | write (bytes : List UInt8)
  | chmod (mode : Mode)
  deriving DecidableEq, Repr

/-- Why a script does not go on. -/
inductive CutOff where
  /-- The operation returns an error, and so does the script. -/
  | fails
  /-- The process ends. -/
  | dies
  deriving DecidableEq, Repr

/-- Where and why a script does not go on. -/
structure Fault where
  /-- How many operations come before the one that is cut off. -/
  position : Nat
  cutOff : CutOff
  /-- How many bytes have been written, if it writes. -/
  written : Nat
  deriving DecidableEq, Repr

/-- How a run ends. -/
inductive Ending where
  | finished
  | failed
  | died
  deriving DecidableEq, Repr

/-- The ending of a run that is cut off. -/
def CutOff.ending : CutOff → Ending
  | .fails => .failed
  | .dies => .died

/-- The states that a run goes through, and how it ends. -/
structure Run where
  earlier : List (Option File)
  final : Option File
  ending : Ending
  deriving DecidableEq, Repr

namespace Run

/-- All states of a run. -/
def states (run : Run) : List (Option File) :=
  run.earlier ++ [run.final]

/-- Nothing more happens. -/
def ended (file : Option File) (ending : Ending) : Run :=
  ⟨[], file, ending⟩

/-- A run that comes after some states. -/
def after (run : Run) (states : List (Option File)) : Run :=
  { run with earlier := states ++ run.earlier }

end Run

namespace Operation

/-- What an operation makes of the file, with the mask of the process. -/
def apply (umask : Mode) (operation : Operation) (file : Option File) :
    Option File :=
  match operation with
  | prepare | attempt =>
      file
  | create mode =>
      match file with
      | some existing => some { existing with bytes := [] }
      | none => some ⟨mode &&& ~~~umask, []⟩
  | write bytes =>
      file.map fun opened => { opened with bytes := opened.bytes ++ bytes }
  | chmod mode =>
      file.map fun existing => { existing with mode := mode }

/-- The states behind an operation: a write goes through its bytes. -/
def states (umask : Mode) (operation : Operation) (file : Option File) :
    List (Option File) :=
  match operation with
  | write bytes => bytes.inits.map fun start => (write start).apply umask file
  | other => [other.apply umask file]

/-- The part of an operation that is done when it is cut off. -/
def cut (written : Nat) : Operation → Operation
  | write bytes => write (bytes.take written)
  | _ => prepare

/-- The operation leaves the file alone. -/
def IsIdle : Operation → Prop
  | prepare | attempt => True
  | create _ | write _ | chmod _ => False

/-- An operation keeps an invariant of the file. -/
def Keeps
    (umask : Mode)
    (invariant : Option File → Prop)
    (operation : Operation) :
    Prop :=
  ∀ file state,
    invariant file → state ∈ operation.states umask file → invariant state

end Operation

/-- Run a script. -/
def run (umask : Mode) :
    List Operation → Option Fault → Option File → Run
  | [], _, file =>
      .ended file .finished
  | operation :: rest, fault, file =>
      match fault with
      | none =>
          (run umask rest none (operation.apply umask file)).after
            (file :: operation.states umask file)
      | some ⟨position + 1, cutOff, written⟩ =>
          (run umask rest (some ⟨position, cutOff, written⟩)
            (operation.apply umask file)).after
              (file :: operation.states umask file)
      | some ⟨0, cutOff, written⟩ =>
          if operation = .attempt ∧ cutOff = .fails then
            (run umask rest none file).after [file]
          else
            let begun := operation.cut written
            (Run.ended (begun.apply umask file) cutOff.ending).after
              (file :: begun.states umask file)

/-- The file behind some operations that are not cut off. -/
def exec (umask : Mode) (script : List Operation) (file : Option File) :
    Option File :=
  script.foldl (fun file operation => operation.apply umask file) file

variable {umask : Mode}

theorem exec_append
    (leading trailing : List Operation)
    (file : Option File) :
    exec umask (leading ++ trailing) file =
      exec umask trailing (exec umask leading file) :=
  List.foldl_append

/-! ## States of an operation -/

/-- The last state behind an operation is what it makes of the file. -/
theorem Operation.apply_mem_states
    (operation : Operation)
    (file : Option File) :
    operation.apply umask file ∈ operation.states umask file := by
  cases operation with
  | write bytes =>
      refine List.mem_map.mpr ⟨bytes, ?_, rfl⟩
      exact (List.mem_inits bytes bytes).mpr (List.prefix_refl bytes)
  | _ =>
      exact List.mem_singleton.mpr rfl

/-- An operation that is cut off only goes through states of the whole one. -/
theorem Operation.mem_states_cut
    {operation : Operation}
    {written : Nat}
    {file state : Option File}
    (member : state ∈ (operation.cut written).states umask file) :
    state = file ∨ state ∈ operation.states umask file := by
  cases operation with
  | write bytes =>
      obtain ⟨start, isStart, rfl⟩ := List.mem_map.mp member
      rw [List.mem_inits] at isStart
      refine .inr (List.mem_map.mpr ⟨start, ?_, rfl⟩)
      exact (List.mem_inits start bytes).mpr
        (isStart.trans (List.take_prefix written bytes))
  | _ =>
      exact .inl (List.mem_singleton.mp member)

/-! ## States of a run -/

/-- The states of a run that comes after others. -/
theorem Run.mem_states_after
    {run : Run}
    {states : List (Option File)}
    {state : Option File} :
    state ∈ (run.after states).states ↔
      state ∈ states ∨ state ∈ run.states := by
  simp [Run.states, Run.after]

section Invariant

variable {invariant : Option File → Prop} {operation : Operation}
  {file : Option File}

/-- An operation that is cut off keeps what the whole one keeps. -/
theorem Operation.Keeps.cut
    (keeps : operation.Keeps umask invariant)
    (written : Nat) :
    (operation.cut written).Keeps umask invariant := by
  intro file state holds member
  rcases Operation.mem_states_cut member with rfl | reached
  · exact holds
  · exact keeps file state holds reached

/-- What an operation and the run behind it keep. -/
theorem Operation.Keeps.after
    {run : Run}
    (keeps : operation.Keeps umask invariant)
    (holds : invariant file)
    (later :
      invariant (operation.apply umask file) →
      ∀ state ∈ run.states, invariant state) :
    ∀ state ∈ (run.after (file :: operation.states umask file)).states,
      invariant state := by
  intro state member
  rcases Run.mem_states_after.mp member with here | behind
  · rcases List.mem_cons.mp here with rfl | reached
    · exact holds
    · exact keeps file state holds reached
  · have applied : invariant (operation.apply umask file) :=
      keeps file _ holds (operation.apply_mem_states file)
    exact later applied state behind

/-- Invariant rule: what every operation keeps holds in all states of a run,
wherever it is cut off. -/
theorem run_invariant
    {script : List Operation}
    (kept : ∀ operation ∈ script, operation.Keeps umask invariant)
    (holds : invariant file)
    (fault : Option Fault) :
    ∀ state ∈ (run umask script fault file).states, invariant state := by
  induction script generalizing fault file with
  | nil =>
      intro state member
      rw [List.mem_singleton.mp member]
      exact holds
  | cons operation rest inductionHypothesis =>
      have keeps := kept operation List.mem_cons_self
      have later {file : Option File} (fault : Option Fault)
          (holds : invariant file) :
          ∀ state ∈ (run umask rest fault file).states, invariant state :=
        inductionHypothesis
          (fun other isLater =>
            kept other (List.mem_cons_of_mem operation isLater))
          holds fault
      unfold run
      split
      · exact keeps.after holds (later none)
      · exact keeps.after holds (later _)
      · split
        · intro state member
          rcases Run.mem_states_after.mp member with here | behind
          · rw [List.mem_singleton.mp here]
            exact holds
          · exact later none holds state behind
        · refine (keeps.cut _).after holds ?_
          intro begun state member
          rw [List.mem_singleton.mp member]
          exact begun

end Invariant

theorem mem_states_run
    (script : List Operation)
    (fault : Option Fault)
    (file : Option File) :
    file ∈ (run umask script fault file).states := by
  cases script with
  | nil =>
      exact List.mem_singleton.mpr rfl
  | cons operation rest =>
      unfold run
      split
      · simp [Run.states, Run.after]
      · simp [Run.states, Run.after]
      · split <;> simp [Run.states, Run.after]

theorem exec_mem_states_run
    (leading trailing : List Operation)
    (file : Option File) :
    exec umask leading file ∈
      (run umask (leading ++ trailing) none file).states := by
  induction leading generalizing file with
  | nil =>
      exact mem_states_run trailing none file
  | cons operation rest inductionHypothesis =>
      rw [List.cons_append, run, Run.mem_states_after]
      exact .inr (inductionHypothesis (operation.apply umask file))

/-- Operations that leave the file alone can be left out. -/
theorem exec_of_idle
    {leading : List Operation}
    (idle : ∀ operation ∈ leading, operation.IsIdle)
    (file : Option File) :
    exec umask leading file = file := by
  induction leading generalizing file with
  | nil =>
      rfl
  | cons operation rest inductionHypothesis =>
      have same : operation.apply umask file = file := by
        have isIdle := idle operation List.mem_cons_self
        cases operation with
        | prepare => rfl
        | attempt => rfl
        | create mode => exact isIdle.elim
        | write bytes => exact isIdle.elim
        | chmod mode => exact isIdle.elim
      rw [exec, List.foldl_cons, same]
      exact inductionHypothesis
        (fun other isLater =>
          idle other (List.mem_cons_of_mem operation isLater)) file

/-! ## Secrets -/

/-- Neither the group nor others may read. -/
def IsPrivate (mode : Mode) : Prop :=
  mode &&& 0o044 = 0

instance (mode : Mode) : Decidable (IsPrivate mode) :=
  inferInstanceAs (Decidable (mode &&& 0o044 = 0))

/-- Somebody else can read a secret in the file. -/
def Exposes (secret : List UInt8) (state : Option File) : Prop :=
  ∃ file,
    state = some file ∧ secret <:+: file.bytes ∧ ¬ IsPrivate file.mode

/-- The file is private, or will be when it is created. -/
def StartsPrivate (umask requested : Mode) : Option File → Prop
  | some file => IsPrivate file.mode
  | none => IsPrivate (requested &&& ~~~umask)

/-- What may come after a secret has been written. -/
def Operation.IsClosing : Operation → Prop
  | prepare | attempt => True
  | chmod mode => IsPrivate mode
  | create _ | write _ => False

section Secrets

variable {requested : Mode} {file : Option File}

/-- Nothing is exposed in a file that is private. -/
theorem not_exposes_of_startsPrivate
    (startsPrivate : StartsPrivate umask requested file)
    (secret : List UInt8) :
    ¬ Exposes secret file := by
  rintro ⟨existing, rfl, -, readable⟩
  exact readable startsPrivate

theorem Operation.IsIdle.keeps
    {operation : Operation}
    (idle : operation.IsIdle) :
    operation.Keeps umask (StartsPrivate umask requested) := by
  intro file state holds member
  cases operation with
  | prepare | attempt =>
      rw [List.mem_singleton.mp member]
      exact holds
  | create mode => exact idle.elim
  | write bytes => exact idle.elim
  | chmod mode => exact idle.elim

/-- A private file stays private when it is opened, and is created as one. -/
theorem keeps_create :
    (Operation.create requested).Keeps umask
      (StartsPrivate umask requested) := by
  intro file state holds member
  rw [List.mem_singleton.mp member]
  cases file with
  | none => exact holds
  | some existing => exact holds

/-- Writing does not change who can read. -/
theorem keeps_write (bytes : List UInt8) :
    (Operation.write bytes).Keeps umask (StartsPrivate umask requested) := by
  intro file state holds member
  obtain ⟨start, -, rfl⟩ := List.mem_map.mp member
  cases file with
  | none => exact holds
  | some existing => exact holds

theorem Operation.IsClosing.keeps
    {operation : Operation}
    (closing : operation.IsClosing) :
    operation.Keeps umask (StartsPrivate umask requested) := by
  cases operation with
  | prepare => exact IsIdle.keeps trivial
  | attempt => exact IsIdle.keeps trivial
  | create mode => exact closing.elim
  | write bytes => exact closing.elim
  | chmod mode =>
      intro file state holds member
      rw [List.mem_singleton.mp member]
      cases file with
      | none => exact holds
      | some existing => exact closing

/-- Written in place, a secret is exposed in no state of any run exactly if
the file is private from the start. -/
theorem keepsSecret_iff
    {leading trailing : List Operation}
    {bytes secret : List UInt8}
    (idle : ∀ operation ∈ leading, operation.IsIdle)
    (closing : ∀ operation ∈ trailing, operation.IsClosing)
    (part : secret <:+: bytes) :
    (∀ fault,
      ∀ state ∈
        (run umask (leading ++ .create requested :: .write bytes :: trailing)
          fault file).states,
        ¬ Exposes secret state) ↔
      StartsPrivate umask requested file := by
  constructor
  · intro hidden
    by_contra readable
    have visited :
        exec umask (leading ++ [.create requested, .write bytes]) file ∈
          (run umask
            ((leading ++ [.create requested, .write bytes]) ++ trailing) none
            file).states :=
      exec_mem_states_run _ trailing file
    rw [exec_append, exec_of_idle idle, List.append_assoc] at visited
    refine hidden none _ visited ?_
    cases file with
    | none => exact ⟨_, rfl, part, readable⟩
    | some existing => exact ⟨_, rfl, part, readable⟩
  · intro startsPrivate fault state member
    refine not_exposes_of_startsPrivate
      (run_invariant ?_ startsPrivate fault state member) secret
    intro operation isOperation
    simp only [List.mem_append, List.mem_cons] at isOperation
    rcases isOperation with isLeading | rfl | rfl | isTrailing
    · exact (idle operation isLeading).keeps
    · exact keeps_create
    · exact keeps_write bytes
    · exact (closing operation isTrailing).keeps

end Secrets

end FileScript
