import ClipboardWire.StepRun
import Mathlib.Data.List.Nodup

namespace ResourceTrace

/-!
# Acquiring, using and releasing resources

What a program does with its resources is a list of events.  A ledger follows
it: a resource is acquired once, used only while it is held, and released
once; at most a given number is held at a time.  A list of events is
disciplined if the ledger accepts it and nothing is held at its end.

The module is independent of what the resources are.
-/

variable {Resource : Type} [DecidableEq Resource]

/-- What can be done with a resource. -/
inductive ResourceEvent (Resource : Type) where
  | acquire (resource : Resource)
  | use (resource : Resource)
  | release (resource : Resource)
  deriving DecidableEq, Repr

/-- The resources that are held, and those that have been given back. -/
structure Ledger (Resource : Type) where
  held : List Resource
  spent : List Resource

/-- Nothing has been acquired yet. -/
def Ledger.empty : Ledger Resource where
  held := []
  spent := []

/-- Enter an event, if it is in order. -/
def step?
    (limit : Nat)
    (ledger : Ledger Resource) :
    ResourceEvent Resource → Option (Ledger Resource)
  | .acquire resource =>
      if resource ∉ ledger.held ∧ resource ∉ ledger.spent ∧
          ledger.held.length < limit then
        some { ledger with held := resource :: ledger.held }
      else
        none
  | .use resource =>
      if resource ∈ ledger.held then
        some ledger
      else
        none
  | .release resource =>
      if resource ∈ ledger.held then
        some
          { held := ledger.held.erase resource
            spent := resource :: ledger.spent }
      else
        none

/-- All events are in order, and everything has been given back. -/
def Disciplined
    (limit : Nat)
    (events : List (ResourceEvent Resource)) : Prop :=
  ∃ spent,
    StepRun.run? (step? limit) Ledger.empty events = some ⟨[], spent⟩

/-- The ledger counts the events of each resource. -/
private structure Counts
    (past : List (ResourceEvent Resource))
    (ledger : Ledger Resource) : Prop where
  acquired :
    ∀ resource,
      past.count (.acquire resource) =
        ledger.held.count resource + ledger.spent.count resource
  released :
    ∀ resource, past.count (.release resource) = ledger.spent.count resource
  once : (ledger.held ++ ledger.spent).Nodup

private theorem Counts.step
    {limit : Nat}
    {past : List (ResourceEvent Resource)}
    {ledger next : Ledger Resource}
    {event : ResourceEvent Resource}
    (counts : Counts past ledger)
    (stepped : step? limit ledger event = some next) :
    Counts (past ++ [event]) next := by
  cases event with
  | acquire resource =>
      simp only [step?] at stepped
      split at stepped
      · rename_i fresh
        cases stepped
        refine ⟨fun other => ?_, fun other => ?_, ?_⟩
        · rw [List.count_append, counts.acquired, List.count_cons]
          by_cases same : resource = other
          · subst other
            simp
            omega
          · simp [same]
        · simpa [List.count_append] using counts.released other
        · rw [List.cons_append, List.nodup_cons, List.mem_append, not_or]
          exact ⟨⟨fresh.1, fresh.2.1⟩, counts.once⟩
      · cases stepped
  | use resource =>
      simp only [step?] at stepped
      split at stepped
      · cases stepped
        refine ⟨fun other => ?_, fun other => ?_, counts.once⟩
        · simpa [List.count_append] using counts.acquired other
        · simpa [List.count_append] using counts.released other
      · cases stepped
  | release resource =>
      simp only [step?] at stepped
      split at stepped
      · rename_i member
        cases stepped
        have moved :
            (ledger.held.erase resource ++ resource :: ledger.spent).Perm
              (ledger.held ++ ledger.spent) :=
          List.perm_middle.trans
            ((List.perm_cons_erase member).symm.append_right _)
        refine ⟨fun other => ?_, fun other => ?_, ?_⟩
        · have same := moved.count_eq other
          rw [List.count_append, List.count_append] at same
          rw [List.count_append, counts.acquired]
          simp only [List.count_singleton, beq_iff_eq, reduceCtorEq,
            if_false]
          omega
        · rw [List.count_append, counts.released, List.count_cons]
          by_cases same : resource = other
          · subst other
            simp
          · simp [same]
        · exact moved.nodup_iff.mpr counts.once
      · cases stepped

/-- In a disciplined list nothing is released twice, or not at all. -/
theorem Disciplined.count_release
    {limit : Nat}
    {events : List (ResourceEvent Resource)}
    (disciplined : Disciplined limit events)
    (resource : Resource) :
    events.count (.release resource) = events.count (.acquire resource) ∧
      events.count (.acquire resource) ≤ 1 := by
  obtain ⟨spent, ran⟩ := disciplined
  have counts : Counts events ⟨[], spent⟩ := by
    have nothing : Counts [] (Ledger.empty : Ledger Resource) :=
      ⟨fun _ => rfl, fun _ => rfl, List.nodup_nil⟩
    refine StepRun.run?_history
      (motive := fun past ledger => Counts past ledger)
      nothing ?_ ran
    rintro past ledger event next - - holds stepped
    exact holds.step stepped
  rw [counts.released, counts.acquired, List.count_nil, Nat.zero_add]
  exact ⟨rfl, List.nodup_iff_count_le_one.mp counts.once resource⟩

end ResourceTrace
