import Mathlib.Data.List.Nodup
import Mathlib.Data.List.Perm.Subperm

namespace Semaphore

/-!
# Counting semaphores

A semaphore only keeps the number of its free permits.  Here that number is
tied to the parties that hold one: the free permits and the holders always add
up to the total.  Acquiring and releasing keep the account, and no set of
holders is larger than what is not free.
-/

variable {Id : Type}

/-- The permits that are not free are held, one by each holder. -/
def Accounted (total permits : Nat) (holds : Id → Prop) : Prop :=
  ∃ held : List Id,
    held.Nodup ∧ (∀ id, id ∈ held ↔ holds id) ∧
      held.length + permits = total

theorem accounted_start
    {total : Nat}
    {holds : Id → Prop}
    (nobody : ∀ id, ¬ holds id) :
    Accounted total total holds := by
  refine ⟨[], List.nodup_nil, ?_, by simp⟩
  intro id
  simp [nobody id]

theorem Accounted.congr
    {total permits : Nat}
    {holds next : Id → Prop}
    (accounted : Accounted total permits holds)
    (same : ∀ id, next id ↔ holds id) :
    Accounted total permits next := by
  obtain ⟨held, nodup, members, sum⟩ := accounted
  exact ⟨held, nodup, fun id => (members id).trans (same id).symm, sum⟩

/-- A free permit goes to a party that had none. -/
theorem Accounted.acquire
    {total permits : Nat}
    {holds next : Id → Prop}
    {id : Id}
    (accounted : Accounted total (permits + 1) holds)
    (had : ¬ holds id)
    (has : next id)
    (others : ∀ other, other ≠ id → (next other ↔ holds other)) :
    Accounted total permits next := by
  obtain ⟨held, nodup, members, sum⟩ := accounted
  refine ⟨id :: held, ?_, ?_, ?_⟩
  · exact List.nodup_cons.mpr
      ⟨fun member => had ((members id).mp member), nodup⟩
  · intro other
    by_cases same : other = id
    · subst other
      simp [has]
    · simp [same, members other, others other same]
  · rw [List.length_cons]
    omega

/-- A party gives its permit back. -/
theorem Accounted.release
    [DecidableEq Id]
    {total permits : Nat}
    {holds next : Id → Prop}
    {id : Id}
    (accounted : Accounted total permits holds)
    (had : holds id)
    (has : ¬ next id)
    (others : ∀ other, other ≠ id → (next other ↔ holds other)) :
    Accounted total (permits + 1) next := by
  obtain ⟨held, nodup, members, sum⟩ := accounted
  have member : id ∈ held := (members id).mpr had
  refine ⟨held.erase id, nodup.erase id, ?_, ?_⟩
  · intro other
    rw [nodup.mem_erase_iff]
    by_cases same : other = id
    · subst other
      simp [has]
    · simp [same, members other, others other same]
  · have shorter := List.length_erase_of_mem member
    have nonempty := List.length_pos_of_mem member
    omega

/-- Holders and free permits together are no more than the total. -/
theorem Accounted.length_le
    {total permits : Nat}
    {holds : Id → Prop}
    (accounted : Accounted total permits holds)
    {ids : List Id}
    (nodup : ids.Nodup)
    (hold : ∀ id ∈ ids, holds id) :
    ids.length + permits ≤ total := by
  obtain ⟨held, -, members, sum⟩ := accounted
  have subset : ids ⊆ held :=
    fun id member => (members id).mpr (hold id member)
  have fewer := (nodup.subperm subset).length_le
  omega

end Semaphore
