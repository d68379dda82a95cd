import Mathlib.Data.List.AList
import Mathlib.Logic.Function.Basic

namespace KeyedMap

/-!
# Walking a keyed map while updating a table

A hash map is an association list with distinct keys (`AList`).  Code that
walks the map and changes one cell of a table per entry changes exactly the
cells of the visited keys, once each, in whatever order the map is walked.  An
entry that is inserted adds to their number only under a new key.
-/

variable {Key Value Cell : Type}

/--
Updating the cell of every key but one changes exactly those cells, because
no key is visited twice.
-/
theorem foldl_update_except
    [DecidableEq Key]
    (skipped : Key)
    (change : Cell → Cell)
    (entries : List (Sigma fun _ : Key => Value))
    (distinct : entries.NodupKeys)
    (table : Key → Cell) :
    entries.foldl
        (fun current entry =>
          if entry.1 = skipped then
            current
          else
            Function.update current entry.1 (change (current entry.1)))
        table =
      fun key =>
        if key ∈ entries.keys ∧ key ≠ skipped then
          change (table key)
        else
          table key := by
  induction entries generalizing table with
  | nil =>
      simp
  | cons entry rest inductionHypothesis =>
      obtain ⟨absent, restDistinct⟩ := List.nodupKeys_cons.mp distinct
      rw [List.foldl_cons, inductionHypothesis restDistinct]
      funext key
      by_cases isSkipped : entry.1 = skipped
      · by_cases keyIsSkipped : key = skipped <;>
          simp [isSkipped, keyIsSkipped]
      · by_cases isEntry : key = entry.1
        · subst key
          simp [absent, isSkipped]
        · simp [isSkipped, isEntry]

/-- A new key adds an entry. -/
theorem length_keys_insert_of_notMem
    [DecidableEq Key]
    {entries : AList fun _ : Key => Value}
    {key : Key}
    (absent : key ∉ entries)
    (value : Value) :
    (entries.insert key value).keys.length = entries.keys.length + 1 := by
  have unchanged : entries.keys.erase key = entries.keys :=
    List.erase_of_not_mem absent
  rw [AList.keys_insert, List.length_cons, unchanged]

/-- A key that is known keeps the number of entries. -/
theorem length_keys_insert_of_mem
    [DecidableEq Key]
    {entries : AList fun _ : Key => Value}
    {key : Key}
    (known : key ∈ entries)
    (value : Value) :
    (entries.insert key value).keys.length = entries.keys.length := by
  have nonempty : 0 < entries.keys.length :=
    List.length_pos_of_mem known
  rw [AList.keys_insert, List.length_cons, List.length_erase_of_mem known,
    Nat.sub_add_cancel nonempty]

/-- An entry that is removed is missing afterwards. -/
theorem length_keys_erase
    [DecidableEq Key]
    {entries : AList fun _ : Key => Value}
    {key : Key}
    (known : key ∈ entries) :
    (entries.erase key).keys.length + 1 = entries.keys.length := by
  have nonempty : 0 < entries.keys.length :=
    List.length_pos_of_mem known
  rw [AList.keys_erase, List.length_erase_of_mem known,
    Nat.sub_add_cancel nonempty]

end KeyedMap
