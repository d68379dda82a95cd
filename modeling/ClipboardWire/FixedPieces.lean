import Mathlib.Data.List.Basic

namespace FixedPieces

/-!
# A list cut into pieces of a fixed size

Every piece but the last has the full size, and none is empty.  The rules say
where each piece lies in the whole, which piece a position belongs to, and how
many pieces there are.
-/

variable {Item : Type} {size : Nat}

/-- All pieces but the last are full, and the last one is not empty. -/
structure Cut (size : Nat) (pieces : List (List Item)) : Prop where
  full : ∀ piece ∈ pieces.dropLast, piece.length = size
  bounded : ∀ piece ∈ pieces, 0 < piece.length ∧ piece.length ≤ size

/-- The pieces after the first are cut as well. -/
theorem Cut.tail
    {first : List Item}
    {rest : List (List Item)}
    (cut : Cut size (first :: rest)) :
    Cut size rest where
  full := by
    intro piece member
    refine cut.full piece ?_
    cases rest with
    | nil =>
        cases member
    | cons second others =>
        exact List.mem_cons_of_mem first member
  bounded := fun piece member =>
    cut.bounded piece (List.mem_cons_of_mem first member)

/-- A piece that is not the last is full. -/
theorem Cut.head_length
    {first second : List Item}
    {rest : List (List Item)}
    (cut : Cut size (first :: second :: rest)) :
    first.length = size :=
  cut.full first (List.mem_cons_self)

/-- The first piece is full when another one follows. -/
theorem Cut.head_length_of_getElem?
    {first piece : List Item}
    {rest : List (List Item)}
    {index : Nat}
    (cut : Cut size (first :: rest))
    (found : rest[index]? = some piece) :
    first.length = size := by
  cases rest with
  | nil =>
      simp at found
  | cons second others =>
      exact cut.head_length

/-- A piece is found in the whole at a multiple of the size. -/
theorem Cut.getElem?_flatten
    {pieces : List (List Item)}
    (cut : Cut size pieces)
    {index offset : Nat}
    {piece : List Item}
    (found : pieces[index]? = some piece)
    (inside : offset < piece.length) :
    pieces.flatten[index * size + offset]? = piece[offset]? := by
  induction pieces generalizing index with
  | nil =>
      simp at found
  | cons first rest inductionHypothesis =>
      cases index with
      | zero =>
          simp only [List.getElem?_cons_zero, Option.some.injEq] at found
          subst first
          rw [Nat.zero_mul, Nat.zero_add, List.flatten_cons,
            List.getElem?_append_left inside]
      | succ index =>
          rw [List.getElem?_cons_succ] at found
          have full := cut.head_length_of_getElem? found
          have position :
              (index + 1) * size + offset - first.length =
                index * size + offset := by
            rw [full, Nat.succ_mul]
            omega
          rw [List.flatten_cons,
            List.getElem?_append_right (by rw [full, Nat.succ_mul]; omega),
            position]
          exact inductionHypothesis cut.tail found

/-- A piece does not reach beyond the whole. -/
theorem Cut.fits
    {pieces : List (List Item)}
    (cut : Cut size pieces)
    {index : Nat}
    {piece : List Item}
    (found : pieces[index]? = some piece) :
    index * size + piece.length ≤ pieces.flatten.length := by
  induction pieces generalizing index with
  | nil =>
      simp at found
  | cons first rest inductionHypothesis =>
      rw [List.flatten_cons, List.length_append]
      cases index with
      | zero =>
          simp only [List.getElem?_cons_zero, Option.some.injEq] at found
          subst first
          omega
      | succ index =>
          rw [List.getElem?_cons_succ] at found
          have full := cut.head_length_of_getElem? found
          have later := inductionHypothesis cut.tail found
          rw [full, Nat.succ_mul]
          omega

/-- Every position of the whole belongs to the piece at its quotient. -/
theorem Cut.piece_of_position
    {pieces : List (List Item)}
    (cut : Cut size pieces)
    {position : Nat}
    (inside : position < pieces.flatten.length) :
    ∃ index offset piece,
      pieces[index]? = some piece ∧
        offset < piece.length ∧
        position = index * size + offset := by
  induction pieces generalizing position with
  | nil =>
      simp at inside
  | cons first rest inductionHypothesis =>
      rw [List.flatten_cons, List.length_append] at inside
      by_cases inFirst : position < first.length
      · exact ⟨0, position, first, rfl, inFirst, by omega⟩
      · cases rest with
        | nil =>
            simp only [List.flatten_nil, List.length_nil] at inside
            omega
        | cons second others =>
            have full := cut.head_length
            have later :
                position - size < (second :: others).flatten.length := by
              omega
            obtain ⟨index, offset, piece, found, bound, split⟩ :=
              inductionHypothesis cut.tail later
            refine ⟨index + 1, offset, piece, found, bound, ?_⟩
            rw [Nat.succ_mul]
            omega

/-- The number of pieces is the length of the whole, rounded up. -/
theorem Cut.length_eq
    {pieces : List (List Item)}
    (cut : Cut size pieces)
    (positive : 0 < size) :
    (pieces.flatten.length + (size - 1)) / size = pieces.length := by
  induction pieces with
  | nil =>
      simp only [List.flatten_nil, List.length_nil, Nat.zero_add]
      exact Nat.div_eq_of_lt (by omega)
  | cons first rest inductionHypothesis =>
      rw [List.flatten_cons, List.length_append, List.length_cons]
      cases rest with
      | nil =>
          have bound := cut.bounded first (List.mem_cons_self)
          simp only [List.flatten_nil, List.length_nil, Nat.add_zero,
            Nat.zero_add]
          have split : first.length + (size - 1) =
              (first.length - 1) + size := by
            omega
          rw [split, Nat.add_div_right _ positive,
            Nat.div_eq_of_lt (by omega)]
      | cons second others =>
          have full := cut.head_length
          have split :
              first.length + (second :: others).flatten.length +
                  (size - 1) =
                (second :: others).flatten.length + (size - 1) + size := by
            omega
          rw [split, Nat.add_div_right _ positive,
            inductionHypothesis cut.tail]

end FixedPieces
