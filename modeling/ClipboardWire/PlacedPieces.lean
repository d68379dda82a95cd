import ClipboardWire.FileStore
import Mathlib.Data.List.Induction

namespace FileStore

/-!
# Pieces of a file written to their places

A piece goes to the place of its number, a multiple of a fixed size.  Pieces
that are no larger than their places do not meet, so each of them is read back
after all have been written, in whatever order.
-/

/-- A piece of a file and the number of its place. -/
structure Piece where
  number : Nat
  bytes : List UInt8
  deriving DecidableEq, Repr

/-- A piece is no larger than its place and lies inside the file. -/
structure Piece.Fits (size total : Nat) (piece : Piece) : Prop where
  bounded : piece.bytes.length ≤ size
  inside : piece.number * size + piece.bytes.length ≤ total

/-- A piece is found at its place. -/
def Piece.WrittenIn
    (size : Nat)
    (content : List UInt8)
    (piece : Piece) :
    Prop :=
  ∀ offset,
    offset < piece.bytes.length →
    content[piece.number * size + offset]? = piece.bytes[offset]?

/-- Write a piece to its place. -/
def writePiece
    (size : Nat)
    (content : List UInt8)
    (piece : Piece) :
    List UInt8 :=
  overwrite content (piece.number * size) piece.bytes

/-- Write pieces to their places, one after the other. -/
def writePieces
    (size : Nat)
    (content : List UInt8)
    (pieces : List Piece) :
    List UInt8 :=
  pieces.foldl (writePiece size) content

variable {size : Nat} {content : List UInt8} {piece : Piece}

/-- Writing a piece that fits does not change the size of the file. -/
theorem length_writePiece (fits : piece.Fits size content.length) :
    (writePiece size content piece).length = content.length :=
  length_overwrite fits.inside

/-- A piece that fits is found where it has been written. -/
theorem writtenIn_writePiece (fits : piece.Fits size content.length) :
    piece.WrittenIn size (writePiece size content piece) := by
  intro offset bound
  rw [writePiece, getElem?_overwrite fits.inside, if_pos (by omega),
    Nat.add_sub_cancel_left]

/-- Writing a piece leaves the places of the others alone. -/
theorem Piece.WrittenIn.writePiece
    {other : Piece}
    (written : other.WrittenIn size content)
    (small : other.bytes.length ≤ size)
    (fits : piece.Fits size content.length)
    (different : other.number ≠ piece.number) :
    other.WrittenIn size (writePiece size content piece) := by
  intro offset bound
  have bounded := fits.bounded
  rw [FileStore.writePiece, getElem?_overwrite fits.inside, if_neg ?_]
  · exact written offset bound
  · intro overlap
    -- distinct numbers have distinct slots of the full size
    rcases Nat.lt_or_gt_of_ne different with before | after
    · have slot := Nat.mul_le_mul_right size before
      rw [Nat.succ_mul] at slot
      omega
    · have slot := Nat.mul_le_mul_right size after
      rw [Nat.succ_mul] at slot
      omega

/-- Writing pieces that fit does not change the size of the file. -/
theorem length_writePieces
    {pieces : List Piece}
    (fits : ∀ piece ∈ pieces, piece.Fits size content.length) :
    (writePieces size content pieces).length = content.length := by
  induction pieces generalizing content with
  | nil =>
      rfl
  | cons first rest inductionHypothesis =>
      have same := length_writePiece (fits first List.mem_cons_self)
      rw [writePieces, List.foldl_cons, ← writePieces,
        inductionHypothesis, same]
      intro piece member
      rw [same]
      exact fits piece (List.mem_cons_of_mem first member)

/-- Further pieces leave the place of a piece with another number alone. -/
theorem Piece.WrittenIn.writePieces
    {pieces : List Piece}
    (written : piece.WrittenIn size content)
    (small : piece.bytes.length ≤ size)
    (fits : ∀ other ∈ pieces, other.Fits size content.length)
    (different : ∀ other ∈ pieces, piece.number ≠ other.number) :
    piece.WrittenIn size (writePieces size content pieces) := by
  induction pieces generalizing content with
  | nil =>
      exact written
  | cons first rest inductionHypothesis =>
      have ownFits := fits first List.mem_cons_self
      refine inductionHypothesis
        (written.writePiece small ownFits (different first List.mem_cons_self))
        ?_
        (fun other member =>
          different other (List.mem_cons_of_mem first member))
      intro other member
      rw [length_writePiece ownFits]
      exact fits other (List.mem_cons_of_mem first member)

/-- Pieces with distinct numbers are all found after they are written. -/
theorem writtenIn_writePieces
    {pieces : List Piece}
    (fits : ∀ piece ∈ pieces, piece.Fits size content.length)
    (distinct : (pieces.map Piece.number).Nodup)
    (member : piece ∈ pieces) :
    piece.WrittenIn size (writePieces size content pieces) := by
  induction pieces generalizing content with
  | nil =>
      cases member
  | cons first rest inductionHypothesis =>
      have ownFits := fits first List.mem_cons_self
      have laterFits :
          ∀ other ∈ rest,
            other.Fits size (writePiece size content first).length := by
        intro other isLater
        rw [length_writePiece ownFits]
        exact fits other (List.mem_cons_of_mem first isLater)
      rw [List.map_cons, List.nodup_cons] at distinct
      rcases List.mem_cons.mp member with isFirst | isLater
      · subst piece
        refine (writtenIn_writePiece ownFits).writePieces ownFits.bounded
          laterFits ?_
        intro other isLater same
        exact distinct.1 (same ▸ List.mem_map_of_mem isLater)
      · exact inductionHypothesis laterFits distinct.2 isLater

/-- Pieces whose places cover the file determine its content. -/
theorem eq_of_writtenIn
    {other : List UInt8}
    {pieces : List Piece}
    (sameLength : other.length = content.length)
    (covers :
      ∀ position < content.length,
        ∃ piece ∈ pieces,
          ∃ offset < piece.bytes.length,
            position = piece.number * size + offset)
    (written : ∀ piece ∈ pieces, piece.WrittenIn size content)
    (otherWritten : ∀ piece ∈ pieces, piece.WrittenIn size other) :
    content = other := by
  apply List.ext_getElem?
  intro position
  by_cases inside : position < content.length
  · obtain ⟨piece, member, offset, bound, rfl⟩ := covers position inside
    rw [written piece member offset bound,
      otherWritten piece member offset bound]
  · rw [List.getElem?_eq_none (by omega),
      List.getElem?_eq_none (by omega)]

section Numbered

/-- Pieces with the numbers of their positions. -/
def numbered (pieces : List (List UInt8)) : List Piece :=
  pieces.mapIdx Piece.mk

variable {pieces : List (List UInt8)}

/-- The last of numbered pieces is written after the others. -/
theorem writePieces_numbered_concat
    (size : Nat)
    (pieces : List (List UInt8))
    (last : List UInt8) :
    writePieces size [] (numbered (pieces ++ [last])) =
      overwrite (writePieces size [] (numbered pieces))
        (pieces.length * size) last := by
  rw [numbered, List.mapIdx_concat, writePieces, List.foldl_append]
  rfl

/-- Numbered pieces do not reach beyond their places. -/
theorem length_writePieces_numbered_le
    (bounded : ∀ piece ∈ pieces, piece.length ≤ size) :
    (writePieces size [] (numbered pieces)).length ≤
      pieces.length * size := by
  induction pieces using List.reverseRecOn with
  | nil =>
      exact Nat.zero_le _
  | append_singleton pieces last inductionHypothesis =>
      have earlier :=
        inductionHypothesis fun piece member =>
          bounded piece (List.mem_append_left _ member)
      have ending := bounded last List.mem_concat_self
      rw [writePieces_numbered_concat, length_overwrite_eq_max,
        List.length_append, List.length_singleton, Nat.add_one_mul]
      omega

/-- The last piece determines how far numbered pieces reach. -/
theorem length_writePieces_numbered_concat
    {last : List UInt8}
    (bounded : ∀ piece ∈ pieces, piece.length ≤ size) :
    (writePieces size [] (numbered (pieces ++ [last]))).length =
      pieces.length * size + last.length := by
  have earlier := length_writePieces_numbered_le bounded
  rw [writePieces_numbered_concat, length_overwrite_eq_max]
  omega

/-- Pieces have no more bytes than their places. -/
theorem length_flatten_le
    (bounded : ∀ piece ∈ pieces, piece.length ≤ size) :
    pieces.flatten.length ≤ pieces.length * size := by
  induction pieces with
  | nil =>
      exact Nat.zero_le _
  | cons first rest inductionHypothesis =>
      have ownBound := bounded first List.mem_cons_self
      have others :=
        inductionHypothesis fun piece member =>
          bounded piece (List.mem_cons_of_mem first member)
      rw [List.flatten_cons, List.length_append, List.length_cons,
        Nat.add_one_mul]
      omega

/-- Pieces that have as many bytes as their places are full. -/
theorem length_eq_of_length_flatten
    (bounded : ∀ piece ∈ pieces, piece.length ≤ size)
    (total : pieces.flatten.length = pieces.length * size) :
    ∀ piece ∈ pieces, piece.length = size := by
  induction pieces with
  | nil =>
      intro piece member
      cases member
  | cons first rest inductionHypothesis =>
      have ownBound := bounded first List.mem_cons_self
      have laterBounded :
          ∀ piece ∈ rest, piece.length ≤ size := fun piece member =>
        bounded piece (List.mem_cons_of_mem first member)
      have others := length_flatten_le laterBounded
      rw [List.flatten_cons, List.length_append, List.length_cons,
        Nat.add_one_mul] at total
      intro piece member
      rcases List.mem_cons.mp member with isFirst | isLater
      · rw [isFirst]
        omega
      · exact inductionHypothesis laterBounded (by omega) piece isLater

/-- Full pieces have as many bytes as their places. -/
theorem length_flatten_of_full
    (full : ∀ piece ∈ pieces, piece.length = size) :
    pieces.flatten.length = pieces.length * size := by
  rw [List.length_flatten, List.map_congr_left full, List.map_const',
    List.sum_replicate_nat]

/-- Full pieces are written one behind the other. -/
theorem writePieces_numbered_of_full
    (full : ∀ piece ∈ pieces, piece.length = size) :
    writePieces size [] (numbered pieces) = pieces.flatten := by
  induction pieces using List.reverseRecOn with
  | nil =>
      rfl
  | append_singleton pieces last inductionHypothesis =>
      have earlier : ∀ piece ∈ pieces, piece.length = size :=
        fun piece member => full piece (List.mem_append_left _ member)
      rw [writePieces_numbered_concat, inductionHypothesis earlier,
        ← length_flatten_of_full earlier, overwrite_at_end,
        List.flatten_append, List.flatten_singleton]

/--
Numbered pieces written to their places give the whole exactly if all but the
last are full.
-/
theorem writePieces_numbered_iff
    (bounded : ∀ piece ∈ pieces, piece.length ≤ size) :
    writePieces size [] (numbered pieces) = pieces.flatten ↔
      ∀ piece ∈ pieces.dropLast, piece.length = size := by
  cases pieces using List.reverseRecOn with
  | nil =>
      simp [numbered, writePieces]
  | append_singleton pieces last =>
      have earlier : ∀ piece ∈ pieces, piece.length ≤ size :=
        fun piece member => bounded piece (List.mem_append_left _ member)
      rw [List.dropLast_concat]
      constructor
      · intro same
        have lengths := congrArg List.length same
        rw [length_writePieces_numbered_concat earlier, List.flatten_append,
          List.flatten_singleton, List.length_append] at lengths
        exact length_eq_of_length_flatten earlier (by omega)
      · intro full
        rw [writePieces_numbered_concat, writePieces_numbered_of_full full,
          ← length_flatten_of_full full, overwrite_at_end,
          List.flatten_append, List.flatten_singleton]

end Numbered

end FileStore
