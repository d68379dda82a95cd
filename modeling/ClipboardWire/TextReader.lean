import Mathlib.Algebra.Group.Nat.Defs
import Mathlib.Data.List.Basic
import Mathlib.Data.Nat.Basic

namespace TextReader

/-!
# Reading numbers and fixed characters from a text

A reader takes what it recognizes from the front of a text and returns the
rest, or fails.  The number reader takes every digit that is there; its limits
are the radix, a bound on the value, an optional bound on the number of digits,
and whether a leading zero may be followed by other digits.  The main result is
that a printed number is read back, whatever follows that is no digit.
-/

/-- A reader of values from the front of a text. -/
abbrev Reader (Value : Type) :=
  List Char → Option (Value × List Char)

/-- The value of a digit: decimal digits, then letters of either case. -/
def toDigit (radix : Nat) (c : Char) : Option Nat :=
  let value : Option Nat :=
    if '0' ≤ c ∧ c ≤ '9' then
      some (c.toNat - '0'.toNat)
    else if 'a' ≤ c ∧ c ≤ 'z' then
      some (c.toNat - 'a'.toNat + 10)
    else if 'A' ≤ c ∧ c ≤ 'Z' then
      some (c.toNat - 'A'.toNat + 10)
    else
      none
  value.filter (· < radix)

/-- What the digits at the front of a text come to. -/
structure Digits where
  value : Nat
  count : Nat
  rest : List Char
  deriving DecidableEq, Repr

/-- Take every digit at the front of a text. -/
def takeDigits (radix : Nat) : Nat → Nat → List Char → Digits
  | value, count, [] =>
      ⟨value, count, []⟩
  | value, count, c :: rest =>
      match toDigit radix c with
      | some digit =>
          takeDigits radix (value * radix + digit) (count + 1) rest
      | none =>
          ⟨value, count, c :: rest⟩

/-- The limits of a number. -/
structure NumberFormat where
  radix : Nat
  bound : Nat
  maxDigits : Option Nat
  allowZeroPrefix : Bool
  deriving DecidableEq, Repr

/-- The limits that a number of some digits breaks. -/
def NumberFormat.Rejects
    (format : NumberFormat)
    (first : Option Char)
    (digits : Digits) : Prop :=
  digits.count = 0 ∨
    (∃ most ∈ format.maxDigits, most < digits.count) ∨
      (format.allowZeroPrefix = false ∧
        first = some '0' ∧ 1 < digits.count) ∨
        format.bound ≤ digits.value

instance (format : NumberFormat) (first : Option Char) (digits : Digits) :
    Decidable (format.Rejects first digits) :=
  inferInstanceAs (Decidable (_ ∨ _))

/-- Read a number within the limits of a format. -/
def readNumber (format : NumberFormat) : Reader Nat :=
  fun input =>
    let digits := takeDigits format.radix 0 0 input
    if format.Rejects input.head? digits then
      none
    else
      some (digits.value, digits.rest)

/-- Read one given character. -/
def readChar (expected : Char) : Reader Unit
  | [] =>
      none
  | c :: rest =>
      if c = expected then
        some ((), rest)
      else
        none

/-- Read a separator in front of every item but the first. -/
def readSeparator
    {Value : Type}
    (separator : Char)
    (index : Nat)
    (read : Reader Value) :
    Reader Value :=
  fun input =>
    if index = 0 then
      read input
    else
      match readChar separator input with
      | none => none
      | some ((), rest) => read rest

/-- A text does not go on with a digit. -/
def StopsDigits (radix : Nat) (rest : List Char) : Prop :=
  ∀ c ∈ rest.head?, toDigit radix c = none

theorem stopsDigits_nil (radix : Nat) : StopsDigits radix [] := by
  simp [StopsDigits]

theorem stopsDigits_cons {radix : Nat} {c : Char} {rest : List Char} :
    StopsDigits radix (c :: rest) ↔ toDigit radix c = none := by
  simp [StopsDigits]

/-- A printed digit has the value it was printed for. -/
theorem toDigit_digitChar
    {radix digit : Nat}
    (small : radix ≤ 16)
    (below : digit < radix) :
    toDigit radix (Nat.digitChar digit) = some digit := by
  have checked :
      ∀ value : Fin 16,
        toDigit 16 (Nat.digitChar value) = some value.val := by
    decide
  have read := checked ⟨digit, Nat.lt_of_lt_of_le below small⟩
  simp only [toDigit, Option.filter_eq_some_iff] at read ⊢
  exact ⟨read.1, by simpa using below⟩

/-- Nothing is taken from a text that does not start with a digit. -/
theorem takeDigits_of_stops
    {radix : Nat}
    {rest : List Char}
    (stops : StopsDigits radix rest)
    (value count : Nat) :
    takeDigits radix value count rest = ⟨value, count, rest⟩ := by
  cases rest with
  | nil =>
      rfl
  | cons c rest =>
      simp only [takeDigits, stopsDigits_cons.mp stops]

theorem takeDigits_append
    {radix : Nat}
    (small : radix ≤ 16)
    {digits : List Nat}
    (below : ∀ digit ∈ digits, digit < radix)
    (value count : Nat)
    (rest : List Char) :
    takeDigits radix value count (digits.map Nat.digitChar ++ rest) =
      takeDigits radix
        (digits.foldl (fun current digit => current * radix + digit) value)
        (count + digits.length) rest := by
  induction digits generalizing value count with
  | nil =>
      rfl
  | cons digit later inductionHypothesis =>
      have head : toDigit radix (Nat.digitChar digit) = some digit :=
        toDigit_digitChar small (below digit List.mem_cons_self)
      simp only [List.map_cons, List.cons_append, takeDigits, head,
        List.foldl_cons, List.length_cons]
      rw [inductionHypothesis
        (fun other member => below other (List.mem_cons_of_mem _ member))]
      congr 1
      omega

/-- A printed number is a list of digits that comes to the number. -/
theorem exists_digits
    {radix : Nat}
    (large : 1 < radix)
    (number : Nat) :
    ∃ digits : List Nat,
      Nat.toDigits radix number = digits.map Nat.digitChar ∧
        (∀ digit ∈ digits, digit < radix) ∧
          ∀ value,
            digits.foldl (fun current digit => current * radix + digit)
                value =
              value * radix ^ digits.length + number := by
  induction number using Nat.strongRecOn with
  | ind number inductionHypothesis =>
      by_cases single : number < radix
      · refine ⟨[number], ?_, ?_, ?_⟩
        · rw [Nat.toDigits_of_lt_base single]
          rfl
        · simpa using single
        · intro value
          simp
      · have smaller : number / radix < number :=
          Nat.div_lt_self (by omega) large
        obtain ⟨leading, printed, below, comesTo⟩ :=
          inductionHypothesis (number / radix) smaller
        refine ⟨leading ++ [number % radix], ?_, ?_, ?_⟩
        · rw [Nat.toDigits_of_base_le large (by omega), printed]
          simp
        · intro digit member
          rcases List.mem_append.mp member with inLeading | isLast
          · exact below digit inLeading
          · rw [List.mem_singleton.mp isLast]
            exact Nat.mod_lt _ (by omega)
        · intro value
          rw [List.foldl_append, comesTo]
          simp only [List.foldl_cons, List.foldl_nil, List.length_append,
            List.length_singleton, Nat.pow_succ]
          rw [Nat.add_mul, Nat.mul_assoc, Nat.add_assoc,
            Nat.mul_comm (number / radix), Nat.div_add_mod]

/-- All the digits of a printed number are taken, and nothing after them. -/
theorem takeDigits_toDigits
    {radix : Nat}
    (large : 1 < radix)
    (small : radix ≤ 16)
    (number : Nat)
    {rest : List Char}
    (stops : StopsDigits radix rest) :
    takeDigits radix 0 0 (Nat.toDigits radix number ++ rest) =
      ⟨number, (Nat.toDigits radix number).length, rest⟩ := by
  obtain ⟨digits, printed, below, comesTo⟩ := exists_digits large number
  rw [printed, takeDigits_append small below, comesTo,
    takeDigits_of_stops stops]
  simp

/-- Only zero is printed with a leading zero. -/
theorem eq_zero_of_head_toDigits
    {radix : Nat}
    (large : 1 < radix)
    {number : Nat}
    (head : (Nat.toDigits radix number).head? = some '0') :
    number = 0 := by
  induction number using Nat.strongRecOn with
  | ind number inductionHypothesis =>
      by_cases single : number < radix
      · rw [Nat.toDigits_of_lt_base single] at head
        simpa using head
      · rw [Nat.toDigits_of_base_le large (by omega),
          List.head?_append_of_ne_nil _ Nat.toDigits_ne_nil] at head
        have quotient : number / radix = 0 :=
          inductionHypothesis _
            (Nat.div_lt_self (by omega) large) head
        rw [Nat.div_eq_zero_iff] at quotient
        omega

/-- A printed number within the limits is read back. -/
theorem readNumber_toDigits
    (format : NumberFormat)
    (large : 1 < format.radix)
    (small : format.radix ≤ 16)
    {number : Nat}
    (below : number < format.bound)
    (fits :
      ∀ most ∈ format.maxDigits, number < format.radix ^ most ∧ 0 < most)
    {rest : List Char}
    (stops : StopsDigits format.radix rest) :
    readNumber format (Nat.toDigits format.radix number ++ rest) =
      some (number, rest) := by
  have accepted :
      ¬ format.Rejects (Nat.toDigits format.radix number ++ rest).head?
        ⟨number, (Nat.toDigits format.radix number).length, rest⟩ := by
    rw [List.head?_append_of_ne_nil _ Nat.toDigits_ne_nil]
    rintro
      (noDigit | ⟨most, isMost, tooLong⟩ | ⟨-, zero, several⟩ | tooLarge)
    · exact (Nat.ne_of_gt Nat.length_toDigits_pos) noDigit
    · obtain ⟨bounded, positive⟩ := fits most isMost
      have short := (Nat.length_toDigits_le_iff large positive).mpr bounded
      exact Nat.not_lt_of_le short tooLong
    · rw [eq_zero_of_head_toDigits large zero] at several
      simp at several
    · exact Nat.not_le_of_lt below tooLarge
  simp only [readNumber, takeDigits_toDigits large small number stops,
    if_neg accepted]

/-- Where the digits at the front of a text end. -/
theorem rest_takeDigits
    (radix value count : Nat)
    (input : List Char) :
    (takeDigits radix value count input).rest =
      input.dropWhile fun c => (toDigit radix c).isSome := by
  induction input generalizing value count with
  | nil =>
      rfl
  | cons c rest inductionHypothesis =>
      simp only [takeDigits, List.dropWhile_cons]
      cases toDigit radix c with
      | some digit =>
          simpa using inductionHypothesis _ _
      | none =>
          rfl

end TextReader
