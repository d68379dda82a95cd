import ClipboardWire.JsonValue
import Mathlib.Algebra.BigOperators.Group.List.Basic
import Mathlib.Algebra.GroupWithZero.Nat

namespace JsonText

open JsonValue

/-!
# Compact JSON texts and their size

The text of a string, of a number and of an object whose members are already
texts, without any white space.  Only quotes, backslashes and control
characters are escaped; every other character stands for itself.  The size of
a text is its length in UTF-8, and the size of an object is the sum over its
members.
-/

/-- The characters that stand for one character inside a string. -/
def escapeChar (c : Char) : List Char :=
  if c = '"' then
    ['\\', '"']
  else if c = '\\' then
    ['\\', '\\']
  else if c.toNat = 0x08 then
    ['\\', 'b']
  else if c.toNat = 0x09 then
    ['\\', 't']
  else if c.toNat = 0x0A then
    ['\\', 'n']
  else if c.toNat = 0x0C then
    ['\\', 'f']
  else if c.toNat = 0x0D then
    ['\\', 'r']
  else if c.toNat < 0x20 then
    ['\\', 'u', '0', '0', Nat.digitChar (c.toNat / 16),
      Nat.digitChar (c.toNat % 16)]
  else
    [c]

/-- The text of a string. -/
def stringText (text : String) : List Char :=
  '"' :: (text.toList.flatMap escapeChar ++ ['"'])

/-- The text of a number. -/
def numberText (value : Int) : List Char :=
  (toString value).toList

/-- The text of one member of an object. -/
def memberText (member : String × List Char) : List Char :=
  stringText member.1 ++ ':' :: member.2

/-- The text of an object, from the texts of its values. -/
def objectText (members : List (String × List Char)) : List Char :=
  '{' :: ([','].intercalate (members.map memberText) ++ ['}'])

mutual

/-- The text of a value; a float does not keep its digits. -/
def valueText? : Json → Option (List Char)
  | .null =>
      some "null".toList
  | .bool value =>
      some (toString value).toList
  | .integer value =>
      some (numberText value)
  | .float =>
      none
  | .string text =>
      some (stringText text)
  | .array items =>
      (itemTexts? items).map fun texts =>
        '[' :: ([','].intercalate texts ++ [']'])
  | .object members =>
      (memberTexts? members).map objectText

/-- The texts of the items of an array. -/
def itemTexts? : List Json → Option (List (List Char))
  | [] =>
      some []
  | item :: rest =>
      match valueText? item, itemTexts? rest with
      | some text, some texts => some (text :: texts)
      | _, _ => none

/-- The texts of the values of an object. -/
def memberTexts? : List (String × Json) → Option (List (String × List Char))
  | [] =>
      some []
  | (name, value) :: rest =>
      match valueText? value, memberTexts? rest with
      | some text, some texts => some ((name, text) :: texts)
      | _, _ => none

end

/-- The length of a text in UTF-8. -/
def size (text : List Char) : Nat :=
  (text.map Char.utf8Size).sum

@[simp] theorem size_nil : size [] = 0 := by
  rfl

@[simp] theorem size_cons (c : Char) (text : List Char) :
    size (c :: text) = c.utf8Size + size text := by
  simp [size]

@[simp] theorem size_append (first second : List Char) :
    size (first ++ second) = size first + size second := by
  simp [size]

/-- The size of a text is the length of the string in bytes. -/
theorem utf8ByteSize_ofList (text : List Char) :
    (String.ofList text).utf8ByteSize = size text := by
  induction text with
  | nil =>
      rfl
  | cons c rest inductionHypothesis =>
      have split :
          String.ofList (c :: rest) =
            String.singleton c ++ String.ofList rest := by
        rw [← String.toList_inj]
        simp
      rw [split, String.utf8ByteSize_append, inductionHypothesis,
        String.utf8ByteSize_singleton, size_cons]

/-- A character of one byte that is not escaped. -/
def Plain (c : Char) : Prop :=
  escapeChar c = [c] ∧ c.utf8Size = 1

instance (c : Char) : Decidable (Plain c) :=
  inferInstanceAs (Decidable (_ ∧ _))

/-- Plain characters stand for themselves, in one byte each. -/
private theorem size_flatMap_of_plain
    {text : List Char}
    (plain : ∀ c ∈ text, Plain c) :
    size (text.flatMap escapeChar) = text.length := by
  induction text with
  | nil =>
      rfl
  | cons c rest inductionHypothesis =>
      obtain ⟨notEscaped, oneByte⟩ := plain c (List.mem_cons_self)
      have others :=
        inductionHypothesis (fun other member =>
          plain other (List.mem_cons_of_mem c member))
      rw [List.flatMap_cons, size_append, others, notEscaped,
        size_cons, size_nil, oneByte, List.length_cons]
      exact Nat.add_comm 1 rest.length

/-- A string of plain characters costs its length and two quotes. -/
theorem size_stringText_of_plain
    {text : String}
    (plain : ∀ c ∈ text.toList, Plain c) :
    size (stringText text) = text.toList.length + 2 := by
  have quote : '"'.utf8Size = 1 := by
    decide
  rw [stringText, size_cons, size_append, size_flatMap_of_plain plain,
    size_cons, size_nil, quote]
  omega

/-- What a member adds to an object: its text and a separator. -/
def memberSize (member : String × List Char) : Nat :=
  size (stringText member.1) + size member.2 + 2

/-- Joining nonempty lists of texts adds one separator for each but one. -/
private theorem size_intercalate
    (first : List Char)
    (rest : List (List Char)) :
    size ([','].intercalate (first :: rest)) =
      size first + (rest.map fun text => size text + 1).sum := by
  have comma : ','.utf8Size = 1 := by
    decide
  induction rest generalizing first with
  | nil =>
      simp [List.intercalate]
  | cons second others inductionHypothesis =>
      have later := inductionHypothesis second
      simp only [List.intercalate, List.intersperse_cons_cons,
        List.flatten_cons, size_append, size_cons, size_nil,
        comma] at later ⊢
      rw [later, List.map_cons, List.sum_cons]
      omega

/-- The size of an object is the sum over its members, plus one. -/
theorem size_objectText
    {members : List (String × List Char)}
    (nonempty : members ≠ []) :
    size (objectText members) = (members.map memberSize).sum + 1 := by
  have braces : '{'.utf8Size = 1 ∧ '}'.utf8Size = 1 := by
    decide
  have colon : ':'.utf8Size = 1 := by
    decide
  have member (each : String × List Char) :
      size (memberText each) + 1 = memberSize each := by
    rw [memberText, size_append, size_cons, colon, memberSize]
    omega
  cases members with
  | nil =>
      exact (nonempty rfl).elim
  | cons first rest =>
      rw [objectText, size_cons, size_append, size_cons, size_nil,
        List.map_cons, size_intercalate, braces.1, braces.2,
        List.map_map, List.map_cons, List.sum_cons, ← member first]
      have others :
          rest.map ((fun text => size text + 1) ∘ memberText) =
            rest.map memberSize :=
        List.map_congr_left (fun each _ => member each)
      rw [others]
      omega

end JsonText
