import Mathlib.Data.Int.Basic
import Mathlib.Data.List.Basic
import Mathlib.Data.UInt

namespace Toml

/-!
# Records in TOML documents

A document is a table of named values.  A record is read from a table by
visiting its entries in order: each one fills the slot of its field, and an
entry without a slot, a second entry for a field and a value of the wrong type
are errors.  What the text of a document looks like is left to a format; all
that is asked of it is that a table that was written is read back, also below
a comment.
-/

/-- A value; kinds that no record here has are told apart from nothing. -/
inductive Value where
  | string (text : String)
  | integer (number : Int)
  | boolean (value : Bool)
  | table (entries : List (String × Value))
  | other

mutual

/-- Equality of values is decidable. -/
def Value.decEq : (left right : Value) → Decidable (left = right)
  | .string left, .string right => decidable_of_iff (left = right) (by simp)
  | .integer left, .integer right => decidable_of_iff (left = right) (by simp)
  | .boolean left, .boolean right => decidable_of_iff (left = right) (by simp)
  | .table left, .table right =>
      have := Value.decEqEntries left right
      decidable_of_iff (left = right) (by simp)
  | .other, .other => isTrue rfl
  | .string _, .integer _ | .string _, .boolean _ | .string _, .table _
  | .string _, .other | .integer _, .string _ | .integer _, .boolean _
  | .integer _, .table _ | .integer _, .other | .boolean _, .string _
  | .boolean _, .integer _ | .boolean _, .table _ | .boolean _, .other
  | .table _, .string _ | .table _, .boolean _ | .table _, .integer _
  | .table _, .other | .other, .string _ | .other, .integer _
  | .other, .boolean _ | .other, .table _ => isFalse (by simp)

/-- Equality of the entries of a table is decidable. -/
def Value.decEqEntries :
    (left right : List (String × Value)) → Decidable (left = right)
  | [], [] => isTrue rfl
  | [], _ :: _ | _ :: _, [] => isFalse (by simp)
  | (leftName, left) :: leftRest, (rightName, right) :: rightRest =>
      have := Value.decEq left right
      have := Value.decEqEntries leftRest rightRest
      decidable_of_iff
        (leftName = rightName ∧ left = right ∧ leftRest = rightRest)
        (by simp [and_assoc])

end

instance : DecidableEq Value :=
  Value.decEq

/-- A table, in the order of its document. -/
abbrev Table :=
  List (String × Value)

/-- A comment line with an empty line below it. -/
def comment (line : String) : String :=
  "# " ++ line ++ "\n\n"

/-- How tables are written and read. -/
structure Format where
  /-- `toml::to_string`. -/
  serialize : Table → Except String String
  /-- `toml::from_str`, up to the table. -/
  parse : String → Except String Table
  /-- Writing and reading are inverse, also below a one-line comment. -/
  parse_serialize :
    ∀ {table text line},
      serialize table = .ok text →
        '\n' ∉ line.toList →
          parse (comment line ++ text) = .ok table

/-- A document without the comment at its start. -/
def withoutComment (source : String) : String :=
  if source.toList.head? = some '#' then
    String.ofList ((source.toList.dropWhile (· ≠ '\n')).drop 2)
  else
    source

/-- The comment that was put before a document is taken off again. -/
theorem withoutComment_comment
    {line : String}
    (oneLine : '\n' ∉ line.toList)
    (text : String) :
    withoutComment (comment line ++ text) = text := by
  have atBreak :
      (line.toList ++ '\n' :: '\n' :: text.toList).dropWhile
          (fun c => !decide (c = '\n')) =
        '\n' :: '\n' :: text.toList := by
    rw [List.dropWhile_append_of_pos]
    · simp
    · intro c member
      have different : c ≠ '\n' := fun same => oneLine (same ▸ member)
      simp [different]
  simp [comment, withoutComment, atBreak]

/-- A format that writes a single document, and reads it among others. -/
def Format.single
    (table : Table)
    (text : String)
    (others : String → Except String Table) :
    Format where
  serialize written :=
    if written = table then
      .ok text
    else
      .error "unsupported"
  parse source :=
    if withoutComment source = text then
      .ok table
    else
      others source
  parse_serialize := by
    intro written result line serialized oneLine
    split at serialized
    · rename_i same
      cases serialized
      rw [withoutComment_comment oneLine, if_pos rfl, same]
    · cases serialized

/-- The single document is written. -/
theorem Format.serialize_single
    {table : Table}
    {text : String}
    {others : String → Except String Table} :
    (Format.single table text others).serialize table = .ok text := by
  simp [Format.single]

/-- The single document is read. -/
theorem Format.parse_single
    {table : Table}
    {text : String}
    {others : String → Except String Table}
    (noComment : text.toList.head? ≠ some '#') :
    (Format.single table text others).parse text = .ok table := by
  simp [Format.single, withoutComment, noComment]

/-- Another document is read as the others are. -/
theorem Format.parse_single_of_ne
    {table : Table}
    {text source : String}
    {others : String → Except String Table}
    (noComment : source.toList.head? ≠ some '#')
    (different : source ≠ text) :
    (Format.single table text others).parse source = others source := by
  simp [Format.single, withoutComment, noComment, different]

/-- What is wrong with a field. -/
inductive Problem where
  | unknownField
  | duplicateField
  | missingField
  | invalidType (expected : String)
  | invalidValue (reason : String)
  deriving DecidableEq, Repr

/-- What is wrong with a document, and where. -/
structure Error where
  path : List String
  problem : Problem
  deriving DecidableEq, Repr

/-- An error below a field. -/
def Error.below (field : String) (error : Error) : Error :=
  { error with path := field :: error.path }

namespace Value

/-- Read a string. -/
def asString : Value → Except Error String
  | .string text => .ok text
  | _ => .error ⟨[], .invalidType "a string"⟩

/-- Read a boolean. -/
def asBool : Value → Except Error Bool
  | .boolean value => .ok value
  | _ => .error ⟨[], .invalidType "a boolean"⟩

/-- Read an unsigned number of 64 bits. -/
def asUInt64 : Value → Except Error UInt64
  | .integer number =>
      if 0 ≤ number ∧ number < 2 ^ 64 then
        .ok (.ofNat number.toNat)
      else
        .error ⟨[], .invalidValue "expected an unsigned integer"⟩
  | _ =>
      .error ⟨[], .invalidType "an integer"⟩

/-- The value of an unsigned number. -/
def ofUInt64 (number : UInt64) : Value :=
  .integer number.toNat

/-- Read a string that a parser accepts. -/
def asParsed
    {Result : Type}
    (parse : String → Option Result)
    (reason : String)
    (value : Value) :
    Except Error Result := do
  let text ← value.asString
  match parse text with
  | some result => .ok result
  | none => .error ⟨[], .invalidValue reason⟩

/-- Read a table. -/
def asTable : Value → Except Error Table
  | .table entries => .ok entries
  | _ => .error ⟨[], .invalidType "a table"⟩

@[simp] theorem asUInt64_ofUInt64 (number : UInt64) :
    (ofUInt64 number).asUInt64 = .ok number := by
  have bound := number.toNat_lt
  have inRange :
      (0 : Int) ≤ number.toNat ∧ (number.toNat : Int) < 2 ^ 64 := by
    omega
  simp only [ofUInt64, asUInt64, if_pos inRange, Int.toNat_natCast,
    UInt64.ofNat_toNat]

end Value

/-- Fill the slot of a field that has not been seen yet. -/
def fill
    {Field : Type}
    (slot : Option Field)
    (name : String)
    (read : Except Error Field) :
    Except Error (Option Field) :=
  match slot with
  | some _ =>
      .error ⟨[name], .duplicateField⟩
  | none =>
      match read with
      | .ok value => .ok (some value)
      | .error error => .error (error.below name)

/-- The value of a field that must be there. -/
def required
    {Field : Type}
    (slot : Option Field)
    (name : String) :
    Except Error Field :=
  match slot with
  | some value => .ok value
  | none => .error ⟨[name], .missingField⟩

@[simp] theorem fill_none_ok
    {Field : Type}
    (name : String)
    (value : Field) :
    fill none name (.ok value) = .ok (some value) := by
  rfl

@[simp] theorem required_some
    {Field : Type}
    (name : String)
    (value : Field) :
    required (some value) name = .ok value := by
  rfl

end Toml
