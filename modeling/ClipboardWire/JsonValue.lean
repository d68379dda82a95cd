import Mathlib.Data.List.Basic

namespace JsonValue

/-!
# JSON values and how records are read from them

A JSON text stands for a value; the members of an object keep their order and
may repeat a name.  A record is read from an object by the names of its fields
or from an array by their positions; a repeated field is an error, an unknown
one is skipped.  A tagged union has one more member, the tag, which says which
variant the others are read as.

The module is independent of any particular record.
-/

/-- A JSON value; only integers keep their value. -/
inductive Json where
  | null
  | bool (value : Bool)
  | integer (value : Int)
  | float
  | string (text : String)
  | array (items : List Json)
  | object (members : List (String × Json))

variable {Value : Type}

namespace Json

/-- The text of a string. -/
def string? : Json → Option String
  | .string text => some text
  | _ => none

/-- An integer between two bounds. -/
def integerIn? (least greatest : Int) : Json → Option Int
  | .integer value =>
      if least ≤ value ∧ value ≤ greatest then
        some value
      else
        none
  | _ => none

/--
The members that a record is read from.  In an array the last fields may be
missing when they have defaults.
-/
def fields? (names : List String) (needed : Nat) :
    Json → Option (List (String × Json))
  | .object members =>
      some members
  | .array items =>
      if needed ≤ items.length ∧ items.length ≤ names.length then
        some (names.zip items)
      else
        none
  | _ =>
      none

end Json

/-- The values of all members with a name. -/
def valuesOf (name : String) (members : List (String × Json)) : List Json :=
  (members.filter (·.1 = name)).map Prod.snd

@[simp] theorem valuesOf_nil (name : String) : valuesOf name [] = [] := by
  rfl

@[simp] theorem valuesOf_cons_self
    (name : String)
    (value : Json)
    (rest : List (String × Json)) :
    valuesOf name ((name, value) :: rest) = value :: valuesOf name rest := by
  simp [valuesOf]

@[simp] theorem valuesOf_cons_of_ne
    {name other : String}
    (different : other ≠ name)
    (value : Json)
    (rest : List (String × Json)) :
    valuesOf name ((other, value) :: rest) = valuesOf name rest := by
  simp [valuesOf, different]

@[simp] theorem valuesOf_append
    (name : String)
    (first second : List (String × Json)) :
    valuesOf name (first ++ second) =
      valuesOf name first ++ valuesOf name second := by
  simp [valuesOf]

/-- A field that has to be there exactly once. -/
def required?
    (read : Json → Option Value)
    (name : String)
    (members : List (String × Json)) :
    Option Value :=
  match valuesOf name members with
  | [value] => read value
  | _ => none

/-- A field that may be missing or null. -/
def optional?
    (read : Json → Option Value)
    (name : String)
    (members : List (String × Json)) :
    Option (Option Value) :=
  match valuesOf name members with
  | [] | [.null] => some none
  | [value] => (read value).map some
  | _ => none

/-- A field that stands once is read from its value. -/
theorem required?_of_valuesOf
    {read : Json → Option Value}
    {name : String}
    {members : List (String × Json)}
    {json : Json}
    (values : valuesOf name members = [json]) :
    required? read name members = read json := by
  rw [required?, values]

/-- A field that is left out when it is absent is read back. -/
theorem optional?_of_valuesOf
    {read : Json → Option Value}
    {name : String}
    {members : List (String × Json)}
    (json : Value → Json)
    (readsBack : ∀ value, read (json value) = some value)
    (notNull : ∀ value, json value ≠ .null)
    {value : Option Value}
    (values : valuesOf name members = value.toList.map json) :
    optional? read name members = some value := by
  cases value with
  | none =>
      simp only [optional?, values, Option.toList_none, List.map_nil]
  | some value =>
      simp only [optional?, values, Option.toList_some, List.map_cons,
        List.map_nil]
      split
      · rename_i isNil
        cases isNil
      · rename_i isNull
        exact (notNull value (List.cons.inj isNull).1).elim
      · rename_i only
        obtain ⟨rfl, -⟩ := List.cons.inj only
        rw [readsBack, Option.map_some]
      · rename_i noValue _ other
        exact (other _ rfl).elim

/--
A tagged union: the tag says which variant to read from the other members, or
from the rest of an array.
-/
def tagged?
    (tag : String)
    (variants : String → Option (Json → Option Value)) :
    Json → Option Value
  | .object members =>
      match valuesOf tag members with
      | [.string name] =>
          (variants name).bind fun read =>
            read (.object (members.filter (·.1 ≠ tag)))
      | _ => none
  | .array (.string name :: items) =>
      (variants name).bind fun read => read (.array items)
  | _ =>
      none

/-- An object whose tag names no variant is not read. -/
theorem tagged?_eq_none
    {tag name : String}
    {variants : String → Option (Json → Option Value)}
    {members : List (String × Json)}
    (member : (tag, .string name) ∈ members)
    (unknown : variants name = none) :
    tagged? tag variants (.object members) = none := by
  have isValue : .string name ∈ valuesOf tag members :=
    List.mem_map_of_mem (f := Prod.snd)
      (List.mem_filter.mpr ⟨member, by simp⟩)
  simp only [tagged?]
  split
  · rename_i other only
    rw [only, List.mem_singleton, Json.string.injEq] at isValue
    rw [← isValue, unknown, Option.bind_none]
  · rfl

end JsonValue
