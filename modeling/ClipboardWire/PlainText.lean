import Mathlib.Data.List.DropRight
import ClipboardWire.TextReader

namespace PlainText

/-!
# Plain text of settings and environment variables

The string functions of the standard library that configuration goes through:
cutting at the end, prefixes, splitting, and unsigned numbers in decimal.
-/

/-- `str::trim_end_matches` with a set of characters. -/
def trimEndMatches (pattern : List Char) (text : String) : String :=
  String.ofList (text.toList.rdropWhile fun c => pattern.contains c)

/-- `str::starts_with`. -/
def startsWith (start text : String) : Bool :=
  start.toList.isPrefixOf text.toList

/-- `str::strip_prefix`. -/
def stripPrefix (start text : String) : Option String :=
  if startsWith start text then
    some (String.ofList (text.toList.drop start.toList.length))
  else
    none

@[simp] theorem stripPrefix_append (start rest : String) :
    stripPrefix start (start ++ rest) = some rest := by
  simp [stripPrefix, startsWith, List.isPrefixOf_iff_prefix]

/-- A text that is stripped of a prefix starts with it. -/
theorem stripPrefix_eq_some {start text rest : String} :
    stripPrefix start text = some rest ↔ text = start ++ rest := by
  constructor
  · intro stripped
    simp only [stripPrefix, startsWith, List.isPrefixOf_iff_prefix] at stripped
    split at stripped
    · rename_i within
      obtain ⟨trailing, whole⟩ := within
      cases stripped
      rw [← String.toList_inj, String.toList_append, String.toList_ofList,
        ← whole, List.drop_left]
    · cases stripped
  · rintro rfl
    exact stripPrefix_append start rest

/-- Split a text at the first separator. -/
def splitChars (separator : Char) :
    List Char → Option (List Char × List Char)
  | [] =>
      none
  | c :: rest =>
      if c = separator then
        some ([], rest)
      else
        match splitChars separator rest with
        | some (before, after) => some (c :: before, after)
        | none => none

/-- `str::split_once`. -/
def splitOnce (separator : Char) (text : String) : Option (String × String) :=
  match splitChars separator text.toList with
  | some (before, after) => some (String.ofList before, String.ofList after)
  | none => none

/-- `usize::from_str`, for 64 bits: an optional plus sign and decimal digits. -/
def parseUsize (text : String) : Option UInt64 :=
  let unsigned :=
    match text.toList with
    | '+' :: rest => rest
    | whole => whole
  let digits := TextReader.takeDigits 10 0 0 unsigned
  if digits.count ≠ 0 ∧ digits.rest = [] ∧ digits.value < 2 ^ 64 then
    some (.ofNat digits.value)
  else
    none

theorem splitChars_append
    {separator : Char}
    {before : List Char}
    (absent : separator ∉ before)
    (after : List Char) :
    splitChars separator (before ++ separator :: after) =
      some (before, after) := by
  induction before with
  | nil =>
      simp [splitChars]
  | cons c later inductionHypothesis =>
      rw [List.mem_cons, not_or] at absent
      have different : c ≠ separator := fun same => absent.1 same.symm
      simp [splitChars, different, inductionHypothesis absent.2]

/-- What stands before the first separator does not contain it. -/
theorem of_splitChars
    {separator : Char}
    {text before after : List Char}
    (split : splitChars separator text = some (before, after)) :
    separator ∉ before ∧ text = before ++ separator :: after := by
  induction text generalizing before with
  | nil =>
      cases split
  | cons c rest inductionHypothesis =>
      simp only [splitChars] at split
      split at split
      · rename_i found
        cases split
        exact ⟨List.not_mem_nil, by rw [found]; rfl⟩
      · rename_i different
        split at split
        · rename_i leading trailing found
          cases split
          obtain ⟨absent, same⟩ := inductionHypothesis found
          refine ⟨?_, by rw [same, List.cons_append]⟩
          rw [List.mem_cons, not_or]
          exact ⟨fun same => different same.symm, absent⟩
        · cases split

/-- The first separator stands behind a text without it. -/
theorem findIdx?_separator
    {separator : Char}
    {before : List Char}
    (absent : separator ∉ before)
    (after : List Char) :
    (before ++ separator :: after).findIdx? (· = separator) =
      some before.length := by
  have none : before.findIdx? (· = separator) = none := by
    rw [List.findIdx?_eq_none_iff]
    intro c member
    exact decide_eq_false fun same => absent (same ▸ member)
  rw [List.findIdx?_append, none]
  simp [List.findIdx?_cons]

/-- The text around the first separator. -/
theorem splitOnce_eq_some
    {separator : Char}
    {text before after : String} :
    splitOnce separator text = some (before, after) ↔
      separator ∉ before.toList ∧
        text.toList = before.toList ++ separator :: after.toList := by
  constructor
  · intro split
    simp only [splitOnce] at split
    split at split
    · rename_i leading trailing found
      cases split
      simpa using of_splitChars found
    · cases split
  · rintro ⟨absent, same⟩
    simp [splitOnce, same, splitChars_append absent]

end PlainText
