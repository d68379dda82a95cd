import ClipboardWire.Protocol
import Mathlib.Data.List.DropRight

namespace ClipboardWire

/-!
# Paths and the names of received files

Paths are modelled by the components they resolve to, so joining a name that
contains separators or dots can leave the directory; only the checks of
`sanitize_filename` prevent it.  The name functions are those of
`core/src/client/file.rs` together with the parts of `std::path` they use, on
a platform whose separator is the slash.
-/

/-- A location: the components that lead to it from the root. -/
structure Path where
  components : List String
  deriving DecidableEq, Repr

namespace Path

/-- Follow one component of a relative path. -/
def follow (path : Path) (component : String) : Path :=
  if component = "" ∨ component = "." then
    path
  else if component = ".." then
    ⟨path.components.dropLast⟩
  else
    ⟨path.components ++ [component]⟩

/-- `Path::join`, resolved: an absolute argument replaces the directory. -/
@[irreducible] def join (dir : Path) (name : String) : Path :=
  let start :=
    if name.toList.head? = some '/' then
      ⟨[]⟩
    else
      dir
  ((name.toList.splitOn '/').map String.ofList).foldl follow start

/-- A direct child of a directory lies exactly one component below it. -/
def DirectChild (dir path : Path) : Prop :=
  ∃ name, path.components = dir.components ++ [name]

/-- `Path::file_name` of a relative name. -/
def fileName (name : String) : Option String :=
  let components := (name.toList.splitOn '/').map String.ofList
  match
    (components.filter (fun part => part ≠ "" ∧ part ≠ ".")).getLast?
  with
  | some last => if last = ".." then none else some last
  | none => none

/-- Split a file name at its last dot; a leading dot does not count. -/
def rsplitFileAtDot (file : String) : Option String × Option String :=
  let after := file.toList.rtakeWhile (· ≠ '.')
  let upToDot := file.toList.rdropWhile (· ≠ '.')
  if file = ".." ∨ upToDot = ['.'] then
    (some file, none)
  else if upToDot = [] then
    (none, some (String.ofList after))
  else
    (some (String.ofList upToDot.dropLast), some (String.ofList after))

/-- `Path::file_stem`. -/
def fileStem (name : String) : Option String :=
  (fileName name).bind fun file =>
    (rsplitFileAtDot file).1.or (rsplitFileAtDot file).2

/-- `Path::extension`. -/
def extension (name : String) : Option String :=
  (fileName name).bind fun file =>
    (rsplitFileAtDot file).1.bind fun _ => (rsplitFileAtDot file).2

end Path

/-- `char::is_whitespace`: the Unicode property `White_Space`. -/
def isWhiteSpace (c : Char) : Bool :=
  let code := c.toNat
  (9 ≤ code && code ≤ 13) || code == 0x20 || code == 0x85 ||
    code == 0xA0 || code == 0x1680 ||
    (0x2000 ≤ code && code ≤ 0x200A) ||
    code == 0x2028 || code == 0x2029 || code == 0x202F ||
    code == 0x205F || code == 0x3000

/-- `char::is_control`: the Unicode category `Cc`. -/
def isControl (c : Char) : Bool :=
  c.toNat < 0x20 || (0x7F ≤ c.toNat && c.toNat < 0xA0)

/-- `str::trim`. -/
def trim (text : List Char) : List Char :=
  (text.dropWhile isWhiteSpace).rdropWhile isWhiteSpace

/-- What `sanitize_filename` makes of one character. -/
def sanitizeChar (c : Char) : Char :=
  if c = '/' ∨ c = '\\' ∨ c = '\x00' ∨ c = ':' then
    '_'
  else if isControl c then
    '_'
  else
    c

/-- `sanitize_filename`. -/
@[irreducible] def sanitizeFilename (name : String) : String :=
  let sanitised := (trim name.toList).map sanitizeChar
  let cleaned := String.ofList (sanitised.rdropWhile (· = '.'))
  if cleaned = "" ∨ cleaned = "." ∨ cleaned = ".." then
    "received-file"
  else
    cleaned

/-- The candidate that `unique_path` tries at a number. -/
def numberedName (name : String) (number : Nat) : String :=
  let stem := (Path.fileStem name).getD name
  match Path.extension name with
  | some ext => stem ++ " (" ++ toString number ++ ")." ++ ext
  | none => stem ++ " (" ++ toString number ++ ")"

/-- The last resort of `unique_path`: the name with a random identifier. -/
def fallbackName (name : String) (random : Uuid) : String :=
  name ++ "-" ++ random.hyphenated

/-- `unique_path`: the first candidate that is not taken. -/
def uniquePath
    (taken : Path → Bool)
    (dir : Path)
    (name : String)
    (random : Uuid) :
    Path :=
  if taken (dir.join name) then
    match (List.range' 1 9999).find? (fun number =>
        !taken (dir.join (numberedName name number))) with
    | some number => dir.join (numberedName name number)
    | none => dir.join (fallbackName name random)
  else
    dir.join name

/-- The name of the partial file of a transfer. -/
def partialName (fileId : Uuid) : String :=
  fileId.hyphenated ++ ".partial"

/-- A string that names an entry of a directory. -/
structure IsFileName (name : String) : Prop where
  noSlash : '/' ∉ name.toList
  notEmpty : name ≠ ""
  notDot : name ≠ "."
  notDotDot : name ≠ ".."

namespace Path

/-- Without a slash, a name is its own only component. -/
private theorem splitOn_of_noSlash
    {name : String}
    (noSlash : '/' ∉ name.toList) :
    (name.toList.splitOn '/').map String.ofList = [name] := by
  rw [List.splitOn_eq_singleton noSlash]
  simp

/-- Joining a file name adds it as the last component. -/
theorem join_of_isFileName
    (dir : Path)
    {name : String}
    (isName : IsFileName name) :
    dir.join name = ⟨dir.components ++ [name]⟩ := by
  have relative : name.toList.head? ≠ some '/' := by
    intro absolute
    exact isName.noSlash (List.mem_of_mem_head? absolute)
  simp [join, splitOn_of_noSlash isName.noSlash, follow, relative,
    isName.notEmpty, isName.notDot, isName.notDotDot]

/-- A file name joined to a directory is a direct child of it. -/
theorem directChild_join
    (dir : Path)
    {name : String}
    (isName : IsFileName name) :
    dir.DirectChild (dir.join name) := by
  rw [join_of_isFileName dir isName]
  exact ⟨name, rfl⟩

/-- Distinct file names give distinct children. -/
theorem join_injective
    {dir : Path}
    {first second : String}
    (firstName : IsFileName first)
    (secondName : IsFileName second)
    (same : dir.join first = dir.join second) :
    first = second := by
  rw [join_of_isFileName dir firstName,
    join_of_isFileName dir secondName, Path.mk.injEq] at same
  exact List.singleton_inj.mp (List.append_cancel_left same)

/-- Without a slash, the file name of a name can only be the name. -/
private theorem fileName_of_noSlash
    {name file : String}
    (noSlash : '/' ∉ name.toList)
    (found : fileName name = some file) :
    file = name := by
  simp only [fileName, splitOn_of_noSlash noSlash] at found
  split at found
  · rename_i last isLast
    have member := List.mem_of_getLast? isLast
    rw [List.mem_filter, List.mem_singleton] at member
    split at found
    · cases found
    · rw [← Option.some.inj found]
      exact member.1
  · cases found

/-- Both sides of the last dot only have characters of the file name. -/
private theorem rsplitFileAtDot_subset
    {file part : String}
    (isPart :
      (rsplitFileAtDot file).1 = some part ∨
        (rsplitFileAtDot file).2 = some part) :
    part.toList ⊆ file.toList := by
  have afterSubset :
      file.toList.rtakeWhile (· ≠ '.') ⊆ file.toList :=
    (List.rtakeWhile_suffix _ _).subset
  have beforeSubset :
      (file.toList.rdropWhile (· ≠ '.')).dropLast ⊆ file.toList :=
    fun _ member => (List.rdropWhile_prefix _ _).subset
      ((List.dropLast_sublist _).subset member)
  simp only [rsplitFileAtDot] at isPart
  split_ifs at isPart
  · rcases isPart with isBefore | isAfter
    · rw [← Option.some.inj isBefore]
      exact fun _ member => member
    · cases isAfter
  · rcases isPart with isBefore | isAfter
    · cases isBefore
    · rw [← Option.some.inj isAfter, String.toList_ofList]
      exact afterSubset
  · rcases isPart with isBefore | isAfter
    · rw [← Option.some.inj isBefore, String.toList_ofList]
      exact beforeSubset
    · rw [← Option.some.inj isAfter, String.toList_ofList]
      exact afterSubset

/-- The stem of a name without slashes has none either. -/
private theorem noSlash_fileStem
    {name : String}
    (noSlash : '/' ∉ name.toList) :
    '/' ∉ ((fileStem name).getD name).toList := by
  cases found : fileStem name with
  | none =>
      exact noSlash
  | some stem =>
      obtain ⟨file, isFile, isStem⟩ := Option.bind_eq_some_iff.mp found
      have same := fileName_of_noSlash noSlash isFile
      subst file
      have isPart :
          (rsplitFileAtDot name).1 = some stem ∨
            (rsplitFileAtDot name).2 = some stem := by
        rcases Option.or_eq_some_iff.mp isStem with before | after
        · exact .inl before
        · exact .inr after.2
      exact fun slash => noSlash (rsplitFileAtDot_subset isPart slash)

/-- The extension of a name without slashes has none either. -/
private theorem noSlash_extension
    {name ext : String}
    (noSlash : '/' ∉ name.toList)
    (found : extension name = some ext) :
    '/' ∉ ext.toList := by
  obtain ⟨file, isFile, isExt⟩ := Option.bind_eq_some_iff.mp found
  have same := fileName_of_noSlash noSlash isFile
  subst file
  obtain ⟨-, -, after⟩ := Option.bind_eq_some_iff.mp isExt
  exact fun slash => noSlash (rsplitFileAtDot_subset (.inr after) slash)

end Path

/-- A string without slashes that has a character other than a dot. -/
private theorem isFileName_of_mem
    {name : String}
    {c : Char}
    (noSlash : '/' ∉ name.toList)
    (member : c ∈ name.toList)
    (notDot : c ≠ '.') :
    IsFileName name := by
  refine ⟨noSlash, ?_, ?_, ?_⟩
  all_goals
    intro same
    subst name
    simp [notDot] at member

/-- Sanitized characters are never slashes. -/
private theorem sanitizeChar_ne_slash (c : Char) :
    sanitizeChar c ≠ '/' := by
  unfold sanitizeChar
  split_ifs with separator control
  · decide
  · decide
  · exact fun same => separator (.inl same)

/-- Whatever a sender calls its file, the sanitized name is a file name. -/
theorem isFileName_sanitizeFilename (name : String) :
    IsFileName (sanitizeFilename name) := by
  simp only [sanitizeFilename]
  split_ifs with unusable
  · exact isFileName_of_mem (c := 'r') (by decide) (by decide) (by decide)
  · simp only [not_or] at unusable
    refine ⟨?_, unusable.1, unusable.2.1, unusable.2.2⟩
    rw [String.toList_ofList]
    intro slash
    obtain ⟨c, -, isSlash⟩ :=
      List.mem_map.mp ((List.rdropWhile_prefix _ _).subset slash)
    exact sanitizeChar_ne_slash c isSlash

example : sanitizeFilename "../etc/passwd" = ".._etc_passwd" := by
  decide +kernel

/-- Decimal digits are not slashes. -/
private theorem noSlash_toDigits (number : Nat) :
    '/' ∉ Nat.toDigits 10 number := by
  intro slash
  have digit :=
    Nat.isDigit_of_mem_toDigits (by decide) (by decide) slash
  revert digit
  decide

/-- Numbering a file name gives a file name. -/
theorem isFileName_numberedName
    {name : String}
    (isName : IsFileName name)
    (number : Nat) :
    IsFileName (numberedName name number) := by
  have stem := Path.noSlash_fileStem isName.noSlash
  have digits := noSlash_toDigits number
  unfold numberedName
  cases found : Path.extension name with
  | some ext =>
      have extension := Path.noSlash_extension isName.noSlash found
      exact isFileName_of_mem (c := '(')
        (by simp [stem, digits, extension]) (by simp) (by decide)
  | none =>
      exact isFileName_of_mem (c := '(')
        (by simp [stem, digits]) (by simp) (by decide)

/-- The characters that identifiers are printed with. -/
def uuidAlphabet : List Char :=
  "0123456789abcdef-".toList

/-- Hexadecimal digits are printed in lower case. -/
private theorem hexDigits_subset (count value : Nat) :
    hexDigits count value ⊆ uuidAlphabet := by
  induction count generalizing value with
  | zero =>
      exact List.nil_subset _
  | succ count inductionHypothesis =>
      have digit :
          ∀ low : Fin 16, Nat.digitChar low ∈ uuidAlphabet := by
        decide
      intro c member
      rcases List.mem_append.mp member with leading | last
      · exact inductionHypothesis _ leading
      · rw [List.mem_singleton] at last
        subst c
        exact digit ⟨value % 16, Nat.mod_lt _ (by decide)⟩

/-- Identifiers print as lower-case hexadecimal digits and hyphens. -/
theorem Uuid.hyphenated_subset (id : Uuid) :
    id.hyphenated.toList ⊆ uuidAlphabet := by
  have digits : id.digits ⊆ uuidAlphabet := hexDigits_subset _ _
  have group (from' count : Nat) :
      (id.digits.drop from').take count ⊆ uuidAlphabet :=
    fun _ member =>
      digits (List.mem_of_mem_drop (List.mem_of_mem_take member))
  have hyphen : '-' ∈ uuidAlphabet := by decide
  simp only [hyphenated, String.toList_ofList, List.append_subset,
    List.cons_subset]
  exact
    ⟨fun _ member => digits (List.mem_of_mem_take member), hyphen,
      group 8 4, hyphen, group 12 4, hyphen, group 16 4, hyphen,
      fun _ member => digits (List.mem_of_mem_drop member)⟩

/-- The last resort of `unique_path` is a file name. -/
theorem isFileName_fallbackName
    {name : String}
    (isName : IsFileName name)
    (random : Uuid) :
    IsFileName (fallbackName name random) := by
  have noSlash : '/' ∉ random.hyphenated.toList := by
    intro slash
    have listed := random.hyphenated_subset slash
    revert listed
    decide
  exact isFileName_of_mem (c := '-')
    (by simp [fallbackName, isName.noSlash, noSlash])
    (by simp [fallbackName]) (by decide)

/-- The name of a partial file is a file name. -/
theorem isFileName_partialName (fileId : Uuid) :
    IsFileName (partialName fileId) := by
  have noSlash : '/' ∉ fileId.hyphenated.toList := by
    intro slash
    have listed := fileId.hyphenated_subset slash
    revert listed
    decide
  exact isFileName_of_mem (c := 'p')
    (by simp [partialName, noSlash])
    (by simp [partialName]) (by decide)

/-- Distinct transfers have distinct partial files. -/
theorem partialName_injective
    {first second : Uuid}
    (same : partialName first = partialName second) :
    first = second := by
  have lists := congrArg String.toList same
  simp only [partialName, String.toList_append] at lists
  exact Uuid.hyphenated_injective
    (String.toList_inj.mp (List.append_cancel_right lists))

/-- The last resort of `unique_path` is never the name of a partial file. -/
theorem fallbackName_ne_partialName
    (name : String)
    (random fileId : Uuid) :
    fallbackName name random ≠ partialName fileId := by
  intro same
  have lists := congrArg String.toList same
  have lasts := congrArg List.getLast? lists
  simp only [fallbackName, partialName, String.toList_append,
    List.getLast?_append] at lasts
  cases last : random.hyphenated.toList.getLast? with
  | none =>
      have empty := List.getLast?_eq_none_iff.mp last
      have length := random.length_hyphenated
      simp [empty] at length
  | some c =>
      have listed :=
        random.hyphenated_subset (List.mem_of_getLast? last)
      rw [last, Option.some_or] at lasts
      have isL : c = 'l' := by
        simpa using lasts
      subst c
      revert listed
      decide

/--
The path that `unique_path` picks is a direct child of the directory, and it
is free unless every numbered candidate is taken.
-/
theorem uniquePath_eq
    (taken : Path → Bool)
    (dir : Path)
    {name : String}
    (isName : IsFileName name)
    (random : Uuid) :
    ∃ chosen,
      IsFileName chosen ∧
        uniquePath taken dir name random = dir.join chosen ∧
        (taken (dir.join chosen) = false ∨
          chosen = fallbackName name random) := by
  unfold uniquePath
  split_ifs with isTaken
  · cases found :
        (List.range' 1 9999).find? fun number =>
          !taken (dir.join (numberedName name number)) with
    | some number =>
        have free := List.find?_some found
        exact ⟨numberedName name number,
          isFileName_numberedName isName number, rfl,
          .inl (by simpa using free)⟩
    | none =>
        exact ⟨fallbackName name random,
          isFileName_fallbackName isName random, rfl, .inr rfl⟩
  · exact ⟨name, isName, rfl, .inl (by simpa using isTaken)⟩

/-- A numbered candidate is never the name of a partial file. -/
theorem numberedName_ne_partialName
    (name : String)
    (number : Nat)
    (fileId : Uuid) :
    numberedName name number ≠ partialName fileId := by
  have numbered : '(' ∈ (numberedName name number).toList := by
    unfold numberedName
    split <;> simp
  have plain : '(' ∉ (partialName fileId).toList := by
    have digits : '(' ∉ fileId.hyphenated.toList := by
      intro member
      have listed := fileId.hyphenated_subset member
      revert listed
      decide
    simp [partialName, digits]
  intro same
  rw [same] at numbered
  exact plain numbered

/-- `unique_path` picks the name of a partial file only if it is asked to. -/
theorem uniquePath_eq_partialName_iff
    (taken : Path → Bool)
    (dir : Path)
    {name : String}
    (isName : IsFileName name)
    (random fileId : Uuid) :
    uniquePath taken dir name random = dir.join (partialName fileId) ↔
      name = partialName fileId ∧
        taken (dir.join (partialName fileId)) = false := by
  have isPartial := isFileName_partialName fileId
  unfold uniquePath
  split_ifs with isTaken
  · have notAsked :
        ¬ (name = partialName fileId ∧
          taken (dir.join (partialName fileId)) = false) := by
      rintro ⟨rfl, free⟩
      rw [isTaken] at free
      cases free
    refine iff_of_false ?_ notAsked
    intro same
    split at same
    · rename_i number _
      exact numberedName_ne_partialName name number fileId
        (Path.join_injective (isFileName_numberedName isName number) isPartial
          same)
    · exact fallbackName_ne_partialName name random fileId
        (Path.join_injective (isFileName_fallbackName isName random) isPartial
          same)
  · constructor
    · intro same
      have isOwn := Path.join_injective isName isPartial same
      exact ⟨isOwn, by simpa [isOwn] using isTaken⟩
    · rintro ⟨rfl, -⟩
      rfl

end ClipboardWire
