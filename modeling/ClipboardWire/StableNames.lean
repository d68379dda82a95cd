import ClipboardWire.FileNames

namespace ClipboardWire

/-!
# Names that every system keeps

What `sanitize_filename` of `core/src/client/file.rs` makes of a name, one
step after the other: the blanks around it are cut off, its characters are
mapped, and then the dots behind it are cut off.  A blank in front of these
dots stays, and it is only cut off when the result is sanitized again.
-/

/-- A character that cannot stand in the name of a file. -/
def isUnsafeChar (c : Char) : Bool :=
  c = '/' || c = '\\' || c = ':' || c = '\x00' || isControl c

/-- A name that can be used as it is, here and on other systems. -/
structure IsStableName (name : String) : Prop where
  notEmpty : name ≠ ""
  noUnsafe : ∀ c ∈ name.toList, isUnsafeChar c = false
  notDot : name ≠ "."
  notDotDot : name ≠ ".."
  begins : ∀ c, name.toList.head? = some c → isWhiteSpace c = false
  ends : ∀ c, name.toList.getLast? = some c → isWhiteSpace c = false
  endsWithoutDot : name.toList.getLast? ≠ some '.'
  fixed : sanitizeFilename name = name

/-- Without the blanks around it, the name has a blank in front of the dots
that it ends with. -/
def HasBlankBeforeDots (name : String) : Prop :=
  ∃ front blank dots,
    trim name.toList = front ++ blank :: dots ∧
      isWhiteSpace blank = true ∧
      isControl blank = false ∧
      ∀ c ∈ dots, c = '.'

/-- A name without the blanks around it and the dots behind it. -/
def withoutDots (name : String) : List Char :=
  (trim name.toList).rdropWhile (· = '.')

/-! ## Characters -/

/-- Unsafe characters are replaced, all others are kept. -/
theorem sanitizeChar_eq (c : Char) :
    sanitizeChar c = if isUnsafeChar c then '_' else c := by
  unfold sanitizeChar isUnsafeChar
  split_ifs <;> grind

/-- What is left is safe. -/
theorem isUnsafeChar_sanitizeChar (c : Char) :
    isUnsafeChar (sanitizeChar c) = false := by
  rw [sanitizeChar_eq]
  split
  · decide
  · rename_i safe
    exact Bool.eq_false_iff.mpr safe

/-- Only a dot becomes a dot. -/
theorem sanitizeChar_eq_dot_iff {c : Char} :
    sanitizeChar c = '.' ↔ c = '.' := by
  rw [sanitizeChar_eq]
  split
  · rename_i isUnsafe
    constructor
    · intro same
      exact absurd same (by decide)
    · rintro rfl
      exact absurd isUnsafe (by decide)
  · rfl

/-- A blank is left unless it is a control character. -/
theorem isWhiteSpace_sanitizeChar (c : Char) :
    isWhiteSpace (sanitizeChar c) = (isWhiteSpace c && !isControl c) := by
  rw [sanitizeChar_eq]
  split
  · rename_i isUnsafe
    have replaced : isWhiteSpace '_' = false := by
      decide
    rw [replaced]
    simp only [isUnsafeChar, Bool.or_eq_true, decide_eq_true_eq] at isUnsafe
    rcases isUnsafe with (((rfl | rfl) | rfl) | rfl) | control
    · decide
    · decide
    · decide
    · decide
    · rw [control, Bool.not_true, Bool.and_false]
  · rename_i safe
    have noControl : isControl c = false := by
      simp only [isUnsafeChar, Bool.or_eq_true, not_or] at safe
      exact Bool.eq_false_iff.mpr safe.2
    rw [noControl, Bool.not_false, Bool.and_true]

/-! ## The ends of a text -/

/-- Nothing is cut off in front of a text that begins otherwise. -/
theorem dropWhile_of_head?
    {p : Char → Bool}
    {text : List Char}
    (begins : ∀ c, text.head? = some c → p c = false) :
    text.dropWhile p = text := by
  cases text with
  | nil =>
      rfl
  | cons c rest =>
      rw [List.dropWhile_cons_of_neg]
      rw [begins c rfl]
      exact Bool.false_ne_true

/-- Nothing is cut off behind a text that ends otherwise. -/
theorem rdropWhile_of_getLast?
    {p : Char → Bool}
    {text : List Char}
    (ends : ∀ c, text.getLast? = some c → p c = false) :
    text.rdropWhile p = text := by
  rw [List.rdropWhile_eq_self_iff]
  intro nonempty
  rw [ends _ (List.getLast?_eq_some_getLast nonempty)]
  exact Bool.false_ne_true

/-- What is cut off behind a text is not left. -/
theorem of_getLast?_rdropWhile
    {p : Char → Bool}
    {text : List Char}
    {c : Char}
    (last : (text.rdropWhile p).getLast? = some c) :
    p c = false := by
  have nonempty : text.rdropWhile p ≠ [] := by
    intro empty
    rw [empty] at last
    cases last
  have other := List.rdropWhile_last_not p text nonempty
  rw [List.getLast?_eq_some_getLast nonempty, Option.some.injEq] at last
  rw [last] at other
  exact Bool.eq_false_iff.mpr other

/-- A text and a part that it begins with begin with the same character. -/
theorem head?_of_start
    {text start : List Char}
    {c : Char}
    (within : start <+: text)
    (first : start.head? = some c) :
    text.head? = some c := by
  obtain ⟨rest, rfl⟩ := within
  rw [List.head?_append, first, Option.some_or]

/-- No blank is left in front of a trimmed text. -/
theorem of_head?_trim
    {text : List Char}
    {c : Char}
    (first : (trim text).head? = some c) :
    isWhiteSpace c = false := by
  have begins := head?_of_start (List.rdropWhile_prefix _ _) first
  have notBlank := List.head?_dropWhile_not isWhiteSpace text
  rwa [begins] at notBlank

/-! ## The steps of the sanitizer -/

/-- The dots behind the mapped name are those behind the name. -/
theorem rdropWhile_map_sanitizeChar (text : List Char) :
    (text.map sanitizeChar).rdropWhile (· = '.') =
      (text.rdropWhile (· = '.')).map sanitizeChar := by
  have same :
      ((fun c => decide (c = '.')) ∘ sanitizeChar) =
        fun c => decide (c = '.') := by
    funext c
    rw [Function.comp_apply, decide_eq_decide]
    exact sanitizeChar_eq_dot_iff
  rw [List.rdropWhile, ← List.map_reverse, List.dropWhile_map, same,
    ← List.map_reverse, List.rdropWhile]

/-- No blank is left in front of a name. -/
theorem of_head?_withoutDots
    {name : String}
    {c : Char}
    (first : (withoutDots name).head? = some c) :
    isWhiteSpace c = false :=
  of_head?_trim (head?_of_start (List.rdropWhile_prefix _ _) first)

/-- A name without dots behind it does not end with one. -/
theorem dot_notLast (name : String) :
    ((withoutDots name).map sanitizeChar).getLast? ≠ some '.' := by
  rw [List.getLast?_map]
  intro last
  obtain ⟨c, isLast, isDot⟩ := Option.map_eq_some_iff.mp last
  have other := of_getLast?_rdropWhile isLast
  exact absurd (sanitizeChar_eq_dot_iff.mp isDot) (of_decide_eq_false other)

/-- The name is what is left, unless that is nothing. -/
theorem sanitizeFilename_eq (name : String) :
    sanitizeFilename name =
      if withoutDots name = [] then
        "received-file"
      else
        String.ofList ((withoutDots name).map sanitizeChar) := by
  have cleaned :
      ((trim name.toList).map sanitizeChar).rdropWhile (· = '.') =
        (withoutDots name).map sanitizeChar :=
    rdropWhile_map_sanitizeChar _
  have notDot := dot_notLast name
  simp only [sanitizeFilename, cleaned]
  by_cases empty : withoutDots name = []
  · rw [if_pos empty, empty]
    rfl
  · rw [if_neg empty, if_neg]
    simp only [← String.toList_inj, String.toList_ofList]
    rintro (isEmpty | isDot | isDotDot)
    · exact empty (List.map_eq_nil_iff.mp isEmpty)
    · rw [isDot] at notDot
      exact notDot rfl
    · rw [isDotDot] at notDot
      exact notDot rfl

/-- A name without anything to be cut off or replaced is kept. -/
theorem isStableName_of_clean
    {name : String}
    (notEmpty : name ≠ "")
    (noUnsafe : ∀ c ∈ name.toList, isUnsafeChar c = false)
    (begins : ∀ c, name.toList.head? = some c → isWhiteSpace c = false)
    (ends : ∀ c, name.toList.getLast? = some c → isWhiteSpace c = false)
    (endsWithoutDot : name.toList.getLast? ≠ some '.') :
    IsStableName name := by
  have trimmed : trim name.toList = name.toList := by
    rw [trim, dropWhile_of_head? begins, rdropWhile_of_getLast? ends]
  have undotted : withoutDots name = name.toList := by
    rw [withoutDots, trimmed]
    apply rdropWhile_of_getLast?
    intro c last
    exact decide_eq_false fun isDot => endsWithoutDot (isDot ▸ last)
  have mapped : name.toList.map sanitizeChar = name.toList := by
    have kept : ∀ c ∈ name.toList, sanitizeChar c = c := by
      intro c member
      rw [sanitizeChar_eq, noUnsafe c member]
      rfl
    rw [List.map_congr_left kept, List.map_id']
  have nonempty : name.toList ≠ [] := by
    rwa [ne_eq, String.toList_eq_nil_iff]
  refine ⟨notEmpty, noUnsafe, ?_, ?_, begins, ends, endsWithoutDot, ?_⟩
  · rintro rfl
    exact endsWithoutDot rfl
  · rintro rfl
    exact endsWithoutDot rfl
  · rw [sanitizeFilename_eq, undotted, if_neg nonempty, mapped,
      String.ofList_toList]

/-- The name for want of a better one can be used. -/
theorem isStableName_receivedFile : IsStableName "received-file" := by
  have safe : "received-file".toList.any isUnsafeChar = false := by
    decide
  refine isStableName_of_clean (by decide) ?_ ?_ ?_ (by decide)
  · intro c member
    simpa using List.any_eq_false.mp safe c member
  · intro c first
    cases first
    decide
  · intro c last
    cases last
    decide

/-- A blank in front of the dots is the last character that is left. -/
theorem hasBlankBeforeDots_iff {name : String} :
    HasBlankBeforeDots name ↔
      ∃ blank,
        (withoutDots name).getLast? = some blank ∧
          isWhiteSpace blank = true ∧
          isControl blank = false := by
  constructor
  · rintro ⟨front, blank, dots, split, white, noControl, areDots⟩
    refine ⟨blank, ?_, white, noControl⟩
    have notDot : blank ≠ '.' := by
      rintro rfl
      exact absurd white (by decide)
    have cut : withoutDots name = front ++ [blank] := by
      rw [withoutDots, split, List.rdropWhile, List.reverse_append,
        List.reverse_cons, List.append_assoc,
        List.dropWhile_append_of_pos (by simpa using areDots)]
      simp [notDot]
    rw [cut, List.getLast?_append]
    rfl
  · rintro ⟨blank, last, white, noControl⟩
    obtain ⟨front, split⟩ := List.getLast?_eq_some_iff.mp last
    refine ⟨front, blank, (trim name.toList).rtakeWhile (· = '.'), ?_, white,
      noControl, ?_⟩
    · have whole :
          withoutDots name ++ (trim name.toList).rtakeWhile (· = '.') =
            trim name.toList :=
        List.rdropWhile_append_rtakeWhile
      rw [split, List.append_assoc] at whole
      exact whole.symm
    · intro c member
      simpa using List.mem_rtakeWhile_imp member

/-- The result is usable on every system and stays as it is exactly if the
name has no blank in front of the dots that it ends with. -/
theorem isStableName_sanitizeFilename_iff (name : String) :
    IsStableName (sanitizeFilename name) ↔ ¬ HasBlankBeforeDots name := by
  rw [sanitizeFilename_eq, hasBlankBeforeDots_iff]
  split
  · rename_i empty
    refine iff_of_true isStableName_receivedFile ?_
    rintro ⟨blank, last, -⟩
    rw [empty] at last
    cases last
  · rename_i nonempty
    constructor
    · rintro stable ⟨blank, last, white, noControl⟩
      have solid := stable.ends (sanitizeChar blank) (by
        rw [String.toList_ofList, List.getLast?_map, last, Option.map_some])
      rw [isWhiteSpace_sanitizeChar, white, noControl] at solid
      cases solid
    · intro noBlank
      refine isStableName_of_clean ?_ ?_ ?_ ?_ ?_
      · rw [ne_eq, ← String.toList_inj, String.toList_ofList]
        exact fun isEmpty => nonempty (List.map_eq_nil_iff.mp isEmpty)
      · intro c member
        rw [String.toList_ofList] at member
        obtain ⟨other, -, rfl⟩ := List.mem_map.mp member
        exact isUnsafeChar_sanitizeChar other
      · intro c first
        rw [String.toList_ofList, List.head?_map] at first
        obtain ⟨other, isFirst, rfl⟩ := Option.map_eq_some_iff.mp first
        rw [isWhiteSpace_sanitizeChar, of_head?_withoutDots isFirst,
          Bool.false_and]
      · intro c last
        rw [String.toList_ofList, List.getLast?_map] at last
        obtain ⟨other, isLast, rfl⟩ := Option.map_eq_some_iff.mp last
        by_contra white
        rw [isWhiteSpace_sanitizeChar, Bool.not_eq_false, Bool.and_eq_true,
          Bool.not_eq_true'] at white
        exact noBlank ⟨other, isLast, white⟩
      · rw [String.toList_ofList]
        exact dot_notLast name

/-- A blank in front of a dot is left at the end, and cut off later. -/
theorem sanitizeFilename_blank :
    sanitizeFilename "notes ." = "notes " ∧
      sanitizeFilename "notes " = "notes" ∧
      ¬ IsStableName (sanitizeFilename "notes .") := by
  have kept : sanitizeFilename "notes ." = "notes " := by
    decide +kernel
  refine ⟨kept, by decide +kernel, fun stable => ?_⟩
  rw [kept] at stable
  exact absurd (stable.ends ' ' rfl) (by decide)

end ClipboardWire
