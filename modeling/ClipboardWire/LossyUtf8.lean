import Mathlib.Data.List.Basic

namespace LossyUtf8

/-!
# Decoding bytes that need not be UTF-8

A decoder that goes over the bytes once and puts one replacement character in
the place of every maximal part of an ill-formed sequence.  Its state is the
part of a character that has been read.  Well-formed bytes come out unchanged,
and an ASCII byte is a boundary whatever stands in front of it.

The module is independent of what the bytes are used for.
-/

/-- What stands in the place of bytes that are no character. -/
def replacement : Char :=
  '\uFFFD'

/-- The first bytes of a character, and what its next byte may be. -/
structure Pending where
  /-- How many bytes follow the next one. -/
  owed : Nat
  low : Nat
  high : Nat
  /-- The bits that have been read. -/
  value : Nat
  continues : 0x80 ≤ low

/-- A byte with which a character may begin; neither overlong forms nor
surrogates nor numbers above the last code point go on. -/
def start (byte : UInt8) : List Char × Option Pending :=
  if byte.toNat < 0x80 then
    ([Char.ofNat byte.toNat], none)
  else if byte.toNat < 0xC2 then
    ([replacement], none)
  else if byte.toNat < 0xE0 then
    ([], some
      { owed := 0
        low := 0x80
        high := 0xBF
        value := byte.toNat - 0xC0
        continues := by decide })
  else if byte.toNat < 0xF0 then
    ([], some
      { owed := 1
        low := if byte.toNat = 0xE0 then 0xA0 else 0x80
        high := if byte.toNat = 0xED then 0x9F else 0xBF
        value := byte.toNat - 0xE0
        continues := by split <;> decide })
  else if byte.toNat < 0xF5 then
    ([], some
      { owed := 2
        low := if byte.toNat = 0xF0 then 0x90 else 0x80
        high := if byte.toNat = 0xF4 then 0x8F else 0xBF
        value := byte.toNat - 0xF0
        continues := by split <;> decide })
  else
    ([replacement], none)

/-- A byte that continues a character. -/
def Pending.extend
    (pending : Pending)
    (byte : UInt8) : List Char × Option Pending :=
  let value := pending.value * 64 + (byte.toNat - 0x80)
  match pending.owed with
  | 0 => ([Char.ofNat value], none)
  | owed + 1 =>
      ([], some
        { owed := owed
          low := 0x80
          high := 0xBF
          value := value
          continues := by decide })

/-- One byte: the characters that are decided, and the state behind it. -/
def step (state : Option Pending) (byte : UInt8) :
    List Char × Option Pending :=
  match state with
  | none =>
      start byte
  | some pending =>
      if pending.low ≤ byte.toNat ∧ byte.toNat ≤ pending.high then
        pending.extend byte
      else
        (replacement :: (start byte).1, (start byte).2)

/-- The end of the bytes. -/
def finish : Option Pending → List Char
  | none => []
  | some _ => [replacement]

/-- The characters of some bytes. -/
def decode : Option Pending → List UInt8 → List Char
  | state, [] =>
      finish state
  | state, byte :: rest =>
      (step state byte).1 ++ decode (step state byte).2 rest

/-- An ASCII byte is a character. -/
theorem start_ascii
    {byte : UInt8}
    (ascii : byte.toNat < 0x80) :
    start byte = ([Char.ofNat byte.toNat], none) :=
  if_pos ascii

/-- An ASCII byte ends whatever stands in front of it. -/
theorem step_ascii
    {byte : UInt8}
    (ascii : byte.toNat < 0x80)
    (state : Option Pending) :
    step state byte = (finish state ++ [Char.ofNat byte.toNat], none) := by
  cases state with
  | none =>
      exact start_ascii ascii
  | some pending =>
      have outside :
          ¬ (pending.low ≤ byte.toNat ∧ byte.toNat ≤ pending.high) := by
        have continues := pending.continues
        omega
      simp only [step, if_neg outside, start_ascii ascii]
      rfl

/-- The bytes in front of an ASCII byte are decoded on their own. -/
theorem decode_append_ascii
    {byte : UInt8}
    (ascii : byte.toNat < 0x80)
    (state : Option Pending)
    (front rest : List UInt8) :
    decode state (front ++ byte :: rest) =
      decode state front ++ Char.ofNat byte.toNat :: decode none rest := by
  induction front generalizing state with
  | nil =>
      simp [decode, step_ascii ascii]
  | cons head tail inductionHypothesis =>
      simp [decode, inductionHypothesis]

/-- A byte decides a character or is part of one. -/
theorem step_ne (state : Option Pending) (byte : UInt8) :
    (step state byte).1 ≠ [] ∨ (step state byte).2 ≠ none := by
  have starts : (start byte).1 ≠ [] ∨ (start byte).2 ≠ none := by
    simp only [start]
    split_ifs <;> simp
  cases state with
  | none =>
      exact starts
  | some pending =>
      simp only [step]
      split
      · unfold Pending.extend
        split <;> simp
      · exact .inl (List.cons_ne_nil _ _)

/-- Only no bytes at all are decoded to no characters. -/
theorem decode_eq_nil_iff
    {state : Option Pending}
    {bytes : List UInt8} :
    decode state bytes = [] ↔ state = none ∧ bytes = [] := by
  induction bytes generalizing state with
  | nil =>
      cases state <;> simp [decode, finish]
  | cons byte rest inductionHypothesis =>
      have progress := step_ne state byte
      simp only [decode, List.append_eq_nil_iff, inductionHypothesis]
      grind

/-- A character of two bytes. -/
theorem decode_two
    {first second : UInt8}
    (lower : 0xC2 ≤ first.toNat)
    (upper : first.toNat < 0xE0)
    (continues : 0x80 ≤ second.toNat)
    (continues' : second.toNat ≤ 0xBF)
    (rest : List UInt8) :
    decode none (first :: second :: rest) =
      Char.ofNat ((first.toNat - 0xC0) * 64 + (second.toNat - 0x80)) ::
        decode none rest := by
  simp only [decode, step]
  rw [start, if_neg (by omega), if_neg (by omega), if_pos upper]
  rw [List.nil_append]
  simp only [if_pos (And.intro continues continues')]
  rfl

/-- A character of three bytes. -/
theorem decode_three
    {first second third : UInt8}
    (lower : 0xE0 ≤ first.toNat)
    (upper : first.toNat < 0xF0)
    (continues : (if first.toNat = 0xE0 then 0xA0 else 0x80) ≤ second.toNat)
    (continues' : second.toNat ≤ if first.toNat = 0xED then 0x9F else 0xBF)
    (last : 0x80 ≤ third.toNat)
    (last' : third.toNat ≤ 0xBF)
    (rest : List UInt8) :
    decode none (first :: second :: third :: rest) =
      Char.ofNat
          (((first.toNat - 0xE0) * 64 + (second.toNat - 0x80)) * 64 +
            (third.toNat - 0x80)) ::
        decode none rest := by
  simp only [decode, step]
  rw [start, if_neg (by omega), if_neg (by omega), if_neg (by omega),
    if_pos upper]
  simp only [if_pos (And.intro continues continues'), Pending.extend,
    if_pos (And.intro last last'), List.nil_append, List.cons_append]

/-- A character of four bytes. -/
theorem decode_four
    {first second third fourth : UInt8}
    (lower : 0xF0 ≤ first.toNat)
    (upper : first.toNat < 0xF5)
    (continues : (if first.toNat = 0xF0 then 0x90 else 0x80) ≤ second.toNat)
    (continues' : second.toNat ≤ if first.toNat = 0xF4 then 0x8F else 0xBF)
    (next : 0x80 ≤ third.toNat)
    (next' : third.toNat ≤ 0xBF)
    (last : 0x80 ≤ fourth.toNat)
    (last' : fourth.toNat ≤ 0xBF)
    (rest : List UInt8) :
    decode none (first :: second :: third :: fourth :: rest) =
      Char.ofNat
          ((((first.toNat - 0xF0) * 64 + (second.toNat - 0x80)) * 64 +
              (third.toNat - 0x80)) * 64 +
            (fourth.toNat - 0x80)) ::
        decode none rest := by
  simp only [decode, step]
  rw [start, if_neg (by omega), if_neg (by omega), if_neg (by omega),
    if_neg (by omega), if_pos upper]
  simp only [if_pos (And.intro continues continues'), Pending.extend,
    if_pos (And.intro next next'), if_pos (And.intro last last'),
    List.nil_append, List.cons_append]

/-- A number as one byte. -/
theorem toNat_ofNat_of_lt
    (value : Nat)
    (bounded : value < 256) :
    (UInt8.ofNat value).toNat = value := by
  rw [UInt8.toNat_ofNat']
  exact Nat.mod_eq_of_lt bounded

/-- The bytes of a character are decoded to that character. -/
theorem decode_utf8EncodeChar (c : Char) (rest : List UInt8) :
    decode none (String.utf8EncodeChar c ++ rest) = c :: decode none rest := by
  have scalar : c.val.toNat < 0xD800 ∨
      0xDFFF < c.val.toNat ∧ c.val.toNat < 0x110000 := c.valid
  have code {value : Nat} (same : value = c.val.toNat) :
      Char.ofNat value = c := by
    rw [same]
    exact Char.ofNat_toNat c
  simp only [String.utf8EncodeChar]
  generalize c.val.toNat = v at code scalar ⊢
  split
  · have first := toNat_ofNat_of_lt v (by omega)
    simp [decode, step, start_ascii (by omega : (UInt8.ofNat v).toNat < 0x80),
      first, code]
  · split
    · have first := toNat_ofNat_of_lt (v / 64 % 32 + 192) (by omega)
      have second := toNat_ofNat_of_lt (v % 64 + 128) (by omega)
      rw [List.cons_append, List.cons_append, List.nil_append,
        decode_two (by omega) (by omega) (by omega) (by omega),
        code (by omega)]
    · split
      · have first := toNat_ofNat_of_lt (v / 4096 % 16 + 224) (by omega)
        have second := toNat_ofNat_of_lt (v / 64 % 64 + 128) (by omega)
        have third := toNat_ofNat_of_lt (v % 64 + 128) (by omega)
        rw [List.cons_append, List.cons_append, List.cons_append,
          List.nil_append,
          decode_three (by omega) (by omega) (by split <;> omega)
            (by split <;> omega) (by omega) (by omega),
          code (by omega)]
      · have first := toNat_ofNat_of_lt (v / 262144 % 8 + 240) (by omega)
        have second := toNat_ofNat_of_lt (v / 4096 % 64 + 128) (by omega)
        have third := toNat_ofNat_of_lt (v / 64 % 64 + 128) (by omega)
        have fourth := toNat_ofNat_of_lt (v % 64 + 128) (by omega)
        rw [List.cons_append, List.cons_append, List.cons_append,
          List.cons_append, List.nil_append,
          decode_four (by omega) (by omega) (by split <;> omega)
            (by split <;> omega) (by omega) (by omega) (by omega) (by omega),
          code (by omega)]

/-- The bytes of some characters are decoded to them. -/
theorem decode_utf8Encode (text : List Char) :
    decode none (text.flatMap String.utf8EncodeChar) = text := by
  induction text with
  | nil =>
      rfl
  | cons c rest inductionHypothesis =>
      rw [List.flatMap_cons, decode_utf8EncodeChar, inductionHypothesis]

end LossyUtf8
