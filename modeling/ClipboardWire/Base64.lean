import Mathlib.Data.List.Basic
import Mathlib.Data.UInt

namespace Base64

/-!
# Base64 with the standard alphabet and padding

Bytes are encoded in groups of three; a last group of one or two bytes is
padded.  The decoder is strict: the padding must be there, nothing may follow
it, and the bits it stands for must be zero.  The main result is the round
trip, by induction over the groups of the encoder.
-/

/-- The 64 digits in the order of their values. -/
def alphabet : List Char :=
  "ABCDEFGHIJKLMNOPQRSTUVWXYZabcdefghijklmnopqrstuvwxyz0123456789+/".toList

/-- The digit of a value below 64. -/
def digit (value : Nat) : Char :=
  alphabet.getD value '='

/-- The value of a digit. -/
def value? (c : Char) : Option Nat :=
  alphabet.idxOf? c

/-- Encode bytes, three at a time. -/
def encodeGroups : List UInt8 → List Char
  | [] =>
      []
  | [a] =>
      [digit (a.toNat / 4), digit (a.toNat % 4 * 16), '=', '=']
  | [a, b] =>
      [digit (a.toNat / 4), digit (a.toNat % 4 * 16 + b.toNat / 16),
        digit (b.toNat % 16 * 4), '=']
  | a :: b :: c :: rest =>
      digit (a.toNat / 4) :: digit (a.toNat % 4 * 16 + b.toNat / 16) ::
        digit (b.toNat % 16 * 4 + c.toNat / 64) :: digit (c.toNat % 64) ::
          encodeGroups rest

/-- Decode the digits of a full group in front of decoded bytes. -/
def joinGroup (v0 v1 v2 v3 : Nat) (rest : List UInt8) : List UInt8 :=
  UInt8.ofNat (v0 * 4 + v1 / 16) ::
    UInt8.ofNat (v1 % 16 * 16 + v2 / 4) ::
      UInt8.ofNat (v2 % 4 * 64 + v3) :: rest

/-- Decode a last group with two digits. -/
def lastOne (c0 c1 : Char) : Except String (List UInt8) :=
  match value? c0, value? c1 with
  | some v0, some v1 =>
      if v1 % 16 = 0 then
        .ok [UInt8.ofNat (v0 * 4 + v1 / 16)]
      else
        .error "Invalid last symbol"
  | _, _ =>
      .error "Invalid symbol"

/-- Decode a last group with three digits. -/
def lastTwo (c0 c1 c2 : Char) : Except String (List UInt8) :=
  match value? c0, value? c1, value? c2 with
  | some v0, some v1, some v2 =>
      if v2 % 4 = 0 then
        .ok
          [UInt8.ofNat (v0 * 4 + v1 / 16),
            UInt8.ofNat (v1 % 16 * 16 + v2 / 4)]
      else
        .error "Invalid last symbol"
  | _, _, _ =>
      .error "Invalid symbol"

/-- Decode digits, four at a time. -/
def decodeGroups : List Char → Except String (List UInt8)
  | [] =>
      .ok []
  | c0 :: c1 :: c2 :: c3 :: rest =>
      if c3 = '=' ∧ rest = [] then
        if c2 = '=' then
          lastOne c0 c1
        else
          lastTwo c0 c1 c2
      else
        match value? c0, value? c1, value? c2, value? c3 with
        | some v0, some v1, some v2, some v3 =>
            (decodeGroups rest).map (joinGroup v0 v1 v2 v3)
        | _, _, _, _ =>
            .error "Invalid symbol"
  | _ =>
      .error "Invalid padding"

/-- Encode bytes as text. -/
def encode (bytes : List UInt8) : String :=
  String.ofList (encodeGroups bytes)

/-- Decode text to bytes. -/
def decode (text : String) : Except String (List UInt8) :=
  decodeGroups text.toList

/-- A digit below 64 is a digit of that value, and not the padding. -/
theorem value?_digit
    (value : Nat)
    (bound : value < 64) :
    value? (digit value) = some value ∧ digit value ≠ '=' := by
  have checked :
      ∀ small : Fin 64,
        value? (digit small) = some small.val ∧ digit small ≠ '=' := by
    decide +kernel
  exact checked ⟨value, bound⟩

/-- A digit is one of the alphabet, or the padding. -/
theorem digit_mem (value : Nat) : digit value ∈ '=' :: alphabet := by
  rw [digit, List.getD_eq_getElem?_getD]
  cases found : alphabet[value]? with
  | none => exact List.mem_cons_self
  | some c => exact List.mem_cons_of_mem _ (List.mem_of_getElem? found)

/-- Every group of three bytes takes four characters, the last one too. -/
theorem length_encodeGroups (bytes : List UInt8) :
    (encodeGroups bytes).length = (bytes.length + 2) / 3 * 4 := by
  induction bytes using encodeGroups.induct with
  | case1 =>
      rfl
  | case2 a =>
      simp [encodeGroups]
  | case3 a b =>
      simp [encodeGroups]
  | case4 a b c rest inductionHypothesis =>
      simp only [encodeGroups, List.length_cons, inductionHypothesis]
      omega

/-- What the encoder writes is of the alphabet, or padding. -/
theorem mem_of_mem_encodeGroups
    {bytes : List UInt8}
    {c : Char}
    (member : c ∈ encodeGroups bytes) :
    c ∈ '=' :: alphabet := by
  induction bytes using encodeGroups.induct with
  | case1 =>
      cases member
  | case2 a =>
      simp only [encodeGroups, List.mem_cons, List.not_mem_nil,
        or_false] at member
      rcases member with rfl | rfl | rfl | rfl
      · exact digit_mem _
      · exact digit_mem _
      · exact List.mem_cons_self
      · exact List.mem_cons_self
  | case3 a b =>
      simp only [encodeGroups, List.mem_cons, List.not_mem_nil,
        or_false] at member
      rcases member with rfl | rfl | rfl | rfl
      · exact digit_mem _
      · exact digit_mem _
      · exact digit_mem _
      · exact List.mem_cons_self
  | case4 a b c' rest inductionHypothesis =>
      simp only [encodeGroups, List.mem_cons] at member
      rcases member with rfl | rfl | rfl | rfl | later
      · exact digit_mem _
      · exact digit_mem _
      · exact digit_mem _
      · exact digit_mem _
      · exact inductionHypothesis later

/-- A byte is rebuilt from a number that it is equal to. -/
private theorem ofNat_of_toNat
    (byte : UInt8)
    {number : Nat}
    (same : number = byte.toNat) :
    UInt8.ofNat number = byte := by
  rw [same, UInt8.ofNat_toNat]

/-- The digits of three bytes rebuild the bytes. -/
private theorem joinGroup_digits
    (a b c : UInt8)
    (rest : List UInt8) :
    joinGroup (a.toNat / 4) (a.toNat % 4 * 16 + b.toNat / 16)
        (b.toNat % 16 * 4 + c.toNat / 64) (c.toNat % 64) rest =
      a :: b :: c :: rest := by
  have := a.toNat_lt
  have := b.toNat_lt
  have := c.toNat_lt
  unfold joinGroup
  rw [ofNat_of_toNat a (by omega),
    ofNat_of_toNat b (by omega),
    ofNat_of_toNat c (by omega)]

/-- Decoding undoes encoding, group by group. -/
theorem decodeGroups_encodeGroups (bytes : List UInt8) :
    decodeGroups (encodeGroups bytes) = .ok bytes := by
  induction bytes using encodeGroups.induct with
  | case1 =>
      rfl
  | case2 a =>
      have := a.toNat_lt
      have first := value?_digit (a.toNat / 4) (by omega)
      have second := value?_digit (a.toNat % 4 * 16) (by omega)
      have noBits : a.toNat % 4 * 16 % 16 = 0 := by omega
      rw [encodeGroups, decodeGroups, if_pos ⟨rfl, rfl⟩, if_pos rfl,
        lastOne, first.1, second.1]
      simp only [noBits, ↓reduceIte]
      rw [ofNat_of_toNat a (by omega)]
  | case3 a b =>
      have := a.toNat_lt
      have := b.toNat_lt
      have first := value?_digit (a.toNat / 4) (by omega)
      have second :=
        value?_digit (a.toNat % 4 * 16 + b.toNat / 16) (by omega)
      have third := value?_digit (b.toNat % 16 * 4) (by omega)
      have noBits : b.toNat % 16 * 4 % 4 = 0 := by omega
      rw [encodeGroups, decodeGroups, if_pos ⟨rfl, rfl⟩, if_neg third.2,
        lastTwo, first.1, second.1, third.1]
      simp only [noBits, ↓reduceIte]
      rw [ofNat_of_toNat a (by omega),
        ofNat_of_toNat b (by omega)]
  | case4 a b c rest inductionHypothesis =>
      have := a.toNat_lt
      have := b.toNat_lt
      have := c.toNat_lt
      have first := value?_digit (a.toNat / 4) (by omega)
      have second :=
        value?_digit (a.toNat % 4 * 16 + b.toNat / 16) (by omega)
      have third :=
        value?_digit (b.toNat % 16 * 4 + c.toNat / 64) (by omega)
      have fourth := value?_digit (c.toNat % 64) (by omega)
      rw [encodeGroups, decodeGroups,
        if_neg (fun last => fourth.2 last.1),
        first.1, second.1, third.1, fourth.1]
      simp only [inductionHypothesis, Except.map, joinGroup_digits]

/-- Decoding undoes encoding. -/
theorem decode_encode (bytes : List UInt8) :
    decode (encode bytes) = .ok bytes := by
  rw [decode, encode, String.toList_ofList, decodeGroups_encodeGroups]

example : encode "Man".toUTF8.toList = "TWFu" := by decide +kernel

end Base64
