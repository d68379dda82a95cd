import ClipboardWire.Base64
import ClipboardWire.ServerConfig

namespace ClipboardWire

open PlainText

/-!
# HTTP Basic authentication

`check_basic_auth` and `basic_header_value` of `core/src/server/auth.rs`.  The
user and the password travel as one text with a colon between them, and the
server splits it at the first colon; so a header lets a client in exactly when
the configured user has no colon and the two texts are the same.
-/

/-- `str::as_bytes`. -/
def asBytes (text : String) : List UInt8 :=
  text.toUTF8.data.toList

/-- `std::str::from_utf8`. -/
def fromUtf8 (bytes : List UInt8) : Option String :=
  String.fromUTF8? ⟨bytes.toArray⟩

@[simp] theorem fromUtf8_asBytes (text : String) :
    fromUtf8 (asBytes text) = some text := by
  have valid : text.toUTF8.IsValidUTF8 := text.isValidUTF8
  simp only [fromUtf8, asBytes, Array.toArray_toList, String.fromUTF8?]
  exact dif_pos valid

/-- Bytes that are a text are the bytes of that text. -/
theorem fromUtf8_eq_some {bytes : List UInt8} {text : String} :
    fromUtf8 bytes = some text ↔ bytes = asBytes text := by
  constructor
  · intro decoded
    simp only [fromUtf8, String.fromUTF8?] at decoded
    split at decoded
    · cases decoded
      simp [asBytes, String.fromUTF8, String.toUTF8]
    · cases decoded
  · rintro rfl
    exact fromUtf8_asBytes text

/-- `basic_header_value`. -/
def basicHeaderValue (user password : String) : String :=
  "Basic " ++ Base64.encode (asBytes (user ++ ":" ++ password))

/-- Whether a `user:password` text has the configured halves. -/
def checkPair (pair user password : String) : Bool :=
  match splitOnce ':' pair with
  | some (givenUser, givenPassword) =>
      givenUser = user && givenPassword = password
  | none =>
      false

/-- `check_basic_auth`. -/
def checkBasicAuth (header : Option String) (user password : String) : Bool :=
  match header.bind (stripPrefix "Basic ") with
  | none =>
      false
  | some encoded =>
      match Base64.decode (trimText encoded) with
      | .error _ =>
          false
      | .ok decoded =>
          match fromUtf8 decoded with
          | none => false
          | some pair => checkPair pair user password

/-- The digits of an encoded text are no white space. -/
theorem not_isWhiteSpace_of_mem_encodeGroups
    {bytes : List UInt8}
    {c : Char}
    (member : c ∈ Base64.encodeGroups bytes) :
    isWhiteSpace c = false := by
  have none : ('=' :: Base64.alphabet).any isWhiteSpace = false := by
    decide +kernel
  simpa using List.any_eq_false.mp none c
    (Base64.mem_of_mem_encodeGroups member)

/-- A text without white space is not changed by trimming. -/
theorem trimText_of_forall
    {text : String}
    (solid : ∀ c ∈ text.toList, isWhiteSpace c = false) :
    trimText text = text := by
  have leading : text.toList.dropWhile isWhiteSpace = text.toList := by
    rw [List.dropWhile_eq_self_iff]
    intro nonempty
    rw [solid _ (List.getElem_mem nonempty)]
    exact Bool.false_ne_true
  have trailing : text.toList.rdropWhile isWhiteSpace = text.toList := by
    rw [List.rdropWhile_eq_self_iff]
    intro nonempty
    rw [solid _ (List.getLast_mem nonempty)]
    exact Bool.false_ne_true
  rw [trimText, trim, leading, trailing, String.ofList_toList]

/-- The server sees the pair that the client put into its header. -/
theorem checkBasicAuth_basicHeaderValue
    (givenUser givenPassword user password : String) :
    checkBasicAuth (some (basicHeaderValue givenUser givenPassword))
        user password =
      checkPair (givenUser ++ ":" ++ givenPassword) user password := by
  have solid :
      trimText
          (Base64.encode (asBytes (givenUser ++ ":" ++ givenPassword))) =
        Base64.encode (asBytes (givenUser ++ ":" ++ givenPassword)) := by
    apply trimText_of_forall
    intro c member
    rw [Base64.encode, String.toList_ofList] at member
    exact not_isWhiteSpace_of_mem_encodeGroups member
  simp only [checkBasicAuth, basicHeaderValue, Option.bind_some,
    stripPrefix_append, solid, Base64.decode_encode, fromUtf8_asBytes]

/-- A pair that passes is the configured one, with no colon in the user. -/
theorem checkPair_eq_true {pair user password : String} :
    checkPair pair user password = true ↔
      ':' ∉ user.toList ∧ pair = user ++ ":" ++ password := by
  simp only [checkPair]
  constructor
  · intro passes
    split at passes
    · rename_i givenUser givenPassword split
      obtain ⟨noColon, whole⟩ := splitOnce_eq_some.mp split
      obtain ⟨rfl, rfl⟩ :
          givenUser = user ∧ givenPassword = password := by
        simpa using passes
      refine ⟨noColon, ?_⟩
      rw [← String.toList_inj, whole]
      simp
    · cases passes
  · rintro ⟨noColon, rfl⟩
    have split :
        splitOnce ':' (user ++ ":" ++ password) = some (user, password) :=
      splitOnce_eq_some.mpr ⟨noColon, by simp⟩
    simp [split]

/-- A pair whose user has no colon is split behind that user. -/
theorem checkPair_of_noColon
    {givenUser : String}
    (noColon : ':' ∉ givenUser.toList)
    (givenPassword user password : String) :
    checkPair (givenUser ++ ":" ++ givenPassword) user password = true ↔
      givenUser = user ∧ givenPassword = password := by
  have split :
      splitOnce ':' (givenUser ++ ":" ++ givenPassword) =
        some (givenUser, givenPassword) :=
    splitOnce_eq_some.mpr ⟨noColon, by simp⟩
  rw [checkPair, split]
  simp

/-- The user ends at the first colon that was presented, so a header with a
colon in its user is one for the text in front of it. -/
theorem checkBasicAuth_presented
    (givenUser givenPassword user password : String) :
    (':' ∉ givenUser.toList →
      (checkBasicAuth (some (basicHeaderValue givenUser givenPassword))
          user password = true ↔
        givenUser = user ∧ givenPassword = password)) ∧
    ∀ front back : String,
      givenUser = front ++ ":" ++ back →
      ':' ∉ front.toList →
      (checkBasicAuth (some (basicHeaderValue givenUser givenPassword))
          user password = true ↔
        front = user ∧ back ++ ":" ++ givenPassword = password) := by
  rw [checkBasicAuth_basicHeaderValue]
  refine ⟨fun noColon => checkPair_of_noColon noColon _ _ _, ?_⟩
  rintro front back rfl noColon
  have regrouped :
      front ++ ":" ++ back ++ ":" ++ givenPassword =
        front ++ ":" ++ (back ++ ":" ++ givenPassword) := by
    simp only [String.append_assoc]
  rw [regrouped]
  exact checkPair_of_noColon noColon _ _ _

/-- The user `a:b` with password `c` passes for `a` with `b:c`, and does not
pass for itself. -/
theorem checkBasicAuth_colon :
    checkBasicAuth (some (basicHeaderValue "a:b" "c")) "a" "b:c" = true ∧
      ¬ ("a:b" = "a" ∧ "c" = "b:c") ∧
        checkBasicAuth (some (basicHeaderValue "a:b" "c")) "a:b" "c" =
          false := by
  rw [checkBasicAuth_basicHeaderValue, checkBasicAuth_basicHeaderValue]
  decide

end ClipboardWire
