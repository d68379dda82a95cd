import ClipboardWire.BasicAuth
import ClipboardWire.FileReceiver

namespace ClipboardWire

/-!
# Certificates in PEM and their fingerprints

`first_pem_block_to_der` and the fingerprints of `core/src/server/tls.rs`,
with `der_to_pem` and `sha256_hex` of `cli/src/settings.rs`.  The hub reads a
certificate file with its own scanner, which looks for the two markers and
ignores the white space between them.
-/

/-- `str::find` with a text as the pattern. -/
def findText (pattern : List Char) : List Char → Option Nat
  | [] =>
      if pattern = [] then
        some 0
      else
        none
  | c :: rest =>
      if pattern.isPrefixOf (c :: rest) then
        some 0
      else
        (findText pattern rest).map (· + 1)

/-- `first_pem_block_to_der` -/
def firstPemBlockToDer (pem : List UInt8) : Except String (List UInt8) :=
  match fromUtf8 pem with
  | none =>
      .error "PEM is not UTF-8"
  | some s =>
      match findText "-----BEGIN ".toList s.toList with
      | none =>
          .error "no `-----BEGIN ` marker in PEM"
      | some start =>
          let block := s.toList.drop start
          match block.findIdx? (· = '\n') with
          | none =>
              .error "incomplete BEGIN line"
          | some lineEnd =>
              let behind := block.drop (lineEnd + 1)
              match findText "-----END ".toList behind with
              | none =>
                  .error "no `-----END ` marker in PEM"
              | some endOffset =>
                  let body := behind.take endOffset
                  let cleaned := body.filter fun c => !isWhiteSpace c
                  match Base64.decode (String.ofList cleaned) with
                  | .error _ => .error "decoding PEM base64 body"
                  | .ok der => .ok der

/-- `fingerprint_of_der` -/
def fingerprintOfDer
    (sha256 : List UInt8 → List UInt8)
    (der : List UInt8) : String :=
  fingerprintHex (sha256 der)

/-- `fingerprint_of_pem` -/
def fingerprintOfPem
    (sha256 : List UInt8 → List UInt8)
    (pem : List UInt8) :
    Except String String :=
  (firstPemBlockToDer pem).map (fingerprintOfDer sha256)

/-- `sha256_hex` -/
def sha256Hex
    (sha256 : List UInt8 → List UInt8)
    (bytes : List UInt8) : String :=
  fingerprintHex (sha256 bytes)

/-- `slice::chunks` -/
def chunks (size : Nat) (items : List Char) : List (List Char) :=
  if items = [] ∨ size = 0 then
    []
  else
    items.take size :: chunks size (items.drop size)
termination_by items.length
decreasing_by
  rename_i some
  rw [not_or] at some
  have nonempty := List.length_pos_iff.mpr some.1
  rw [List.length_drop]
  omega

/-- `der_to_pem` -/
def derToPem (der : List UInt8) : String :=
  let b64 := (Base64.encode der).toList
  let begun := "-----BEGIN CERTIFICATE-----\n"
  let filled := (chunks 64 b64).foldl
    (fun out chunk => out ++ String.ofList chunk ++ "\n") begun
  filled ++ "-----END CERTIFICATE-----\n"

/-- A PEM file that begins with a certificate, with lines of any width, line
ends of one kind, and anything behind the block. -/
inductive IsCertificatePem (der : List UInt8) : String → Prop where
  | block
      (lineEnd : String)
      (lines : List (List Char))
      (behind : String)
      (isLineEnd : lineEnd = "\n" ∨ lineEnd = "\r\n")
      (whole : lines.flatten = (Base64.encode der).toList) :
      IsCertificatePem der
        ("-----BEGIN CERTIFICATE-----" ++ lineEnd ++
          String.ofList (lines.flatMap fun line => line ++ lineEnd.toList) ++
            "-----END CERTIFICATE-----" ++ behind)

/-- The chunks of some items are these items. -/
theorem flatten_chunks
    {size : Nat}
    (positive : 0 < size)
    (items : List Char) :
    (chunks size items).flatten = items := by
  induction items using chunks.induct size with
  | case1 items done =>
      rw [chunks, if_pos done]
      rcases done with rfl | zero
      · rfl
      · omega
  | case2 items some inductionHypothesis =>
      rw [chunks, if_neg some, List.flatten_cons, inductionHypothesis,
        List.take_append_drop]

/-- The lines that `der_to_pem` writes. -/
theorem toList_foldl_lines (out : String) (lines : List (List Char)) :
    (lines.foldl (fun out line => out ++ String.ofList line ++ "\n")
        out).toList =
      out.toList ++ lines.flatMap fun line => line ++ "\n".toList := by
  induction lines generalizing out with
  | nil =>
      simp
  | cons line rest inductionHypothesis =>
      rw [List.foldl_cons, inductionHypothesis, List.flatMap_cons]
      simp

/-- What `der_to_pem` writes is a certificate file. -/
theorem isCertificatePem_derToPem (der : List UInt8) :
    IsCertificatePem der (derToPem der) := by
  have same :
      derToPem der =
        "-----BEGIN CERTIFICATE-----" ++ "\n" ++
          String.ofList
            ((chunks 64 (Base64.encode der).toList).flatMap fun line =>
              line ++ "\n".toList) ++
            "-----END CERTIFICATE-----" ++ "\n" := by
    rw [← String.toList_inj, derToPem]
    simp only [String.toList_append, toList_foldl_lines,
      String.toList_ofList]
    simp
  rw [same]
  exact .block "\n" _ "\n" (.inl rfl) (flatten_chunks (by decide) _)

/-- A pattern is found where it stands. -/
theorem findText_self
    {pattern : List Char}
    (nonempty : pattern ≠ [])
    (rest : List Char) :
    findText pattern (pattern ++ rest) = some 0 := by
  obtain ⟨c, tail, rfl⟩ := List.exists_cons_of_ne_nil nonempty
  rw [List.cons_append, findText, if_pos]
  rw [List.isPrefixOf_iff_prefix, ← List.cons_append]
  exact List.prefix_append _ _

/-- A pattern is not found where its first character is missing. -/
theorem findText_append
    {first : Char}
    {front : List Char}
    (absent : first ∉ front)
    (pattern rest : List Char) :
    findText (first :: pattern) (front ++ rest) =
      (findText (first :: pattern) rest).map (· + front.length) := by
  induction front with
  | nil =>
      simp
  | cons c tail inductionHypothesis =>
      rw [List.mem_cons, not_or] at absent
      have differs : (first == c) = false := beq_false_of_ne absent.1
      rw [List.cons_append, findText, List.isPrefixOf, differs,
        Bool.false_and, if_neg Bool.false_ne_true,
        inductionHypothesis absent.2, Option.map_map]
      rfl

/-- The scanner takes the lines between the markers without their ends. -/
theorem firstPemBlockToDer_of_body
    {pem : String}
    (beginLine body behind : List Char)
    (split :
      pem.toList =
        "-----BEGIN ".toList ++
          (beginLine ++ '\n' :: (body ++ ("-----END ".toList ++ behind))))
    (oneLine : '\n' ∉ beginLine)
    (noHyphen : '-' ∉ body) :
    firstPemBlockToDer (asBytes pem) =
      match Base64.decode
          (String.ofList (body.filter fun c => !isWhiteSpace c)) with
      | .error _ => .error "decoding PEM base64 body"
      | .ok der => .ok der := by
  have begins : findText "-----BEGIN ".toList pem.toList = some 0 := by
    rw [split]
    exact findText_self (by decide) _
  have lineEnd :
      pem.toList.findIdx? (· = '\n') =
        some ("-----BEGIN ".toList ++ beginLine).length := by
    rw [split, ← List.append_assoc]
    refine PlainText.findIdx?_separator ?_ _
    rw [List.mem_append, not_or]
    exact ⟨by decide, oneLine⟩
  have behindLine :
      pem.toList.drop (("-----BEGIN ".toList ++ beginLine).length + 1) =
        body ++ ("-----END ".toList ++ behind) := by
    rw [split, ← List.append_assoc, List.drop_append]
    simp
  have ends :
      findText "-----END ".toList (body ++ ("-----END ".toList ++ behind)) =
        some body.length := by
    have pattern : "-----END ".toList = '-' :: "----END ".toList := rfl
    rw [pattern, findText_append noHyphen, ← pattern,
      findText_self (by decide), Option.map_some, Nat.zero_add]
  rw [firstPemBlockToDer, fromUtf8_asBytes]
  simp only [begins, List.drop_zero, lineEnd, behindLine, ends,
    List.take_left]

/-- A character of the lines is a digit of the certificate. -/
theorem mem_encodeGroups_of_mem_line
    {der : List UInt8}
    {lines : List (List Char)}
    (whole : lines.flatten = (Base64.encode der).toList)
    {line : List Char}
    (isLine : line ∈ lines)
    {c : Char}
    (member : c ∈ line) :
    c ∈ Base64.encodeGroups der := by
  have inWhole : c ∈ lines.flatten := List.mem_flatten_of_mem isLine member
  rwa [whole, Base64.encode, String.toList_ofList] at inWhole

/-- Without the line ends, the lines are the encoded certificate. -/
theorem filter_lines
    {der : List UInt8}
    {lines : List (List Char)}
    (whole : lines.flatten = (Base64.encode der).toList)
    {lineEnd : List Char}
    (white : ∀ c ∈ lineEnd, isWhiteSpace c = true) :
    (lines.flatMap fun line => line ++ lineEnd).filter
        (fun c => !isWhiteSpace c) =
      (Base64.encode der).toList := by
  have noEnd : lineEnd.filter (fun c => !isWhiteSpace c) = [] := by
    rw [List.filter_eq_nil_iff]
    intro c member
    simp [white c member]
  have solid :
      ∀ line ∈ lines,
        (line ++ lineEnd).filter (fun c => !isWhiteSpace c) = line := by
    intro line isLine
    rw [List.filter_append, noEnd, List.append_nil, List.filter_eq_self]
    intro c member
    rw [not_isWhiteSpace_of_mem_encodeGroups
      (mem_encodeGroups_of_mem_line whole isLine member)]
    rfl
  rw [List.filter_flatMap, List.flatMap_congr solid, ← whole,
    List.flatMap_id']

/-- There is no hyphen between the markers. -/
theorem hyphen_notMem_lines
    {der : List UInt8}
    {lines : List (List Char)}
    (whole : lines.flatten = (Base64.encode der).toList)
    {lineEnd : List Char}
    (noHyphen : '-' ∉ lineEnd) :
    '-' ∉ lines.flatMap fun line => line ++ lineEnd := by
  intro member
  obtain ⟨line, isLine, inLine⟩ := List.mem_flatMap.mp member
  rcases List.mem_append.mp inLine with digit | ends
  · have inAlphabet := Base64.mem_of_mem_encodeGroups
      (mem_encodeGroups_of_mem_line whole isLine digit)
    exact absurd inAlphabet (by decide +kernel)
  · exact noHyphen ends

/-- The scanner finds the certificate in every file that begins with it. -/
theorem firstPemBlockToDer_of_isCertificatePem
    {der : List UInt8}
    {pem : String}
    (isPem : IsCertificatePem der pem) :
    firstPemBlockToDer (asBytes pem) = .ok der := by
  obtain ⟨lineEnd, lines, behind, isLineEnd, whole⟩ := isPem
  have white : lineEnd.toList.all isWhiteSpace = true := by
    rcases isLineEnd with rfl | rfl <;> decide
  have noHyphen : '-' ∉ lineEnd.toList := by
    rcases isLineEnd with rfl | rfl <;> decide
  obtain ⟨beginLine, begins, oneLine⟩ :
      ∃ beginLine,
        "CERTIFICATE-----".toList ++ lineEnd.toList = beginLine ++ ['\n'] ∧
          '\n' ∉ beginLine := by
    rcases isLineEnd with rfl | rfl
    · exact ⟨"CERTIFICATE-----".toList, rfl, by decide⟩
    · exact ⟨"CERTIFICATE-----\r".toList, rfl, by decide⟩
  have begun (rest : List Char) :
      beginLine ++ '\n' :: rest =
        "CERTIFICATE-----".toList ++ (lineEnd.toList ++ rest) := by
    rw [← List.append_assoc, begins, List.append_assoc]
    rfl
  have split :
      ("-----BEGIN CERTIFICATE-----" ++ lineEnd ++
          String.ofList (lines.flatMap fun line => line ++ lineEnd.toList) ++
            "-----END CERTIFICATE-----" ++ behind).toList =
        "-----BEGIN ".toList ++
          (beginLine ++ '\n' ::
            ((lines.flatMap fun line => line ++ lineEnd.toList) ++
              ("-----END ".toList ++
                ("CERTIFICATE-----".toList ++ behind.toList)))) := by
    rw [begun]
    simp
  rw [firstPemBlockToDer_of_body _ _ _ split oneLine
      (hyphen_notMem_lines whole noHyphen),
    filter_lines whole (List.all_eq_true.mp white), String.ofList_toList,
    Base64.decode_encode]

/-- The scanner reads what the dialog writes, and all fingerprints of one
certificate are the same text. -/
theorem fingerprints_agree
    (sha256 : List UInt8 → List UInt8)
    (der : List UInt8) :
    firstPemBlockToDer (asBytes (derToPem der)) = .ok der ∧
      sha256Hex sha256 der = fingerprintOfDer sha256 der ∧
      ∀ pem,
        IsCertificatePem der pem →
        fingerprintOfPem sha256 (asBytes pem) =
          .ok (fingerprintOfDer sha256 der) := by
  refine ⟨firstPemBlockToDer_of_isCertificatePem
    (isCertificatePem_derToPem der), rfl, ?_⟩
  intro pem isPem
  rw [fingerprintOfPem, firstPemBlockToDer_of_isCertificatePem isPem]
  rfl

end ClipboardWire
