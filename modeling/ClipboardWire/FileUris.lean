import ClipboardWire.BasicAuth
import ClipboardWire.FileReceiver
import ClipboardWire.LossyUtf8

namespace ClipboardWire

open PlainText

/-!
# File lists as `text/uri-list`

The X11 part of `core/src/client/files_clipboard.rs`: what is put on the
clipboard for a list of files, and what is read from it.  A path is its text;
on this system every text with a leading slash is an absolute path.
-/

/-- `String::from_utf8_lossy` -/
def fromUtf8Lossy (bytes : List UInt8) : String :=
  String.ofList (LossyUtf8.decode none bytes)

/-- `from_hex` -/
def fromHex (byte : UInt8) : Option UInt8 :=
  if 0x30 ≤ byte ∧ byte ≤ 0x39 then
    some (byte - 0x30)
  else if 0x61 ≤ byte ∧ byte ≤ 0x66 then
    some (byte - 0x61 + 10)
  else if 0x41 ≤ byte ∧ byte ≤ 0x46 then
    some (byte - 0x41 + 10)
  else
    none

/-- The loop of `percent_decode`. -/
def percentDecodeBytes : List UInt8 → List UInt8
  | [] =>
      []
  | byte :: rest =>
      match rest with
      | high :: low :: behind =>
          if byte = 0x25 then
            match fromHex high, fromHex low with
            | some hi, some lo =>
                (hi <<< 4 ||| lo) :: percentDecodeBytes behind
            | _, _ =>
                byte :: percentDecodeBytes (high :: low :: behind)
          else
            byte :: percentDecodeBytes (high :: low :: behind)
      -- `i + 2 < bytes.len()` fails
      | short =>
          byte :: percentDecodeBytes short

/-- `percent_decode` -/
def percentDecode (s : String) : String :=
  fromUtf8Lossy (percentDecodeBytes (asBytes s))

/-- The bytes that `percent_encode_path` leaves as they are. -/
def isUnescaped (byte : UInt8) : Bool :=
  (0x41 ≤ byte && byte ≤ 0x5A) || (0x61 ≤ byte && byte ≤ 0x7A) ||
    (0x30 ≤ byte && byte ≤ 0x39) ||
    byte == 0x2D || byte == 0x2E || byte == 0x5F || byte == 0x7E ||
    byte == 0x2F

/-- What `percent_encode_path` writes for one byte. -/
def percentEncodeByte (byte : UInt8) : List Char :=
  if isUnescaped byte then
    [Char.ofNat byte.toNat]
  else
    '%' :: upperHex byte

/-- `percent_encode_path` -/
def percentEncodePath (s : String) : String :=
  String.ofList ((asBytes s).flatMap percentEncodeByte)

/-- `file_url_to_path` -/
def fileUrlToPath (uri : String) : Option String :=
  match stripPrefix "file://" uri with
  | none =>
      none
  | some path =>
      let path :=
        match stripPrefix "localhost" path with
        | some rest =>
            rest
        | none =>
            match path.toList.findIdx? (· = '/') with
            | some 0 => path
            | some index => String.ofList (path.toList.drop index)
            | none => path
      some (percentDecode path)

/-- The characters that end a line in `parse_uri_list`. -/
def endsLine (c : Char) : Bool :=
  c = '\n' || c = '\r'

/-- The lines that `parse_uri_list` does not skip. -/
def isUriLine (line : String) : Bool :=
  line ≠ "" && !startsWith "#" line

/-- `parse_uri_list` -/
def parseUriList (bytes : List UInt8) : List String :=
  let lines :=
    ((fromUtf8Lossy bytes).toList.splitOnP endsLine).map fun line =>
      trimText (String.ofList line)
  (lines.filter isUriLine).filterMap fileUrlToPath

/-- `render_uri_list` -/
def renderUriList (paths : List String) : List UInt8 :=
  asBytes
    (paths.foldl
      (fun out path => out ++ "file://" ++ percentEncodePath path ++ "\r\n")
      "")

/-! ## Texts and their bytes -/

/-- The bytes of a text are those of its characters. -/
theorem asBytes_eq_flatMap (text : String) :
    asBytes text = text.toList.flatMap String.utf8EncodeChar := by
  have same :
      text.toUTF8 =
        (text.toList.flatMap String.utf8EncodeChar).toByteArray := by
    conv => lhs; rw [← String.ofList_toList (s := text)]
    rfl
  rw [asBytes, same]
  simp

@[simp] theorem fromUtf8Lossy_asBytes (text : String) :
    fromUtf8Lossy (asBytes text) = text := by
  rw [fromUtf8Lossy, asBytes_eq_flatMap, LossyUtf8.decode_utf8Encode,
    String.ofList_toList]

theorem asBytes_append (first second : String) :
    asBytes (first ++ second) = asBytes first ++ asBytes second := by
  simp [asBytes_eq_flatMap]

/-- Only the empty text has no bytes. -/
theorem asBytes_eq_nil_iff {text : String} :
    asBytes text = [] ↔ text = "" := by
  constructor
  · intro empty
    have read := fromUtf8Lossy_asBytes text
    rw [empty] at read
    exact read.symm
  · rintro rfl
    rfl

/-! ## Percent-encoded bytes -/

/-- A byte that is not a percent sign is left as it is. -/
theorem percentDecodeBytes_cons
    {byte : UInt8}
    (literal : byte ≠ 0x25)
    (rest : List UInt8) :
    percentDecodeBytes (byte :: rest) = byte :: percentDecodeBytes rest :=
  match rest with
  | [] => rfl
  | [_] => rfl
  | _ :: _ :: _ => if_neg literal

/-- A percent sign without two hexadecimal digits is left as it is. -/
theorem percentDecodeBytes_unescaped
    {high low : UInt8}
    (neither :
      ∀ hi lo, fromHex high = some hi → fromHex low = some lo → False)
    (behind : List UInt8) :
    percentDecodeBytes (0x25 :: high :: low :: behind) =
      0x25 :: percentDecodeBytes (high :: low :: behind) := by
  rw [percentDecodeBytes, if_pos rfl]
  split
  · rename_i isHigh isLow
    exact (neither _ _ isHigh isLow).elim
  · rfl

/-- Two hexadecimal digits behind a percent sign are one byte. -/
theorem percentDecodeBytes_escape
    {high low hi lo : UInt8}
    (isHigh : fromHex high = some hi)
    (isLow : fromHex low = some lo)
    (rest : List UInt8) :
    percentDecodeBytes (0x25 :: high :: low :: rest) =
      (hi <<< 4 ||| lo) :: percentDecodeBytes rest := by
  rw [percentDecodeBytes, if_pos rfl, isHigh, isLow]

/-- A slash ends whatever stands in front of it. -/
theorem percentDecodeBytes_append_slash (front rest : List UInt8) :
    percentDecodeBytes (front ++ 0x2F :: rest) =
      percentDecodeBytes front ++ 0x2F :: percentDecodeBytes rest := by
  fun_induction percentDecodeBytes front with
  | case1 =>
      exact percentDecodeBytes_cons (by decide) rest
  | case2 high low behind hi lo isLow isHigh inductionHypothesis =>
      simp only [List.cons_append, percentDecodeBytes_escape isHigh isLow,
        inductionHypothesis]
  | case3 high low behind neither inductionHypothesis =>
      simp only [List.cons_append, percentDecodeBytes_unescaped neither,
        ← inductionHypothesis]
  | case4 byte high low behind literal inductionHypothesis =>
      simp only [List.cons_append, percentDecodeBytes_cons literal,
        ← inductionHypothesis]
  | case5 byte short isShort inductionHypothesis =>
      rw [List.cons_append, List.cons_append, ← inductionHypothesis]
      by_cases literal : byte = 0x25
      · subst literal
        -- the slash is no digit of an escape that begins in front of it
        match short, isShort with
        | [], _ =>
            cases rest with
            | nil =>
                rfl
            | cons head tail =>
                exact percentDecodeBytes_unescaped (by simp [fromHex]) _
        | [head], _ =>
            exact percentDecodeBytes_unescaped (by simp [fromHex]) _
        | _ :: _ :: _, isShort =>
            exact (isShort _ _ _ rfl).elim
      · exact percentDecodeBytes_cons literal _

/-- The hexadecimal digits, with capitals or without. -/
def hexAlphabet (capital : Bool) : List UInt8 :=
  let letters := if capital then "ABCDEF" else "abcdef"
  ("0123456789" ++ letters).toList.map fun c => UInt8.ofNat c.toNat

/-- A digit has a value. -/
def IsHexDigit (digit : UInt8) (value : Nat) : Prop :=
  ∃ capital, (hexAlphabet capital)[value]? = some digit

/-- Some bytes are those of a percent-encoded text. -/
inductive PercentEncodes : List UInt8 → List UInt8 → Prop where
  | nil :
      PercentEncodes [] []
  | literal {byte : UInt8} {encoded plain : List UInt8}
      (notPercent : byte ≠ 0x25)
      (rest : PercentEncodes encoded plain) :
      PercentEncodes (byte :: encoded) (byte :: plain)
  | escape {byte high low : UInt8} {encoded plain : List UInt8}
      (isHigh : IsHexDigit high (byte.toNat / 16))
      (isLow : IsHexDigit low (byte.toNat % 16))
      (rest : PercentEncodes encoded plain) :
      PercentEncodes (0x25 :: high :: low :: encoded) (byte :: plain)

/-- The digits are read with their values. -/
theorem fromHex_of_isHexDigit
    {digit : UInt8}
    {value : Nat}
    (isDigit : IsHexDigit digit value) :
    fromHex digit = some (UInt8.ofNat value) := by
  obtain ⟨capital, found⟩ := isDigit
  have length : (hexAlphabet capital).length = 16 := by
    cases capital <;> decide +kernel
  have bounded : value < 16 := by
    rw [← length]
    exact (List.getElem?_eq_some_iff.mp found).1
  have all :
      ∀ capital, ∀ value < 16,
        (hexAlphabet capital)[value]?.bind fromHex =
          some (UInt8.ofNat value) := by
    decide +kernel
  have read := all capital value bounded
  rwa [found, Option.bind_some] at read

/-- The two halves of a byte. -/
theorem nibbles (byte : UInt8) :
    UInt8.ofNat (byte.toNat / 16) <<< 4 ||| UInt8.ofNat (byte.toNat % 16) =
      byte := by
  have all :
      ∀ value < 256,
        UInt8.ofNat (value / 16) <<< 4 ||| UInt8.ofNat (value % 16) =
          UInt8.ofNat value := by
    decide +kernel
  rw [all byte.toNat byte.toNat_lt, UInt8.ofNat_toNat]

/-- Percent-encoded bytes are decoded. -/
theorem PercentEncodes.decode
    {encoded plain : List UInt8}
    (encodes : PercentEncodes encoded plain) :
    percentDecodeBytes encoded = plain := by
  induction encodes with
  | nil =>
      rfl
  | literal notPercent rest inductionHypothesis =>
      rw [percentDecodeBytes_cons notPercent, inductionHypothesis]
  | escape isHigh isLow rest inductionHypothesis =>
      rw [percentDecodeBytes_escape (fromHex_of_isHexDigit isHigh)
        (fromHex_of_isHexDigit isLow), nibbles, inductionHypothesis]

/-- What `percent_encode_path` writes for a byte, as bytes. -/
theorem bytes_percentEncodeByte (byte : UInt8) :
    (percentEncodeByte byte).flatMap String.utf8EncodeChar =
      if isUnescaped byte then
        [byte]
      else
        [0x25, (hexAlphabet true).getD (byte.toNat / 16) 0,
          (hexAlphabet true).getD (byte.toNat % 16) 0] := by
  have all :
      ∀ value < 256,
        (percentEncodeByte (UInt8.ofNat value)).flatMap
            String.utf8EncodeChar =
          if isUnescaped (UInt8.ofNat value) then
            [UInt8.ofNat value]
          else
            [0x25, (hexAlphabet true).getD (value / 16) 0,
              (hexAlphabet true).getD (value % 16) 0] := by
    decide +kernel
  have written := all byte.toNat byte.toNat_lt
  rwa [UInt8.ofNat_toNat] at written

/-- What `percent_encode_path` writes for a byte contains no white space. -/
theorem not_isWhiteSpace_of_mem_percentEncodeByte
    {byte : UInt8}
    {c : Char}
    (member : c ∈ percentEncodeByte byte) :
    isWhiteSpace c = false := by
  have all :
      ∀ value < 256,
        (percentEncodeByte (UInt8.ofNat value)).any isWhiteSpace = false := by
    decide +kernel
  have none := all byte.toNat byte.toNat_lt
  rw [UInt8.ofNat_toNat] at none
  simpa using List.any_eq_false.mp none c member

/-- The digit with a value. -/
theorem isHexDigit_getD
    {value : Nat}
    (bounded : value < 16) :
    IsHexDigit ((hexAlphabet true).getD value 0) value := by
  have length : (hexAlphabet true).length = 16 := by
    decide +kernel
  refine ⟨true, ?_⟩
  rw [List.getD_eq_getElem?_getD, List.getElem?_eq_getElem (by omega),
    Option.getD_some]

/-- What `percent_encode_path` writes is percent-encoded. -/
theorem percentEncodes_percentEncodePath (s : String) :
    PercentEncodes (asBytes (percentEncodePath s)) (asBytes s) := by
  rw [asBytes_eq_flatMap (percentEncodePath s), percentEncodePath,
    String.toList_ofList]
  induction asBytes s with
  | nil =>
      exact .nil
  | cons byte rest inductionHypothesis =>
      have bounded := byte.toNat_lt
      rw [List.flatMap_cons, List.flatMap_append, bytes_percentEncodeByte]
      split
      · rename_i unescaped
        refine .literal ?_ inductionHypothesis
        rintro rfl
        exact absurd unescaped (by decide)
      · exact .escape (isHexDigit_getD (by omega)) (isHexDigit_getD (by omega))
          inductionHypothesis

/-- A percent-encoded text is decoded to that text. -/
theorem percentDecode_of_percentEncodes
    {encoded path : String}
    (encodes : PercentEncodes (asBytes encoded) (asBytes path)) :
    percentDecode encoded = path := by
  rw [percentDecode, encodes.decode, fromUtf8Lossy_asBytes]

/-! ## File URIs -/

/-- A text without a slash that begins a text begins its part in front of the
first slash. -/
theorem startsWith_append_slash
    {start : String}
    (noSlash : '/' ∉ start.toList)
    (authority rest : String) :
    startsWith start (authority ++ ("/" ++ rest)) =
      startsWith start authority := by
  rw [Bool.eq_iff_iff]
  simp only [startsWith, List.isPrefixOf_iff_prefix, String.toList_append]
  constructor
  · intro starts
    rcases List.prefix_or_prefix_of_prefix starts
      (List.prefix_append authority.toList _) with shorter | longer
    · exact shorter
    · obtain ⟨tail, split⟩ := longer
      rw [← split, List.prefix_append_right_inj] at starts
      cases tail with
      | nil =>
          rw [← split, List.append_nil]
      | cons head tail =>
          have isSlash : head = '/' := by
            simpa using List.IsPrefix.head starts (List.cons_ne_nil _ _)
          exact (noSlash (by simp [← split, isSlash])).elim
  · intro starts
    exact starts.trans (List.prefix_append _ _)

/-- Behind the authority the path begins with its first slash. -/
theorem fileUrlToPath_of_host
    (authority : String)
    (noSlash : '/' ∉ authority.toList)
    (noLocalhost : startsWith "localhost" authority = false)
    (rest : String) :
    fileUrlToPath ("file://" ++ (authority ++ ("/" ++ rest))) =
      some (percentDecode ("/" ++ rest)) := by
  have other :
      stripPrefix "localhost" (authority ++ ("/" ++ rest)) = none := by
    rw [stripPrefix, startsWith_append_slash (by decide), noLocalhost]
    rfl
  have found :
      (authority ++ ("/" ++ rest)).toList.findIdx? (· = '/') =
        some authority.toList.length := by
    rw [String.toList_append, String.toList_append]
    exact findIdx?_separator noSlash rest.toList
  have behind :
      (authority ++ ("/" ++ rest)).toList.drop authority.toList.length =
        ("/" ++ rest).toList := by
    rw [String.toList_append, List.drop_left]
  rw [fileUrlToPath, stripPrefix_append]
  simp only [other, found]
  split
  · rename_i empty
    have isEmpty : authority = "" := by
      simpa using empty
    rw [isEmpty, String.empty_append]
  · rename_i index nonempty same
    rw [← Option.some.inj same, behind, String.ofList_toList]
  · rename_i missing
    cases missing

/-- The name of the own host is cut off wherever it stands. -/
theorem fileUrlToPath_of_localhost (rest : String) :
    fileUrlToPath ("file://" ++ ("localhost" ++ rest)) =
      some (percentDecode rest) := by
  rw [fileUrlToPath, stripPrefix_append]
  simp only [stripPrefix_append]

/-! ## Lists of files -/

/-- A text that begins with a slash. -/
theorem exists_of_startsWith_slash
    {text : String}
    (absolute : startsWith "/" text = true) :
    ∃ rest, text = "/" ++ rest := by
  obtain ⟨rest, split⟩ := List.isPrefixOf_iff_prefix.mp absolute
  refine ⟨String.ofList rest, ?_⟩
  rw [← String.toList_inj, ← split]
  simp

theorem percentEncodePath_append (first second : String) :
    percentEncodePath (first ++ second) =
      percentEncodePath first ++ percentEncodePath second := by
  simp [percentEncodePath, asBytes_append, String.ofList_append]

/-- The line of a path. -/
theorem fileUrlToPath_percentEncodePath
    {path : String}
    (absolute : startsWith "/" path = true) :
    fileUrlToPath ("file://" ++ percentEncodePath path) = some path := by
  obtain ⟨rest, rfl⟩ := exists_of_startsWith_slash absolute
  have encoded :
      percentEncodePath ("/" ++ rest) = "/" ++ percentEncodePath rest := by
    rw [percentEncodePath_append]
    rfl
  have found := fileUrlToPath_of_host "" (by decide) (by decide)
    (percentEncodePath rest)
  rw [String.empty_append, ← encoded] at found
  rw [found, percentDecode_of_percentEncodes
    (percentEncodes_percentEncodePath _)]

/-- A line contains no white space. -/
theorem not_isWhiteSpace_of_mem_line
    {path : String}
    {c : Char}
    (member : c ∈ ("file://" ++ percentEncodePath path).toList) :
    isWhiteSpace c = false := by
  rw [String.toList_append, List.mem_append] at member
  rcases member with scheme | encoded
  · have none : "file://".toList.any isWhiteSpace = false := by
      decide
    simpa using List.any_eq_false.mp none c scheme
  · rw [percentEncodePath, String.toList_ofList, List.mem_flatMap] at encoded
    obtain ⟨byte, -, written⟩ := encoded
    exact not_isWhiteSpace_of_mem_percentEncodeByte written

/-- The characters that `render_uri_list` writes. -/
theorem toList_renderUriList (out : String) (paths : List String) :
    (paths.foldl
        (fun out path => out ++ "file://" ++ percentEncodePath path ++ "\r\n")
        out).toList =
      out.toList ++
        paths.flatMap fun path =>
          ("file://" ++ percentEncodePath path).toList ++ ['\r', '\n'] := by
  induction paths generalizing out with
  | nil =>
      simp
  | cons path rest inductionHypothesis =>
      rw [List.foldl_cons, inductionHypothesis, List.flatMap_cons]
      simp [String.append_assoc]

/-- The lines that are read from what was rendered. -/
theorem splitOnP_rendered (paths : List String) :
    (paths.flatMap fun path =>
        ("file://" ++ percentEncodePath path).toList ++
          ['\r', '\n']).splitOnP endsLine =
      (paths.flatMap fun path =>
        [("file://" ++ percentEncodePath path).toList, []]) ++ [[]] := by
  induction paths with
  | nil =>
      rfl
  | cons path rest inductionHypothesis =>
      have solid :
          ∀ c ∈ ("file://" ++ percentEncodePath path).toList,
            endsLine c = false := by
        intro c member
        have notWhite := not_isWhiteSpace_of_mem_line member
        by_contra ends
        simp only [endsLine, Bool.not_eq_false, Bool.or_eq_true,
          decide_eq_true_eq] at ends
        rcases ends with rfl | rfl <;> exact absurd notWhite (by decide)
      rw [List.flatMap_cons, List.append_assoc, List.cons_append,
        List.splitOnP_append_cons_of_forall_mem solid _ (by decide),
        List.cons_append, List.nil_append,
        List.splitOnP_cons_eq_if_modifyHead, if_pos (by decide),
        inductionHypothesis]
      rfl

/-- The line of a path is neither empty nor a comment. -/
theorem isUriLine_line (path : String) :
    isUriLine ("file://" ++ percentEncodePath path) = true := by
  simp [isUriLine, startsWith, List.isPrefixOf, ← String.toList_inj]

/-- Every line gives its path back. -/
theorem paths_of_lines
    {paths : List String}
    (absolute : ∀ path ∈ paths, startsWith "/" path = true) :
    ((((paths.flatMap fun path =>
        [("file://" ++ percentEncodePath path).toList, []]) ++ [[]]).map
          fun line => trimText (String.ofList line)).filter
            isUriLine).filterMap fileUrlToPath = paths := by
  induction paths with
  | nil =>
      decide
  | cons path rest inductionHypothesis =>
      have trimmed :
          trimText ("file://" ++ percentEncodePath path) =
            "file://" ++ percentEncodePath path :=
        trimText_of_forall fun c => not_isWhiteSpace_of_mem_line
      have found :=
        fileUrlToPath_percentEncodePath (absolute path List.mem_cons_self)
      have later := inductionHypothesis fun other member =>
        absolute other (List.mem_cons_of_mem path member)
      have blank : isUriLine (trimText (String.ofList [])) = false := by
        decide
      rw [List.flatMap_cons, List.append_assoc, List.map_append,
        List.filter_append, List.filterMap_append, later]
      simp only [List.map_cons, List.map_nil, String.ofList_toList, trimmed,
        List.filter_cons_of_pos (isUriLine_line path), blank,
        List.filter_cons_of_neg, Bool.false_eq_true, not_false_eq_true,
        List.filter_nil, List.filterMap_cons_some found, List.filterMap_nil,
        List.cons_append, List.nil_append]

/-- File lists survive the clipboard, and any text its percent-encoding. -/
theorem parseUriList_renderUriList
    {paths : List String}
    (absolute : ∀ path ∈ paths, startsWith "/" path = true) :
    parseUriList (renderUriList paths) = paths ∧
      ∀ s, percentDecode (percentEncodePath s) = s := by
  constructor
  · rw [parseUriList, renderUriList, fromUtf8Lossy_asBytes,
      toList_renderUriList, String.toList_empty, List.nil_append,
      splitOnP_rendered]
    exact paths_of_lines absolute
  · intro s
    exact percentDecode_of_percentEncodes (percentEncodes_percentEncodePath s)

/-- A path with line ends, a percent sign and other letters. -/
theorem parseUriList_renderUriList_sample :
    parseUriList (renderUriList ["/a b%41\r\n#", "/é\\"]) =
        ["/a b%41\r\n#", "/é\\"] ∧
      ∀ s, percentDecode (percentEncodePath s) = s :=
  parseUriList_renderUriList (by decide)

/-! ## The authority of a file URI -/

/-- A slash is a character of its own, whatever stands in front of it. -/
theorem fromUtf8Lossy_append_slash (front rest : List UInt8) :
    fromUtf8Lossy (front ++ 0x2F :: rest) =
      fromUtf8Lossy front ++ ("/" ++ fromUtf8Lossy rest) := by
  have slash :
      LossyUtf8.decode none (front ++ 0x2F :: rest) =
        LossyUtf8.decode none front ++ '/' :: LossyUtf8.decode none rest :=
    LossyUtf8.decode_append_ascii (by decide) none front rest
  simp [fromUtf8Lossy, slash]

/-- What stands in front of a slash is decoded on its own. -/
theorem percentDecode_append_slash (front rest : String) :
    percentDecode (front ++ ("/" ++ rest)) =
      percentDecode front ++ ("/" ++ percentDecode rest) := by
  have slash :
      asBytes (front ++ ("/" ++ rest)) =
        asBytes front ++ 0x2F :: asBytes rest := by
    rw [asBytes_append, asBytes_append]
    rfl
  rw [percentDecode, slash, percentDecodeBytes_append_slash,
    fromUtf8Lossy_append_slash]
  rfl

/-- Only the empty text is decoded to the empty one. -/
theorem percentDecode_eq_empty_iff {text : String} :
    percentDecode text = "" ↔ text = "" := by
  have bytes :
      percentDecodeBytes (asBytes text) = [] ↔ asBytes text = [] := by
    cases asBytes text with
    | nil =>
        exact Iff.rfl
    | cons byte rest =>
        refine ⟨fun empty => ?_, fun empty => by cases empty⟩
        unfold percentDecodeBytes at empty
        grind
  rw [← @asBytes_eq_nil_iff text, ← bytes, percentDecode, fromUtf8Lossy,
    ← String.toList_inj]
  simp [LossyUtf8.decode_eq_nil_iff]

/-- The path of a file URI comes out as it was exactly if its authority is the
own host, or does not begin with the name of it. -/
theorem fileUrlToPath_authority_iff
    {authority encoded path : String}
    (noSlash : '/' ∉ authority.toList)
    (absolute : startsWith "/" encoded = true)
    (encodes : PercentEncodes (asBytes encoded) (asBytes path)) :
    fileUrlToPath ("file://" ++ (authority ++ encoded)) = some path ↔
      authority = "localhost" ∨
        startsWith "localhost" authority = false := by
  obtain ⟨rest, rfl⟩ := exists_of_startsWith_slash absolute
  have decoded := percentDecode_of_percentEncodes encodes
  cases host : startsWith "localhost" authority with
  | false =>
      rw [fileUrlToPath_of_host authority noSlash host, decoded]
      simp
  | true =>
      obtain ⟨behind, split⟩ := List.isPrefixOf_iff_prefix.mp host
      have isBehind : authority = "localhost" ++ String.ofList behind := by
        rw [← String.toList_inj, ← split]
        simp
      have alone := percentDecode_append_slash "" rest
      rw [String.empty_append,
        percentDecode_eq_empty_iff.mpr rfl, String.empty_append] at alone
      rw [isBehind, String.append_assoc, fileUrlToPath_of_localhost,
        percentDecode_append_slash, ← decoded, alone, Option.some.injEq,
        String.append_eq_right_iff, percentDecode_eq_empty_iff,
        String.append_eq_left_iff]
      simp

/-- A host that is neither empty nor begins like the own one. -/
theorem fileUrlToPath_authority_sample :
    fileUrlToPath ("file://" ++ ("nas" ++ "/a%20b")) = some "/a b" ↔
      "nas" = "localhost" ∨ startsWith "localhost" "nas" = false :=
  fileUrlToPath_authority_iff (by decide) (by decide) (by
    rw [show asBytes "/a%20b" = [0x2F, 0x61, 0x25, 0x32, 0x30, 0x62] by
        decide +kernel,
      show asBytes "/a b" = [0x2F, 0x61, 0x20, 0x62] by decide +kernel]
    exact .literal (by decide) (.literal (by decide)
      (.escape ⟨true, by decide +kernel⟩ ⟨true, by decide +kernel⟩
        (.literal (by decide) .nil))))

/-- The rest of another host's name becomes part of a relative path. -/
theorem fileUrlToPath_localhost_prefix :
    fileUrlToPath ("file://" ++ ("localhost.example" ++ "/etc/hosts")) =
        some ".example/etc/hosts" ∧
      some ".example/etc/hosts" ≠ some "/etc/hosts" := by
  decide +kernel

end ClipboardWire
