import ClipboardWire.PlainText

namespace ClipboardWire

open PlainText

/-!
# The authority of the server URL

`parse_wss_authority` of `cli/src/settings.rs`, with which the pinning dialog
finds the host that it connects to.  It takes everything up to the first slash
for the authority and everything behind the last colon for the port.
-/

/-- What stands behind a plus sign. -/
def withoutPlus : List Char → List Char
  | '+' :: rest => rest
  | text => text

/-- `u16::from_str`: an optional plus sign and decimal digits. -/
def parseU16 (text : List Char) : Option UInt16 :=
  let digits := TextReader.takeDigits 10 0 0 (withoutPlus text)
  if digits.count ≠ 0 ∧ digits.rest = [] ∧ digits.value < 2 ^ 16 then
    some (.ofNat digits.value)
  else
    none

/-- `str::rsplit_once` -/
def rsplitOnce
    (separator : Char)
    (text : List Char) :
    Option (List Char × List Char) :=
  match splitChars separator text.reverse with
  | some (after, before) => some (before.reverse, after.reverse)
  | none => none

/-- The host and the port of an authority. -/
def splitAuthority
    (authority : List Char) :
    Except String (String × UInt16) :=
  match rsplitOnce ':' authority with
  | some (host, port) =>
      match parseU16 port with
      | none =>
          .error "invalid port in server URL"
      | some port =>
          if host = [] then
            .error "server URL has no host"
          else
            .ok (String.ofList host, port)
  | none =>
      if authority = [] then
        .error "server URL has no host"
      else
        .ok (String.ofList authority, 443)

/-- `parse_wss_authority` -/
def parseWssAuthority (url : String) : Except String (String × UInt16) :=
  match stripPrefix "wss://" url with
  | none =>
      .error "server URL must start with wss:// to pin a certificate"
  | some afterScheme =>
      splitAuthority (afterScheme.toList.takeWhile (· ≠ '/'))

/-! ## URLs -/

/-- A character of a registered name or an IPv4 address: no delimiter. -/
def isNameChar (c : Char) : Bool :=
  !([':', '/', '?', '#', '[', ']', '@'].contains c)

/-- A character of an IPv6 address. -/
def isAddressChar (c : Char) : Bool :=
  c = ':' || c = '.' || (TextReader.toDigit 16 c).isSome

/-- The host of a URL. -/
inductive UrlHost where
  /-- A DNS name or an IPv4 address. -/
  | name (text : List Char)
      (nonempty : text ≠ [])
      (isName : ∀ c ∈ text, isNameChar c = true)
  /-- An IPv6 address, which stands between brackets. -/
  | literal (address : List Char)
      (isAddress : ∀ c ∈ address, isAddressChar c = true)

/-- The host itself. -/
def UrlHost.address : UrlHost → List Char
  | .name text _ _ => text
  | .literal address _ => address

/-- The host as it stands in a URL. -/
def UrlHost.text : UrlHost → List Char
  | .name text _ _ => text
  | .literal address _ => '[' :: (address ++ [']'])

/-- The number that some decimal digits stand for. -/
def decimalValue (digits : List Char) : Nat :=
  digits.foldl (fun value c => value * 10 + (c.toNat - '0'.toNat)) 0

/-- The port of a URL. -/
structure UrlPort where
  digits : List Char
  nonempty : digits ≠ []
  decimal : ∀ c ∈ digits, '0' ≤ c ∧ c ≤ '9'
  bounded : decimalValue digits < 2 ^ 16

/-- A URL `wss://host[:port][/path][?query]`. -/
structure WssUrl where
  host : UrlHost
  port : Option UrlPort
  path : List Char
  query : Option (List Char)
  absolute : path = [] ∨ path.head? = some '/'

namespace WssUrl

/-- The port with its colon. -/
def portText (url : WssUrl) : List Char :=
  match url.port with
  | some port => ':' :: port.digits
  | none => []

/-- The query with its question mark. -/
def queryText (url : WssUrl) : List Char :=
  match url.query with
  | some query => '?' :: query
  | none => []

/-- The text of a URL. -/
def text (url : WssUrl) : String :=
  "wss://" ++
    String.ofList
      (url.host.text ++ url.portText ++ (url.path ++ url.queryText))

/-- The host and the port that a client connects to. -/
def target (url : WssUrl) : String × UInt16 :=
  (String.ofList url.host.address,
    match url.port with
    | some port => .ofNat (decimalValue port.digits)
    | none => 443)

/-- What stands in front of the first slash behind the scheme. -/
def beforeSlash (url : WssUrl) : List Char :=
  (url.host.text ++ url.portText ++ (url.path ++ url.queryText)).takeWhile
    (· ≠ '/')

end WssUrl

/-! ## Numbers and colons -/

/-- Digits that are all decimal are taken to the end. -/
theorem takeDigits_decimal
    {digits : List Char}
    (decimal : ∀ c ∈ digits, '0' ≤ c ∧ c ≤ '9')
    (value count : Nat) :
    TextReader.takeDigits 10 value count digits =
      ⟨digits.foldl (fun value c => value * 10 + (c.toNat - '0'.toNat)) value,
        count + digits.length, []⟩ := by
  induction digits generalizing value count with
  | nil =>
      rfl
  | cons c rest inductionHypothesis =>
      have isDecimal := decimal c List.mem_cons_self
      have below : c.toNat - '0'.toNat < 10 := by
        have upper : c.toNat ≤ '9'.toNat := isDecimal.2
        simp only [Char.reduceToNat] at upper ⊢
        omega
      have digit :
          TextReader.toDigit 10 c = some (c.toNat - '0'.toNat) := by
        simp only [TextReader.toDigit, if_pos isDecimal]
        exact Option.filter_some_pos (by simpa using below)
      rw [TextReader.takeDigits, digit]
      simp only [List.foldl_cons]
      rw [inductionHypothesis fun other member =>
        decimal other (List.mem_cons_of_mem c member)]
      rw [List.length_cons, Nat.add_assoc, Nat.add_comm 1]

/-- Only digits are taken when nothing is left. -/
theorem isSome_toDigit_of_takeDigits
    {text : List Char}
    {value count : Nat}
    (whole : (TextReader.takeDigits 10 value count text).rest = [])
    {c : Char}
    (member : c ∈ text) :
    (TextReader.toDigit 10 c).isSome = true := by
  induction text generalizing value count with
  | nil =>
      cases member
  | cons first rest inductionHypothesis =>
      rw [TextReader.takeDigits] at whole
      split at whole
      · rename_i digit isDigit
        rcases List.mem_cons.mp member with rfl | later
        · rw [isDigit]
          rfl
        · exact inductionHypothesis whole later
      · cases whole

/-- A port is read as its value. -/
theorem parseU16_digits (port : UrlPort) :
    parseU16 port.digits = some (.ofNat (decimalValue port.digits)) := by
  have unsigned : withoutPlus port.digits = port.digits := by
    unfold withoutPlus
    split
    · rename_i rest split
      have plus := port.decimal '+' (by rw [split]; exact List.mem_cons_self)
      exact absurd plus (by decide)
    · rfl
  have counted : port.digits.length ≠ 0 := by
    rw [ne_eq, List.length_eq_zero_iff]
    exact port.nonempty
  simp only [parseU16, unsigned, takeDigits_decimal port.decimal]
  refine if_pos ⟨?_, trivial, port.bounded⟩
  simpa using counted

/-- There is no question mark in a number. -/
theorem notMem_of_parseU16
    {text : List Char}
    {number : UInt16}
    (read : parseU16 text = some number) :
    '?' ∉ text := by
  intro member
  simp only [parseU16] at read
  split at read
  · rename_i isNumber
    have unsigned : '?' ∈ withoutPlus text := by
      unfold withoutPlus
      split
      · simpa using member
      · exact member
    have digit := isSome_toDigit_of_takeDigits isNumber.2.1 unsigned
    exact absurd digit (by decide)
  · cases read

theorem rsplitOnce_append
    {separator : Char}
    {after : List Char}
    (absent : separator ∉ after)
    (before : List Char) :
    rsplitOnce separator (before ++ separator :: after) =
      some (before, after) := by
  have reversed :
      (before ++ separator :: after).reverse =
        after.reverse ++ separator :: before.reverse := by
    simp
  rw [rsplitOnce, reversed,
    splitChars_append (by rwa [List.mem_reverse]) before.reverse]
  simp

/-- A text that is split is put together of the parts. -/
theorem of_rsplitOnce
    {separator : Char}
    {text before after : List Char}
    (split : rsplitOnce separator text = some (before, after)) :
    text = before ++ separator :: after := by
  unfold rsplitOnce at split
  split at split
  · rename_i behind front found
    cases split
    have reversed := congrArg List.reverse (of_splitChars found).2
    rwa [List.reverse_reverse, List.reverse_append, List.reverse_cons,
      List.append_assoc, List.singleton_append] at reversed
  · cases split

/-- A text without the separator is not split. -/
theorem rsplitOnce_eq_none
    {separator : Char}
    {text : List Char}
    (absent : separator ∉ text) :
    rsplitOnce separator text = none := by
  cases split : rsplitOnce separator text with
  | none =>
      rfl
  | some parts =>
      obtain ⟨before, after⟩ := parts
      have whole := of_rsplitOnce split
      exact (absent (by rw [whole]; simp)).elim

/-- The host of the answer is what the authority begins with. -/
theorem of_splitAuthority
    {authority : List Char}
    {host : String}
    {port : UInt16}
    (parsed : splitAuthority authority = .ok (host, port)) :
    host.toList ≠ [] ∧
      (authority = host.toList ∨
        ∃ digits,
          authority = host.toList ++ ':' :: digits ∧ '?' ∉ digits) := by
  unfold splitAuthority at parsed
  split at parsed
  · rename_i before after split
    split at parsed
    · cases parsed
    · rename_i number read
      split at parsed
      · cases parsed
      · rename_i nonempty
        cases parsed
        rw [String.toList_ofList]
        exact ⟨nonempty, .inr ⟨after, of_rsplitOnce split,
          notMem_of_parseU16 read⟩⟩
  · split at parsed
    · cases parsed
    · rename_i nonempty
      cases parsed
      rw [String.toList_ofList]
      exact ⟨nonempty, .inl rfl⟩

namespace WssUrl

variable (url : WssUrl)

/-- The text of a URL is cut behind its scheme and at the first slash. -/
theorem parse_text :
    parseWssAuthority url.text = splitAuthority url.beforeSlash := by
  rw [parseWssAuthority, text, stripPrefix_append]
  simp only [String.toList_ofList]
  rfl

/-- There is no slash in a host. -/
theorem slash_notMem_host (host : UrlHost) : '/' ∉ host.text := by
  cases host with
  | name text nonempty isName =>
      intro member
      exact absurd (isName '/' member) (by decide)
  | literal address isAddress =>
      intro member
      simp only [UrlHost.text, List.mem_cons, List.mem_append,
        List.not_mem_nil, or_false] at member
      rcases member with isBracket | inAddress | isBracket
      · exact absurd isBracket (by decide)
      · exact absurd (isAddress '/' inAddress) (by decide)
      · exact absurd isBracket (by decide)

/-- There is no slash in a port. -/
theorem slash_notMem_portText : '/' ∉ url.portText := by
  unfold portText
  split
  · rename_i port isPort
    intro member
    rcases List.mem_cons.mp member with isColon | inDigits
    · exact absurd isColon (by decide)
    · exact absurd (port.decimal '/' inDigits) (by decide)
  · exact List.not_mem_nil

/-- The authority is followed by what the path and the query have in front of
their first slash. -/
theorem beforeSlash_eq :
    url.beforeSlash =
      url.host.text ++ url.portText ++
        (url.path ++ url.queryText).takeWhile (· ≠ '/') := by
  unfold beforeSlash
  rw [List.takeWhile_append_of_pos]
  intro c member
  have differs : c ≠ '/' := by
    rintro rfl
    rcases List.mem_append.mp member with inHost | inPort
    · exact slash_notMem_host url.host inHost
    · exact url.slash_notMem_portText inPort
  simpa using differs

/-- With a path, or without a query, nothing follows. -/
theorem beforeSlash_of_path
    (ends : url.path ≠ [] ∨ url.query = none) :
    url.beforeSlash = url.host.text ++ url.portText := by
  have nothing : (url.path ++ url.queryText).takeWhile (· ≠ '/') = [] := by
    rcases url.absolute with empty | slash
    · have noQuery : url.query = none :=
        ends.resolve_left (not_not_intro empty)
      simp [empty, queryText, noQuery]
    · obtain ⟨rest, split⟩ := List.head?_eq_some_iff.mp slash
      simp [split]
  rw [beforeSlash_eq, nothing, List.append_nil]

/-- A question mark behind an authority without a path stays with it. -/
theorem beforeSlash_of_query
    {query : List Char}
    (noPath : url.path = [])
    (isQuery : url.query = some query) :
    url.beforeSlash =
      url.host.text ++ url.portText ++ '?' :: query.takeWhile (· ≠ '/') := by
  rw [beforeSlash_eq, noPath, queryText, isQuery]
  simp

/-- With a name for its host and nothing else in the authority, a URL is taken
apart as it should be. -/
theorem parse_of_name
    {text : List Char}
    {nonempty : text ≠ []}
    {isName : ∀ c ∈ text, isNameChar c = true}
    (isHost : url.host = .name text nonempty isName)
    (ends : url.path ≠ [] ∨ url.query = none) :
    parseWssAuthority url.text = .ok url.target := by
  have authority : url.beforeSlash = text ++ url.portText := by
    rw [url.beforeSlash_of_path ends, isHost]
    rfl
  have noColon : ':' ∉ text := fun member =>
    absurd (isName ':' member) (by decide)
  rw [parse_text, authority, splitAuthority, target, isHost, portText]
  cases isPort : url.port with
  | none =>
      simp only [List.append_nil, rsplitOnce_eq_none noColon,
        if_neg nonempty]
      rfl
  | some port =>
      have noColon' : ':' ∉ port.digits := fun member =>
        absurd (port.decimal ':' member) (by decide)
      simp only [rsplitOnce_append noColon', parseU16_digits,
        if_neg nonempty]
      rfl

/-- The brackets of an address are not cut off. -/
theorem parse_of_literal
    {address : List Char}
    {isAddress : ∀ c ∈ address, isAddressChar c = true}
    (isHost : url.host = .literal address isAddress) :
    parseWssAuthority url.text ≠ .ok url.target := by
  rw [parse_text]
  intro parsed
  have split := of_splitAuthority parsed
  rw [String.toList_ofList, beforeSlash_eq, isHost] at split
  obtain ⟨nonempty, split⟩ := split
  obtain ⟨c, rest, begins⟩ := List.exists_cons_of_ne_nil nonempty
  have isBracket : '[' = c := by
    rw [begins] at split
    rcases split with same | ⟨digits, same, -⟩ <;>
      exact (List.cons.inj same).1
  have member : c ∈ address := by
    rw [show address = c :: rest from begins]
    exact List.mem_cons_self
  exact absurd (isAddress c member) (by rw [← isBracket]; decide)

/-- Without a path, the question mark gets into the host or into the port. -/
theorem parse_of_query
    {text query : List Char}
    {nonempty : text ≠ []}
    {isName : ∀ c ∈ text, isNameChar c = true}
    (isHost : url.host = .name text nonempty isName)
    (noPath : url.path = [])
    (isQuery : url.query = some query) :
    parseWssAuthority url.text ≠ .ok url.target := by
  rw [parse_text]
  intro parsed
  have split := (of_splitAuthority parsed).2
  rw [String.toList_ofList, url.beforeSlash_of_query noPath isQuery, isHost,
    UrlHost.text,
    UrlHost.address, List.append_assoc] at split
  rcases split with same | ⟨digits, same, noQuestion⟩
  · rw [List.append_right_eq_self] at same
    simp at same
  · have behind := List.append_cancel_left same
    unfold portText at behind
    split at behind
    · rename_i port isPort
      have isDigits := (List.cons.inj behind).2
      exact noQuestion (by rw [← isDigits]; simp)
    · cases behind

/-- The dialog contacts the host and the port of the URL exactly if the host
is not an IPv6 address and no query follows the authority directly. -/
theorem parseWssAuthority_iff :
    parseWssAuthority url.text = .ok url.target ↔
      (∃ text nonempty isName, url.host = .name text nonempty isName) ∧
        (url.path ≠ [] ∨ url.query = none) := by
  constructor
  · intro parsed
    cases isHost : url.host with
    | name text nonempty isName =>
        refine ⟨⟨text, nonempty, isName, rfl⟩, ?_⟩
        by_contra follows
        rw [not_or, not_not] at follows
        obtain ⟨query, isQuery⟩ := Option.ne_none_iff_exists'.mp follows.2
        exact url.parse_of_query isHost follows.1 isQuery parsed
    | literal address isAddress =>
        exact (url.parse_of_literal isHost parsed).elim
  · rintro ⟨⟨text, nonempty, isName, isHost⟩, ends⟩
    exact url.parse_of_name isHost ends

end WssUrl

/-- The brackets of an address stay with a port, and without one the end of
the address is taken for a port. -/
theorem parseWssAuthority_ipv6 :
    parseWssAuthority "wss://[::1]:8484/sync" = .ok ("[::1]", 8484) ∧
      ("[::1]", (8484 : UInt16)) ≠ ("::1", 8484) ∧
      parseWssAuthority "wss://[::1]/sync" =
        .error "invalid port in server URL" := by
  decide +kernel

end ClipboardWire
