import ClipboardWire.SocketAddress

namespace SocketAddress

open TextReader

/-!
# A printed socket address is parsed back

The parts of an address are read back one after the other.  The IPv6 reader
tries an IPv4 address in front of every group, so the first lemmas say on which
texts the readers give up.
-/

/-- Nothing is read as a number where no digit stands. -/
private theorem readNumber_of_stops
    (format : NumberFormat)
    {input : List Char}
    (stops : StopsDigits format.radix input) :
    readNumber format input = none := by
  have rejected : format.Rejects input.head? ⟨0, 0, input⟩ := .inl rfl
  simp only [readNumber, takeDigits_of_stops stops, if_pos rejected]

/-- A number is followed by the text after its digits. -/
private theorem rest_of_readNumber
    {format : NumberFormat}
    {input rest : List Char}
    {number : Nat}
    (read : readNumber format input = some (number, rest)) :
    rest =
      input.dropWhile fun c => (toDigit format.radix c).isSome := by
  simp only [readNumber] at read
  split at read
  · cases read
  · simp only [Option.some.injEq, Prod.mk.injEq] at read
    rw [← read.2, rest_takeDigits]

/-- A text that goes on with neither a decimal digit nor a dot. -/
private def NoDot (rest : List Char) : Prop :=
  ∃ c tail, rest = c :: tail ∧ toDigit 10 c = none ∧ c ≠ '.'

/-- Dropping digits from a text without dots does not lead to a dot. -/
private theorem head_dropWhile_ne_dot
    {leading rest : List Char}
    (dotless : ∀ c ∈ leading, c ≠ '.')
    (noDot : NoDot rest) :
    ((leading ++ rest).dropWhile
      fun c => (toDigit 10 c).isSome).head? ≠ some '.' := by
  induction leading with
  | nil =>
      rcases noDot with ⟨c, tail, rfl, noDigit, different⟩
      simpa [List.dropWhile_cons, noDigit] using different
  | cons c later inductionHypothesis =>
      rw [List.cons_append, List.dropWhile_cons]
      split
      · exact inductionHypothesis
          fun other member => dotless other (List.mem_cons_of_mem c member)
      · simpa using dotless c List.mem_cons_self

/-- No IPv4 address stands in front of a text without dots. -/
private theorem readIpv4_of_noDot
    {leading rest : List Char}
    (dotless : ∀ c ∈ leading, c ≠ '.')
    (noDot : NoDot rest) :
    readIpv4 (leading ++ rest) = none := by
  cases first : readNumber octetFormat (leading ++ rest) with
  | none =>
      simp [readIpv4, readSeparator, first]
  | some read =>
      obtain ⟨number, after⟩ := read
      have stopped : after.head? ≠ some '.' := by
        rw [rest_of_readNumber first]
        exact head_dropWhile_ne_dot dotless noDot
      have noSeparator : readChar '.' after = none := by
        cases after with
        | nil =>
            rfl
        | cons c tail =>
            simpa [readChar] using stopped
      simp [readIpv4, readSeparator, first, noSeparator]

/-- A dotted address is read back. -/
theorem readIpv4_text
    (ip : Ipv4Addr)
    {rest : List Char}
    (stops : StopsDigits 10 rest) :
    readIpv4 (ip.text ++ rest) = some (ip, rest) := by
  have octet (byte : UInt8) {after : List Char}
      (stops : StopsDigits 10 after) :
      readNumber octetFormat (decimal byte.toNat ++ after) =
        some (byte.toNat, after) := by
    apply readNumber_toDigits octetFormat
      (by decide) (by decide) byte.toNat_lt _ stops
    rintro most ⟨⟩
    have := byte.toNat_lt
    exact ⟨by simp only [octetFormat]; omega, by decide⟩
  have dotted (after : List Char) : StopsDigits 10 ('.' :: after) :=
    stopsDigits_cons.mpr (by decide)
  simp [readIpv4, readSeparator, readChar, Ipv4Addr.text, octet, dotted,
    stops]

/-! ## Groups -/

/-- No digit of a segment is a dot. -/
private theorem hex_dotless (segment : UInt16) :
    ∀ c ∈ hex segment, c ≠ '.' := by
  obtain ⟨digits, printed, -, -⟩ :=
    @exists_digits 16 (by decide) segment.toNat
  intro c member
  rw [hex, printed] at member
  obtain ⟨digit, -, rfl⟩ := List.mem_map.mp member
  simp

/-- A text at which the groups of an address end. -/
private def EndsGroups (rest : List Char) : Prop :=
  (∃ tail, rest = ']' :: tail) ∨
    (∃ tail, rest = '%' :: tail) ∨
      ∃ tail, rest = ':' :: ':' :: tail

/-- Segments as they stand in a text, the first one at some position. -/
private def groupsText (index : Nat) : List UInt16 → List Char
  | [] =>
      []
  | segment :: later =>
      (if index = 0 then [] else [':']) ++
        (hex segment ++ groupsText (index + 1) later)

/-- Colon-separated segments are groups from the first position on. -/
private theorem colonSeparated_eq (segments : List UInt16) :
    colonSeparated segments = groupsText 0 segments := by
  have later (index : Nat) (tail : List UInt16) :
      tail.flatMap (fun segment => ':' :: hex segment) =
        groupsText (index + 1) tail := by
    induction tail generalizing index with
    | nil =>
        rfl
    | cons segment rest inductionHypothesis =>
        simp [groupsText, inductionHypothesis (index + 1)]
  cases segments with
  | nil =>
      rfl
  | cons first tail =>
      simp [colonSeparated, groupsText, later 0]

/-- What follows a group is neither a digit nor a dot. -/
private theorem noDot_groupsText
    (index : Nat)
    (segments : List UInt16)
    {rest : List Char}
    (ends : EndsGroups rest) :
    NoDot (groupsText (index + 1) segments ++ rest) ∧
      StopsDigits 16 (groupsText (index + 1) segments ++ rest) := by
  cases segments with
  | cons segment later =>
      refine ⟨⟨':', _, rfl, by decide, by decide⟩, ?_⟩
      exact stopsDigits_cons.mpr (by decide)
  | nil =>
      rcases ends with ⟨tail, rfl⟩ | ⟨tail, rfl⟩ | ⟨tail, rfl⟩
      · exact ⟨⟨_, _, rfl, by decide, by decide⟩,
          stopsDigits_cons.mpr (by decide)⟩
      · exact ⟨⟨_, _, rfl, by decide, by decide⟩,
          stopsDigits_cons.mpr (by decide)⟩
      · exact ⟨⟨_, _, rfl, by decide, by decide⟩,
          stopsDigits_cons.mpr (by decide)⟩

/-- Nothing is read where the groups end. -/
private theorem readSeparator_of_ends
    {Value : Type}
    {read : Reader Value}
    (gives : ∀ {input}, StopsDigits 16 input → read input = none)
    (index : Nat)
    {rest : List Char}
    (ends : EndsGroups rest) :
    readSeparator ':' index read rest = none := by
  have stops {c : Char} {tail : List Char} (noDigit : toDigit 16 c = none) :
      read (c :: tail) = none :=
    gives (stopsDigits_cons.mpr noDigit)
  rcases ends with ⟨tail, rfl⟩ | ⟨tail, rfl⟩ | ⟨tail, rfl⟩ <;>
    by_cases first : index = 0 <;>
      simp [readSeparator, readChar, first,
        @stops ']' _ (by decide), @stops '%' _ (by decide),
        @stops ':' _ (by decide)]

/-- No IPv4 address stands where not even a hexadecimal digit does. -/
private theorem readIpv4_of_stops
    {input : List Char}
    (stops : StopsDigits 16 input) :
    readIpv4 input = none := by
  have decimalStops : StopsDigits 10 input := by
    intro c isHead
    have noDigit := stops c isHead
    simp only [toDigit, Option.filter_eq_none_iff] at noDigit ⊢
    intro value isValue
    have := noDigit value isValue
    simp only [decide_eq_true_eq] at this ⊢
    omega
  simp [readIpv4, readSeparator,
    readNumber_of_stops octetFormat decimalStops]

/-- Printed groups are read back, up to where they end. -/
private theorem readGroups_groupsText
    {index room : Nat}
    {segments : List UInt16}
    (fits : segments.length ≤ room)
    {rest : List Char}
    (ends : EndsGroups rest) :
    readGroups index room (groupsText index segments ++ rest) =
      ⟨segments, false, rest⟩ := by
  induction segments generalizing index room with
  | nil =>
      cases room with
      | zero =>
          rfl
      | succ room =>
          simp [readGroups, groupsText,
            readSeparator_of_ends readIpv4_of_stops index ends,
            readSeparator_of_ends
              (readNumber_of_stops segmentFormat) index ends]
  | cons segment later inductionHypothesis =>
      cases room with
      | zero =>
          simp at fits
      | succ room =>
          have fitsLater : later.length ≤ room := by simpa using fits
          obtain ⟨noDot, stops⟩ := noDot_groupsText index later ends
          have noIpv4 :
              readIpv4 (hex segment ++
                (groupsText (index + 1) later ++ rest)) = none :=
            readIpv4_of_noDot (hex_dotless segment) noDot
          have number :
              readNumber segmentFormat
                  (hex segment ++
                    (groupsText (index + 1) later ++ rest)) =
                some (segment.toNat,
                  groupsText (index + 1) later ++ rest) := by
            apply readNumber_toDigits segmentFormat
              (by decide) (by decide) segment.toNat_lt _ stops
            rintro most ⟨⟩
            have := segment.toNat_lt
            exact ⟨by simp only [segmentFormat]; omega, by decide⟩
          have separated :
              groupsText index (segment :: later) ++ rest =
                (if index = 0 then [] else [':']) ++
                  (hex segment ++
                    (groupsText (index + 1) later ++ rest)) := by
            simp [groupsText]
          rw [separated]
          by_cases first : index = 0
          · subst index
            simp [readGroups, readSeparator, noIpv4, number,
              inductionHypothesis fitsLater]
          · simp [readGroups, readSeparator, readChar, first, noIpv4,
              number, inductionHypothesis fitsLater]

/-! ## The run of zeros -/

/-- A span marks a run of zeros in a list of segments. -/
private def Marks (segments : List UInt16) (span : Span) : Prop :=
  ∃ before after,
    segments = before ++ (List.replicate span.len 0 ++ after) ∧
      (span.len ≠ 0 → before.length = span.start)

/-- A span marks the run of zeros that a list of segments ends in. -/
private def MarksEnd (segments : List UInt16) (span : Span) : Prop :=
  ∃ before,
    segments = before ++ List.replicate span.len 0 ∧
      (span.len ≠ 0 → before.length = span.start)

private theorem MarksEnd.grow
    {segments : List UInt16}
    {span : Span}
    (marks : MarksEnd segments span) :
    MarksEnd (segments ++ [0]) (span.grow segments.length) := by
  obtain ⟨before, ends, start⟩ := marks
  unfold Span.grow
  split
  · exact ⟨segments, rfl, fun _ => rfl⟩
  · rename_i inRun
    exact
      ⟨before, by simp [ends, List.replicate_succ'], fun _ => start inRun⟩

/-- The longest run that the walk keeps is a run of zeros. -/
private theorem marks_longestZeros
    {walked left : List UInt16}
    {current longest : Span}
    (ending : MarksEnd walked current)
    (marks : Marks walked longest) :
    Marks (walked ++ left)
      (longestZeros left walked.length current longest) := by
  induction left generalizing walked current longest with
  | nil =>
      simpa [longestZeros] using marks
  | cons segment rest inductionHypothesis =>
      obtain ⟨before, after, walkedIs, startIs⟩ := marks
      have kept : Marks (walked ++ [segment]) longest :=
        ⟨before, after ++ [segment], by simp [walkedIs], startIs⟩
      have walkedOn :
          walked ++ segment :: rest = walked ++ [segment] ++ rest := by
        simp
      have lengthOn : walked.length + 1 = (walked ++ [segment]).length := by
        simp
      rw [walkedOn]
      by_cases zero : segment = 0
      · subst segment
        simp only [longestZeros, ↓reduceIte, lengthOn]
        apply inductionHypothesis ending.grow
        split
        · obtain ⟨leading, isRun, starts⟩ := ending.grow
          exact ⟨leading, [], by simpa using isRun, starts⟩
        · exact kept
      · simp only [longestZeros, zero, ↓reduceIte, lengthOn]
        exact inductionHypothesis
          ⟨walked ++ [segment], by simp, fun nonzero => (nonzero rfl).elim⟩
          kept

/-- The span that is left out of a printed address holds zeros only. -/
private theorem segments_eq_of_zeros
    {segments : List UInt16}
    {zeros : Span}
    (found : longestZeros segments 0 ⟨0, 0⟩ ⟨0, 0⟩ = zeros)
    (several : 1 < zeros.len) :
    segments =
        segments.take zeros.start ++
          (List.replicate zeros.len 0 ++
            segments.drop (zeros.start + zeros.len)) ∧
      zeros.start + zeros.len ≤ segments.length := by
  have marks :=
    @marks_longestZeros [] segments ⟨0, 0⟩ ⟨0, 0⟩
      ⟨[], rfl, fun nonzero => (nonzero rfl).elim⟩
      ⟨[], [], rfl, fun nonzero => (nonzero rfl).elim⟩
  simp only [List.nil_append, List.length_nil, found] at marks
  obtain ⟨before, after, shape, start⟩ := marks
  have starts : before.length = zeros.start := start (by omega)
  have leading : segments.take zeros.start = before := by
    rw [shape, ← starts, List.take_left']
    rfl
  have trailing :
      segments.drop (zeros.start + zeros.len) = after := by
    rw [shape, ← List.append_assoc]
    exact List.drop_left' (by simp [starts])
  have total := congrArg List.length shape
  simp only [List.length_append, List.length_replicate, starts] at total
  exact ⟨by rw [leading, trailing]; exact shape, by omega⟩

/-! ## Addresses -/

/-- A segment is rebuilt from its two bytes. -/
private theorem segment_bytes (segment : UInt16) :
    UInt16.ofNat
        ((segment / 256).toUInt8.toNat * 256 + segment.toUInt8.toNat) =
      segment := by
  apply UInt16.toNat.inj
  have bound := segment.toNat_lt
  simp only [UInt16.toNat_ofNat', UInt16.toNat_toUInt8, UInt16.toNat_div,
    UInt16.toNat_ofNat, Nat.reducePow, Nat.reduceMod]
  omega

/-- The groups of a mapped address are its prefix and the IPv4 address. -/
private theorem readGroups_mapped
    (ip : Ipv4Addr)
    {rest : List Char}
    (stops : StopsDigits 10 rest) :
    readGroups 0 7 (hex 0xffff ++ ':' :: (ip.text ++ rest)) =
      ⟨[0xffff,
          .ofNat (ip.a.toNat * 256 + ip.b.toNat),
          .ofNat (ip.c.toNat * 256 + ip.d.toNat)],
        true, rest⟩ := by
  have noIpv4 :
      readIpv4 (hex 0xffff ++ ':' :: (ip.text ++ rest)) = none :=
    readIpv4_of_noDot (hex_dotless _)
      ⟨':', _, rfl, by decide, by decide⟩
  have number :
      readNumber segmentFormat (hex 0xffff ++ ':' :: (ip.text ++ rest)) =
        some (0xffff, ':' :: (ip.text ++ rest)) := by
    apply readNumber_toDigits segmentFormat
      (by decide) (by decide) (by decide) _
      (stopsDigits_cons.mpr (by decide))
    rintro most ⟨⟩
    exact ⟨by decide, by decide⟩
  simp [readGroups, readSeparator, readChar, noIpv4, number,
    readIpv4_text ip stops]

/-- A printed IPv6 address is read back. -/
theorem readIpv6_text
    (ip : Ipv6Addr)
    {rest : List Char}
    (ends : (∃ tail, rest = ']' :: tail) ∨ ∃ tail, rest = '%' :: tail) :
    readIpv6 (ip.text ++ rest) = some (ip, rest) := by
  have endsGroups : EndsGroups rest :=
    ends.imp_right Or.inl
  have gap (later : List Char) : EndsGroups (':' :: ':' :: later) :=
    .inr (.inr ⟨later, rfl⟩)
  obtain ⟨segments, eight⟩ := ip
  cases mapped : Ipv6Addr.toIpv4Mapped ⟨segments, eight⟩ with
  | some ipv4 =>
      have stops : StopsDigits 10 rest := by
        rcases ends with ⟨tail, rfl⟩ | ⟨tail, rfl⟩
        · exact stopsDigits_cons.mpr (by decide)
        · exact stopsDigits_cons.mpr (by decide)
      have text :
          Ipv6Addr.text ⟨segments, eight⟩ ++ rest =
            ':' :: ':' :: (hex 0xffff ++ ':' :: (ipv4.text ++ rest)) := by
        simp only [Ipv6Addr.text, mapped]
        rfl
      have noHead :
          readGroups 0 8
              (':' :: ':' :: (hex 0xffff ++ ':' :: (ipv4.text ++ rest))) =
            ⟨[], false, _⟩ :=
        @readGroups_groupsText 0 8 [] (Nat.zero_le 8) _ (gap _)
      rw [text]
      simp only [readIpv6, noHead, List.length_nil, Nat.sub_zero,
        readGroups_mapped ipv4 stops]
      unfold Ipv6Addr.toIpv4Mapped at mapped
      split at mapped
      · rename_i ab cd shape
        cases mapped
        simp only at shape
        subst segments
        simp only [segment_bytes]
        rfl
      · cases mapped
  | none =>
      simp only [Ipv6Addr.text, mapped]
      split
      · rename_i several
        obtain ⟨shape, within⟩ := segments_eq_of_zeros rfl several
        generalize longestZeros segments 0 ⟨0, 0⟩ ⟨0, 0⟩ = zeros
          at several shape within ⊢
        have headLength :
            (segments.take zeros.start).length = zeros.start := by
          rw [List.length_take]
          omega
        have tailLength :
            (segments.drop (zeros.start + zeros.len)).length =
              8 - (zeros.start + zeros.len) := by
          rw [List.length_drop, eight]
        have head :
            readGroups 0 8
                (colonSeparated (segments.take zeros.start) ++
                  ':' :: ':' ::
                    (colonSeparated
                        (segments.drop (zeros.start + zeros.len)) ++
                      rest)) =
              ⟨segments.take zeros.start, false,
                ':' :: ':' ::
                  (colonSeparated
                      (segments.drop (zeros.start + zeros.len)) ++
                    rest)⟩ := by
          rw [colonSeparated_eq (segments.take zeros.start)]
          exact readGroups_groupsText (by omega) (gap _)
        have tail :
            readGroups 0 (7 - zeros.start)
                (colonSeparated
                    (segments.drop (zeros.start + zeros.len)) ++
                  rest) =
              ⟨segments.drop (zeros.start + zeros.len), false, rest⟩ := by
          rw [colonSeparated_eq]
          exact readGroups_groupsText (by omega) endsGroups
        have notFull : zeros.start ≠ 8 := by omega
        have middle :
            8 - zeros.start - (8 - (zeros.start + zeros.len)) =
              zeros.len := by
          omega
        simp [readIpv6, head, headLength, notFull, tail, tailLength,
          middle, ← shape]
      · have full :
            readGroups 0 8 (colonSeparated segments ++ rest) =
              ⟨segments, false, rest⟩ := by
          rw [colonSeparated_eq]
          exact readGroups_groupsText (by omega) endsGroups
        simp [readIpv6, full, eight]

/-- A printed port is read back from the end of a text. -/
private theorem readPort_text (port : UInt16) :
    readPort (':' :: decimal port.toNat) = some (port, []) := by
  have number :
      readNumber portFormat (decimal port.toNat) =
        some (port.toNat, []) := by
    rw [← List.append_nil (decimal port.toNat)]
    exact readNumber_toDigits portFormat (by decide) (by decide)
      port.toNat_lt (by rintro most ⟨⟩) (stopsDigits_nil 10)
  simp [readPort, readChar, number]

/-- A printed scope is read back. -/
private theorem readScopeId_text
    (scopeId : UInt32)
    (tail : List Char) :
    (readScopeId (scopeText scopeId ++ ']' :: tail)).getD
        (0, scopeText scopeId ++ ']' :: tail) =
      (scopeId, ']' :: tail) := by
  unfold scopeText
  split
  · rename_i zero
    subst scopeId
    simp [readScopeId, readChar]
  · have number :
        readNumber scopeFormat (decimal scopeId.toNat ++ ']' :: tail) =
          some (scopeId.toNat, ']' :: tail) :=
      readNumber_toDigits scopeFormat (by decide) (by decide)
        scopeId.toNat_lt (by rintro most ⟨⟩)
        (stopsDigits_cons.mpr (by decide))
    simp [readScopeId, readChar, number]

/-- A printed socket address is parsed back. -/
theorem SocketAddr.parse_toText (address : SocketAddr) :
    SocketAddr.parse address.toText = some address := by
  have read : readSocketAddr address.text = some (address, []) := by
    cases address with
    | v4 ip port =>
        have isRead :
            readIpv4 (ip.text ++ ':' :: decimal port.toNat) =
              some (ip, ':' :: decimal port.toNat) :=
          readIpv4_text ip (stopsDigits_cons.mpr (by decide))
        simp [readSocketAddr, readSocketAddrV4, SocketAddr.text, isRead,
          readPort_text]
    | v6 ip port scopeId =>
        have noIpv4 (tail : List Char) : readIpv4 ('[' :: tail) = none :=
          readIpv4_of_stops (stopsDigits_cons.mpr (by decide))
        have isRead :
            readIpv6
                (ip.text ++ (scopeText scopeId ++
                  ']' :: ':' :: decimal port.toNat)) =
              some (ip, scopeText scopeId ++
                ']' :: ':' :: decimal port.toNat) := by
          apply readIpv6_text
          unfold scopeText
          split
          · exact .inl ⟨_, rfl⟩
          · exact .inr ⟨_, rfl⟩
        simp [readSocketAddr, readSocketAddrV4, readSocketAddrV6,
          SocketAddr.text, noIpv4, readChar, isRead, readScopeId_text,
          readPort_text]
  simp [SocketAddr.parse, SocketAddr.toText, read]

example :
    (SocketAddr.parse "[1:0:0:2:0:0:0:3]:84").map SocketAddr.toText =
      some "[1:0:0:2::3]:84" := by
  rfl

end SocketAddress
