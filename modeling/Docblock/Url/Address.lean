/-
# Docblock.Url.Address — addresses that links lead to.

An address is written so that it may stand in a link: names of hosts in ASCII, and every character
that has no place in an address by the hexadecimal numbers of its octets.  For show, the same steps
are undone.  Addresses that could run programs or read local files are not used at all.
-/
import Docblock.Number.Numeral
import Docblock.Text.Case
import Docblock.Text.Utf8
import Docblock.Url.Punycode

namespace Docblock

/-- The parts of an address; written one after the other they give the address. -/
structure Address where
  /-- The protocol with its colon, or nothing. -/
  protocol : Text := []
  slashes : Bool := false
  /-- What stands before the at sign in front of a host, or nothing. -/
  user : Text := []
  host : Text := []
  /-- The number of the service asked for at the host, with its colon, or nothing. -/
  service : Text := []
  /-- Everything behind. -/
  path : Text := []
  deriving DecidableEq, Repr

namespace Address

/-! ## Taking apart -/

/-- Whether a character may stand in a protocol. -/
def isProtocol (c : Char) : Bool := c.isAlphanum || c == '.' || c == '+' || c == '-'

/-- The protocol in front of an address, and the rest. -/
def splitProtocol (s : Text) : Text × Text :=
  let name := s.takeWhile isProtocol
  match s.dropWhile isProtocol with
  | ':' :: r => if name.isEmpty then ([], s) else (name ++ [':'], r)
  | _ => ([], s)

/-- Protocols whose host must be behind two slashes. -/
def slashed : List String := ["http:", "https:", "ftp:", "gopher:", "file:"]

/-- Whether a character ends everything that can belong to a host. -/
def endsAuthority (c : Char) : Bool := c == '/' || c == '?' || c == '#'

/-- Whether a character cannot stand in a host. -/
def endsHost (c : Char) : Bool :=
  "%/?;#\x27\x7b\x7d|\\^\x60<>\x22 \r\n\t".toList.contains c

/-- Whether a character may stand in a part of a host. -/
def isHostPart (c : Char) : Bool :=
  c.isAlphanum || c == '+' || c == '_' || c == '-' || 0x80 ≤ c.toNat

/-- The parts of a host that are well formed, and what must be given back to the path. -/
def validHost : List Text → Text × Option Text
  | [] => ([], none)
  | p :: ps =>
    if p.all isHostPart && p.length ≤ 63 then
      match ps with
      | [] => (p, none)
      | _ => (p ++ '.' :: (validHost ps).1, (validHost ps).2)
    else
      let good := (p.takeWhile fun c => isHostPart c && c.toNat < 0x80).take 63
      (good, some (Text.join ['.'] (p.drop good.length :: ps)))

/-- The number of a service at the end of a host, with its colon, when a colon and nothing but
digits end it. -/
def splitService (s : Text) : Text × Text :=
  let digits := (s.reverse.takeWhile Char.isDigit).reverse
  let before := s.take (s.length - digits.length)
  match before.reverse with
  | ':' :: r => (r.reverse, ':' :: digits)
  | _ => (s, [])

/-- Take an address apart.  There is a host behind two slashes, and behind protocols that do without
them. -/
def ofText (s : Text) : Address :=
  let (protocol, r) := splitProtocol (Text.trim s)
  let hostless := protocol = "javascript:".toList
  let (slashes, r) :=
    match r with
    | '/' :: '/' :: r' => if hostless then (true, r) else (true, r')
    | _ => (false, r)
  if hostless || !(slashes || (!protocol.isEmpty && !slashed.contains (String.ofList protocol)))
  then
    { protocol, slashes := slashes && !hostless, path := r }
  else
    let authority := r.takeWhile (!endsAuthority ·)
    let afterAt := (authority.reverse.takeWhile (· != '@')).reverse
    let hasUser := afterAt.length < authority.length
    let user := if hasUser then authority.take (authority.length - afterAt.length - 1) else []
    let r := if hasUser then r.drop (authority.length - afterAt.length) else r
    let whole := r.takeWhile (!endsHost ·)
    let whole := if whole.getLast? == some ':' then whole.dropLast else whole
    let rest := r.drop whole.length
    let (host, service) := splitService whole
    if host.head? == some '[' && host.getLast? == some ']' then
      { protocol, slashes, user, host, service, path := rest }
    else
      let (host, back) := validHost (host.splitOn '.')
      { protocol, slashes, user, host := if 255 < host.length then [] else host, service,
        path := back.getD [] ++ rest }

/-- An address put together again. -/
def toText (a : Address) : Text :=
  a.protocol ++ (if a.slashes then ['/', '/'] else [])
    ++ (if a.user.isEmpty then [] else a.user ++ ['@'])
    ++ a.host ++ (if a.service.length ≤ 1 then [] else a.service) ++ a.path

/-- Apply a function to each label of the host, when the protocol is one whose hosts may be
recoded. -/
def mapHost (f : Text → Text) (a : Address) : Address :=
  if a.host.isEmpty
      || !(a.protocol.isEmpty
        || ["http:", "https:", "mailto:"].contains (String.ofList a.protocol)) then a
  else
    let isDot (c : Char) : Bool := c == '.' || c == '\u3002' || c == '\uff0e' || c == '\uff61'
    { a with host := Text.join ['.'] ((a.host.splitOnP isDot).map f) }

/-! ## Escapes -/

/-- Whether an address may contain a character as it is. -/
def isPlain (c : Char) : Bool := c.isAlphanum || ";/?:@&=+$,-_.!~*\x27()#".toList.contains c

/-- A hexadecimal digit in upper case. -/
def upperHex (n : Nat) : Char := "0123456789ABCDEF".toList.getD n '0'

/-- The escape of an octet. -/
def escapeOctet (b : UInt8) : Text := ['%', upperHex (b.toNat / 16), upperHex (b.toNat % 16)]

/-- Escape what an address cannot contain.  Escapes that are there already stay. -/
def escape : Text → Text
  | '%' :: a :: b :: r =>
    if (Numeral.hexValue? a).isSome && (Numeral.hexValue? b).isSome then '%' :: a :: b :: escape r
    else '%' :: '2' :: '5' :: escape (a :: b :: r)
  | c :: r => (if isPlain c then [c] else (Utf8.encodeChar c).flatMap escapeOctet) ++ escape r
  | [] => []

/-- Undo the escapes in a run of octets.  What is not a whole character becomes the replacement
character, and so do characters in an overlong form; octets of characters that separate the parts of
an address stay escaped. -/
def readOctets : Nat → Octets → Text
  | 0, _ => []
  | _, [] => []
  | fuel + 1, b :: bs =>
    let follows (k : Nat) : Bool :=
      (bs.take k).length == k && (bs.take k).all fun x => x &&& 0xC0 == 0x80
    let several (k : Nat) : Text :=
      match Utf8.decode (b :: bs.take k) with
      | .ok s => s
      | .error _ => Text.fill (k + 1) '\ufffd'
    if b < 0x80 then
      let c := Char.ofNat b.toNat
      (if ";/?:@&=+$,#%".toList.contains c then escapeOctet b else [c]) ++ readOctets fuel bs
    else if b &&& 0xE0 == 0xC0 && follows 1 then several 1 ++ readOctets fuel (bs.drop 1)
    else if b &&& 0xF0 == 0xE0 && follows 2 then several 2 ++ readOctets fuel (bs.drop 2)
    else if b &&& 0xF8 == 0xF0 && follows 3 then several 3 ++ readOctets fuel (bs.drop 3)
    else '\ufffd' :: readOctets fuel bs

/-- Undo the escapes in a text; `run` holds the octets of the run of escapes just read, the last
one first. -/
def unescapeFrom (run : Octets) : Text → Text
  | '%' :: a :: b :: r =>
    match Numeral.hexValue? a, Numeral.hexValue? b with
    | some x, some y => unescapeFrom ((x * 16 + y).toUInt8 :: run) r
    | _, _ => readOctets run.length run.reverse ++ '%' :: unescapeFrom [] (a :: b :: r)
  | c :: r => readOctets run.length run.reverse ++ c :: unescapeFrom [] r
  | [] => readOctets run.length run.reverse

/-! ## Links -/

/-- The label of a host in ASCII. -/
def asciiLabel (s : Text) : Text :=
  if s.any (0x7F ≤ ·.toNat) then "xn--".toList ++ Punycode.encode s else s

/-- The label of a host for show. -/
def shownLabel (s : Text) : Text :=
  match Text.after? "xn--".toList s with
  | some r => (Punycode.decode? (Text.lower r)).getD s
  | none => s

/-- An address as it stands in a link. -/
def normalize (s : Text) : Text := escape ((ofText s).mapHost asciiLabel).toText

/-- An address as it is shown. -/
def display (s : Text) : Text := unescapeFrom [] ((ofText s).mapHost shownLabel).toText

/-- Whether an address is safe to be followed: pictures may be embedded, but no other data, and
neither programs nor local files are reached. -/
def isSafe (s : Text) : Bool :=
  let s := Text.lower (Text.trim s)
  let begins (heads : List String) : Bool := heads.any fun h => Text.beginsWith h.toList s
  !begins ["vbscript:", "javascript:", "file:", "data:"]
    || begins ["data:image/gif;", "data:image/png;", "data:image/jpeg;", "data:image/webp;"]

end Address

end Docblock
