import SchemaDesk.Text.Quoted
import SchemaDesk.Transport.Literal

/-!
# Addresses

An address may stand in angle brackets and have a mark in front. It must start
with a scheme, a host with square brackets must name a numeric address, and the
host must be one that cannot be mistaken for another. An empty fragment is dropped.
-/

namespace SchemaDesk

/-- Why a text is no address. -/
inductive UrlError where
  /-- There is no scheme. -/
  | noScheme (address : Text)
  /-- The host has an opening bracket or a closing one, but not both, or more than
  brackets around its name. -/
  | misplacedBrackets
  /-- The name in a host with brackets is no numeric address. -/
  | noNumericAddress (t : Text)
  /-- The name in a host with brackets is a numeric address of the short form. -/
  | shortInBrackets
  /-- The name in a host with brackets is said to be of a later version, and is not. -/
  | malformedLater
  /-- A character of the host looks like one that separates parts of an address. -/
  | misleadingHost (host : Text)
  deriving DecidableEq, Repr

namespace UrlError

/-- The wording of an address error. -/
def message : UrlError → Text
  | .noScheme address => "unknown url type: ".toList ++ Text.quoted address
  | .misplacedBrackets => "Invalid IPv6 URL".toList
  | .noNumericAddress t =>
    Text.quoted t ++ " does not appear to be an IPv4 or IPv6 address".toList
  | .shortInBrackets => "An IPv4 address cannot be in brackets".toList
  | .malformedLater => "IPvFuture address is invalid".toList
  | .misleadingHost host =>
    "netloc '".toList ++ host ++
      "' contains invalid characters under NFKC normalization".toList

end UrlError

namespace Url

/-- The text without angle brackets around it and the mark in front of it. -/
def unwrap (t : Text) : Text :=
  let t := Text.strip t
  let t :=
    if t.head? = some '<' ∧ t.getLast? = some '>' then Text.strip ((t.drop 1).dropLast) else t
  if "URL:".toList.isPrefixOf t then Text.strip (t.drop 4) else t

/-- The text before the last number sign, and what follows the sign. -/
def splitFragment (t : Text) : Text × Option Text :=
  match Text.lastIndexOf? ['#'] t with
  | some offset => (t.take offset, some (t.drop (offset + 1)))
  | none => (t, none)

/-- The address as it is sent. -/
def full (t : Text) : Text :=
  match splitFragment (unwrap t) with
  | (address, some fragment) => if fragment.isEmpty then address else address ++ '#' :: fragment
  | (address, none) => address

/-- Does a text start with a scheme: characters other than slashes, and a colon? -/
def hasScheme (t : Text) : Bool :=
  let scheme := t.takeWhile fun c => c != '/' && c != ':'
  !scheme.isEmpty && (t.drop scheme.length).head? = some ':'

/-- A character of which schemes of hierarchical addresses are made. -/
def isSchemeChar (c : Char) : Bool :=
  ('a' ≤ c && c ≤ 'z') || ('A' ≤ c && c ≤ 'Z') || ('0' ≤ c && c ≤ '9') ||
    c == '+' || c == '-' || c == '.'

/-- The host of an address, with all that is written around it: what stands between
two slashes and the end of the host part. -/
def host (t : Text) : Text :=
  let t := (t.dropWhile fun c => c.toNat ≤ 32).filter fun c => c != '\t' && c != '\r' && c != '\n'
  let scheme := t.takeWhile (· != ':')
  let rest :=
    if scheme.length < t.length && scheme.head?.any Char.isAlpha && scheme.all isSchemeChar then
      t.drop (scheme.length + 1)
    else t
  if ['/', '/'].isPrefixOf rest then
    (rest.drop 2).takeWhile fun c => c != '/' && c != '?' && c != '#'
  else []

/-- The host without what stands before its last at sign. -/
def withoutUser (host : Text) : Text :=
  match Text.lastIndexOf? ['@'] host with
  | some offset => host.drop (offset + 1)
  | none => host

/-- The name in a host, without the number that may follow it. A name in brackets
starts the host, and nothing but such a number follows it. -/
def hostName (host : Text) : Except UrlError Text :=
  let host := withoutUser host
  if host.contains '[' then
    let inside := (host.dropWhile (· != '[')).drop 1
    let after := (inside.dropWhile (· != ']')).drop 1
    if host.head? != some '[' || after.head?.any (· != ':') then .error .misplacedBrackets
    else .ok (inside.takeWhile (· != ']'))
  else .ok (host.takeWhile (· != ':'))

/-- What is wrong with a name that has to be a numeric address. -/
def nameFault? (t : Text) : Option UrlError :=
  if t.head? = some 'v' then if Literal.isLater t then none else some .malformedLater
  else if Literal.isShort t then some .shortInBrackets
  else if Literal.isLongInZone t then none
  else some (.noNumericAddress t)

/-- What is wrong with the brackets of a host. -/
def hostFault? (host : Text) : Option UrlError :=
  if host.contains '[' != host.contains ']' then some .misplacedBrackets
  else if host.contains '[' then
    match hostName host with
    | .error e => some e
    | .ok name => nameFault? name
  else none

/-- Characters that a compatible form turns into one that separates parts of an
address. -/
def misleading : List Nat :=
  [0x2047, 0x2048, 0x2049, 0x2100, 0x2101, 0x2105, 0x2106, 0x2A74, 0xFE13, 0xFE16, 0xFE55, 0xFE56,
    0xFE5F, 0xFE6B, 0xFF03, 0xFF0F, 0xFF1A, 0xFF1F, 0xFF20]

/-- The address that a text stands for, as it is sent. -/
def parse (t : Text) : Except UrlError Text :=
  let address := full t
  if !hasScheme (splitFragment (unwrap t)).1 then .error (.noScheme address)
  else
    let host := host address
    match hostFault? host with
    | some e => .error e
    | none =>
      if host.any fun c => misleading.contains c.toNat then .error (.misleadingHost host)
      else .ok address

end Url

end SchemaDesk
