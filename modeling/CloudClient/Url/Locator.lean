import CloudClient.Text.Case
import CloudClient.Url.Literal

/-!
# Locators

Two questions are asked of an endpoint: which host it is on, and which
versions its path names. Both are answered from the parts of the locator, so
that neither user information, port, query nor fragment can pass for one of
them.

`Locator.read` takes a text apart in the order of the syntax: control
characters in front go, tabulators and line ends go wherever they are; a
scheme is a letter and then letters, digits and `+-.` up to a colon; an
authority follows two slashes and ends at the next slash, question mark or
hash; fragment and query are cut off the rest; and what is left is the path,
from whose last segment the parameters after a semicolon are dropped where
the scheme has such.

Two kinds of authority are refused: one with brackets whose host is no address
literal or has more beside it than a port, and one with a character that turns
into a delimiter when compatible characters are identified, since it would
then name another host than it shows. The host is the one after the user
information, wherever the brackets are.

Releases of the runtime differ in details of this. All of them are taken from
one release here, 3.11.2 with the security fixes made to it since. What stands
beside brackets is looked at (`bracketFault?`), which is one of those fixes and
missing in some later releases; `rtsps` is not among the schemes with parameters
(`parameterSchemes`), which it is in later ones; and the characters that are
shown as themselves are those of Unicode 14.0 (`Text.printableRanges`).
-/

namespace CloudClient

/-- The parts of a locator. -/
structure Locator where
  /-- The scheme in lower case; empty if there is none. -/
  scheme : String
  /-- User information, host and port, as they stand. -/
  authority : String
  /-- The path without parameters. -/
  path : String
  /-- What follows the question mark. -/
  query : String
  /-- What follows the hash. -/
  fragment : String
  deriving DecidableEq, Repr

/-- Why a text is not read as a locator. -/
inductive LocatorFault where
  /-- One of the two brackets is missing. -/
  | unbalancedBrackets
  /-- Something other than a port stands beside the brackets. -/
  | besideBrackets
  /-- The host is no address literal. -/
  | badLiteral
  /-- A character of the authority is compatible with a delimiter. -/
  | confusable
  deriving DecidableEq, Repr

namespace Locator

/-- Whether a character may be part of a scheme. -/
def isSchemeChar (c : Char) : Bool :=
  c.isAlphanum || c == '+' || c == '-' || c == '.'

/-- Whether a character ends an authority. -/
def endsAuthority (c : Char) : Bool := c == '/' || c == '?' || c == '#'

/-- The text with the characters gone that a locator never has. -/
def cleaned (cs : List Char) : List Char :=
  (cs.dropWhile fun c => decide (c.toNat ≤ 0x20)).filter fun c =>
    c != '\t' && c != '\r' && c != '\n'

/-- The scheme in lower case, if there is one, and what follows its colon. -/
def splitScheme (cs : List Char) : List Char × List Char :=
  match Text.breakAt ':' cs with
  | (c :: scheme, some rest) =>
    if c.isAlpha && scheme.all isSchemeChar then ((c :: scheme).map Text.lowerAscii, rest)
    else ([], cs)
  | _ => ([], cs)

/-- The authority, if two slashes announce one, and what follows it. -/
def splitAuthority : List Char → List Char × List Char
  | '/' :: '/' :: cs =>
    (cs.takeWhile fun c => !endsAuthority c, cs.dropWhile fun c => !endsAuthority c)
  | cs => ([], cs)

/-- The characters beyond ASCII that are compatible with a text in which one
of the delimiters occurs. -/
def confusables : List Nat :=
  [0x2047, 0x2048, 0x2049, 0x2100, 0x2101, 0x2105, 0x2106, 0x2a74, 0xfe13, 0xfe16, 0xfe55,
   0xfe56, 0xfe5f, 0xfe6b, 0xff03, 0xff0f, 0xff1a, 0xff1f, 0xff20]

/-- The host and port part of an authority. -/
def hostPort (authority : List Char) : List Char := Text.afterLast '@' authority

/-- The host and port part taken apart. -/
structure Site where
  /-- What stands before the opening bracket. -/
  before : List Char
  /-- The host: what stands in brackets, or what stands before the port. -/
  host : List Char
  /-- What stands after the closing bracket. -/
  after : List Char

/-- The host and port part of an authority, taken apart. -/
def siteOf (authority : List Char) : Site :=
  match Text.breakAt '[' (hostPort authority) with
  | (before, some rest) =>
    let closed := Text.breakAt ']' rest
    ⟨before, closed.1, closed.2.getD []⟩
  | (whole, none) => ⟨[], (Text.breakAt ':' whole).1, []⟩

/-- Whether nothing but a port stands beside the brackets. -/
def Site.standsAlone (site : Site) : Bool :=
  site.before.isEmpty && (site.after.isEmpty || site.after.head? == some ':')

/-- What is wrong with the site of an authority that has brackets. -/
def siteFault? (site : Site) : Option LocatorFault :=
  if !site.standsAlone then some .besideBrackets
  else if Url.isLiteral site.host then none
  else some .badLiteral

/-- What is wrong with the brackets of an authority, as of release 3.11.2 with
its security fixes. Releases before the fix let `http://x[::1]` pass. -/
def bracketFault? (authority : List Char) : Option LocatorFault :=
  match authority.contains '[', authority.contains ']' with
  | false, false => none
  | true, true => siteFault? (siteOf authority)
  | _, _ => some .unbalancedBrackets

/-- What is wrong with an authority. -/
def authorityFault? (authority : List Char) : Option LocatorFault :=
  match bracketFault? authority with
  | some fault => some fault
  | none => if authority.any fun c => confusables.contains c.toNat then some .confusable else none

/-- The schemes whose last path segment may carry parameters, as of release
3.11.2. Later releases have `rtsps` as well, so to them `rtsps://h/v2.0;p` names
a version that is none here. -/
def parameterSchemes : List String :=
  ["", "ftp", "hdl", "prospero", "http", "imap", "https", "shttp", "rtsp", "rtspu", "sip",
   "sips", "mms", "sftp", "tel"]

/-- The path without what follows a semicolon in its last segment. -/
def withoutParameters (path : List Char) : List Char :=
  let last := Text.afterLast '/' path
  path.take (path.length - last.length) ++ last.takeWhile (· ≠ ';')

/-- The locator that a list of characters spells. -/
def readChars (cs : List Char) : Except LocatorFault Locator :=
  let schemed := splitScheme (cleaned cs)
  let placed := splitAuthority schemed.2
  match authorityFault? placed.1 with
  | some fault => .error fault
  | none =>
    let fragmented := Text.breakAt '#' placed.2
    let queried := Text.breakAt '?' fragmented.1
    let scheme := String.ofList schemed.1
    let path := if parameterSchemes.contains scheme then withoutParameters queried.1 else queried.1
    .ok ⟨scheme, String.ofList placed.1, String.ofList path, String.ofList (queried.2.getD []),
      String.ofList (fragmented.2.getD [])⟩

/-- The locator that a text spells. -/
def read (s : String) : Except LocatorFault Locator := readChars s.toList

/-- The host in lower case, except for the zone of an address literal. -/
def hostChars (authority : List Char) : List Char :=
  let host := (siteOf authority).host
  Text.lowerList (host.takeWhile (· ≠ '%')) ++ host.dropWhile (· ≠ '%')

/-- The host of a locator; empty if it names none. -/
def host (l : Locator) : String := String.ofList (hostChars l.authority.toList)

end Locator

end CloudClient
