-- SUMMARY: Absolute URLs: scheme, host, path, query and fragment, with the reasons why a text is none.
import DocAtlas.Text.Percent
import DocAtlas.Url.Address
import DocAtlas.Url.Domain

/-! # URLs

A URL starts with a scheme. The special schemes have an authority, take `\` for
`/` and always have a path. Blanks and control characters around the text, and
tabs and line ends in it, do not count. -/

namespace DocAtlas

open Text

inductive Url.Host where
  | domain (name : String)
  | ipv4 (address : Nat)
  | ipv6 (groups : List Nat)

structure Url where
  /-- In lower case. -/
  scheme : String
  host : Option Url.Host
  /-- With percent-encoding where it is needed. -/
  path : String
  query : Option String
  fragment : Option String

/-- Why a text is no URL. -/
inductive Url.Error where
  | emptyHost
  | invalidDomain
  | invalidPort
  | invalidIpv4
  | invalidIpv6
  | invalidHostCharacter
  | noScheme
  deriving DecidableEq

namespace Url

def Error.message : Error → String
  | .emptyHost => "empty host"
  | .invalidDomain => "invalid international domain name"
  | .invalidPort => "invalid port number"
  | .invalidIpv4 => "invalid IPv4 address"
  | .invalidIpv6 => "invalid IPv6 address"
  | .invalidHostCharacter => "invalid domain character"
  | .noScheme => "relative URL without a base"

/-! ## Schemes -/

/-- How a scheme treats what follows it. -/
inductive Style where
  | special
  | file
  | plain
  deriving DecidableEq

def Style.isSpecial : Style → Bool
  | .special | .file => true
  | .plain => false

def styleOf (scheme : String) : Style :=
  if ["http", "https", "ws", "wss", "ftp"].contains scheme then .special
  else if scheme = "file" then .file
  else .plain

def isSchemeChar (c : Char) : Bool := c.isAlphanum || c = '+' || c = '-' || c = '.'

/-- The scheme in lower case and the text after its colon. -/
def splitScheme (cs : List Char) : Option (String × List Char) :=
  match cs, splitOnce ':' cs with
  | c :: _, some (scheme, rest) =>
    if c.isAlpha && scheme.all isSchemeChar then some (String.ofList (lower scheme), rest) else none
  | _, _ => none

def isSlash (style : Style) (c : Char) : Bool := c = '/' || (style.isSpecial && c = '\\')

/-- The characters that end an authority. -/
def endsAuthority (style : Style) (c : Char) : Bool := isSlash style c || c = '?' || c = '#'

/-! ## Hosts -/

def percentByte (b : UInt8) : List Char :=
  let digit (n : Nat) : Char := if n < 10 then Char.ofNat (0x30 + n) else Char.ofNat (0x37 + n)
  ['%', digit (b.toNat / 16), digit (b.toNat % 16)]

/-- Writes control characters, characters beyond ASCII and those in `extra` as their bytes. -/
def encode (extra : List Char) (cs : List Char) : List Char :=
  cs.flatMap fun c =>
    if c.toNat < 0x20 || 0x7F ≤ c.toNat || extra.contains c then
      (String.utf8EncodeChar c).flatMap percentByte
    else [c]

/-- An address in brackets. -/
def bracketed? (cs : List Char) : Option (Except Error Host) :=
  match cs with
  | '[' :: rest =>
    match dropTail? [']'] rest with
    | some inner =>
      match Address.ipv6? inner with
      | some groups => some (.ok (.ipv6 groups))
      | none => some (.error .invalidIpv6)
    | none => some (.error .invalidIpv6)
  | _ => none

/-- The host of a special scheme: a name to look up, or an address. -/
def specialHost (cs : List Char) : Except Error Host :=
  match bracketed? cs with
  | some host => host
  | none =>
    match Domain.normalize (Utf8.lossy (Percent.bytes cs)) with
    | none => .error .invalidDomain
    | some [] => .error .emptyHost
    | some name =>
      if Address.endsInNumber name then
        match Address.ipv4? name with
        | some address => .ok (.ipv4 address)
        | none => .error .invalidIpv4
      else .ok (.domain (String.ofList name))

def isForbiddenInHost (c : Char) : Bool :=
  c.toNat = 0 || "\t\n\r #/:<>?@[\\]^|".toList.contains c

/-- The host of any other scheme, which is not looked up. -/
def plainHost (cs : List Char) : Except Error Host :=
  match bracketed? cs with
  | some host => host
  | none =>
    if cs.any isForbiddenInHost then .error .invalidHostCharacter
    else .ok (.domain (String.ofList (encode [] cs)))

/-- The text of a host up to its port, and the rest; colons in brackets belong to the host. -/
def cutHost (style : Style) : (inBrackets : Bool) → List Char → List Char × List Char
  | _, [] => ([], [])
  | inBrackets, c :: cs =>
    if (c = ':' && !inBrackets) || endsAuthority style c then ([], c :: cs)
    else
      let inBrackets := if c = '[' then true else if c = ']' then false else inBrackets
      let (host, rest) := cutHost style inBrackets cs
      (c :: host, rest)

/-- Reads a port, of which only the range matters, and gives the text after it. -/
def skipPort (cs : List Char) : Except Error (List Char) :=
  match cs with
  | ':' :: rest =>
    let digits := rest.takeWhile Char.isDigit
    let after := rest.dropWhile Char.isDigit
    if 65535 < numeral 10 digits then .error .invalidPort
    else match after with
      | [] => .ok []
      | c :: _ => if c = '/' || c = '\\' || c = '?' || c = '#' then .ok after else .error .invalidPort
  | _ => .ok cs

/-- Cuts off user name and password. The flag says whether there were any. -/
def cutUser (style : Style) (cs : List Char) : Except Error (Bool × List Char) :=
  let authority := cs.takeWhile (!endsAuthority style ·)
  let rest := cs.dropWhile (!endsAuthority style ·)
  if '@' ∈ authority then
    let host := (authority.reverse.takeWhile (· ≠ '@')).reverse
    let user := ((authority.reverse.dropWhile (· ≠ '@')).drop 1).reverse
    if user = [] then
      if host = [] ∧ rest ≠ [] then .error .emptyHost else .ok (false, host ++ rest)
    else .ok (user ≠ [':'], host ++ rest)
  else .ok (false, cs)

/-- The host after `//` and the text from the path on. -/
def authority (style : Style) (cs : List Char) : Except Error (Option Host × List Char) := do
  let (hasUser, cs) ← cutUser style cs
  let (text, rest) := cutHost style false cs
  if text = [] ∧ (style.isSpecial ∨ rest.head? = some ':') then throw .emptyHost
  let host ← if style.isSpecial then specialHost text else plainHost text
  let rest ← skipPort rest
  if text = [] then
    if hasUser then throw .emptyHost else return (none, rest)
  else return (some host, rest)

/-- A letter with a colon or a bar names a drive, not a host. -/
def isDrive (cs : List Char) : Bool :=
  match cs with
  | [c, d] => c.isAlpha && (d = ':' || d = '|')
  | _ => false

/-- The host of a file, where `cs` follows the scheme, and the text from the path on. -/
def fileHost (cs : List Char) : Except Error (Option Host × List Char) :=
  match cs with
  | a :: b :: rest =>
    if isSlash .file a && isSlash .file b then
      let text := rest.takeWhile (!endsAuthority .file ·)
      let after := rest.dropWhile (!endsAuthority .file ·)
      if isDrive text then .ok (none, rest)
      else if text = [] then .ok (none, after)
      else (specialHost text).map fun host => (some host, after)
    else .ok (none, cs)
  | _ => .ok (none, cs)

/-! ## Paths -/

/-- The characters that a path does not hold as they are. -/
def pathExtra : List Char := " \"<>`#?\x7b\x7d".toList

def isDot (segment : List Char) : Bool :=
  [".", "%2e"].any (·.toList = lower segment)

def isDoubleDot (segment : List Char) : Bool :=
  ["..", "%2e.", ".%2e", "%2e%2e"].any (·.toList = lower segment)

/-- The pieces between slashes. -/
def splitSlashes (style : Style) : List Char → List (List Char)
  | [] => [[]]
  | c :: cs =>
    if isSlash style c then [] :: splitSlashes style cs
    else match splitSlashes style cs with
      | [] => [[c]]
      | piece :: pieces => (c :: piece) :: pieces

/-- Applies the dot segments. The segments so far have the last one first; a dot segment at the end
leaves an empty one. -/
def resolve : (done : List (List Char)) → List (List Char) → List (List Char)
  | done, [] => done.reverse
  | done, [last] =>
    if isDoubleDot last then ([] :: done.tail).reverse
    else if isDot last then ([] :: done).reverse
    else (last :: done).reverse
  | done, segment :: rest =>
    if isDoubleDot segment then resolve done.tail rest
    else if isDot segment then resolve done rest
    else resolve (segment :: done) rest

/-- The text of a path, which `cs` gives from its first slash on. -/
def pathText (style : Style) (cs : List Char) : List Char :=
  let body := match cs with
    | c :: rest => if isSlash style c then rest else cs
    | [] => []
  let segments := (splitSlashes style body).map (encode pathExtra)
  '/' :: joinWith '/' (resolve [] segments)

/-- The text up to the query or the fragment, the query and the fragment. -/
def cutTail (cs : List Char) : List Char × Option String × Option String :=
  let front := cs.takeWhile (· ≠ '#')
  let fragment := match cs.dropWhile (· ≠ '#') with
    | [] => none
    | _ :: rest => some (String.ofList rest)
  let query := match front.dropWhile (· ≠ '?') with
    | [] => none
    | _ :: rest => some (String.ofList rest)
  (front.takeWhile (· ≠ '?'), query, fragment)

/-! ## URLs -/

/-- The text without blanks around it and without tabs and line ends. -/
def strip (cs : List Char) : List Char :=
  let isEdge (c : Char) : Bool := c.toNat ≤ 0x20
  let inner := ((cs.dropWhile isEdge).reverse.dropWhile isEdge).reverse
  inner.filter fun c => c ≠ '\t' && c ≠ '\n' && c ≠ '\r'

/-- Reads an absolute URL. -/
def parse (s : String) : Except Error Url := do
  match splitScheme (strip s.toList) with
  | none => throw .noScheme
  | some (scheme, rest) =>
    let style := styleOf scheme
    let (host, rest) ← match style with
      | .special => authority style (rest.dropWhile (isSlash style))
      | .file => fileHost rest
      | .plain =>
        match rest with
        | '/' :: '/' :: after => authority style after
        | _ => pure (none, rest)
    let (path, query, fragment) := cutTail rest
    let path :=
      if style.isSpecial then pathText style path
      else if path.head? = some '/' then pathText style path
      else encode [] path
    return { scheme, host, path := String.ofList path, query, fragment }

end Url

end DocAtlas
