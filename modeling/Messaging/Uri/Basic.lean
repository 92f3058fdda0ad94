import Messaging.Text.Class
import Messaging.Uri.Domain
import Messaging.Uri.Ipv6

/-!
# URIs

The parts of a URI that name a broker: its scheme, its host and its query.  White space and
control characters around the text are dropped, and so are tabs and line ends inside it.  Some
schemes are special: they take backslashes for slashes and need a host.
-/

namespace Messaging.Uri

open Text

inductive Style where
  | opaqueHost
  | special
  | file
  deriving DecidableEq, Repr

def Style.ofScheme (scheme : List Char) : Style :=
  match String.ofList scheme with
  | "http" | "https" | "ws" | "wss" | "ftp" => special
  | "file" => file
  | _ => opaqueHost

def Style.isSpecial : Style → Bool
  | opaqueHost => false
  | special | file => true

/-! ## Scheme -/

def isSchemeChar (c : Char) : Bool := c.isAlphanum || c == '+' || c == '-' || c == '.'

def readScheme? (cs : List Char) : Option (List Char × List Char) :=
  let scheme := cs.takeWhile isSchemeChar
  match scheme, cs.dropWhile isSchemeChar with
  | c :: _, ':' :: rest => if c.isAlpha then some (scheme.map Char.toLower, rest) else none
  | _, _ => none

/-! ## Authority -/

def endsAuthority (style : Style) (c : Char) : Bool :=
  c == '/' || c == '?' || c == '#' || (style.isSpecial && c == '\\')

/-- What stands before the last at sign of an authority, and the text after that sign. -/
def readUserInfo? (style : Style) (cs : List Char) : Option (List Char × List Char) :=
  let authority := cs.takeWhile (!endsAuthority style ·)
  let host := (authority.reverse.takeWhile (· != '@')).reverse
  if host.length = authority.length then none
  else
    some (authority.take (authority.length - host.length - 1),
      cs.drop (authority.length - host.length))

def spanHost (style : Style) (bracketed : Bool) : List Char → List Char × List Char
  | [] => ([], [])
  | c :: rest =>
    if endsAuthority style c || (c == ':' && !bracketed) then ([], c :: rest)
    else
      let (host, rest) := spanHost style (c == '[' || (bracketed && c != ']')) rest
      (c :: host, rest)

def isForbidden (c : Char) : Bool :=
  c == Char.ofNat 0 || " #/:<>?@[\\]^|".toList.contains c

def hexPair (b : UInt8) : List Char :=
  let digit (n : Nat) := (Nat.digitChar n).toUpper
  [digit (b.toNat / 16), digit (b.toNat % 16)]

def escapeHostChar (c : Char) : List Char :=
  if c.toNat < 0x20 ∨ 0x7F ≤ c.toNat then
    (String.utf8EncodeChar c).flatMap fun b => '%' :: hexPair b
  else [c]

def readHost (style : Style) (cs : List Char) : Except Error (List Char) :=
  match cs with
  | '[' :: rest =>
    match rest.getLast? with
    | some ']' =>
      match Ipv6.read? rest.dropLast with
      | some pieces => .ok ('[' :: Ipv6.write pieces ++ [']'])
      | none => .error .badIpv6
    | _ => .error .badIpv6
  | cs =>
    if style.isSpecial then Domain.read cs
    else if cs.any isForbidden then .error .badHostCharacter
    else .ok (cs.flatMap escapeHostChar)

def readPort (value : Nat) : List Char → Except Error (List Char)
  | [] => .ok []
  | c :: rest =>
    if c.isDigit then
      let value := value * 10 + (c.toNat - '0'.toNat)
      if 65535 < value then .error .badPort else readPort value rest
    else if c == '/' || c == '\\' || c == '?' || c == '#' then .ok (c :: rest)
    else .error .badPort

def readAuthority (style : Style) (cs : List Char) :
    Except Error (List Char × List Char) := do
  let (user, cs) := (readUserInfo? style cs).map (fun p => (some p.1, p.2)) |>.getD (none, cs)
  if user == some [] && (cs.head?.map (endsAuthority style)).getD false then throw .emptyHost
  let (host, rest) := spanHost style false cs
  if host.isEmpty && (style.isSpecial || rest.head? == some ':') then throw .emptyHost
  let host ← readHost style host
  let rest ←
    match rest with
    | ':' :: rest => readPort 0 rest
    | rest => pure rest
  let named := user.isSome && user != some [] && user != some [':']
  if host.isEmpty && named then throw .emptyHost
  return (host, rest)

/-- A letter with a colon or a bar after it is no host but begins a path. -/
def isDrive : List Char → Bool
  | [letter, mark] => letter.isAlpha && (mark == ':' || mark == '|')
  | _ => false

def readFileHost (cs : List Char) : Except Error (List Char × List Char) := do
  let host := cs.takeWhile (!endsAuthority .file ·)
  if host.isEmpty || isDrive host then return ([], cs)
  return (← readHost .file host, cs.dropWhile (!endsAuthority .file ·))

end Messaging.Uri

namespace Messaging

structure Uri where
  scheme : String
  host : String
  query : Option (List Char)
  deriving DecidableEq, Repr

namespace Uri

/-! ## Whole URIs -/

def readQuery? (cs : List Char) : Option (List Char) :=
  match cs.dropWhile fun c => c != '?' && c != '#' with
  | '?' :: rest => some (rest.takeWhile (· != '#'))
  | _ => none

def readRest (style : Style) (cs : List Char) : Except Error (List Char × List Char) :=
  match style, cs with
  | .opaqueHost, '/' :: '/' :: rest => readAuthority .opaqueHost rest
  | .opaqueHost, cs => .ok ([], cs)
  | .special, cs => readAuthority .special (cs.dropWhile fun c => c == '/' || c == '\\')
  | .file, a :: b :: rest =>
    if (a == '/' || a == '\\') && (b == '/' || b == '\\') then readFileHost rest
    else .ok ([], a :: b :: rest)
  | .file, cs => .ok ([], cs)

def clean (s : String) : List Char :=
  (Text.trimBoth (fun c => c.toNat ≤ 0x20) s.toList).filter fun c =>
    c != '\t' && c != '\n' && c != '\r'

def parse (s : String) : Except Error Uri :=
  match readScheme? (clean s) with
  | none => .error .relative
  | some (scheme, rest) => do
    let (host, rest) ← readRest (.ofScheme scheme) rest
    return ⟨String.ofList scheme, String.ofList host, readQuery? rest⟩

end Uri

end Messaging
