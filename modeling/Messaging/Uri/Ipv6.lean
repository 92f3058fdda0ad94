import Messaging.Uri.Ipv4

/-!
# IPv6 addresses

Eight 16-bit pieces in hexadecimal, with one run of zero pieces left out if it is marked by two
colons, and with the last two pieces in the dotted form of IPv4 if so wished.  An address is
written with its first longest run of zero pieces left out.
-/

namespace Messaging.Uri.Ipv6

/-! ## Reading -/

def readOctet? (cs : List Char) : Option Nat :=
  if cs.length = 1 ∨ cs.head? ≠ some '0' then
    (Number.readNat? cs).filter fun n => n < 256
  else none

def readDotted? (cs : List Char) : Option (List Nat) := do
  match ← (splitDots cs).mapM readOctet? with
  | [a, b, c, d] => some [a * 256 + b, c * 256 + d]
  | _ => none

/-- Pieces as they are read: the place of the two colons among them, if they were seen. -/
structure Partial where
  pieces : List Nat
  gap : Option Nat
  deriving DecidableEq, Repr

def Partial.push (p : Partial) (n : Nat) : Partial := { p with pieces := p.pieces ++ [n] }

def readPieces? : (room : Nat) → Partial → List Char → Option Partial
  | _, p, [] => some p
  | 0, _, _ :: _ => none
  | room + 1, p, ':' :: rest =>
    if p.gap.isSome then none
    else readPieces? room ⟨p.pieces ++ [0], some (p.pieces.length + 1)⟩ rest
  | room + 1, p, cs =>
    let digits := (cs.take 4).takeWhile fun c => (Number.hexDigit? c).isSome
    match Number.readHex? digits, cs.drop digits.length with
    | none, _ => none
    | some n, [] => some (p.push n)
    | some n, ':' :: c :: rest => readPieces? room (p.push n) (c :: rest)
    | some _, '.' :: _ =>
      if room = 0 then none
      else (readDotted? cs).map fun more => { p with pieces := p.pieces ++ more }
    | some _, _ => none

def Partial.fill? (p : Partial) : Option (List Nat) :=
  match p.gap with
  | some gap =>
    some (p.pieces.take gap ++ List.replicate (8 - p.pieces.length) 0 ++ p.pieces.drop gap)
  | none => if p.pieces.length = 8 then some p.pieces else none

def read? (cs : List Char) : Option (List Nat) :=
  match cs with
  | [] | [_] => none
  | ':' :: ':' :: rest => (readPieces? 7 ⟨[0], some 1⟩ rest).bind Partial.fill?
  | ':' :: _ => none
  | cs => (readPieces? 8 ⟨[], none⟩ cs).bind Partial.fill?

/-! ## Writing -/

def zeroRun (pieces : List Nat) : Nat := (pieces.takeWhile (· == 0)).length

def longestRun : List Nat → Nat × Nat
  | [] => (0, 0)
  | piece :: pieces =>
    let later := longestRun pieces
    let here := zeroRun (piece :: pieces)
    if later.2 ≤ here then (0, here) else (later.1 + 1, later.2)

def pieceText (n : Nat) : List Char := Nat.toDigits 16 n

def joinPieces (pieces : List Nat) : List Char :=
  [':'].intercalate (pieces.map pieceText)

def write (pieces : List Nat) : List Char :=
  let (start, length) := longestRun pieces
  if length < 2 then joinPieces pieces
  else
    joinPieces (pieces.take start) ++ [':', ':'] ++ joinPieces (pieces.drop (start + length))

end Messaging.Uri.Ipv6
