/-!
# UTF-8

Texts as bytes and back.  `next` reads one character off a sequence of bytes or says how many
bytes cannot begin one; `decode` insists on well-formed input and `decodeLossy` puts a
replacement character where the input is not.
-/

namespace Messaging.Text.Utf8

def encode (s : String) : List UInt8 := s.toList.flatMap String.utf8EncodeChar

/-! ## One character -/

inductive Piece where
  | char (c : Char) (length : Nat)
  /-- Bytes that no continuation makes a character. -/
  | invalid (length : Nat)
  /-- The input ends inside a character. -/
  | cut
  deriving DecidableEq, Repr

def width (b : UInt8) : Nat :=
  if b < 0x80 then 1
  else if b < 0xC2 then 0
  else if b < 0xE0 then 2
  else if b < 0xF0 then 3
  else if b < 0xF5 then 4
  else 0

def isContinuation (b : UInt8) : Bool := 0x80 ≤ b && b < 0xC0

/--
The second byte of a character is a continuation whose range is narrower after the leading
bytes that would otherwise allow over-long forms, surrogates or values past the last code point.
-/
def isSecond (lead second : UInt8) : Bool :=
  if lead = 0xE0 then 0xA0 ≤ second && second < 0xC0
  else if lead = 0xED then 0x80 ≤ second && second < 0xA0
  else if lead = 0xF0 then 0x90 ≤ second && second < 0xC0
  else if lead = 0xF4 then 0x80 ≤ second && second < 0x90
  else isContinuation second

def extend (high : Nat) (b : UInt8) : Nat := high * 64 + b.toNat % 64

def next (b : UInt8) (rest : List UInt8) : Piece :=
  match width b with
  | 1 => .char (Char.ofNat b.toNat) 1
  | 2 =>
    match rest with
    | [] => .cut
    | c :: _ =>
      if isSecond b c then .char (Char.ofNat (extend (b.toNat % 32) c)) 2 else .invalid 1
  | 3 =>
    match rest with
    | [] => .cut
    | c :: rest =>
      if !isSecond b c then .invalid 1
      else
        match rest with
        | [] => .cut
        | d :: _ =>
          if isContinuation d then .char (Char.ofNat (extend (extend (b.toNat % 16) c) d)) 3
          else .invalid 2
  | 4 =>
    match rest with
    | [] => .cut
    | c :: rest =>
      if !isSecond b c then .invalid 1
      else
        match rest with
        | [] => .cut
        | d :: rest =>
          if !isContinuation d then .invalid 2
          else
            match rest with
            | [] => .cut
            | e :: _ =>
              if isContinuation e then
                .char (Char.ofNat (extend (extend (extend (b.toNat % 8) c) d) e)) 4
              else .invalid 3
  | _ => .invalid 1

/-! ## Whole sequences -/

structure Error where
  index : Nat
  length : Option Nat
  deriving DecidableEq, Repr

def Error.message (e : Error) : String :=
  match e.length with
  | some n => s!"invalid utf-8 sequence of {n} bytes from index {e.index}"
  | none => s!"incomplete utf-8 byte sequence from index {e.index}"

private theorem drop_pred_length (n : Nat) (rest : List UInt8) :
    (rest.drop (n - 1)).length < rest.length + 1 := by
  simp only [List.length_drop]
  omega

def decodeFrom (index : Nat) (done : List Char) : List UInt8 → Except Error (List Char)
  | [] => .ok done.reverse
  | b :: rest =>
    match next b rest with
    | .char c n => decodeFrom (index + n) (c :: done) (rest.drop (n - 1))
    | .invalid n => .error ⟨index, some n⟩
    | .cut => .error ⟨index, none⟩
  termination_by bytes => bytes.length
  decreasing_by exact drop_pred_length _ _

def decode (bytes : List UInt8) : Except Error String :=
  (decodeFrom 0 [] bytes).map String.ofList

/-- Decode with U+FFFD in place of each run of bytes that is no character. -/
def decodeLossyFrom (done : List Char) : List UInt8 → List Char
  | [] => done.reverse
  | b :: rest =>
    match next b rest with
    | .char c n => decodeLossyFrom (c :: done) (rest.drop (n - 1))
    | .invalid n => decodeLossyFrom ('\uFFFD' :: done) (rest.drop (n - 1))
    | .cut => ('\uFFFD' :: done).reverse
  termination_by bytes => bytes.length
  decreasing_by all_goals exact drop_pred_length _ _

def decodeLossy (bytes : List UInt8) : String := String.ofList (decodeLossyFrom [] bytes)

end Messaging.Text.Utf8
