import Messaging.Selector.Token
import Messaging.Text.Class

/-!
# Tokens of a text

`next` reads one token off the front of a text and returns a rest that is shorter, so that
`scan` ends with the text.
-/

namespace Messaging.Selector

open Text Number

namespace Token

/-- The apostrophe, which encloses text literals and is doubled inside them. -/
def quote : Char := Char.ofNat 39

/-! ## Text literals -/

def readText? : List Char → Option (List Char × List Char)
  | [] => none
  | c :: rest =>
    if c = quote then
      match rest with
      | [] => some ([], [])
      | d :: rest' =>
        if d = quote then (readText? rest').map fun p => (quote :: p.1, p.2)
        else some ([], d :: rest')
    else (readText? rest).map fun p => (c :: p.1, p.2)

/-! ## Numbers -/

/--
Whether a number goes on with `c` after `previous`: a sign does so only after an exponent mark.
-/
def continuesNumber (previous c : Char) : Bool :=
  c.isAlphanum || c == '.' || ((c == '+' || c == '-') && (previous == 'e' || previous == 'E'))

def spanNumber (previous : Char) : List Char → List Char × List Char
  | [] => ([], [])
  | c :: rest =>
    if continuesNumber previous c then
      let (spelling, rest) := spanNumber c rest
      (c :: spelling, rest)
    else ([], c :: rest)

def readHexInteger? : List Char → Option Int64
  | '0' :: x :: digits =>
    if x = 'x' ∨ x = 'X' then
      ((readHex? digits).filter fun n => n < 9223372036854775808).map fun n => Int64.ofNat n
    else none
  | _ => none

def hasHexMark : List Char → Bool
  | '0' :: x :: _ => x = 'x' ∨ x = 'X'
  | _ => false

def isLongSuffix (c : Char) : Bool := c == 'l' || c == 'L'

def isFloatSuffix (c : Char) : Bool := c == 'f' || c == 'F' || c == 'd' || c == 'D'

/--
The number with a given spelling: a decimal or hexadecimal integer that fits in a long, with or
without a suffix, or else a floating-point number with or without a suffix of its own.
-/
def ofNumber? (spelling : List Char) : Option Token :=
  let trimmed := trimEnd isLongSuffix spelling
  match readInt64? trimmed with
  | some n => some (integer n)
  | none =>
    if hasHexMark trimmed then (readHexInteger? trimmed).map integer
    else (readDouble? (trimEnd isFloatSuffix spelling)).map decimal

/-! ## Words -/

def startsWord (c : Char) : Bool := isAlphabetic c || c == '_' || c == '$'

def continuesWord (c : Char) : Bool := isAlphanumeric c || c == '_' || c == '$' || c == '.'

def ofWord (word : List Char) : Token :=
  match Keyword.ofWord? word with
  | some k => keyword k
  | none => identifier (String.ofList word)

/-! ## One token -/

def ofChar? : Char → Option Token
  | '(' => some openParen
  | ')' => some closeParen
  | ',' => some comma
  | '=' => some (comparison .equal)
  | '+' => some plus
  | '-' => some minus
  | '*' => some star
  | '/' => some slash
  | _ => none

def readAngle (c : Char) (rest : List Char) : Token × List Char :=
  match c, rest with
  | '<', '>' :: rest => (comparison .notEqual, rest)
  | '<', '=' :: rest => (comparison .lessOrEqual, rest)
  | '<', rest => (comparison .less, rest)
  | _, '=' :: rest => (comparison .greaterOrEqual, rest)
  | _, rest => (comparison .greater, rest)

def startsNumber (c : Char) (rest : List Char) : Bool :=
  c.isDigit || (c == '.' && (rest.head?.map Char.isDigit).getD false)

/-- The token at the front of `c :: rest`, or none for white space, and the text after it. -/
def next (c : Char) (rest : List Char) : Except Error (Option Token × List Char) :=
  if isBlank c then .ok (none, rest)
  else
    match ofChar? c with
    | some token => .ok (some token, rest)
    | none =>
      if c = '<' ∨ c = '>' then
        let (token, rest) := readAngle c rest
        .ok (some token, rest)
      else if c = quote then
        match readText? rest with
        | some (s, rest) => .ok (some (text (String.ofList s)), rest)
        | none => .error .unterminatedText
      else if startsNumber c rest then
        let (more, rest) := spanNumber c rest
        match ofNumber? (c :: more) with
        | some token => .ok (some token, rest)
        | none => .error (.badNumber (String.ofList (c :: more)))
      else if startsWord c then
        .ok (some (ofWord (c :: rest.takeWhile continuesWord)), rest.dropWhile continuesWord)
      else .error (.unexpectedCharacter c)

/-! ## The rest is shorter -/

theorem length_readText? {cs s rest : List Char} (h : readText? cs = some (s, rest)) :
    rest.length < cs.length := by
  fun_induction readText? cs generalizing s rest with
  | case1 => cases h
  | case2 => cases h; simp
  | case3 after ih =>
    obtain ⟨p, hp, hpair⟩ := Option.map_eq_some_iff.1 h
    have := @ih p.1 p.2 hp
    cases hpair
    simp
    omega
  | case4 => cases h; simp
  | case5 d after _ ih =>
    obtain ⟨p, hp, hpair⟩ := Option.map_eq_some_iff.1 h
    have := @ih p.1 p.2 hp
    cases hpair
    simp
    omega

theorem length_spanNumber (previous : Char) (cs : List Char) :
    (spanNumber previous cs).2.length ≤ cs.length := by
  induction cs generalizing previous with
  | nil => simp [spanNumber]
  | cons c rest ih =>
    simp only [spanNumber]
    split
    · have := ih c
      simp
      omega
    · simp

theorem length_readAngle (c : Char) (rest : List Char) :
    (readAngle c rest).2.length ≤ rest.length := by
  unfold readAngle
  split <;> simp

theorem length_next {c : Char} {rest after : List Char} {token : Option Token}
    (h : next c rest = .ok (token, after)) : after.length ≤ rest.length := by
  unfold next at h
  split at h
  · cases h; exact Nat.le_refl _
  · split at h
    · cases h; exact Nat.le_refl _
    · split at h
      · have := length_readAngle c rest
        cases h; exact this
      · split at h
        · split at h
          · next hs =>
            cases h
            exact Nat.le_of_lt (length_readText? hs)
          · cases h
        · split at h
          · have := length_spanNumber c rest
            dsimp only at h
            split at h
            · cases h; exact this
            · cases h
          · split at h
            · cases h
              exact (List.dropWhile_suffix _).length_le
            · cases h

end Token

def scan : List Char → Except Error (List Token)
  | [] => .ok []
  | c :: rest =>
    match _step : Token.next c rest with
    | .error e => .error e
    | .ok (none, after) => scan after
    | .ok (some token, after) => (scan after).map (token :: ·)
  termination_by cs => cs.length
  decreasing_by
    all_goals
      have := Token.length_next _step
      simp
      omega

end Messaging.Selector
