/-!
# Wildcard patterns

The patterns of `LIKE`: a percent sign stands for any run of characters, an underscore for one
character, and the character after the escape character for itself.
-/

namespace Messaging.Selector

inductive Wildcard where
  | run
  | one
  | exactly (c : Char)
  deriving DecidableEq, Repr

namespace Wildcard

/-- The places of a pattern, unless it ends in an escape character that escapes nothing. -/
def compile? (escape : Option Char) : List Char → Option (List Wildcard)
  | [] => some []
  | c :: rest =>
    if some c = escape then
      match rest with
      | [] => none
      | d :: rest => (compile? escape rest).map (exactly d :: ·)
    else if c = '%' then (compile? escape rest).map (run :: ·)
    else if c = '_' then (compile? escape rest).map (one :: ·)
    else (compile? escape rest).map (exactly c :: ·)

def emptySuffixes : List Char → List Bool
  | [] => [true]
  | _ :: rest => false :: emptySuffixes rest

def someLater : List Bool → List Bool
  | [] => []
  | b :: bs =>
    let later := someLater bs
    (b || later.head?.getD false) :: later

/-- For every suffix of a text, the longest first: whether all places accept the whole of it. -/
def acceptSuffixes (text : List Char) : List Wildcard → List Bool
  | [] => emptySuffixes text
  | run :: places => someLater (acceptSuffixes text places)
  | one :: places => (acceptSuffixes text places).drop 1 ++ [false]
  | exactly c :: places =>
    List.zipWith (fun d accepted => d == c && accepted) text
      ((acceptSuffixes text places).drop 1) ++ [false]

def accepts (places : List Wildcard) (text : List Char) : Bool :=
  (acceptSuffixes text places).head?.getD false

end Wildcard

end Messaging.Selector
