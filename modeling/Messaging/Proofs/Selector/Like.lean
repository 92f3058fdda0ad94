import Messaging.Proofs.Selector.Parsing
import Messaging.Proofs.Selector.Wildcard
import Messaging.Proofs.Selector.Writing
import Messaging.Selector

/-!
# Tests of texts against patterns

A pattern can be written as a regular expression: a dot for one character, a starred dot for a run,
and every other character for itself, behind a backslash if the syntax of regular expressions uses
it.  The expression is bound to both ends of the text, and its dots also stand for line ends.  Main
statement: a `LIKE` test is true of exactly the texts that split along its pattern, and these are the
texts in which the regular expression of the pattern is found.
-/

namespace Messaging.Selector

/-! ## Regular expressions -/

namespace Regex

inductive Piece where
  | start
  | finish
  | any
  | anyRun
  | literal (c : Char)
  deriving DecidableEq, Repr

def isSpecial (c : Char) : Bool := "\\.+*?()|[]\x7b\x7d^$#&-~".toList.contains c

def pieces? : List Char → Option (List Piece)
  | [] => some []
  | '^' :: rest => (pieces? rest).map (.start :: ·)
  | '$' :: rest => (pieces? rest).map (.finish :: ·)
  | '.' :: '*' :: rest => (pieces? rest).map (.anyRun :: ·)
  | '.' :: rest => (pieces? rest).map (.any :: ·)
  | '\\' :: c :: rest => if isSpecial c then (pieces? rest).map (.literal c :: ·) else none
  | c :: rest => if isSpecial c then none else (pieces? rest).map (.literal c :: ·)

end Regex

structure Regex where
  dotAll : Bool
  pieces : List Regex.Piece
  deriving DecidableEq, Repr

namespace Regex

def parse? : List Char → Option Regex
  | '(' :: '?' :: 's' :: ')' :: rest => (pieces? rest).map (⟨true, ·⟩)
  | text => (pieces? text).map (⟨false, ·⟩)

def Dot (dotAll : Bool) (c : Char) : Prop := dotAll = true ∨ c ≠ '\n'

/-- The parts have a match at a place of a text, between what stands before it and the rest. -/
def MatchesAt (dotAll : Bool) : List Piece → List Char → List Char → Prop
  | [], _, _ => True
  | .start :: ps, before, rest => before = [] ∧ MatchesAt dotAll ps before rest
  | .finish :: ps, before, rest => rest = [] ∧ MatchesAt dotAll ps before rest
  | .any :: ps, before, rest =>
    ∃ c after, rest = c :: after ∧ Dot dotAll c ∧ MatchesAt dotAll ps (before ++ [c]) after
  | .anyRun :: ps, before, rest =>
    ∃ run after, rest = run ++ after ∧ (∀ c ∈ run, Dot dotAll c) ∧
      MatchesAt dotAll ps (before ++ run) after
  | .literal c :: ps, before, rest =>
    ∃ after, rest = c :: after ∧ MatchesAt dotAll ps (before ++ [c]) after

def Found (r : Regex) (text : List Char) : Prop :=
  ∃ before rest, text = before ++ rest ∧ MatchesAt r.dotAll r.pieces before rest

/-! ## Expressions of patterns -/

def quote (c : Char) : List Char := if isSpecial c then ['\\', c] else [c]

def place : Wildcard → List Char
  | .run => ['.', '*']
  | .one => ['.']
  | .exactly c => quote c

def written (places : List Wildcard) : List Char :=
  "(?s)^".toList ++ (places.flatMap place ++ ['$'])

def Piece.ofPlace : Wildcard → Piece
  | .run => .anyRun
  | .one => .any
  | .exactly c => .literal c

theorem pieces?_dot {text : List Char} (h : text.head? ≠ some '*') :
    pieces? ('.' :: text) = (pieces? text).map (.any :: ·) := by
  rw [pieces?]
  rintro rest rfl
  exact h rfl

theorem pieces?_quote (c : Char) (text : List Char) :
    pieces? (quote c ++ text) = (pieces? text).map (.literal c :: ·) := by
  unfold quote
  split
  next hspecial => simp [pieces?, hspecial]
  next hspecial =>
    have hne : ∀ d, isSpecial d = true → c ≠ d := fun d hd hcd => hspecial (hcd ▸ hd)
    have h := pieces?.eq_def (c :: text)
    split at h
    next heq => cases heq
    next heq => exact absurd (List.cons.inj heq).1 (hne '^' (by decide))
    next heq => exact absurd (List.cons.inj heq).1 (hne '$' (by decide))
    next heq => exact absurd (List.cons.inj heq).1 (hne '.' (by decide))
    next heq => exact absurd (List.cons.inj heq).1 (hne '.' (by decide))
    next heq => exact absurd (List.cons.inj heq).1 (hne '\\' (by decide))
    next heq =>
      obtain ⟨rfl, rfl⟩ := List.cons.inj heq
      rw [if_neg hspecial] at h
      exact h

theorem head?_places_ne_star (places : List Wildcard) :
    (places.flatMap place ++ ['$']).head? ≠ some '*' := by
  cases places with
  | nil => decide
  | cons p places =>
      cases p with
      | run | one => simp [place]
      | exactly c =>
          by_cases h : isSpecial c = true
          · simp [place, quote, h]
          · have hstar : c ≠ '*' := by
              rintro rfl
              exact h (by decide)
            simp [place, quote, h, hstar]

theorem pieces?_places (places : List Wildcard) :
    pieces? (places.flatMap place ++ ['$']) = some (places.map Piece.ofPlace ++ [.finish]) := by
  induction places with
  | nil => rfl
  | cons p places ih =>
      rw [List.flatMap_cons, List.append_assoc]
      cases p with
      | run => simp [place, pieces?, ih, Piece.ofPlace]
      | one =>
          rw [place, List.cons_append, List.nil_append, pieces?_dot (head?_places_ne_star places), ih]
          rfl
      | exactly c =>
          rw [place, pieces?_quote, ih]
          rfl

theorem parse?_written (places : List Wildcard) :
    parse? (written places) =
      some ⟨true, .start :: (places.map Piece.ofPlace ++ [.finish])⟩ := by
  have h : written places = '(' :: '?' :: 's' :: ')' :: '^' :: (places.flatMap place ++ ['$']) := rfl
  rw [h, parse?, pieces?, pieces?_places]
  rfl

theorem matchesAt_places (places : List Wildcard) (before text : List Char) :
    MatchesAt true (places.map Piece.ofPlace ++ [.finish]) before text ↔
      Wildcard.accepts places text = true := by
  induction places generalizing before text with
  | nil => simp [MatchesAt, Wildcard.accepts_nil_iff]
  | cons p places ih =>
      cases p with
      | run => simp [Piece.ofPlace, MatchesAt, Dot, ih, Wildcard.accepts_run_iff]
      | one => simp [Piece.ofPlace, MatchesAt, Dot, ih, Wildcard.accepts_one_iff]
      | exactly c => simp [Piece.ofPlace, MatchesAt, ih, Wildcard.accepts_exactly_iff]

/-- The expression of a pattern is found in the texts that its places accept. -/
theorem found_written (places : List Wildcard) :
    ∃ r, parse? (written places) = some r ∧
      ∀ text, r.Found text ↔ Wildcard.accepts places text = true := by
  refine ⟨_, parse?_written places, fun text => ?_⟩
  constructor
  · rintro ⟨before, rest, rfl, hbefore, h⟩
    rw [hbefore, List.nil_append]
    exact (matchesAt_places places before rest).mp h
  · intro h
    exact ⟨[], text, rfl, rfl, (matchesAt_places places [] text).mpr h⟩

end Regex

/-! ## Tests -/

def likeTest (pattern : String) : Option Char → List Token
  | none => [.keyword .like, .text pattern]
  | some c => [.keyword .like, .text pattern, .keyword .escape, .text (String.singleton c)]

theorem phrase_like {ts : List Token} {e : Expr} (pattern : String) (escape : Option Char)
    (h : Phrase .sum ts e) (hpaired : Wildcard.Paired escape pattern.toList) :
    Phrase .disjunction (ts ++ likeTest pattern escape) (.like e pattern escape false) := by
  have hpredicate : Phrase .predicate (ts ++ likeTest pattern escape)
      (.like e pattern escape false) := by
    cases escape with
    | none => exact .like pattern false h
    | some c => exact .likeEscape pattern c false h hpaired
  exact .conjunction (.negation (.predicate hpredicate))

theorem evaluate_like {e : Expr} {m : Message} {text : String} (pattern : String)
    (escape : Option Char) (h : evaluate e m = .text text) :
    evaluate (.like e pattern escape false) m = .boolean (matchesPattern pattern escape text) := by
  have hlike : evaluate (.like e pattern escape false) m =
      .ofTruth (((evaluate e m).test (matchesPattern pattern escape)).negateIf false) := rfl
  rw [hlike, h]
  rfl

/--
A selector that tests an operand against a pattern is parsed.  Where the operand is a text, the test
is true if the text splits along the pattern and false if it does not, and the text splits exactly if
the regular expression of the pattern is found in it.
-/
theorem like_iff_splits {source pattern : String} {escape : Option Char} {ts : List Token} {e : Expr}
    (hscan : scan source.toList = .ok (ts ++ likeTest pattern escape)) (hphrase : Phrase .sum ts e)
    (hpaired : Wildcard.Paired escape pattern.toList) :
    ∃ s places r, parse source = .ok s ∧ Wildcard.compile? escape pattern.toList = some places ∧
      Regex.parse? (Regex.written places) = some r ∧
      ∀ (m : Message) (text : String), evaluate e m = .text text →
        (s.selects m = true ↔ Wildcard.Splits escape pattern.toList text.toList) ∧
        (evaluate s.condition m = .boolean true ↔
          Wildcard.Splits escape pattern.toList text.toList) ∧
        (evaluate s.condition m = .boolean false ↔
          ¬ Wildcard.Splits escape pattern.toList text.toList) ∧
        (r.Found text.toList ↔ Wildcard.Splits escape pattern.toList text.toList) := by
  obtain ⟨places, hplaces⟩ := (Wildcard.compile?_isSome_iff escape _).mpr hpaired
  obtain ⟨r, hr, hfound⟩ := Regex.found_written places
  have hparse : parse source = .ok ⟨source, .like e pattern escape false⟩ := by
    have htokens := parseTokens_of_phrase (phrase_like pattern escape hphrase hpaired) rfl
    simp [parse, parseExpr, hscan, htokens]
  refine ⟨_, places, r, hparse, hplaces, hr, fun m text htext => ?_⟩
  have hvalue := evaluate_like pattern escape htext
  have hmatches : matchesPattern pattern escape text = true ↔
      Wildcard.Splits escape pattern.toList text.toList := by
    rw [matchesPattern, hplaces]
    exact Wildcard.accepts_iff_splits hplaces text.toList
  refine ⟨?_, ?_, ?_, (hfound _).trans (Wildcard.accepts_iff_splits hplaces _)⟩
  · rw [← hmatches, selects, hvalue]
    simp [Operand.truth]
  · rw [← hmatches, hvalue]
    simp
  · rw [← hmatches, hvalue]
    simp

def discount : String := " offer LIKE '5\\%_%' ESCAPE '\\'"

def discounted : Message := { properties := ⟨[("offer", .string "5% off\nall")]⟩ }

theorem like_iff_splits_discount :
    scan discount.toList = .ok ([.identifier "offer"] ++ likeTest "5\\%_%" (some '\\')) ∧
      Phrase .sum [.identifier "offer"] (.identifier "offer") ∧
      Wildcard.Paired (some '\\') "5\\%_%".toList ∧
      evaluate (.identifier "offer") discounted = .text "5% off\nall" ∧
      ∃ s, parse discount = .ok s ∧ s.selects discounted = true := by
  have hname : IsName "offer" :=
    ⟨⟨'o', ['f', 'f', 'e', 'r'], rfl, by decide, by simp; decide⟩, fun k => by cases k <;> decide⟩
  have hwords : ∀ p ∈ [(Token.identifier "offer", "offer".toList),
      (.keyword .like, "LIKE".toList), (.text "5\\%_%", "'5\\%_%'".toList),
      (.keyword .escape, "ESCAPE".toList), (.text "\\", "'\\'".toList)], p.1.Spelled p.2 := by
    simp only [List.forall_mem_cons]
    exact ⟨.identifier hname, .keyword (by decide), .text "5\\%_%", .keyword (by decide),
      .text "\\", by simp⟩
  have hscan : scan discount.toList =
      .ok ([.identifier "offer"] ++ likeTest "5\\%_%" (some '\\')) :=
    scan_spaced (spaced_words hwords)
  have hphrase : Phrase .sum [.identifier "offer"] (.identifier "offer") :=
    .product (.signed (.primary (.atom rfl)))
  have hpaired : Wildcard.Paired (some '\\') "5\\%_%".toList :=
    .plain (by decide) (.escaped rfl (.plain (by decide) (.plain (by decide) .nil)))
  have hvalue : evaluate (.identifier "offer") discounted = .text "5% off\nall" := by decide
  have hsplits : Wildcard.Splits (some '\\') "5\\%_%".toList "5% off\nall".toList :=
    .plain '5' (by decide) (by decide) (by decide) (.escaped '%' rfl
      (.one ' ' (by decide) (.run "off\nall".toList (by decide) .nil)))
  obtain ⟨s, places, r, hparse, -, -, h⟩ := like_iff_splits hscan hphrase hpaired
  exact ⟨hscan, hphrase, hpaired, hvalue, s, hparse, (h discounted _ hvalue).1.mpr hsplits⟩

end Messaging.Selector
