/-!
# Three-valued truth

Truth in selectors is definite or unknown, with the connectives of Kleene's strong logic.
-/

namespace Messaging.Selector

/-- `none` is unknown. -/
abbrev Truth := Option Bool

namespace Truth

def not : Truth → Truth
  | some b => some (!b)
  | none => none

def and : Truth → Truth → Truth
  | some false, _ => some false
  | _, some false => some false
  | some true, some true => some true
  | _, _ => none

def or : Truth → Truth → Truth
  | some true, _ => some true
  | _, some true => some true
  | some false, some false => some false
  | _, _ => none

def negateIf (negated : Bool) (t : Truth) : Truth := if negated then t.not else t

end Truth

end Messaging.Selector
