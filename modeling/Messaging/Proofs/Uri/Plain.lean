import Messaging.Proofs.Outcome
import Messaging.Uri.Basic
import Mathlib.Data.List.TakeWhile

/-!
# Plain URIs

A host without characters that end it or have to be escaped is read as it stands, and so is a
query without white space, control characters and number signs.
-/

namespace Messaging.Uri

def isHostChar (c : Char) : Bool := 0x20 < c.toNat && c.toNat < 0x7F && !isForbidden c

section Character

variable {c : Char} (h : isHostChar c = true)

include h

theorem bounds_of_isHostChar : 0x20 < c.toNat ∧ c.toNat < 0x7F := by
  simp only [isHostChar, Bool.and_eq_true, decide_eq_true_eq] at h
  exact h.1

theorem ne_of_isHostChar {d : Char} (hd : isForbidden d = true) : c ≠ d := by
  rintro rfl
  simp [isHostChar, hd] at h

theorem endsAuthority_of_isHostChar : endsAuthority .opaqueHost c = false := by
  have hslash : c ≠ '/' := ne_of_isHostChar h (by decide)
  have hquestion : c ≠ '?' := ne_of_isHostChar h (by decide)
  have hnumber : c ≠ '#' := ne_of_isHostChar h (by decide)
  simp [endsAuthority, Style.isSpecial, hslash, hquestion, hnumber]

theorem escapeHostChar_of_isHostChar : escapeHostChar c = [c] := by
  have hbounds := bounds_of_isHostChar h
  exact if_neg (by omega)

end Character

/-! ## Authority and query -/

section Authority

variable {host : List Char} (hhost : ∀ c ∈ host, isHostChar c = true) (query : List Char)

include hhost

theorem readUserInfo?_plain : readUserInfo? .opaqueHost (host ++ '?' :: query) = none := by
  have hends : ∀ c ∈ host, (!endsAuthority .opaqueHost c) = true := fun c hc => by
    simp [endsAuthority_of_isHostChar (hhost c hc)]
  have hauthority : (host ++ '?' :: query).takeWhile (!endsAuthority .opaqueHost ·) = host := by
    rw [List.takeWhile_append_of_pos hends]
    simp [endsAuthority]
  -- no sign stands in the authority, so all of it is behind the last one
  have hsign : host.reverse.takeWhile (· != '@') = host.reverse :=
    List.takeWhile_eq_self_iff.mpr fun c hc =>
      bne_iff_ne.mpr (ne_of_isHostChar (hhost c (List.mem_reverse.mp hc)) (by decide))
  simp [readUserInfo?, hauthority, hsign]

theorem spanHost_plain :
    spanHost .opaqueHost false (host ++ '?' :: query) = (host, '?' :: query) := by
  induction host with
  | nil => simp [spanHost, endsAuthority]
  | cons c host ih =>
      have hc := hhost c List.mem_cons_self
      have hcolon : (c == ':') = false := beq_false_of_ne (ne_of_isHostChar hc (by decide))
      have hbracket : (c == '[') = false := beq_false_of_ne (ne_of_isHostChar hc (by decide))
      have hrest := ih fun d hd => hhost d (List.mem_cons_of_mem _ hd)
      simp [spanHost, endsAuthority_of_isHostChar hc, hcolon, hbracket, hrest]

theorem flatMap_escapeHostChar : host.flatMap escapeHostChar = host := by
  induction host with
  | nil => rfl
  | cons c host ih =>
      rw [List.flatMap_cons, escapeHostChar_of_isHostChar (hhost c List.mem_cons_self),
        ih fun d hd => hhost d (List.mem_cons_of_mem _ hd), List.singleton_append]

theorem readHost_plain : readHost .opaqueHost host = .ok host := by
  have hallowed : host.any isForbidden = false := by
    rw [List.any_eq_false]
    intro c hc hforbidden
    exact ne_of_isHostChar (hhost c hc) hforbidden rfl
  unfold readHost
  split
  next => exact absurd rfl (ne_of_isHostChar (hhost '[' List.mem_cons_self) (by decide))
  next => simp [Style.isSpecial, hallowed, flatMap_escapeHostChar hhost]

theorem readAuthority_plain (hne : host ≠ []) :
    readAuthority .opaqueHost (host ++ '?' :: query) = .ok (host, '?' :: query) := by
  simp [readAuthority, readUserInfo?_plain hhost, spanHost_plain hhost, readHost_plain hhost, hne]

end Authority

theorem readQuery?_plain {query : List Char} (h : ∀ c ∈ query, c ≠ '#') :
    readQuery? ('?' :: query) = some query := by
  have hquery : query.takeWhile (· != '#') = query :=
    List.takeWhile_eq_self_iff.mpr fun c hc => bne_iff_ne.mpr (h c hc)
  simp [readQuery?, hquery]

/-! ## Whole URIs -/

theorem clean_of_visible {s : String} (h : ∀ c ∈ s.toList, 0x20 < c.toNat) :
    clean s = s.toList := by
  have hkept : ∀ c ∈ s.toList, (c != '\t' && c != '\n' && c != '\r') = true := by
    intro c hc
    have hne : ∀ d : Char, d.toNat ≤ 0x20 → c ≠ d := by
      rintro d hd rfl
      exact absurd (h c hc) (Nat.not_lt.mpr hd)
    simp [hne '\t' (by decide), hne '\n' (by decide), hne '\r' (by decide)]
  rw [clean, Text.trimBoth_of_none _ _ (by simpa using h), List.filter_eq_self.mpr hkept]

/-- The host and the query of a plain URI are read as they stand. -/
theorem parse_plain {host query : String} (hne : host ≠ "")
    (hhost : ∀ c ∈ host.toList, isHostChar c = true)
    (hquery : ∀ c ∈ query.toList, 0x20 < c.toNat ∧ c ≠ '#') :
    parse ("vm://" ++ host ++ "?" ++ query) = .ok ⟨"vm", host, some query.toList⟩ := by
  have htext : ("vm://" ++ host ++ "?" ++ query).toList =
      "vm://".toList ++ (host.toList ++ '?' :: query.toList) := by
    simp
  have hvisible : ∀ c ∈ ("vm://" ++ host ++ "?" ++ query).toList, 0x20 < c.toNat := by
    have hscheme : "vm://".toList.all (0x20 < ·.toNat) = true := by decide
    rw [htext]
    simp only [List.mem_append, List.mem_cons]
    rintro c (hc | hc | rfl | hc)
    · exact of_decide_eq_true (List.all_eq_true.mp hscheme c hc)
    · exact (bounds_of_isHostChar (hhost c hc)).1
    · decide
    · exact (hquery c hc).1
  have hscheme (rest : List Char) :
      readScheme? ("vm://".toList ++ rest) = some ("vm".toList, '/' :: '/' :: rest) := rfl
  have hrest : readRest (.ofScheme "vm".toList)
      ('/' :: '/' :: (host.toList ++ '?' :: query.toList)) =
        .ok (host.toList, '?' :: query.toList) :=
    readAuthority_plain hhost query.toList (by simpa using hne)
  have hread := readQuery?_plain fun c hc => (hquery c hc).2
  simp only [parse, clean_of_visible hvisible, htext, hscheme, hrest, ok_bind, hread]
  simp [pure, Except.pure]

end Messaging.Uri
