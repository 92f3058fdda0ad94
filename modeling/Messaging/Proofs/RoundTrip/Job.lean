import Messaging.RoundTrip.Run

/-!
# Jobs that succeed

What a job yields on a desk and the desk that it leaves behind, put together from what its parts
yield.
-/

namespace Messaging.RoundTrip

namespace Job

variable {α β : Type} {d d' d'' : Desk} {a : α} {b : β}

/-- A job succeeds with a value and leaves a desk behind. -/
def Yields (j : Job α) (d : Desk) (a : α) (d' : Desk) : Prop := j.run.run d = (.ok a, d')

theorem Yields.bind {j : Job α} {f : α → Job β} (h : j.Yields d a d') (h' : (f a).Yields d' b d'') :
    (j >>= f).Yields d b d'' := by
  unfold Yields at *
  rw [ExceptT.run_bind, StateT.run_bind, h]
  exact h'

theorem yields_pure (a : α) (d : Desk) : (pure a : Job α).Yields d a d := rfl

theorem yields_get (d : Desk) : (get : Job Desk).Yields d d d := rfl

theorem yields_modify (f : Desk → Desk) (d : Desk) : (modify f : Job Unit).Yields d () (f d) := rfl

theorem yields_print (line : String) (d : Desk) :
    (print line).Yields d () { d with printed := d.printed ++ [line] } := rfl

theorem yields_check {r : Except Error α} (h : r = .ok a) (d : Desk) : (check r).Yields d a d := by
  rw [h]
  rfl

theorem yields_perform {f : Provider → Outcome α} {w : Provider} (h : f d.provider = (.ok a, w)) :
    (perform f).Yields d a { d with provider := w } := by
  have hmodify : (modify ({ · with provider := w }) : Job Unit).Yields d () { d with provider := w } :=
    yields_modify _ d
  refine (yields_get d).bind ?_
  rw [h]
  exact hmodify.bind (yields_check rfl _)

theorem yields_change (f : Provider → Provider) (d : Desk) :
    (change f).Yields d () { d with provider := f d.provider } := rfl

/-! ## Browsing -/

section Browsing

variable {b : BrowserId} {w : Provider}

theorem yields_browseEach_of_none (h : d.provider.browseNext b = (.ok none, w)) :
    Yields (browseEach b) d 0 { d with provider := w } := by
  change browseEach b d = _
  rw [browseEach, h]

theorem yields_browseEach_of_some {m : Message} {n : Nat}
    (h : d.provider.browseNext b = (.ok (some m), w))
    (hrest : Yields (browseEach b) ⟨w, d.printed ++ [messageLine "pending" m]⟩ n d') :
    Yields (browseEach b) d (n + 1) d' := by
  have hrest : browseEach b ⟨w, d.printed ++ [messageLine "pending" m]⟩ = (.ok n, d') := hrest
  change browseEach b d = _
  rw [browseEach, h]
  simp only [hrest]
  rfl

end Browsing

end Job

end Messaging.RoundTrip
