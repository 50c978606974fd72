/-
# Draining

Pulling goes on until a pull gives no item.  `Pull.Drains` says what comes of that, with no bound
on the number of pulls: the items, how the pulling has ended, and the state that is left behind.
A bounded run that is given more pulls than there are items is the same, `Pull.Drains.drain_eq`.
`Pull.Gives` says what comes of any number of pulls where nothing comes after the end.  Both can be
found by going over the items once: `Pull.Yields` says which items lead from one state to another,
and what comes of the later state then comes of the earlier one with these items in front.
-/
import Lexeme.Pull
import Mathlib.Tactic.Common

namespace Lexeme

namespace Pull

variable {α σ : Type} {pull : σ → Pull α × σ} {s : σ} {run run' : Run α σ}

/-- What comes of pulling from a state until a pull gives no item. -/
inductive Drains (pull : σ → Pull α × σ) : σ → Run α σ → Prop
  | stop {s s' : σ} (h : pull s = (.stop, s')) : Drains pull s ⟨[], .stopped, s'⟩
  | fault {s s' : σ} {f : Fault} (h : pull s = (.fault f, s')) : Drains pull s ⟨[], .failed f, s'⟩
  | item {s s' : σ} {a : α} {items : List α} {ending : Ending} {last : σ}
      (h : pull s = (.item a, s')) (hrest : Drains pull s' ⟨items, ending, last⟩) :
      Drains pull s ⟨a :: items, ending, last⟩

lemma Drains.drain_eq (h : Drains pull s run) {bound : Nat} (hbound : run.items.length < bound) :
    drain pull bound s = run := by
  induction h generalizing bound with
  | stop h | fault h =>
    obtain ⟨b, rfl⟩ := Nat.exists_eq_add_one.2 hbound
    rw [drain_succ, h]
  | item h _ ih =>
    obtain ⟨b, rfl⟩ := Nat.exists_eq_add_one.2 (Nat.zero_lt_of_lt hbound)
    have hrest := ih (Nat.lt_of_succ_lt_succ hbound)
    rw [drain_succ, h]
    simp only [hrest]

lemma Drains.unique (h : Drains pull s run) (h' : Drains pull s run') : run = run' := by
  have hrun : drain pull (run.items.length + run'.items.length + 1) s = run :=
    h.drain_eq (by omega)
  rw [h'.drain_eq (by omega)] at hrun
  exact hrun.symm

/-- Pulling gives these results one after the other, and stops ever after. -/
def Gives (pull : σ → Pull α × σ) (s : σ) (results : List (Pull α)) : Prop :=
  ∀ n, (times pull n s).1 = (results ++ List.replicate n stop).take n

lemma Gives.cons {p : Pull α} {s' : σ} {results : List (Pull α)} (h : pull s = (p, s'))
    (hrest : Gives pull s' results) : Gives pull s (p :: results) := by
  intro n
  cases n with
  | zero => rfl
  | succ n =>
    -- one stop more than there are pulls left is not seen
    have hlast : (results ++ List.replicate (n + 1) stop).take n =
        (results ++ List.replicate n stop).take n := by
      rw [List.take_append, List.take_append, List.take_replicate, List.take_replicate]
      congr 2
      omega
    simp only [times, h, List.cons_append, List.take_succ_cons, hlast, hrest n]

/-- Pulling gives these items one after the other, and leads from the one state to the other. -/
inductive Yields (pull : σ → Pull α × σ) : σ → List α → σ → Prop
  | nil (s : σ) : Yields pull s [] s
  | cons {s s' s'' : σ} {a : α} {items : List α} (h : pull s = (.item a, s'))
      (hrest : Yields pull s' items s'') : Yields pull s (a :: items) s''

namespace Yields

variable {s' last : σ} {items : List α}

lemma drains {ending : Ending} (h : Yields pull s items s')
    (hend : Drains pull s' ⟨[], ending, last⟩) : Drains pull s ⟨items, ending, last⟩ := by
  induction h with
  | nil => exact hend
  | cons h _ ih => exact .item h (ih hend)

end Yields

end Pull

end Lexeme
