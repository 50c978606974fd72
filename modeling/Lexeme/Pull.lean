/-
# Pulling items one by one

Streams, slices and lexers are pulled: each pull gives an item, says that there are no more, or
fails, and leaves a state for the next pull.
-/
import Lexeme.Fault

namespace Lexeme

variable {α σ : Type}

/-- What one pull gives. -/
inductive Pull (α : Type) where
  /-- An item. -/
  | item (a : α)
  /-- There are no more items. -/
  | stop
  /-- The pull failed. -/
  | fault (f : Fault)

/-- How a run of pulls ended. -/
inductive Ending where
  /-- There were no more items. -/
  | stopped
  /-- A pull failed. -/
  | failed (f : Fault)
  /-- The run was given no more pulls. -/
  | unfinished
deriving DecidableEq, Repr

/-- A run of pulls until one gives no item. -/
structure Run (α σ : Type) where
  /-- The items, in the order of the pulls. -/
  items : List α
  /-- Why the run ended. -/
  ending : Ending
  /-- The state after the last pull. -/
  state : σ

namespace Pull

/-- The items of at most `bound` further pulls, after those already `seen`. -/
def drainFrom (pull : σ → Pull α × σ) : (bound : Nat) → (seen : Array α) → σ → Run α σ
  | 0, seen, s => ⟨seen.toList, .unfinished, s⟩
  | bound + 1, seen, s =>
    match pull s with
    | (item a, s') => drainFrom pull bound (seen.push a) s'
    | (stop, s') => ⟨seen.toList, .stopped, s'⟩
    | (fault f, s') => ⟨seen.toList, .failed f, s'⟩

/-- The items of at most `bound` pulls. -/
def drain (pull : σ → Pull α × σ) (bound : Nat) (s : σ) : Run α σ :=
  drainFrom pull bound #[] s

/-- The number of pulls after which a run that has not ended is given up. -/
def patience : Nat := 1099511627776

/-- What each of `n` pulls gives, failed ones included. -/
def times (pull : σ → Pull α × σ) : (n : Nat) → σ → List (Pull α) × σ
  | 0, s => ([], s)
  | n + 1, s =>
    let (first, s') := pull s
    let (others, s'') := times pull n s'
    (first :: others, s'')

theorem drainFrom_eq (pull : σ → Pull α × σ) (bound : Nat) (seen : Array α) (s : σ) :
    drainFrom pull bound seen s =
      { drain pull bound s with items := seen.toList ++ (drain pull bound s).items } := by
  induction bound generalizing seen s with
  | zero => simp [drainFrom, drain]
  | succ bound ih =>
    simp only [drain, drainFrom]
    split
    · rename_i a s' _
      rw [ih (seen.push a), ih (#[].push a)]
      simp
    · simp
    · simp

/-- A run pulls once and then goes on from there. -/
theorem drain_succ (pull : σ → Pull α × σ) (bound : Nat) (s : σ) :
    drain pull (bound + 1) s =
      match pull s with
      | (item a, s') =>
        { drain pull bound s' with items := a :: (drain pull bound s').items }
      | (stop, s') => ⟨[], .stopped, s'⟩
      | (fault f, s') => ⟨[], .failed f, s'⟩ := by
  rw [drain, drainFrom]
  split <;> simp [drainFrom_eq]

end Pull

end Lexeme
