/-
# Courses of pulls

The code of a caller may keep a state of its own, so every pull of a stream or of a lexer may
meet another classifier and another conversion.  A *turn* is what one pull meets, and a *course*
is what happens when turns are taken one after the other: for each of them the state before it,
the result and the state after it.  Since a course may end after any turn, what holds of every
course holds after every pull.  The induction along a course is `Pull.course_invariant`.
-/
import Lexeme.Item
import Lexeme.Pull
import Mathlib.Tactic.Common

namespace Lexeme

/-- What one pull meets. -/
structure Turn (κ : Type) where
  /-- The classifier that the pull calls. -/
  classify : Classifier κ
  /-- How the pull makes kinds of rejections. -/
  convert : Conversion κ

namespace Pull

variable {τ α σ : Type}

/-- The item that a pull gives. -/
def item? : Pull α → Option α
  | item a => some a
  | stop | fault _ => none

/-- One pull of a course. -/
structure Stage (τ α σ : Type) where
  /-- What the pull met. -/
  turn : τ
  /-- The state before the pull. -/
  before : σ
  /-- What the pull gave. -/
  result : Pull α
  /-- The state after the pull. -/
  after : σ

/-- The stage of a pull. -/
def stage (step : τ → σ → Pull α × σ) (t : τ) (s : σ) : Stage τ α σ :=
  ⟨t, s, (step t s).1, (step t s).2⟩

/-- The stages of the pulls that meet the given turns, and the state after the last one. -/
def course (step : τ → σ → Pull α × σ) : List τ → σ → List (Stage τ α σ) × σ
  | [], s => ([], s)
  | t :: turns, s =>
    let (stages, final) := course step turns (step t s).2
    (stage step t s :: stages, final)

/-- The items that the stages of a course have given. -/
def itemsOf (stages : List (Stage τ α σ)) : List α :=
  stages.filterMap fun g => g.result.item?

lemma itemsOf_snoc (stages : List (Stage τ α σ)) (step : τ → σ → Pull α × σ) (t : τ) (s : σ) :
    itemsOf (stages ++ [stage step t s]) = itemsOf stages ++ (step t s).1.item?.toList := by
  rw [itemsOf, List.filterMap_append]
  cases h : (step t s).1.item? <;> simp [itemsOf, stage, h]

lemma results_snoc (stages : List (Stage τ α σ)) (step : τ → σ → Pull α × σ) (t : τ) (s : σ) :
    (stages ++ [stage step t s]).map Stage.result = stages.map Stage.result ++ [(step t s).1] := by
  rw [List.map_append]
  rfl

/-- Whatever holds before the first pull and is kept by every pull holds after the last one. -/
theorem course_invariant {step : τ → σ → Pull α × σ} {turns : List τ} {s : σ}
    {P : List (Stage τ α σ) → σ → Prop} (hnil : P [] s)
    (hstep : ∀ t ∈ turns, ∀ stages s', P stages s' →
      P (stages ++ [stage step t s']) (step t s').2) :
    P (course step turns s).1 (course step turns s).2 := by
  -- the pulls made so far are kept in front of those to come
  have key : ∀ (rest : List τ) (seen : List (Stage τ α σ)) (s' : σ), (∀ t ∈ rest, t ∈ turns) →
      P seen s' → P (seen ++ (course step rest s').1) (course step rest s').2 := by
    intro rest
    induction rest with
    | nil =>
      intro seen s' _ hseen
      simpa [course] using hseen
    | cons t rest ih =>
      intro seen s' hmem hseen
      have hnext := hstep t (hmem t (by simp)) seen s' hseen
      have hrest := ih _ _ (fun u hu => hmem u (by simp [hu])) hnext
      simpa [course, List.append_assoc] using hrest
  simpa using key turns [] s (fun _ ht => ht) hnil

/-- Along a course in which the state no longer changes, every stage is the same pull. -/
lemma course_of_fixed {step : τ → σ → Pull α × σ} {s : σ} {p : Pull α}
    (hfix : ∀ t, step t s = (p, s)) (turns : List τ) :
    (∀ g ∈ (course step turns s).1, g.result = p ∧ g.after = s) ∧
      (course step turns s).2 = s := by
  induction turns with
  | nil => simp [course]
  | cons t turns ih =>
    simp only [course, stage, hfix t, List.mem_cons, forall_eq_or_imp, true_and]
    exact ih

end Pull

end Lexeme
