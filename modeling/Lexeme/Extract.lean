/-
# Extraction

One extraction runs a classifier once and makes one item of what it consumed.

* At the end of input there is nothing to extract.
* A rejection that the classifier raises counts as its outcome.
* A classifier that consumes nothing breaks the contract, since its caller would loop forever.
* Before a rejection is converted it is told to the trace.
-/
import Lexeme.Item

namespace Lexeme

variable {κ : Type}

namespace Classifier

/-- The classifier with raised rejections as outcomes. -/
def settled (classify : Classifier κ) : Classifier κ := fun s =>
  match classify s with
  | .ok outcome s' => .ok outcome s'
  | .error (.rejection r) s' => .ok (.rejected r) s'
  | .error f s' => .error f s'

end Classifier

namespace Outcome

/-- The event that tells of an outcome, if there is one to tell. -/
def event (start : Cursor) (consumed : Consumed) : Outcome κ → Except Fault (Option Event)
  | kind _ | attaching _ => .ok none
  | rejected r _ =>
    match r.condition with
    | none => .error .noCondition
    | some condition => .ok (some (.recovered condition start.pos consumed.chars))

end Outcome

/-- Tell of an outcome. -/
def report (start : Cursor) (consumed : Consumed) (outcome : Outcome κ) : Scan Unit := do
  match ← Scan.ofExcept (outcome.event start consumed) with
  | none => pure ()
  | some event => Scan.tell event

/-- The stretch from `start` to the cursor: its text if `withText`, else its length. -/
def stretchSince (start : Cursor) (consumed : Consumed) (withText : Bool) : Scan Stretch := do
  if withText then
    let text ← Scan.textSince start
    pure (.text text)
  else pure (.length consumed.chars)

/-- Check that an outcome was reached by moving on from `start`, and make its item. -/
def finish (convert : Conversion κ) (withText : Bool) (start : Cursor) (outcome : Outcome κ) :
    Scan (Option (Item κ)) := do
  let consumed ← Scan.distanceSince start
  if consumed.any then
    report start consumed outcome
    let stretch ← stretchSince start consumed withText
    Scan.ofExcept (outcome.attach convert stretch)
  else throw (start.contract (.noProgress · start.preview))

/-- One item, with the cursor moved past it, or nothing at the end of input. -/
def extract (classify : Classifier κ) (convert : Conversion κ) (withText : Bool := false) :
    Scan (Option (Item κ)) := do
  let start ← Scan.snapshot
  if start.atEnd then pure none
  else
    let outcome ← classify.settled
    finish convert withText start outcome

/-! ## The course of an extraction -/

/-- At the end of input nothing is extracted, and nothing is touched. -/
theorem extract_of_atEnd (classify : Classifier κ) (convert : Conversion κ) (withText : Bool)
    {s : Session} (h : s.cursor.atEnd = true) :
    extract classify convert withText s = .ok none s := by
  simp only [extract, Scan.bind_apply, Scan.snapshot, Scan.look, id_eq, h, if_true]
  rfl

/-- Before the end of input the classifier decides, and its outcome is checked. -/
theorem extract_of_not_atEnd (classify : Classifier κ) (convert : Conversion κ) (withText : Bool)
    {s : Session} (h : s.cursor.atEnd = false) :
    extract classify convert withText s =
      match classify.settled s with
      | .ok outcome s' => finish convert withText s.cursor outcome s'
      | .error f s' => .error f s' := by
  simp only [extract, Scan.bind_apply, Scan.snapshot, Scan.look, id_eq, h, Bool.false_eq_true,
    if_false]
  cases classify.settled s <;> rfl

/-- A classifier that consumed nothing breaks the contract. -/
theorem finish_of_not_any (convert : Conversion κ) (withText : Bool) (outcome : Outcome κ)
    {start : Cursor} {s : Session} {consumed : Consumed}
    (h : s.cursor.distanceSince start = .ok consumed) (hany : consumed.any = false) :
    finish convert withText start outcome s =
      .error (.contract (.diagnostic (.noProgress start.here start.preview))) s := by
  simp only [finish, Scan.bind_apply, Scan.distanceSince, h, Scan.ofExcept, hany,
    Bool.false_eq_true, if_false, Cursor.contract_eq]
  rfl

/-- The next item by its length, with the cursor left where it stands. -/
def wrap (classify : Classifier κ) (errorKind : ErrorKind κ) : Scan (Option (Item κ)) := do
  let convert ← Scan.ofExcept errorKind.resolve
  Scan.onSnapshot (extract classify convert)

/-- The next item by its length, and then the move past that length. -/
def wrapConsume (classify : Classifier κ) (errorKind : ErrorKind κ) :
    Scan (Option (Item κ × Consumed)) := do
  match ← wrap classify errorKind with
  | none => pure none
  | some item =>
    let length ← Scan.ofExcept item.length
    let consumed ← Scan.consume length
    pure (some (item, consumed))

end Lexeme
