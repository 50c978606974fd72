/-
# Items and outcomes

A classifier ends with an outcome.  Attached to the stretch that was consumed, the outcome
becomes an item: a kind with the text or the length of the stretch.  A rejection is first turned
into a kind, by the conversion that the caller of the scan has chosen, so rejected input shows
up as an ordinary item.  An outcome may also bring its own way of making an item.
-/
import Lexeme.Scan

namespace Lexeme

variable {κ μ : Type}

/-- A stretch of the source, by its length or by its text. -/
inductive Stretch where
  /-- The number of code points. -/
  | length (n : Int)
  /-- The text itself. -/
  | text (t : Text)
deriving DecidableEq, Repr

/-- What a scan produces. -/
inductive Item (κ : Type) where
  /-- A kind with the length that it covers. -/
  | sized (kind : κ) (length : Int)
  /-- A kind with the text that it covers. -/
  | token (kind : κ) (text : Text)
  /-- A pair that an outcome has made itself. -/
  | custom (kind : κ) (stretch : Stretch)
deriving DecidableEq, Repr

namespace Item

/-- The item of a kind and a stretch. -/
def ofKind (kind : κ) : Stretch → Item κ
  | .length n => sized kind n
  | .text t => token kind t

/-- The same item with another kind. -/
def map (f : κ → μ) : Item κ → Item μ
  | sized kind n => sized (f kind) n
  | token kind t => token (f kind) t
  | custom kind stretch => custom (f kind) stretch

/-- The length that an item covers, if it names one. -/
def length : Item κ → Except Fault Int
  | sized _ n => .ok n
  | token _ _ | custom _ _ => .error .noLength

/-- An item as a pair of a kind and a length. -/
def pair : Item κ → Except Fault (κ × Int)
  | sized kind n | custom kind (.length n) => .ok (kind, n)
  | token _ _ | custom _ (.text _) => .error .unsuitableArgument

end Item

/-- A way of making an item, or nothing, from the stretch that was consumed. -/
abbrev Attachment (κ : Type) := Stretch → Except Fault (Option (Item κ))

/-- The same way of making an item, with another kind. -/
def Attachment.map (f : κ → μ) (make : Attachment κ) : Attachment μ := fun stretch =>
  (make stretch).map (Option.map (Item.map f))

/-- What a classifier ends with. -/
inductive Outcome (κ : Type) where
  /-- A kind. -/
  | kind (k : κ)
  /-- Something that makes its own item. -/
  | attaching (attach : Attachment κ)
  /-- A rejection.  It is converted, even where it could make an item on its own. -/
  | rejected (r : Rejection) (own : Option (Attachment κ) := none)

/-- A classifier: it moves the cursor past one stretch of input and says what it is. -/
abbrev Classifier (κ : Type) := Scan (Outcome κ)

/-- How rejections become kinds.  A conversion looks at the rejection and is assumed not to touch
the cursor. -/
abbrev Conversion (κ : Type) := Rejection → Except Fault κ

/-- What a caller may name as the way to make kinds of rejections. -/
inductive ErrorKind (κ : Type) where
  /-- A family of kinds that knows how to represent a rejection. -/
  | family (represent : Conversion κ)
  /-- A function. -/
  | function (convert : Conversion κ)
  /-- A family of kinds that does not know it. -/
  | unsuitable (name : Text)

namespace ErrorKind

/-- Whether it is a family of kinds that knows how to represent a rejection. -/
def isFamily : ErrorKind κ → Bool
  | family _ => true
  | function _ | unsuitable _ => false

/-- The conversion of an error kind. -/
def resolve : ErrorKind κ → Except Fault (Conversion κ)
  | family convert | function convert => .ok convert
  | unsuitable name => .error (.unsuitableErrorKind name)

end ErrorKind

namespace Outcome

/-- The same outcome with another kind. -/
def map (f : κ → μ) : Outcome κ → Outcome μ
  | kind k => kind (f k)
  | attaching make => attaching (Attachment.map f make)
  | rejected r own => rejected r (own.map (Attachment.map f))

/-- The item of an outcome and the stretch that was consumed. -/
def attach (convert : Conversion κ) (stretch : Stretch) :
    Outcome κ → Except Fault (Option (Item κ))
  | kind k => .ok (some (.ofKind k stretch))
  | attaching make => make stretch
  | rejected r _ => (convert r).map fun k => some (.ofKind k stretch)

/-- Whether an outcome makes its own item. -/
def isAttaching : Outcome κ → Bool
  | attaching _ => true
  | kind _ | rejected _ _ => false

end Outcome

end Lexeme
