/-!
# Linguist — notices

Reading and writing tell what they come across without failing: an element that
is not known, a key that occurs twice. A notice has a level, a wording and named
values. A computation that may fail keeps the notices of what it did before.

* `Logged ε α` is a result together with the notices on the way to it.
-/

namespace Linguist

/-- How much a notice matters. -/
inductive Level where
  | debug
  | info
  | warn
  deriving Repr, DecidableEq

/-- The word for a level. -/
def Level.name : Level → String
  | .debug => "DEBUG"
  | .info => "INFO"
  | .warn => "WARN"

/-- One notice. -/
structure Notice where
  level : Level
  message : String
  fields : List (String × String)
  deriving Repr, DecidableEq

/-- A result and the notices made on the way to it. -/
structure Logged (ε α : Type) where
  notices : List Notice
  result : Except ε α

namespace Logged

variable {ε α β : Type}

/-- A value without a notice. -/
def ofValue (a : α) : Logged ε α :=
  ⟨[], .ok a⟩

/-- The second computation follows the first unless that failed. -/
def andThen (first : Logged ε α) (second : α → Logged ε β) : Logged ε β :=
  match first.result with
  | .error e => ⟨first.notices, .error e⟩
  | .ok a => ⟨first.notices ++ (second a).notices, (second a).result⟩

instance : Monad (Logged ε) where
  pure := ofValue
  bind := andThen

/-- A failure without a notice. -/
def fail (e : ε) : Logged ε α :=
  ⟨[], .error e⟩

/-- A result without a notice. -/
def ofExcept (result : Except ε α) : Logged ε α :=
  ⟨[], result⟩

instance : MonadLift (Except ε) (Logged ε) where
  monadLift := ofExcept

/-- One notice. -/
def note (notice : Notice) : Logged ε Unit :=
  ⟨[notice], .ok ()⟩

/-- Notices in a row. -/
def noteAll (notices : List Notice) : Logged ε Unit :=
  ⟨notices, .ok ()⟩

/-- The same computation with its failure put differently. -/
def mapError {δ : Type} (f : ε → δ) (x : Logged ε α) : Logged δ α :=
  ⟨x.notices, x.result.mapError f⟩

end Logged

end Linguist
