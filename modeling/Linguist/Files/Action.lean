import Linguist.Files.Tree
import Linguist.Notice

/-!
# Linguist — actions on files

An action reads and changes files, makes notices and may fail. What it changed
before it failed stays changed, and what it noticed stays noticed.

* `Action ε α` is an action that fails with an `ε` or gives an `α`.
-/

namespace Linguist

/-- What an action makes of a tree of files. -/
def Action (ε α : Type) : Type :=
  FileTree → FileTree × Logged ε α

namespace Action

variable {ε α β : Type}

/-- The action that does nothing. -/
def ofValue (a : α) : Action ε α := fun tree =>
  (tree, .ofValue a)

/-- The second action follows the first unless that failed. -/
def andThen (first : Action ε α) (second : α → Action ε β) : Action ε β := fun tree =>
  match first tree with
  | (tree, ⟨notices, .error e⟩) => (tree, ⟨notices, .error e⟩)
  | (tree, ⟨notices, .ok a⟩) =>
    match second a tree with
    | (tree, ⟨more, result⟩) => (tree, ⟨notices ++ more, result⟩)

instance : Monad (Action ε) where
  pure := ofValue
  bind := andThen

/-- The files as they are. -/
def files : Action ε FileTree := fun tree =>
  (tree, .ofValue tree)

/-- A result that changes no file. -/
def ofLogged (logged : Logged ε α) : Action ε α := fun tree =>
  (tree, logged)

instance : MonadLift (Logged ε) (Action ε) where
  monadLift := ofLogged

instance : MonadLift (Except ε) (Action ε) where
  monadLift result := ofLogged (.ofExcept result)

/-- What looks at the files and leaves them alone. -/
def reading (look : FileTree → Logged ε α) : Action ε α := fun tree =>
  (tree, look tree)

/-- A failure. -/
def fail (e : ε) : Action ε α :=
  ofLogged (.fail e)

/-- One notice. -/
def note (notice : Notice) : Action ε Unit :=
  ofLogged (.note notice)

/-- The same action with its failure put differently. -/
def mapError {δ : Type} (f : ε → δ) (action : Action ε α) : Action δ α := fun tree =>
  match action tree with
  | (tree, logged) => (tree, logged.mapError f)

/-- Makes a directory and those around it. -/
def makeDirs (path : String) : Action IoFault Unit := fun tree =>
  match tree.makeDirs path with
  | (tree, result) => (tree, .ofExcept result)

/-- Writes a file; nothing changes if that fails. -/
def create (path : String) (content : Bytes) : Action IoFault Unit := fun tree =>
  match tree.create path content with
  | .ok tree => (tree, .ofValue ())
  | .error fault => (tree, .fail fault)

end Action

end Linguist
