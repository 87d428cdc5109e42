/-! # Reading files

Work that needs files asks for them by path. `Reading.answer` answers from a given set of
files, and the program answers from the disk.
-/

namespace SnapshotRules

inductive FileEntry where
  | missing
  | directory
  | file (bytes : ByteArray)

inductive FileFault where
  | missing
  | isDirectory
  | notText
  deriving DecidableEq

def FileFault.message : FileFault → String
  | .missing => "No such file or directory (os error 2)"
  | .isDirectory => "Is a directory (os error 21)"
  | .notText => "stream did not contain valid UTF-8"

def FileEntry.text : FileEntry → Except FileFault String
  | .missing => .error .missing
  | .directory => .error .isDirectory
  | .file bytes =>
    match String.fromUTF8? bytes with
    | some text => .ok text
    | none => .error .notText

/-- A result that may depend on files. -/
inductive Reading (α : Type) where
  | done (result : α)
  | read (path : String) (next : FileEntry → Reading α)

namespace Reading

variable {α β : Type}

def bind : Reading α → (α → Reading β) → Reading β
  | .done a, f => f a
  | .read path next, f => .read path fun entry => (next entry).bind f

instance : Monad Reading where
  pure := .done
  bind := bind

def entry (path : String) : Reading FileEntry := .read path .done

def answer (files : String → FileEntry) : Reading α → α
  | .done a => a
  | .read path next => (next (files path)).answer files

@[simp] theorem answer_pure (files : String → FileEntry) (a : α) :
    (pure a : Reading α).answer files = a := rfl

@[simp] theorem answer_entry (files : String → FileEntry) (path : String) :
    (entry path).answer files = files path := rfl

@[simp] theorem answer_bind (files : String → FileEntry) (r : Reading α) (f : α → Reading β) :
    (r >>= f).answer files = (f (r.answer files)).answer files := by
  show (r.bind f).answer files = _
  induction r with
  | done a => rfl
  | read path next ih => exact ih (files path)

end Reading

end SnapshotRules
