import ClusterBilling.Files.Resource
import ClusterBilling.Json.Reader

/-!
# Documents

Recordings are kept as documents, given as texts or as resources. A document that does not say what
it should is refused: as such when it was given as a text, by the name of its file when it was
loaded. A document to load has to exist.
-/

namespace ClusterBilling.Document

variable {α : Type}

/-- What a text says. -/
def ofText (read : Json → Option α) (text : String) : Except Fault α :=
  match (Json.parse? text).bind read with
  | some value => .ok value
  | none => .error (.json "not the document expected")

/-- **What the document in a file says**, plain or compressed. -/
def load (read : Json → Option α) (files : FileTree) (path : String) : Except Fault α := do
  match ← readResource files path with
  | none => throw (.config ("snapshot " ++ path ++ " does not exist"))
  | some text =>
    match (Json.parse? text).bind read with
    | some value => return value
    | none => throw (.parse path "not the document expected")

end ClusterBilling.Document
