import ClusterBilling.Fault
import ClusterBilling.Files.Tree
import ClusterBilling.Gzip.Member

/-!
# Resources

A resource is a text in a file, plain or compressed beside the plain name; the compressed file
goes first. That neither is there is no fault.
-/

namespace ClusterBilling

/-- The text that some bytes encode, if they do. -/
def decodeText? (bytes : List UInt8) : Option String := String.fromUTF8? ⟨bytes.toArray⟩

def encodeText (s : String) : List UInt8 := s.toUTF8.toList

/-- **The text of a resource.** A compressed file that cannot be unpacked to a text is refused by
its content; a plain file that cannot be read as one is refused as a file. -/
def readResource (files : FileTree) (path : String) : Except Fault (Option String) :=
  let compressed := Path.compressed path
  if files.exists? compressed then
    match ((files.read? compressed).bind Gzip.unpack?).bind decodeText? with
    | some text => .ok (some text)
    | none => .error (.parse compressed "not a compressed text")
  else if files.exists? path then
    match (files.read? path).bind decodeText? with
    | some text => .ok (some text)
    | none => .error (.io ("cannot read " ++ path))
  else .ok none

end ClusterBilling
