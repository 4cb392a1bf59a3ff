import ApiScreens.Domain.Run

/-! Deriving the configuration of one domain from a description on disk. A server is needed only for
probes; without one there are none. -/
namespace ApiScreens
open Files (Tree FileError)
open Server (Access)

inductive DescriptionError where
  | unreadable (path : String) (cause : FileError)
  | malformed (e : DocumentError)
  | unnamed
  deriving DecidableEq, Repr

def DescriptionError.message : DescriptionError → String
  | unreadable path cause => "Failed to read API document: " ++ path ++ ": " ++ cause.message
  | malformed e => e.message
  | unnamed => "spec file has no usable name, pass a DOMAIN"

def Document.load (t : Tree) (path : String) : Except DescriptionError Document :=
  match t.readText path with
  | .error e => .error (.unreadable path e)
  | .ok text => (Document.parse text path).mapError .malformed

namespace DomainOptions

def offlineDomain (o : DomainOptions) (path : String) : Except DescriptionError String :=
  match o.domain.or (Path.stem path) with
  | some name => .ok (Text.lower name)
  | none => .error .unnamed

def offlineInput (o : DomainOptions) (t : Tree) (path : String) :
    Except DescriptionError (String × Document) := do
  let doc ← Document.load t path
  let domain ← o.offlineDomain path
  .ok (domain, doc)

def runOffline (o : DomainOptions) (path : String) (w : Workspace) (server : Option Access) :
    Workspace × Option Access × Except DescriptionError DomainSummary :=
  match o.offlineInput w.tree path with
  | .error e => (w, server, .error e)
  | .ok (domain, doc) =>
      let (w, r) := o.writeDocument w domain doc
      match server with
      | none => (w, none, .ok ⟨[r]⟩)
      | some a =>
          let (w, a, r) := o.probed w a a.base doc r
          (w, some a, .ok ⟨[r]⟩)

end DomainOptions
end ApiScreens
