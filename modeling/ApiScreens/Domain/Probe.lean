import ApiScreens.Entity
import ApiScreens.Server.Access

/-! Asking a server for every list that an API description offers without a path to fill in. Whatever the
answers are, each of them is asked for once. -/
namespace ApiScreens
open Server (Access)

structure Probe where
  entity : String
  path : String
  ok : Bool
  deriving DecidableEq, Repr

namespace Probe

def url (base path : String) : String := Text.withoutTrailing '/' base ++ path

def targets (base entity : String) (a : Access) : List Endpoint → Access × List Probe
  | [] => (a, [])
  | e :: rest =>
      let (a, ok) := a.probe (url base e.path)
      let (a, more) := targets base entity a rest
      (a, ⟨entity, e.path, ok⟩ :: more)

def entities (base : String) (a : Access) : List Entity → Access × List (List Probe)
  | [] => (a, [])
  | n :: rest =>
      let (a, probes) := targets base n.name a n.probeTargets
      let (a, more) := entities base a rest
      (a, probes :: more)

def ratio (ps : List Probe) : String := toString (ps.countP (·.ok)) ++ "/" ++ toString ps.length

def lines (base : String) : List Probe → List String
  | [] => []
  | p :: ps =>
      ((p :: ps).map fun q => "🧪 GET " ++ url base q.path) ++
        ["📊 " ++ p.entity ++ ": " ++ ratio (p :: ps) ++ " endpoints responded"]

end Probe
end ApiScreens
