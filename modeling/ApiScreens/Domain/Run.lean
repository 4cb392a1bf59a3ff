import ApiScreens.Domain.Report
import ApiScreens.Heuristics
import ApiScreens.Json.Printer
import ApiScreens.Module.Build
import ApiScreens.Module.Json
import ApiScreens.Output.Write

/-! Deriving the configuration of each domain from its API description and writing it into a directory. One
session serves all domains of a run; a domain that fails leaves the others alone. -/
namespace ApiScreens
open Server (Access)

structure DomainOptions where
  domain : Option String := none
  directory : String := "configs"
  probe : Bool := false
  heuristics : Heuristics := {}

def Workspace.writeDomain (w : Workspace) (directory domain : String) (s : Solution) :
    Workspace × Except WriteError WriteOutcome :=
  w.write ⟨Path.append directory (domain ++ ".json"), s.toJson.pretty, {}⟩

namespace DomainOptions

def writeDocument (o : DomainOptions) (w : Workspace) (domain : String) (doc : Document) :
    Workspace × DomainReport :=
  let s := Solution.ofDocument doc o.heuristics domain
  let r : DomainReport := { domain, modules := s.modules.size }
  match w.writeDomain o.directory domain s with
  | (w, .error e) => (w, { r with error := some (.write e) })
  | (w, .ok outcome) =>
      (w.print ("✅ [" ++ domain ++ "] " ++ toString r.modules ++ " modules → " ++
        outcome.writtenPath), { r with configPath := some outcome.writtenPath })

def probed (o : DomainOptions) (w : Workspace) (a : Access) (base : String) (doc : Document)
    (r : DomainReport) : Workspace × Access × DomainReport :=
  if o.probe && r.isOk then
    let (a, probes) := Probe.entities base a doc.entities
    (w.printAll (probes.flatMap (Probe.lines base)), a, { r with probes := probes.flatten })
  else (w, a, r)

def withError (w : Workspace) (r : DomainReport) : Workspace :=
  match r.error with
  | none => w
  | some e => w.print ("❌ [" ++ r.domain ++ "] " ++ e.message)

def runDomain (o : DomainOptions) (base : String) (w : Workspace) (a : Access)
    (domain url : String) : Workspace × Access × DomainReport :=
  let w := w.print ("\n📡 [" ++ domain ++ "] fetching " ++ url)
  match a.document url with
  | (a, .error e) =>
      let r : DomainReport := { domain, error := some (.fetch e) }
      (withError w r, a, r)
  | (a, .ok doc) =>
      let (w, r) := o.writeDocument w domain doc
      o.probed (withError w r) a base doc r

def runAll (o : DomainOptions) (base : String) (w : Workspace) (a : Access) :
    List (String × String) → Workspace × Access × List DomainReport
  | [] => (w, a, [])
  | (domain, url) :: rest =>
      let (w, a, r) := o.runDomain base w a domain url
      let (w, a, more) := o.runAll base w a rest
      (w, a, r :: more)

def run (o : DomainOptions) (env : Environment) (w : Workspace) (a : Access) :
    Workspace × Access × Except SettingsError DomainSummary :=
  match env.select o.domain with
  | .error e => (w, a, .error e)
  | .ok domains =>
      let (w, a, reports) := o.runAll env.baseUrl w a domains
      (w, a, .ok ⟨reports⟩)

end DomainOptions
end ApiScreens
