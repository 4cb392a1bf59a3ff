import ApiScreens.Domain.Probe
import ApiScreens.Output.File

/-! What becomes of the domains of a run. -/
namespace ApiScreens

inductive DomainError where
  | fetch (e : Server.FetchError)
  | write (e : WriteError)
  deriving DecidableEq, Repr

def DomainError.message : DomainError → String
  | fetch e => e.message
  | write e => e.message

structure DomainReport where
  domain : String
  modules : Nat := 0
  configPath : Option String := none
  error : Option DomainError := none
  probes : List Probe := []
  deriving DecidableEq, Repr

def DomainReport.isOk (r : DomainReport) : Bool := r.error.isNone

structure DomainSummary where
  reports : List DomainReport
  deriving DecidableEq, Repr

namespace DomainSummary

def succeeded (s : DomainSummary) : Nat := s.reports.countP (·.isOk)

def failed (s : DomainSummary) : Nat := s.reports.length - s.succeeded

def lines (s : DomainSummary) : List String :=
  ["\n📊 Domains: " ++ toString s.succeeded ++ " succeeded, " ++ toString s.failed ++ " failed"] ++
    (s.reports.filter (·.probes ≠ [])).map fun r =>
      "🧪 [" ++ r.domain ++ "] " ++ Probe.ratio r.probes ++ " probes succeeded"

end DomainSummary
end ApiScreens
