import LineLint.Proofs.Registry.History
import LineLint.Proofs.Scan.Hits

/- To scan with the rules that a configuration allows is to scan with all of them and to keep the
   violations of those that it allows. -/
namespace LineLint

def ScanResult.keeping (keep : Violation → Bool) (result : ScanResult) : ScanResult :=
  { result with violations := result.violations.filter keep }

end LineLint
