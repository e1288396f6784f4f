import LineLint.Json.Printer
import LineLint.Report

/- The report as one value of a data format. -/
namespace LineLint

def Violation.toJson (v : Violation) : Json :=
  .object
    [("rule_id", .text v.ruleId), ("severity", .text v.severity.name), ("line", .ofNat v.line),
     ("column", .ofOption .ofNat v.column), ("message", .text v.message), ("hint", .text v.hint)]

def FileReport.toJson (least : Severity) (report : FileReport) : Json :=
  .object
    [("path", .text report.path), ("lines", .ofNat report.result.lineCount),
     ("violations", .array ((report.result.filtered least).map Violation.toJson))]

def summaryJson (shown : List (String × Violation)) : Json :=
  .object
    [("total", .ofNat shown.length), ("error", .ofNat (countOf .error shown)),
     ("warning", .ofNat (countOf .warning shown))]

def reportJson (reports : List FileReport) (least : Severity) : Json :=
  .object
    [("version", .text version), ("files", .array (reports.map (FileReport.toJson least))),
     ("summary", summaryJson (shownViolations reports least))]

def reportRecord (reports : List FileReport) (least : Severity) : String :=
  (reportJson reports least).pretty

end LineLint
