import StatusWatch.Json.Printer
import StatusWatch.Report.Table
import StatusWatch.Yaml.Printer

/-!
The texts of a report, one for each format.
-/

namespace StatusWatch.Report

def toJsonText (r : Report) : String :=
  (Json.arr (r.rows.map r.rowObject)).pretty

def toYamlText (r : Report) : String :=
  Yaml.ofRecords (r.rows.map r.rowFields)

/-- Only tables have a line of headers. -/
def render (r : Report) (format : Format) (headers : Bool) : String :=
  match format with
  | .table => r.toTable headers
  | .json => r.toJsonText
  | .yaml => r.toYamlText

end StatusWatch.Report
