import PodMesh.Binary64.Fixed
import PodMesh.Binary64.Reading
import PodMesh.Text.Blank
import PodMesh.Text.Line

/-!
# Transfer rates

A rate measured between two pods, how it is shown, and how it is read from the report
of a measurement. The report is lines of comma-separated fields; its last line that is
not blank sums it up, and that line's ninth field holds the bits per second.
-/

namespace PodMesh

/-- A transfer rate in bits per second. -/
structure Rate where
  bits : Binary64
  deriving DecidableEq, Repr

namespace Rate

/-- Why a report gives no rate. -/
inductive ReportFault where
  | missing (line : String)
  | invalid (field : String) (fault : Binary64.ReadingFault)
  deriving DecidableEq, Repr

def ReportFault.message : ReportFault → String
  | .missing line => "missing bandwidth: " ++ line
  | .invalid field fault => "invalid bandwidth " ++ field ++ ": " ++ fault.message

/-- The line that sums a report up, or an empty one where every line is blank. -/
def lastRecord (report : List Char) : List Char :=
  ((Text.lines report).reverse.find? fun line => !line.all Text.isBlank).getD []

/-- Reads the rate in one line. -/
def ofRecord (line : List Char) : Except ReportFault Rate :=
  match (Text.splitOn ',' (Text.trim line))[8]? with
  | none => .error (.missing (String.ofList line))
  | some field =>
    match Binary64.read field with
    | .ok bits => .ok ⟨bits⟩
    | .error fault => .error (.invalid (String.ofList field) fault)

/-- Reads the rate in a report. -/
def ofReport (report : List Char) : Except ReportFault Rate :=
  ofRecord (lastRecord report)

/-- Two decimals of the largest unit that does not exceed the amount. What is no number counts
with the largest unit. -/
def shown (amount : Binary64) (unit : String) : String :=
  let scale (divisor : Nat) := Binary64.div amount (Binary64.ofNat divisor)
  let (scaled, multiple) :=
    if amount.lt 1000 then (amount, "")
    else if amount.lt 1000000 then (scale 1000, "K")
    else if amount.lt 1000000000 then (scale 1000000, "M")
    else (scale 1000000000, "G")
  String.ofList (Binary64.fixed 2 scaled) ++ " " ++ multiple ++ unit ++ "/sec"

/-- The rate in bits per second. -/
def inBits (rate : Rate) : String := shown rate.bits "Bits"

/-- The rate in bytes per second. -/
def inBytes (rate : Rate) : String := shown (rate.bits.div (Binary64.ofNat 8)) "Bytes"

end Rate

end PodMesh
