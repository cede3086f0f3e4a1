import PodMesh.Table

/-!
# Tables as text

A table is shown as a grid of marks under a line of destinations. Fields are separated
by tabs, and every mark and the corner bring a tab of their own, so that keys of some
length keep the columns apart.
-/

namespace PodMesh.Table

/-- One line of a grid: its parts with tabs between them. -/
def gridLine (indent : String) (parts : List String) : String :=
  indent ++ "\t".intercalate parts

/-- A grid of the table's keys with a mark for each row and column. -/
def grid (t : Table) (indent : String) (mark : Nat → Nat → String) : String :=
  let header := gridLine indent ("-\t" :: t.targets)
  let rows := t.sources.zipIdx.map fun (source, i) =>
    gridLine indent (source :: (List.range t.targets.length).map fun j => mark i j ++ "\t")
  "\n".intercalate (header :: rows)

/-- The mark of a value. -/
def valueMark : Option Bool → String
  | some true => "."
  | some false => "X"
  | none => "?"

/-- The mark of a rate. -/
def rateMark : Option Rate → String
  | some rate => rate.inBytes
  | none => "X"

/-- The grid of values. -/
def pretty (t : Table) (indent : String) : String :=
  t.grid indent fun i j => valueMark (t.at? i j)

/-- The grid of rates. -/
def prettyRates (t : Table) (indent : String) : String :=
  t.grid indent fun i j => rateMark (t.rateAt? i j)

end PodMesh.Table
