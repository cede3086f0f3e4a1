/-!
# General categories

Unicode's general categories, by their two-letter names.
-/

namespace PodMesh.Text

/-- A general category. -/
inductive Category where
  /-- Uppercase letters. -/
  | lu
  /-- Lowercase letters. -/
  | ll
  /-- Titlecase letters. -/
  | lt
  /-- Modifier letters. -/
  | lm
  /-- Other letters. -/
  | lo
  /-- Marks without width. -/
  | mn
  /-- Marks with width. -/
  | mc
  /-- Enclosing marks. -/
  | me
  /-- Decimal digits. -/
  | nd
  /-- Letters that are numbers. -/
  | nl
  /-- Other numbers. -/
  | no
  /-- Connectors. -/
  | pc
  /-- Dashes. -/
  | pd
  /-- Opening brackets. -/
  | ps
  /-- Closing brackets. -/
  | pe
  /-- Initial quotes. -/
  | pi
  /-- Final quotes. -/
  | pf
  /-- Other punctuation. -/
  | po
  /-- Mathematical symbols. -/
  | sm
  /-- Currency signs. -/
  | sc
  /-- Modifier symbols. -/
  | sk
  /-- Other symbols. -/
  | so
  /-- Spaces. -/
  | zs
  /-- The line separator. -/
  | zl
  /-- The paragraph separator. -/
  | zp
  /-- Control characters. -/
  | cc
  /-- Format characters. -/
  | cf
  /-- Surrogates. -/
  | cs
  /-- Private use. -/
  | co
  /-- Unassigned. -/
  | cn
  deriving DecidableEq, Repr

namespace Category

def all : List Category :=
  [.lu, .ll, .lt, .lm, .lo, .mn, .mc, .me, .nd, .nl, .no, .pc, .pd, .ps, .pe,
    .pi, .pf, .po, .sm, .sc, .sk, .so, .zs, .zl, .zp, .cc, .cf, .cs, .co, .cn]

/-- The two-letter name in lower case. -/
def name : Category → String
  | .lu => "lu"
  | .ll => "ll"
  | .lt => "lt"
  | .lm => "lm"
  | .lo => "lo"
  | .mn => "mn"
  | .mc => "mc"
  | .me => "me"
  | .nd => "nd"
  | .nl => "nl"
  | .no => "no"
  | .pc => "pc"
  | .pd => "pd"
  | .ps => "ps"
  | .pe => "pe"
  | .pi => "pi"
  | .pf => "pf"
  | .po => "po"
  | .sm => "sm"
  | .sc => "sc"
  | .sk => "sk"
  | .so => "so"
  | .zs => "zs"
  | .zl => "zl"
  | .zp => "zp"
  | .cc => "cc"
  | .cf => "cf"
  | .cs => "cs"
  | .co => "co"
  | .cn => "cn"

end Category

end PodMesh.Text
