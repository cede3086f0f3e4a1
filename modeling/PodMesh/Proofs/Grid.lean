import PodMesh.Proofs.Chart
import PodMesh.Proofs.Numerals
import PodMesh.Proofs.Text.Separated
import PodMesh.Table.Grid

/-!
# What a grid shows

A grid shows a picture of its table (`grid_eq`): the destinations, and each source with the marks of
its row. Taken as fields between tabs, the corner and every mark have an empty field behind them.
So a grid whose keys have no tabs and no newlines can be read: the lines are told apart under any
indent, each line falls into its fields, and the fields are those of one picture
(`Picture.text_eq_iff`). Tables that look alike then have the same keys and the same marks
(`picture_eq_iff`). The mark of a value is that of no other (`valueMark_inj`), and the mark of a
rate is what is printed of it, which is never that of a missing one (`rateMark_inj`).
-/

namespace PodMesh.Table

/-! ## Pictures -/

/-- A field has neither the tab that ends a field nor the newline that ends a line. -/
def Plain (field : String) : Prop := '\t' ∉ field.toList ∧ '\n' ∉ field.toList

instance (field : String) : Decidable (Plain field) :=
  inferInstanceAs (Decidable (_ ∧ _))

theorem plain_of_printable {field : String} (h : Text.Printable field.toList) : Plain field :=
  ⟨fun hmem => absurd (h _ hmem) (by decide), fun hmem => absurd (h _ hmem) (by decide)⟩

/-- What a grid shows: the destinations, and each source with its marks. -/
structure Picture where
  targets : List String
  rows : List (String × List String)

namespace Picture

variable {p q : Picture}

/-- The fields of each line. -/
def lines (p : Picture) : List (List String) :=
  ("-" :: "" :: p.targets) :: p.rows.map fun (source, marks) =>
    source :: marks.flatMap fun mark => [mark, ""]

/-- The picture as a grid. -/
def text (indent : String) (p : Picture) : String :=
  "\n".intercalate (p.lines.map (gridLine indent))

theorem flatMap_mark_inj {marks marks' : List String}
    (h : (marks.flatMap fun mark => [mark, ""]) = marks'.flatMap fun mark => [mark, ""]) :
    marks = marks' := by
  induction marks generalizing marks' with
  | nil => cases marks' with
    | nil => rfl
    | cons => cases h
  | cons mark marks ih => cases marks' with
    | nil => cases h
    | cons mark' marks' =>
      injection h with hmark h
      injection h with _ h
      rw [hmark, ih h]

/-- A picture is known by the fields of its lines. -/
theorem eq_of_lines (h : p.lines = q.lines) : p = q := by
  obtain ⟨targets, rows⟩ := p
  obtain ⟨targets', rows'⟩ := q
  injection h with hheader hrows
  injection hheader with _ hheader
  injection hheader with _ htargets
  have hrow : Function.Injective fun row : String × List String =>
      row.1 :: row.2.flatMap fun mark => [mark, ""] := by
    rintro ⟨source, marks⟩ ⟨source', marks'⟩ h
    injection h with hsource hmarks
    exact Prod.ext hsource (flatMap_mark_inj hmarks)
  exact congrArg₂ Picture.mk htargets (List.map_injective_iff.mpr hrow hrows)

/-! ## Reading a picture -/

/-- All that a picture shows is plain. -/
def Legible (p : Picture) : Prop := ∀ line ∈ p.lines, ∀ field ∈ line, Plain field

/-- The characters of a line behind the indent. -/
def written (fields : List String) : List Char := ['\t'].intercalate (fields.map String.toList)

theorem toList_gridLine (indent : String) (fields : List String) :
    (gridLine indent fields).toList = indent.toList ++ written fields := by
  rw [gridLine, String.toList_append, String.toList_intercalate]
  rfl

/-- A line falls into its fields. -/
theorem splitOn_written {fields : List String} (hne : fields ≠ [])
    (h : ∀ field ∈ fields, Plain field) :
    Text.splitOn '\t' (written fields) = fields.map String.toList := by
  rw [written, Text.splitOn_eq, List.splitOn_intercalate]
  · intro part hpart
    obtain ⟨field, hfield, rfl⟩ := List.mem_map.mp hpart
    exact (h field hfield).1
  · exact mt List.map_eq_nil_iff.mp hne

/-- The indent stands before the first line and between any two. -/
theorem intercalate_map_append (indent first : List Char) (rest : List (List Char)) :
    ['\n'].intercalate ((first :: rest).map (indent ++ ·)) =
      indent ++ ('\n' :: indent).intercalate (first :: rest) := by
  induction rest generalizing first with
  | nil => simp
  | cons second rest ih =>
    rw [List.map_cons, List.map_cons, List.intercalate_cons_cons, ← List.map_cons, ih,
      List.intercalate_cons_cons]
    simp

theorem toList_text (indent : String) (p : Picture) : (p.text indent).toList =
    indent.toList ++ ('\n' :: indent.toList).intercalate (p.lines.map written) := by
  have hlines : (p.lines.map (gridLine indent)).map String.toList =
      (p.lines.map written).map (indent.toList ++ ·) := by
    rw [List.map_map, List.map_map]
    exact List.map_congr_left fun fields _ => toList_gridLine indent fields
  rw [text, String.toList_intercalate, hlines]
  exact intercalate_map_append _ _ _

theorem Legible.newline_not_mem (h : p.Legible) : ∀ line ∈ p.lines.map written, '\n' ∉ line := by
  intro line hline hmem
  obtain ⟨fields, hfields, rfl⟩ := List.mem_map.mp hline
  rcases Text.mem_intercalate hmem with heq | ⟨part, hpart, hmem⟩
  · exact absurd heq (by decide)
  · obtain ⟨field, hfield, rfl⟩ := List.mem_map.mp hpart
    exact (h fields hfields field hfield).2 hmem

theorem Legible.map_splitOn (h : p.Legible) :
    (p.lines.map written).map (Text.splitOn '\t') = p.lines.map (List.map String.toList) := by
  rw [List.map_map]
  refine List.map_congr_left fun fields hfields => splitOn_written ?_ (h fields hfields)
  -- every line has a first field
  rcases List.mem_cons.mp hfields with rfl | hfields
  · exact List.cons_ne_nil _ _
  · obtain ⟨row, _, rfl⟩ := List.mem_map.mp hfields
    exact List.cons_ne_nil _ _

/-- **A legible picture is known by its text, whatever the indent.** -/
theorem text_eq_iff (indent : String) (hp : p.Legible) (hq : q.Legible) :
    p.text indent = q.text indent ↔ p = q := by
  constructor
  · intro h
    have hlist := congrArg String.toList h
    rw [toList_text, toList_text, List.append_cancel_left_eq] at hlist
    obtain ⟨hheader, hrows⟩ := (Text.intercalate_inj indent.toList
      hp.newline_not_mem hq.newline_not_mem).mp hlist
    have hlines : p.lines.map written = q.lines.map written := congrArg₂ List.cons hheader hrows
    -- lines that are written alike have the same fields, as no field has a tab
    have hfields : p.lines.map (List.map String.toList) = q.lines.map (List.map String.toList) := by
      rw [← hp.map_splitOn, ← hq.map_splitOn, hlines]
    have hinj : Function.Injective (List.map (List.map String.toList)) :=
      List.map_injective_iff.mpr (List.map_injective_iff.mpr fun _ _ => String.toList_inj.mp)
    exact eq_of_lines (hinj hfields)
  · rintro rfl
    rfl

end Picture

/-! ## The picture of a table -/

variable {a b t : Table} {mark mark' : String → String → String}

/-- The keys of a table with a mark for each two of them. -/
def picture (t : Table) (mark : String → String → String) : Picture where
  targets := t.targets
  rows := t.sources.map fun source => (source, t.targets.map (mark source))

/-- All keys are plain. -/
def Legible (t : Table) : Prop := ∀ key ∈ t.sources ++ t.targets, Plain key

instance (t : Table) : Decidable t.Legible :=
  inferInstanceAs (Decidable (∀ key ∈ t.sources ++ t.targets, Plain key))

theorem Legible.picture (h : t.Legible) (hmark : ∀ p q, Plain (mark p q)) :
    (t.picture mark).Legible := by
  have hempty : Plain "" := by decide
  have hrow : ∀ p ∈ t.sources,
      ∀ field ∈ p :: (t.targets.map (mark p)).flatMap fun mark => [mark, ""], Plain field := by
    intro p hp
    refine List.forall_mem_cons.mpr ⟨h p (List.mem_append_left _ hp), fun field hfield => ?_⟩
    obtain ⟨shown, hshown, hfield⟩ := List.mem_flatMap.mp hfield
    obtain ⟨q, _, rfl⟩ := List.mem_map.mp hshown
    have hpair : ∀ field ∈ [mark p q, ""], Plain field :=
      List.forall_mem_cons.mpr ⟨hmark p q, List.forall_mem_singleton.mpr hempty⟩
    exact hpair field hfield
  refine List.forall_mem_cons.mpr ⟨?_, fun line hline => ?_⟩
  · have htargets : ∀ q ∈ t.targets, Plain q := fun q hq => h q (List.mem_append_right _ hq)
    exact List.forall_mem_cons.mpr ⟨by decide, List.forall_mem_cons.mpr ⟨hempty, htargets⟩⟩
  · obtain ⟨row, hmem, rfl⟩ := List.mem_map.mp hline
    obtain ⟨p, hp, rfl⟩ := List.mem_map.mp hmem
    exact hrow p hp

/-- **Pictures are the same if keys and marks are.** -/
theorem picture_eq_iff : a.picture mark = b.picture mark' ↔
    a.SameKeys b ∧ ∀ p ∈ a.sources, ∀ q ∈ a.targets, mark p q = mark' p q := by
  constructor
  · intro h
    injection h with htargets hrows
    have hsources : a.sources = b.sources := by
      simpa [Function.comp_def] using congrArg (List.map Prod.fst) hrows
    refine ⟨⟨hsources, htargets⟩, fun p hp q hq => ?_⟩
    rw [← hsources, ← htargets] at hrows
    have hrow := (Prod.mk.inj (List.map_inj_left.mp hrows p hp)).2
    exact List.map_inj_left.mp hrow q hq
  · rintro ⟨⟨hsources, htargets⟩, hmarks⟩
    unfold picture
    rw [← hsources, ← htargets]
    refine congrArg (Picture.mk a.targets) (List.map_congr_left fun p hp => ?_)
    rw [List.map_congr_left (hmarks p hp)]

/-! ## Grids -/

/-- A field with a tab of its own is a field with an empty one behind it. -/
theorem intercalate_padded (field : String) (rest : List String) :
    "\t".intercalate ((field ++ "\t") :: rest) = "\t".intercalate (field :: "" :: rest) := by
  have htab := String.intercalate_cons_append (s := "\t") (t := "\t") (u := "") (l := rest)
  rw [String.append_empty] at htab
  rw [String.intercalate_cons_append, htab, String.intercalate_cons_cons, String.append_assoc]

theorem gridLine_padded (indent source : String) (marks : List String) :
    gridLine indent (source :: marks.map (· ++ "\t")) =
      gridLine indent (source :: marks.flatMap fun mark => [mark, ""]) := by
  refine congrArg (indent ++ ·) ?_
  induction marks generalizing source with
  | nil => rfl
  | cons mark marks ih =>
    rw [List.map_cons, List.flatMap_cons, String.intercalate_cons_cons, ih, intercalate_padded]
    exact String.intercalate_cons_cons.symm

theorem map_idxOf {keys : List String} (h : keys.Nodup) :
    keys.map keys.idxOf = List.range keys.length := by
  have hplaces := congrArg (List.map Prod.snd) (zipIdx_eq_map_idxOf h)
  rw [List.zipIdx_map_snd, List.map_map] at hplaces
  rw [List.range_eq_range']
  exact hplaces.symm

/-- **A grid is the text of a picture.** -/
theorem grid_eq (t : Table) (indent : String) (mark : Nat → Nat → String) : t.grid indent mark =
    (t.picture fun p q => mark (t.sources.idxOf p) (t.targets.idxOf q)).text indent := by
  have hrow : ∀ p, gridLine indent (p :: (List.range t.targets.length).map fun j =>
      mark (t.sources.idxOf p) j ++ "\t") = gridLine indent (p :: (t.targets.map fun q =>
        mark (t.sources.idxOf p) (t.targets.idxOf q)).flatMap fun mark => [mark, ""]) := by
    intro p
    rw [← gridLine_padded, ← map_idxOf t.targets_nodup, List.map_map, List.map_map]
    rfl
  have hheader : gridLine indent ("-\t" :: t.targets) = gridLine indent ("-" :: "" :: t.targets) :=
    congrArg (indent ++ ·) (intercalate_padded "-" t.targets)
  -- the header and each row have a tab of their own where the picture has an empty field
  unfold grid Picture.text Picture.lines picture
  dsimp only
  rw [hheader, zipIdx_eq_map_idxOf t.sources_nodup, List.map_cons, List.map_map, List.map_map,
    List.map_map]
  refine congrArg (fun rows => "\n".intercalate (_ :: rows)) (List.map_congr_left fun p _ => ?_)
  exact hrow p

/-- The rate at the places of two keys is the one that the table has for them. -/
theorem rateAt?_idxOf {p q : String} (hp : p ∈ t.sources) (hq : q ∈ t.targets) :
    t.rateAt? (t.sources.idxOf p) (t.targets.idxOf q) = t.rateEntry p q := by
  obtain ⟨i, hi⟩ := exists_cell hp hq
  obtain ⟨_, _, hval⟩ := cell_eq_ok hi
  rw [rateAt?, ← hval, rateEntry, rate_eq_map, hi, Vector.getElem?_eq_getElem i.isLt]
  rfl

theorem pretty_eq (t : Table) (indent : String) : t.pretty indent =
    (t.picture fun p q => valueMark (t.entry p q)).text indent := by
  rw [pretty, grid_eq]
  refine congrArg (Picture.text indent) (picture_eq_iff.mpr ⟨⟨rfl, rfl⟩, fun p hp q hq => ?_⟩)
  rw [at?_idxOf hp hq]

theorem prettyRates_eq (t : Table) (indent : String) : t.prettyRates indent =
    (t.picture fun p q => rateMark (t.rateEntry p q)).text indent := by
  rw [prettyRates, grid_eq]
  refine congrArg (Picture.text indent) (picture_eq_iff.mpr ⟨⟨rfl, rfl⟩, fun p hp q hq => ?_⟩)
  rw [rateAt?_idxOf hp hq]

/-! ## Marks -/

theorem plain_valueMark : ∀ value, Plain (valueMark value)
  | some true => by decide
  | some false => by decide
  | none => by decide

/-- The mark of a value is that of no other. -/
theorem valueMark_inj {value value' : Option Bool} :
    valueMark value = valueMark value' ↔ value = value' := by
  rcases value with _ | _ | _ <;> rcases value' with _ | _ | _ <;> decide

theorem plain_rateMark : ∀ rate, Plain (rateMark rate)
  | some rate => plain_of_printable (Rate.printable_inBytes rate)
  | none => by decide

/-- Two rates have the same mark just if they are shown alike. That of a missing one is that of no
other. -/
theorem rateMark_inj {rate rate' : Option Rate} :
    rateMark rate = rateMark rate' ↔ rate.map Rate.inBytes = rate'.map Rate.inBytes := by
  -- what is shown of a rate has a slash, as the mark of a missing one has not
  have hmissing : ∀ rate : Rate, rateMark (some rate) ≠ rateMark none := fun rate h => by
    have hshown : rate.inBytes = "X" := h
    have hslash := rate.slash_mem_inBytes
    rw [hshown] at hslash
    exact absurd hslash (by decide)
  cases rate with
  | none => cases rate' with
    | none => exact iff_of_true rfl rfl
    | some rate' => exact iff_of_false (hmissing rate').symm (Option.some_ne_none _).symm
  | some rate => cases rate' with
    | none => exact iff_of_false (hmissing rate) (Option.some_ne_none _)
    | some rate' => exact (Option.some.injEq _ _).to_iff.symm

/--
**A grid shows its table.**

Of two tables whose keys have no tabs and no newlines, the grids of values are the same under some
indent just if the tables have the same keys and the same cells, missing ones among them. The grids
of rates are the same just if the keys are and each cell has a rate in both tables, printed alike,
or in neither.
-/
theorem grid_shows_table (indent : String) (ha : a.Legible) (hb : b.Legible) :
    (a.pretty indent = b.pretty indent ↔ a.sources = b.sources ∧ a.targets = b.targets ∧
      ∀ p ∈ a.sources, ∀ q ∈ a.targets, a.value p q = b.value p q) ∧
    (a.prettyRates indent = b.prettyRates indent ↔
      a.sources = b.sources ∧ a.targets = b.targets ∧ ∀ p ∈ a.sources, ∀ q ∈ a.targets,
        (a.rate p q).map (Option.map Rate.inBytes) =
          (b.rate p q).map (Option.map Rate.inBytes)) := by
  constructor
  · rw [pretty_eq, pretty_eq, Picture.text_eq_iff indent
      (ha.picture fun _ _ => plain_valueMark _) (hb.picture fun _ _ => plain_valueMark _),
      picture_eq_iff, SameKeys, and_assoc]
    refine and_congr_right fun hsources => and_congr_right fun htargets => ?_
    refine forall₂_congr fun p hp => forall₂_congr fun q hq => ?_
    rw [value_eq_entry hp hq, value_eq_entry (hsources ▸ hp) (htargets ▸ hq), valueMark_inj,
      Except.ok.injEq]
  · rw [prettyRates_eq, prettyRates_eq, Picture.text_eq_iff indent
      (ha.picture fun _ _ => plain_rateMark _) (hb.picture fun _ _ => plain_rateMark _),
      picture_eq_iff, SameKeys, and_assoc]
    refine and_congr_right fun hsources => and_congr_right fun htargets => ?_
    refine forall₂_congr fun p hp => forall₂_congr fun q hq => ?_
    -- rates that differ may be printed alike
    rw [rate_eq_rateEntry hp hq, rate_eq_rateEntry (hsources ▸ hp) (htargets ▸ hq), rateMark_inj]
    exact (Except.ok.injEq _ _).to_iff.symm

/-- A row without cells and a column without cells do not look alike, though their keys are empty
and the indent is a newline. A cell looks like one with nearly the same rate, and not like one with
twice the rate or with none. -/
theorem grid_shows_table_of_empty_keys :
    let row : Table := ⟨[""], [], #v[], #v[], by decide, by decide⟩
    let column : Table := ⟨[], [""], #v[], #v[], by decide, by decide⟩
    let cell (rate : Option Rate) : Table := ⟨[""], [""], #v[none], #v[rate], by decide, by decide⟩
    let eight : Rate := ⟨Binary64.ofNat 8⟩
    let more : Rate := ⟨Binary64.ofDecimal false 801 (-2)⟩
    let twice : Rate := ⟨Binary64.ofNat 16⟩
    row.pretty "\n" ≠ column.pretty "\n" ∧ eight ≠ more ∧
      (cell (some eight)).prettyRates "" = (cell (some more)).prettyRates "" ∧
      (cell (some eight)).prettyRates "" ≠ (cell (some twice)).prettyRates "" ∧
      (cell (some eight)).prettyRates "" ≠ (cell none).prettyRates "" := by
  intro row column cell eight more twice
  have hcell : ∀ rate, (cell rate).Legible :=
    fun _ => (by decide : ∀ key ∈ [""] ++ [""], Plain key)
  -- grids of one cell are told apart just by what is printed of their rates
  have hgrids : ∀ rate rate', (cell rate).prettyRates "" = (cell rate').prettyRates "" ↔
      rate.map Rate.inBytes = rate'.map Rate.inBytes := by
    intro rate rate'
    refine (grid_shows_table "" (hcell rate) (hcell rate')).2.trans ⟨fun h => ?_, fun h => ?_⟩
    · exact Except.ok.inj (h.2.2 "" List.mem_cons_self "" List.mem_cons_self)
    · refine ⟨rfl, rfl, fun p hp q hq => ?_⟩
      obtain rfl := List.mem_singleton.mp hp
      obtain rfl := List.mem_singleton.mp hq
      exact congrArg Except.ok h
  refine ⟨fun h => ?_, by decide +kernel, (hgrids _ _).mpr ?_, mt (hgrids _ _).mp ?_,
    mt (hgrids _ _).mp ?_⟩
  · have hrow : row.Legible := by decide
    have hcolumn : column.Legible := by decide
    have hkeys := (grid_shows_table "\n" hrow hcolumn).1.mp h
    exact absurd hkeys.1 (by decide)
  · decide +kernel
  · decide +kernel
  · decide +kernel

end PodMesh.Table
