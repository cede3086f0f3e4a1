import PodMesh.Proofs.Pass.Jobs
import PodMesh.Proofs.Tally

/-!
# What is said about an outcome

Each recorded outcome brings one remark: a line that its pair was probed or skipped and, if it is
not what was expected, a line that it is a mismatch, with one warning that shows the command
(`Remark`). A remark is read as it is printed. Which of its lines are meant is told by the words
that they begin with, and as no such words begin others, a line that begins with some of them
begins with no others (`Notice.linesWith_eq`).
-/

namespace PodMesh

namespace Notice

variable {words : List String} {said : List Notice}

/-! ## Lines -/

/-- The line that tells that a pair is skipped, or else that it was probed and how. -/
def probeLine (skipped : Bool) (source target command : String) : String :=
  if skipped then "DEBUG skipping probe " ++ source ++ " -> " ++ target
  else "DEBUG validating " ++ source ++ " -> " ++ target ++ ": " ++ command

/-- The line that reports a mismatch between two pods of these printed forms. -/
def mismatchLine (source target : String) : String :=
  "ERROR connection mismatch " ++ source ++ " -> " ++ target

/-- The line that warns of a mismatch, given what was expected. -/
def warningLine (expected : Bool) (command : String) : String :=
  if expected then "WARN expected allowed connection was instead BLOCKED: " ++ command
  else "WARN expected blocked connection was instead ALLOWED: " ++ command

/-- A line is made of the level and the text. Where the text begins with fixed words, the line does
so, too. -/
theorem line_eq_append {n : Notice} {lead start rest opening : String} (hl : n.level.text = lead)
    (ht : n.text = start ++ rest) (h : lead ++ " " ++ start = opening) :
    n.line = opening ++ rest := by
  rw [line, hl, ht, ← String.append_assoc, h]

theorem text_probed (source target : Identity) (command : String) :
    (Notice.probed source target command).text =
      "validating " ++ (arrow source.text target.text ++ (": " ++ command)) :=
  (String.append_assoc ..).trans (String.append_assoc ..)

theorem line_skipping (source target : Identity) (command : String) :
    (Notice.skipping source target).line = probeLine true source.text target.text command := by
  calc (Notice.skipping source target).line
    _ = "DEBUG skipping probe " ++ arrow source.text target.text := line_eq_append rfl rfl rfl
    _ = probeLine true source.text target.text command := by
      simp only [arrow, probeLine, if_true, String.append_assoc]

theorem line_probed (source target : Identity) (command : String) :
    (Notice.probed source target command).line =
      probeLine false source.text target.text command := by
  calc (Notice.probed source target command).line
    _ = "DEBUG validating " ++ (arrow source.text target.text ++ (": " ++ command)) :=
      line_eq_append rfl (text_probed ..) rfl
    _ = probeLine false source.text target.text command := by
      simp only [arrow, probeLine, Bool.false_eq_true, if_false, String.append_assoc]

theorem line_mismatch (source target : Identity) :
    (Notice.mismatch source target).line = mismatchLine source.text target.text := by
  calc (Notice.mismatch source target).line
    _ = "ERROR connection mismatch " ++ arrow source.text target.text := line_eq_append rfl rfl rfl
    _ = mismatchLine source.text target.text := by
      unfold arrow mismatchLine
      simp only [String.append_assoc]

theorem line_blocked (command : String) :
    (Notice.blocked command).line = warningLine true command :=
  line_eq_append rfl rfl rfl

theorem line_allowed (command : String) :
    (Notice.allowed command).line = warningLine false command :=
  line_eq_append rfl rfl rfl

/-! ## Words that lines begin with -/

/-- A line begins with some words. -/
def Begins (words line : String) : Prop := words.toList <+: line.toList

instance (words line : String) : Decidable (Begins words line) :=
  inferInstanceAs (Decidable (_ <+: _))

theorem begins_append (words rest : String) : Begins words (words ++ rest) := by
  rw [Begins, String.toList_append]
  exact List.prefix_append _ _

/-- What the lines about outcomes begin with. -/
def openings : List String :=
  ["DEBUG skipping probe ", "DEBUG validating ", "DEBUG probe ", "ERROR connection mismatch ",
    "ERROR probe error: ", "WARN "]

theorem eq_of_begins_opening :
    ∀ opening ∈ openings, ∀ other ∈ openings, Begins opening other → opening = other := by
  decide

/-- A line begins with one of them at most. -/
theorem opening_unique {line opening other : String} (h : opening ∈ openings)
    (hother : other ∈ openings) (hb : Begins opening line) (hb' : Begins other line) :
    opening = other := by
  rcases List.prefix_or_prefix_of_prefix hb hb' with hle | hle
  · exact eq_of_begins_opening opening h other hother hle
  · exact (eq_of_begins_opening other hother opening h hle).symm

/-- What the line of a notice about an outcome begins with. -/
def opening : Notice → String
  | .skipping .. => "DEBUG skipping probe "
  | .probed .. => "DEBUG validating "
  | .failed .. => "DEBUG probe "
  | .mismatch .. => "ERROR connection mismatch "
  | .mismatchError .. => "ERROR probe error: "
  | .blocked .. | .allowed .. => "WARN "
  | _ => ""

/-- The lines of some notices that begin with some of these words. -/
def linesWith (words : List String) (said : List Notice) : List String :=
  (said.map line).filter fun line => ∃ start ∈ words, Begins start line

theorem begins_opening (n : Notice) : Begins n.opening n.line := by
  -- the level and the first words of the text make the opening
  have hwords {lead start rest opening : String} (hl : n.level.text = lead)
      (ht : n.text = start ++ rest) (h : lead ++ " " ++ start = opening) : Begins opening n.line :=
    line_eq_append hl ht h ▸ begins_append _ _
  cases n with
  | skipping source target => exact hwords rfl rfl rfl
  | probed source target command => exact hwords rfl (text_probed ..) rfl
  | failed source target error =>
    have ht : (Notice.failed source target error).text =
        "probe " ++ (arrow source.text target.text ++ (" failed: " ++ error.message)) :=
      (String.append_assoc ..).trans (String.append_assoc ..)
    exact hwords rfl ht rfl
  | mismatch source target => exact hwords rfl rfl rfl
  | mismatchError error => exact hwords rfl rfl rfl
  | blocked command | allowed command => exact begins_append "WARN " _
  | _ => exact List.nil_prefix

/-- **The lines that begin with some openings are those of the notices that have one of them.** -/
theorem linesWith_eq (hwords : words ⊆ openings) (hsaid : ∀ n ∈ said, n.opening ∈ openings) :
    linesWith words said = (said.filter fun n => n.opening ∈ words).map line := by
  rw [linesWith, List.filter_map]
  refine congrArg (List.map line) (List.filter_congr fun n hn => decide_eq_decide.mpr ?_)
  constructor
  · rintro ⟨start, hstart, hbegins⟩
    rw [← opening_unique (hwords hstart) (hsaid n hn) hbegins n.begins_opening]
    exact hstart
  · exact fun hmem => ⟨n.opening, hmem, n.begins_opening⟩

theorem linesWith_flatMap {α : Type} (words : List String) (f : α → List Notice) (xs : List α) :
    linesWith words (xs.flatMap f) = xs.flatMap fun x => linesWith words (f x) := by
  rw [linesWith, List.map_flatMap, List.filter_flatMap]
  rfl

end Notice

/-! ## Outcomes -/

/-- The lines that are printed about one outcome under the expectations of a matrix. -/
structure Remark (m : Matrix) (o : Outcome) (said : List Notice) : Prop where
  /-- One tells that its pair is skipped, as its destination is, or else that it was probed. -/
  probed : Notice.linesWith ["DEBUG skipping probe ", "DEBUG validating "] said =
    [Notice.probeLine o.job.target.skipped o.job.source.id.text o.job.target.id.text o.command]
  /-- One reports a mismatch if something else was expected. -/
  mismatch : Notice.linesWith ["ERROR connection mismatch "] said =
    if some o.connected = m.expected? o.job.pair then []
    else [Notice.mismatchLine o.job.source.id.text o.job.target.id.text]
  /-- One warning goes with a mismatch, and shows the command. There is no other warning. -/
  warning : Notice.linesWith ["WARN "] said =
    if some o.connected = m.expected? o.job.pair then []
    else [Notice.warningLine (m.expected? o.job.pair = some true) o.command]

namespace Outcome

variable {o : Outcome} {expected : Bool}

/-- What is said last of a mismatch. -/
def warning (o : Outcome) (expected : Bool) : Notice :=
  if expected then .blocked o.command else .allowed o.command

theorem line_announcement (o : Outcome) : o.announcement.line = Notice.probeLine
    o.job.target.skipped o.job.source.id.text o.job.target.id.text o.command := by
  cases h : o.job.target.skipped with
  | true =>
    rw [announcement, h]
    exact Notice.line_skipping _ _ _
  | false =>
    rw [announcement, h]
    exact Notice.line_probed _ _ _

theorem line_warning (o : Outcome) (expected : Bool) :
    (o.warning expected).line = Notice.warningLine expected o.command := by
  cases expected with
  | true => exact Notice.line_blocked o.command
  | false => exact Notice.line_allowed o.command

theorem notices_of_eq (h : o.connected = expected) : o.notices expected =
    o.announcement :: o.error.toList.map (.failed o.job.source.id o.job.target.id) := by
  rw [notices, if_neg (not_not_intro h)]

theorem notices_of_ne (h : o.connected ≠ expected) : o.notices expected =
    o.announcement :: .mismatch o.job.source.id o.job.target.id ::
      (o.error.toList.map .mismatchError ++ [o.warning expected]) := by
  rw [notices, if_pos h]
  rfl

theorem opening_mem_of_mem_notices : ∀ n ∈ o.notices expected, n.opening ∈ Notice.openings := by
  by_cases h : o.connected = expected
  · rw [notices_of_eq h, announcement]
    cases o.job.target.skipped <;> cases o.error <;> simp [Notice.opening, Notice.openings]
  · rw [notices_of_ne h, announcement, warning]
    cases o.job.target.skipped <;> cases o.error <;> cases expected <;>
      simp [Notice.opening, Notice.openings]

theorem linesWith_notices {words : List String} (hwords : words ⊆ Notice.openings) :
    Notice.linesWith words (o.notices expected) =
      ((o.notices expected).filter fun n => n.opening ∈ words).map Notice.line :=
  Notice.linesWith_eq hwords opening_mem_of_mem_notices

theorem linesWith_probed_notices (o : Outcome) (expected : Bool) :
    Notice.linesWith ["DEBUG skipping probe ", "DEBUG validating "] (o.notices expected) =
      [o.announcement.line] := by
  rw [linesWith_notices (by decide)]
  refine congrArg (List.map Notice.line) (?_ : _ = [o.announcement])
  by_cases h : o.connected = expected
  · rw [notices_of_eq h, announcement]
    cases o.job.target.skipped <;> cases o.error <;> rfl
  · rw [notices_of_ne h, announcement, warning]
    cases o.job.target.skipped <;> cases o.error <;> cases expected <;> rfl

theorem linesWith_mismatch_notices (o : Outcome) (expected : Bool) :
    Notice.linesWith ["ERROR connection mismatch "] (o.notices expected) =
      if o.connected = expected then []
      else [(Notice.mismatch o.job.source.id o.job.target.id).line] := by
  rw [linesWith_notices (by decide)]
  by_cases h : o.connected = expected
  · rw [if_pos h, notices_of_eq h, announcement]
    cases o.job.target.skipped <;> cases o.error <;> rfl
  · rw [if_neg h, notices_of_ne h, announcement, warning]
    cases o.job.target.skipped <;> cases o.error <;> cases expected <;> rfl

theorem linesWith_warning_notices (o : Outcome) (expected : Bool) :
    Notice.linesWith ["WARN "] (o.notices expected) =
      if o.connected = expected then [] else [(o.warning expected).line] := by
  rw [linesWith_notices (by decide)]
  by_cases h : o.connected = expected
  · rw [if_pos h, notices_of_eq h, announcement]
    cases o.job.target.skipped <;> cases o.error <;> rfl
  · rw [if_neg h, notices_of_ne h, announcement, warning]
    cases o.job.target.skipped <;> cases o.error <;> cases expected <;> rfl

end Outcome

/-- **Every outcome of a sound matrix's own pods gets its remark.** -/
theorem Matrix.Sound.remark {m : Matrix} (hs : m.Sound) {o : Outcome} (hw : o.job.Within m) :
    Remark m o (m.remarks o) := by
  obtain ⟨expected, hexp⟩ := hs.exists_expectation hw.1 hw.2
  have hpair : m.expected? o.job.pair = some expected := Matrix.expectation_eq_ok_iff.mp hexp
  rw [Matrix.remarks, hexp]
  refine ⟨?_, ?_, ?_⟩
  · dsimp only
    rw [o.linesWith_probed_notices, o.line_announcement]
  · simp only [hpair, Option.some.injEq]
    rw [o.linesWith_mismatch_notices, Notice.line_mismatch]
  · simp only [hpair, Option.some.injEq]
    rw [o.linesWith_warning_notices, o.line_warning]
    cases expected <;> rfl

end PodMesh
