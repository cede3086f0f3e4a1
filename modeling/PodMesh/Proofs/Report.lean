import PodMesh.Proofs.Text.Lines
import PodMesh.Rate

/-!
# The rate in a report

A report is read from behind: the first line there that is not blank is its record, and nothing else
counts (`lastRecord_eq`). So whatever a measurement printed before its record, and whatever blank
text after it, the rate is that of the record alone (`last_record_tells_rate`), and that is the
number in its ninth field. A report without a record is refused.
-/

namespace PodMesh.Rate

variable {report line blanks : List Char} {earlier later : List (List Char)} {rate : Rate}

/-! ## Finding the record -/

/-- **The record is the last line that is not blank.** -/
theorem lastRecord_eq (hlines : Text.lines report = earlier ++ line :: later)
    (hline : ¬ ∀ c ∈ line, Text.isBlank c = true)
    (hlater : ∀ l ∈ later, ∀ c ∈ l, Text.isBlank c = true) : lastRecord report = line := by
  -- from behind, the blank lines come first and are passed over
  have hnone : (later.reverse.find? fun l => !l.all Text.isBlank) = none := by
    refine List.find?_eq_none.mpr fun l hl => ?_
    simpa using hlater l (List.mem_reverse.mp hl)
  have hfound : (!line.all Text.isBlank) = true := by simpa using hline
  rw [lastRecord, hlines, List.reverse_append, List.reverse_cons, List.append_assoc,
    List.find?_append, hnone, List.singleton_append, List.find?_cons, hfound]
  rfl

/-- A blank report has an empty record. -/
theorem lastRecord_of_blank (h : ∀ c ∈ blanks, Text.isBlank c = true) :
    lastRecord blanks = [] := by
  have hnone : ((Text.lines blanks).reverse.find? fun l => !l.all Text.isBlank) = none := by
    refine List.find?_eq_none.mpr fun l hl => ?_
    simpa using fun c hc => h c (Text.mem_of_mem_lines (List.mem_reverse.mp hl) hc)
  rw [lastRecord, hnone]
  rfl

/-- **Blank text behind a record, and any lines before it, change nothing of the record but the
blanks around it.** -/
theorem trim_lastRecord {before : List Char}
    (hbefore : before = [] ∨ ∃ earlier, before = earlier ++ ['\n']) (hline : '\n' ∉ line)
    (hsome : ¬ ∀ c ∈ line, Text.isBlank c = true)
    (hblanks : ∀ c ∈ blanks, Text.isBlank c = true) :
    Text.trim (lastRecord (before ++ line ++ blanks)) = Text.trim line := by
  obtain ⟨first, later, hlines, htrim, hlater⟩ :=
    Text.exists_lines_append_blanks hline hsome hblanks
  have hfirst : ¬ ∀ c ∈ first, Text.isBlank c = true := by
    rwa [← Text.trim_eq_nil_iff, htrim, Text.trim_eq_nil_iff]
  rw [← htrim, List.append_assoc,
    lastRecord_eq ((Text.lines_append hbefore _).trans (congrArg _ hlines)) hfirst hlater]

/-! ## Reading the record -/

/-- **A line has a rate if its ninth field is a number.** -/
theorem ofRecord_eq_ok_iff : ofRecord line = .ok rate ↔ ∃ field,
    (Text.splitOn ',' (Text.trim line))[8]? = some field ∧
      Binary64.read field = .ok rate.bits := by
  unfold ofRecord
  cases (Text.splitOn ',' (Text.trim line))[8]? with
  | none => simp
  | some field =>
    cases hread : Binary64.read field with
    | error fault => simp [hread]
    | ok bits =>
      obtain ⟨bits'⟩ := rate
      simp [hread]

/-- The blanks around a line have no part in its rate. -/
theorem ofRecord_eq_ok_congr {line' : List Char} (h : Text.trim line = Text.trim line') :
    ofRecord line = .ok rate ↔ ofRecord line' = .ok rate := by
  rw [ofRecord_eq_ok_iff, ofRecord_eq_ok_iff, h]

/--
**The last record of a report tells the rate, and nothing else does.**

A record is one line that is not blank. Whatever ended lines stand before it and whatever blanks
behind it, more lines of them included, the report has the rate of the record, or none if the record
has none. The record has one just if at least nine fields are left of it when it is trimmed, and the
ninth is a number; the other fields may hold anything. A blank report is refused.
-/
theorem last_record_tells_rate {before line blanks : List Char}
    (hbefore : before = [] ∨ ∃ earlier, before = earlier ++ ['\n']) (hline : '\n' ∉ line)
    (hsome : ¬ ∀ c ∈ line, Text.isBlank c = true)
    (hblanks : ∀ c ∈ blanks, Text.isBlank c = true) :
    (∀ rate, ofReport (before ++ line ++ blanks) = .ok rate ↔ ofReport line = .ok rate) ∧
    (∀ rate, ofReport line = .ok rate ↔ ∃ fields field more, fields.length = 8 ∧
      (∀ part ∈ fields ++ field :: more, ',' ∉ part) ∧
      Text.trim line = [','].intercalate (fields ++ field :: more) ∧
      Binary64.read field = .ok rate.bits) ∧
    ∃ fault, ofReport blanks = .error fault := by
  have hwhole := trim_lastRecord hbefore hline hsome hblanks
  have halone : Text.trim (lastRecord ([] ++ line ++ [])) = Text.trim line :=
    trim_lastRecord (.inl rfl) hline hsome fun c hc => absurd hc List.not_mem_nil
  rw [List.nil_append, List.append_nil] at halone
  refine ⟨fun rate => ?_, fun rate => ?_, ?_⟩
  · exact ofRecord_eq_ok_congr (hwhole.trans halone.symm)
  · rw [ofReport, ofRecord_eq_ok_congr halone, ofRecord_eq_ok_iff]
    simp only [Text.getElem?_splitOn_iff]
    constructor
    · rintro ⟨field, ⟨fields, more, hlength, hclear, htrim⟩, hread⟩
      exact ⟨fields, field, more, hlength, hclear, htrim, hread⟩
    · rintro ⟨fields, field, more, hlength, hclear, htrim, hread⟩
      exact ⟨field, ⟨fields, more, hlength, hclear, htrim⟩, hread⟩
  · rw [ofReport, lastRecord_of_blank hblanks]
    exact ⟨_, rfl⟩

/-- A record between a heading and blank lines, with a tenth field and fields that are empty. -/
theorem last_record_tells_rate_of_padded :
    ofReport ("time,rate\r\n".toList ++ " \t,,x,,,,,,8e6, 1".toList ++ " \r\n\r\n ".toList) =
      .ok ⟨Binary64.ofNat 8000000⟩ := by
  have hbefore : "time,rate\r\n".toList = "time,rate\r".toList ++ ['\n'] := by decide
  have hline : '\n' ∉ " \t,,x,,,,,,8e6, 1".toList := by decide
  have hsome : ¬ ∀ c ∈ " \t,,x,,,,,,8e6, 1".toList, Text.isBlank c = true :=
    mt List.all_eq_true.mpr (by decide)
  have hblanks : ∀ c ∈ " \r\n\r\n ".toList, Text.isBlank c = true :=
    List.all_eq_true.mp (by decide)
  obtain ⟨hlast, hninth, _⟩ := last_record_tells_rate (.inr ⟨_, hbefore⟩) hline hsome hblanks
  refine (hlast _).mpr ((hninth _).mpr
    ⟨[[], [], ['x'], [], [], [], [], []], "8e6".toList, [" 1".toList], rfl, ?_, ?_, ?_⟩)
  · decide
  · decide
  · decide

end PodMesh.Rate
