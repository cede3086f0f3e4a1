import Mathlib.Data.List.TakeWhile
import PodMesh.Proofs.Address
import PodMesh.Text.Blank
import PodMesh.Text.Line

/-!
# Lines and blanks

A text that ends its last line can be put before another one, and the lines of both are then those
of the one and of the other (`lines_append`). Blanks at the end of a text, the carriage return of an
ending among them, are nothing to who trims it (`trim_append_blanks`). So a line keeps what it says,
whatever blank text follows it in the same line or in further ones (`exists_lines_append_blanks`).
-/

namespace PodMesh.Text

variable {separator c : Char} {n : Nat} {cs before line blanks piece field : List Char}
  {pieces rest : List (List Char)}

/-! ## Pieces -/

/-- A piece is made of the characters of the text, but for the separator. -/
theorem mem_of_mem_splitOn (h : piece ∈ splitOn separator cs) (hc : c ∈ piece) :
    c ∈ cs ∧ c ≠ separator := by
  induction cs generalizing piece with
  | nil =>
    rw [List.mem_singleton.mp h] at hc
    exact absurd hc List.not_mem_nil
  | cons x cs ih =>
    rw [splitOn] at h
    split at h
    · rcases List.mem_cons.mp h with rfl | h
      · exact absurd hc List.not_mem_nil
      · exact (ih h hc).imp (List.mem_cons_of_mem x) id
    case isFalse hx =>
      split at h
      case h_1 hnil =>
        rw [List.mem_singleton.mp h] at hc
        obtain rfl := List.mem_singleton.mp hc
        exact ⟨List.mem_cons_self, hx⟩
      case h_2 first others heq =>
        rcases List.mem_cons.mp h with rfl | h
        · rcases List.mem_cons.mp hc with rfl | hc
          · exact ⟨List.mem_cons_self, hx⟩
          · exact (ih (heq ▸ List.mem_cons_self) hc).imp (List.mem_cons_of_mem x) id
        · exact (ih (heq ▸ List.mem_cons_of_mem _ h) hc).imp (List.mem_cons_of_mem x) id

/-- **A text falls into its pieces at the separators, and the piece at a place is the one that has
as many before it.** -/
theorem getElem?_splitOn_iff : (splitOn separator cs)[n]? = some field ↔
    ∃ fields more, fields.length = n ∧ (∀ part ∈ fields ++ field :: more, separator ∉ part) ∧
      cs = [separator].intercalate (fields ++ field :: more) := by
  constructor
  · intro h
    obtain ⟨hlt, rfl⟩ := List.getElem?_eq_some_iff.mp h
    have hpieces : (splitOn separator cs).take n ++ (splitOn separator cs)[n] ::
        (splitOn separator cs).drop (n + 1) = splitOn separator cs := by
      rw [List.getElem_cons_drop, List.take_append_drop]
    refine ⟨_, (splitOn separator cs).drop (n + 1),
      List.length_take_of_le (Nat.le_of_lt hlt), ?_, ?_⟩
    · rw [hpieces]
      exact fun part hpart hmem => (mem_of_mem_splitOn hpart hmem).2 rfl
    · rw [hpieces, splitOn_eq, List.intercalate_splitOn]
  · rintro ⟨fields, more, rfl, hclear, rfl⟩
    rw [splitOn_eq, List.splitOn_intercalate separator hclear (by simp)]
    simp

/-! ## Blanks around a text -/

theorem trimEnd_append_blanks (h : ∀ c ∈ blanks, isBlank c = true) (cs : List Char) :
    trimEnd (cs ++ blanks) = trimEnd cs := by
  rw [trimEnd, List.reverse_append,
    List.dropWhile_append_of_pos fun c hc => h c (List.mem_reverse.mp hc), trimEnd]

/-- **Blanks behind a text are trimmed away.** -/
theorem trim_append_blanks (h : ∀ c ∈ blanks, isBlank c = true) (cs : List Char) :
    trim (cs ++ blanks) = trim cs := by
  rw [trim, List.dropWhile_append, trim]
  split
  case isTrue hempty =>
    rw [List.isEmpty_iff.mp hempty, List.dropWhile_eq_nil_iff.mpr h]
  case isFalse => exact trimEnd_append_blanks h _

/-- Nothing is left of a text that is all blank, and of no other. -/
theorem trim_eq_nil_iff : trim cs = [] ↔ ∀ c ∈ cs, isBlank c = true := by
  constructor
  · intro h
    have hblank : ∀ c ∈ cs.dropWhile isBlank, isBlank c = true := fun c hc =>
      List.dropWhile_eq_nil_iff.mp (List.reverse_eq_nil_iff.mp h) c (List.mem_reverse.mpr hc)
    -- what is left in front would begin with a character that is not blank
    by_contra hne
    obtain ⟨c, rest, hrest⟩ := List.exists_cons_of_ne_nil (mt List.dropWhile_eq_nil_iff.mp hne)
    have hhead : isBlank c = false := by
      have hnot := List.head?_dropWhile_not isBlank cs
      rw [hrest] at hnot
      exact hnot
    rw [hblank c (hrest ▸ List.mem_cons_self)] at hhead
    exact Bool.noConfusion hhead
  · intro h
    rw [trim, List.dropWhile_eq_nil_iff.mpr h]
    rfl

/-- Nothing but a carriage return is dropped. -/
theorem dropReturn_cases (line : List Char) :
    dropReturn line = line ∨ dropReturn line ++ ['\r'] = line := by
  unfold dropReturn
  split
  case h_1 rest hrest =>
    refine .inr ?_
    rw [← List.reverse_cons, ← hrest, List.reverse_reverse]
  case h_2 => exact .inl rfl

/-- A carriage return at the end is one of the blanks around a line. -/
theorem trim_dropReturn (line : List Char) : trim (dropReturn line) = trim line := by
  rcases dropReturn_cases line with h | h
  · rw [h]
  · have hreturn : ∀ c ∈ ['\r'], isBlank c = true := List.forall_mem_singleton.mpr (by decide)
    rw [← trim_append_blanks hreturn, h]

/-! ## Lines -/

theorem mem_of_mem_dropReturn (h : c ∈ dropReturn line) : c ∈ line := by
  rcases dropReturn_cases line with heq | heq
  · exact heq ▸ h
  · exact heq ▸ List.mem_append_left _ h

theorem mem_of_mem_lines_go (h : line ∈ lines.go pieces) (hc : c ∈ line) :
    ∃ piece ∈ pieces, c ∈ piece := by
  fun_induction lines.go pieces with
  | case1 => exact absurd h List.not_mem_nil
  | case2 => exact absurd h List.not_mem_nil
  | case3 last => exact ⟨last, List.mem_cons_self, List.mem_singleton.mp h ▸ hc⟩
  | case4 first rest _ ih =>
    rcases List.mem_cons.mp h with rfl | h
    · exact ⟨first, List.mem_cons_self, mem_of_mem_dropReturn hc⟩
    · obtain ⟨piece, hpiece, hmem⟩ := ih h
      exact ⟨piece, List.mem_cons_of_mem _ hpiece, hmem⟩

/-- A line is made of characters of the text. -/
theorem mem_of_mem_lines (h : line ∈ lines cs) (hc : c ∈ line) : c ∈ cs := by
  obtain ⟨piece, hpiece, hmem⟩ := mem_of_mem_lines_go h hc
  exact (mem_of_mem_splitOn hpiece hmem).1

/-- Every piece but the last is a line that was ended. -/
theorem lines_go_append (pieces : List (List Char)) (h : rest ≠ []) :
    lines.go (pieces ++ rest) = pieces.map dropReturn ++ lines.go rest := by
  induction pieces with
  | nil => rfl
  | cons piece pieces ih =>
    obtain ⟨next, others, hmore⟩ :=
      List.exists_cons_of_ne_nil (List.append_ne_nil_of_right_ne_nil pieces h)
    rw [List.cons_append, hmore, lines.go, ← hmore, ih]
    · rfl
    · exact fun hnil => List.cons_ne_nil _ _ hnil

theorem lines_append_newline (before cs : List Char) :
    lines (before ++ '\n' :: cs) = (splitOn '\n' before).map dropReturn ++ lines cs := by
  rw [lines, splitOn_eq, List.splitOn_append_cons_self, lines_go_append _ (List.splitOn_ne_nil _ _),
    ← splitOn_eq, ← splitOn_eq, lines]

/-- **Behind a text that ends its last line, the lines of another one follow.** -/
theorem lines_append (h : before = [] ∨ ∃ earlier, before = earlier ++ ['\n'])
    (cs : List Char) : lines (before ++ cs) = lines before ++ lines cs := by
  rcases h with rfl | ⟨earlier, rfl⟩
  · rfl
  · have hlines := lines_append_newline earlier []
    rw [List.append_assoc, List.singleton_append, lines_append_newline, hlines]
    exact congrArg (· ++ lines cs) (List.append_nil _).symm

theorem lines_of_no_newline (h : '\n' ∉ cs) (hne : cs ≠ []) : lines cs = [cs] := by
  rw [lines, splitOn_eq, List.splitOn_eq_singleton h, lines.go, if_neg (by simpa using hne)]

/-- **A line that blank text follows is still the first, with nothing but blanks added, and all that
comes after it is blank.** -/
theorem exists_lines_append_blanks (hline : '\n' ∉ line) (hsome : ¬ ∀ c ∈ line, isBlank c = true)
    (hblanks : ∀ c ∈ blanks, isBlank c = true) : ∃ first rest,
      lines (line ++ blanks) = first :: rest ∧ trim first = trim line ∧
      ∀ later ∈ rest, ∀ c ∈ later, isBlank c = true := by
  by_cases h : '\n' ∈ blanks
  · -- the blanks before the first newline stay with the line, and those behind it are further lines
    obtain ⟨same, further, rfl, hsame⟩ := List.eq_append_cons_of_mem h
    obtain ⟨hblank, hfurther⟩ := List.forall_mem_append.mp hblanks
    refine ⟨dropReturn (line ++ same), lines further, ?_, ?_, fun later hlater c hc => ?_⟩
    · have hone : '\n' ∉ line ++ same := fun hmem => (List.mem_append.mp hmem).elim hline hsame
      rw [← List.append_assoc, lines_append_newline, splitOn_eq, List.splitOn_eq_singleton hone]
      rfl
    · rw [trim_dropReturn, trim_append_blanks hblank]
    · exact hfurther c (List.mem_cons_of_mem _ (mem_of_mem_lines hlater hc))
  · refine ⟨line ++ blanks, [], lines_of_no_newline ?_ ?_, trim_append_blanks hblanks line, ?_⟩
    · exact fun hmem => (List.mem_append.mp hmem).elim hline h
    · rintro hnil
      refine hsome fun c hc => ?_
      rw [(List.append_eq_nil_iff.mp hnil).1] at hc
      exact absurd hc List.not_mem_nil
    · exact fun later hlater => absurd hlater List.not_mem_nil

end PodMesh.Text
