import Mathlib.Data.List.Basic
import Mathlib.Data.List.TakeWhile
import PodMesh.Text.Line

/-!
# Texts around a separator

A text that was put together around a separator can be taken apart again where the separator is
kept out of the parts. It is enough to keep it out of what stands before it (`first_inj`), or of
what stands behind it (`last_inj`). Where it is in both, one text can be taken apart at different
separators, and in no other way into different parts (`append_mark_eq_iff`). Any number of parts are
told apart if none of them has the first character of what stands between them (`intercalate_inj`).
-/

namespace PodMesh.Text

variable {separator : Char} {cs first first' rest rest' : List Char}

/-! ## The first separator -/

/-- What stands before the first separator, or all of the text where there is none. -/
def before (separator : Char) (cs : List Char) : List Char := cs.takeWhile (· ≠ separator)

/-- What stands behind the first separator, or nothing where there is none. -/
def behind (separator : Char) (cs : List Char) : List Char := (cs.dropWhile (· ≠ separator)).tail

/-- A text is split at the first separator, if it has one. -/
theorem splitOnce_eq (separator : Char) (cs : List Char) : splitOnce separator cs =
    if separator ∈ cs then some (before separator cs, behind separator cs) else none := by
  induction cs with
  | nil => rfl
  | cons c cs ih =>
    by_cases hc : c = separator
    · simp [splitOnce, before, behind, hc]
    · have hmem : separator ∈ c :: cs ↔ separator ∈ cs := by simp [Ne.symm hc]
      simp only [splitOnce, hc, if_false, ih, hmem]
      split
      · simp [before, behind, hc]
      · rfl

/-- Nothing but the first separator is where a text is split. -/
theorem splitOnce_append (h : separator ∉ first) (rest : List Char) :
    splitOnce separator (first ++ separator :: rest) = some (first, rest) := by
  induction first with
  | nil => simp [splitOnce]
  | cons c first ih =>
    obtain ⟨hc, hfirst⟩ := not_or.mp (mt List.mem_cons.mpr h)
    rw [List.cons_append, splitOnce, if_neg (Ne.symm hc), ih hfirst]
    rfl

/-- A text without separators is all before the first one. -/
theorem before_of_not_mem (h : separator ∉ cs) : before separator cs = cs :=
  List.takeWhile_eq_self_iff.mpr fun _ hc => decide_eq_true fun heq => h (heq ▸ hc)

theorem behind_of_not_mem (h : separator ∉ cs) : behind separator cs = [] := by
  have hdrop : cs.dropWhile (· ≠ separator) = [] :=
    List.dropWhile_eq_nil_iff.mpr fun _ hc => decide_eq_true fun heq => h (heq ▸ hc)
  rw [behind, hdrop]
  rfl

theorem not_mem_before (separator : Char) (cs : List Char) : separator ∉ before separator cs := by
  intro h
  have hne : decide (separator ≠ separator) = true := List.mem_takeWhile_imp (l := cs) h
  exact of_decide_eq_true hne rfl

/-- **A text with a separator is what stands before the first one, it, and what stands behind.** -/
theorem eq_before_append_behind (h : separator ∈ cs) :
    cs = before separator cs ++ separator :: behind separator cs :=
  (splitOnce_eq_some ((splitOnce_eq separator cs).trans (if_pos h))).1

theorem before_behind_append (h : separator ∉ first) (rest : List Char) :
    before separator (first ++ separator :: rest) = first ∧
      behind separator (first ++ separator :: rest) = rest := by
  have hsplit := splitOnce_append h rest
  rw [splitOnce_eq, if_pos (List.mem_append_right _ List.mem_cons_self)] at hsplit
  exact Prod.mk.inj (Option.some.inj hsplit)

/-- **What stands before the first separator and what stands behind it can be told apart.** -/
theorem first_inj (h : separator ∉ first) (h' : separator ∉ first') :
    first ++ separator :: rest = first' ++ separator :: rest' ↔ first = first' ∧ rest = rest' := by
  constructor
  · intro heq
    obtain ⟨hfirst, hrest⟩ := before_behind_append h rest
    obtain ⟨hfirst', hrest'⟩ := before_behind_append h' rest'
    rw [heq] at hfirst hrest
    exact ⟨hfirst.symm.trans hfirst', hrest.symm.trans hrest'⟩
  · rintro ⟨rfl, rfl⟩
    rfl

/-- **What stands before the last separator and what stands behind it can be told apart.** -/
theorem last_inj (h : separator ∉ rest) (h' : separator ∉ rest') :
    first ++ separator :: rest = first' ++ separator :: rest' ↔ first = first' ∧ rest = rest' := by
  have hreverse : ∀ cs cs' : List Char,
      (cs ++ separator :: cs').reverse = cs'.reverse ++ separator :: cs.reverse := by
    intro cs cs'
    rw [List.reverse_append, List.reverse_cons, List.append_assoc, List.singleton_append]
  -- the last separator is the first one of the text read backwards
  rw [← List.reverse_inj, hreverse, hreverse,
    first_inj (mt List.mem_reverse.mp h) (mt List.mem_reverse.mp h'), List.reverse_inj,
    List.reverse_inj, and_comm]

/-! ## Any separator -/

/-- One text falls into two parts around a mark in two ways, first at an earlier mark and then at a
later one. -/
def SplitsBefore (mark first rest first' rest' : String) : Prop :=
  ∃ between, first' = first ++ mark ++ between ∧ rest = between ++ mark ++ rest'

theorem SplitsBefore.append_eq {mark first rest first' rest' : String}
    (h : SplitsBefore mark first rest first' rest') :
    first ++ mark ++ rest = first' ++ mark ++ rest' := by
  obtain ⟨between, hfirst, hrest⟩ := h
  rw [hfirst, hrest]
  simp only [String.append_assoc]

/-- What stands behind the earlier mark has the later one in it. -/
theorem SplitsBefore.mem_rest {mark first rest first' rest' : String}
    (hmark : mark.toList = [separator]) (h : SplitsBefore mark first rest first' rest') :
    separator ∈ rest.toList := by
  obtain ⟨between, _, hrest⟩ := h
  rw [hrest, String.toList_append, String.toList_append, hmark]
  exact List.mem_append_left _ (List.mem_append_right _ (List.mem_singleton_self separator))

/-- A first part that goes on in the other way to split the text goes on up to a mark. -/
theorem splitsBefore_of_toList {mark first rest first' rest' : String} {more : List Char}
    (hmark : mark.toList = [separator]) (hfirst : first'.toList = first.toList ++ more)
    (hrest : separator :: rest.toList = more ++ separator :: rest'.toList) :
    (first = first' ∧ rest = rest') ∨ SplitsBefore mark first rest first' rest' := by
  rcases List.cons_eq_append_iff.mp hrest with ⟨rfl, heq⟩ | ⟨between, rfl, heq⟩
  · injection heq with _ heq
    rw [List.append_nil] at hfirst
    exact .inl ⟨String.toList_inj.mp hfirst.symm, String.toList_inj.mp heq.symm⟩
  · refine .inr ⟨String.ofList between, String.toList_inj.mp ?_, String.toList_inj.mp ?_⟩
    · simp [hfirst, hmark]
    · simp [heq, hmark]

/-- **Two parts around a mark make the same text just if they are the same, or split it at two
marks.** -/
theorem append_mark_eq_iff {mark first rest first' rest' : String}
    (hmark : mark.toList = [separator]) :
    first ++ mark ++ rest = first' ++ mark ++ rest' ↔ (first = first' ∧ rest = rest') ∨
      SplitsBefore mark first rest first' rest' ∨ SplitsBefore mark first' rest' first rest := by
  have htoList : ∀ s s' : String,
      (s ++ mark ++ s').toList = s.toList ++ separator :: s'.toList := by
    simp [hmark]
  constructor
  · intro h
    rw [← String.toList_inj, htoList, htoList] at h
    -- one of the first parts begins with the other
    rcases List.append_eq_append_iff.mp h with ⟨more, hfirst, hrest⟩ | ⟨more, hfirst, hrest⟩
    · exact (splitsBefore_of_toList hmark hfirst hrest).imp id .inl
    · exact (splitsBefore_of_toList hmark hfirst hrest).imp
        (fun h => ⟨h.1.symm, h.2.symm⟩) .inr
  · rintro (⟨rfl, rfl⟩ | h | h)
    · rfl
    · exact h.append_eq
    · exact h.append_eq.symm

/-! ## Counting separators -/

theorem count_append_cons (first rest : List Char) :
    (first ++ separator :: rest).count separator =
      first.count separator + rest.count separator + 1 := by
  rw [List.count_append, List.count_cons_self]
  omega

/-- There is one more separator in a text with any than behind the first. -/
theorem count_eq_of_mem (h : separator ∈ cs) :
    cs.count separator = (behind separator cs).count separator + 1 := by
  have hcount := congrArg (List.count separator) (eq_before_append_behind h)
  rw [count_append_cons, List.count_eq_zero_of_not_mem (not_mem_before separator cs),
    Nat.zero_add] at hcount
  exact hcount

/-- A text has one separator at most just if there is none behind the first. -/
theorem count_le_one_iff : cs.count separator ≤ 1 ↔ separator ∉ behind separator cs := by
  by_cases h : separator ∈ cs
  · rw [count_eq_of_mem h, ← List.count_eq_zero]
    omega
  · rw [behind_of_not_mem h, List.count_eq_zero_of_not_mem h]
    simp

/-! ## Parts -/

/-- **Parts can be told apart if none of them has the character that the text between them begins
with.** -/
theorem intercalate_inj (between : List Char) {parts parts' : List (List Char)}
    (h : ∀ part ∈ first :: parts, separator ∉ part)
    (h' : ∀ part ∈ first' :: parts', separator ∉ part) :
    (separator :: between).intercalate (first :: parts) =
      (separator :: between).intercalate (first' :: parts') ↔ first = first' ∧ parts = parts' := by
  -- with a second part the text has the separator in it
  have hmem : ∀ (part part' : List Char) (parts : List (List Char)),
      separator ∈ (separator :: between).intercalate (part :: part' :: parts) := by
    intro part part' parts
    rw [List.intercalate_cons_cons]
    simp
  induction parts generalizing first first' parts' with
  | nil =>
    cases parts' with
    | nil => simp
    | cons second' parts' =>
      refine iff_of_false (fun heq => h first List.mem_cons_self ?_) (by simp)
      rw [List.intercalate_singleton] at heq
      exact heq ▸ hmem first' second' parts'
  | cons second parts ih =>
    cases parts' with
    | nil =>
      refine iff_of_false (fun heq => h' first' List.mem_cons_self ?_) (by simp)
      rw [List.intercalate_singleton] at heq
      exact heq ▸ hmem first second parts
    | cons second' parts' =>
      have hrest : (separator :: between).intercalate (second :: parts) =
          (separator :: between).intercalate (second' :: parts') ↔
            second = second' ∧ parts = parts' :=
        ih (fun part hpart => h part (List.mem_cons_of_mem _ hpart))
          (fun part hpart => h' part (List.mem_cons_of_mem _ hpart))
      simp only [List.intercalate_cons_cons, List.append_assoc, List.cons_append]
      rw [first_inj (h first List.mem_cons_self) (h' first' List.mem_cons_self),
        List.append_cancel_left_eq, hrest, List.cons.injEq]

end PodMesh.Text
