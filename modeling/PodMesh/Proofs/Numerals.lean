import PodMesh.Pod
import PodMesh.Proofs.Address
import PodMesh.Rate

/-!
# Numbers in texts

A natural number is written in digits only, so other text beside it is not taken for a part of it,
and it is known by its digits (`decimal_inj`). A number of the binary format may show a sign, a
point or a name besides, but no control character, and neither does a rate
(`Rate.printable_inBytes`).
-/

namespace PodMesh

variable {n m : Nat} {c : Char}

/-! ## Natural numbers -/

theorem toList_decimal (n : Nat) : (decimal n).toList = Address.inBase 10 n := String.toList_ofList

/-- **A number is known by its digits.** -/
theorem decimal_inj : decimal n = decimal m ↔ n = m := by
  constructor
  · intro h
    have hdigits : Address.inBase 10 n = Address.inBase 10 m := by
      rw [← toList_decimal, ← toList_decimal, h]
    have hread := Address.ofBase?_inBase (by decide : 1 < 10) (by decide) n
    rw [hdigits, Address.ofBase?_inBase (by decide) (by decide)] at hread
    exact (Option.some.inj hread).symm
  · rintro rfl
    rfl

theorem not_mem_decimal (hc : Address.digitValue? c = none) : c ∉ (decimal n).toList := by
  rw [toList_decimal]
  exact Address.not_mem_inBase (by decide) (by decide) hc

/-! ## Rates -/

/-- Does a text keep clear of control characters? -/
def Text.Printable (cs : List Char) : Prop := ∀ c ∈ cs, ' ' ≤ c

instance (cs : List Char) : Decidable (Text.Printable cs) :=
  List.decidableBAll (' ' ≤ ·) cs

theorem Text.printable_append {cs cs' : List Char} :
    Printable (cs ++ cs') ↔ Printable cs ∧ Printable cs' := List.forall_mem_append

namespace Binary64

theorem printable_digits (n : Nat) : Text.Printable (digits n) := by
  have hdigit : ∀ d < 10, ' ' ≤ d.digitChar := by decide
  intro c hc
  obtain ⟨d, hd, rfl⟩ := Address.exists_digit_of_mem_inBase (by decide) n c hc
  exact hdigit d hd

theorem printable_pointed (places units : Nat) : Text.Printable (pointed places units) := by
  have hzeros : ∀ n, Text.Printable (List.replicate n '0') := by
    intro n c hc
    rw [List.eq_of_mem_replicate hc]
    decide
  refine Text.printable_append.mpr ⟨printable_digits _, List.forall_mem_cons.mpr ⟨by decide, ?_⟩⟩
  exact Text.printable_append.mpr ⟨hzeros _, printable_digits _⟩

theorem printable_fixed (places : Nat) (x : Binary64) : Text.Printable (fixed places x) := by
  have hsign : Text.Printable (if x.isNegative then ['-'] else []) := by
    split
    · decide
    · decide
  unfold fixed
  split
  · decide
  · dsimp only
    split
    · exact Text.printable_append.mpr ⟨hsign, by decide⟩
    · exact Text.printable_append.mpr ⟨hsign, printable_pointed _ _⟩

end Binary64

namespace Rate

/-- Whatever the multiple, the form is the same. -/
theorem exists_shown_eq (amount : Binary64) (unit : String) :
    ∃ scaled, ∃ multiple ∈ ["", "K", "M", "G"], shown amount unit =
      String.ofList (Binary64.fixed 2 scaled) ++ " " ++ multiple ++ unit ++ "/sec" := by
  unfold shown
  dsimp only
  split
  · exact ⟨_, "", by decide, rfl⟩
  · split
    · exact ⟨_, "K", by decide, rfl⟩
    · split
      · exact ⟨_, "M", by decide, rfl⟩
      · exact ⟨_, "G", by decide, rfl⟩

theorem printable_shown (amount : Binary64) {unit : String} (hunit : Text.Printable unit.toList) :
    Text.Printable (shown amount unit).toList := by
  obtain ⟨scaled, multiple, hmem, heq⟩ := exists_shown_eq amount unit
  have hmultiples : ∀ multiple ∈ ["", "K", "M", "G"], Text.Printable multiple.toList := by decide
  rw [heq]
  simp only [String.toList_append, String.toList_ofList, Text.printable_append]
  exact ⟨⟨⟨⟨Binary64.printable_fixed 2 scaled, by decide⟩, hmultiples _ hmem⟩, hunit⟩, by decide⟩

/-- **A rate is shown without control characters.** -/
theorem printable_inBytes (rate : Rate) : Text.Printable rate.inBytes.toList :=
  printable_shown _ (by decide)

/-- A rate is shown with a slash, as it is by the second. -/
theorem slash_mem_inBytes (rate : Rate) : '/' ∈ rate.inBytes.toList := by
  obtain ⟨scaled, multiple, _, heq⟩ :=
    exists_shown_eq (rate.bits.div (Binary64.ofNat 8)) "Bytes"
  rw [inBytes, heq, String.toList_append]
  exact List.mem_append_right _ (by decide)

end Rate

end PodMesh
