import Mathlib.Tactic.SplitIfs
import PodMesh.Json.Text
import PodMesh.Proofs.Address
import PodMesh.Proofs.Text.Utf8

/-!
# Strings read back from documents

What is written of a character takes the reader of a string from one plain place to the next with
just this character (`readText_writeChar`). So a string is read back as it was, with whatever
follows its closing quote left over.
-/

namespace PodMesh.Json

open PodMesh.Text (Symbol symbols symbols_append)

variable {taken : List Char} {rest : List Symbol}

/-- A string between its quotes, with what follows it. -/
theorem symbols_writeText (cs : List Char) (rest : List Symbol) :
    symbols (writeText cs) ++ rest =
      .char '"' :: (symbols (cs.flatMap writeChar) ++ .char '"' :: rest) := by
  simp [writeText]

/-- A digit of an escape that is not its last one. -/
theorem readText_digit {d : Nat} (hd : d < 16) (value owed : Nat) :
    readText.go taken false (.digits none value (owed + 2)) (.char d.digitChar :: rest) =
      readText.go taken false (.digits none (value * 16 + d) (owed + 1)) rest := by
  rw [readText.go]
  simp [Symbol.char?, Address.digitValue?_digitChar d hd]

/-- The last digit of an escape, if no surrogate comes of it. -/
theorem readText_lastDigit {d value : Nat} (hd : d < 16) (h : value * 16 + d < 0xD800) :
    readText.go taken false (.digits none value 1) (.char d.digitChar :: rest) =
      readText.go (Char.ofNat (value * 16 + d) :: taken) false .plain rest := by
  have hend : endDigits none (value * 16 + d) = .ok ([Char.ofNat (value * 16 + d)], .plain) := by
    have hlead : ¬ 0xD800 ≤ value * 16 + d := by omega
    have htrail : ¬ 0xDC00 ≤ value * 16 + d := by omega
    simp [endDigits, isLead, isTrail, hlead, htrail]
  rw [readText.go]
  simp [Symbol.char?, Address.digitValue?_digitChar d hd, hend]

/-- A character below U+0020 as it is escaped. -/
theorem readText_control {n : Nat} (h : n < 0x20) :
    readText.go taken false .plain (symbols ['\\', 'u', '0', '0', Nat.digitChar (n / 16),
      Nat.digitChar (n % 16)] ++ rest) = readText.go (Char.ofNat n :: taken) false .plain rest := by
  have hhigh : n / 16 < 16 := by omega
  have hlow : n % 16 < 16 := by omega
  have hvalue : (0 * 16 + n / 16) * 16 + n % 16 = n := by omega
  calc readText.go taken false .plain (symbols ['\\', 'u', '0', '0', Nat.digitChar (n / 16),
        Nat.digitChar (n % 16)] ++ rest)
      = readText.go taken false (.digits none 0 2)
          (.char (n / 16).digitChar :: .char (n % 16).digitChar :: rest) := rfl
    _ = readText.go taken false (.digits none (0 * 16 + n / 16) 1)
          (.char (n % 16).digitChar :: rest) := readText_digit hhigh 0 0
    _ = readText.go (Char.ofNat n :: taken) false .plain rest := by
      rw [readText_lastDigit hlow (by omega), hvalue]

/-- **What is written of a character is read as that character.** -/
theorem readText_writeChar (c : Char) :
    readText.go taken false .plain (symbols (writeChar c) ++ rest) =
      readText.go (c :: taken) false .plain rest := by
  rw [writeChar]
  split_ifs with hquote hslash h8 hc hn hr ht hcontrol
  -- seven characters have a short escape, and the reader goes through it
  · subst hquote; rfl
  · subst hslash; rfl
  · subst h8; rfl
  · subst hc; rfl
  · subst hn; rfl
  · subst hr; rfl
  · subst ht; rfl
  · rw [readText_control hcontrol, Char.ofNat_toNat]
  · change readText.go taken false .plain (.char c :: rest) = _
    rw [readText.go]
    simp only [hquote, hslash, hcontrol, if_false]

/-- **A string is read back up to its closing quote.** -/
theorem readText_flatMap_writeChar (cs : List Char) :
    readText (symbols (cs.flatMap writeChar) ++ .char '"' :: rest) = .ok (cs, rest) := by
  have hgo : ∀ taken : List Char,
      readText.go taken false .plain (symbols (cs.flatMap writeChar) ++ .char '"' :: rest) =
        .ok (taken.reverse ++ cs, rest) := by
    induction cs with
    | nil =>
      intro taken
      rw [List.append_nil]
      rfl
    | cons c cs ih =>
      intro taken
      rw [List.flatMap_cons, symbols_append, List.append_assoc, readText_writeChar, ih]
      simp
  exact hgo []

end PodMesh.Json
