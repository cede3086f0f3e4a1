import PodMesh.Json.Format
import PodMesh.Proofs.Json.Text

/-!
# Values read back from documents

A format is faithful if its reader takes the text of a value for that value and leaves alone what
follows. For a number that holds only where something follows that cannot go on with it, so the
law speaks of what may stand behind a value in a document (`Ended`). It also says how a text may
start: the reader of a list decides by the first symbol whether an item comes at all.

Each way to make formats keeps the law, so a format is faithful because its parts are. A faithful
format reads its own documents back, and what it writes of any document that it reads stays as it
is from then on (`Faithful.stable`).
-/

namespace PodMesh.Json

open PodMesh.Text (Symbol symbols symbols_cons symbols_append)

/-- What may follow a value: nothing, or something that goes on or closes around it. -/
inductive Ended : List Symbol → Prop where
  | nil : Ended []
  | comma (rest : List Symbol) : Ended (.char ',' :: rest)
  | bracket (rest : List Symbol) : Ended (.char ']' :: rest)
  | brace (rest : List Symbol) : Ended (.char '}' :: rest)

/-- Can a value start with this? -/
def opens (c : Char) : Bool := !isBlank (.char c) && c ≠ ',' && c ≠ ']'

variable {c : Char} {rest : List Symbol}

theorem skipBlank_of_opens (h : opens c) (rest : List Symbol) :
    skipBlank (.char c :: rest) = .char c :: rest := by
  have hblank : isBlank (.char c) = false := by
    simp only [opens, Bool.and_eq_true, Bool.not_eq_true'] at h
    exact h.1.1
  rw [skipBlank, List.dropWhile_cons_of_neg (by rw [hblank]; exact Bool.false_ne_true)]

/-- What opens a value neither goes on with the list around it nor closes it. -/
theorem ne_of_opens (h : opens c) : c ≠ ',' ∧ c ≠ ']' := by
  constructor
  · rintro rfl
    exact absurd h (by decide)
  · rintro rfl
    exact absurd h (by decide)

theorem skipWord_symbols (word : List Char) (rest : List Symbol) :
    skipWord word (symbols word ++ rest) = .ok rest := by
  induction word with
  | nil => rfl
  | cons c word ih =>
    rw [symbols_cons, List.cons_append, skipWord, if_pos rfl, ih]

theorem bind_of_eq_ok {α β : Type} {x : Except Fault α} {a : α} (h : x = .ok a)
    (f : α → Except Fault β) : (x >>= f) = f a := by
  rw [h]
  rfl

/-- Written one behind another, the texts behind the first one each have a separator in front. -/
theorem intercalate_cons_eq {α : Type} (separator : α) (piece : List α) (pieces : List (List α)) :
    [separator].intercalate (piece :: pieces) = piece ++ pieces.flatMap (separator :: ·) := by
  induction pieces generalizing piece with
  | nil => rw [List.intercalate_singleton, List.flatMap_nil, List.append_nil]
  | cons next pieces ih =>
    rw [List.intercalate_cons_cons, ih, List.flatMap_cons, List.append_assoc]
    rfl

/-- Each of these texts takes a character at least. -/
theorem length_le_flatMap {α : Type} (separator : Char) (text : α → List Char) (xs : List α) :
    xs.length ≤ (xs.flatMap fun x => separator :: text x).length := by
  induction xs with
  | nil => exact Nat.le_refl 0
  | cons x xs ih =>
    rw [List.flatMap_cons, List.length_append, List.length_cons, List.length_cons]
    omega

namespace Format

variable {α : Type} {format : Format α}

/-- A format whose reader takes the text of a value for that value, whatever follows. -/
structure Faithful (format : Format α) : Prop where
  /-- A text starts like a value. -/
  starts : ∀ value, ∃ c cs, format.write value = c :: cs ∧ opens c
  /-- It is read as the value it is the text of. -/
  reads : ∀ value {rest}, Ended rest →
    format.read (symbols (format.write value) ++ rest) = .ok (value, rest)

/-! ## Single values -/

theorem readString_writeText (expected : String) (cs : List Char) (rest : List Symbol) :
    readString expected (symbols (writeText cs) ++ rest) = .ok (cs, rest) := by
  rw [symbols_writeText, readString, skipBlank_of_opens (by decide)]
  exact readText_flatMap_writeChar cs

theorem faithful_string : string.Faithful where
  starts _ := ⟨'"', _, rfl, by decide⟩
  reads value {rest} _ := by
    have hread := readString_writeText "a string" value.toList rest
    refine (bind_of_eq_ok hread _).trans ?_
    exact congrArg (fun s => Except.ok (s, rest)) String.ofList_toList

theorem faithful_address : address.Faithful where
  starts _ := ⟨'"', _, rfl, by decide⟩
  reads value {rest} _ := by
    have hread := readString_writeText "IP address" value.text.toList rest
    refine (bind_of_eq_ok hread _).trans ?_
    dsimp only
    rw [String.ofList_toList, Address.ofText?_text]
    rfl

theorem faithful_bool : bool.Faithful where
  starts value := by
    cases value with
    | true => exact ⟨'t', _, rfl, by decide⟩
    | false => exact ⟨'f', _, rfl, by decide⟩
  reads value {rest} _ := by
    cases value with
    | true => exact bind_of_eq_ok (skipWord_symbols "rue".toList rest) _
    | false => exact bind_of_eq_ok (skipWord_symbols "alse".toList rest) _

/-! ## Numbers -/

theorem isDigit_digitChar : ∀ d < 10, isDigit (.char d.digitChar) = true := by decide

theorem digit_digitChar : ∀ d < 10, digit (.char d.digitChar) = d := by decide

theorem isDigit_of_mem_inBase {n : Nat} (h : c ∈ Address.inBase 10 n) :
    isDigit (.char c) = true := by
  obtain ⟨d, hd, rfl⟩ := Address.exists_digit_of_mem_inBase (by decide) n c h
  exact isDigit_digitChar d hd

/-- The digits of a number end where the number does. -/
theorem takeWhile_isDigit (n : Nat) (h : Ended rest) :
    (symbols (Address.inBase 10 n) ++ rest).takeWhile isDigit = symbols (Address.inBase 10 n) ∧
      (symbols (Address.inBase 10 n) ++ rest).dropWhile isDigit = rest := by
  have hdigits : ∀ s ∈ symbols (Address.inBase 10 n), isDigit s = true := by
    intro s hs
    obtain ⟨c, hc, rfl⟩ := List.mem_map.mp hs
    exact isDigit_of_mem_inBase hc
  -- what may follow a value is no digit
  have hrest : rest.takeWhile isDigit = [] ∧ rest.dropWhile isDigit = rest := by
    cases h <;> exact ⟨rfl, rfl⟩
  rw [List.takeWhile_append_of_pos hdigits, List.dropWhile_append_of_pos hdigits, hrest.1, hrest.2,
    List.append_nil]
  exact ⟨rfl, rfl⟩

theorem absorb_append {acc m : Nat} {src more : List Symbol} (h : absorb acc src = (m, [])) :
    absorb acc (src ++ more) = absorb m more := by
  induction src generalizing acc with
  | nil =>
    injection h with h
    rw [List.nil_append, h]
  | cons s src ih =>
    rw [absorb] at h
    rw [List.cons_append, absorb]
    split
    · rename_i hfull
      rw [if_pos hfull] at h
      injection h with _ h
      exact absurd h (List.cons_ne_nil _ _)
    · rename_i hfits
      rw [if_neg hfits] at h
      exact ih h

theorem absorb_digit {acc d : Nat} (hd : d < 10) (h : acc * 10 + d ≤ maxWord) :
    absorb acc (symbols [d.digitChar]) = (acc * 10 + d, []) := by
  rw [symbols_cons, absorb, digit_digitChar d hd, if_neg (Nat.not_lt.mpr h)]
  rfl

/-- The digits of a number that fits make up its significand. -/
theorem absorb_inBase (n : Nat) :
    n ≤ maxWord → absorb 0 (symbols (Address.inBase 10 n)) = (n, []) := by
  refine Address.inBase_induction (by decide)
    (motive := fun n cs => n ≤ maxWord → absorb 0 (symbols cs) = (n, [])) ?_ ?_ n
  · intro d hd h
    have hvalue : 0 * 10 + d = d := by omega
    rw [absorb_digit hd (hvalue.symm ▸ h), hvalue]
  · intro n _ d hd ih h
    rw [symbols_append, absorb_append (ih (by omega)), absorb_digit hd h]

/-- A number that fits is read back up to where it ends. -/
theorem readUnsigned_inBase {n : Nat} (hn : n ≤ maxWord) (h : Ended rest) :
    readUnsigned false (symbols (Address.inBase 10 n) ++ rest) = .ok (.natural n, rest) := by
  obtain ⟨hdigits, hafter⟩ := takeWhile_isDigit n h
  unfold readUnsigned
  simp only [hdigits, hafter]
  split
  · rename_i hnil
    exact absurd (List.map_eq_nil_iff.mp hnil) Address.inBase_ne_nil
  · -- only zero starts with a zero, and it is written with one digit
    rename_i second more hzero
    have hhead : (Address.inBase 10 n).head? = some '0' := by
      cases hcs : Address.inBase 10 n with
      | nil => exact absurd hcs Address.inBase_ne_nil
      | cons c cs =>
        rw [hcs, symbols_cons] at hzero
        injection hzero with hc
        rw [Symbol.char.inj hc]
        rfl
    rw [Address.eq_zero_of_head?_inBase (by decide) (by decide) n hhead] at hzero
    injection hzero with _ hmore
    exact absurd hmore.symm (List.cons_ne_nil _ _)
  · rw [absorb_inBase n hn]
    cases h <;> rfl

theorem opens_of_mem_inBase {n : Nat} (h : c ∈ Address.inBase 10 n) : opens c := by
  have hdigits : ∀ d < 10, opens d.digitChar = true := by decide
  obtain ⟨d, hd, rfl⟩ := Address.exists_digit_of_mem_inBase (by decide) n c h
  exact hdigits d hd

/-- What is written of a number is not taken for anything else. -/
theorem readNumeric_inBase (expected : String) {n : Nat} (hn : n ≤ maxWord) (h : Ended rest) :
    readNumeric expected (symbols (Address.inBase 10 n) ++ rest) = .ok (.natural n, rest) := by
  have hread := readUnsigned_inBase hn h
  obtain ⟨c, cs, hcs⟩ := List.exists_cons_of_ne_nil (@Address.inBase_ne_nil 10 n)
  have hmem : c ∈ Address.inBase 10 n := hcs ▸ List.mem_cons_self
  have hdigit : isDigit (.char c) = true := isDigit_of_mem_inBase hmem
  have hsign : c ≠ '-' := by
    rintro rfl
    exact Bool.false_ne_true hdigit
  rw [hcs, symbols_cons, List.cons_append] at hread ⊢
  rw [readNumeric, skipBlank_of_opens (opens_of_mem_inBase hmem)]
  dsimp only
  rw [hdigit, Bool.or_true, if_pos rfl, readNumber, hread]
  intro rest hminus
  injection hminus with hc
  exact hsign (Symbol.char.inj hc)

theorem faithful_word : word.Faithful where
  starts value := by
    obtain ⟨c, cs, h⟩ := List.exists_cons_of_ne_nil (@Address.inBase_ne_nil 10 value.toNat)
    exact ⟨c, cs, h, opens_of_mem_inBase (h ▸ List.mem_cons_self)⟩
  reads value {rest} h := by
    have hlt : value.toNat < 65536 := value.toNat_lt
    have hfits : value.toNat ≤ maxWord := Nat.le_trans (Nat.le_of_lt hlt) (by decide)
    refine (bind_of_eq_ok (readNumeric_inBase "u16" hfits h) _).trans ?_
    dsimp only
    rw [if_pos hlt, UInt16.ofNat_toNat]
    rfl

/-! ## Values that may be missing -/

/-- What does not start as null does is left to the reader of the value. -/
theorem nullable_read (format : Format α) (src : List Symbol) : format.nullable.read src =
    match skipBlank src with
    | .char 'n' :: rest => do return (none, ← skipWord "ull".toList rest)
    | src => do
      let (value, rest) ← format.read src
      return (some value, rest) := rfl

theorem Faithful.nullable (h : format.Faithful)
    (hn : ∀ value, (format.write value).head? ≠ some 'n') : format.nullable.Faithful where
  starts value := by
    cases value with
    | none => exact ⟨'n', _, rfl, by decide⟩
    | some value => exact h.starts value
  reads value {rest} hrest := by
    cases value with
    | none => exact bind_of_eq_ok (skipWord_symbols "ull".toList rest) _
    | some value =>
      have hread := h.reads value hrest
      obtain ⟨c, cs, hwrite, hc⟩ := h.starts value
      have hne : c ≠ 'n' := by
        rintro rfl
        exact hn value (hwrite ▸ rfl)
      have hwritten : format.nullable.write (some value) = format.write value := rfl
      rw [hwritten, nullable_read, hwrite, symbols_cons, List.cons_append, skipBlank_of_opens hc]
      rw [hwrite, symbols_cons, List.cons_append] at hread
      split
      · rename_i rest' hnull
        injection hnull with hnull
        exact absurd (Symbol.char.inj hnull) hne
      · exact bind_of_eq_ok hread _

/-! ## Lists -/

theorem nextItem_first (hc : opens c) (rest : List Symbol) :
    nextItem true (.char c :: rest) = .ok (some (.char c :: rest)) := by
  obtain ⟨hcomma, hbracket⟩ := ne_of_opens hc
  rw [nextItem, skipBlank_of_opens hc]
  split
  · rename_i h
    exact absurd h (List.cons_ne_nil _ _)
  · rename_i h
    injection h with h
    exact absurd (Symbol.char.inj h) hbracket
  · rename_i h
    injection h with h
    exact absurd (Symbol.char.inj h) hcomma
  · rfl

/-- Behind a comma there has to be another item. -/
theorem nextItem_behind_comma (src : List Symbol) : nextItem false (.char ',' :: src) =
    match skipBlank src with
    | [] => .error (.ends .value)
    | .char ']' :: _ => .error .trailingComma
    | src => .ok (some src) := rfl

theorem nextItem_comma (hc : opens c) (rest : List Symbol) :
    nextItem false (.char ',' :: .char c :: rest) = .ok (some (.char c :: rest)) := by
  obtain ⟨_, hbracket⟩ := ne_of_opens hc
  rw [nextItem_behind_comma, skipBlank_of_opens hc]
  split
  · rename_i h
    exact absurd h (List.cons_ne_nil _ _)
  · rename_i h
    injection h with h
    exact absurd (Symbol.char.inj h) hbracket
  · rfl

/-- The reader of items reads an item once it has gone to it. -/
theorem readItems_cons (h : format.Faithful) {first : Bool} {items : Nat} {src after : List Symbol}
    {value : α} {values : List α}
    (hnext : nextItem first src = .ok (some (symbols (format.write value) ++ after)))
    (hended : Ended after) (hmore : readItems format.read items false after = .ok (values, rest)) :
    readItems format.read (items + 1) first src = .ok (value :: values, rest) := by
  rw [readItems]
  refine (bind_of_eq_ok hnext _).trans ?_
  dsimp only
  refine (bind_of_eq_ok (h.reads value hended) _).trans ?_
  exact bind_of_eq_ok hmore _

/-- The items of a list behind its first one, with the end of the list. -/
def itemsLeft (format : Format α) (values : List α) (rest : List Symbol) : List Symbol :=
  symbols (values.flatMap fun value => ',' :: format.write value) ++ .char ']' :: rest

theorem ended_itemsLeft (values : List α) (rest : List Symbol) :
    Ended (format.itemsLeft values rest) := by
  cases values with
  | nil => exact .bracket rest
  | cons value values => exact .comma _

/-- **Items behind a first one are read back up to the end of their list.** -/
theorem readItems_itemsLeft (h : format.Faithful) (values : List α) {items : Nat}
    (hitems : values.length < items) :
    readItems format.read items false (format.itemsLeft values rest) = .ok (values, rest) := by
  induction values generalizing items with
  | nil =>
    obtain ⟨items, rfl⟩ := Nat.exists_eq_add_one_of_ne_zero (Nat.ne_of_gt hitems)
    rfl
  | cons value values ih =>
    obtain ⟨items, rfl⟩ := Nat.exists_eq_add_one_of_ne_zero (Nat.ne_zero_of_lt hitems)
    have hsrc : format.itemsLeft (value :: values) rest =
        .char ',' :: (symbols (format.write value) ++ format.itemsLeft values rest) := by
      simp [itemsLeft]
    have hnext : nextItem false (format.itemsLeft (value :: values) rest) =
        .ok (some (symbols (format.write value) ++ format.itemsLeft values rest)) := by
      obtain ⟨c, cs, hwrite, hc⟩ := h.starts value
      rw [hsrc, hwrite]
      exact nextItem_comma hc _
    exact readItems_cons h hnext (ended_itemsLeft values rest) (ih (Nat.lt_of_succ_lt_succ hitems))

theorem Faithful.list (h : format.Faithful) : format.list.Faithful where
  starts _ := ⟨'[', _, rfl, by decide⟩
  reads values {rest} _ := by
    cases values with
    | nil => rfl
    | cons value values =>
      have hsrc : symbols (format.list.write (value :: values)) ++ rest =
          .char '[' :: (symbols (format.write value) ++ format.itemsLeft values rest) := by
        simp [Format.list, itemsLeft, intercalate_cons_eq, List.flatMap_map]
      have hnext : nextItem true (symbols (format.write value) ++ format.itemsLeft values rest) =
          .ok (some (symbols (format.write value) ++ format.itemsLeft values rest)) := by
        obtain ⟨c, cs, hwrite, hc⟩ := h.starts value
        rw [hwrite]
        exact nextItem_first hc _
      -- every item has a comma or an end behind it, so the document is long enough for all
      have hlength : values.length <
          (symbols (format.write value) ++ format.itemsLeft values rest).length := by
        have hitems := length_le_flatMap ',' format.write values
        simp only [itemsLeft, symbols, List.length_append, List.length_map, List.length_cons]
        omega
      rw [hsrc]
      exact readItems_cons h hnext (ended_itemsLeft values rest)
        (readItems_itemsLeft h values hlength)

/-! ## Names -/

theorem faithful_choice {names : List (String × α)} {name : α → String}
    (h : ∀ value, ofName names (name value).toList = .ok value) :
    (choice names name).Faithful where
  starts _ := ⟨'"', _, rfl, by decide⟩
  reads value {rest} _ := by
    change (choice names name).read (symbols (writeText (name value).toList) ++ rest) = _
    rw [symbols_writeText]
    refine (bind_of_eq_ok (readText_flatMap_writeChar (name value).toList) _).trans ?_
    exact bind_of_eq_ok (h value) _

/-! ## Documents -/

/-- What a document is read as, written again. -/
def rewritten (format : Format α) (src : List Symbol) : Except Fault (List Char) :=
  (format.ofDocument src).map format.write

/-- A format that reads its own documents back, so that they stay as they are. -/
structure Stable (format : Format α) : Prop where
  /-- The text of a value is a document that holds the value. -/
  document : ∀ value, format.ofDocument (symbols (format.write value)) = .ok value
  /-- What any document was read as and written again stays as it is. -/
  rewritten : ∀ src cs, format.rewritten src = .ok cs → format.rewritten (symbols cs) = .ok cs

theorem Faithful.document (h : format.Faithful) (value : α) :
    format.ofDocument (symbols (format.write value)) = .ok value := by
  have hread := h.reads value .nil
  rw [List.append_nil] at hread
  rw [ofDocument, hread]
  rfl

/-- **A faithful format is stable.** -/
theorem Faithful.stable (h : format.Faithful) : format.Stable where
  document := h.document
  rewritten src cs hcs := by
    rw [rewritten] at hcs
    cases hsrc : format.ofDocument src with
    | error fault =>
      rw [hsrc] at hcs
      cases hcs
    | ok value =>
      rw [hsrc] at hcs
      injection hcs with hcs
      rw [rewritten, ← hcs, h.document]
      rfl

end Format

end PodMesh.Json
