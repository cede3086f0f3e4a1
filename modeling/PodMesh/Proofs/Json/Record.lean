import Mathlib.Data.List.Forall2
import PodMesh.Json.Record
import PodMesh.Proofs.Json.Format

/-!
# Records read back from documents

The text of a record names each of its fields once, so the reader meets every field before the
object closes, and takes each from the record that was written (`Field.Copies`). What it ends up
with is the blank record with every field copied (`readMembers_membersLeft`). Where that is the
record itself, the format is faithful (`Record.faithful`).
-/

namespace PodMesh.Json

open PodMesh.Text (Symbol symbols symbols_cons symbols_append)

variable {α β : Type} {rest : List Symbol}

/-- A field whose reader takes over, from the text of a record, what the record has in it. -/
def Field.Copies (field : Field α) (copy : α → α → α) : Prop :=
  ∀ (value record : α) {rest : List Symbol}, Ended rest →
    field.read record (symbols (field.write value) ++ rest) = .ok (copy value record, rest)

/-- A field that is made from a faithful format is copied, and so are those behind it. -/
theorem Field.copies_cons {format : Format β} (h : format.Faithful) {name : String} {get : α → β}
    {set : α → β → α} {required : Bool} {fields : List (Field α)} {copies : List (α → α → α)}
    (hfields : List.Forall₂ Field.Copies fields copies) :
    List.Forall₂ Field.Copies (Field.make name format get set required :: fields)
      ((fun value record => set record (get value)) :: copies) :=
  .cons (fun value _ _ hrest => bind_of_eq_ok (h.reads (get value) hrest) _) hfields

namespace Record

variable {r : Record α} {field : Field α} {fields : List (Field α)} {seen : List String}
  {value record : α} {copy : α → α → α} {copies : List (α → α → α)}

/-- A record with fields taken over from another one. -/
def copied (copies : List (α → α → α)) (value record : α) : α :=
  copies.foldl (fun record copy => copy value record) record

/-! ## Members -/

/-- The text of a member behind the opening quote of its key, and what follows it. -/
def member (value : α) (field : Field α) (after : List Symbol) : List Symbol :=
  symbols (field.name.toList.flatMap writeChar) ++
    .char '"' :: .char ':' :: (symbols (field.write value) ++ after)

theorem symbols_writeField (value : α) (field : Field α) (after : List Symbol) :
    symbols (writeField value field) ++ after = .char '"' :: member value field after := by
  rw [writeField, symbols_append, List.append_assoc, symbols_writeText]
  rfl

/-- The members of an object behind its first one, with the end of the object. -/
def membersLeft (value : α) (fields : List (Field α)) (rest : List Symbol) : List Symbol :=
  symbols (fields.flatMap fun field => ',' :: writeField value field) ++ .char '}' :: rest

theorem membersLeft_cons (value : α) (field : Field α) (fields : List (Field α))
    (rest : List Symbol) : membersLeft value (field :: fields) rest =
      .char ',' :: .char '"' :: member value field (membersLeft value fields rest) := by
  rw [← symbols_writeField]
  simp [membersLeft]

theorem ended_membersLeft (value : α) (fields : List (Field α)) (rest : List Symbol) :
    Ended (membersLeft value fields rest) := by
  cases fields with
  | nil => exact .brace rest
  | cons field fields => exact .comma _

/-! ## What is still to come -/

/-- A reader that has seen some names and has some fields to come. -/
structure Due (r : Record α) (fields : List (Field α)) (seen : List String) : Prop where
  mem : ∀ field ∈ fields, field ∈ r.fields
  /-- Every field is seen or comes. -/
  all : ∀ field ∈ r.fields, field ∈ fields ∨ field.name ∈ seen
  /-- None comes that was seen. -/
  fresh : ∀ field ∈ fields, field.name ∉ seen
  /-- None comes twice. -/
  nodup : (fields.map Field.name).Nodup

theorem due_start (hn : (r.fields.map Field.name).Nodup) : r.Due r.fields [] where
  mem _ h := h
  all _ h := .inl h
  fresh _ _ := List.not_mem_nil
  nodup := hn

theorem Due.next (h : r.Due (field :: fields) seen) : r.Due fields (field.name :: seen) where
  mem f hf := h.mem f (List.mem_cons_of_mem _ hf)
  all f hf := by
    rcases h.all f hf with hcomes | hseen
    · rcases List.mem_cons.mp hcomes with rfl | hcomes
      · exact .inr List.mem_cons_self
      · exact .inl hcomes
    · exact .inr (List.mem_cons_of_mem _ hseen)
  fresh f hf := by
    have hnodup := h.nodup
    rw [List.map_cons, List.nodup_cons] at hnodup
    intro hmem
    rcases List.mem_cons.mp hmem with hname | hseen
    · exact hnodup.1 (hname ▸ List.mem_map_of_mem hf)
    · exact h.fresh f (List.mem_cons_of_mem _ hf) hseen
  nodup := (List.nodup_cons.mp h.nodup).2

/-- A field is found by its name. -/
theorem find?_name (hn : (fields.map Field.name).Nodup) (h : field ∈ fields) :
    (fields.find? fun f => f.name.toList = field.name.toList) = some field := by
  induction fields with
  | nil => exact absurd h List.not_mem_nil
  | cons f fields ih =>
    rw [List.map_cons, List.nodup_cons] at hn
    rcases List.mem_cons.mp h with rfl | h
    · exact List.find?_cons_of_pos (by simp)
    · have hne : f.name ≠ field.name := by
        intro hname
        exact hn.1 (hname ▸ List.mem_map_of_mem h)
      rw [List.find?_cons_of_neg (by simpa [String.toList_inj] using hne)]
      exact ih hn.2 h

/-! ## Objects -/

/-- An object may close when every field was seen. -/
theorem readMembers_end (h : r.Due [] seen) (members : Nat) (first : Bool) (record : α)
    (rest : List Symbol) :
    r.readMembers (members + 1) first seen record (.char '}' :: rest) = .ok (record, rest) := by
  have hmissing : r.missing? seen = none := by
    rw [missing?, Option.map_eq_none_iff, List.find?_eq_none]
    intro field hfield
    have hseen : field.name ∈ seen := (h.all field hfield).resolve_left List.not_mem_nil
    simp [hseen]
  have hnext : nextMember first (.char '}' :: rest) = .ok none := by
    cases first <;> rfl
  rw [readMembers]
  refine (bind_of_eq_ok hnext _).trans ?_
  dsimp only
  rw [hmissing]
  rfl

/-- A member is read into its field, which is then seen. -/
theorem readMembers_member (hn : (r.fields.map Field.name).Nodup)
    (hdue : r.Due (field :: fields) seen) (hcopies : field.Copies copy) {members : Nat}
    {first : Bool} {src after : List Symbol}
    (hnext : nextMember first src = .ok (some (member value field after))) (hended : Ended after) :
    r.readMembers (members + 1) first seen record src =
      r.readMembers members false (field.name :: seen) (copy value record) after := by
  have hfind := find?_name hn (hdue.mem field List.mem_cons_self)
  have hfresh : field.name ∉ seen := hdue.fresh field List.mem_cons_self
  rw [readMembers]
  refine (bind_of_eq_ok hnext _).trans ?_
  refine (bind_of_eq_ok (readText_flatMap_writeChar field.name.toList) _).trans ?_
  dsimp only
  rw [hfind]
  dsimp only
  rw [if_neg hfresh]
  exact bind_of_eq_ok (hcopies value record hended) _

/-- **Members behind a first one are all read, each into its own field.** -/
theorem readMembers_membersLeft (hn : (r.fields.map Field.name).Nodup)
    (hcopies : List.Forall₂ Field.Copies fields copies) (hdue : r.Due fields seen) {members : Nat}
    (hmembers : fields.length < members) (record : α) :
    r.readMembers members false seen record (membersLeft value fields rest) =
      .ok (copied copies value record, rest) := by
  induction hcopies generalizing seen members record with
  | nil =>
    obtain ⟨members, rfl⟩ := Nat.exists_eq_add_one_of_ne_zero (Nat.ne_of_gt hmembers)
    exact readMembers_end hdue members false record rest
  | @cons field copy fields copies hcopy _ ih =>
    obtain ⟨members, rfl⟩ := Nat.exists_eq_add_one_of_ne_zero (Nat.ne_zero_of_lt hmembers)
    have hnext : nextMember false (membersLeft value (field :: fields) rest) =
        .ok (some (member value field (membersLeft value fields rest))) := by
      rw [membersLeft_cons]
      rfl
    rw [readMembers_member hn hdue hcopy hnext (ended_membersLeft value fields rest)]
    exact ih hdue.next (Nat.lt_of_succ_lt_succ hmembers) (copy value record)

/-- **A record whose fields have different names, and which is made up of them, is read back.** -/
theorem faithful (hn : (r.fields.map Field.name).Nodup)
    (hcopies : List.Forall₂ Field.Copies r.fields copies)
    (hmade : ∀ value, copied copies value r.blank = value) : r.format.Faithful where
  starts _ := ⟨'{', _, rfl, by decide⟩
  reads value {rest} _ := by
    change r.read (symbols (r.write value) ++ rest) = .ok (value, rest)
    have hdue := due_start hn
    have hvalue := hmade value
    cases hfields : r.fields with
    | nil =>
      rw [hfields] at hcopies hdue
      -- the object closes at once
      cases hcopies
      have hsrc : symbols (r.write value) ++ rest = .char '{' :: .char '}' :: rest := by
        simp [write, hfields]
      rw [hsrc, ← hvalue]
      exact readMembers_end hdue _ true r.blank rest
    | cons field fields =>
      rw [hfields] at hcopies hdue
      obtain ⟨copy, copies, hcopy, hlater, rfl⟩ := List.forall₂_cons_left_iff.mp hcopies
      have hsrc : symbols (r.write value) ++ rest =
          .char '{' :: .char '"' :: member value field (membersLeft value fields rest) := by
        rw [← symbols_writeField]
        simp [write, hfields, membersLeft, intercalate_cons_eq, List.flatMap_map]
      -- the first member comes without a comma, so it is read apart from the others
      have hlength : fields.length <
          (Symbol.char '"' :: member value field (membersLeft value fields rest)).length := by
        have hmembers := length_le_flatMap ',' (writeField value) fields
        simp only [member, membersLeft, symbols, List.length_append, List.length_map,
          List.length_cons]
        omega
      rw [hsrc]
      refine (readMembers_member hn hdue hcopy rfl (ended_membersLeft value fields rest)).trans ?_
      refine (readMembers_membersLeft hn hlater hdue.next hlength _).trans ?_
      exact congrArg (fun value => Except.ok (value, rest)) hvalue

end Record

end PodMesh.Json
