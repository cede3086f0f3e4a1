import PodMesh.Address

/-!
# Addresses read back from their texts

The reader takes more texts than the writer makes, so what matters is that the writer's text of
an address leads to no other one (`ofText?_text`). Fields never hold the character between
them, so a text falls apart into the fields it was made of. In a version 6 text the `::` stands
for as many zero groups as were left out, because the other groups are all still there.
-/

namespace PodMesh

/-! ## Fields -/

namespace Text

theorem splitOn_eq (separator : Char) (cs : List Char) :
    splitOn separator cs = cs.splitOn separator := by
  induction cs with
  | nil => rfl
  | cons c cs ih =>
    rw [splitOn, ih, List.splitOn_cons_eq_if_modifyHead]
    simp only [beq_iff_eq]
    split
    · rfl
    · obtain ⟨piece, pieces, h⟩ :=
        List.exists_cons_of_ne_nil (List.splitOnP_ne_nil (· == separator) cs)
      rw [List.splitOn, h]
      rfl

theorem mem_intercalate {c separator : Char} : ∀ {pieces : List (List Char)},
    c ∈ [separator].intercalate pieces → c = separator ∨ ∃ piece ∈ pieces, c ∈ piece
  | [], h => absurd h List.not_mem_nil
  | [piece], h => by
    rw [List.intercalate_singleton] at h
    exact .inr ⟨piece, List.mem_singleton_self piece, h⟩
  | piece :: piece' :: pieces, h => by
    rw [List.intercalate_cons_cons, List.mem_append, List.mem_append] at h
    rcases h with (h | h) | h
    · exact .inr ⟨piece, List.mem_cons_self, h⟩
    · exact .inl (List.mem_singleton.mp h)
    · rcases mem_intercalate h with h | ⟨piece, hp, h⟩
      · exact .inl h
      · exact .inr ⟨piece, List.mem_cons_of_mem _ hp, h⟩

theorem separator_mem_intercalate {separator : Char} : ∀ {pieces : List (List Char)},
    2 ≤ pieces.length → separator ∈ [separator].intercalate pieces
  | piece :: piece' :: pieces, _ => by
    rw [List.intercalate_cons_cons]
    exact List.mem_append_left _ (List.mem_append_right _ List.mem_cons_self)

end Text

namespace Address

variable {base n : Nat} {cs : List Char} {c : Char}

/-! ## Numbers -/

theorem digitValue?_digitChar : ∀ d < 16, digitValue? d.digitChar = some d := by decide

theorem inBase_ne_nil : inBase base n ≠ [] := Nat.toDigits_ne_nil

/-- **Digits are read from the front and come from the back.** What holds of a single digit, and
with the digits of a number also with one more digit behind them, holds of every number. -/
theorem inBase_induction (hb : 1 < base) {motive : Nat → List Char → Prop}
    (single : ∀ d < base, motive d [d.digitChar])
    (snoc : ∀ n > 0, ∀ d < base, motive n (inBase base n) →
      motive (n * base + d) (inBase base n ++ [d.digitChar]))
    (n : Nat) : motive n (inBase base n) := by
  induction n using Nat.strongRecOn with
  | ind n ih =>
    have hpos : 0 < base := Nat.lt_trans Nat.zero_lt_one hb
    by_cases h : n < base
    · rw [inBase, Nat.toDigits_of_lt_base h]
      exact single n h
    · have hle : base ≤ n := Nat.le_of_not_lt h
      have hdiv : 0 < n / base := Nat.div_pos hle hpos
      have hfront := ih (n / base) (Nat.div_lt_self (Nat.lt_of_lt_of_le hpos hle) hb)
      have hlast := snoc (n / base) hdiv (n % base) (Nat.mod_lt n hpos) hfront
      rw [Nat.div_add_mod'] at hlast
      rw [inBase, Nat.toDigits_of_base_le hb hle]
      exact hlast

/-- What is written of a number is its digits. -/
theorem exists_digit_of_mem_inBase (hb : 1 < base) (n : Nat) :
    ∀ c ∈ inBase base n, ∃ d < base, c = d.digitChar := by
  refine inBase_induction hb (motive := fun _ cs => ∀ c ∈ cs, ∃ d < base, c = d.digitChar) ?_ ?_ n
  · intro d hd c hc
    exact ⟨d, hd, List.mem_singleton.mp hc⟩
  · intro n _ d hd ih c hc
    rcases List.mem_append.mp hc with hc | hc
    · exact ih c hc
    · exact ⟨d, hd, List.mem_singleton.mp hc⟩

theorem not_mem_inBase (hb : 1 < base) (hle : base ≤ 16) (hc : digitValue? c = none) :
    c ∉ inBase base n := by
  intro h
  obtain ⟨d, hd, rfl⟩ := exists_digit_of_mem_inBase hb n c h
  rw [digitValue?_digitChar d (Nat.lt_of_lt_of_le hd hle)] at hc
  exact nomatch hc

/-- No number above zero starts with the digit zero. -/
theorem eq_zero_of_head?_inBase (hb : 1 < base) (hle : base ≤ 16) (n : Nat) :
    (inBase base n).head? = some '0' → n = 0 := by
  have hzero : ∀ d < 16, d.digitChar = '0' → d = 0 := by decide
  refine inBase_induction hb (motive := fun n cs => cs.head? = some '0' → n = 0) ?_ ?_ n
  · intro d hd h
    exact hzero d (Nat.lt_of_lt_of_le hd hle) (Option.some.inj h)
  · intro n hn d _ ih h
    obtain ⟨c, cs, hcs⟩ := List.exists_cons_of_ne_nil (@inBase_ne_nil base n)
    rw [hcs] at ih h
    exact absurd (ih h) (Nat.ne_of_gt hn)

/-- **A number is read back from its digits.** -/
theorem ofBase?_inBase (hb : 1 < base) (hle : base ≤ 16) (n : Nat) :
    ofBase? base (inBase base n) = some n := by
  have hdigit : ∀ d < base, digitValue? d.digitChar = some d := fun d hd =>
    digitValue?_digitChar d (Nat.lt_of_lt_of_le hd hle)
  rw [ofBase?, if_neg (by simpa using inBase_ne_nil)]
  refine inBase_induction hb (motive := fun n cs => cs.foldlM (fun n c => do
    let d ← digitValue? c
    if d < base then some (n * base + d) else none) 0 = some n) ?_ ?_ n
  · intro d hd
    simp [hdigit d hd, hd]
  · intro n _ d hd ih
    rw [List.foldlM_append, ih]
    simp [hdigit d hd, hd]

/-- What is no digit is in no number. -/
theorem ofBase?_eq_none (h : c ∈ cs) (hc : digitValue? c = none) : ofBase? base cs = none := by
  rw [ofBase?, if_neg (by simpa using List.ne_nil_of_mem h)]
  generalize 0 = n
  induction cs generalizing n with
  | nil => exact absurd h List.not_mem_nil
  | cons c' cs ih =>
    rw [List.foldlM_cons]
    rcases List.mem_cons.mp h with rfl | h
    · rw [hc]
      rfl
    · cases digitValue? c' with
      | none => rfl
      | some d =>
        by_cases hd : d < base
        · simp only [hd, Option.bind_eq_bind, Option.bind_some, if_true]
          exact ih h _
        · simp [hd]

theorem octet?_inBase (o : UInt8) : octet? (inBase 10 o.toNat) = some o := by
  have hlt : o.toNat < 256 := o.toNat_lt
  have hlength : (inBase 10 o.toNat).length ≤ 3 :=
    (Nat.length_toDigits_le_iff (by decide) (by decide)).mpr (by omega)
  have hzero : (inBase 10 o.toNat).length = 1 ∨ (inBase 10 o.toNat).head? ≠ some '0' := by
    by_cases h : (inBase 10 o.toNat).head? = some '0'
    · rw [eq_zero_of_head?_inBase (by decide) (by decide) o.toNat h]
      exact .inl rfl
    · exact .inr h
  rw [octet?, ofBase?_inBase (by decide) (by decide)]
  simp [hlength, hlt, hzero]

theorem group?_inBase (g : UInt16) : group? (inBase 16 g.toNat) = some g := by
  have hlt : g.toNat < 65536 := g.toNat_lt
  have hlength : (inBase 16 g.toNat).length ≤ 4 :=
    (Nat.length_toDigits_le_iff (by decide) (by decide)).mpr (by omega)
  rw [group?, ofBase?_inBase (by decide) (by decide)]
  simp [hlength]

/-- Numbers between separators fall apart into the numbers. -/
theorem splitOn_numbers {α : Type} {separator : Char} {xs : List α} (hb : 1 < base)
    (hle : base ≤ 16) (hc : digitValue? separator = none) (number : α → Nat) (h : xs ≠ []) :
    Text.splitOn separator ([separator].intercalate (xs.map fun x => inBase base (number x))) =
      xs.map fun x => inBase base (number x) := by
  rw [Text.splitOn_eq, List.splitOn_intercalate]
  · intro field hfield
    obtain ⟨x, _, rfl⟩ := List.mem_map.mp hfield
    exact not_mem_inBase hb hle hc
  · exact mt List.map_eq_nil_iff.mp h

/-- Among numbers between separators there is nothing but digits and separators. -/
theorem not_mem_numbers {α : Type} {separator : Char} (hb : 1 < base) (hle : base ≤ 16)
    (hc : digitValue? c = none) (hne : c ≠ separator) (number : α → Nat) (xs : List α) :
    c ∉ [separator].intercalate (xs.map fun x => inBase base (number x)) := fun h => by
  obtain ⟨field, hfield, hmem⟩ := (Text.mem_intercalate h).resolve_left hne
  obtain ⟨x, _, rfl⟩ := List.mem_map.mp hfield
  exact not_mem_inBase hb hle hc hmem

/-! ## Version 4 -/

theorem mapM_map_eq_some {α β : Type} {write : α → β} {read? : β → Option α}
    (h : ∀ x, read? (write x) = some x) (xs : List α) : (xs.map write).mapM read? = some xs := by
  induction xs with
  | nil => rfl
  | cons x xs ih => simp [h, ih]

theorem mapM_eq_none_of_mem {α β : Type} {read? : α → Option β} {x : α} (hx : read? x = none) :
    ∀ {xs : List α}, x ∈ xs → xs.mapM read? = none
  | y :: ys, h => by
    rw [List.mapM_cons]
    rcases List.mem_cons.mp h with rfl | h
    · rw [hx]
      rfl
    · rw [mapM_eq_none_of_mem hx h]
      cases read? y <;> rfl

/-- **A version 4 address is read back from its text.** -/
theorem octets?_octetsText (octets : Vector UInt8 4) :
    octets? (octetsText octets) = some octets := by
  have hsplit : Text.splitOn '.' (octetsText octets) =
      octets.toList.map fun o => inBase 10 o.toNat :=
    splitOn_numbers (by decide) (by decide) (by decide) UInt8.toNat (by simp)
  have hlength : octets.toList.length = 4 := octets.length_toList
  rw [octets?, hsplit, mapM_map_eq_some octet?_inBase]
  simp only [Option.bind_eq_bind, Option.bind_some, hlength, dif_pos, Option.some.injEq]
  exact Vector.toList_inj.mp rfl

theorem dot_mem_octetsText (octets : Vector UInt8 4) : '.' ∈ octetsText octets :=
  Text.separator_mem_intercalate (by simp)

theorem colon_not_mem_octetsText (octets : Vector UInt8 4) : ':' ∉ octetsText octets :=
  not_mem_numbers (by decide) (by decide) (by decide) (by decide) UInt8.toNat octets.toList

/-- What is neither a digit nor a dot is in no version 4 address. -/
theorem octets?_eq_none (h : c ∈ cs) (hdot : c ≠ '.') (hc : digitValue? c = none) :
    octets? cs = none := by
  have hjoin : ['.'].intercalate (Text.splitOn '.' cs) = cs := by
    rw [Text.splitOn_eq, List.intercalate_splitOn]
  rw [← hjoin] at h
  obtain ⟨field, hfield, hmem⟩ := (Text.mem_intercalate h).resolve_left hdot
  have hoctet : octet? field = none := by
    rw [octet?, ofBase?_eq_none hmem hc]
    rfl
  rw [octets?, mapM_eq_none_of_mem hoctet hfield]
  rfl

/-! ## Groups -/

theorem splitGap_cons (h : c ≠ ':') (cs : List Char) :
    splitGap (c :: cs) = (splitGap cs).map fun (before, after) => (c :: before, after) := by
  rw [splitGap]
  intro rest hcolon _
  exact h hcolon

theorem splitGap_append (h : ':' ∉ cs) (rest : List Char) :
    splitGap (cs ++ rest) =
      (splitGap rest).map fun (before, after) => (cs ++ before, after) := by
  induction cs with
  | nil => simp
  | cons c cs ih =>
    obtain ⟨hc, hcs⟩ := not_or.mp (mt List.mem_cons.mpr h)
    rw [List.cons_append, splitGap_cons (Ne.symm hc), ih hcs, Option.map_map]
    rfl

/-- A single colon is no gap. -/
theorem splitGap_colon (h : cs.head? ≠ some ':') :
    splitGap (':' :: cs) = (splitGap cs).map fun (before, after) => (':' :: before, after) := by
  rw [splitGap]
  intro rest _ hcs
  rw [hcs] at h
  exact h rfl

theorem colon_not_mem_inBase : ':' ∉ inBase 16 n :=
  not_mem_inBase (by decide) (by decide) (by decide)

theorem groupsJoined_cons_cons (g g' : UInt16) (gs : List UInt16) :
    groupsJoined (g :: g' :: gs) = inBase 16 g.toNat ++ ':' :: groupsJoined (g' :: gs) := by
  rw [groupsJoined, List.map_cons, List.map_cons, List.intercalate_cons_cons, List.append_assoc]
  rfl

theorem groupsJoined_singleton (g : UInt16) : groupsJoined [g] = inBase 16 g.toNat := by
  rw [groupsJoined, List.map_singleton, List.intercalate_singleton]

/-- Groups start with a digit. -/
theorem exists_groupsJoined (g : UInt16) (gs : List UInt16) :
    ∃ c cs, groupsJoined (g :: gs) = c :: cs ∧ c ≠ ':' := by
  obtain ⟨c, cs, h⟩ := List.exists_cons_of_ne_nil (@inBase_ne_nil 16 g.toNat)
  have hc : c ≠ ':' := by
    rintro rfl
    exact colon_not_mem_inBase (h ▸ List.mem_cons_self)
  cases gs with
  | nil => exact ⟨c, cs, by rw [groupsJoined_singleton, h], hc⟩
  | cons g' gs => exact ⟨c, _, by rw [groupsJoined_cons_cons, h]; rfl, hc⟩

/-- There is no gap in groups that are all there. -/
theorem splitGap_groupsJoined_append : ∀ (gs : List UInt16) (rest : List Char),
    splitGap (groupsJoined gs ++ rest) =
      (splitGap rest).map fun (before, after) => (groupsJoined gs ++ before, after)
  | [], rest => by simp [groupsJoined]
  | [g], rest => by
    rw [groupsJoined_singleton]
    exact splitGap_append colon_not_mem_inBase rest
  | g :: g' :: gs, rest => by
    obtain ⟨c, cs, hcs, hc⟩ := exists_groupsJoined g' gs
    have hhead : (groupsJoined (g' :: gs) ++ rest).head? ≠ some ':' := by
      rw [hcs]
      exact fun h => hc (Option.some.inj h)
    rw [groupsJoined_cons_cons, List.append_assoc, List.cons_append,
      splitGap_append colon_not_mem_inBase, splitGap_colon hhead,
      splitGap_groupsJoined_append (g' :: gs) rest, Option.map_map, Option.map_map]
    refine congrArg (Option.map · _) (funext fun (before, after) => ?_)
    simp

/-- The last field holds a group, or else two in dotted form. -/
theorem fields?_last (last : List Char) : fields? [last] =
    match group? last with
    | some g => some [g]
    | none => (octets? last).bind fun o => some [(o.get 0).toUInt16 <<< 8 ||| (o.get 1).toUInt16,
      (o.get 2).toUInt16 <<< 8 ||| (o.get 3).toUInt16] := rfl

/-- Every field before it holds a group. -/
theorem fields?_cons {field : List Char} {fields : List (List Char)} {g : UInt16}
    {gs : List UInt16} (hfields : fields ≠ []) (h : group? field = some g)
    (hgs : fields? fields = some gs) : fields? (field :: fields) = some (g :: gs) := by
  obtain ⟨next, rest, rfl⟩ := List.exists_cons_of_ne_nil hfields
  have hfirst : fields? (field :: next :: rest) =
      (group? field).bind fun g => (fields? (next :: rest)).bind fun gs => some (g :: gs) := rfl
  rw [hfirst, h, hgs]
  rfl

theorem fields?_map_inBase : ∀ gs : List UInt16,
    fields? (gs.map fun g => inBase 16 g.toNat) = some gs
  | [] => rfl
  | [g] => by
    rw [List.map_singleton, fields?_last, group?_inBase]
  | g :: g' :: gs =>
    fields?_cons (List.cons_ne_nil _ _) (group?_inBase g) (fields?_map_inBase (g' :: gs))

/-- Groups are read back from between their colons. -/
theorem part?_groupsJoined : ∀ gs : List UInt16, part? (groupsJoined gs) = some gs
  | [] => rfl
  | g :: gs => by
    obtain ⟨c, cs, hcs, _⟩ := exists_groupsJoined g gs
    have hsplit : Text.splitOn ':' (groupsJoined (g :: gs)) =
        (g :: gs).map fun g => inBase 16 g.toNat :=
      splitOn_numbers (by decide) (by decide) (by decide) UInt16.toNat (List.cons_ne_nil _ _)
    rw [part?, hsplit, fields?_map_inBase, hcs]
    rfl

theorem dot_not_mem_groupsJoined (gs : List UInt16) : '.' ∉ groupsJoined gs :=
  not_mem_numbers (by decide) (by decide) (by decide) (by decide) UInt16.toNat gs

/-! ## Version 6 -/

theorem replicate_zeros_append (gs : List UInt16) :
    List.replicate (zeros gs) 0 ++ gs.drop (zeros gs) = gs := by
  induction gs with
  | nil => rfl
  | cons g gs ih =>
    by_cases h : g = 0
    · have hzeros : zeros (g :: gs) = zeros gs + 1 := by simp [zeros, h]
      rw [hzeros, List.replicate_succ, List.drop_succ_cons, List.cons_append, ih, h]
    · have hzeros : zeros (g :: gs) = 0 := by simp [zeros, h]
      rw [hzeros, List.replicate_zero, List.drop_zero, List.nil_append]

/-- The groups of a gap are zero, and the others stand around it. -/
theorem take_longestGap_append (gs : List UInt16) :
    gs.take (longestGap gs).start ++ (List.replicate (longestGap gs).length 0 ++
      gs.drop ((longestGap gs).start + (longestGap gs).length)) = gs := by
  induction gs with
  | nil => rfl
  | cons g gs ih =>
    rw [longestGap]
    split
    · rw [List.take_zero, List.nil_append, Nat.zero_add]
      exact replicate_zeros_append (g :: gs)
    · rw [Nat.add_right_comm, List.take_succ_cons, List.drop_succ_cons, List.cons_append, ih]

theorem ofGroups?_toList (groups : Vector UInt16 8) : ofGroups? groups.toList = some groups := by
  have hlength : groups.toList.length = 8 := groups.length_toList
  rw [ofGroups?, dif_pos hlength]
  exact congrArg some (Vector.toList_inj.mp rfl)

/-- Two bytes make up the group they were taken from. -/
theorem group_of_bytes (g : UInt16) :
    (g >>> 8).toUInt8.toUInt16 <<< 8 ||| g.toUInt8.toUInt16 = g := by
  have hg : g.toNat < 65536 := g.toNat_lt
  have hlow : g.toNat % 256 < 2 ^ 8 := Nat.mod_lt _ (by decide)
  have hhigh : g.toNat / 2 ^ 8 % 256 * 2 ^ 8 % 65536 = g.toNat / 2 ^ 8 * 2 ^ 8 := by omega
  apply UInt16.toNat_inj.mp
  calc ((g >>> 8).toUInt8.toUInt16 <<< 8 ||| g.toUInt8.toUInt16).toNat
      = (g.toNat >>> 8 % 256) <<< 8 % 65536 ||| g.toNat % 256 := by simp
    _ = (g.toNat / 2 ^ 8) <<< 8 ||| g.toNat % 256 := by
      rw [Nat.shiftRight_eq_div_pow, Nat.shiftLeft_eq, hhigh, Nat.shiftLeft_eq]
    _ = g.toNat := by
      rw [← Nat.shiftLeft_add_eq_or_of_lt hlow, Nat.shiftLeft_eq]
      omega

theorem mapped?_eq_some {groups : Vector UInt16 8} {octets : Vector UInt8 4}
    (h : mapped? groups = some octets) : ∃ a b, groups.toList = [0, 0, 0, 0, 0, 0xffff, a, b] ∧
      octets = #v[(a >>> 8).toUInt8, a.toUInt8, (b >>> 8).toUInt8, b.toUInt8] := by
  rw [mapped?] at h
  split at h
  · rename_i a b hgroups
    exact ⟨a, b, hgroups, (Option.some.inj h).symm⟩
  · exact absurd h (by simp)

/-- No version 4 address is a group. -/
theorem group?_octetsText (octets : Vector UInt8 4) : group? (octetsText octets) = none := by
  rw [group?, ofBase?_eq_none (dot_mem_octetsText octets) (by decide)]
  rfl

/-- The last two groups of an address that stands for a version 4 one are read from its octets. -/
theorem part?_mapped (a b : UInt16) :
    part? ("ffff:".toList ++
      octetsText #v[(a >>> 8).toUInt8, a.toUInt8, (b >>> 8).toUInt8, b.toUInt8]) =
      some [0xffff, a, b] := by
  generalize hoctets : #v[(a >>> 8).toUInt8, a.toUInt8, (b >>> 8).toUInt8, b.toUInt8] = octets
  have hsplit : Text.splitOn ':' ("ffff:".toList ++ octetsText octets) =
      ["ffff".toList, octetsText octets] := by
    have hjoined : "ffff:".toList ++ octetsText octets =
        [':'].intercalate ["ffff".toList, octetsText octets] := by
      rw [List.intercalate_cons_cons, List.intercalate_singleton]
      rfl
    rw [hjoined, Text.splitOn_eq, List.splitOn_intercalate]
    · intro field hfield
      rcases List.mem_cons.mp hfield with rfl | hfield
      · decide
      · rw [List.mem_singleton.mp hfield]
        exact colon_not_mem_octetsText octets
    · exact List.cons_ne_nil _ _
  have hffff : group? "ffff".toList = some 0xffff := by decide
  have hlast : fields? [octetsText octets] = some [a, b] := by
    rw [fields?_last, group?_octetsText, octets?_octetsText, ← hoctets]
    change some [(a >>> 8).toUInt8.toUInt16 <<< 8 ||| a.toUInt8.toUInt16,
      (b >>> 8).toUInt8.toUInt16 <<< 8 ||| b.toUInt8.toUInt16] = some [a, b]
    rw [group_of_bytes, group_of_bytes]
  rw [part?, hsplit, fields?_cons (List.cons_ne_nil _ _) hffff hlast]
  rfl

theorem groups?_mapped (a b : UInt16) :
    groups? ("::ffff:".toList ++
      octetsText #v[(a >>> 8).toUInt8, a.toUInt8, (b >>> 8).toUInt8, b.toUInt8]) =
      ofGroups? [0, 0, 0, 0, 0, 0xffff, a, b] := by
  rw [groups?]
  change (do
    let head ← part? []
    let tail ← part? ("ffff:".toList ++ octetsText _)
    if head.length + tail.length < 8 then
      ofGroups? (head ++ List.replicate (8 - head.length - tail.length) 0 ++ tail)
    else none) = _
  rw [part?_mapped]
  rfl

/-- Between groups a gap stands for those that are left out. -/
theorem groups?_gap {before after : List UInt16} (h : before.length + after.length < 8) :
    groups? (groupsJoined before ++ "::".toList ++ groupsJoined after) = ofGroups?
      (before ++ List.replicate (8 - before.length - after.length) 0 ++ after) := by
  have hsplit : splitGap (groupsJoined before ++ "::".toList ++ groupsJoined after) =
      some (groupsJoined before, groupsJoined after) := by
    rw [List.append_assoc, splitGap_groupsJoined_append]
    exact congrArg (fun cs => some (cs, groupsJoined after)) (List.append_nil _)
  rw [groups?, hsplit]
  dsimp only
  rw [if_neg (dot_not_mem_groupsJoined before), part?_groupsJoined, part?_groupsJoined]
  simp only [Option.bind_eq_bind, Option.bind_some]
  rw [if_pos h]

/-- Without a gap the groups are all there. -/
theorem groups?_groupsJoined (gs : List UInt16) : groups? (groupsJoined gs) = ofGroups? gs := by
  have hsplit := splitGap_groupsJoined_append gs []
  rw [List.append_nil] at hsplit
  rw [groups?, hsplit, splitGap, Option.map_none]
  dsimp only
  rw [part?_groupsJoined]
  rfl

/-- **A version 6 address is read back from its text.** -/
theorem groups?_groupsText (groups : Vector UInt16 8) :
    groups? (groupsText groups) = some groups := by
  rw [groupsText]
  cases hmapped : mapped? groups with
  | some octets =>
    obtain ⟨a, b, hgroups, rfl⟩ := mapped?_eq_some hmapped
    exact (groups?_mapped a b).trans (hgroups ▸ ofGroups?_toList groups)
  | none =>
    dsimp only
    split
    · -- the gap and the groups around it are eight, so what is read for it is as long as it was
      rename_i hlength
      have hparts := take_longestGap_append groups.toList
      generalize longestGap groups.toList = gap at hlength hparts
      generalize groups.toList.take gap.start = before at hparts
      generalize groups.toList.drop (gap.start + gap.length) = after at hparts
      have hsize : before.length + gap.length + after.length = 8 := by
        have hcount := congrArg List.length hparts
        rw [groups.length_toList] at hcount
        simpa [Nat.add_assoc] using hcount
      have hmiddle : 8 - before.length - after.length = gap.length := by omega
      rw [groups?_gap (by omega), hmiddle, List.append_assoc, hparts]
      exact ofGroups?_toList groups
    · rw [groups?_groupsJoined]
      exact ofGroups?_toList groups

theorem colon_mem_groupsText (groups : Vector UInt16 8) : ':' ∈ groupsText groups := by
  rw [groupsText]
  split
  · exact List.mem_append_left _ (by decide)
  · dsimp only
    split
    · exact List.mem_append_left _ (List.mem_append_right _ (by decide))
    · exact Text.separator_mem_intercalate (by simp)

/-! ## Both -/

/-- **An address is read back from its text.** -/
theorem ofText?_text (a : Address) : ofText? a.text = some a := by
  cases a with
  | v4 octets =>
    rw [text, ofText?, String.toList_ofList, octets?_octetsText]
    rfl
  | v6 groups =>
    rw [text, ofText?, String.toList_ofList, groups?_groupsText,
      octets?_eq_none (colon_mem_groupsText groups) (by decide) (by decide)]
    rfl

end Address

end PodMesh
