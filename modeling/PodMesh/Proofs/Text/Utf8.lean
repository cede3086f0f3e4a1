import PodMesh.Text.Utf8

/-!
# Texts read back from their bytes

The bytes of a character take the decoder from between characters to between characters again,
and on the way it makes one symbol, that character (`go_utf8EncodeChar`). So the bytes of a text
are read as the symbols of the text, without a stray one among them (`decode_encode`).
-/

namespace PodMesh.Text

variable {n payload owed : Nat} {low high : UInt8} {taken rest : List UInt8} {c : Char}

/-! ## Symbols -/

@[simp] theorem symbols_nil : symbols [] = [] := rfl

@[simp] theorem symbols_cons (c : Char) (cs : List Char) :
    symbols (c :: cs) = .char c :: symbols cs := rfl

@[simp] theorem symbols_append (cs cs' : List Char) :
    symbols (cs ++ cs') = symbols cs ++ symbols cs' := List.map_append

/-! ## Single bytes -/

theorem toNat_ofNat (h : n < 256) : (UInt8.ofNat n).toNat = n :=
  UInt8.toNat_ofNat_of_lt' h

/-- A byte below 128 is a character of its own. -/
theorem go_of_lt (h : n < 0x80) :
    decode.go .between (.ofNat n :: rest) = .char (Char.ofNat n) :: decode.go .between rest := by
  have hn := toNat_ofNat (Nat.lt_trans h (by decide : 0x80 < 256))
  have hlt : UInt8.ofNat n < 0x80 := by
    rw [UInt8.lt_iff_toNat_lt, hn]
    exact h
  rw [decode.go, Decoder.feed, Decoder.start, if_pos hlt, hn]
  rfl

/-- The lead bytes of two, of three and of four bytes. The range of the byte behind one is cut
where fewer bytes would do, and where there is no such character. -/
theorem lead?_two : ∀ k < 0x1E, lead? (.ofNat (k + 2 + 192)) = some (k + 2, 1, 0x80, 0xBF) := by
  decide

theorem lead?_three : ∀ k < 0x10, lead? (.ofNat (k + 224)) =
    some (k, 2, if k = 0 then 0xA0 else 0x80, if k = 0xD then 0x9F else 0xBF) := by
  decide

theorem lead?_four : ∀ k < 5, lead? (.ofNat (k + 240)) =
    some (k, 3, if k = 0 then 0x90 else 0x80, if k = 4 then 0x8F else 0xBF) := by
  decide

/-- A lead byte takes the decoder inside a character. -/
theorem go_lead (hn : n < 256) (hge : 0x80 ≤ n)
    (h : lead? (.ofNat n) = some (payload, owed, low, high)) :
    decode.go .between (.ofNat n :: rest) =
      decode.go (.inside [.ofNat n] payload owed low high) rest := by
  have hlt : ¬ UInt8.ofNat n < 0x80 := by
    rw [UInt8.lt_iff_toNat_lt, toNat_ofNat hn]
    exact Nat.not_lt.mpr hge
  rw [decode.go, Decoder.feed, Decoder.start, if_neg hlt, h]
  rfl

/-- A byte in the range that is due takes the decoder on, or out again with a character. -/
theorem go_inside (hn : n < 64) (hlow : low.toNat ≤ n + 128) (hhigh : n + 128 ≤ high.toNat) :
    decode.go (.inside taken payload owed low high) (.ofNat (n + 128) :: rest) =
      if owed ≤ 1 then
        .char (Char.ofNat (payload * 64 + n)) :: decode.go .between rest
      else
        decode.go (.inside (.ofNat (n + 128) :: taken) (payload * 64 + n) (owed - 1) 0x80 0xBF)
          rest := by
  have hb : (UInt8.ofNat (n + 128)).toNat = n + 128 := toNat_ofNat (by omega)
  have hrange : low ≤ UInt8.ofNat (n + 128) && UInt8.ofNat (n + 128) ≤ high := by
    simp only [UInt8.le_iff_toNat_le, hb, hlow, hhigh, decide_true, Bool.and_self]
  rw [decode.go, Decoder.feed, if_pos hrange, hb, Nat.add_sub_cancel]
  by_cases howed : owed ≤ 1
  · simp only [howed, if_true]
    rfl
  · simp only [howed, if_false]
    rfl

/-- The same inside a character, where any byte that follows will do. -/
theorem go_follow (hn : n < 64) :
    decode.go (.inside taken payload owed 0x80 0xBF) (.ofNat (n + 128) :: rest) =
      if owed ≤ 1 then
        .char (Char.ofNat (payload * 64 + n)) :: decode.go .between rest
      else
        decode.go (.inside (.ofNat (n + 128) :: taken) (payload * 64 + n) (owed - 1) 0x80 0xBF)
          rest :=
  go_inside hn (by simp) (by simp; omega)

/-! ## Several bytes -/

variable {a b d e : Nat}

theorem go_two (hge : 2 ≤ a) (ha : a < 0x20) (hb : b < 64) :
    decode.go .between (.ofNat (a + 192) :: .ofNat (b + 128) :: rest) =
      .char (Char.ofNat (a * 64 + b)) :: decode.go .between rest := by
  obtain ⟨k, rfl⟩ : ∃ k, a = k + 2 := ⟨a - 2, by omega⟩
  rw [go_lead (by omega) (by omega) (lead?_two k (by omega)), go_follow hb,
    if_pos (Nat.le_refl 1)]

/-- The range of a byte is cut at one end in one case. -/
theorem toNat_ite_le {p : Prop} [Decidable p] {cut low : UInt8} (h : p → cut.toNat ≤ n)
    (h' : low.toNat ≤ n) : (if p then cut else low).toNat ≤ n := by
  split
  · rename_i hp
    exact h hp
  · exact h'

theorem le_toNat_ite {p : Prop} [Decidable p] {cut high : UInt8} (h : p → n ≤ cut.toNat)
    (h' : n ≤ high.toNat) : n ≤ (if p then cut else high).toNat := by
  split
  · rename_i hp
    exact h hp
  · exact h'

/-- Three bytes. Fewer would do if the first brought nothing and the second little, and some
seconds behind a 13 would make a surrogate. -/
theorem go_three (ha : a < 0x10) (hb : b < 64) (hd : d < 64) (hlow : a = 0 → 0x20 ≤ b)
    (hhigh : a = 0xD → b ≤ 0x1F) :
    decode.go .between (.ofNat (a + 224) :: .ofNat (b + 128) :: .ofNat (d + 128) :: rest) =
      .char (Char.ofNat ((a * 64 + b) * 64 + d)) :: decode.go .between rest := by
  have hfrom : (if a = 0 then 0xA0 else 0x80 : UInt8).toNat ≤ b + 128 :=
    toNat_ite_le (fun h => Nat.add_le_add_right (hlow h) 128) (Nat.le_add_left 128 b)
  have hto : b + 128 ≤ (if a = 0xD then 0x9F else 0xBF : UInt8).toNat :=
    le_toNat_ite (fun h => Nat.add_le_add_right (hhigh h) 128)
      (Nat.add_le_add_right (Nat.le_of_lt_succ hb) 128)
  rw [go_lead (by omega) (by omega) (lead?_three a ha), go_inside hb hfrom hto,
    if_neg (by decide), go_follow hd, if_pos (by decide)]

/-- Four bytes. Fewer would do if the first brought nothing and the second little, and there are no
characters above U+10FFFF. -/
theorem go_four (ha : a < 5) (hb : b < 64) (hd : d < 64) (he : e < 64) (hlow : a = 0 → 0x10 ≤ b)
    (hhigh : a = 4 → b ≤ 0xF) :
    decode.go .between (.ofNat (a + 240) :: .ofNat (b + 128) :: .ofNat (d + 128) ::
        .ofNat (e + 128) :: rest) =
      .char (Char.ofNat (((a * 64 + b) * 64 + d) * 64 + e)) :: decode.go .between rest := by
  have hfrom : (if a = 0 then 0x90 else 0x80 : UInt8).toNat ≤ b + 128 :=
    toNat_ite_le (fun h => Nat.add_le_add_right (hlow h) 128) (Nat.le_add_left 128 b)
  have hto : b + 128 ≤ (if a = 4 then 0x8F else 0xBF : UInt8).toNat :=
    le_toNat_ite (fun h => Nat.add_le_add_right (hhigh h) 128)
      (Nat.add_le_add_right (Nat.le_of_lt_succ hb) 128)
  rw [go_lead (by omega) (by omega) (lead?_four a ha), go_inside hb hfrom hto,
    if_neg (by decide), go_follow hd, if_neg (by decide), go_follow he, if_pos (by decide)]

/-! ## Characters -/

/-- No character has the number of a surrogate, or one above U+10FFFF. -/
theorem toNat_range (c : Char) :
    c.val.toNat < 0xD800 ∨ 0xE000 ≤ c.val.toNat ∧ c.val.toNat < 0x110000 := by
  rcases c.valid with h | h
  · exact .inl h
  · exact .inr ⟨by omega, h.2⟩

/-- **The bytes of a character are read as that character.** -/
theorem go_utf8EncodeChar (c : Char) (rest : List UInt8) :
    decode.go .between (String.utf8EncodeChar c ++ rest) =
      .char c :: decode.go .between rest := by
  have hrange := toNat_range c
  have hchar : Char.ofNat c.val.toNat = c := Char.ofNat_toNat c
  rw [String.utf8EncodeChar]
  generalize c.val.toNat = v at hrange hchar
  -- the number of bytes goes by the size of the number
  split
  · rw [List.singleton_append, go_of_lt (by omega), hchar]
  split
  · have hvalue : v / 64 % 32 * 64 + v % 64 = v := by omega
    rw [List.cons_append, List.singleton_append, go_two (by omega) (by omega) (by omega), hvalue,
      hchar]
  split
  · have hvalue : (v / 4096 % 16 * 64 + v / 64 % 64) * 64 + v % 64 = v := by omega
    rw [List.cons_append, List.cons_append, List.singleton_append,
      go_three (by omega) (by omega) (by omega) (by omega) (by omega), hvalue, hchar]
  · have hvalue : ((v / 262144 % 8 * 64 + v / 4096 % 64) * 64 + v / 64 % 64) * 64 + v % 64 = v := by
      omega
    rw [List.cons_append, List.cons_append, List.cons_append, List.singleton_append,
      go_four (by omega) (by omega) (by omega) (by omega) (by omega) (by omega), hvalue, hchar]

/-- **The bytes of a text are read as its symbols.** -/
theorem decode_encode (cs : List Char) : decode (encode cs) = symbols cs := by
  induction cs with
  | nil => rfl
  | cons c cs ih =>
    rw [decode] at ih ⊢
    rw [encode, List.flatMap_cons, go_utf8EncodeChar]
    rw [symbols_cons, ← ih]
    rfl

end PodMesh.Text
