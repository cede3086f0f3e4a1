import PodMesh.Proofs.Cluster.Printed
import PodMesh.Proofs.Text.Separated
import PodMesh.Word

/-!
# Words with a slash

Peers and identities are written as two names with a slash between them. A word with one slash at
most writes a peer, and a half of it that is empty, a star or missing leaves its name open
(`Peer.covers_of_read`). Other words may write the same peer, but the printed form is read back
(`Peer.read_text_of_read`). A word with one slash and something on either side of it writes an
identity, and is the printed form of that one (`Identity.read_eq_ok_iff`). What is printed of a peer
or an identity that was not read leads back to it unless a name cannot be taken as such: an empty
one, one with a slash, and in a peer a star.
-/

namespace PodMesh

variable {s : String}

/-! ## Accepting and refusing -/

section Accepting

variable {α : Type} {accepted : Prop} [Decidable accepted] {x : α} {fault fault' : Fault}

theorem exists_ite_eq_ok :
    (∃ y, (if accepted then .ok x else .error fault : Except Fault α) = .ok y) ↔ accepted := by
  split
  · rename_i h
    exact iff_of_true ⟨x, rfl⟩ h
  · rename_i h
    exact iff_of_false nofun h

theorem ite_eq_error_iff :
    (if accepted then .ok x else .error fault : Except Fault α) = .error fault' ↔
      ¬ accepted ∧ fault' = fault := by
  split
  · rename_i h
    exact iff_of_false nofun fun hnot => hnot.1 h
  · rename_i h
    rw [and_iff_right h, Except.error.injEq, eq_comm]

end Accepting

/-! ## Peers -/

namespace Peer

variable {peer : Peer} {cs : List Char} {half? : Option String}

theorem toList_text (peer : Peer) : peer.text.toList =
    (peer.ns.getD "*").toList ++ '/' :: (peer.pod.getD "*").toList := by
  rw [text, String.toList_append, String.toList_append, List.append_assoc]
  rfl

/-- A word with one slash at most writes the peer of its halves. -/
theorem ofText?_eq (s : String) : ofText? s = if s.toList.count '/' ≤ 1 then
    some ⟨half (Text.before '/' s.toList), half (Text.behind '/' s.toList)⟩ else none := by
  rw [ofText?, Text.splitOnce_eq]
  by_cases h : '/' ∈ s.toList
  · by_cases hrest : '/' ∈ Text.behind '/' s.toList
    · simp [h, hrest, Text.count_le_one_iff]
    · simp [h, hrest, Text.count_le_one_iff]
  · have hcount : s.toList.count '/' ≤ 1 := by
      rw [List.count_eq_zero_of_not_mem h]
      exact Nat.zero_le 1
    rw [if_neg h, if_pos hcount, Text.before_of_not_mem h, Text.behind_of_not_mem h]
    rfl

theorem read_eq (s : String) : read s = if s.toList.count '/' ≤ 1 then
    .ok ⟨half (Text.before '/' s.toList), half (Text.behind '/' s.toList)⟩
    else .error (.badPeer s) := by
  rw [read, ofText?_eq]
  by_cases h : s.toList.count '/' ≤ 1
  · rw [if_pos h, if_pos h]
  · rw [if_neg h, if_neg h]

/-! ### Halves -/

/-- What a half names, if it does, is not empty, not a star, and has no slash. -/
def Readable (half? : Option String) : Prop :=
  ∀ name, half? = some name → name ≠ "" ∧ name ≠ "*" ∧ '/' ∉ name.toList

theorem half_eq (cs : List Char) :
    half cs = if cs = [] ∨ cs = ['*'] then none else some (String.ofList cs) := by
  simp [half]

/-- A half says nothing of a name if it is empty or a star, and otherwise which one it is. -/
theorem half_all_iff {name : String} : (half cs).all (· = name) = true ↔
    cs ∈ [[], ['*'], name.toList] := by
  simp only [List.mem_cons, List.not_mem_nil, or_false]
  rw [half_eq]
  by_cases hopen : cs = [] ∨ cs = ['*']
  · rw [if_pos hopen]
    exact iff_of_true rfl (or_assoc.mp (.inl hopen))
  · rw [if_neg hopen, Option.all_some, decide_eq_true_eq, ← or_assoc, or_iff_right hopen,
      ← String.toList_inj, String.toList_ofList]

/-- A half that was read has nothing in it that was not written. -/
theorem readable_half (h : '/' ∉ cs) : Readable (half cs) := by
  intro name hname
  rw [half_eq] at hname
  split at hname
  · cases hname
  · rename_i hopen
    obtain rfl := Option.some.inj hname
    rw [not_or] at hopen
    refine ⟨?_, ?_, by rwa [String.toList_ofList]⟩
    · rw [ne_eq, ← String.toList_inj, String.toList_ofList]
      exact hopen.1
    · rw [ne_eq, ← String.toList_inj, String.toList_ofList]
      exact hopen.2

/-- **A half is read back from its printed form just if it is readable.** -/
theorem readable_iff : Readable half? ↔
    '/' ∉ (half?.getD "*").toList ∧ half (half?.getD "*").toList = half? := by
  cases half? with
  | none => exact iff_of_true nofun (by decide)
  | some name =>
    have hopen : half name.toList = some name ↔ name ≠ "" ∧ name ≠ "*" := by
      rw [half_eq, ← not_or, ← String.toList_inj, ← String.toList_inj]
      split
      · rename_i h
        exact iff_of_false nofun (not_not_intro h)
      · rename_i h
        exact iff_of_true (congrArg some String.ofList_toList) h
    rw [Option.getD_some, hopen, and_comm, and_assoc]
    exact ⟨fun h => h name rfl, fun h name' hname => Option.some.inj hname ▸ h⟩

/-! ### Peers read back -/

/-- **What a peer prints is read back just if its halves are.** -/
theorem read_text_iff : read peer.text = .ok peer ↔ Readable peer.ns ∧ Readable peer.pod := by
  have hcount : peer.text.toList.count '/' ≤ 1 ↔
      '/' ∉ (peer.ns.getD "*").toList ∧ '/' ∉ (peer.pod.getD "*").toList := by
    rw [toList_text, Text.count_append_cons, ← List.count_eq_zero, ← List.count_eq_zero]
    omega
  rw [read_eq, readable_iff, readable_iff]
  by_cases h : '/' ∉ (peer.ns.getD "*").toList ∧ '/' ∉ (peer.pod.getD "*").toList
  · obtain ⟨hbefore, hbehind⟩ := Text.before_behind_append h.1 (peer.pod.getD "*").toList
    rw [if_pos (hcount.mpr h), toList_text, hbefore, hbehind, Except.ok.injEq]
    obtain ⟨ns, pod⟩ := peer
    rw [mk.injEq, and_iff_right h.1, and_iff_right h.2]
  · -- a slash in a name is a second one in what is printed
    rw [if_neg (mt hcount.mp h)]
    exact iff_of_false nofun fun hread => h ⟨hread.1.1, hread.2.1⟩

/-- **A peer that was read covers the pods that its word leaves open or names.** -/
theorem covers_of_read (h : read s = .ok peer) (id : Identity) : peer.covers id = true ↔
    Text.before '/' s.toList ∈ [[], ['*'], id.ns.toList] ∧
      Text.behind '/' s.toList ∈ [[], ['*'], id.name.toList] := by
  rw [read_eq] at h
  split at h
  · obtain rfl := Except.ok.inj h
    rw [covers, Bool.and_eq_true, half_all_iff, half_all_iff]
  · cases h

/-- **A peer that was read is read back from what it prints.** -/
theorem read_text_of_read (h : read s = .ok peer) : read peer.text = .ok peer := by
  rw [read_eq] at h
  split at h
  · rename_i hcount
    obtain rfl := Except.ok.inj h
    exact read_text_iff.mpr ⟨readable_half (Text.not_mem_before '/' s.toList),
      readable_half (Text.count_le_one_iff.mp hcount)⟩
  · cases h

/--
**A word with one slash at most writes a peer.**

Any other word is refused and named. The peer covers just the pods whose namespace is what stands
before the slash and whose name is what stands behind it, where a half that is empty, a star or
missing leaves its name open. It is read back from its printed form. So is any peer that leaves open
what it does not name, and names nothing that is empty, a star or has a slash; no other peer is.
-/
theorem word_writes_peer (s : String) (peer : Peer) :
    ((∃ p, read s = .ok p) ↔ s.toList.count '/' ≤ 1) ∧
    (∀ fault, read s = .error fault ↔ 1 < s.toList.count '/' ∧ fault = .badPeer s) ∧
    (∀ p, read s = .ok p →
      (∀ id, p.covers id = true ↔ Text.before '/' s.toList ∈ [[], ['*'], id.ns.toList] ∧
        Text.behind '/' s.toList ∈ [[], ['*'], id.name.toList]) ∧
      read p.text = .ok p) ∧
    (read peer.text = .ok peer ↔ Readable peer.ns ∧ Readable peer.pod) := by
  refine ⟨?_, fun fault => ?_, fun p h => ⟨covers_of_read h, read_text_of_read h⟩, read_text_iff⟩
  · rw [read_eq]
    exact exists_ite_eq_ok
  · rw [read_eq, ← Nat.not_le]
    exact ite_eq_error_iff

/-- A namespace with nothing behind the slash is printed with a star there. A second slash is
refused, and a pod that is called a star is not told from any pod. -/
theorem word_writes_peer_of_open_half :
    read "x/" = .ok ⟨some "x", none⟩ ∧ read "x/*" = .ok ⟨some "x", none⟩ ∧
    (⟨some "x", none⟩ : Peer).covers ⟨"x", "a/b"⟩ = true ∧
    (⟨some "x", none⟩ : Peer).covers ⟨"*", "a/b"⟩ = false ∧
    read "x/a/b" = .error (.badPeer "x/a/b") ∧
    read (⟨some "x", some "*"⟩ : Peer).text ≠ .ok ⟨some "x", some "*"⟩ := by
  have hread : read "x/" = .ok ⟨some "x", none⟩ := by decide
  obtain ⟨hcovers, hback⟩ := (word_writes_peer "x/" any).2.2.1 _ hread
  have hstar := (word_writes_peer "" ⟨some "x", some "*"⟩).2.2.2
  refine ⟨hread, hback, (hcovers _).mpr (by decide), ?_, ?_, ?_⟩
  · exact Bool.eq_false_iff.mpr (mt (hcovers _).mp (by decide))
  · exact ((word_writes_peer "x/a/b" any).2.1 _).mpr ⟨by decide, rfl⟩
  · exact fun h => ((hstar.mp h).2 "*" rfl).2.1 rfl

end Peer

/-! ## Identities -/

namespace Identity

variable {id a b : Identity}

/-- Is there one slash in a word, with something on either side of it? -/
def SlashedOnce (s : String) : Prop := s.toList.count '/' = 1 ∧
  Text.before '/' s.toList ≠ [] ∧ Text.behind '/' s.toList ≠ []

instance (s : String) : Decidable (SlashedOnce s) := inferInstanceAs (Decidable (_ ∧ _ ∧ _))

/-- Can the names of an identity be told from each other in its printed form? -/
def Readable (id : Identity) : Prop :=
  (id.ns ≠ "" ∧ '/' ∉ id.ns.toList) ∧ id.name ≠ "" ∧ '/' ∉ id.name.toList

instance (id : Identity) : Decidable id.Readable := inferInstanceAs (Decidable (_ ∧ _))

/-- A word with one slash, and not at an end, writes the identity of its halves. -/
theorem ofText?_eq (s : String) : ofText? s = if SlashedOnce s then
    some ⟨.ofList (Text.before '/' s.toList), .ofList (Text.behind '/' s.toList)⟩ else none := by
  rw [ofText?, Text.splitOnce_eq]
  by_cases h : '/' ∈ s.toList
  · have honce : SlashedOnce s ↔ '/' ∉ Text.behind '/' s.toList ∧
        Text.before '/' s.toList ≠ [] ∧ Text.behind '/' s.toList ≠ [] := by
      rw [SlashedOnce, Text.count_eq_of_mem h, Nat.add_eq_right, List.count_eq_zero]
    -- a word that can be split is refused for an end or for a second slash
    have hrefused : ((Text.before '/' s.toList).isEmpty || (Text.behind '/' s.toList).isEmpty ||
        decide ('/' ∈ Text.behind '/' s.toList)) = true ↔ ¬ SlashedOnce s := by
      rw [honce, Bool.or_eq_true, Bool.or_eq_true, List.isEmpty_iff, List.isEmpty_iff,
        decide_eq_true_eq]
      tauto
    rw [if_pos h]
    by_cases hs : SlashedOnce s
    · exact (if_neg (mt hrefused.mp (not_not_intro hs))).trans (if_pos hs).symm
    · exact (if_pos (hrefused.mpr hs)).trans (if_neg hs).symm
  · have hcount : s.toList.count '/' = 0 := List.count_eq_zero_of_not_mem h
    rw [if_neg h, if_neg fun hs => absurd (hcount.symm.trans hs.1) (by decide)]

theorem read_eq (s : String) : read s = if SlashedOnce s then
    .ok ⟨.ofList (Text.before '/' s.toList), .ofList (Text.behind '/' s.toList)⟩
    else .error (.badIdentity s) := by
  rw [read, ofText?_eq]
  by_cases h : SlashedOnce s
  · rw [if_pos h, if_pos h]
  · rw [if_neg h, if_neg h]

/-- The printed form has one slash, and not at an end, just if the identity is readable. -/
theorem slashedOnce_text_iff : SlashedOnce id.text ↔ id.Readable := by
  have hcount : id.text.toList.count '/' = 1 ↔ '/' ∉ id.ns.toList ∧ '/' ∉ id.name.toList := by
    rw [toList_text, Text.count_append_cons, ← List.count_eq_zero, ← List.count_eq_zero]
    omega
  rw [SlashedOnce, hcount, Readable]
  by_cases h : '/' ∉ id.ns.toList
  · obtain ⟨hbefore, hbehind⟩ := Text.before_behind_append h id.name.toList
    rw [toList_text, hbefore, hbehind, ne_eq, ne_eq, String.toList_eq_nil_iff,
      String.toList_eq_nil_iff]
    tauto
  · -- a slash in the namespace is one too many on either side
    tauto

/-- **A word writes an identity just if it is the printed form of it, and that is readable.** -/
theorem read_eq_ok_iff : read s = .ok id ↔ id.text = s ∧ id.Readable := by
  constructor
  · intro h
    rw [read_eq] at h
    split at h
    · rename_i hs
      have hmem : '/' ∈ s.toList := by
        rw [← List.count_pos_iff, hs.1]
        exact Nat.zero_lt_one
      have htext : id.text = s := by
        rw [← String.toList_inj, toList_text, ← Except.ok.inj h, String.toList_ofList,
          String.toList_ofList]
        exact (Text.eq_before_append_behind hmem).symm
      exact ⟨htext, slashedOnce_text_iff.mp (htext ▸ hs)⟩
    · cases h
  · rintro ⟨rfl, h⟩
    obtain ⟨hbefore, hbehind⟩ := Text.before_behind_append h.1.2 id.name.toList
    rw [read_eq, if_pos (slashedOnce_text_iff.mpr h), toList_text, hbefore, hbehind,
      String.ofList_toList, String.ofList_toList]

/--
**An identity is written with one slash, between names that are not empty.**

Any other word is refused and named. An identity that is read prints the word, and one that was not
read leads back to itself just if its names are not empty and have no slashes. Where only the
namespaces have no slashes, the printed forms of different identities are still different.
-/
theorem one_slash_writes_identity :
    (∀ s, ((∃ id, read s = .ok id) ↔ SlashedOnce s) ∧
      (∀ fault, read s = .error fault ↔ ¬ SlashedOnce s ∧ fault = .badIdentity s) ∧
      ∀ id, read s = .ok id → id.text = s) ∧
    (∀ id, read id.text = .ok id ↔
      (id.ns ≠ "" ∧ '/' ∉ id.ns.toList) ∧ id.name ≠ "" ∧ '/' ∉ id.name.toList) ∧
    ∀ a b : Identity, '/' ∉ a.ns.toList → '/' ∉ b.ns.toList → a.text = b.text → a = b := by
  refine ⟨fun s => ⟨?_, fun fault => ?_, fun id h => (read_eq_ok_iff.mp h).1⟩, fun id => ?_,
    fun a b ha hb => (text_inj_of_no_slash ha hb).mp⟩
  · rw [read_eq]
    exact exists_ite_eq_ok
  · rw [read_eq]
    exact ite_eq_error_iff
  · rw [read_eq_ok_iff, and_iff_right rfl, Readable]

/-- A slash at an end and a second slash are refused, so a name with a slash is not read back. Still
no other name in its namespace is printed like it. -/
theorem one_slash_writes_identity_of_slashed_name :
    read "x/a" = .ok ⟨"x", "a"⟩ ∧ read "x/" = .error (.badIdentity "x/") ∧
    (∃ fault, read "/a" = .error fault) ∧ (⟨"x", "a/b"⟩ : Identity).text = "x/a/b" ∧
    read "x/a/b" ≠ .ok ⟨"x", "a/b"⟩ ∧
    ∀ name, (⟨"x", name⟩ : Identity).text = "x/a/b" → name = "a/b" := by
  obtain ⟨hread, hback, hinj⟩ := one_slash_writes_identity
  have htext : (⟨"x", "a/b"⟩ : Identity).text = "x/a/b" := by decide
  refine ⟨(hback ⟨"x", "a"⟩).mpr (by decide), ?_, ?_, htext, ?_, fun name hname => ?_⟩
  · exact ((hread "x/").2.1 _).mpr ⟨by decide, rfl⟩
  · exact ⟨_, ((hread "/a").2.1 _).mpr ⟨by decide, rfl⟩⟩
  · exact fun h => absurd ((hback ⟨"x", "a/b"⟩).mp h) (by decide)
  · have hns : '/' ∉ "x".toList := by decide
    exact congrArg Identity.name (hinj ⟨"x", name⟩ ⟨"x", "a/b"⟩ hns hns (hname.trans htext.symm))

end Identity

end PodMesh
