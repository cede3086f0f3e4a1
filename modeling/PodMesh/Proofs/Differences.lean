import PodMesh.Proofs.Comparison

/-!
# Where tables differ

Two tables are compared place by place, so it comes first to make sure that a place means the same
pair of keys in both. If the keys are not the same, in the same order, the comparison is refused,
and the refusal names the first place at which they part (`compare_eq_error_iff`). If they are, the
comparison says of each pair whether both tables have the same value (`compared`).

The two sides do not count alike. A value that is missing on this side is missing in the comparison,
one that is missing on the other side only is a difference. So the comparison is as complete as this
side, and turning it around changes nothing only if both sides are complete.
-/

namespace PodMesh.Table

variable {t own other c : Table} {p q : String}

/-! ## Keys that part -/

/-- Two lists of keys are the same before a place and have different keys there. -/
def PartAt (as bs : List String) (i : Nat) (a b : String) : Prop :=
  ∃ front as' bs', as = front ++ a :: as' ∧ bs = front ++ b :: bs' ∧ a ≠ b ∧ front.length = i

theorem partAt_cons {x a b : String} {as bs : List String} {i : Nat} :
    PartAt (x :: as) (x :: bs) i a b ↔ ∃ j, PartAt as bs j a b ∧ j + 1 = i := by
  constructor
  · rintro ⟨front, as', bs', has, hbs, hab, hi⟩
    cases front with
    | nil =>
      -- the lists would part at their common first key
      injection has with hxa _
      injection hbs with hxb _
      exact absurd (hxa.symm.trans hxb) hab
    | cons y front =>
      injection has with _ has
      injection hbs with _ hbs
      exact ⟨front.length, ⟨front, as', bs', has, hbs, hab, rfl⟩, hi⟩
  · rintro ⟨j, ⟨front, as', bs', rfl, rfl, hab, hj⟩, hi⟩
    exact ⟨x :: front, as', bs', rfl, rfl, hab, by rw [List.length_cons, hj, hi]⟩

theorem partAt_of_ne {x y a b : String} {as bs : List String} {i : Nat} (hxy : x ≠ y) :
    PartAt (x :: as) (y :: bs) i a b ↔ 0 = i ∧ x = a ∧ y = b := by
  constructor
  · rintro ⟨front, as', bs', has, hbs, hab, hi⟩
    cases front with
    | nil =>
      injection has with hxa _
      injection hbs with hyb _
      exact ⟨hi, hxa, hyb⟩
    | cons z front =>
      injection has with hxz _
      injection hbs with hyz _
      exact absurd (hxz.trans hyz.symm) hxy
  · rintro ⟨rfl, rfl, rfl⟩
    exact ⟨[], as, bs, rfl, rfl, hxy, rfl⟩

/-- **The first difference is where the keys part.** -/
theorem firstDifference?_eq_some_iff {as bs : List String} {i : Nat} {a b : String} :
    firstDifference? as bs = some (i, a, b) ↔ PartAt as bs i a b := by
  induction as generalizing bs i with
  | nil =>
    refine ⟨nofun, ?_⟩
    rintro ⟨front, as', _, has, _⟩
    cases front <;> cases has
  | cons x as ih =>
    cases bs with
    | nil =>
      refine ⟨nofun, ?_⟩
      rintro ⟨front, _, bs', _, hbs, _⟩
      cases front <;> cases hbs
    | cons y bs =>
      rw [firstDifference?]
      by_cases hxy : x = y
      · subst hxy
        rw [if_pos rfl, Option.map_eq_some_iff, partAt_cons]
        constructor
        · rintro ⟨⟨j, a', b'⟩, hj, heq⟩
          simp only [Prod.mk.injEq] at heq
          obtain ⟨hi, rfl, rfl⟩ := heq
          exact ⟨j, ih.mp hj, hi⟩
        · rintro ⟨j, hj, rfl⟩
          exact ⟨(j, a, b), ih.mpr hj, rfl⟩
      · rw [if_neg hxy, partAt_of_ne hxy]
        simp only [Option.some.injEq, Prod.mk.injEq]

/-- Why two tables cannot be compared. -/
inductive Unfit (own other : Table) : ShapeFault → Prop where
  /-- There are not as many keys on the two sides. -/
  | size : ¬ (own.sources.length = other.sources.length ∧
        own.targets.length = other.targets.length) →
      Unfit own other (.size own.sources.length own.targets.length
        other.sources.length other.targets.length)
  /-- There are as many keys, but the sources part. -/
  | sources {i : Nat} {a b : String} : own.sources.length = other.sources.length →
      own.targets.length = other.targets.length → PartAt own.sources other.sources i a b →
      Unfit own other (.sources i b a)
  /-- There are as many keys and the sources are the same, but the targets part. -/
  | targets {i : Nat} {a b : String} : own.targets.length = other.targets.length →
      own.sources = other.sources → PartAt own.targets other.targets i a b →
      Unfit own other (.targets i b a)

/-- A table that cannot be compared with another is refused for the reason that there is. -/
theorem compare_eq_error {shape : ShapeFault} (h : Unfit own other shape) :
    own.compare other = .error (.shape shape) := by
  unfold compare
  cases h with
  | size hl => rw [dif_neg hl]
  | sources hs ht hpart =>
    have hdiff := firstDifference?_eq_some_iff.mpr hpart
    rw [dif_pos ⟨hs, ht⟩]
    split
    · rename_i heq
      cases hdiff.symm.trans heq
      rfl
    · rename_i heq
      cases hdiff.symm.trans heq
  | targets ht hsources hpart =>
    have hsame : firstDifference? own.sources other.sources = none := by
      rw [hsources, firstDifference?_self]
    have hdiff := firstDifference?_eq_some_iff.mpr hpart
    rw [dif_pos ⟨congrArg List.length hsources, ht⟩]
    split
    · rename_i heq
      cases hsame.symm.trans heq
    · split
      · rename_i heq
        cases hdiff.symm.trans heq
        rfl
      · rename_i heq
        cases hdiff.symm.trans heq

/-- Tables with the same keys are compared, all others have a reason not to be. -/
theorem sameKeys_or_unfit (own other : Table) :
    own.SameKeys other ∨ ∃ shape, Unfit own other shape := by
  by_cases hl : own.sources.length = other.sources.length ∧
      own.targets.length = other.targets.length
  · cases hs : firstDifference? own.sources other.sources with
    | some parted =>
      obtain ⟨i, a, b⟩ := parted
      exact .inr ⟨_, .sources hl.1 hl.2 (firstDifference?_eq_some_iff.mp hs)⟩
    | none =>
      have hsources := eq_of_firstDifference?_eq_none hl.1 hs
      cases ht : firstDifference? own.targets other.targets with
      | some parted =>
        obtain ⟨i, a, b⟩ := parted
        exact .inr ⟨_, .targets hl.2 hsources (firstDifference?_eq_some_iff.mp ht)⟩
      | none => exact .inl ⟨hsources, eq_of_firstDifference?_eq_none hl.2 ht⟩
  · exact .inr ⟨_, .size hl⟩

/-- **Tables are not compared just if their keys part, and the refusal says where.** -/
theorem compare_eq_error_iff {fault : Fault} : own.compare other = .error fault ↔
    ∃ shape, fault = .shape shape ∧ Unfit own other shape := by
  constructor
  · intro h
    rcases sameKeys_or_unfit own other with hsame | ⟨shape, hunfit⟩
    · obtain ⟨c, hc, _⟩ := exists_compare hsame
      cases hc.symm.trans h
    · have herror := compare_eq_error hunfit
      exact ⟨shape, Except.error.inj (h.symm.trans herror), hunfit⟩
  · rintro ⟨shape, rfl, hunfit⟩
    exact compare_eq_error hunfit

/-- **Tables are compared just if they have the same keys.** -/
theorem exists_compare_iff : (∃ c, own.compare other = .ok c) ↔ own.SameKeys other := by
  constructor
  · rintro ⟨c, hc⟩
    rcases sameKeys_or_unfit own other with hsame | ⟨shape, hunfit⟩
    · exact hsame
    · cases hc.symm.trans (compare_eq_error hunfit)
  · intro hsame
    obtain ⟨c, hc, _⟩ := exists_compare hsame
    exact ⟨c, hc⟩

/-! ## What a comparison says -/

/-- What the comparison of two tables over the same keys says of each pair of them. -/
structure Compared (own other c : Table) : Prop where
  /-- The keys are those of the two tables. -/
  sameKeys : c.SameKeys own
  /-- There is no rate. -/
  rate : ∀ p ∈ c.sources, ∀ q ∈ c.targets, c.rate p q = .ok none
  /-- What is missing on this side is missing. -/
  missing : ∀ p q, c.entry p q = none ↔ own.entry p q = none
  /-- What both sides have alike is true. -/
  alike : ∀ p q, c.entry p q = some true ↔ ∃ v, own.entry p q = some v ∧ other.entry p q = some v
  /-- All else is false, what only the other side misses among it. -/
  different : ∀ p q, c.entry p q = some false ↔
    ∃ v, own.entry p q = some v ∧ other.entry p q ≠ some v

/-- Only keys of the table have an entry. -/
theorem mem_of_entry {v : Bool} (h : t.entry p q = some v) : p ∈ t.sources ∧ q ∈ t.targets := by
  cases hcell : t.cell p q with
  | error fault =>
    rw [entry, value_eq_map, hcell] at h
    exact absurd h.symm (Option.some_ne_none v)
  | ok i =>
    obtain ⟨hp, hq, _⟩ := cell_eq_ok hcell
    exact ⟨hp, hq⟩

theorem entry_eq_none_of_unknown (h : ¬ (p ∈ t.sources ∧ q ∈ t.targets)) : t.entry p q = none := by
  rw [Option.eq_none_iff_forall_ne_some]
  intro v hv
  exact h (mem_of_entry hv)

/-- A comparison is over the keys of this side, and compares entry by entry. -/
theorem compare_eq_ok (h : own.compare other = .ok c) : c.SameKeys own ∧
    ∀ p q, c.entry p q = compareValue (own.entry p q) (other.entry p q) := by
  obtain ⟨c', hc', hsame, hentry⟩ := exists_compare (exists_compare_iff.mp ⟨c, h⟩)
  obtain rfl : c = c' := Except.ok.inj (h.symm.trans hc')
  refine ⟨hsame, fun p q => ?_⟩
  by_cases hpq : p ∈ own.sources ∧ q ∈ own.targets
  · exact hentry p hpq.1 q hpq.2
  · rw [entry_eq_none_of_unknown hpq, entry_eq_none_of_unknown (hsame.1 ▸ hsame.2 ▸ hpq)]
    rfl

/-- A comparison holds no rate. -/
theorem rate_compare (h : own.compare other = .ok c) (p q : String) :
    c.rate p q = (own.cell p q).map fun _ => none := by
  unfold compare at h
  split at h
  · split at h
    · cases h
    · split at h
      · cases h
      · injection h with h
        subst h
        rw [rate_eq_map]
        -- where a cell is depends on the keys only
        show (own.cell p q).map _ = _
        congr 1
        funext i
        exact Vector.getElem_replicate i.isLt
  · cases h

/-- **A comparison tells what is missing, what is alike and what is different.** -/
theorem compared (h : own.compare other = .ok c) : Compared own other c where
  sameKeys := (compare_eq_ok h).1
  rate := by
    intro p hp q hq
    obtain ⟨hsources, htargets⟩ := (compare_eq_ok h).1
    obtain ⟨i, hi⟩ := exists_cell (hsources ▸ hp) (htargets ▸ hq)
    rw [rate_compare h, hi]
    rfl
  missing := by
    intro p q
    rw [(compare_eq_ok h).2, compareValue, Option.map_eq_none_iff]
  alike := by
    intro p q
    rw [(compare_eq_ok h).2, compareValue, Option.map_eq_some_iff]
    refine exists_congr fun v => and_congr_right fun _ => ?_
    rw [decide_eq_true_iff, eq_comm]
  different := by
    intro p q
    rw [(compare_eq_ok h).2, compareValue, Option.map_eq_some_iff]
    refine exists_congr fun v => and_congr_right fun _ => ?_
    rw [decide_eq_false_iff_not, ne_comm]

/-! ## What follows -/

/-- A table does not differ from itself. -/
theorem entry_compare_self (h : own.compare own = .ok c) (p q : String) :
    c.entry p q ≠ some false := by
  intro hfalse
  obtain ⟨v, hv, hne⟩ := ((compared h).different p q).mp hfalse
  exact hne hv

/-- **All cells of a comparison are true just if this side is complete and the other the same.** -/
theorem all_alike_iff (h : own.compare other = .ok c) :
    (∀ p ∈ c.sources, ∀ q ∈ c.targets, c.entry p q = some true) ↔ own.isComplete = true ∧
      ∀ p ∈ own.sources, ∀ q ∈ own.targets, other.entry p q = own.entry p q := by
  obtain ⟨hsources, htargets⟩ := (compare_eq_ok h).1
  rw [hsources, htargets, isComplete_iff_entry]
  constructor
  · intro hall
    have halike : ∀ p ∈ own.sources, ∀ q ∈ own.targets,
        ∃ v, own.entry p q = some v ∧ other.entry p q = some v :=
      fun p hp q hq => ((compared h).alike p q).mp (hall p hp q hq)
    refine ⟨fun p hp q hq => ?_, fun p hp q hq => ?_⟩
    · obtain ⟨v, hv, _⟩ := halike p hp q hq
      exact Option.isSome_of_eq_some hv
    · obtain ⟨v, hv, hv'⟩ := halike p hp q hq
      exact hv'.trans hv.symm
  · rintro ⟨hcomplete, hsame⟩ p hp q hq
    obtain ⟨v, hv⟩ := Option.isSome_iff_exists.mp (hcomplete p hp q hq)
    exact ((compared h).alike p q).mpr ⟨v, hv, (hsame p hp q hq).trans hv⟩

theorem compareValue_comm {a b : Option Bool} (ha : a.isSome = true) (hb : b.isSome = true) :
    compareValue a b = compareValue b a := by
  obtain ⟨v, rfl⟩ := Option.isSome_iff_exists.mp ha
  obtain ⟨w, rfl⟩ := Option.isSome_iff_exists.mp hb
  rw [compareValue, compareValue, Option.map_some, Option.map_some, decide_eq_decide.mpr eq_comm]

/-- **Two complete tables compare alike either way around.** -/
theorem compare_comm (hown : own.isComplete = true) (hother : other.isComplete = true)
    (h : own.compare other = .ok c) : other.compare own = .ok c := by
  have hsame := exists_compare_iff.mp ⟨c, h⟩
  obtain ⟨c', h'⟩ := exists_compare_iff.mpr ⟨hsame.1.symm, hsame.2.symm⟩
  obtain ⟨hkeys, hentry⟩ := compare_eq_ok h
  obtain ⟨hkeys', hentry'⟩ := compare_eq_ok h'
  have hck : c.SameKeys c' :=
    ⟨hkeys.1.trans (hsame.1.trans hkeys'.1.symm), hkeys.2.trans (hsame.2.trans hkeys'.2.symm)⟩
  have hvalue : ∀ p ∈ c.sources, ∀ q ∈ c.targets, c.value p q = c'.value p q := by
    intro p hp q hq
    have hp₁ := hkeys.1 ▸ hp
    have hq₁ := hkeys.2 ▸ hq
    rw [value_eq_entry hp hq, value_eq_entry (hck.1 ▸ hp) (hck.2 ▸ hq), hentry, hentry',
      compareValue_comm (isComplete_iff_entry.mp hown p hp₁ q hq₁)
        (isComplete_iff_entry.mp hother p (hsame.1 ▸ hp₁) q (hsame.2 ▸ hq₁))]
  have hrate : ∀ p ∈ c.sources, ∀ q ∈ c.targets, c.rate p q = c'.rate p q := by
    intro p hp q hq
    rw [(compared h).rate p hp q hq, (compared h').rate p (hck.1 ▸ hp) q (hck.2 ▸ hq)]
  rw [h', eq_of_cells hck hvalue hrate]

/--
**Where two tables agree.**

Two tables can be compared just if they have the same keys in the same order, and if not, the first
place where their keys part is named, the sources before the targets. A comparison tells what is
missing on this side, what is alike and what is different. It is as complete as this side, all true
just if this side is complete and the other the same, and never false of a table and itself.
Which of two complete tables is compared with the other does not matter.
-/
theorem compare_tells_agreement (own other : Table) :
    (∀ fault, own.compare other = .error fault ↔
      ∃ shape, fault = .shape shape ∧ Unfit own other shape) ∧
    ((∃ fault, own.compare other = .error fault) ↔
      own.sources ≠ other.sources ∨ own.targets ≠ other.targets) ∧
    (∀ c, own.compare other = .ok c → Compared own other c ∧ c.isComplete = own.isComplete ∧
      ((∀ p ∈ c.sources, ∀ q ∈ c.targets, c.entry p q = some true) ↔ own.isComplete = true ∧
        ∀ p ∈ own.sources, ∀ q ∈ own.targets, other.entry p q = own.entry p q)) ∧
    (∃ c, own.compare own = .ok c ∧ ∀ p q, c.entry p q ≠ some false) ∧
    (own.isComplete = true → other.isComplete = true →
      ∀ c, own.compare other = .ok c ↔ other.compare own = .ok c) := by
  refine ⟨fun _ => compare_eq_error_iff, ?_, fun c h => ?_, ?_, fun hown hother c => ?_⟩
  · have hnot : ¬ (∃ c, own.compare other = .ok c) ↔
        own.sources ≠ other.sources ∨ own.targets ≠ other.targets := by
      rw [exists_compare_iff, SameKeys, not_and_or]
    rw [← hnot]
    cases own.compare other <;> simp
  · exact ⟨compared h, isComplete_compare h, all_alike_iff h⟩
  · obtain ⟨c, hc⟩ := exists_compare_iff.mpr (⟨rfl, rfl⟩ : own.SameKeys own)
    exact ⟨c, hc, entry_compare_self hc⟩
  · exact ⟨compare_comm hown hother, compare_comm hother hown⟩

/-- One source and two targets. -/
def oneRow (b c : Option Bool) : Table where
  sources := ["a"]
  targets := ["b", "c"]
  values := #v[b, c]
  rates := #v[none, none]
  sources_nodup := by decide
  targets_nodup := by decide

/-- Compared with a row that lacks its second value, a complete row is complete and different
there. Of two complete rows it does not matter which is compared with the other. -/
theorem compare_tells_agreement_of_one_row :
    let full := oneRow (some true) (some true)
    let mixed := oneRow (some true) (some false)
    full.compare (oneRow (some true) none) = .ok mixed ∧ mixed.isComplete = true ∧
      Compared full (oneRow (some true) none) mixed ∧
      full.compare mixed = .ok mixed ∧ mixed.compare full = .ok mixed := by
  intro full mixed
  have hlacking : full.compare (oneRow (some true) none) = .ok mixed := rfl
  obtain ⟨_, _, hok, _⟩ := compare_tells_agreement full (oneRow (some true) none)
  obtain ⟨hcompared, hcomplete, _⟩ := hok mixed hlacking
  have hmixed : full.compare mixed = .ok mixed := rfl
  obtain ⟨_, _, _, _, hcomm⟩ := compare_tells_agreement full mixed
  exact ⟨hlacking, hcomplete.trans (by decide), hcompared, hmixed,
    (hcomm (by decide) (by decide) mixed).mp hmixed⟩

end PodMesh.Table
