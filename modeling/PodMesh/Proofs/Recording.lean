import PodMesh.Probe.Job
import PodMesh.Proofs.Matrix

/-!
# Recording outcomes

An outcome is entered into the one cell of its pair, and what is said about it depends on
that outcome and on the expectations only (`record_eq_ok`). So when no two outcomes of a
list are of one pair, it does not matter in which order they are entered: `Holds` says what
a matrix shows once they all are, and it determines the matrix (`Holds.unique`).
-/

namespace PodMesh

/-- The keys of a job's pair. -/
def Job.keys (job : Job) : String × String := (job.source.id.text, job.target.id.text)

theorem Job.mk_eq_keys {job : Job} {p q : String} :
    (p, q) = job.keys ↔ p = job.source.id.text ∧ q = job.target.id.text :=
  by rw [Job.keys, Prod.mk.injEq]

/-- Are both pods of a job among the pods of a matrix? -/
def Job.Within (job : Job) (m : Matrix) : Prop := job.source.id ∈ m.pods ∧ job.target.id ∈ m.pods

namespace Matrix

variable {m m' : Matrix} {o : Outcome}

/-- What is said about an outcome under the expectations of a matrix. -/
def remarks (m : Matrix) (o : Outcome) : List Notice :=
  match m.expectation o.job.source.id o.job.target.id with
  | .ok expected => o.notices expected
  | .error _ => []

/-- What changes in a matrix by one outcome: the value and perhaps the rate of its pair. -/
structure Entered (m : Matrix) (o : Outcome) (m' : Matrix) : Prop where
  /-- The pods stay. -/
  pods : m'.pods = m.pods
  /-- The expectations stay. -/
  expected : m'.expected = m.expected
  /-- The keys of the observations stay. -/
  keys : m'.observed.SameKeys m.observed
  /-- The value of the pair is the outcome's, every other stays. -/
  value : ∀ p q, m'.observed.value p q =
    if (p, q) = o.job.keys then .ok (some o.connected) else m.observed.value p q
  /-- The rate of the pair is the outcome's if it has one, every other stays. -/
  rate : ∀ p q, m'.observed.rate p q =
    if (p, q) = o.job.keys then (m.observed.rate p q).map (o.rate.or ·) else m.observed.rate p q

theorem remarks_congr (h : m'.expected = m.expected) (o : Outcome) :
    m'.remarks o = m.remarks o := by
  unfold remarks expectation
  rw [h]

/-- The value of a pair is entered. -/
theorem entered_observe (h : m.observe o.job.source.id o.job.target.id o.connected = .ok m')
    (hr : o.rate = none) : Entered m o m' := by
  obtain ⟨t, ht, rfl⟩ := observe_eq_ok h
  refine ⟨rfl, rfl, Table.set_sameKeys ht, fun p q => ?_, fun p q => ?_⟩
  · simp only [Table.value_set ht, Job.mk_eq_keys]
  · rw [Table.rate_set ht, hr]
    cases m.observed.rate p q <;> simp [Except.map]

/-- The value and the rate of a pair are entered. -/
theorem entered_observe_observeRate {m₁ : Matrix} {r : Rate}
    (h : m.observe o.job.source.id o.job.target.id o.connected = .ok m₁)
    (h₁ : m₁.observeRate o.job.source.id o.job.target.id r = .ok m')
    (hr : o.rate = some r) : Entered m o m' := by
  obtain ⟨t, ht, rfl⟩ := observe_eq_ok h
  obtain ⟨t', ht', rfl⟩ := observeRate_eq_ok h₁
  have hk := Table.set_sameKeys ht
  have hk' := Table.setRate_sameKeys ht'
  refine ⟨rfl, rfl, ⟨hk'.1.trans hk.1, hk'.2.trans hk.2⟩, fun p q => ?_, fun p q => ?_⟩
  · rw [Table.value_setRate ht']
    simp only [Table.value_set ht, Job.mk_eq_keys]
  · rw [Table.rate_setRate ht', hr]
    simp only [Table.rate_set ht, Job.mk_eq_keys]
    split
    · rename_i hpq
      obtain ⟨i, hi, _⟩ := Table.set_eq_ok ht
      rw [hpq.1, hpq.2, Table.rate_eq_map, hi]
      rfl
    · rfl

theorem attempt_ok {α : Type} (a : α) : o.attempt m (.ok a) = .ok a := rfl

/-- A step succeeds if the operation does. -/
theorem attempt_eq_ok {α : Type} {step : Except Fault α} {a : α} :
    o.attempt m step = .ok a ↔ step = .ok a := by
  cases step with
  | error fault => exact iff_of_false nofun nofun
  | ok b => rw [attempt_ok, Except.ok.injEq, Except.ok.injEq]

/-- A step that is refused leaves the matrix as it was given. -/
theorem matrix_of_attempt {α : Type} {step : Except Fault α} {refusal : Refusal}
    (h : o.attempt m step = .error refusal) : refusal.matrix = m := by
  cases step with
  | error fault =>
    injection h with h
    rw [← h]
  | ok _ => cases h

/-- An outcome that is not refused is entered in one step, or in two if it has a rate. -/
theorem record_cases {notices : List Notice} (h : o.record m = .ok (m', notices)) :
    o.rate = none ∧ m.observe o.job.source.id o.job.target.id o.connected = .ok m' ∨
      ∃ r m₁, o.rate = some r ∧
        m.observe o.job.source.id o.job.target.id o.connected = .ok m₁ ∧
        m₁.observeRate o.job.source.id o.job.target.id r = .ok m' := by
  obtain ⟨m₁, h₁, h⟩ := bind_eq_ok.mp h
  have hobserve := attempt_eq_ok.mp h₁
  cases hr : o.rate with
  | none =>
    simp only [hr] at h
    obtain ⟨m₂, h₂, h⟩ := bind_eq_ok.mp h
    obtain ⟨_, _, h⟩ := bind_eq_ok.mp h
    injection h₂ with h₂
    injection h with h
    injection h with h
    exact .inl ⟨rfl, h ▸ h₂ ▸ hobserve⟩
  | some r =>
    simp only [hr] at h
    obtain ⟨m₂, h₂, h⟩ := bind_eq_ok.mp h
    obtain ⟨_, _, h⟩ := bind_eq_ok.mp h
    injection h with h
    injection h with h
    exact .inr ⟨r, m₁, rfl, hobserve, h ▸ attempt_eq_ok.mp h₂⟩

/-- An outcome that is refused may have been entered in part: not at all, or its value, or its value
and its rate. -/
theorem refusal_cases {refusal : Refusal} (h : o.record m = .error refusal) :
    refusal.matrix = m ∨
      ∃ m₁, m.observe o.job.source.id o.job.target.id o.connected = .ok m₁ ∧
        (refusal.matrix = m₁ ∨
          ∃ r, m₁.observeRate o.job.source.id o.job.target.id r = .ok refusal.matrix) := by
  rcases bind_eq_error.mp h with h | ⟨m₁, h₁, h⟩
  · exact .inl (matrix_of_attempt h)
  · refine .inr ⟨m₁, attempt_eq_ok.mp h₁, ?_⟩
    cases hr : o.rate with
    | none =>
      simp only [hr] at h
      obtain ⟨m₂, h₂, h⟩ := (bind_eq_error.mp h).resolve_left nofun
      injection h₂ with h₂
      rcases bind_eq_error.mp h with h | ⟨_, _, h⟩
      · exact .inl (h₂ ▸ matrix_of_attempt h)
      · cases h
    | some r =>
      simp only [hr] at h
      rcases bind_eq_error.mp h with h | ⟨m₂, h₂, h⟩
      · exact .inl (matrix_of_attempt h)
      · rcases bind_eq_error.mp h with h | ⟨_, _, h⟩
        · exact .inr ⟨r, matrix_of_attempt h ▸ attempt_eq_ok.mp h₂⟩
        · cases h

/-- An outcome that is not refused is entered, whatever matrix it is. -/
theorem entered_of_record {notices : List Notice} (h : o.record m = .ok (m', notices)) :
    Entered m o m' := by
  rcases record_cases h with ⟨hr, h₁⟩ | ⟨r, m₁, hr, h₁, h₂⟩
  · exact entered_observe h₁ hr
  · exact entered_observe_observeRate h₁ h₂ hr

/-- **An outcome of a sound matrix's own pods is entered.** -/
theorem record_eq_ok (hs : Sound m) (hw : o.job.Within m) :
    ∃ m', o.record m = .ok (m', m.remarks o) ∧ Entered m o m' ∧ Sound m' := by
  obtain ⟨m₁, h₁⟩ := hs.exists_observe hw.1 hw.2 o.connected
  obtain ⟨v, hv⟩ := hs.exists_expectation hw.1 hw.2
  have hsaid : o.notices v = m.remarks o := by rw [remarks, hv]
  have hs₁ := sound_observe hs h₁
  obtain ⟨hp₁, he₁⟩ := observe_same h₁
  cases hr : o.rate with
  | none =>
      refine ⟨m₁, ?_, entered_observe h₁ hr, hs₁⟩
      have hv₁ : m₁.expectation o.job.source.id o.job.target.id = .ok v := by
        rw [← hv, expectation, expectation, he₁]
      simp only [Outcome.record, attempt_ok, hr, h₁, bind, Except.bind, pure, Except.pure, hv₁,
        hsaid]
  | some r =>
      obtain ⟨m₂, h₂⟩ := hs₁.exists_observeRate (hp₁ ▸ hw.1) (hp₁ ▸ hw.2) r
      obtain ⟨_, he₂⟩ := observeRate_same h₂
      refine ⟨m₂, ?_, entered_observe_observeRate h₁ h₂ hr, sound_observeRate hs₁ h₂⟩
      have hv₂ : m₂.expectation o.job.source.id o.job.target.id = .ok v := by
        rw [← hv, expectation, expectation, he₂, he₁]
      simp only [Outcome.record, attempt_ok, hr, h₁, h₂, bind, Except.bind, pure, Except.pure, hv₂,
        hsaid]

/-! ## Many outcomes -/

/-- What a matrix shows once some outcomes of different pairs have been entered into another. -/
structure Holds (m : Matrix) (os : List Outcome) (m' : Matrix) : Prop where
  /-- The pods stay. -/
  pods : m'.pods = m.pods
  /-- The expectations stay. -/
  expected : m'.expected = m.expected
  /-- The keys of the observations stay. -/
  keys : m'.observed.SameKeys m.observed
  /-- A pair that has an outcome shows its value. -/
  value : ∀ o ∈ os, m'.observed.value o.job.keys.1 o.job.keys.2 = .ok (some o.connected)
  /-- A pair that has an outcome shows its rate, or the rate from before if it has none. -/
  rate : ∀ o ∈ os, m'.observed.rate o.job.keys.1 o.job.keys.2 =
    (m.observed.rate o.job.keys.1 o.job.keys.2).map (o.rate.or ·)
  /-- A pair that has no outcome shows the value from before. -/
  other_value : ∀ p q, (p, q) ∉ os.map (·.job.keys) →
    m'.observed.value p q = m.observed.value p q
  /-- A pair that has no outcome shows the rate from before. -/
  other_rate : ∀ p q, (p, q) ∉ os.map (·.job.keys) →
    m'.observed.rate p q = m.observed.rate p q

theorem holds_nil (m : Matrix) : Holds m [] m :=
  ⟨rfl, rfl, ⟨rfl, rfl⟩, by simp, by simp, fun _ _ _ => rfl, fun _ _ _ => rfl⟩

/-- One more outcome of a new pair. -/
theorem Holds.snoc {m₁ : Matrix} {os : List Outcome} (h : Holds m os m₁)
    (he : Entered m₁ o m') (hn : o.job.keys ∉ os.map (·.job.keys)) :
    Holds m (os ++ [o]) m' := by
  have hother : ∀ o' ∈ os, (o'.job.keys.1, o'.job.keys.2) ≠ o.job.keys :=
    fun o' ho' heq => hn (heq ▸ List.mem_map_of_mem ho')
  refine ⟨he.pods.trans h.pods, he.expected.trans h.expected,
    ⟨he.keys.1.trans h.keys.1, he.keys.2.trans h.keys.2⟩, ?_, ?_, ?_, ?_⟩
  · intro o' ho'
    rw [he.value]
    rcases List.mem_append.mp ho' with ho' | ho'
    · rw [if_neg (hother o' ho')]
      exact h.value o' ho'
    · rw [List.mem_singleton.mp ho', if_pos rfl]
  · intro o' ho'
    rw [he.rate]
    rcases List.mem_append.mp ho' with ho' | ho'
    · rw [if_neg (hother o' ho')]
      exact h.rate o' ho'
    · rw [List.mem_singleton.mp ho', if_pos rfl, h.other_rate o.job.keys.1 o.job.keys.2 hn]
  · intro p q hpq
    simp only [List.map_append, List.map_cons, List.map_nil, List.mem_append,
      List.mem_singleton, not_or] at hpq
    rw [he.value, if_neg hpq.2, h.other_value p q hpq.1]
  · intro p q hpq
    simp only [List.map_append, List.map_cons, List.map_nil, List.mem_append,
      List.mem_singleton, not_or] at hpq
    rw [he.rate, if_neg hpq.2, h.other_rate p q hpq.1]

/-- **The outcomes determine the matrix, in whatever order they were entered.** -/
theorem Holds.unique {os os' : List Outcome} {m₁ m₂ : Matrix} (h₁ : Holds m os m₁)
    (h₂ : Holds m os' m₂) (hp : os.Perm os') : m₁ = m₂ := by
  have hsame : m₁.observed.SameKeys m₂.observed :=
    ⟨h₁.keys.1.trans h₂.keys.1.symm, h₁.keys.2.trans h₂.keys.2.symm⟩
  have hcells : ∀ p q, m₁.observed.value p q = m₂.observed.value p q ∧
      m₁.observed.rate p q = m₂.observed.rate p q := by
    intro p q
    -- a pair shows its outcome in both, or what it showed before in both
    by_cases hpq : (p, q) ∈ os.map (·.job.keys)
    · obtain ⟨o, ho, hk⟩ := List.mem_map.mp hpq
      have ho' := hp.mem_iff.mp ho
      have hp : p = o.job.keys.1 := (congrArg Prod.fst hk).symm
      have hq : q = o.job.keys.2 := (congrArg Prod.snd hk).symm
      rw [hp, hq]
      exact ⟨by rw [h₁.value o ho, h₂.value o ho'], by rw [h₁.rate o ho, h₂.rate o ho']⟩
    · have hpq' : (p, q) ∉ os'.map (·.job.keys) := fun h =>
        hpq ((hp.map _).mem_iff.mpr h)
      exact ⟨by rw [h₁.other_value p q hpq, h₂.other_value p q hpq'],
        by rw [h₁.other_rate p q hpq, h₂.other_rate p q hpq']⟩
  have hobs : m₁.observed = m₂.observed :=
    Table.eq_of_cells hsame (fun p _ q _ => (hcells p q).1) (fun p _ q _ => (hcells p q).2)
  obtain ⟨p₁, e₁, o₁⟩ := m₁
  obtain ⟨p₂, e₂, o₂⟩ := m₂
  have hpods := h₁.pods.trans h₂.pods.symm
  have hexp := h₁.expected.trans h₂.expected.symm
  dsimp only at hpods hexp hobs
  subst hpods
  subst hexp
  subst hobs
  rfl

end Matrix

end PodMesh
