import PodMesh.Proofs.Pass.Journal

/-!
# Passes that succeed

A pass may also be made over a matrix that is not in order, and then some outcome may be refused,
which ends the pass (`not_failed_of_move`). But what a pass has to show for a success does not
depend on its matrix: the main thread counts what it records (`Counted`), and it can only count up
to the number of jobs if every job was settled and every outcome recorded (`Ends.complete`). Then
each pair shows an outcome of its own, if it may be one of several (`Shown`).
-/

namespace PodMesh.Pass

variable {σ : Type} {prober : Prober σ} {size : Nat} {s s' : State σ} {es new events : List Event}
  {js : List Job} {crew : Nat} {m matrix : Matrix} {world : World σ} {pool : Pool σ}
  {cluster : Cluster} {plan : Plan} {after : After σ Unit}

/-! ## What is counted is recorded -/

/-- How many outcomes are recorded at each point of the main thread. -/
def Counted (size count : Nat) : Main → Prop
  | .sending => count = 0
  | .receiving n => count = n
  | .joining | .ended (.ok ()) => count = size
  | .ended (.error _) => True

/-- What happens to jobs without an outcome being recorded leaves the records as they are. -/
theorem recorded_append_none (hr : recorded new = []) : recorded (es ++ new) = recorded es := by
  rw [recorded_append, hr, List.append_nil]

theorem counted_move (h : Counted size (recorded es).length s.main)
    (hm : Move prober size s new s') : Counted size (recorded (es ++ new)).length s'.main := by
  -- one move records an outcome, and it counts one more; those that fail need not count
  cases hm with
  | giveUp _ _ _ | refuse _ _ _ _ | fallShort _ _ _ _ => trivial
  | @enter count o rest m₁ notices hmain _ _ _ =>
    have hrecorded : recorded (es ++ [.entered o]) = recorded es ++ [o] := recorded_append es _
    have hcount : (recorded es).length = count := by rwa [hmain] at h
    rw [hrecorded, List.length_append, hcount]
    exact rfl
  | close hmain _ | complete hmain | join hmain _ =>
    rw [hmain] at h
    rw [recorded_append_none rfl]
    exact h
  | send _ _ _ _ | take _ _ | leave _ _ _ | settle _ _ | ask _ _ _ | die _ _ _ | deliver _ _ _
  | discard _ _ =>
    rw [recorded_append_none rfl]
    exact h

/-- **The main thread counts what it records.** -/
theorem counted_run {first : State σ} (hfirst : first.main = .sending)
    (h : Run prober size first es s) : Counted size (recorded es).length s.main := by
  induction h with
  | start =>
    rw [hfirst]
    exact rfl
  | step _ hs ih => exact counted_move ih (step_move hs)

/-- **A pass that succeeds has settled every job and recorded every outcome**, whatever its
matrix. -/
theorem Ends.complete (h : Ends pool cluster plan matrix world events after)
    (hok : after.result = .ok ()) : losses events = [] ∧ (done events).Perm (jobs cluster plan) ∧
      (recorded events).Perm (produced events) := by
  obtain ⟨last, hrun, hmain, _, _⟩ := h
  have hcounted := counted_run rfl hrun
  rw [hmain, hok] at hcounted
  exact (conserved_run hrun).complete hcounted

/-! ## What is recorded is shown -/

/-- Has the main thread ended in failure? -/
def Failed (s : State σ) : Prop := ∃ fault, s.main = .ended (.error fault)

/-- Who has failed has no more moves, so what has not failed now had not failed before. -/
theorem not_failed_of_move (hok : ¬ Failed s') (hm : Move prober size s new s') : ¬ Failed s := by
  rintro ⟨fault, hfailed⟩
  cases hm with
  | send hmain _ _ _ | giveUp hmain _ _ | close hmain _ | enter hmain _ _ _ | refuse hmain _ _ _
  | complete hmain | fallShort hmain _ _ _ | join hmain _ => cases hfailed.symm.trans hmain
  | take _ _ | leave _ _ _ | settle _ _ | ask _ _ _ | die _ _ _ | deliver _ _ _ | discard _ _ =>
    exact hok ⟨fault, hfailed⟩

/-- A pair that has outcomes shows one of them. After a failure it need not, since an outcome that
is refused may have been entered in part. -/
def Shown (events : List Event) (s : State σ) : Prop :=
  ¬ Failed s → ∀ o ∈ recorded events, ∃ o' ∈ recorded events, o'.job.keys = o.job.keys ∧
    s.matrix.observed.value o.job.keys.1 o.job.keys.2 = .ok (some o'.connected)

theorem shown_move (h : Shown es s) (hm : Move prober size s new s') : Shown (es ++ new) s' := by
  intro hok
  have h := h (not_failed_of_move hok hm)
  cases hm with
  | @enter count o rest m₁ notices _ _ _ hrec =>
    have hentered := Matrix.entered_of_record hrec
    have hrecorded : recorded (es ++ [.entered o]) = recorded es ++ [o] := recorded_append es _
    intro o₁ ho₁
    rw [hrecorded] at ho₁ ⊢
    by_cases hkeys : o₁.job.keys = o.job.keys
    · -- the pair was entered just now
      refine ⟨o, List.mem_append_right _ List.mem_cons_self, hkeys.symm, ?_⟩
      rw [hentered.value, if_pos hkeys]
    · have hold : o₁ ∈ recorded es := by
        rcases List.mem_append.mp ho₁ with hold | hnew
        · exact hold
        · exact absurd (congrArg (·.job.keys) (List.mem_singleton.mp hnew)) hkeys
      obtain ⟨o', ho', hkeys', hvalue⟩ := h o₁ hold
      refine ⟨o', List.mem_append_left _ ho', hkeys', ?_⟩
      rw [hentered.value, if_neg hkeys, hvalue]
  | @refuse _ _ _ refusal _ _ _ _ => exact absurd ⟨refusal.fault, rfl⟩ hok
  | send _ _ _ _ | giveUp _ _ _ | close _ _ | complete _ | fallShort _ _ _ _ | join _ _
  | take _ _ | leave _ _ _ | settle _ _ | ask _ _ _ | die _ _ _ | deliver _ _ _ | discard _ _ =>
    rw [recorded_append_none rfl]
    exact h

/-- **Every pair that has outcomes shows one of them**, whatever matrix they are recorded in. -/
theorem shown_run {first : State σ} (h : Run prober size first es s) : Shown es s := by
  induction h with
  | start => exact fun _ _ ho => nomatch ho
  | step _ hs ih => exact shown_move ih (step_move hs)

/-- After a pass that succeeds each pair shows an outcome of its own. -/
theorem Ends.exists_outcome (h : Ends pool cluster plan matrix world events after)
    (hok : after.result = .ok ()) {job : Job} (hj : job ∈ jobs cluster plan) :
    ∃ o ∈ recorded events, o.job ∈ jobs cluster plan ∧ o.job.keys = job.keys ∧
      Answered events o ∧
      after.matrix.observed.value job.keys.1 job.keys.2 = .ok (some o.connected) := by
  obtain ⟨hlost, hdone, hrecorded⟩ := h.complete hok
  obtain ⟨last, hrun, hmain, hmatrix, _⟩ := h
  have hfine : ¬ Failed last := by
    rintro ⟨fault, hfault⟩
    rw [hok] at hmain
    cases hmain.symm.trans hfault
  rw [done, hlost, List.nil_append] at hdone
  obtain ⟨o, ho, rfl⟩ := List.mem_map.mp (hdone.mem_iff.mpr hj)
  obtain ⟨o', ho', hkeys, hvalue⟩ := shown_run hrun hfine o (hrecorded.mem_iff.mpr ho)
  have hproduced := hrecorded.mem_iff.mp ho'
  exact ⟨o', ho', hdone.mem_iff.mp (List.mem_map_of_mem hproduced), hkeys,
    (queried_run hrun).answered o' hproduced, hmatrix ▸ hvalue⟩

end PodMesh.Pass
