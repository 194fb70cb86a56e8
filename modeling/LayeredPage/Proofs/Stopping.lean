import LayeredPage.Proofs.Scrolling
import Mathlib.Data.List.Induction

/-!
# When a motion has stopped

A tracker counts how often the last sample came in a row, up to a largest number, and changes its
mode at touches and at samples. Both can be told from the calls alone: it has stopped when as many
samples as the configuration asks for were equal in the end, and it predicts from a release that
found it moving until a touch or a sample that stops it.
-/

namespace LayeredPage.Proofs

/-- The offsets that were sampled, in order. -/
def sampled (calls : List ScrollCall) : List (Point ℚ) := calls.filterMap ScrollCall.offset?

/-- At least `n` offsets were sampled, and the last `n` are equal. -/
def AtRest (n : Nat) (calls : List ScrollCall) : Prop :=
  ∃ offset, List.replicate n offset <:+ sampled calls

/-- The last touch that was told is a release, which did not come at rest, and no sample since then
brought the calls to rest. -/
def Gliding (n : Nat) (calls : List ScrollCall) : Prop :=
  ∃ before since, calls = before ++ .touch false :: since ∧
    (∀ touching, .touch touching ∉ since) ∧ ¬AtRest n before ∧
    ∀ early now offset, early ++ [.sample now offset] <+: since →
      ¬AtRest n (before ++ .touch false :: (early ++ [.sample now offset]))

section Rest

variable {n : Nat} {calls : List ScrollCall} {now : ℚ} {offset : Point ℚ}

@[simp] lemma sampled_sample :
    sampled (calls ++ [.sample now offset]) = sampled calls ++ [offset] := by
  simp [sampled, ScrollCall.offset?]

@[simp] lemma sampled_touch (touching : Bool) :
    sampled (calls ++ [.touch touching]) = sampled calls := by
  simp [sampled, ScrollCall.offset?]

@[simp] lemma sampled_report : sampled (calls ++ [.report now]) = sampled calls := by
  simp [sampled, ScrollCall.offset?]

@[simp] lemma atRest_touch (touching : Bool) :
    AtRest n (calls ++ [.touch touching]) ↔ AtRest n calls := by
  simp only [AtRest, sampled_touch]

@[simp] lemma atRest_report : AtRest n (calls ++ [.report now]) ↔ AtRest n calls := by
  simp only [AtRest, sampled_report]

@[simp] lemma atRest_zero : AtRest 0 calls := ⟨0, List.nil_suffix⟩

lemma replicate_suffix_concat {offsets : List (Point ℚ)} {other : Point ℚ} :
    List.replicate (n + 1) other <:+ offsets ++ [offset] ↔ other = offset ∧
    List.replicate n offset <:+ offsets := by
  rw [List.replicate_succ', List.suffix_concat_iff]
  constructor
  · rintro (nothing | ⟨rest, same, suffix⟩)
    · exact absurd nothing (by simp)
    · obtain ⟨rfl, last⟩ := List.append_inj' same rfl
      obtain rfl : other = offset := by simpa using last
      exact ⟨rfl, suffix⟩
  · rintro ⟨rfl, suffix⟩
    exact .inr ⟨_, rfl, suffix⟩

lemma atRest_sample :
    AtRest (n + 1) (calls ++ [.sample now offset]) ↔ List.replicate n offset <:+ sampled calls := by
  simp only [AtRest, sampled_sample, replicate_suffix_concat, exists_eq_left]

/-- Some equal offsets in the end are equal to the last one. -/
lemma last_of_suffix (suffix : List.replicate (n + 1) offset <:+ sampled calls) :
    lastOffset calls = offset := by
  obtain ⟨before, all⟩ := suffix
  change (sampled calls).getLastD 0 = offset
  rw [← all, List.replicate_succ', ← List.append_assoc, List.getLastD_concat]

lemma suffix_iff_atRest (last : lastOffset calls = offset) :
    List.replicate (n + 1) offset <:+ sampled calls ↔ AtRest (n + 1) calls := by
  constructor
  · exact fun suffix => ⟨offset, suffix⟩
  · rintro ⟨other, suffix⟩
    obtain rfl : other = offset := (last_of_suffix suffix).symm.trans last
    exact suffix

end Rest

section Gliding

variable {n : Nat} {calls : List ScrollCall} {c : ScrollCall}

/-- A call somewhere in a sequence is the last one or stands before it. -/
lemma concat_split {before since : List ScrollCall} {touch : ScrollCall}
    (all : calls ++ [c] = before ++ touch :: since) :
    (calls = before ∧ c = touch ∧ since = []) ∨ ∃ early, since = early ++ [c] ∧
      calls = before ++ touch :: early := by
  rcases List.eq_nil_or_concat since with rfl | ⟨early, last, rfl⟩
  · obtain ⟨rfl, same⟩ := List.append_inj' all rfl
    exact .inl ⟨rfl, by simpa using same, rfl⟩
  · rw [List.concat_eq_append, ← List.cons_append, ← List.append_assoc] at all
    obtain ⟨rfl, same⟩ := List.append_inj' all rfl
    obtain rfl : c = last := by simpa using same
    exact .inr ⟨early, List.concat_eq_append, rfl⟩

lemma gliding_touch (touching : Bool) :
    Gliding n (calls ++ [.touch touching]) ↔ touching = false ∧ ¬AtRest n calls := by
  constructor
  · rintro ⟨before, since, all, untouched, moving, -⟩
    obtain ⟨rfl, same, -⟩ | ⟨early, rfl, -⟩ := concat_split all
    · exact ⟨by simpa using same, moving⟩
    · exact absurd (by simp) (untouched touching)
  · rintro ⟨rfl, moving⟩
    exact ⟨calls, [], rfl, by simp, moving, by simp⟩

/-- Any other call leaves the motion as it was, unless it is a sample that ends it. -/
lemma gliding_concat (other : ∀ touching, c ≠ .touch touching) :
    Gliding n (calls ++ [c]) ↔ Gliding n calls ∧ (c.offset?.isSome → ¬AtRest n (calls ++ [c])) := by
  constructor
  · rintro ⟨before, since, all, untouched, moving, onward⟩
    obtain ⟨-, same, -⟩ | ⟨early, rfl, rfl⟩ := concat_split all
    · exact absurd same (other false)
    · refine ⟨⟨before, early, rfl, fun t there => untouched t (by simp [there]), moving, ?_⟩,
        fun sample => ?_⟩
      · exact fun first now offset upto =>
          onward first now offset (upto.trans (List.prefix_append ..))
      · cases c with
        | sample now offset => exact all ▸ onward early now offset (List.prefix_refl _)
        | touch touching => cases sample
        | report now => cases sample
  · rintro ⟨⟨before, since, rfl, untouched, moving, onward⟩, still⟩
    refine ⟨before, since ++ [c], by simp, ?_, moving, fun early now offset upto => ?_⟩
    · intro touching there
      obtain there | last := List.mem_append.1 there
      · exact untouched touching there
      · exact other touching (List.mem_singleton.1 last).symm
    · rcases List.prefix_concat_iff.1 upto with whole | upto
      · obtain ⟨rfl, last⟩ := List.append_inj' whole rfl
        obtain rfl : .sample now offset = c := by simpa using last
        simpa using still rfl
      · exact onward early now offset upto

lemma gliding_sample {now : ℚ} {offset : Point ℚ} :
    Gliding n (calls ++ [.sample now offset]) ↔ Gliding n calls ∧
    ¬AtRest n (calls ++ [.sample now offset]) := by
  rw [gliding_concat (by simp)]
  simp [ScrollCall.offset?]

lemma gliding_report {now : ℚ} : Gliding n (calls ++ [.report now]) ↔ Gliding n calls := by
  rw [gliding_concat (by simp)]
  simp [ScrollCall.offset?]

end Gliding

section Trackers

variable {s : ScrollTracker ℚ} {calls : List ScrollCall} {now : ℚ} {offset : Point ℚ}

/-- What a tracker knows after the calls: where they led to, for how long they were at rest there,
and whether they glide. -/
structure Knows (s : ScrollTracker ℚ) (calls : List ScrollCall) : Prop where
  last : s.last = lastOffset calls
  /-- The count goes up to the largest number, so it can tell every shorter rest. -/
  count : ∀ n ≤ ScrollTracker.longestRun, n ≤ s.identical ↔ AtRest n calls
  mode : s.mode = .predicting ↔ Gliding s.config.stopAfterIdentical.toNat calls
  calm : s.mode = .predicting → s.touching = false ∧ s.isStopped = false

lemma Knows.isStopped (knows : Knows s calls) :
    s.isStopped = true ↔ AtRest s.config.stopAfterIdentical.toNat calls := by
  rw [ScrollTracker.isStopped, decide_eq_true_eq]
  exact knows.count _ (Nat.le_of_lt_succ s.config.stopAfterIdentical.toNat_lt)

lemma config_sample : (s.sample now offset).config = s.config := by
  simp only [ScrollTracker.sample, apply_ite ScrollTracker.config, ite_self]

lemma same_iff {p q : Point ℚ} : p.same q = true ↔ p = q := by
  simp [Point.same, Scalar.same, Point.ext_iff]

lemma identical_sample : (s.sample now offset).identical =
    if offset = s.last ∧
    0 < s.identical then min (s.identical + 1) ScrollTracker.longestRun else 1 := by
  simp only [ScrollTracker.sample, apply_ite ScrollTracker.identical, ite_self, Bool.and_eq_true,
    same_iff, decide_eq_true_eq]

lemma mode_sample :
    (s.sample now offset).mode = if (s.sample now offset).isStopped then .direct else s.mode := by
  have stopped : (s.sample now offset).isStopped =
      decide (s.config.stopAfterIdentical.toNat ≤ (s.sample now offset).identical) := by
    rw [ScrollTracker.isStopped, config_sample]
  rw [stopped, identical_sample]
  simp only [ScrollTracker.sample, apply_ite ScrollTracker.mode, ScrollTracker.isStopped,
    Bool.and_eq_true, same_iff,
    decide_eq_true_eq]

lemma touching_sample : (s.sample now offset).touching = s.touching := by
  simp only [ScrollTracker.sample, apply_ite ScrollTracker.touching, ite_self]

/-- The run of the sample is one longer than the one before it if they are equal, and otherwise one
long. -/
lemma Knows.count_sample (knows : Knows s calls) {n : Nat} (long : n ≤ ScrollTracker.longestRun) :
    n ≤ (s.sample now offset).identical ↔ AtRest n (calls ++ [.sample now offset]) := by
  rw [identical_sample]
  rcases n with _ | _ | n
  · simp only [Nat.zero_le, atRest_zero]
  · have one : 0 + 1 ≤ min (s.identical + 1) ScrollTracker.longestRun :=
      le_min (Nat.le_add_left ..) long
    simp only [atRest_sample, List.replicate_zero, List.nil_suffix, iff_true]
    split
    · exact one
    · exact le_refl 1
  · have before := knows.count (n + 1) (Nat.le_of_succ_le long)
    rw [atRest_sample]
    split
    · next again =>
      rw [suffix_iff_atRest (knows.last.symm.trans again.1.symm), ← before]
      omega
    · next first =>
      refine iff_of_false (by omega) fun suffix => first ⟨?_, ?_⟩
      · exact (last_of_suffix suffix).symm.trans knows.last.symm
      · exact Nat.lt_of_lt_of_le n.succ_pos (before.2 ⟨offset, suffix⟩)

lemma Knows.sample (knows : Knows s calls) :
    Knows (s.sample now offset) (calls ++ [.sample now offset]) := by
  have count : ∀ n ≤ ScrollTracker.longestRun, n ≤ (s.sample now offset).identical ↔
      AtRest n (calls ++ [.sample now offset]) :=
    fun _ long => knows.count_sample long
  have stopped : (s.sample now offset).isStopped = true ↔
      AtRest s.config.stopAfterIdentical.toNat (calls ++ [.sample now offset]) := by
    rw [ScrollTracker.isStopped, decide_eq_true_eq, config_sample]
    exact count _ (Nat.le_of_lt_succ s.config.stopAfterIdentical.toNat_lt)
  refine ⟨?_, count, ?_, fun predicting => ?_⟩
  · simp [last_sample, lastOffset, ScrollCall.offset?]
  · rw [config_sample, gliding_sample, ← stopped, ← knows.mode, mode_sample]
    split <;> simp_all
  · rw [mode_sample] at predicting
    split at predicting
    · cases predicting
    · next moving =>
        exact ⟨touching_sample.trans (knows.calm predicting).1, Bool.eq_false_iff.2 moving⟩

lemma Knows.touch (knows : Knows s calls) (touching : Bool) :
    Knows (s.setTouching touching) (calls ++ [.touch touching]) := by
  have stopped := knows.isStopped
  refine ⟨?_, fun n long => (knows.count n long).trans (atRest_touch touching).symm, ?_,
    fun predicting => ?_⟩
  · exact knows.last.trans (by simp [lastOffset, ScrollCall.offset?])
  · change _ ↔ Gliding s.config.stopAfterIdentical.toNat _
    rw [gliding_touch, ← stopped]
    simp [ScrollTracker.setTouching]
  · simp only [ScrollTracker.setTouching] at predicting
    split at predicting
    · cases predicting
    · next free => simpa [ScrollTracker.setTouching, ScrollTracker.isStopped] using free

lemma Knows.report (knows : Knows s calls) : Knows (s.delta now).2 (calls ++ [.report now]) where
  last := knows.last.trans (by simp [lastOffset, ScrollCall.offset?])
  count n long := (knows.count n long).trans atRest_report.symm
  mode := knows.mode.trans gliding_report.symm
  calm := knows.calm

lemma Knows.perform (knows : Knows s calls) (c : ScrollCall) :
    Knows (c.perform s) (calls ++ [c]) := by
  cases c with
  | sample now offset => exact knows.sample
  | touch touching => exact knows.touch touching
  | report now => exact knows.report

lemma knows_start (config : ScrollConfig ℚ) : Knows (.start config) [] where
  last := rfl
  count n _ := by
    cases n with
    | zero => exact iff_of_true (Nat.le_refl 0) atRest_zero
    | succ n => simp [AtRest, sampled, ScrollTracker.start]
  mode :=
    iff_of_false (by simp [ScrollTracker.start]) (by rintro ⟨before, since, all, -⟩; simp at all)
  calm predicting := by cases predicting

lemma knows_followed (config : ScrollConfig ℚ) (calls : List ScrollCall) :
    Knows (followed config calls) calls := by
  induction calls using List.reverseRecOn with
  | nil => exact knows_start config
  | append_singleton calls c ih =>
    rw [followed, tracked_append]
    exact ih.perform c

lemma config_perform (c : ScrollCall) : (c.perform s).config = s.config := by
  cases c with
  | sample now offset => exact config_sample
  | touch touching => rfl
  | report now => rfl

lemma config_followed (config : ScrollConfig ℚ) (calls : List ScrollCall) :
    (followed config calls).config = config := by
  induction calls using List.reverseRecOn with
  | nil => rfl
  | append_singleton calls c ih =>
    rw [followed, tracked_append]
    exact (config_perform c).trans ih

end Trackers

/-- A tracker has stopped exactly when as many offsets as its configuration asks for were sampled
and are equal in the end, and it predicts exactly while the motion glides on since a release. So it
does not predict while touched, nor when it has stopped. -/
theorem modes_of_calls (config : ScrollConfig ℚ) (calls : List ScrollCall) :
    ((followed config calls).isStopped = true ↔ AtRest config.stopAfterIdentical.toNat calls) ∧
      ((followed config calls).mode = .predicting ↔ Gliding config.stopAfterIdentical.toNat calls) ∧
      ((followed config calls).mode = .predicting →
        (followed config calls).touching = false ∧ (followed config calls).isStopped = false) := by
  have knows := knows_followed config calls
  have same := congrArg (fun c => c.stopAfterIdentical.toNat) (config_followed config calls)
  refine ⟨?_, ?_, knows.calm⟩
  · exact same ▸ knows.isStopped
  · exact same ▸ knows.mode

/-- Four samples where the tracker began count like any other four. -/
example :
    (followed steady [.sample 0 0, .sample 1 0, .sample 2 0, .touch false,
      .sample 3 0]).isStopped = true ∧
    (followed steady [.sample 0 0, .sample 1 0, .sample 2 0, .touch false]).mode = .predicting := by
      decide +kernel

end LayeredPage.Proofs
