import MqAdmin.Proofs.Number.Nearest
import MqAdmin.Sync.Budget

/-!
Which numbers of seconds are times to wait. Those that are not finite or below zero are refused.
The others are counted to the nearest nanosecond, but no length of time reaches two to the 64th
seconds, and the check of the numbers does not look for them.
-/

namespace MqAdmin

namespace Binary64

/-- Whether seconds are refused: they are not finite or below zero. -/
def Faulty (seconds : Binary64) : Prop := seconds.isFinite = false ∨ seconds.value < 0

/-- Whether seconds are finite but more than any length of time. -/
def Overlong (seconds : Binary64) : Prop := seconds.isFinite = true ∧ 2 ^ 64 ≤ seconds.value

structure Countable (seconds : Binary64) : Prop where
  finite : seconds.isFinite = true
  nonneg : 0 ≤ seconds.value
  less : seconds.value < 2 ^ 64

variable {seconds : Binary64}

theorem countable_iff : seconds.Countable ↔ ¬ seconds.Faulty ∧ ¬ seconds.Overlong := by
  constructor
  · rintro ⟨finite, nonneg, less⟩
    simp [Faulty, Overlong, finite, nonneg, less]
  · rintro ⟨sound, short⟩
    simp only [Faulty, Overlong, not_or, not_and, Bool.not_eq_false, not_lt, not_le] at sound short
    exact ⟨sound.1, sound.2, short sound.1⟩

theorem Countable.not_faulty (countable : seconds.Countable) : ¬ seconds.Faulty :=
  (countable_iff.mp countable).1

theorem Countable.not_overlong (countable : seconds.Countable) : ¬ seconds.Overlong :=
  (countable_iff.mp countable).2

theorem Overlong.not_faulty (overlong : seconds.Overlong) : ¬ seconds.Faulty := by
  rintro (infinite | below)
  · rw [overlong.1] at infinite
    cases infinite
  · have long := overlong.2
    linarith

theorem faulty_iff : seconds.Faulty ↔ (!seconds.isFinite || seconds.isBelowZero) = true := by
  rw [Bool.or_eq_true, Bool.not_eq_true', Faulty]
  cases finite : seconds.isFinite with
  | false => simp
  | true => rw [isBelowZero_iff finite]

/-- The greatest number below two to the 64th. -/
def last : Binary64 := ⟨false, 1087 * twoTo 52 - 1, by decide⟩

theorem units_le_last (less : seconds.units < twoTo 64 * unitsPerOne) :
    seconds.units ≤ last.units := by
  obtain ⟨k, sum⟩ : ∃ k, 64 + 1074 = 52 + k := ⟨1086, rfl⟩
  have fits : (k + 1) * twoTo 52 < twoTo 63 := by
    obtain rfl : k = 1086 := by omega
    decide
  let next : Binary64 := ⟨false, (k + 1) * twoTo 52, fits⟩
  have units : next.units = twoTo 64 * unitsPerOne := by
    rw [units_twoTo rfl, unitsPerOne_eq, ← twoTo_add, sum]
  have code : seconds.code < next.code := by
    by_contra reached
    have most := units_mono (Nat.not_lt.mp reached)
    rw [units] at most
    exact absurd less (Nat.not_lt.mpr most)
  obtain rfl : k = 1086 := by omega
  exact units_mono (Nat.le_sub_one_of_lt code)

end Binary64

namespace Duration

variable {seconds : Binary64}

/-- Rounding to nanoseconds does not bridge the last place by which the greatest number below two to
the 64th is short of it. -/
theorem rounded_le_longest_iff :
    roundHalfEven (seconds.units * nanosecondsPerSecond) Binary64.unitsPerOne ≤
        longest.nanoseconds ↔
      seconds.units < twoTo 64 * Binary64.unitsPerOne := by
  constructor
  · intro counted
    by_contra long
    have reached : twoTo 64 * nanosecondsPerSecond * Binary64.unitsPerOne ≤
        seconds.units * nanosecondsPerSecond := by
      rw [Nat.mul_right_comm]
      exact Nat.mul_le_mul_right _ (Nat.not_lt.mp long)
    have beyond := le_roundHalfEven Binary64.unitsPerOne_pos reached
    have short : longest.nanoseconds < twoTo 64 * nanosecondsPerSecond := by decide
    omega
  · intro less
    have greatest : roundHalfEven (Binary64.last.units * nanosecondsPerSecond)
        Binary64.unitsPerOne ≤ longest.nanoseconds := by decide +kernel
    exact Nat.le_trans
      (roundHalfEven_mono (Nat.mul_le_mul_right _ (Binary64.units_le_last less)) _) greatest

theorem ofBinary64?_eq_none_iff (nonneg : 0 ≤ seconds.value) :
    ofBinary64? seconds = none ↔ 2 ^ 64 ≤ seconds.value := by
  have bound : ((twoTo 64 : ℕ) : ℚ) = 2 ^ 64 := by norm_num
  rw [ofBinary64?, ite_eq_right_iff, rounded_le_longest_iff, ← Binary64.value_lt_iff nonneg, bound,
    ← not_lt]
  exact imp_congr_right fun _ => by simp

theorem nearest_of_ofBinary64? {time : Duration} (nonneg : 0 ≤ seconds.value)
    (counted : ofBinary64? seconds = some time) :
    Nearest time.nanoseconds (seconds.value * nanosecondsPerSecond) := by
  have nearest := nearest_roundHalfEven (seconds.units * nanosecondsPerSecond)
    Binary64.unitsPerOne_pos
  rw [Nat.cast_mul, mul_div_right_comm, ← Binary64.value_of_nonneg nonneg] at nearest
  rw [ofBinary64?, Option.ite_none_right_eq_some] at counted
  generalize roundHalfEven (seconds.units * nanosecondsPerSecond) Binary64.unitsPerOne = rounded
    at nearest counted
  cases counted.2
  exact nearest

end Duration

namespace Sync.Budget

open Duration (nanosecondsPerSecond)

variable {timeout interval seconds : Binary64} {setting : String}

inductive Timed (setting : String) (seconds : Binary64) : Except Refusal Duration → Prop where
  | faulty (faulty : seconds.Faulty) :
      Timed setting seconds (.error (.fault (.negativeTime setting seconds)))
  | overlong (overlong : seconds.Overlong) : Timed setting seconds (.error .tooLong)
  | counted {time : Duration} (countable : seconds.Countable)
      (nearest : Nearest time.nanoseconds (seconds.value * nanosecondsPerSecond)) :
      Timed setting seconds (.ok time)

theorem duration?_timed (setting : String) (seconds : Binary64) :
    Timed setting seconds (duration? setting seconds) := by
  unfold duration?
  split
  · rename_i refused
    exact .faulty (Binary64.faulty_iff.mpr refused)
  · rename_i passed
    have sound : ¬ seconds.Faulty := fun faulty => passed (Binary64.faulty_iff.mp faulty)
    obtain ⟨finite, nonneg⟩ : seconds.isFinite = true ∧ 0 ≤ seconds.value := by
      simpa [Binary64.Faulty] using sound
    split
    · rename_i time counted
      have less : ¬ 2 ^ 64 ≤ seconds.value := by
        rw [← Duration.ofBinary64?_eq_none_iff nonneg, counted]
        nofun
      exact .counted ⟨finite, nonneg, not_le.mp less⟩
        (Duration.nearest_of_ofBinary64? nonneg counted)
    · rename_i uncounted
      exact .overlong ⟨finite, (Duration.ofBinary64?_eq_none_iff nonneg).mp uncounted⟩

/-- The time that countable seconds stand for: the nearest number of nanoseconds, or the usual time
in place of none. -/
inductive Settles (usual : Duration) (seconds : Binary64) : Duration → Prop where
  | nearest {time : Duration} (positive : 0 < time.nanoseconds)
      (nearest : Nearest time.nanoseconds (seconds.value * nanosecondsPerSecond)) :
      Settles usual seconds time
  | usual (none : Nearest 0 (seconds.value * nanosecondsPerSecond)) : Settles usual seconds usual

theorem Settles.unique {usual time other : Duration} (first : Settles usual seconds time)
    (second : Settles usual seconds other) : time = other := by
  cases first with
  | nearest positive nearest =>
    cases second with
    | nearest _ too => exact congrArg Duration.mk (nearest.unique too)
    | usual none => exact absurd (nearest.unique none) positive.ne'
  | usual none =>
    cases second with
    | nearest positive nearest => exact absurd (nearest.unique none) positive.ne'
    | usual _ => rfl

theorem Settles.positive {usual time : Duration} (settles : Settles usual seconds time)
    (some : 0 < usual.nanoseconds) : 0 < time.nanoseconds := by
  cases settles with
  | nearest positive _ => exact positive
  | usual _ => exact some

/-- What is wrong with two numbers of seconds; the timeout is looked at first. -/
inductive Faults (timeout interval : Binary64) : ConfigFault → Prop where
  | timeout (faulty : timeout.Faulty) : Faults timeout interval (.negativeTime "timeout" timeout)
  | interval (countable : timeout.Countable) (faulty : interval.Faulty) :
      Faults timeout interval (.negativeTime "poll interval" interval)

/-- Whether a number of seconds that is too long to be counted is met. -/
def Overflows (timeout interval : Binary64) : Prop :=
  timeout.Overlong ∨ timeout.Countable ∧ interval.Overlong

section Apart

variable {fault other : ConfigFault}

theorem Faults.unique (faults : Faults timeout interval fault)
    (others : Faults timeout interval other) : fault = other := by
  cases faults with
  | timeout faulty =>
    cases others with
    | timeout _ => rfl
    | interval countable _ => exact absurd faulty countable.not_faulty
  | interval countable _ =>
    cases others with
    | timeout faulty => exact absurd faulty countable.not_faulty
    | interval _ _ => rfl

theorem Faults.not_overflows (faults : Faults timeout interval fault) :
    ¬ Overflows timeout interval := by
  rintro (overlong | ⟨countable, overlong⟩)
  · cases faults with
    | timeout faulty => exact overlong.not_faulty faulty
    | interval countable _ => exact countable.not_overlong overlong
  · cases faults with
    | timeout faulty => exact countable.not_faulty faulty
    | interval _ faulty => exact overlong.not_faulty faulty

theorem Faults.not_countable (faults : Faults timeout interval fault) :
    ¬ (timeout.Countable ∧ interval.Countable) := by
  rintro ⟨countable, countableToo⟩
  cases faults with
  | timeout faulty => exact countable.not_faulty faulty
  | interval _ faulty => exact countableToo.not_faulty faulty

theorem Overflows.not_countable (overflows : Overflows timeout interval) :
    ¬ (timeout.Countable ∧ interval.Countable) := by
  rintro ⟨countable, countableToo⟩
  rcases overflows with overlong | ⟨_, overlong⟩
  · exact countable.not_overlong overlong
  · exact countableToo.not_overlong overlong

end Apart

/-- What two numbers of seconds come to, told by their values: a fault, a time too long, or the
budget of the times that they stand for. -/
inductive Checked (timeout interval : Binary64) : Except Refusal Budget → Prop where
  | fault {fault : ConfigFault} (faults : Faults timeout interval fault) :
      Checked timeout interval (.error (.fault fault))
  | tooLong (overflows : Overflows timeout interval) : Checked timeout interval (.error .tooLong)
  | accepted {budget : Budget} (countable : timeout.Countable ∧ interval.Countable)
      (settles : Settles defaultTimeout timeout budget.timeout)
      (settlesToo : Settles defaultInterval interval budget.interval) :
      Checked timeout interval (.ok budget)

theorem settles_normalized {usual time : Duration}
    (nearest : Nearest time.nanoseconds (seconds.value * nanosecondsPerSecond)) :
    Settles usual seconds (if time.isZero then usual else time) := by
  split
  · rename_i zero
    rw [Duration.isZero, beq_iff_eq] at zero
    exact .usual (zero ▸ nearest)
  · rename_i nonzero
    rw [Duration.isZero, beq_iff_eq] at nonzero
    exact .nearest (Nat.pos_of_ne_zero nonzero) nearest

theorem ofSeconds_checked (timeout interval : Binary64) :
    Checked timeout interval (ofSeconds timeout interval) := by
  have first := duration?_timed "timeout" timeout
  have second := duration?_timed "poll interval" interval
  unfold ofSeconds
  generalize duration? "timeout" timeout = counted at first ⊢
  generalize duration? "poll interval" interval = countedToo at second ⊢
  cases first with
  | faulty faulty => exact .fault (.timeout faulty)
  | overlong overlong => exact .tooLong (.inl overlong)
  | counted countable nearest =>
    cases second with
    | faulty faulty => exact .fault (.interval countable faulty)
    | overlong overlong => exact .tooLong (.inr ⟨countable, overlong⟩)
    | counted countableToo nearestToo =>
      exact .accepted ⟨countable, countableToo⟩ (settles_normalized nearest)
        (settles_normalized nearestToo)

theorem Checked.unique {result other : Except Refusal Budget}
    (first : Checked timeout interval result) (second : Checked timeout interval other) :
    result = other := by
  cases first with
  | fault faults =>
    cases second with
    | fault others => rw [faults.unique others]
    | tooLong overflows => exact absurd overflows faults.not_overflows
    | accepted countable => exact absurd countable faults.not_countable
  | tooLong overflows =>
    cases second with
    | fault others => exact absurd overflows others.not_overflows
    | tooLong _ => rfl
    | accepted countable => exact absurd countable overflows.not_countable
  | @accepted budget countable settles settlesToo =>
    cases second with
    | fault others => exact absurd countable others.not_countable
    | tooLong overflows => exact absurd countable overflows.not_countable
    | @accepted other _ others othersToo =>
      obtain ⟨timeout', interval'⟩ := budget
      obtain rfl := settles.unique others
      obtain rfl := settlesToo.unique othersToo
      rfl

theorem ofSeconds_eq_iff {result : Except Refusal Budget} :
    ofSeconds timeout interval = result ↔ Checked timeout interval result := by
  have checked := ofSeconds_checked timeout interval
  constructor
  · rintro rfl
    exact checked
  · exact checked.unique

theorem ofSeconds_eq_fault_iff {fault : ConfigFault} :
    ofSeconds timeout interval = .error (.fault fault) ↔ Faults timeout interval fault := by
  rw [ofSeconds_eq_iff]
  constructor
  · rintro ⟨faults⟩
    exact faults
  · exact .fault

theorem ofSeconds_eq_tooLong_iff :
    ofSeconds timeout interval = .error .tooLong ↔ Overflows timeout interval := by
  rw [ofSeconds_eq_iff]
  constructor
  · rintro ⟨⟩
    assumption
  · exact .tooLong

/-- Ten to the 20th seconds pass the check for numbers below zero and then are too long, before the
interval is looked at. -/
example : ofSeconds (.ofNat (tenTo 20)) (Binary64.ofNat 1).neg = .error .tooLong := by
  decide +kernel

theorem Checked.positive {budget : Budget} (checked : Checked timeout interval (.ok budget)) :
    0 < budget.timeout.nanoseconds ∧ 0 < budget.interval.nanoseconds := by
  cases checked with
  | accepted _ settles settlesToo =>
    exact ⟨settles.positive (by decide), settlesToo.positive (by decide)⟩

/-- If the timeout is not too long, two numbers of seconds have a fault exactly if one of them is
refused. -/
theorem exists_faults_iff (short : ¬ timeout.Overlong) :
    (∃ fault, Faults timeout interval fault) ↔ timeout.Faulty ∨ interval.Faulty := by
  constructor
  · rintro ⟨_, faulty | ⟨_, faulty⟩⟩
    · exact .inl faulty
    · exact .inr faulty
  · intro faulty
    by_cases first : timeout.Faulty
    · exact ⟨_, .timeout first⟩
    · have countable := Binary64.countable_iff.mpr ⟨first, short⟩
      exact ⟨_, .interval countable (faulty.resolve_left first)⟩

end Sync.Budget

end MqAdmin
