import Mathlib.Algebra.Order.Floor.Div
import Mathlib.Logic.Function.Iterate

/-! # Loops that stop at the first state with a property

A loop takes one state to the next until it reaches a state at which it stops. With
a quantity that rises by a fixed amount in each iteration and stops the loop at some
level, it stops after a bounded number of iterations.
-/

universe u v

namespace FirstStop

variable {State : Type u} {Result : Type v} {stops : State → Prop} {next : State → State}

/-- The loop stops after `count` iterations, and not before. -/
def At (stops : State → Prop) (next : State → State) (start : State) (count : Nat) : Prop :=
  stops (next^[count] start) ∧ ∀ earlier < count, ¬ stops (next^[earlier] start)

/-- With fuel for the iterations the loop has its result in the state it stops at. -/
theorem At.loop_eq (loop : Nat → State → Option Result) (result : State → Result)
    (empty : ∀ state, loop 0 state = none)
    (stop : ∀ fuel state, stops state → loop (fuel + 1) state = some (result state))
    (go : ∀ fuel state, ¬ stops state → loop (fuel + 1) state = loop fuel (next state))
    {start : State} {count : Nat} (first : At stops next start count) (fuel : Nat) :
    loop fuel start = if count < fuel then some (result (next^[count] start)) else none := by
  induction count generalizing start fuel with
  | zero =>
      cases fuel with
      | zero => exact empty start
      | succ fuel => rw [stop fuel start first.1, if_pos (Nat.succ_pos fuel)]; rfl
  | succ count ih =>
      cases fuel with
      | zero => exact empty start
      | succ fuel =>
          have later : At stops next (next start) count :=
            ⟨first.1, fun earlier before => first.2 (earlier + 1) (Nat.succ_lt_succ before)⟩
          rw [go fuel start (first.2 0 (Nat.succ_pos count)), ih later fuel,
            Function.iterate_succ_apply]
          simp only [Nat.succ_lt_succ_iff]

/-- A loop that stops at all stops at a first state. -/
theorem exists_at {start : State} (some : ∃ count, stops (next^[count] start)) :
    ∃ count, At stops next start count := by
  classical
  exact ⟨Nat.find some, Nat.find_spec some, fun _ before => Nat.find_min some before⟩

variable {level : State → Nat} {limit amount : Nat}

/-- As long as the loop goes on, the quantity has risen in each iteration. -/
theorem level_iterate (rises : ∀ state, ¬ stops state → level state + amount ≤ level (next state))
    (start : State) {count : Nat} (going : ∀ earlier < count, ¬ stops (next^[earlier] start)) :
    level start + count * amount ≤ level (next^[count] start) := by
  induction count with
  | zero => rw [Nat.zero_mul, Nat.add_zero, Function.iterate_zero_apply]
  | succ count ih =>
      have before := ih fun earlier small => going earlier (Nat.lt_succ_of_lt small)
      have last := rises _ (going count (Nat.lt_succ_self count))
      rw [Function.iterate_succ_apply', Nat.succ_mul]
      omega

/-- A quantity that rises in each iteration stops the loop in time. -/
theorem exists_at_le (positive : 0 < amount)
    (rises : ∀ state, ¬ stops state → level state + amount ≤ level (next state))
    (enough : ∀ state, limit ≤ level state → stops state) (start : State) :
    ∃ count, At stops next start count ∧ count ≤ (limit - level start) ⌈/⌉ amount := by
  have stopping : ∃ count, stops (next^[count] start) := by
    by_contra never
    rw [not_exists] at never
    have risen := level_iterate rises start fun earlier (_ : earlier < limit) => never earlier
    have large : limit ≤ limit * amount := Nat.le_mul_of_pos_right limit positive
    exact never limit (enough _ (by omega))
  obtain ⟨count, first⟩ := exists_at stopping
  refine ⟨count, first, ?_⟩
  cases count with
  | zero => exact Nat.zero_le _
  | succ earlier =>
      have risen := level_iterate rises start fun before small =>
        first.2 before (Nat.lt_succ_of_lt small)
      have below : level (next^[earlier] start) < limit :=
        Nat.lt_of_not_le fun reached =>
          first.2 earlier (Nat.lt_succ_self earlier) (enough _ reached)
      apply Nat.lt_of_not_le
      intro few
      rw [ceilDiv_le_iff_le_mul positive, Nat.mul_comm] at few
      omega

end FirstStop
