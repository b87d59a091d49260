import UhdHost.TimeSync
import Mathlib.Algebra.Order.Field.Rat
import Mathlib.Tactic.NormNum.Ineq

/-!
# The wait for the PPS edge is bounded

The first step of `set_time_unknown_pps` is a `while (true)` loop: it polls board 0's
last-PPS time until it moves, and gives up once board 0's time is more than 1.1 s past the
time it read first.  The loop has no bound of its own; it ends because the board's clock
advances.  Over a device whose board-0 clock advances by at least `tick` seconds with each
access (`ClockAdvances`), the wait ends within `1.1 / tick` polls: the model's fuel, given
that many polls, never runs out.  A wait that would run out makes a poll that is neither the
edge nor the timeout, at a later time (`catchPpsEdge_exhausted_poll`); by induction over the
fuel the last poll is past the timeout.

The dry run of the call follows: when board 0's last-PPS time never moves and its clock
advances (`PpsStuck`, `ClockTicks`), the wait can end only at the timeout, so the call
raises the no-PPS error before it writes anything (`catchPhase_dryRun`).
-/

namespace UhdHost

section Unexhausted

variable {α β : Type} {dev : Device}

/-- `prog` never stops for want of the model's fuel: what it raises, the code raises. -/
def Unexhausted (prog : UsrpM α) : Prop :=
  ∀ trace trace', prog trace ≠ .error .fuelExhausted trace'

theorem Unexhausted.bind {prog : UsrpM α} {f : α → UsrpM β} (first : Unexhausted prog)
    (rest : ∀ a, Unexhausted (f a)) : Unexhausted (prog >>= f) := by
  intro trace trace' ran
  cases ranFirst : prog trace with
  | ok a mid => exact rest a _ _ (by rwa [run_bind_of_ok ranFirst] at ran)
  | error e mid =>
      rw [run_bind_of_error ranFirst] at ran
      cases ran
      exact first _ _ ranFirst

theorem pure_unexhausted (a : α) : Unexhausted (pure a : UsrpM α) := fun _ _ ran => by cases ran

theorem throw_unexhausted {e : UhdError} (raised : e ≠ .fuelExhausted) :
    Unexhausted (throw e : UsrpM α) := fun _ _ ran => by cases ran; exact raised rfl

theorem getAs_unexhausted [WaxType α] (path : PropPath) : Unexhausted (getAs dev α path) := by
  refine Unexhausted.bind (fun trace _ ran => ?_) fun obj => ?_
  · unfold getProp at ran
    split at ran <;> cases ran
  · split
    exacts [pure_unexhausted _, throw_unexhausted (by decide)]

theorem mboardGet_unexhausted [WaxType α] (prop : MboardProp) (m : Nat) :
    Unexhausted (mboardGet dev α prop m) := by
  refine ((getAs_unexhausted _).bind fun names => ?_).bind fun _ => getAs_unexhausted _
  refine Unexhausted.bind ?_ fun _ => pure_unexhausted _
  unfold vectorAt
  split
  exacts [pure_unexhausted _, throw_unexhausted (by decide)]

end Unexhausted

section Wait

variable {dev : Device} {names : List String} {start base tick : TimeSpec} {trace : List Event}

/-- From `trace` on, board 0's time as `get_time_now(0)` reads it is at least `start` plus
`tick` seconds for each event the facade has added since. -/
def ClockAdvances (dev : Device) (tick start : TimeSpec) (trace : List Event) : Prop :=
  ∀ ext, AllGets ext → ∀ now trace', getTimeNow dev 0 (trace ++ ext) = .ok now trace' →
    start + tick * ((ext.length : ℕ) : ℚ) ≤ now

/-- A poll of a wait that runs out of fuel saw neither the edge nor the timeout, at a time
the clock bounds from below. -/
theorem catchPpsEdge_exhausted_poll (steady : Always Event.IsGet (ListsBoards dev names) trace)
    (clock : ClockAdvances dev tick start trace) {fuel : Nat} {ext : List Event}
    (reads : AllGets ext) {trace' : List Event}
    (ran : catchPpsEdge dev start base (fuel + 1) (trace ++ ext) = .error .fuelExhausted trace') :
    ∃ now, start + tick * ((ext.length + 2 : ℕ) : ℚ) ≤ now ∧ now - start ≤ 11 / 10 ∧
      catchPpsEdge dev start base fuel
          (trace ++ (ext ++ (boardRead names 0 .timePps base ++ boardRead names 0 .timeNow now))) =
        .error .fuelExhausted trace' := by
  rcases catchPpsEdge_poll (steady.extend reads) fuel with ⟨e, mid, failed, ran'⟩ |
    ⟨_, _, ran'⟩ | ⟨_, _, ran'⟩ | ⟨now, inTime, ranNow, ran'⟩ <;> rw [ran'] at ran
  · cases ran
    rcases failed with failed | failed <;> exact absurd failed (mboardGet_unexhausted _ _ _ _)
  · cases ran
  · cases ran
  · have bound := clock _ (reads.append (boardRead_allGets _ _ _ _)) now _ (by simpa using ranNow)
    exact ⟨now, by simpa [boardRead] using bound, inTime, by simpa using ran⟩

/-- The wait with `fuel + 1` polls left does not run out, when the clock at its last poll is
past the timeout. -/
theorem catchPpsEdge_unexhausted_from (steady : Always Event.IsGet (ListsBoards dev names) trace)
    (clock : ClockAdvances dev tick start trace) (ticks : 0 ≤ tick) :
    ∀ (fuel : Nat) (ext : List Event), AllGets ext →
      11 / 10 < tick * ((ext.length + fuel + 1 : ℕ) : ℚ) →
      ∀ trace', catchPpsEdge dev start base (fuel + 1) (trace ++ ext) ≠
        .error .fuelExhausted trace'
  | fuel, ext, reads, late, trace', ran => by
      obtain ⟨now, bound, inTime, rest⟩ := catchPpsEdge_exhausted_poll steady clock reads ran
      cases fuel with
      | zero =>
          have timedOut : 11 / 10 < now - start := calc
            11 / 10 < tick * ((ext.length + 0 + 1 : ℕ) : ℚ) := late
            _ ≤ tick * ((ext.length + 2 : ℕ) : ℚ) :=
                mul_le_mul_of_nonneg_left (Nat.cast_le.mpr (by omega)) ticks
            _ ≤ now - start := le_sub_iff_add_le'.mpr bound
          exact absurd inTime (not_le.mpr timedOut)
      | succ fuel =>
          refine catchPpsEdge_unexhausted_from steady clock ticks fuel _
            (reads.append ((boardRead_allGets _ _ _ _).append (boardRead_allGets _ _ _ _)))
            (lt_of_lt_of_le late (mul_le_mul_of_nonneg_left (Nat.cast_le.mpr ?_) ticks)) trace' rest
          simp only [List.length_append, boardRead, List.length_cons, List.length_nil]
          omega

/-- More than 1.1 s worth of ticks in fuel: the tick is positive and there is a poll. -/
theorem ticks_of_enough {fuel : Nat} (enough : 11 / 10 < tick * (fuel : ℚ)) :
    0 < tick ∧ ∃ polls, fuel = polls + 1 := by
  have timeout : (0 : ℚ) < 11 / 10 := by norm_num
  refine ⟨pos_of_mul_pos_left (timeout.trans enough) (Nat.cast_nonneg _), ?_⟩
  cases fuel with
  | zero =>
      rw [Nat.cast_zero, mul_zero] at enough
      exact absurd enough (not_lt.mpr timeout.le)
  | succ polls => exact ⟨polls, rfl⟩

/-- The busy wait of `set_time_unknown_pps` is bounded: over a device that keeps listing its
boards and whose board-0 clock advances by at least `tick` seconds for each access from the
time `start` on, a wait with more than 1.1 s worth of ticks in fuel never runs out of it. It
returns at an edge, or raises the no-PPS error, or an error of a read. -/
theorem catchPpsEdge_terminates (steady : Always Event.IsGet (ListsBoards dev names) trace)
    (clock : ClockAdvances dev tick start trace) {fuel : Nat}
    (enough : 11 / 10 < tick * (fuel : ℚ)) :
    ∀ trace', catchPpsEdge dev start base fuel trace ≠ .error .fuelExhausted trace' := by
  obtain ⟨ticks, polls, rfl⟩ := ticks_of_enough enough
  simpa using catchPpsEdge_unexhausted_from steady clock ticks.le polls [] (fun _ => by simp)
    (by simpa using enough)

end Wait

section DryRun

variable {dev : Device} {names : List String} {base tick : TimeSpec} {fuel : Nat}
  {trace : List Event}

/-- From `trace` on, board 0's time reads are answered, and a read is followed by reads at
least `tick` seconds per event later: a clock that advances. -/
def ClockTicks (dev : Device) (tick : TimeSpec) (trace : List Event) : Prop :=
  ∀ ext, AllGets ext → ∃ now trace', getTimeNow dev 0 (trace ++ ext) = .ok now trace' ∧
    ClockAdvances dev tick now trace'

/-- From `trace` on, every read of board 0's last-PPS time finds `base`: a board that sees
no PPS edge. -/
def PpsStuck (dev : Device) (base : TimeSpec) (trace : List Event) : Prop :=
  ∀ ext, AllGets ext → ∃ trace', getTimeLastPps dev 0 (trace ++ ext) = .ok base trace'

/-- While every last-PPS read finds the baseline and the time reads are answered, the wait
ends only with the no-PPS error or out of fuel. -/
theorem catchPpsEdge_of_stuck (steady : Always Event.IsGet (ListsBoards dev names) trace)
    (clock : ClockTicks dev tick trace) (stuck : PpsStuck dev base trace) (start : TimeSpec) :
    ∀ (fuel : Nat) (ext : List Event), AllGets ext → ∃ e trace',
      catchPpsEdge dev start base fuel (trace ++ ext) = .error e trace' ∧
        (e = .runtimeError noPpsMessage ∨ e = .fuelExhausted)
  | 0, _, _ => ⟨_, _, rfl, .inr rfl⟩
  | fuel + 1, ext, reads => by
      obtain ⟨_, ranPps⟩ := stuck ext reads
      obtain rfl := boardRead_of_ok (steady.extend reads).now ranPps
      obtain ⟨now, _, ranNow, -⟩ := clock _ (reads.append (boardRead_allGets names 0 .timePps base))
      rw [← List.append_assoc] at ranNow
      obtain rfl := boardRead_of_ok ((steady.extend reads).extend (boardRead_allGets _ _ _ _)).now
        ranNow
      simp only [catchPpsEdge]
      rw [run_bind_of_ok ranPps, if_neg (not_not.mpr rfl), run_bind_of_ok ranNow]
      split
      · exact ⟨_, _, rfl, .inl rfl⟩
      · simpa using catchPpsEdge_of_stuck steady clock stuck start fuel _
          (reads.append ((boardRead_allGets _ _ _ _).append (boardRead_allGets _ _ _ _)))

/-- On such a device, the first step of `set_time_unknown_pps` raises the no-PPS error: its
polls never see an edge, and its fuel outlasts the timeout. -/
theorem catchPhase_dryRun (steady : Always Event.SparesBoardList (ListsBoards dev names) trace)
    (clock : ClockTicks dev tick (trace ++ [.status catchPpsStatus]))
    (stuck : PpsStuck dev base (trace ++ [.status catchPpsStatus]))
    (enough : 11 / 10 < tick * (fuel : ℚ)) :
    ∃ trace', catchPhase dev fuel trace = .error (.runtimeError noPpsMessage) trace' := by
  have steady1 : Always Event.IsGet (ListsBoards dev names) (trace ++ [.status catchPpsStatus]) :=
    (steady.extend (by simp [Event.SparesBoardList])).mono
      fun _ get => Event.sparesBoardList_of_isGet get
  obtain ⟨start, _, ranStart, advances⟩ := clock [] (by simp [AllGets])
  rw [List.append_nil] at ranStart
  obtain rfl := boardRead_of_ok steady1.now ranStart
  obtain ⟨_, ranBase⟩ := stuck _ (boardRead_allGets names 0 .timeNow start)
  obtain rfl := boardRead_of_ok (steady1.extend (boardRead_allGets _ _ _ _)).now ranBase
  unfold catchPhase
  rw [run_bind_of_ok (rfl : record (.status catchPpsStatus) trace = _), run_bind_of_ok ranStart,
    run_bind_of_ok ranBase]
  obtain ⟨e, trace', ran, noPps | exhausted⟩ := catchPpsEdge_of_stuck steady1 clock
    stuck start fuel _ ((boardRead_allGets names 0 .timeNow start).append
      (boardRead_allGets names 0 .timePps base))
  · subst noPps
    exact ⟨trace', by simpa using ran⟩
  · -- the fuel outlasts the timeout
    subst exhausted
    obtain ⟨ticks, polls, rfl⟩ := ticks_of_enough enough
    refine absurd (by simpa using ran) (catchPpsEdge_unexhausted_from
      (steady1.extend (boardRead_allGets _ _ _ _)) advances ticks.le polls _
      (boardRead_allGets names 0 .timePps base) (lt_of_lt_of_le enough ?_) trace')
    exact mul_le_mul_of_nonneg_left (Nat.cast_le.mpr (Nat.le_add_left _ _)) ticks.le

/-- The dry run of `set_time_unknown_pps`: over a device that keeps listing its boards, whose
board-0 clock advances by at least `tick` seconds per access and whose board-0 last-PPS time
never moves from the first status line on, a call with more than 1.1 s worth of ticks in
fuel raises the no-PPS error, having written nothing and not slept. -/
theorem setTimeUnknownPps_dryRun
    (steady : Always Event.SparesBoardList (ListsBoards dev names) trace)
    (clock : ClockTicks dev tick (trace ++ [.status catchPpsStatus]))
    (stuck : PpsStuck dev base (trace ++ [.status catchPpsStatus]))
    (enough : 11 / 10 < tick * (fuel : ℚ)) (time : TimeSpec) :
    ∃ ext, setTimeUnknownPps dev fuel time trace =
        .error (.runtimeError noPpsMessage) (trace ++ ext) ∧ writes ext = [] ∧ .sleep 1 ∉ ext := by
  obtain ⟨trace', ranCatch⟩ := catchPhase_dryRun steady clock stuck enough
  obtain ⟨ext, kept, final⟩ := (catchPhase_adds : Adds _ (catchPhase dev fuel)) trace
  rw [ranCatch, finalTrace] at final
  refine ⟨ext, ?_, catchEvents_quiet kept⟩
  rw [setTimeUnknownPps_eq_phases, run_bind_of_error ranCatch, final]

end DryRun

section NoPpsBoard

variable (trace : List Event)

theorem noPpsBoard_timeNow :
    getTimeNow noPpsBoard 0 trace = .ok ((trace.length + 1 : ℕ) : ℚ)
      (trace ++ boardRead ["A"] 0 .timeNow ((trace.length + 1 : ℕ) : ℚ)) := by
  unfold getTimeNow mboardGet
  rw [run_bind_of_ok (mboardNode_run (rfl : ListsBoards noPpsBoard ["A"] trace) (m := 0)
    (by decide)), getAs_run rfl rfl]
  simp [boardRead, mboardPropPath]

theorem noPpsBoard_clockTicks : ClockTicks noPpsBoard 1 trace := by
  intro ext _
  refine ⟨_, _, noPpsBoard_timeNow _, fun ext' _ now trace' ran => ?_⟩
  rw [noPpsBoard_timeNow] at ran
  cases ran
  rw [one_mul, ← Nat.cast_add]
  refine Nat.cast_le.mpr ?_
  simp only [List.length_append, boardRead, List.length_cons, List.length_nil]
  omega

theorem noPpsBoard_ppsStuck : PpsStuck noPpsBoard 0 trace := fun ext _ => by
  unfold getTimeLastPps mboardGet
  rw [run_bind_of_ok (mboardNode_run (rfl : ListsBoards noPpsBoard ["A"] (trace ++ ext)) (m := 0)
    (by decide)), getAs_run rfl rfl]
  exact ⟨_, rfl⟩

end NoPpsBoard

theorem noPpsBoard_clockAdvances : ClockAdvances noPpsBoard 1 0 [] := by
  intro ext _ now trace' ran
  rw [noPpsBoard_timeNow] at ran
  cases ran
  simp

theorem catchPpsEdge_terminates_noPpsBoard :
    Always Event.IsGet (ListsBoards noPpsBoard ["A"]) [] ∧ ClockAdvances noPpsBoard 1 0 [] ∧
      11 / 10 < (1 : ℚ) * (2 : ℕ) ∧
      ∀ trace', catchPpsEdge noPpsBoard 0 0 2 [] ≠ .error .fuelExhausted trace' :=
  have steady : Always Event.IsGet (ListsBoards noPpsBoard ["A"]) [] := fun _ _ => rfl
  have enough : 11 / 10 < (1 : ℚ) * (2 : ℕ) := by norm_num
  ⟨steady, noPpsBoard_clockAdvances, enough,
    catchPpsEdge_terminates steady noPpsBoard_clockAdvances enough⟩

theorem setTimeUnknownPps_dryRun_noPpsBoard :
    Always Event.SparesBoardList (ListsBoards noPpsBoard ["A"]) [] ∧
      ClockTicks noPpsBoard 1 [.status catchPpsStatus] ∧
      PpsStuck noPpsBoard 0 [.status catchPpsStatus] ∧ 11 / 10 < (1 : ℚ) * (2 : ℕ) ∧
      ∃ ext, setTimeUnknownPps noPpsBoard 2 5 [] =
          .error (.runtimeError noPpsMessage) ([] ++ ext) ∧ writes ext = [] ∧ .sleep 1 ∉ ext :=
  have steady : Always Event.SparesBoardList (ListsBoards noPpsBoard ["A"]) [] := fun _ _ => rfl
  have enough : 11 / 10 < (1 : ℚ) * (2 : ℕ) := by norm_num
  ⟨steady, noPpsBoard_clockTicks _, noPpsBoard_ppsStuck _, enough,
    setTimeUnknownPps_dryRun steady (noPpsBoard_clockTicks _) (noPpsBoard_ppsStuck _) enough 5⟩

end UhdHost
