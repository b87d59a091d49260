import UhdHost.TimeSync

/-!
# Two checks of the board times

`get_time_synchronized` answers `false` at the first board whose time is earlier than
board 0's or more than 10 ms later.  The verification loop of `set_time_unknown_pps` makes
the same comparison for every board, and warns of each board outside the window.  On a
device that reports a fixed time for each board (`ShowsTimes`), both are computed here in
full.  The query answers whether every board is in the window (`InSync`), and the loop
warns of exactly the boards that are not, in order.  So the loop warns of none exactly
when the query answers `true` (`SyncVerdicts`).
-/

namespace UhdHost

/-- Board `m`'s time `now m` is in the window of board 0's: not earlier, and at most 10 ms
later. -/
def InSync (now : Nat → TimeSpec) (m : Nat) : Prop :=
  now 0 ≤ now m ∧ now m - now 0 ≤ 1 / 100

instance (now : Nat → TimeSpec) : DecidablePred (InSync now) :=
  fun _ => inferInstanceAs (Decidable (_ ∧ _))

/-- The source's test for a board out of the window is the negation of `InSync`. -/
theorem outOfWindow_iff_not_inSync {now : Nat → TimeSpec} {m : Nat} :
    (now m < now 0 ∨ now m - now 0 > 1 / 100) ↔ ¬ InSync now m := by
  rw [InSync, not_and_or, not_le, not_le]

/-- The warning an event carries, if it is one. -/
def Event.warning? : Event → Option Warning
  | .warning w => some w
  | _ => none

/-- The warnings among `events`, in order. -/
def warnings (events : List Event) : List Warning := events.filterMap Event.warning?

theorem Event.warning?_of_isGet {e : Event} (get : e.IsGet) : e.warning? = none := by
  obtain ⟨_, _, rfl⟩ := Event.eq_get_of_isGet get
  rfl

/-- After `trace`, the device lists the boards `names`, and board `m` reads time `now m`. -/
structure ShowsTimes (dev : Device) (names : List String) (now : Nat → TimeSpec)
    (trace : List Event) : Prop where
  lists : ListsBoards dev names trace
  times : ∀ m < names.length,
    dev.get trace (mboardPropPath (names.getD m "") .timeNow) = .ok (.timeSpec (now m))

/-- A device that never changes shows what it shows after any events. -/
theorem always_ofTree_times {tree : List (PropPath × WaxObj)} {names : List String}
    {now : Nat → TimeSpec} {keeps : Event → Prop}
    (shows : ShowsTimes (Device.ofTree tree) names now []) (trace : List Event) :
    Always keeps (ShowsTimes (Device.ofTree tree) names now) trace :=
  fun _ _ => ⟨shows.lists, shows.times⟩

/-- The verdict of board `m` in the verification loop: a warning if it is out of the
window. -/
def deviation (now : Nat → TimeSpec) (m : Nat) : List Warning :=
  if InSync now m then [] else [.timeDeviation m (now 0) (now m)]

theorem flatMap_deviation_eq (now : Nat → TimeSpec) (l : List Nat) :
    l.flatMap (deviation now) =
      (l.filter fun m => !decide (InSync now m)).map fun m => .timeDeviation m (now 0) (now m) := by
  induction l with
  | nil => rfl
  | cons m l ih =>
      by_cases inWindow : InSync now m <;> simp [deviation, List.filter_cons, inWindow, ih]

section Reads

variable {dev : Device} {names : List String} {now : Nat → TimeSpec} {trace : List Event}

theorem Always.extendGets {P : List Event → Prop} {ext : List Event}
    (always : Always Event.ReadsOrWarns P trace) (gets : AllGets ext) :
    Always Event.ReadsOrWarns P (trace ++ ext) :=
  always.extend fun _ mem => Event.readsOrWarns_of_isGet (gets _ mem)

theorem timeNow_readsTo (steady : Always Event.ReadsOrWarns (ShowsTimes dev names now) trace)
    {m : Nat} (inside : m < names.length) :
    ReadsTo (mboardGet dev TimeSpec .timeNow m) trace (now m) := by
  refine (mboardNode_readsTo steady.now.lists inside).bind fun _ gets => ?_
  have path : [WaxKey.named (.device .mboard) names[m]] ++ [.plain (.mboard .timeNow)] =
      mboardPropPath (names.getD m "") .timeNow := by
    simp [mboardPropPath, inside]
  have answers := (steady.extendGets gets).now.times m inside
  rw [← path] at answers
  exact getAs_readsTo answers rfl

/-- The query loop from board `m` reads only, and answers whether boards `m` to the last
are all in the window. -/
theorem timeSynchronizedLoop_readsTo :
    ∀ fuel m trace, Always Event.ReadsOrWarns (ShowsTimes dev names now) trace →
      names.length - m < fuel →
      ReadsTo (timeSynchronizedLoop dev fuel m) trace
        ((List.range' m (names.length - m)).all fun k => decide (InSync now k))
  | 0, _, _, _, enough => absurd enough (Nat.not_lt_zero _)
  | fuel + 1, m, trace, steady, enough => by
      simp only [timeSynchronizedLoop]
      refine (getNumMboards_readsTo steady.now.lists).bind fun _ gets => ?_
      have steady' := steady.extendGets gets
      by_cases more : m < names.length
      · have indices : List.range' m (names.length - m) =
            m :: List.range' (m + 1) (names.length - (m + 1)) := by
          rw [show names.length - m = names.length - (m + 1) + 1 by omega]
          rfl
        simp only [if_pos more, indices, List.all_cons]
        refine (timeNow_readsTo steady' (by omega)).bind fun _ gets' =>
          (timeNow_readsTo (steady'.extendGets gets') more).bind fun _ gets'' => ?_
        by_cases inWindow : InSync now m
        · simp only [if_neg (outOfWindow_iff_not_inSync.not.mpr (not_not.mpr inWindow)),
            decide_eq_true inWindow, Bool.true_and]
          exact timeSynchronizedLoop_readsTo fuel (m + 1) _
            ((steady'.extendGets gets').extendGets gets'') (by omega)
        · simp only [if_pos (outOfWindow_iff_not_inSync.mpr inWindow), decide_eq_false inWindow,
            Bool.false_and]
          exact .pure _ _
      · simp only [if_neg more, Nat.sub_eq_zero_of_le (not_lt.mp more)]
        exact .pure _ _

/-- One pass of the verification loop reads both boards' times, and warns if board `m` is
out of the window. -/
theorem verifyBoardTime_run (steady : Always Event.ReadsOrWarns (ShowsTimes dev names now) trace)
    {m : Nat} (inside : m < names.length) :
    ∃ ext, (∀ e ∈ ext, e.ReadsOrWarns) ∧ ext.filterMap Event.warning? = deviation now m ∧
      verifyBoardTime dev m trace = .ok () (trace ++ ext) := by
  obtain ⟨ext0, gets0, ran0⟩ := timeNow_readsTo steady (by omega : 0 < names.length)
  obtain ⟨extM, getsM, ranM⟩ := timeNow_readsTo (steady.extendGets gets0) inside
  have reads : ∀ e ∈ ext0 ++ extM, e.ReadsOrWarns :=
    fun e mem => Event.readsOrWarns_of_isGet ((gets0.append getsM) e mem)
  have quiet : (ext0 ++ extM).filterMap Event.warning? = [] :=
    List.filterMap_eq_nil_iff.mpr fun _ mem => Event.warning?_of_isGet ((gets0.append getsM) _ mem)
  unfold verifyBoardTime
  rw [run_bind_of_ok ran0, run_bind_of_ok ranM, List.append_assoc]
  by_cases inWindow : InSync now m
  · rw [if_neg (outOfWindow_iff_not_inSync.not.mpr (not_not.mpr inWindow))]
    exact ⟨ext0 ++ extM, reads, by rw [quiet, deviation, if_pos inWindow], rfl⟩
  · rw [if_pos (outOfWindow_iff_not_inSync.mpr inWindow)]
    refine ⟨ext0 ++ extM ++ [.warning (.timeDeviation m (now 0) (now m))], fun e mem => ?_,
      by rw [List.filterMap_append, quiet, deviation, if_neg inWindow]; rfl, by simp [record]⟩
    rcases List.mem_append.mp mem with mem | mem
    · exact reads e mem
    · rw [List.mem_singleton.mp mem]
      trivial

/-- The verification loop reads and warns only, one warning for each board out of the
window, in order. -/
theorem verifyTimeRegisters_run
    (steady : Always Event.ReadsOrWarns (ShowsTimes dev names now) trace) {fuel : Nat}
    (enough : names.length < fuel) :
    ∃ ext, verifyTimeRegisters dev fuel trace = .ok () (trace ++ ext) ∧
      (∀ e ∈ ext, e.ReadsOrWarns) ∧
      warnings ext = (List.range' 1 (names.length - 1)).flatMap (deviation now) := by
  obtain ⟨ext, kept, warned, ranLoop⟩ := forLoop_total (P := Always Event.ReadsOrWarns
      (ShowsTimes dev names now)) (fun _ _ => ()) (deviation now)
    (fun _ get => ⟨Event.readsOrWarns_of_isGet get, Event.warning?_of_isGet get⟩)
    (fun _ _ holds kept => holds.extend kept) (fun _ holds => getNumMboards_readsTo holds.now.lists)
    (fun _ _ _ holds inside => verifyBoardTime_run holds inside) fuel 1 () trace steady (by omega)
  refine ⟨ext, ?_, kept, warned⟩
  unfold verifyTimeRegisters
  rw [run_bind_of_ok ranLoop]
  rfl

end Reads

/-- What the query and the verification loop make of the board times `now`, read from
`trace`. -/
structure SyncVerdicts (dev : Device) (fuel : Nat) (names : List String) (now : Nat → TimeSpec)
    (trace : List Event) : Prop where
  /-- The query reads only, and answers `true` exactly when every board from 1 on is in
  the window. -/
  query : ∃ synced, ReadsTo (getTimeSynchronized dev fuel) trace synced ∧
    (synced = true ↔ ∀ m, 1 ≤ m → m < names.length → InSync now m)
  /-- The verification loop reads and warns only, one warning for each board out of the
  window, in order. -/
  verify : ∃ ext, verifyTimeRegisters dev fuel trace = .ok () (trace ++ ext) ∧
    (∀ e ∈ ext, e.ReadsOrWarns) ∧
    warnings ext = ((List.range' 1 (names.length - 1)).filter fun m => !decide (InSync now m)).map
      fun m => .timeDeviation m (now 0) (now m)
  /-- The loop warns of no board exactly when the query answers `true`. -/
  agree : ∀ ext synced, verifyTimeRegisters dev fuel trace = .ok () (trace ++ ext) →
    ReadsTo (getTimeSynchronized dev fuel) trace synced → (warnings ext = [] ↔ synced = true)

section Verdicts

variable {dev : Device} {fuel : Nat} {names : List String} {now : Nat → TimeSpec}
  {trace : List Event}

theorem inSync_all_iff (m count : Nat) :
    ((List.range' m count).all fun k => decide (InSync now k)) = true ↔
      ∀ k, m ≤ k → k < m + count → InSync now k := by
  simp only [List.all_eq_true, List.mem_range'_1, decide_eq_true_eq]
  exact ⟨fun all k low high => all k ⟨low, high⟩, fun all k bounds => all k bounds.1 bounds.2⟩

/-- Over a device that reports the board times `now` whatever is read or warned, the query
and the verification loop judge the same boards out of the window. -/
theorem timeSynchronized_iff_no_deviation
    (steady : Always Event.ReadsOrWarns (ShowsTimes dev names now) trace)
    (enough : names.length < fuel) : SyncVerdicts dev fuel names now trace := by
  have queried := timeSynchronizedLoop_readsTo fuel 1 trace steady (by omega)
  obtain ⟨ext, ranVerify, kept, warned⟩ := verifyTimeRegisters_run steady enough
  rw [flatMap_deviation_eq] at warned
  have answers : ∀ synced, ReadsTo (getTimeSynchronized dev fuel) trace synced →
      (synced = true ↔ ∀ m, 1 ≤ m → m < names.length → InSync now m) := by
    intro synced ⟨_, _, ran⟩
    obtain ⟨_, _, ran'⟩ := queried
    have same := ran.symm.trans ran'
    simp only [EStateM.Result.ok.injEq] at same
    rw [same.1, inSync_all_iff]
    exact forall_congr' fun m => imp_congr_right fun _ =>
      imp_congr_left ⟨fun _ => by omega, fun _ => by omega⟩
  refine ⟨⟨_, queried, answers _ queried⟩, ⟨ext, ranVerify, kept, warned⟩,
    fun ext' synced ranVerify' ranQuery => ?_⟩
  have same : ext' = ext := by
    simpa using ranVerify'.symm.trans ranVerify
  rw [same, warned, answers synced ranQuery, List.map_eq_nil_iff, List.filter_eq_nil_iff]
  simp only [List.mem_range'_1, Bool.not_eq_true', decide_eq_false_iff_not, not_not]
  exact ⟨fun all m low high => all m ⟨low, by omega⟩,
    fun all m bounds => all m bounds.1 (by omega)⟩

end Verdicts

/-- Two boards, the second 5 ms after the first. -/
def twoBoardsTree : List (PropPath × WaxObj) :=
  [(mboardNamesPath, .names ["A", "B"]),
    (mboardPropPath "A" .timeNow, .timeSpec 0),
    (mboardPropPath "B" .timeNow, .timeSpec (1 / 200))]

/-- The times of the two boards. -/
def twoBoardsNow (m : Nat) : TimeSpec := [0, 1 / 200].getD m 0

theorem twoBoards_showsTimes :
    ShowsTimes (Device.ofTree twoBoardsTree) ["A", "B"] twoBoardsNow [] := by
  refine ⟨rfl, fun m inside => ?_⟩
  have : m < 2 := inside
  rcases m with _ | _ | m
  · rfl
  · rfl
  · omega

theorem timeSynchronized_iff_no_deviation_twoBoards :
    Always Event.ReadsOrWarns (ShowsTimes (Device.ofTree twoBoardsTree) ["A", "B"] twoBoardsNow)
        [] ∧ ["A", "B"].length < 3 ∧
      SyncVerdicts (Device.ofTree twoBoardsTree) 3 ["A", "B"] twoBoardsNow [] :=
  ⟨always_ofTree_times twoBoards_showsTimes [], by decide,
    timeSynchronized_iff_no_deviation (always_ofTree_times twoBoards_showsTimes []) (by decide)⟩

end UhdHost
