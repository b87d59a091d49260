import UhdHost.FanOut

/-!
# Board setters over `ALL_MBOARDS`

`set_master_clock_rate`, `set_time_now`, `set_clock_config`, `set_rx_subdev_spec` and
`set_tx_subdev_spec` write one property of one board, or, given `ALL_MBOARDS`, call
themselves for each board in turn, the board count read again before each test; so does
`set_time_next_pps` for every board.  In the model they are the one definition
`setMboardProp`, with the property and the value.  Over a device that keeps listing the same
boards while the setter reads and writes that property, the fan-out writes the value to each
board once, board by board, or stops at the first board whose write fails, having written
the boards before it (`BoardFansOut`).
-/

namespace UhdHost

/-- After `trace`, the device lists the boards `names`. -/
def ListsBoards (dev : Device) (names : List String) (trace : List Event) : Prop :=
  dev.get trace mboardNamesPath = .ok (.names names)

/-- The events a setter of board property `prop` makes, after which a device of this module
still lists the same boards: reads, and writes of `prop` on a board. -/
def Event.KeepsBoards (prop : MboardProp) : Event → Prop
  | .set path _ => path.getLast? = some (.plain (.mboard prop))
  | _ => True

theorem Event.keepsBoards_of_isGet {prop : MboardProp} {e : Event} (get : e.IsGet) :
    e.KeepsBoards prop := by
  obtain ⟨_, _, rfl⟩ := Event.eq_get_of_isGet get
  trivial

/-- The writes of a board setter over all boards: `val` to each board's `prop`, board by
board. -/
def boardWrites (names : List String) (prop : MboardProp) (val : WaxObj) :
    List (PropPath × WaxObj) :=
  (List.range names.length).map fun m => (mboardPropPath (names.getD m "") prop, val)

section Boards

variable {dev : Device} {fuel : Nat} {names : List String} {prop : MboardProp}
  {trace : List Event}

/-- One board's write, if it ends normally, is the write of `val` to that board's `prop`. -/
theorem mboardSet_endsWith (steady : Always (Event.KeepsBoards prop) (ListsBoards dev names) trace)
    {m : Nat} (inside : m < names.length) (val : WaxObj) :
    EndsWith (Event.KeepsBoards prop) (mboardSet dev prop val m) trace
      [(mboardPropPath (names.getD m "") prop, val)] := by
  unfold mboardSet
  refine EndsWith.bind_readsTo (fun _ get => Event.keepsBoards_of_isGet get)
    (mboardNode_readsTo steady.now inside) fun _ _ => ?_
  have path : [WaxKey.named (.device .mboard) names[m]] ++ [.plain (.mboard prop)] =
      mboardPropPath (names.getD m "") prop := by
    simp [mboardPropPath, inside]
  rw [path]
  exact EndsWith.of_setProp (by simp [Event.KeepsBoards, mboardPropPath])

/-- The loop over all boards: each board's write in turn, or the first that fails. -/
theorem forEachMboard_mboardSet
    (steady : Always (Event.KeepsBoards prop) (ListsBoards dev names) trace)
    (enough : names.length < fuel) (val : WaxObj) :
    (∀ trace', forEachMboard dev fuel (mboardSet dev prop val) trace = .ok () trace' →
      ∃ ext, trace' = trace ++ ext ∧ writes ext = boardWrites names prop val) ∧
    (∀ e trace', forEachMboard dev fuel (mboardSet dev prop val) trace = .error e trace' →
      ∃ m < names.length, ∃ ext, writes ext = (boardWrites names prop val).take m ∧
        mboardSet dev prop val m (trace ++ ext) = .error e trace') := by
  obtain ⟨loopOk, loopError⟩ := forLoop_fansOut
    (W := fun m => [(mboardPropPath (names.getD m "") prop, val)])
    (fun _ get => Event.keepsBoards_of_isGet get) (fun _ _ holds kept => holds.extend kept)
    (fun _ holds => getNumMboards_readsTo holds.now)
    (fun _ _ holds inside => mboardSet_endsWith holds inside val) fuel 0 trace steady
    (Nat.zero_le _) (by omega)
  have written : ∀ m ≤ names.length, (List.range' 0 (m - 0)).flatMap
      (fun m => [(mboardPropPath (names.getD m "") prop, val)]) =
        (boardWrites names prop val).take m := fun m le => by
    rw [Nat.sub_zero, ← List.range_eq_range', ← List.map_eq_flatMap, boardWrites, ← List.map_take,
      List.take_range, min_eq_left le]
  refine ⟨fun trace' ran => ?_, fun e trace' ran => ?_⟩
  · obtain ⟨r, ranLoop⟩ := discard_ok ran
    obtain ⟨-, ext, rfl, wrote⟩ := loopOk r trace' ranLoop
    refine ⟨ext, rfl, ?_⟩
    rw [wrote, written _ le_rfl, List.take_of_length_le (by simp [boardWrites])]
  · obtain ⟨m, -, inside, ext, wrote, ranBoard⟩ := loopError e trace' (discard_error ran)
    exact ⟨m, inside, ext, by rw [wrote, written _ inside.le], ranBoard⟩

end Boards

/-- What a board setter of `prop` given `val` does from `trace`. -/
structure BoardFansOut (dev : Device) (fuel : Nat) (names : List String) (prop : MboardProp)
    (val : WaxObj) (trace : List Event) : Prop where
  /-- On one board, a setter that ends normally has written `val` to that board's `prop`,
  and nothing else. -/
  single : ∀ m < names.length, m ≠ allMboards → ∀ trace',
    setMboardProp dev fuel prop val m trace = .ok () trace' →
      ∃ ext, trace' = trace ++ ext ∧ writes ext = [(mboardPropPath (names.getD m "") prop, val)]
  /-- Over all boards, a setter that ends normally has written `val` to each board's `prop`
  once, board by board. -/
  ok : ∀ trace', setMboardProp dev fuel prop val allMboards trace = .ok () trace' →
    ∃ ext, trace' = trace ++ ext ∧ writes ext = boardWrites names prop val
  /-- Over all boards, a setter that raises does so at some board's own write, after
  writing the boards before it. -/
  error : ∀ e trace', setMboardProp dev fuel prop val allMboards trace = .error e trace' →
    ∃ m < names.length, ∃ ext, writes ext = (boardWrites names prop val).take m ∧
      mboardSet dev prop val m (trace ++ ext) = .error e trace'

/-- Over a device that keeps listing the boards `names` while a board setter reads and
writes its property, the setter writes one board, or, given `ALL_MBOARDS`, each board once,
board by board, stopping at the first board whose write fails. -/
theorem setMboardProp_fansOut {dev : Device} {fuel : Nat} {names : List String}
    {prop : MboardProp} {trace : List Event}
    (steady : Always (Event.KeepsBoards prop) (ListsBoards dev names) trace)
    (enough : names.length < fuel) (val : WaxObj) :
    BoardFansOut dev fuel names prop val trace := by
  have fanned := forEachMboard_mboardSet steady enough val
  refine ⟨fun m inside notAll trace' ran => ?_, fun trace' ran => ?_, fun e trace' ran => ?_⟩
  · rw [setMboardProp, if_pos notAll] at ran
    obtain ⟨ext, rfl, -, wrote⟩ := mboardSet_endsWith steady inside val () trace' ran
    exact ⟨ext, rfl, wrote⟩
  · rw [setMboardProp, if_neg (not_not.mpr rfl)] at ran
    exact fanned.1 trace' ran
  · rw [setMboardProp, if_neg (not_not.mpr rfl)] at ran
    exact fanned.2 e trace' ran

theorem setMboardProp_fansOut_threeBoards :
    Always (Event.KeepsBoards .clockRate)
        (ListsBoards (Device.ofTree threeBoardsTree) threeBoards.mboardNames) [] ∧
      threeBoards.mboardNames.length < 4 ∧
      BoardFansOut (Device.ofTree threeBoardsTree) 4 threeBoards.mboardNames .clockRate
        (.double 100e6) [] :=
  have steady : Always (Event.KeepsBoards .clockRate)
      (ListsBoards (Device.ofTree threeBoardsTree) threeBoards.mboardNames) [] := fun _ _ => rfl
  ⟨steady, by decide, setMboardProp_fansOut steady (by decide) _⟩

end UhdHost
