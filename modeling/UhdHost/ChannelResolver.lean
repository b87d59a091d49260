import UhdHost.Topology

/-!
# Resolving a flat channel index

`rx_chan_to_mcp` and `tx_chan_to_mcp` walk the boards, taking each board's spec size off
the index until it fits in a board.  `Topology.resolveFrom` is the same walk over a
topology, with no device: the loop keeps `chansBefore mboard + chan` equal to the index it
started from, so it stops at the board holding the index, or past the last board with
what is left over (`resolveFrom_of_lt`, `resolveFrom_of_ge`).

On a device that keeps showing the topology while it is read, the facade's loop reads its
way to exactly that pair (`chanToMcpLoop_readsTo`).  `ResolvesChannels` collects what this
means for every index: the board and channel of an index in range are the unique
decomposition of the index, the board is the least one whose boards up to it hold the
index, the indices in range enumerate the channels board by board, and an index past the
last channel ends past the last board.
-/

namespace UhdHost

/-- `a` comes before `b` in lexicographic order: board first, then channel. -/
def MboardChanPair.Lt (a b : MboardChanPair) : Prop :=
  a.mboard < b.mboard ∨ a.mboard = b.mboard ∧ a.chan < b.chan

namespace Topology

variable (topo : Topology) (dir : Dir)

/-- A copy of `chan_to_mcp`'s loop over a topology, from board `mboard` with `boardsLeft`
boards still to pass. -/
def resolveFrom : (boardsLeft mboard chan : Nat) → MboardChanPair
  | 0, mboard, chan => ⟨mboard, chan⟩
  | boardsLeft + 1, mboard, chan =>
      if chan < topo.chanCount dir mboard then ⟨mboard, chan⟩
      else resolveFrom boardsLeft (mboard + 1) (chan - topo.chanCount dir mboard)

/-- The pair `chan_to_mcp` computes for `chan` over `topo`. -/
def resolve (chan : Nat) : MboardChanPair :=
  topo.resolveFrom dir topo.mboardNames.length 0 chan

/-- The channels of side `dir`, board by board: `(m, k)` for `m < n` and `k < s_m`. -/
def chanPairs : List MboardChanPair :=
  (List.range topo.mboardNames.length).flatMap fun m =>
    (List.range (topo.chanCount dir m)).map (MboardChanPair.mk m)

variable {topo dir}

/-- The loop invariant: while the index is in range, the walk ends at a board and channel
that hold it. -/
theorem resolveFrom_of_lt :
    ∀ (boardsLeft mboard chan : Nat), mboard + boardsLeft = topo.mboardNames.length →
      topo.chansBefore dir mboard + chan < topo.numChannels dir →
      (topo.resolveFrom dir boardsLeft mboard chan).mboard < topo.mboardNames.length ∧
      (topo.resolveFrom dir boardsLeft mboard chan).chan <
        topo.chanCount dir (topo.resolveFrom dir boardsLeft mboard chan).mboard ∧
      topo.chansBefore dir (topo.resolveFrom dir boardsLeft mboard chan).mboard +
        (topo.resolveFrom dir boardsLeft mboard chan).chan = topo.chansBefore dir mboard + chan
  | 0, mboard, chan, fits, inRange => by
      simp only [numChannels, Nat.add_zero] at fits inRange
      subst fits
      omega
  | boardsLeft + 1, mboard, chan, fits, inRange => by
      by_cases fitsHere : chan < topo.chanCount dir mboard
      · rw [resolveFrom, if_pos fitsHere]
        exact ⟨by dsimp only; omega, fitsHere, rfl⟩
      · have taken := topo.chansBefore_succ dir mboard
        simp only [resolveFrom, fitsHere, if_false]
        obtain ⟨onBoard, onChan, decomposes⟩ :=
          resolveFrom_of_lt boardsLeft (mboard + 1) (chan - topo.chanCount dir mboard)
            (by omega) (by omega)
        exact ⟨onBoard, onChan, by omega⟩

/-- Past the last channel, the walk ends past the last board with what is left over. -/
theorem resolveFrom_of_ge :
    ∀ (boardsLeft mboard chan : Nat), mboard + boardsLeft = topo.mboardNames.length →
      topo.numChannels dir ≤ topo.chansBefore dir mboard + chan →
      topo.resolveFrom dir boardsLeft mboard chan =
        ⟨topo.mboardNames.length, topo.chansBefore dir mboard + chan - topo.numChannels dir⟩
  | 0, mboard, chan, fits, _ => by
      simp only [numChannels, Nat.add_zero] at fits ⊢
      subst fits
      simp [resolveFrom]
  | boardsLeft + 1, mboard, chan, fits, pastEnd => by
      have taken := topo.chansBefore_succ dir mboard
      have upTo : topo.chansBefore dir (mboard + 1) ≤ topo.numChannels dir :=
        topo.chansBefore_mono dir (by omega)
      have beyond : ¬ chan < topo.chanCount dir mboard := by omega
      simp only [resolveFrom, beyond, if_false]
      rw [resolveFrom_of_ge boardsLeft (mboard + 1) _ (by omega) (by omega)]
      congr 2
      omega

/-- The board holding a channel is determined by the channel's flat index. -/
theorem mboard_eq_of_chansBefore_add_eq {m m' k k' : Nat} (onM : k < topo.chanCount dir m)
    (onM' : k' < topo.chanCount dir m')
    (same : topo.chansBefore dir m + k = topo.chansBefore dir m' + k') : m = m' := by
  have before {a b : Nat} (lt : a < b) (onA : k < topo.chanCount dir a) :
      topo.chansBefore dir a + k < topo.chansBefore dir b := by
    have := topo.chansBefore_succ dir a
    have := topo.chansBefore_mono dir (show a + 1 ≤ b from lt)
    omega
  rcases Nat.lt_trichotomy m m' with lt | eq | gt
  · have := before lt onM; omega
  · exact eq
  · have : topo.chansBefore dir m' + k' < topo.chansBefore dir m := by
      have := topo.chansBefore_succ dir m'
      have := topo.chansBefore_mono dir (show m' + 1 ≤ m from gt)
      omega
    omega

theorem resolve_of_lt {chan : Nat} (inRange : chan < topo.numChannels dir) :
    (topo.resolve dir chan).mboard < topo.mboardNames.length ∧
      (topo.resolve dir chan).chan < topo.chanCount dir (topo.resolve dir chan).mboard ∧
      topo.chansBefore dir (topo.resolve dir chan).mboard + (topo.resolve dir chan).chan =
        chan := by
  simpa using resolveFrom_of_lt _ 0 chan (Nat.zero_add _) (by simpa using inRange)

theorem resolve_of_ge {chan : Nat} (pastEnd : topo.numChannels dir ≤ chan) :
    topo.resolve dir chan = ⟨topo.mboardNames.length, chan - topo.numChannels dir⟩ := by
  simpa using resolveFrom_of_ge _ 0 chan (Nat.zero_add _) (by simpa using pastEnd)

/-- Every decomposition of an index into a board and a channel on it is the resolved one. -/
theorem resolve_eq_of_decomposes {chan m k : Nat} (onBoard : m < topo.mboardNames.length)
    (onChan : k < topo.chanCount dir m) (decomposes : topo.chansBefore dir m + k = chan) :
    topo.resolve dir chan = ⟨m, k⟩ := by
  have inRange : chan < topo.numChannels dir := by
    have := topo.chansBefore_succ dir m
    have := topo.chansBefore_mono dir (show m + 1 ≤ _ from onBoard)
    unfold numChannels
    omega
  obtain ⟨_, onChan', decomposes'⟩ := resolve_of_lt inRange
  have sameBoard :=
    mboard_eq_of_chansBefore_add_eq onChan' onChan (decomposes'.trans decomposes.symm)
  cases h : topo.resolve dir chan
  simp only [h] at sameBoard decomposes'
  subst sameBoard
  congr
  omega

/-- The resolved board is the least board whose boards up to it hold the index. -/
theorem resolve_least {chan : Nat} (inRange : chan < topo.numChannels dir) :
    chan < topo.chansBefore dir ((topo.resolve dir chan).mboard + 1) ∧
      ∀ m < (topo.resolve dir chan).mboard, topo.chansBefore dir (m + 1) ≤ chan := by
  obtain ⟨_, onChan, decomposes⟩ := resolve_of_lt inRange
  refine ⟨by rw [chansBefore_succ]; omega, fun m earlier => ?_⟩
  have := topo.chansBefore_mono dir (show m + 1 ≤ _ from earlier)
  omega

/-- Resolution is strictly increasing in lexicographic order over the indices in range. -/
theorem resolve_lt_resolve {chan chan' : Nat} (lt : chan < chan')
    (inRange : chan' < topo.numChannels dir) :
    (topo.resolve dir chan).Lt (topo.resolve dir chan') := by
  obtain ⟨_, onChan, decomposes⟩ := resolve_of_lt (Nat.lt_trans lt inRange)
  obtain ⟨_, onChan', decomposes'⟩ := resolve_of_lt inRange
  rcases Nat.lt_trichotomy (topo.resolve dir chan).mboard (topo.resolve dir chan').mboard
    with lt' | eq | gt
  · exact .inl lt'
  · exact .inr ⟨eq, by rw [eq] at decomposes; omega⟩
  · have := topo.chansBefore_succ dir (topo.resolve dir chan').mboard
    have := topo.chansBefore_mono dir (show (topo.resolve dir chan').mboard + 1 ≤ _ from gt)
    omega

theorem map_resolveFrom_range :
    ∀ (boardsLeft mboard : Nat),
      (List.range (topo.chansBefore dir (mboard + boardsLeft) - topo.chansBefore dir mboard)).map
          (topo.resolveFrom dir boardsLeft mboard) =
        (List.range' mboard boardsLeft).flatMap fun m =>
          (List.range (topo.chanCount dir m)).map (MboardChanPair.mk m)
  | 0, mboard => by simp
  | boardsLeft + 1, mboard => by
      have taken := topo.chansBefore_succ dir mboard
      have rest := topo.chansBefore_mono dir (Nat.le_add_right (mboard + 1) boardsLeft)
      have split : topo.chansBefore dir (mboard + (boardsLeft + 1)) - topo.chansBefore dir mboard =
          topo.chanCount dir mboard +
            (topo.chansBefore dir (mboard + 1 + boardsLeft) -
              topo.chansBefore dir (mboard + 1)) := by
        rw [show mboard + (boardsLeft + 1) = mboard + 1 + boardsLeft by omega]
        omega
      rw [split, List.range_add, List.map_append, List.map_map, List.range'_succ,
        List.flatMap_cons, ← map_resolveFrom_range boardsLeft (mboard + 1)]
      congr 1
      · refine List.map_congr_left fun c mem => ?_
        rw [resolveFrom, if_pos (List.mem_range.mp mem)]
      · refine List.map_congr_left fun c _ => ?_
        rw [Function.comp_apply, resolveFrom, if_neg (by omega), Nat.add_sub_cancel_left]

/-- The indices in range resolve, in order, to the channels listed board by board. -/
theorem map_resolve_range :
    (List.range (topo.numChannels dir)).map (topo.resolve dir) = topo.chanPairs dir := by
  simpa [numChannels, resolve, chanPairs, List.range_eq_range'] using
    @map_resolveFrom_range topo dir topo.mboardNames.length 0

end Topology

section Bridge

variable {dev : Device} {topo : Topology} {dir : Dir} {trace : List Event}

/-- Over a device that keeps showing `topo`, the loop of `chan_to_mcp` reads its way to the
pair its copy `resolveFrom` computes. -/
theorem chanToMcpLoop_readsTo :
    ∀ (fuel mboard chan : Nat) (trace : List Event),
      Always Event.IsGet (Shows dev topo dir) trace →
      mboard ≤ topo.mboardNames.length → topo.mboardNames.length - mboard < fuel →
      ReadsTo (chanToMcpLoop dev dir fuel ⟨mboard, chan⟩) trace
        (topo.resolveFrom dir (topo.mboardNames.length - mboard) mboard chan)
  | 0, _, _, _, _, _, enough => absurd enough (Nat.not_lt_zero _)
  | fuel + 1, mboard, chan, trace, steady, upTo, enough => by
      refine (getNumMboards_readsTo steady.now.names).bind fun ext reads => ?_
      by_cases onBoard : mboard < topo.mboardNames.length
      · have left : topo.mboardNames.length - mboard =
            topo.mboardNames.length - (mboard + 1) + 1 := by omega
        simp only [chanToMcpLoop, onBoard, if_true]
        refine (getSubdevSpec_readsTo (steady.extend reads) onBoard).bind fun ext' reads' => ?_
        rw [left, Topology.resolveFrom]
        show ReadsTo (if chan < topo.chanCount dir mboard then _ else _) _ _
        split
        · exact .pure _ _
        · exact chanToMcpLoop_readsTo fuel _ _ _ ((steady.extend reads).extend reads')
            (by omega) (by omega)
      · have atEnd : topo.mboardNames.length - mboard = 0 := by omega
        simp only [chanToMcpLoop, onBoard, if_false, atEnd, Topology.resolveFrom]
        exact .pure _ _

theorem chanToMcp_readsTo (steady : Always Event.IsGet (Shows dev topo dir) trace) {fuel : Nat}
    (enough : topo.mboardNames.length < fuel) (chan : Nat) :
    ReadsTo (chanToMcp dev fuel dir chan) trace (topo.resolve dir chan) := by
  simpa [Topology.resolve] using
    chanToMcpLoop_readsTo fuel 0 chan trace steady (Nat.zero_le _) (by omega)

/-- What `rx_chan_to_mcp` (for `dir = rx`) or `tx_chan_to_mcp` computes over a device that
shows `topo` after `trace`: the channel count is the sum of the spec sizes; an index in
range goes to the unique board and channel that hold it, on the least board whose boards
up to it hold the index; the indices in range go, in order, to the channels listed board
by board; and an index past the last channel goes past the last board. -/
structure ResolvesChannels (dev : Device) (fuel : Nat) (topo : Topology) (dir : Dir)
    (trace : List Event) : Prop where
  numChannels : ReadsTo (getNumChannels dev fuel dir) trace (topo.numChannels dir)
  reads : ∀ chan, ReadsTo (chanToMcp dev fuel dir chan) trace (topo.resolve dir chan)
  holds : ∀ chan, chan < topo.numChannels dir →
    (topo.resolve dir chan).mboard < topo.mboardNames.length ∧
      (topo.resolve dir chan).chan < topo.chanCount dir (topo.resolve dir chan).mboard ∧
      topo.chansBefore dir (topo.resolve dir chan).mboard + (topo.resolve dir chan).chan = chan
  unique : ∀ chan m k, m < topo.mboardNames.length → k < topo.chanCount dir m →
    topo.chansBefore dir m + k = chan → topo.resolve dir chan = ⟨m, k⟩
  least : ∀ chan, chan < topo.numChannels dir →
    chan < topo.chansBefore dir ((topo.resolve dir chan).mboard + 1) ∧
      ∀ m < (topo.resolve dir chan).mboard, topo.chansBefore dir (m + 1) ≤ chan
  ordered : ∀ chan chan', chan < chan' → chan' < topo.numChannels dir →
    (topo.resolve dir chan).Lt (topo.resolve dir chan')
  enumerates : (List.range (topo.numChannels dir)).map (topo.resolve dir) = topo.chanPairs dir
  pastEnd : ∀ chan, topo.numChannels dir ≤ chan →
    topo.resolve dir chan = ⟨topo.mboardNames.length, chan - topo.numChannels dir⟩

theorem chanToMcp_resolvesChannels (steady : Always Event.IsGet (Shows dev topo dir) trace)
    {fuel : Nat} (enough : topo.mboardNames.length < fuel) :
    ResolvesChannels dev fuel topo dir trace :=
  ⟨getNumChannels_readsTo steady enough, chanToMcp_readsTo steady enough,
    fun _ => Topology.resolve_of_lt, fun _ _ _ => Topology.resolve_eq_of_decomposes,
    fun _ => Topology.resolve_least, fun _ _ => Topology.resolve_lt_resolve,
    Topology.map_resolve_range, fun _ => Topology.resolve_of_ge⟩

/-- Three boards whose RX specs have 2, 3 and 1 entries, each with a DSP per entry. -/
def threeBoards : Topology where
  mboardNames := ["A", "B", "C"]
  subdevSpec _ m := List.replicate ([2, 3, 1].getD m 0) ⟨"A", "0"⟩
  dspNames _ m := ["0", "1", "2"].take ([2, 3, 1].getD m 0)

/-- The board names, RX specs and RX DSP names of `threeBoards`, as properties of a
device. -/
def threeBoardsTree : List (PropPath × WaxObj) :=
  (mboardNamesPath, .names threeBoards.mboardNames) ::
    [0, 1, 2].flatMap fun m =>
      [(mboardPropPath (threeBoards.mboardNames.getD m "") .rxSubdevSpec,
          .subdevSpec (threeBoards.subdevSpec .rx m)),
        (mboardPropPath (threeBoards.mboardNames.getD m "") .rxDspNames,
          .names (threeBoards.dspNames .rx m))]

theorem threeBoards_shows : Shows (Device.ofTree threeBoardsTree) threeBoards .rx [] := by
  refine ⟨rfl, fun m inside => ?_⟩
  have : m < 3 := inside
  rcases m with _ | _ | _ | m
  · rfl
  · rfl
  · rfl
  · omega

theorem threeBoards_showsDsps : ShowsDsps (Device.ofTree threeBoardsTree) threeBoards .rx [] := by
  refine ⟨threeBoards_shows, fun m inside => ?_⟩
  have : m < 3 := inside
  rcases m with _ | _ | _ | m
  · rfl
  · rfl
  · rfl
  · omega

theorem chanToMcp_resolvesChannels_threeBoards :
    Always Event.IsGet (Shows (Device.ofTree threeBoardsTree) threeBoards .rx) [] ∧
      threeBoards.mboardNames.length < 4 ∧
      ResolvesChannels (Device.ofTree threeBoardsTree) 4 threeBoards .rx [] :=
  ⟨always_ofTree threeBoards_shows [], by decide,
    chanToMcp_resolvesChannels (always_ofTree threeBoards_shows []) (by decide)⟩

end Bridge

end UhdHost
