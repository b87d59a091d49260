import UhdHost.OutOfRange
import UhdHost.FanOut

/-!
# The channel sections of `get_pp_string`

Each channel section of `get_pp_string` runs one counter `chan` through two loops: for
board `m`, the inner loop runs it up to `(m + 1)*get_xx_subdev_spec(m).size()`.  That bound
is the number of channels of boards `0..m` only when every board has as many channels as
board `m`.  `Topology.ppChans` is the list of counter values the loops visit.  It is
`0, …, N-1` when all boards have the same number of channels (`ppChans_of_uniform`), but on
mixed sizes it skips channels ([3, 1] visits `0, 1, 2`) or runs past the last one
([1, 3] visits `0, …, 5`, and channel 4 asks `_mboard(2)` for a board that does not
exist).
-/

namespace UhdHost

namespace Topology

variable (topo : Topology) (dir : Dir)

/-- The counter values the channel loops visit on boards `ms`, the counter entering at
`chan`, and the counter they leave: board `m` runs it up to `(m + 1)*size(m)`. -/
def ppVisit : List Nat → Nat → List Nat × Nat
  | [], chan => ([], chan)
  | m :: ms, chan =>
      let rest := ppVisit ms (max chan ((m + 1) * topo.chanCount dir m))
      (List.range' chan ((m + 1) * topo.chanCount dir m - chan) ++ rest.1, rest.2)

/-- The channels a section of `get_pp_string` visits, in order. -/
def ppChans : List Nat := (topo.ppVisit dir (List.range topo.mboardNames.length) 0).1

section Uniform

variable {topo dir} {s : Nat} (uniform : ∀ m < topo.mboardNames.length, topo.chanCount dir m = s)
include uniform

theorem chansBefore_of_uniform : ∀ k ≤ topo.mboardNames.length, topo.chansBefore dir k = k * s
  | 0, _ => by simp
  | k + 1, le => by
      rw [chansBefore_succ, chansBefore_of_uniform k (by omega), uniform k (by omega),
        Nat.succ_mul]

theorem ppVisit_of_uniform : ∀ j k, k + j ≤ topo.mboardNames.length →
    topo.ppVisit dir (List.range' k j) (k * s) = (List.range' (k * s) (j * s), (k + j) * s)
  | 0, k, _ => by simp [ppVisit]
  | j + 1, k, le => by
      have joined := List.range'_append_1 (k * s) s (j * s)
      rw [List.range'_succ, ppVisit, uniform k (by omega), Nat.succ_mul,
        max_eq_right (Nat.le_add_right _ _), ← Nat.succ_mul,
        ppVisit_of_uniform j (k + 1) (by omega), Nat.succ_mul, Nat.add_sub_cancel_left, joined,
        show k + 1 + j = k + (j + 1) by omega,
        Nat.succ_mul j, Nat.add_comm (j * s) s]

/-- When every board has `s` channels, the loops visit each channel once, in order. -/
theorem ppChans_of_uniform : topo.ppChans dir = List.range (topo.numChannels dir) := by
  have visit := ppVisit_of_uniform uniform topo.mboardNames.length 0 (by omega)
  rw [Nat.zero_mul, Nat.zero_add, ← List.range_eq_range'] at visit
  rw [ppChans, visit, numChannels, chansBefore_of_uniform uniform _ le_rfl, List.range_eq_range']

end Uniform

end Topology

namespace Topology

variable (topo : Topology) (dir : Dir)

/-- The daughterboard node of channel `mcp` as `_rx_dboard` and `_tx_dboard` build it. -/
def dboardNode (mcp : MboardChanPair) : PropPath :=
  [.named (.device .mboard) (topo.mboardNames.getD mcp.mboard ""),
    .named (.mboard dir.dboardProp) ((topo.subdevSpec dir mcp.mboard).getD mcp.chan ⟨"", ""⟩).dbName]

/-- The subdevice node of channel `mcp` as `_rx_subdev` and `_tx_subdev` build it. -/
def subdevNode (mcp : MboardChanPair) : PropPath :=
  topo.dboardNode dir mcp ++
    [.named (.dboard .subdev) ((topo.subdevSpec dir mcp.mboard).getD mcp.chan ⟨"", ""⟩).sdName]

/-- The entry of channel `chan`, with the names `named` gives the DSP, daughterboard and
subdevice nodes it resolves to. -/
def ppLine (named : PropPath → String) (chan : Nat) : String :=
  ppEntry dir chan (named (topo.dspNode dir (topo.resolve dir chan)))
    (named (topo.dboardNode dir (topo.resolve dir chan)))
    (named (topo.subdevNode dir (topo.resolve dir chan)))

/-- What printing channel `chan` comes to: its entry, or `std::out_of_range` past the last
channel. -/
def ppOut (named : PropPath → String) (chan : Nat) : Except UhdError String :=
  if chan < topo.numChannels dir then .ok (topo.ppLine dir named chan) else .error .outOfRange

end Topology

/-- After `trace`, the device also answers a name, `named node`, at the DSP, daughterboard
and subdevice node of each channel of side `dir`. -/
structure ShowsNames (dev : Device) (topo : Topology) (dir : Dir) (named : PropPath → String)
    (trace : List Event) extends ShowsDsps dev topo dir trace : Prop where
  dspName : ∀ chan < topo.numChannels dir,
    dev.get trace (topo.dspNode dir (topo.resolve dir chan) ++ [.plain (.dsp .name)]) =
      .ok (.string (named (topo.dspNode dir (topo.resolve dir chan))))
  dboardName : ∀ chan < topo.numChannels dir,
    dev.get trace (topo.dboardNode dir (topo.resolve dir chan) ++ [.plain (.dboard .name)]) =
      .ok (.string (named (topo.dboardNode dir (topo.resolve dir chan))))
  subdevName : ∀ chan < topo.numChannels dir,
    dev.get trace (topo.subdevNode dir (topo.resolve dir chan) ++ [.plain (.subdev .name)]) =
      .ok (.string (named (topo.subdevNode dir (topo.resolve dir chan))))

/-- From `trace`, `prog` ends with the outcome `out` after reading only: the value it
returns, or the exception it throws. -/
def ReadsOut {α : Type} (prog : UsrpM α) (trace : List Event) : Except UhdError α → Prop
  | .ok a => ReadsTo prog trace a
  | .error e => ReadsThenThrows prog trace e

section Outcomes

variable {α β : Type} {trace : List Event}

theorem ReadsTo.bind_always {P : List Event → Prop} {prog : UsrpM α} {f : α → UsrpM β} {a : α}
    {b : β} (steady : Always Event.IsGet P trace) (first : ReadsTo prog trace a)
    (rest : ∀ trace', Always Event.IsGet P trace' → ReadsTo (f a) trace' b) :
    ReadsTo (prog >>= f) trace b :=
  first.bind fun _ reads => rest _ (steady.extend reads)

theorem ReadsTo.bindOut {prog : UsrpM α} {f : α → UsrpM β} {a : α} {out : Except UhdError β}
    (first : ReadsTo prog trace a) (rest : ∀ ext, AllGets ext → ReadsOut (f a) (trace ++ ext) out) :
    ReadsOut (prog >>= f) trace out := by
  cases out with
  | ok b => exact first.bind rest
  | error e => exact first.bind_throws rest

theorem ReadsOut.bind {prog : UsrpM α} {f : α → UsrpM β} {out : Except UhdError α}
    {g : α → Except UhdError β} (first : ReadsOut prog trace out)
    (rest : ∀ a ext, out = .ok a → AllGets ext → ReadsOut (f a) (trace ++ ext) (g a)) :
    ReadsOut (prog >>= f) trace (out >>= g) := by
  cases out with
  | ok a => exact ReadsTo.bindOut first fun ext gets => rest a ext rfl gets
  | error e => exact ReadsThenThrows.bind first

/-- A `for` loop whose body only reads and ends with a known outcome, from traces where its
bound keeps reading `bound`: its outcome is the body's folded over the indices it passes,
the first exception ending it. -/
theorem forLoop_readsOut {P : List Event → Prop} {boundProg : UsrpM Nat}
    {body : Nat → α → UsrpM α} {bound : Nat} (spec : Nat → α → Except UhdError α)
    (closed : ∀ trace ext, P trace → AllGets ext → P (trace ++ ext))
    (bounds : ∀ trace, P trace → ReadsTo boundProg trace bound)
    (bodies : ∀ trace i acc, P trace → i < bound → ReadsOut (body i acc) trace (spec i acc)) :
    ∀ fuel i acc trace, P trace → bound - i < fuel →
      ReadsOut (forLoop boundProg body fuel i acc) trace
        ((List.range' i (bound - i)).foldlM (fun acc j => spec j acc) acc >>= fun acc =>
          pure (max i bound, acc))
  | 0, _, _, _, _, enough => absurd enough (Nat.not_lt_zero _)
  | fuel + 1, i, acc, trace, holds, enough => by
      simp only [forLoop]
      refine (bounds trace holds).bindOut fun ext gets => ?_
      by_cases more : i < bound
      · have indices : List.range' i (bound - i) = i :: List.range' (i + 1) (bound - (i + 1)) := by
          rw [show bound - i = bound - (i + 1) + 1 by omega]
          rfl
        simp only [if_pos more, indices, List.foldlM_cons, bind_assoc,
          show max i bound = max (i + 1) bound by omega]
        exact (bodies _ i acc (closed _ _ holds gets) more).bind fun acc' _ _ gets' =>
          forLoop_readsOut spec closed bounds bodies fuel (i + 1) acc' _
            (closed _ _ (closed _ _ holds gets) gets') (by omega)
      · simp only [if_neg more, show bound - i = 0 by omega, List.range'_zero, List.foldlM_nil,
          pure_bind, show max i bound = i by omega]
        exact ReadsTo.pure _ _

end Outcomes

section Entries

variable {dev : Device} {fuel : Nat} {topo : Topology} {dir : Dir} {named : PropPath → String}
  {trace : List Event}

theorem dboard_readsTo (steady : Always Event.IsGet (Shows dev topo dir) trace)
    (enough : topo.mboardNames.length < fuel) {chan : Nat} (inRange : chan < topo.numChannels dir) :
    ReadsTo (dboard dev fuel dir chan) trace (topo.dboardNode dir (topo.resolve dir chan)) := by
  obtain ⟨onBoard, onChan, -⟩ := Topology.resolve_of_lt inRange
  have onSpec : (topo.resolve dir chan).chan <
      (topo.subdevSpec dir (topo.resolve dir chan).mboard).length := onChan
  have node : topo.dboardNode dir (topo.resolve dir chan) =
      [.named (.device .mboard) topo.mboardNames[(topo.resolve dir chan).mboard]] ++
        [.named (.mboard dir.dboardProp)
          (topo.subdevSpec dir
            (topo.resolve dir chan).mboard)[(topo.resolve dir chan).chan].dbName] := by
    simp [Topology.dboardNode, onBoard, onSpec]
  rw [node]
  exact (chanToMcp_readsTo steady enough chan).bind_always steady fun _ s1 =>
    (getSubdevSpec_readsTo s1 onBoard).bind_always s1 fun _ s2 =>
      (vectorAt_readsTo onSpec _).bind_always s2 fun _ s3 =>
        (mboardNode_readsTo s3.now.names onBoard).bind fun _ _ => .pure _ _

theorem subdev_readsTo (steady : Always Event.IsGet (Shows dev topo dir) trace)
    (enough : topo.mboardNames.length < fuel) {chan : Nat} (inRange : chan < topo.numChannels dir) :
    ReadsTo (subdev dev fuel dir chan) trace (topo.subdevNode dir (topo.resolve dir chan)) := by
  obtain ⟨onBoard, onChan, -⟩ := Topology.resolve_of_lt inRange
  have onSpec : (topo.resolve dir chan).chan <
      (topo.subdevSpec dir (topo.resolve dir chan).mboard).length := onChan
  have node : topo.subdevNode dir (topo.resolve dir chan) =
      topo.dboardNode dir (topo.resolve dir chan) ++ [.named (.dboard .subdev)
        (topo.subdevSpec dir
          (topo.resolve dir chan).mboard)[(topo.resolve dir chan).chan].sdName] := by
    simp [Topology.subdevNode, onSpec]
  rw [node]
  exact (chanToMcp_readsTo steady enough chan).bind_always steady fun _ s1 =>
    (getSubdevSpec_readsTo s1 onBoard).bind_always s1 fun _ s2 =>
      (vectorAt_readsTo onSpec _).bind_always s2 fun _ s3 =>
        (dboard_readsTo s3 enough inRange).bind fun _ _ => .pure _ _

/-- A channel's entry reads the names of the nodes its three accessors resolve. -/
theorem ppChannel_readsTo (steady : Always Event.IsGet (ShowsNames dev topo dir named) trace)
    (hasDsps : topo.HasDsps dir) (enough : topo.mboardNames.length < fuel) {chan : Nat}
    (inRange : chan < topo.numChannels dir) :
    ReadsTo (ppChannel dev fuel dir chan) trace (topo.ppLine dir named chan) := by
  have shows : ∀ {trace'}, Always Event.IsGet (ShowsNames dev topo dir named) trace' →
      Always Event.IsGet (Shows dev topo dir) trace' :=
    fun steady => steady.imp fun _ sh => sh.toShows
  have hasDsp := hasDsps _ (by
    rw [← Topology.map_resolve_range]
    exact List.mem_map_of_mem _ (List.mem_range.mpr inRange))
  exact (dsp_readsTo (steady.imp fun _ sh => sh.toShowsDsps) enough inRange hasDsp).bind_always
    steady fun _ s1 => (getAs_readsTo (s1.now.dspName chan inRange) rfl).bind_always s1 fun _ s2 =>
    (dboard_readsTo (shows s2) enough inRange).bind_always s2 fun _ s3 =>
    (getAs_readsTo (s3.now.dboardName chan inRange) rfl).bind_always s3 fun _ s4 =>
    (subdev_readsTo (shows s4) enough inRange).bind_always s4 fun _ s5 =>
    (getAs_readsTo (s5.now.subdevName chan inRange) rfl).bind fun _ _ => .pure _ _

/-- Printing a channel comes to its entry, or to `std::out_of_range` past the last channel. -/
theorem ppChannel_readsOut (steady : Always Event.IsGet (ShowsNames dev topo dir named) trace)
    (hasDsps : topo.HasDsps dir) (enough : topo.mboardNames.length < fuel) (chan : Nat) :
    ReadsOut (ppChannel dev fuel dir chan) trace (topo.ppOut dir named chan) := by
  unfold Topology.ppOut
  split
  · exact ppChannel_readsTo steady hasDsps enough ‹_›
  · exact (accessors_readThenThrow (steady.imp fun _ sh => sh.toShows) enough
      (not_lt.mp ‹_›)).1.bind

end Entries

namespace Topology

variable (topo : Topology) (dir : Dir) (named : PropPath → String)

/-- Appending channel `chan`'s entry to `buff`, as the inner loop's body does. -/
def ppAppend (buff : String) (chan : Nat) : Except UhdError String :=
  topo.ppOut dir named chan >>= fun line => pure (buff ++ line)

/-- The inner loop on board `m`, from the counter and text `acc`: the channels up to
`(m + 1)*size(m)` appended in turn, and the counter it leaves. -/
def ppBoard (acc : Nat × String) (m : Nat) : Except UhdError (Nat × String) :=
  (List.range' acc.1 ((m + 1) * topo.chanCount dir m - acc.1)).foldlM (topo.ppAppend dir named)
    acc.2 >>= fun buff => pure (max acc.1 ((m + 1) * topo.chanCount dir m), buff)

/-- The boards `ms` in turn come to the channels `ppVisit` lists, appended in turn. -/
theorem foldlM_ppBoard (ms : List Nat) (chan : Nat) (buff : String) :
    ms.foldlM (topo.ppBoard dir named) (chan, buff) =
      (topo.ppVisit dir ms chan).1.foldlM (topo.ppAppend dir named) buff >>= fun buff =>
        pure ((topo.ppVisit dir ms chan).2, buff) := by
  induction ms generalizing chan buff with
  | nil => simp [ppVisit]
  | cons m ms ih => simp [ppVisit, ppBoard, ih, bind_assoc]

/-- Appending the channels `chans` in turn: every entry, in order, when all are channels;
otherwise the exception of the first that is not. -/
theorem foldlM_ppAppend (chans : List Nat) (buff : String) :
    chans.foldlM (topo.ppAppend dir named) buff =
      if ∀ chan ∈ chans, chan < topo.numChannels dir then
        .ok ((chans.map (topo.ppLine dir named)).foldl (· ++ ·) buff)
      else .error .outOfRange := by
  induction chans generalizing buff with
  | nil => rfl
  | cons chan chans ih =>
      by_cases inRange : chan < topo.numChannels dir
      · simp only [List.foldlM_cons, ppAppend, ppOut, if_pos inRange, List.forall_mem_cons,
          inRange, true_and, List.map_cons, List.foldl_cons]
        exact ih _
      · simp only [List.foldlM_cons, ppAppend, ppOut, if_neg inRange, List.forall_mem_cons,
          inRange, false_and, if_false]
        rfl

end Topology

section Sections

variable {dev : Device} {fuel : Nat} {topo : Topology} {dir : Dir} {named : PropPath → String}
  {trace : List Event}

/-- The inner loop on board `m` comes to `ppBoard`. -/
theorem ppBoardLoop_readsOut (steady : Always Event.IsGet (ShowsNames dev topo dir named) trace)
    (hasDsps : topo.HasDsps dir) (enough : topo.mboardNames.length < fuel) {m : Nat}
    (inside : m < topo.mboardNames.length) (enoughChans : (m + 1) * topo.chanCount dir m < fuel)
    (acc : Nat × String) :
    ReadsOut (forLoop (ppBound dev dir m) (fun chan buff => do
        pure (buff ++ (← ppChannel dev fuel dir chan))) fuel acc.1 acc.2) trace
      (topo.ppBoard dir named acc m) :=
  forLoop_readsOut (P := Always Event.IsGet (ShowsNames dev topo dir named))
    (fun chan buff => topo.ppAppend dir named buff chan) (fun _ _ holds gets => holds.extend gets)
    (fun _ holds => (getSubdevSpec_readsTo (holds.imp fun _ sh => sh.toShows) inside).bind
      fun _ _ => .pure _ _)
    (fun _ chan _ holds _ => (ppChannel_readsOut holds hasDsps enough chan).bind
      fun _ _ _ _ => ReadsTo.pure _ _)
    fuel acc.1 acc.2 trace steady (by omega)

/-- A channel section of `get_pp_string` lists the channels `ppChans` visits, in order,
when all of them are channels, and throws `std::out_of_range` otherwise. -/
theorem ppChannels_readsOut
    (steady : Always Event.IsGet (ShowsNames dev topo dir named) trace)
    (hasDsps : topo.HasDsps dir) (enough : topo.mboardNames.length < fuel)
    (enoughChans : ∀ m < topo.mboardNames.length, (m + 1) * topo.chanCount dir m < fuel)
    (buff : String) :
    ReadsOut (ppChannels dev fuel dir buff) trace
      (if ∀ chan ∈ topo.ppChans dir, chan < topo.numChannels dir then
        .ok (((topo.ppChans dir).map (topo.ppLine dir named)).foldl (· ++ ·) buff)
      else .error .outOfRange) := by
  have boards := forLoop_readsOut (P := Always Event.IsGet (ShowsNames dev topo dir named))
    (fun m acc => topo.ppBoard dir named acc m) (fun _ _ holds gets => holds.extend gets)
    (fun _ holds => getNumMboards_readsTo holds.now.names)
    (fun _ m acc holds inside => ppBoardLoop_readsOut holds hasDsps enough inside
      (enoughChans m inside) acc) fuel 0 (0, buff) trace steady (by omega)
  have outcome : ((List.range' 0 (topo.mboardNames.length - 0)).foldlM
      (fun acc m => topo.ppBoard dir named acc m) (0, buff) >>= fun acc =>
        pure (max 0 topo.mboardNames.length, acc)) >>= (fun r => pure r.2.2) =
      (topo.ppChans dir).foldlM (topo.ppAppend dir named) buff := by
    rw [Nat.sub_zero, ← List.range_eq_range', Topology.foldlM_ppBoard]
    simp [Topology.ppChans, bind_assoc]
  rw [← Topology.foldlM_ppAppend, ← outcome]
  exact boards.bind fun _ _ _ _ => ReadsTo.pure _ _

end Sections

/-- A device that never changes, for the RX side of a topology: the board names, the
device's and each board's name, each board's subdev specs and RX DSP names, and a name for
each RX DSP, daughterboard and subdevice node, the name its key gives it. -/
def namedTree (topo : Topology) : List (PropPath × WaxObj) :=
  (mboardNamesPath, .names topo.mboardNames) :: ([.plain (.device .name)], .string "usrp") ::
    (List.range topo.mboardNames.length).flatMap fun m =>
      let node : PropPath := [.named (.device .mboard) (topo.mboardNames.getD m "")]
      [(node ++ [.plain (.mboard .name)], .string (topo.mboardNames.getD m "")),
        (node ++ [.plain (.mboard .rxSubdevSpec)], .subdevSpec (topo.subdevSpec .rx m)),
        (node ++ [.plain (.mboard .txSubdevSpec)], .subdevSpec (topo.subdevSpec .tx m)),
        (node ++ [.plain (.mboard .rxDspNames)], .names (topo.dspNames .rx m))] ++
      (topo.dspNames .rx m).map (fun dspName =>
        (node ++ [.named (.mboard .rxDsp) dspName, .plain (.dsp .name)], .string dspName)) ++
      (topo.subdevSpec .rx m).flatMap fun pair =>
        [(node ++ [.named (.mboard .rxDboard) pair.dbName, .plain (.dboard .name)],
            .string pair.dbName),
          (node ++ [.named (.mboard .rxDboard) pair.dbName, .named (.dboard .subdev) pair.sdName,
            .plain (.subdev .name)], .string pair.sdName)]

/-- Two boards with RX specs of sizes 1 and 3, each listing as many RX DSPs. -/
def oneThree : Topology where
  mboardNames := ["A", "B"]
  subdevSpec
    | .rx, 0 => [⟨"A", "0"⟩]
    | .rx, 1 => [⟨"A", "0"⟩, ⟨"A", "1"⟩, ⟨"B", "0"⟩]
    | _, _ => []
  dspNames
    | .rx, 0 => ["0"]
    | .rx, 1 => ["0", "1", "2"]
    | _, _ => []

/-- The name the fixture device gives a node: its last key's name. -/
def leafName (node : PropPath) : String :=
  match node.getLast? with
  | some (.named _ name) => name
  | _ => ""

theorem always_ofTree_names {tree : List (PropPath × WaxObj)} {topo : Topology} {dir : Dir}
    {named : PropPath → String} {keeps : Event → Prop}
    (shows : ShowsNames (Device.ofTree tree) topo dir named []) (trace : List Event) :
    Always keeps (ShowsNames (Device.ofTree tree) topo dir named) trace :=
  fun _ _ => ⟨⟨⟨shows.names, shows.specs⟩, shows.dsps⟩, shows.dspName, shows.dboardName,
    shows.subdevName⟩

theorem oneThree_showsNames :
    ShowsNames (Device.ofTree (namedTree oneThree)) oneThree .rx leafName [] := by
  have boards : ∀ m < oneThree.mboardNames.length, m = 0 ∨ m = 1 := by
    intro m inside
    have : m < 2 := inside
    omega
  have chans : ∀ chan < oneThree.numChannels .rx, chan = 0 ∨ chan = 1 ∨ chan = 2 ∨ chan = 3 := by
    intro chan inRange
    have : chan < 4 := inRange
    omega
  refine ⟨⟨⟨rfl, fun m inside => ?_⟩, fun m inside => ?_⟩, fun chan inRange => ?_,
    fun chan inRange => ?_, fun chan inRange => ?_⟩
  all_goals first
    | rcases boards m inside with rfl | rfl <;> rfl
    | rcases chans chan inRange with rfl | rfl | rfl | rfl <;> rfl

/-- What a channel section of `get_pp_string` prints after `buff`, from `trace`. -/
structure PrintsChannels (dev : Device) (fuel : Nat) (topo : Topology) (dir : Dir)
    (named : PropPath → String) (trace : List Event) (buff : String) : Prop where
  /-- It reads only, and lists the channels the loops visit, in order, each with the names
  of the DSP, daughterboard and subdevice its accessors resolve, when all of them are
  channels; otherwise it throws `std::out_of_range`. -/
  visits : ReadsOut (ppChannels dev fuel dir buff) trace
    (if ∀ chan ∈ topo.ppChans dir, chan < topo.numChannels dir then
      .ok (((topo.ppChans dir).map (topo.ppLine dir named)).foldl (· ++ ·) buff)
    else .error .outOfRange)
  /-- When all boards have the same number of channels, it lists every channel once, in
  order. -/
  uniform : (∀ m < topo.mboardNames.length, topo.chanCount dir m = topo.chanCount dir 0) →
    ReadsTo (ppChannels dev fuel dir buff) trace
      (((List.range (topo.numChannels dir)).map (topo.ppLine dir named)).foldl (· ++ ·) buff)

/-- Over a device that keeps showing the topology, with each board listing a DSP for each
of its channels and a name at every channel's DSP, daughterboard and subdevice node, a
channel section of `get_pp_string` prints the channels `ppChans` visits: every channel
once, in order, exactly when the loops visit `0, …, N-1`, as they do when all boards have
the same number of channels. -/
theorem ppChannels_printsChannels {dev : Device} {fuel : Nat} {topo : Topology} {dir : Dir}
    {named : PropPath → String} {trace : List Event}
    (steady : Always Event.IsGet (ShowsNames dev topo dir named) trace)
    (hasDsps : topo.HasDsps dir) (enough : topo.mboardNames.length < fuel)
    (enoughChans : ∀ m < topo.mboardNames.length, (m + 1) * topo.chanCount dir m < fuel)
    (buff : String) : PrintsChannels dev fuel topo dir named trace buff := by
  have visits := ppChannels_readsOut steady hasDsps enough enoughChans buff
  refine ⟨visits, fun uniform => ?_⟩
  rw [Topology.ppChans_of_uniform uniform] at visits
  simpa only [List.mem_range, imp_self, implies_true, if_true] using visits

theorem ppChannels_printsChannels_oneThree :
    Always Event.IsGet (ShowsNames (Device.ofTree (namedTree oneThree)) oneThree .rx leafName) [] ∧
      oneThree.HasDsps .rx ∧ oneThree.mboardNames.length < 8 ∧
      (∀ m < oneThree.mboardNames.length, (m + 1) * oneThree.chanCount .rx m < 8) ∧
      PrintsChannels (Device.ofTree (namedTree oneThree)) 8 oneThree .rx leafName [] "" := by
  have steady : Always Event.IsGet
      (ShowsNames (Device.ofTree (namedTree oneThree)) oneThree .rx leafName) [] :=
    always_ofTree_names oneThree_showsNames []
  have hasDsps : oneThree.HasDsps .rx := by
    unfold Topology.HasDsps
    decide
  have enoughChans : ∀ m < oneThree.mboardNames.length, (m + 1) * oneThree.chanCount .rx m < 8 := by
    decide
  exact ⟨steady, hasDsps, by decide, enoughChans,
    ppChannels_printsChannels steady hasDsps (by decide) enoughChans ""⟩

example : oneThree.ppChans .rx = [0, 1, 2, 3, 4, 5] := by decide

/-- On boards with RX specs of sizes 1 and 3, whose four RX channels each resolve to a
named DSP, daughterboard and subdevice, the RX loop of `get_pp_string` runs its counter up
to `(1 + 1)*3 = 6`: channel 4 is past the last one, `_rx_dsp(4)` asks `_mboard(2)` for a
third board, and `get_pp_string` throws `std::out_of_range`. -/
theorem getPpString_throws_on_sizes_one_three :
    oneThree.numChannels .rx = 4 ∧
      (∀ chan < 4, ∃ entry trace,
        ppChannel (Device.ofTree (namedTree oneThree)) 8 .rx chan [] = .ok entry trace) ∧
      ∃ trace, getPpString (Device.ofTree (namedTree oneThree)) 8 [] = .error .outOfRange trace := by
  refine ⟨rfl, fun chan lt => ?_, _, rfl⟩
  rcases chan with _ | _ | _ | _ | chan
  · exact ⟨_, _, rfl⟩
  · exact ⟨_, _, rfl⟩
  · exact ⟨_, _, rfl⟩
  · exact ⟨_, _, rfl⟩
  · omega

end UhdHost
