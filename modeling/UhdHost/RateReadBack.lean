import UhdHost.FanOut

/-!
# The read-back of the rate setters

`set_rx_rate` and `set_tx_rate`, on one channel, write the host rate of the channel's DSP,
read it back, and print a warning when what they read is more than 1 Sps off the request:
the limited resolution of the hardware is no failure.  Over a device that shows the
channel's DSP and takes the rate, the call ends normally after exactly one write, with the
read-back as its last read and, exactly when the rate is off, the warning right after it.
-/

namespace UhdHost

/-- The host-rate property of channel `chan`'s DSP. -/
def Topology.hostRatePath (topo : Topology) (dir : Dir) (chan : Nat) : PropPath :=
  topo.dspNode dir (topo.resolve dir chan) ++ [.plain (.dsp .hostRate)]

/-- After `trace`, the device takes a write of `rate` to `path`, and reads back some rate
there. -/
def TakesRate (dev : Device) (path : PropPath) (rate : Float) (trace : List Event) : Prop :=
  dev.set trace path (.double rate) = .ok () ∧
    ∃ actual, dev.get trace path = .ok (.double actual)

/-- What `do_samp_rate_warning_message` prints: one warning, when the rate read back is more
than 1 Sps off the request. -/
def sampRateWarnings (dir : Dir) (rate actual : Float) : List Event :=
  if (rate - actual).abs > 1.0 then [.warning (.sampRate dir.label rate actual)] else []

theorem doSampRateWarningMessage_run (rate actual : Float) (dir : Dir) (trace : List Event) :
    doSampRateWarningMessage rate actual dir.label trace =
      .ok () (trace ++ sampRateWarnings dir rate actual) := by
  unfold doSampRateWarningMessage sampRateWarnings
  split <;> simp [record]

theorem setProp_run {dev : Device} {trace : List Event} {path : PropPath} {val : WaxObj}
    (taken : dev.set trace path val = .ok ()) :
    setProp dev path val trace = .ok () (trace ++ [.set path val]) := by
  simp [setProp, taken]

/-- `set_rx_rate` (or `set_tx_rate`) on channel `chan` ends normally from `trace`: it reads,
writes the rate, reads again, reads the rate back last, and warns right after exactly when
the read-back is more than 1 Sps off. -/
def ReadsBackRate (dev : Device) (fuel : Nat) (topo : Topology) (dir : Dir) (rate : Float)
    (chan : Nat) (trace : List Event) : Prop :=
  ∃ reads reads' actual, AllGets reads ∧ AllGets reads' ∧
    setRate dev fuel dir rate chan trace =
      .ok () (trace ++ reads ++ .set (topo.hostRatePath dir chan) (.double rate) :: reads' ++
        .get (topo.hostRatePath dir chan) (.double actual) :: sampRateWarnings dir rate actual)

/-- Over a device that keeps showing the channel's DSP and takes the rate, `set_rx_rate` (or
`set_tx_rate`) on a channel in range ends normally, and warns exactly when the rate it reads
back is more than 1 Sps off the request. -/
theorem setRate_readsBack {dev : Device} {fuel : Nat} {topo : Topology} {dir : Dir}
    {trace : List Event} {rate : Float} {chan : Nat}
    (steady : Always Event.SparesTopology (ShowsDsps dev topo dir) trace)
    (takes : Always Event.SparesTopology (TakesRate dev (topo.hostRatePath dir chan) rate) trace)
    (enough : topo.mboardNames.length < fuel) (inRange : chan < topo.numChannels dir)
    (notAll : chan ≠ allChans)
    (hasDsp : (topo.resolve dir chan).chan <
      (topo.dspNames dir (topo.resolve dir chan).mboard).length) :
    ReadsBackRate dev fuel topo dir rate chan trace := by
  have getsKept : ∀ e : Event, e.IsGet → e.SparesTopology := fun _ get =>
    Event.sparesTopology_of_isGet get
  obtain ⟨reads, gets, ranDsp⟩ := dsp_readsTo (steady.mono getsKept) enough inRange hasDsp
  have written : ∀ e ∈ reads ++ [.set (topo.hostRatePath dir chan) (.double rate)],
      e.SparesTopology := by
    simp only [List.mem_append, List.mem_singleton]
    rintro e (mem | rfl)
    exacts [getsKept e (gets e mem), ⟨.hostRate, List.getLast?_concat _⟩]
  obtain ⟨reads', gets', ranDsp'⟩ :=
    dsp_readsTo ((steady.extend written).mono getsKept) enough inRange hasDsp
  obtain ⟨-, actual, answers⟩ :=
    ((takes.extend written).extend fun e mem => getsKept e (gets' e mem)).now
  have path : topo.dspNode dir (topo.resolve dir chan) ++ [.plain (.dsp .hostRate)] =
      topo.hostRatePath dir chan := rfl
  have ranSet : setProp dev (topo.hostRatePath dir chan) (.double rate) (trace ++ reads) =
      .ok () (trace ++ (reads ++ [.set (topo.hostRatePath dir chan) (.double rate)])) := by
    rw [setProp_run ((takes.extend fun e mem => getsKept e (gets e mem)).now.1),
      List.append_assoc]
  have ranGet : getRate dev fuel dir chan
      (trace ++ (reads ++ [.set (topo.hostRatePath dir chan) (.double rate)])) =
      .ok actual (trace ++ (reads ++ [.set (topo.hostRatePath dir chan) (.double rate)]) ++
        reads' ++ [.get (topo.hostRatePath dir chan) (.double actual)]) := by
    rw [getRate, run_bind_of_ok ranDsp', path, getAs_run answers rfl]
  refine ⟨reads, reads', actual, gets, gets', ?_⟩
  rw [setRate, if_pos notAll, setRateChan, run_bind_of_ok ranDsp, path, run_bind_of_ok ranSet,
    run_bind_of_ok ranGet, doSampRateWarningMessage_run]
  simp

/-- `threeBoards`, whose first RX DSP reads back a host rate of 1 MSps. -/
def rateTree : List (PropPath × WaxObj) :=
  threeBoardsTree ++ [(threeBoards.hostRatePath .rx 0, .double 1000000)]

theorem setRate_readsBack_threeBoards :
    Always Event.SparesTopology (ShowsDsps (Device.ofTree rateTree) threeBoards .rx) [] ∧
      Always Event.SparesTopology
        (TakesRate (Device.ofTree rateTree) (threeBoards.hostRatePath .rx 0) 1000005) [] ∧
      threeBoards.mboardNames.length < 4 ∧ 0 < threeBoards.numChannels .rx ∧ 0 ≠ allChans ∧
      (threeBoards.resolve .rx 0).chan <
        (threeBoards.dspNames .rx (threeBoards.resolve .rx 0).mboard).length ∧
      ReadsBackRate (Device.ofTree rateTree) 4 threeBoards .rx 1000005 0 [] := by
  have shows : ShowsDsps (Device.ofTree rateTree) threeBoards .rx [] := by
    refine ⟨⟨rfl, fun m inside => ?_⟩, fun m inside => ?_⟩ <;>
    · have : m < 3 := inside
      rcases m with _ | _ | _ | m
      · rfl
      · rfl
      · rfl
      · omega
  have steady : Always Event.SparesTopology
      (ShowsDsps (Device.ofTree rateTree) threeBoards .rx) [] := always_ofTree_dsps shows []
  have takes : Always Event.SparesTopology
      (TakesRate (Device.ofTree rateTree) (threeBoards.hostRatePath .rx 0) 1000005) [] :=
    fun _ _ => ⟨rfl, _, rfl⟩
  exact ⟨steady, takes, by decide, by decide, by decide, by decide,
    setRate_readsBack steady takes (by decide) (by decide) (by decide) (by decide)⟩

end UhdHost
