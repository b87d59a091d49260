import UhdHost.ChannelResolver

/-!
# Indices past the last channel or board

No method of the facade checks its channel or board index.  An index past the last
channel resolves past the last board (`Topology.resolve_of_ge`), and every channel
accessor then asks `_mboard` for that board, or for its subdev spec, so the board-name
lookup `names.at(n)` throws `std::out_of_range`.  Everything before it is a read: no
method writes anything before it fails.  A board index past the last board fails the same
way in the board methods.

`ChanOp` and `BoardOp` list the channel-indexed and the board-indexed methods, with their
other arguments, and `ChanOp.run` and `BoardOp.run` run them with the result dropped.
-/

namespace UhdHost

/-- A method run for its effects and its exceptions, its result dropped. -/
def dropResult {α : Type} (prog : UsrpM α) : UsrpM Unit := prog >>= fun _ => pure ()

/-- The channel-indexed methods of side `dir`, with their arguments other than the channel;
`issue_stream_cmd` is on the RX side only. -/
inductive ChanOp : Dir → Type where
  | getRate {dir : Dir} : ChanOp dir
  | setRate {dir : Dir} (rate : Float) : ChanOp dir
  | getFreq {dir : Dir} : ChanOp dir
  | setFreq {dir : Dir} (tuneRequest : TuneRequest) : ChanOp dir
  | getFreqRange {dir : Dir} : ChanOp dir
  | setGain {dir : Dir} (gain : Float) (name : String) : ChanOp dir
  | getGain {dir : Dir} (name : String) : ChanOp dir
  | getGainRange {dir : Dir} (name : String) : ChanOp dir
  | getGainNames {dir : Dir} : ChanOp dir
  | setAntenna {dir : Dir} (ant : String) : ChanOp dir
  | getAntenna {dir : Dir} : ChanOp dir
  | getAntennas {dir : Dir} : ChanOp dir
  | setBandwidth {dir : Dir} (bandwidth : Float) : ChanOp dir
  | getBandwidth {dir : Dir} : ChanOp dir
  | getSensor {dir : Dir} (name : String) : ChanOp dir
  | getSensorNames {dir : Dir} : ChanOp dir
  | getSubdevName {dir : Dir} : ChanOp dir
  | getDboardIface {dir : Dir} : ChanOp dir
  | issueStreamCmd (streamCmd : Blob) : ChanOp .rx

/-- The board-indexed methods, with their arguments other than the board. -/
inductive BoardOp where
  | setMasterClockRate (rate : Float)
  | getMasterClockRate
  | getMboardName
  | getTimeNow
  | getTimeLastPps
  | setTimeNow (timeSpec : TimeSpec)
  | setClockConfig (clockConfig : Blob)
  | getMboardSensor (name : String)
  | getMboardSensorNames
  | getMboardIface
  | setSubdevSpec (dir : Dir) (spec : SubdevSpec)
  | getSubdevSpec (dir : Dir)

section Ops

variable (dev : Device) (fuel : Nat) (collab : Collaborators)

/-- The method `op` on channel `chan`. -/
def ChanOp.run {dir : Dir} : ChanOp dir → Nat → UsrpM Unit
  | .getRate, chan => dropResult (UhdHost.getRate dev fuel dir chan)
  | .setRate rate, chan => UhdHost.setRate dev fuel dir rate chan
  | .getFreq, chan => dropResult (UhdHost.getFreq dev fuel collab dir chan)
  | .setFreq tuneRequest, chan => dropResult (UhdHost.setFreq dev fuel collab dir tuneRequest chan)
  | .getFreqRange, chan => dropResult (UhdHost.getFreqRange dev fuel dir chan)
  | .setGain gain name, chan => UhdHost.setGain dev fuel collab dir gain name chan
  | .getGain name, chan => dropResult (UhdHost.getGain dev fuel collab dir name chan)
  | .getGainRange name, chan => dropResult (UhdHost.getGainRange dev fuel collab dir name chan)
  | .getGainNames, chan => dropResult (UhdHost.getGainNames dev fuel collab dir chan)
  | .setAntenna ant, chan => UhdHost.setAntenna dev fuel dir ant chan
  | .getAntenna, chan => dropResult (UhdHost.getAntenna dev fuel dir chan)
  | .getAntennas, chan => dropResult (UhdHost.getAntennas dev fuel dir chan)
  | .setBandwidth bandwidth, chan => UhdHost.setBandwidth dev fuel dir bandwidth chan
  | .getBandwidth, chan => dropResult (UhdHost.getBandwidth dev fuel dir chan)
  | .getSensor name, chan => dropResult (UhdHost.getSensor dev fuel dir name chan)
  | .getSensorNames, chan => dropResult (UhdHost.getSensorNames dev fuel dir chan)
  | .getSubdevName, chan => dropResult (UhdHost.getSubdevName dev fuel dir chan)
  | .getDboardIface, chan => dropResult (UhdHost.getDboardIface dev fuel dir chan)
  | .issueStreamCmd streamCmd, chan => UhdHost.issueStreamCmd dev fuel streamCmd chan

/-- The method `op` on board `mboard`. -/
def BoardOp.run : BoardOp → Nat → UsrpM Unit
  | .setMasterClockRate rate, mboard => UhdHost.setMasterClockRate dev fuel rate mboard
  | .getMasterClockRate, mboard => dropResult (UhdHost.getMasterClockRate dev mboard)
  | .getMboardName, mboard => dropResult (UhdHost.getMboardName dev mboard)
  | .getTimeNow, mboard => dropResult (UhdHost.getTimeNow dev mboard)
  | .getTimeLastPps, mboard => dropResult (UhdHost.getTimeLastPps dev mboard)
  | .setTimeNow timeSpec, mboard => UhdHost.setTimeNow dev fuel timeSpec mboard
  | .setClockConfig clockConfig, mboard => UhdHost.setClockConfig dev fuel clockConfig mboard
  | .getMboardSensor name, mboard => dropResult (UhdHost.getMboardSensor dev name mboard)
  | .getMboardSensorNames, mboard => dropResult (UhdHost.getMboardSensorNames dev mboard)
  | .getMboardIface, mboard => dropResult (UhdHost.getMboardIface dev mboard)
  | .setSubdevSpec dir spec, mboard => UhdHost.setSubdevSpec dev fuel dir spec mboard
  | .getSubdevSpec dir, mboard => dropResult (UhdHost.getSubdevSpec dev dir mboard)

end Ops

section Throws

variable {dev : Device} {fuel : Nat} {topo : Topology} {dir : Dir} {trace : List Event}

/-- Each channel accessor, given an index past the last channel, fails at `_mboard(n)`. -/
theorem accessors_readThenThrow (steady : Always Event.IsGet (Shows dev topo dir) trace)
    (enough : topo.mboardNames.length < fuel) {chan : Nat}
    (pastEnd : topo.numChannels dir ≤ chan) :
    ReadsThenThrows (dsp dev fuel dir chan) trace .outOfRange ∧
      ReadsThenThrows (dboard dev fuel dir chan) trace .outOfRange ∧
      ReadsThenThrows (subdev dev fuel dir chan) trace .outOfRange ∧
      ReadsThenThrows (gainGroup dev fuel dir chan) trace .outOfRange := by
  have resolves : ReadsTo (chanToMcp dev fuel dir chan) trace
      ⟨topo.mboardNames.length, chan - topo.numChannels dir⟩ := by
    simpa only [Topology.resolve_of_ge pastEnd] using chanToMcp_readsTo steady enough chan
  have specThrows : ∀ ext, AllGets ext → ReadsThenThrows
      (getSubdevSpec dev dir topo.mboardNames.length) (trace ++ ext) .outOfRange :=
    fun _ reads => getSubdevSpec_readsThenThrows (steady.extend reads).now le_rfl
  exact ⟨resolves.bind_throws fun _ reads =>
      (mboardNode_readsThenThrows (steady.extend reads).now.names le_rfl).bind,
    resolves.bind_throws fun ext reads => (specThrows ext reads).bind,
    resolves.bind_throws fun ext reads => (specThrows ext reads).bind,
    resolves.bind_throws fun ext reads => (specThrows ext reads).bind⟩

/-- Every channel-indexed method given an index past the last channel, and every
board-indexed method given an index past the last board, throws `std::out_of_range` after
reading only. -/
theorem indexed_methods_throw_outOfRange (steady : Always Event.IsGet (Shows dev topo dir) trace)
    (enough : topo.mboardNames.length < fuel) (collab : Collaborators) :
    (∀ (op : ChanOp dir) (chan : Nat), topo.numChannels dir ≤ chan → chan ≠ allChans →
      ReadsThenThrows (op.run dev fuel collab chan) trace .outOfRange) ∧
    (∀ (op : BoardOp) (mboard : Nat), topo.mboardNames.length ≤ mboard → mboard ≠ allMboards →
      ReadsThenThrows (op.run dev fuel mboard) trace .outOfRange) := by
  constructor
  · intro op chan pastEnd notAll
    obtain ⟨dspThrows, dboardThrows, subdevThrows, gainGroupThrows⟩ :=
      accessors_readThenThrow steady enough pastEnd
    cases op with
    | getRate => exact dspThrows.bind.bind
    | setRate => simp only [ChanOp.run, setRate, if_pos notAll]; exact dspThrows.bind
    | issueStreamCmd =>
        simp only [ChanOp.run, issueStreamCmd, if_pos notAll]; exact dspThrows.bind
    | getDboardIface => exact dboardThrows.bind.bind
    | setGain => exact gainGroupThrows.bind
    | getGain | getGainRange | getGainNames => exact gainGroupThrows.bind.bind
    | setAntenna | setBandwidth => exact subdevThrows.bind
    | getFreq | setFreq | getFreqRange | getAntenna | getAntennas | getBandwidth | getSensor
      | getSensorNames | getSubdevName => exact subdevThrows.bind.bind
  · intro op mboard pastEnd notAll
    have nodeThrows := mboardNode_readsThenThrows steady.now.names pastEnd
    cases op with
    | setMasterClockRate | setTimeNow | setClockConfig | setSubdevSpec =>
        simp only [BoardOp.run, setMasterClockRate, setTimeNow, setClockConfig, setSubdevSpec,
          setMboardProp, if_pos notAll]
        exact nodeThrows.bind
    | getMasterClockRate | getMboardName | getTimeNow | getTimeLastPps | getMboardSensor
      | getMboardSensorNames | getMboardIface | getSubdevSpec => exact nodeThrows.bind.bind

/-- Collaborators that answer every call without touching the device. -/
def idleCollaborators : Collaborators where
  tuneSubdevAndDsp _ _ _ _ := pure ⟨0⟩
  deriveFreqFromSubdevAndDsp _ _ _ := pure 0
  setValue _ _ _ := pure ()
  getValue _ _ := pure 0
  getRange _ _ := pure ⟨0⟩
  getNames _ := pure []

theorem indexed_methods_throw_outOfRange_threeBoards :
    Always Event.IsGet (Shows (Device.ofTree threeBoardsTree) threeBoards .rx) [] ∧
      threeBoards.mboardNames.length < 4 ∧
      ((∀ (op : ChanOp .rx) (chan : Nat), threeBoards.numChannels .rx ≤ chan → chan ≠ allChans →
        ReadsThenThrows (op.run (Device.ofTree threeBoardsTree) 4 idleCollaborators chan) []
          .outOfRange) ∧
      (∀ (op : BoardOp) (mboard : Nat), threeBoards.mboardNames.length ≤ mboard →
        mboard ≠ allMboards →
        ReadsThenThrows (op.run (Device.ofTree threeBoardsTree) 4 mboard) [] .outOfRange)) :=
  ⟨always_ofTree threeBoards_shows [], by decide,
    indexed_methods_throw_outOfRange (always_ofTree threeBoards_shows []) (by decide)
      idleCollaborators⟩

end Throws

end UhdHost
