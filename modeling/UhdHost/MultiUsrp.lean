import UhdHost.PropertyTree

/-!
# The multi-board facade

`multi_usrp_impl` keeps no hardware state: each call builds the path of the board, DSP,
daughterboard or subdevice it concerns from the live board list and subdevice specs, and
reads or writes there.  A flat channel index is first resolved to a board and a channel on
it by walking the boards' specs in order.  Every loop re-reads its bound before each test,
as the C++ `for` does, and `fuel` bounds the tests of each loop.

The RX and TX methods are one piece of code over the keys of their side (`Dir`); each source
method is that code applied to its side.  The tuning helpers and the gain groups the facade
calls are outside the sources and come in as `Collaborators`.
-/

namespace UhdHost

/-- The side of a channel. -/
inductive Dir where
  | rx
  | tx
deriving DecidableEq, Repr

namespace Dir

def subdevSpecProp : Dir → MboardProp
  | .rx => .rxSubdevSpec
  | .tx => .txSubdevSpec

def dspNamesProp : Dir → MboardProp
  | .rx => .rxDspNames
  | .tx => .txDspNames

def dspProp : Dir → MboardProp
  | .rx => .rxDsp
  | .tx => .txDsp

def dboardProp : Dir → MboardProp
  | .rx => .rxDboard
  | .tx => .txDboard

/-- The side as the warnings and `get_pp_string` print it. -/
def label : Dir → String
  | .rx => "RX"
  | .tx => "TX"

end Dir

/-- Modelled from the spec: `multi_usrp::ALL_MBOARDS`, declared in multi_usrp.hpp (not among
the sources) as `size_t(~0)`; the spec calls it the sentinel for all boards. -/
def allMboards : Nat := 2 ^ 64 - 1

/-- Modelled from the spec: `multi_usrp::ALL_CHANS`, `size_t(~0)`, the sentinel for all
channels. -/
def allChans : Nat := 2 ^ 64 - 1

/-- `mboard_chan_pair` -/
structure MboardChanPair where
  mboard : Nat
  chan : Nat
deriving DecidableEq, Repr

/-- The tuning helpers (`tune_rx_subdev_and_dsp`, `derive_freq_from_rx_subdev_and_dsp` and
their TX twins) and the `gain_group` methods, given the subdevice and DSP nodes or the gain
group read from the tree. -/
structure Collaborators where
  tuneSubdevAndDsp : Dir → PropPath → PropPath → TuneRequest → UsrpM Blob
  deriveFreqFromSubdevAndDsp : Dir → PropPath → PropPath → UsrpM Float
  setValue : Blob → Float → String → UsrpM Unit
  getValue : Blob → String → UsrpM Float
  getRange : Blob → String → UsrpM Blob
  getNames : Blob → UsrpM (List String)

/-- The path of `DEVICE_PROP_MBOARD_NAMES`. -/
def mboardNamesPath : PropPath := [.plain (.device .mboardNames)]

/-- The path of property `prop` of the board named `mbName`. -/
def mboardPropPath (mbName : String) (prop : MboardProp) : PropPath :=
  [.named (.device .mboard) mbName, .plain (.mboard prop)]

section Facade

variable (dev : Device) (fuel : Nat)

/-- `get_num_mboards` -/
def getNumMboards : UsrpM Nat := do
  let names ← getAs dev (List String) mboardNamesPath
  pure names.length

/-- `_mboard`: the node of the board at index `mboard` of the board-name list. -/
def mboardNode (mboard : Nat) : UsrpM PropPath := do
  let names ← getAs dev (List String) mboardNamesPath
  let mbName ← vectorAt names mboard
  pure [.named (.device .mboard) mbName]

/-- `get_rx_subdev_spec` and `get_tx_subdev_spec` -/
def getSubdevSpec (dir : Dir) (mboard : Nat) : UsrpM SubdevSpec := do
  let node ← mboardNode dev mboard
  getAs dev SubdevSpec (node ++ [.plain (.mboard dir.subdevSpecProp)])

/-- `get_rx_num_channels` and `get_tx_num_channels` -/
def getNumChannels (dir : Dir) : UsrpM Nat := do
  let (_, sum) ← forLoop (getNumMboards dev)
    (fun m sum => do
      let spec ← getSubdevSpec dev dir m
      pure (sum + spec.length)) fuel 0 0
  pure sum

/-- The loop of `rx_chan_to_mcp` and `tx_chan_to_mcp`, from board `mcp.mboard` on: stop at
the first board whose spec is longer than the remaining index, else subtract its size. -/
def chanToMcpLoop (dir : Dir) : Nat → MboardChanPair → UsrpM MboardChanPair
  | 0, _ => throw .fuelExhausted
  | fuel + 1, mcp => do
      if mcp.mboard < (← getNumMboards dev) then
        let sss := (← getSubdevSpec dev dir mcp.mboard).length
        if mcp.chan < sss then pure mcp
        else chanToMcpLoop dir fuel ⟨mcp.mboard + 1, mcp.chan - sss⟩
      else pure mcp

/-- `rx_chan_to_mcp` and `tx_chan_to_mcp` -/
def chanToMcp (dir : Dir) (chan : Nat) : UsrpM MboardChanPair :=
  chanToMcpLoop dev dir fuel ⟨0, chan⟩

/-- `_rx_dsp` and `_tx_dsp` -/
def dsp (dir : Dir) (chan : Nat) : UsrpM PropPath := do
  let mcp ← chanToMcp dev fuel dir chan
  let node ← mboardNode dev mcp.mboard
  let dspNames ← getAs dev (List String) (node ++ [.plain (.mboard dir.dspNamesProp)])
  let node ← mboardNode dev mcp.mboard
  let dspName ← vectorAt dspNames mcp.chan
  pure (node ++ [.named (.mboard dir.dspProp) dspName])

/-- `_rx_dboard` and `_tx_dboard` -/
def dboard (dir : Dir) (chan : Nat) : UsrpM PropPath := do
  let mcp ← chanToMcp dev fuel dir chan
  let spec ← getSubdevSpec dev dir mcp.mboard
  let pair ← vectorAt spec mcp.chan
  let node ← mboardNode dev mcp.mboard
  pure (node ++ [.named (.mboard dir.dboardProp) pair.dbName])

/-- `_rx_subdev` and `_tx_subdev`: the spec is read again inside `dboard`. -/
def subdev (dir : Dir) (chan : Nat) : UsrpM PropPath := do
  let mcp ← chanToMcp dev fuel dir chan
  let spec ← getSubdevSpec dev dir mcp.mboard
  let pair ← vectorAt spec mcp.chan
  let node ← dboard dev fuel dir chan
  pure (node ++ [.named (.dboard .subdev) pair.sdName])

/-- `_rx_gain_group` and `_tx_gain_group` -/
def gainGroup (dir : Dir) (chan : Nat) : UsrpM Blob := do
  let mcp ← chanToMcp dev fuel dir chan
  let spec ← getSubdevSpec dev dir mcp.mboard
  let pair ← vectorAt spec mcp.chan
  let node ← dboard dev fuel dir chan
  getBlob dev .gainGroup (node ++ [.named (.dboard .gainGroup) pair.sdName])

/-- `_rx_dsp` -/
def rxDsp := dsp dev fuel .rx
/-- `_tx_dsp` -/
def txDsp := dsp dev fuel .tx
/-- `_rx_dboard` -/
def rxDboard := dboard dev fuel .rx
/-- `_tx_dboard` -/
def txDboard := dboard dev fuel .tx
/-- `_rx_subdev` -/
def rxSubdev := subdev dev fuel .rx
/-- `_tx_subdev` -/
def txSubdev := subdev dev fuel .tx
/-- `_rx_gain_group` -/
def rxGainGroup := gainGroup dev fuel .rx
/-- `_tx_gain_group` -/
def txGainGroup := gainGroup dev fuel .tx
/-- `rx_chan_to_mcp` -/
def rxChanToMcp := chanToMcp dev fuel .rx
/-- `tx_chan_to_mcp` -/
def txChanToMcp := chanToMcp dev fuel .tx
/-- `get_rx_subdev_spec` -/
def getRxSubdevSpec := getSubdevSpec dev .rx
/-- `get_tx_subdev_spec` -/
def getTxSubdevSpec := getSubdevSpec dev .tx
/-- `get_rx_num_channels` -/
def getRxNumChannels := getNumChannels dev fuel .rx
/-- `get_tx_num_channels` -/
def getTxNumChannels := getNumChannels dev fuel .tx

/-- A setter given `ALL_MBOARDS`: the call for each board in turn.  The index stays below
the board count, a `size_t`, so it is never the sentinel: each recursive call takes the
single-board branch, which `call` is. -/
def forEachMboard (call : Nat → UsrpM Unit) : UsrpM Unit := do
  let _ ← forLoop (getNumMboards dev) (fun m _ => call m) fuel 0 ()

/-- A setter given `ALL_CHANS`: the call for each channel of the side in turn, the channel
count read again before each test. -/
def forEachChan (dir : Dir) (call : Nat → UsrpM Unit) : UsrpM Unit := do
  let _ ← forLoop (getNumChannels dev fuel dir) (fun c _ => call c) fuel 0 ()

/-- `_mboard(mboard)[prop] = val` -/
def mboardSet (prop : MboardProp) (val : WaxObj) (mboard : Nat) : UsrpM Unit := do
  let node ← mboardNode dev mboard
  setProp dev (node ++ [.plain (.mboard prop)]) val

/-- The board setters: one board, or every board for `ALL_MBOARDS`. -/
def setMboardProp (prop : MboardProp) (val : WaxObj) (mboard : Nat) : UsrpM Unit :=
  if mboard ≠ allMboards then mboardSet dev prop val mboard
  else forEachMboard dev fuel (mboardSet dev prop val)

/-- `_mboard(mboard)[prop].as<T>()` -/
def mboardGet (α : Type) [WaxType α] (prop : MboardProp) (mboard : Nat) : UsrpM α := do
  let node ← mboardNode dev mboard
  getAs dev α (node ++ [.plain (.mboard prop)])

/-- `set_master_clock_rate` -/
def setMasterClockRate (rate : Float) (mboard : Nat) : UsrpM Unit :=
  setMboardProp dev fuel .clockRate (.double rate) mboard

/-- `get_master_clock_rate` -/
def getMasterClockRate (mboard : Nat) : UsrpM Float := mboardGet dev Float .clockRate mboard

/-- `get_mboard_name` -/
def getMboardName (mboard : Nat) : UsrpM String := mboardGet dev String .name mboard

/-- `get_time_now` -/
def getTimeNow (mboard : Nat) : UsrpM TimeSpec := mboardGet dev TimeSpec .timeNow mboard

/-- `get_time_last_pps` -/
def getTimeLastPps (mboard : Nat) : UsrpM TimeSpec := mboardGet dev TimeSpec .timePps mboard

/-- `set_time_now` -/
def setTimeNow (timeSpec : TimeSpec) (mboard : Nat) : UsrpM Unit :=
  setMboardProp dev fuel .timeNow (.timeSpec timeSpec) mboard

/-- `set_time_next_pps`: the next-PPS time of every board. -/
def setTimeNextPps (timeSpec : TimeSpec) : UsrpM Unit :=
  forEachMboard dev fuel (mboardSet dev .timePps (.timeSpec timeSpec))

/-- `set_clock_config` -/
def setClockConfig (clockConfig : Blob) (mboard : Nat) : UsrpM Unit :=
  setMboardProp dev fuel .clockConfig (.blob .clockConfig clockConfig) mboard

/-- `get_mboard_sensor` -/
def getMboardSensor (name : String) (mboard : Nat) : UsrpM Blob := do
  let node ← mboardNode dev mboard
  getBlob dev .sensorValue (node ++ [.named (.mboard .sensor) name])

/-- `get_mboard_sensor_names` -/
def getMboardSensorNames (mboard : Nat) : UsrpM (List String) :=
  mboardGet dev (List String) .sensorNames mboard

/-- `get_mboard_iface` -/
def getMboardIface (mboard : Nat) : UsrpM Blob := do
  let node ← mboardNode dev mboard
  getBlob dev .mboardIface (node ++ [.plain (.mboard .iface)])

/-- `set_rx_subdev_spec` and `set_tx_subdev_spec` -/
def setSubdevSpec (dir : Dir) (spec : SubdevSpec) (mboard : Nat) : UsrpM Unit :=
  setMboardProp dev fuel dir.subdevSpecProp (.subdevSpec spec) mboard

/-- `add_dsp_shift`: a range widened by half the DSP's codec rate at each end. -/
def addDspShift (range : FreqRange) (dspNode : PropPath) : UsrpM FreqRange := do
  let codecRate ← getAs dev Float (dspNode ++ [.plain (.dsp .codecRate)])
  pure ⟨range.start - codecRate / 2.0, range.stop + codecRate / 2.0⟩

/-- `do_samp_rate_warning_message`: a warning when the rate is off by more than 1 Sps. -/
def doSampRateWarningMessage (targetRate actualRate : Float) (xx : String) : UsrpM Unit :=
  if (targetRate - actualRate).abs > 1.0 then record (.warning (.sampRate xx targetRate actualRate))
  else pure ()

/-- `do_tune_freq_warning_message`: a warning when the frequency is off by more than 1 Hz. -/
def doTuneFreqWarningMessage (targetFreq actualFreq : Float) (xx : String) : UsrpM Unit :=
  if (targetFreq - actualFreq).abs > 1.0 then record (.warning (.tuneFreq xx targetFreq actualFreq))
  else pure ()

section Channels

variable (collab : Collaborators) (dir : Dir)

/-- `get_rx_subdev_name` and `get_tx_subdev_name` -/
def getSubdevName (chan : Nat) : UsrpM String := do
  getAs dev String ((← subdev dev fuel dir chan) ++ [.plain (.subdev .name)])

/-- `get_rx_rate` and `get_tx_rate` -/
def getRate (chan : Nat) : UsrpM Float := do
  getAs dev Float ((← dsp dev fuel dir chan) ++ [.plain (.dsp .hostRate)])

/-- The single-channel branch of `set_rx_rate` and `set_tx_rate`: write the host rate,
read it back, and warn if it is off. -/
def setRateChan (rate : Float) (chan : Nat) : UsrpM Unit := do
  setProp dev ((← dsp dev fuel dir chan) ++ [.plain (.dsp .hostRate)]) (.double rate)
  doSampRateWarningMessage rate (← getRate dev fuel dir chan) dir.label

/-- `set_rx_rate` and `set_tx_rate` -/
def setRate (rate : Float) (chan : Nat) : UsrpM Unit :=
  if chan ≠ allChans then setRateChan dev fuel dir rate chan
  else forEachChan dev fuel dir (setRateChan dev fuel dir rate)

/-- `get_rx_freq` and `get_tx_freq` -/
def getFreq (chan : Nat) : UsrpM Float := do
  let subdevNode ← subdev dev fuel dir chan
  let dspNode ← dsp dev fuel dir chan
  collab.deriveFreqFromSubdevAndDsp dir subdevNode dspNode

/-- `set_rx_freq` and `set_tx_freq` -/
def setFreq (tuneRequest : TuneRequest) (chan : Nat) : UsrpM Blob := do
  let subdevNode ← subdev dev fuel dir chan
  let dspNode ← dsp dev fuel dir chan
  let result ← collab.tuneSubdevAndDsp dir subdevNode dspNode tuneRequest
  doTuneFreqWarningMessage tuneRequest.targetFreq (← getFreq dev fuel collab dir chan) dir.label
  pure result

/-- `get_rx_freq_range` and `get_tx_freq_range` -/
def getFreqRange (chan : Nat) : UsrpM FreqRange := do
  let range ← getAs dev FreqRange ((← subdev dev fuel dir chan) ++ [.plain (.subdev .freqRange)])
  addDspShift dev range (← dsp dev fuel dir chan)

/-- `set_rx_gain` and `set_tx_gain` -/
def setGain (gain : Float) (name : String) (chan : Nat) : UsrpM Unit := do
  collab.setValue (← gainGroup dev fuel dir chan) gain name

/-- `get_rx_gain` and `get_tx_gain` -/
def getGain (name : String) (chan : Nat) : UsrpM Float := do
  collab.getValue (← gainGroup dev fuel dir chan) name

/-- `get_rx_gain_range` and `get_tx_gain_range` -/
def getGainRange (name : String) (chan : Nat) : UsrpM Blob := do
  collab.getRange (← gainGroup dev fuel dir chan) name

/-- `get_rx_gain_names` and `get_tx_gain_names` -/
def getGainNames (chan : Nat) : UsrpM (List String) := do
  collab.getNames (← gainGroup dev fuel dir chan)

/-- `set_rx_antenna` and `set_tx_antenna` -/
def setAntenna (ant : String) (chan : Nat) : UsrpM Unit := do
  setProp dev ((← subdev dev fuel dir chan) ++ [.plain (.subdev .antenna)]) (.string ant)

/-- `get_rx_antenna` and `get_tx_antenna` -/
def getAntenna (chan : Nat) : UsrpM String := do
  getAs dev String ((← subdev dev fuel dir chan) ++ [.plain (.subdev .antenna)])

/-- `get_rx_antennas` and `get_tx_antennas` -/
def getAntennas (chan : Nat) : UsrpM (List String) := do
  getAs dev (List String) ((← subdev dev fuel dir chan) ++ [.plain (.subdev .antennaNames)])

/-- `set_rx_bandwidth` and `set_tx_bandwidth` -/
def setBandwidth (bandwidth : Float) (chan : Nat) : UsrpM Unit := do
  setProp dev ((← subdev dev fuel dir chan) ++ [.plain (.subdev .bandwidth)]) (.double bandwidth)

/-- `get_rx_bandwidth` and `get_tx_bandwidth` -/
def getBandwidth (chan : Nat) : UsrpM Float := do
  getAs dev Float ((← subdev dev fuel dir chan) ++ [.plain (.subdev .bandwidth)])

/-- `get_rx_dboard_iface` and `get_tx_dboard_iface` -/
def getDboardIface (chan : Nat) : UsrpM Blob := do
  getBlob dev .dboardIface ((← dboard dev fuel dir chan) ++ [.plain (.dboard .dboardIface)])

/-- `get_rx_sensor` and `get_tx_sensor` -/
def getSensor (name : String) (chan : Nat) : UsrpM Blob := do
  getBlob dev .sensorValue ((← subdev dev fuel dir chan) ++ [.named (.subdev .sensor) name])

/-- `get_rx_sensor_names` and `get_tx_sensor_names` -/
def getSensorNames (chan : Nat) : UsrpM (List String) := do
  getAs dev (List String) ((← subdev dev fuel dir chan) ++ [.plain (.subdev .sensorNames)])

end Channels

section Members

variable (collab : Collaborators)

/-- `get_rx_subdev_name` -/
def getRxSubdevName := getSubdevName dev fuel .rx
/-- `get_tx_subdev_name` -/
def getTxSubdevName := getSubdevName dev fuel .tx
/-- `set_rx_rate` -/
def setRxRate := setRate dev fuel .rx
/-- `set_tx_rate` -/
def setTxRate := setRate dev fuel .tx
/-- `get_rx_rate` -/
def getRxRate := getRate dev fuel .rx
/-- `get_tx_rate` -/
def getTxRate := getRate dev fuel .tx
/-- `set_rx_freq` -/
def setRxFreq := setFreq dev fuel collab .rx
/-- `set_tx_freq` -/
def setTxFreq := setFreq dev fuel collab .tx
/-- `get_rx_freq` -/
def getRxFreq := getFreq dev fuel collab .rx
/-- `get_tx_freq` -/
def getTxFreq := getFreq dev fuel collab .tx
/-- `get_rx_freq_range` -/
def getRxFreqRange := getFreqRange dev fuel .rx
/-- `get_tx_freq_range` -/
def getTxFreqRange := getFreqRange dev fuel .tx
/-- `set_rx_gain` -/
def setRxGain := setGain dev fuel collab .rx
/-- `set_tx_gain` -/
def setTxGain := setGain dev fuel collab .tx
/-- `get_rx_gain` -/
def getRxGain := getGain dev fuel collab .rx
/-- `get_tx_gain` -/
def getTxGain := getGain dev fuel collab .tx
/-- `get_rx_gain_range` -/
def getRxGainRange := getGainRange dev fuel collab .rx
/-- `get_tx_gain_range` -/
def getTxGainRange := getGainRange dev fuel collab .tx
/-- `get_rx_gain_names` -/
def getRxGainNames := getGainNames dev fuel collab .rx
/-- `get_tx_gain_names` -/
def getTxGainNames := getGainNames dev fuel collab .tx
/-- `set_rx_antenna` -/
def setRxAntenna := setAntenna dev fuel .rx
/-- `set_tx_antenna` -/
def setTxAntenna := setAntenna dev fuel .tx
/-- `get_rx_antenna` -/
def getRxAntenna := getAntenna dev fuel .rx
/-- `get_tx_antenna` -/
def getTxAntenna := getAntenna dev fuel .tx
/-- `get_rx_antennas` -/
def getRxAntennas := getAntennas dev fuel .rx
/-- `get_tx_antennas` -/
def getTxAntennas := getAntennas dev fuel .tx
/-- `set_rx_bandwidth` -/
def setRxBandwidth := setBandwidth dev fuel .rx
/-- `set_tx_bandwidth` -/
def setTxBandwidth := setBandwidth dev fuel .tx
/-- `get_rx_bandwidth` -/
def getRxBandwidth := getBandwidth dev fuel .rx
/-- `get_tx_bandwidth` -/
def getTxBandwidth := getBandwidth dev fuel .tx
/-- `get_rx_dboard_iface` -/
def getRxDboardIface := getDboardIface dev fuel .rx
/-- `get_tx_dboard_iface` -/
def getTxDboardIface := getDboardIface dev fuel .tx
/-- `get_rx_sensor` -/
def getRxSensor := getSensor dev fuel .rx
/-- `get_tx_sensor` -/
def getTxSensor := getSensor dev fuel .tx
/-- `get_rx_sensor_names` -/
def getRxSensorNames := getSensorNames dev fuel .rx
/-- `get_tx_sensor_names` -/
def getTxSensorNames := getSensorNames dev fuel .tx
/-- `set_rx_subdev_spec` -/
def setRxSubdevSpec := setSubdevSpec dev fuel .rx
/-- `set_tx_subdev_spec` -/
def setTxSubdevSpec := setSubdevSpec dev fuel .tx

end Members

/-- The single-channel branch of `issue_stream_cmd` (RX only). -/
def issueStreamCmdChan (streamCmd : Blob) (chan : Nat) : UsrpM Unit := do
  setProp dev ((← dsp dev fuel .rx chan) ++ [.plain (.dsp .streamCmd)]) (.blob .streamCmd streamCmd)

/-- `issue_stream_cmd` -/
def issueStreamCmd (streamCmd : Blob) (chan : Nat) : UsrpM Unit :=
  if chan ≠ allChans then issueStreamCmdChan dev fuel streamCmd chan
  else forEachChan dev fuel .rx (issueStreamCmdChan dev fuel streamCmd)

/-- The message of the `uhd::runtime_error` raised when board 0 shows no PPS edge. -/
def noPpsMessage : String :=
  "Board 0 may not be getting a PPS signal!\n" ++
  "No PPS detected within the time interval.\n" ++
  "See the application notes for your device.\n"

/-- The polling loop of `set_time_unknown_pps`: it leaves at the first poll whose last-PPS
read differs from the baseline, and raises once the time-now read is more than 1.1 s past
the baseline time. -/
def catchPpsEdge (timeStart timeStartLastPps : TimeSpec) : Nat → UsrpM Unit
  | 0 => throw .fuelExhausted
  | fuel + 1 => do
      if (← getTimeLastPps dev 0) ≠ timeStartLastPps then pure ()
      else if (← getTimeNow dev 0) - timeStart > 11 / 10 then
        throw (.runtimeError noPpsMessage)
      else catchPpsEdge timeStart timeStartLastPps fuel

/-- One pass of the verification loop of `set_time_unknown_pps`: board `m` against board 0,
with a warning if it is outside the 10 ms window. -/
def verifyBoardTime (m : Nat) : UsrpM Unit := do
  let time0 ← mboardGet dev TimeSpec .timeNow 0
  let timeI ← mboardGet dev TimeSpec .timeNow m
  if timeI < time0 ∨ timeI - time0 > 1 / 100 then
    record (.warning (.timeDeviation m time0 timeI))
  else pure ()

/-- The verification loop of `set_time_unknown_pps`: board 0 against each other board. -/
def verifyTimeRegisters : UsrpM Unit := do
  let _ ← forLoop (getNumMboards dev) (fun m _ => verifyBoardTime dev m) fuel 1 ()

/-- The status line of the first step of `set_time_unknown_pps`. -/
def catchPpsStatus : String := "    1) catch time transition at pps edge\n"

/-- The status line of the second step of `set_time_unknown_pps`. -/
def armPpsStatus : String := "    2) set times next pps (synchronously)\n"

/-- `set_time_unknown_pps` -/
def setTimeUnknownPps (timeSpec : TimeSpec) : UsrpM Unit := do
  record (.status catchPpsStatus)
  let timeStart ← getTimeNow dev 0
  let timeStartLastPps ← getTimeLastPps dev 0
  catchPpsEdge dev timeStart timeStartLastPps fuel
  record (.status armPpsStatus)
  setTimeNextPps dev fuel timeSpec
  record (.sleep 1)
  verifyTimeRegisters dev fuel

/-- `get_time_synchronized`: the loop returns `false` at the first board out of the window. -/
def timeSynchronizedLoop : Nat → Nat → UsrpM Bool
  | 0, _ => throw .fuelExhausted
  | fuel + 1, m => do
      if m < (← getNumMboards dev) then
        let time0 ← mboardGet dev TimeSpec .timeNow 0
        let timeI ← mboardGet dev TimeSpec .timeNow m
        if timeI < time0 ∨ timeI - time0 > 1 / 100 then pure false
        else timeSynchronizedLoop fuel (m + 1)
      else pure true

/-- `get_time_synchronized` -/
def getTimeSynchronized : UsrpM Bool := timeSynchronizedLoop dev fuel 1

/-- One channel's entry of `get_pp_string`, as its format string lays it out. -/
def ppEntry (dir : Dir) (chan : Nat) (dspName dboardName subdevName : String) : String :=
  "  " ++ dir.label ++ " Channel: " ++ toString chan ++ "\n" ++
    "    " ++ dir.label ++ " DSP: " ++ dspName ++ "\n" ++
    "    " ++ dir.label ++ " Dboard: " ++ dboardName ++ "\n" ++
    "    " ++ dir.label ++ " Subdev: " ++ subdevName ++ "\n"

/-- One channel's entry of `get_pp_string`, its names read in the order of the format
arguments. -/
def ppChannel (dir : Dir) (chan : Nat) : UsrpM String := do
  let dspName ← getAs dev String ((← dsp dev fuel dir chan) ++ [.plain (.dsp .name)])
  let dboardName ← getAs dev String ((← dboard dev fuel dir chan) ++ [.plain (.dboard .name)])
  let subdevName ← getAs dev String ((← subdev dev fuel dir chan) ++ [.plain (.subdev .name)])
  pure (ppEntry dir chan dspName dboardName subdevName)

/-- The inner bound of the channel loops of `get_pp_string`:
`(m + 1)*get_xx_subdev_spec(m).size()`. -/
def ppBound (dir : Dir) (m : Nat) : UsrpM Nat := do
  pure ((m + 1) * (← getSubdevSpec dev dir m).length)

/-- The RX or TX section of `get_pp_string`: the outer loop over boards carries the channel
counter `chan` into the inner loop, which runs it up to `ppBound`. -/
def ppChannels (dir : Dir) (buff : String) : UsrpM String := do
  let (_, _, buff) ← forLoop (getNumMboards dev) (fun m acc =>
      forLoop (ppBound dev dir m) (fun chan buff => do
          pure (buff ++ (← ppChannel dev fuel dir chan))) fuel acc.1 acc.2) fuel 0 (0, buff)
  pure buff

/-- `get_pp_string` -/
def getPpString : UsrpM String := do
  let numMboards ← getNumMboards dev
  let devName ← getAs dev String [.plain (.device .name)]
  let buff := (if numMboards > 1 then "Multi" else "Single") ++ " USRP:\n" ++
    "  Device: " ++ devName ++ "\n"
  let (_, buff) ← forLoop (getNumMboards dev) (fun m buff => do
      pure (buff ++ "  Mboard " ++ toString m ++ ": " ++ (← getMboardName dev m) ++ "\n"))
    fuel 0 buff
  let buff ← ppChannels dev fuel .rx buff
  ppChannels dev fuel .tx buff

end Facade

end UhdHost
