import UhdHost.TimeSync
import UhdHost.PrettyPrint
import UhdHost.LiveSpec

/-!
# Calls on one channel leave the others alone

Every channel method of the facade finds its nodes through the channel's own accessors:
`_rx_dsp(chan)` and `_rx_subdev(chan)` resolve `chan` and build the path of that channel's
DSP or subdevice, and the method writes, if at all, one property there.  So a call on
channel `chan` writes only below `chan`'s DSP and subdevice nodes (`Topology.chanNodes`),
provided the tuning helpers it hands those nodes to stay below them too
(`Collaborators.TunesInPlace`).  Given `ALL_CHANS`, `set_rx_rate` and `issue_stream_cmd` run
that single-channel branch for each channel of their side, so they write below the DSPs of
that side only, however the loop ends (`FanOutOp.allChans_addsFrom`).  `ChanCall.targets`
says which channels a call acts on.  The gain-group methods are left out: what the gain
group writes is the collaborator's own.

A session is any sequence of such calls, each made where the one before stopped, whether it
returned or threw (`runSession`).  Over a device that keeps showing the board layout while
channel nodes are written, every write of a session lands below a node of a channel one of
its calls acts on (`runSession_footprint`).  When no two channels share a node
(`Topology.Distinct`: distinct board names, and on each board distinct DSP names and spec
entries), a session none of whose calls acts on channel `c` writes nothing below `c`'s
nodes, and over a device that keeps its writes every property there reads as before
(`SparesChannel`).
-/

namespace UhdHost

section Footprints

/-- A path below a named child of a board: a DSP, a daughterboard, or a node under one.
No read of the board layout looks there. -/
def PropPath.BelowBoardChild (path : PropPath) : Prop :=
  ∃ mbName key name rest, path = .named (.device .mboard) mbName :: .named key name :: rest

theorem PropPath.BelowBoardChild.append {path : PropPath} (below : path.BelowBoardChild)
    (rest : PropPath) : (path ++ rest).BelowBoardChild := by
  obtain ⟨mbName, key, name, rest', rfl⟩ := below
  exact ⟨mbName, key, name, rest' ++ rest, rfl⟩

/-- A write below a named child of a board; every event other than a write. -/
def Event.BelowBoardChild : Event → Prop
  | .set path _ => path.BelowBoardChild
  | _ => True

/-- A write below one of `nodes`; every event other than a write. -/
def Event.WritesBelow (nodes : List PropPath) : Event → Prop
  | .set path _ => ∃ node ∈ nodes, node <+: path
  | _ => True

theorem Event.writesBelow_of_isGet {nodes : List PropPath} {e : Event} (get : e.IsGet) :
    e.WritesBelow nodes := by
  obtain ⟨_, _, rfl⟩ := Event.eq_get_of_isGet get
  trivial

theorem Event.belowBoardChild_of_isGet {e : Event} (get : e.IsGet) : e.BelowBoardChild := by
  obtain ⟨_, _, rfl⟩ := Event.eq_get_of_isGet get
  trivial

theorem Event.WritesBelow.mono {nodes nodes' : List PropPath} (sub : nodes ⊆ nodes') :
    ∀ {e : Event}, e.WritesBelow nodes → e.WritesBelow nodes'
  | .set _ _, ⟨node, mem, below⟩ => ⟨node, sub mem, below⟩
  | .get _ _, _ | .status _, _ | .warning _, _ | .sleep _, _ => trivial

/-- Writes below nodes that are below board children are below board children. -/
theorem Event.WritesBelow.belowBoardChild {nodes : List PropPath}
    (nodesBelow : ∀ node ∈ nodes, node.BelowBoardChild) :
    ∀ {e : Event}, e.WritesBelow nodes → e.BelowBoardChild
  | .set _ _, ⟨node, mem, rest, below⟩ => below ▸ (nodesBelow node mem).append rest
  | .get _ _, _ | .status _, _ | .warning _, _ | .sleep _, _ => trivial

theorem mboardNamesPath_not_belowBoardChild : ¬ mboardNamesPath.BelowBoardChild :=
  fun ⟨_, _, _, _, same⟩ => by cases same

theorem mboardPropPath_not_belowBoardChild (mbName : String) (prop : MboardProp) :
    ¬ (mboardPropPath mbName prop).BelowBoardChild :=
  fun ⟨_, _, _, _, same⟩ => by cases same

end Footprints

namespace Topology

variable (topo : Topology) (dir : Dir)

/-- The nodes channel `chan` of side `dir` owns, as its accessors build them: its DSP and
its subdevice; none past the last channel. -/
def chanNodes (chan : Nat) : List PropPath :=
  if chan < topo.numChannels dir then
    [topo.dspNode dir (topo.resolve dir chan), topo.subdevNode dir (topo.resolve dir chan)]
  else []

variable {topo dir} {chan : Nat}

theorem mem_chanNodes {node : PropPath} :
    node ∈ topo.chanNodes dir chan ↔ chan < topo.numChannels dir ∧
      (node = topo.dspNode dir (topo.resolve dir chan) ∨
        node = topo.subdevNode dir (topo.resolve dir chan)) := by
  unfold chanNodes
  split <;> simp [*]

theorem chanNodes_belowBoardChild : ∀ node ∈ topo.chanNodes dir chan, node.BelowBoardChild := by
  intro node mem
  rcases (mem_chanNodes.mp mem).2 with rfl | rfl
  · exact ⟨_, _, _, [], rfl⟩
  · exact ⟨_, _, _, [_], rfl⟩

end Topology

section Reads

variable {α β : Type} {dev : Device} {fuel : Nat} {dir : Dir} {K : Event → Prop}

theorem getNumMboards_confined (getsKept : ∀ e, e.IsGet → K e) :
    Confined K (getNumMboards dev) :=
  (getAs_confined getsKept).bind fun _ => pure_confined _

theorem getSubdevSpec_confined (getsKept : ∀ e, e.IsGet → K e) {m : Nat} :
    Confined K (getSubdevSpec dev dir m) :=
  (mboardNode_confined getsKept).bind fun _ => getAs_confined getsKept

theorem getBlob_confined (getsKept : ∀ e, e.IsGet → K e) {type : BlobType} {path : PropPath} :
    Confined K (getBlob dev type path) :=
  (getProp_confined getsKept).bind fun _ => by
    split
    exacts [pure_confined _, throw_confined (by simp)]

theorem chanToMcpLoop_confined (getsKept : ∀ e, e.IsGet → K e) :
    ∀ fuel mcp, Confined K (chanToMcpLoop dev dir fuel mcp)
  | 0, _ => throw_confined (by simp)
  | fuel + 1, mcp => by
      unfold chanToMcpLoop
      refine (getNumMboards_confined getsKept).bind fun _ => ?_
      split
      · refine (getSubdevSpec_confined getsKept).bind fun _ => ?_
        dsimp only
        split
        exacts [pure_confined _, chanToMcpLoop_confined getsKept fuel _]
      · exact pure_confined _

theorem dsp_confined (getsKept : ∀ e, e.IsGet → K e) {chan : Nat} :
    Confined K (dsp dev fuel dir chan) :=
  (chanToMcpLoop_confined getsKept _ _).bind fun _ => (mboardNode_confined getsKept).bind fun _ =>
    (getAs_confined getsKept).bind fun _ => (mboardNode_confined getsKept).bind fun _ =>
      vectorAt_confined.bind fun _ => pure_confined _

theorem dboard_confined (getsKept : ∀ e, e.IsGet → K e) {chan : Nat} :
    Confined K (dboard dev fuel dir chan) :=
  (chanToMcpLoop_confined getsKept _ _).bind fun _ => (getSubdevSpec_confined getsKept).bind
    fun _ => vectorAt_confined.bind fun _ => (mboardNode_confined getsKept).bind
    fun _ => pure_confined _

theorem subdev_confined (getsKept : ∀ e, e.IsGet → K e) {chan : Nat} :
    Confined K (subdev dev fuel dir chan) :=
  (chanToMcpLoop_confined getsKept _ _).bind fun _ => (getSubdevSpec_confined getsKept).bind
    fun _ => vectorAt_confined.bind fun _ => (dboard_confined getsKept).bind
    fun _ => pure_confined _

theorem ReadsTo.eq_of_ok {prog : UsrpM α} {trace trace' : List Event} {a b : α}
    (reads : ReadsTo prog trace a) (ran : prog trace = .ok b trace') : b = a := by
  obtain ⟨_, _, ran'⟩ := reads
  rw [ran'] at ran
  cases ran
  rfl

theorem ReadsThenThrows.ne_ok {prog : UsrpM α} {trace trace' : List Event} {e : UhdError} {b : α}
    (throws : ReadsThenThrows prog trace e) : prog trace ≠ .ok b trace' := by
  obtain ⟨_, _, ran⟩ := throws
  rw [ran]
  exact fun same => by cases same

variable {topo : Topology} {trace trace' : List Event} {chan : Nat} {node : PropPath}

/-- Over a device that shows the layout, what the DSP accessor returns is the DSP node of a
channel in range. -/
theorem dsp_ok (steady : Always Event.IsGet (ShowsDsps dev topo dir) trace)
    (enough : topo.mboardNames.length < fuel) (ran : dsp dev fuel dir chan trace = .ok node trace') :
    chan < topo.numChannels dir ∧ node = topo.dspNode dir (topo.resolve dir chan) := by
  by_cases inRange : chan < topo.numChannels dir
  · by_cases hasDsp : (topo.resolve dir chan).chan <
        (topo.dspNames dir (topo.resolve dir chan).mboard).length
    · exact ⟨inRange, (dsp_readsTo steady enough inRange hasDsp).eq_of_ok ran⟩
    · exact absurd ran (dsp_readsThenThrows_of_noDsp steady enough inRange (by omega)).ne_ok
  · exact absurd ran (accessors_readThenThrow (steady.imp fun _ shows => shows.toShows) enough
      (by omega)).1.ne_ok

/-- Over a device that shows the layout, what the subdevice accessor returns is the
subdevice node of a channel in range. -/
theorem subdev_ok (steady : Always Event.IsGet (Shows dev topo dir) trace)
    (enough : topo.mboardNames.length < fuel)
    (ran : subdev dev fuel dir chan trace = .ok node trace') :
    chan < topo.numChannels dir ∧ node = topo.subdevNode dir (topo.resolve dir chan) := by
  by_cases inRange : chan < topo.numChannels dir
  · exact ⟨inRange, (subdev_readsTo steady enough inRange).eq_of_ok ran⟩
  · exact absurd ran (accessors_readThenThrow steady enough (by omega)).2.2.1.ne_ok

end Reads

/-- The setters that fan out over `ALL_CHANS`. -/
def ChanOp.fanOut? {dir : Dir} : ChanOp dir → Option (FanOutOp dir)
  | .setRate rate => some (.setRate rate)
  | .issueStreamCmd streamCmd => some (.issueStreamCmd streamCmd)
  | _ => none

/-- A call of a session: a channel method of one side, on one channel. -/
structure ChanCall where
  dir : Dir
  op : ChanOp dir
  chan : Nat

namespace ChanCall

variable {topo : Topology} {call : ChanCall}

/-- The channels a call acts on: given `ALL_CHANS`, a setter that fans out acts on every
channel of its side; otherwise a call acts on its own channel, when it is in range. -/
def targets (topo : Topology) (call : ChanCall) : List Nat :=
  if call.op.fanOut?.isSome ∧ call.chan = allChans then List.range (topo.numChannels call.dir)
  else if call.chan < topo.numChannels call.dir then [call.chan] else []

/-- The nodes of the channels a call acts on. -/
def nodes (topo : Topology) (call : ChanCall) : List PropPath :=
  (call.targets topo).flatMap (topo.chanNodes call.dir)

theorem lt_of_mem_targets {c : Nat} (target : c ∈ call.targets topo) :
    c < topo.numChannels call.dir := by
  unfold targets at target
  split at target
  · exact List.mem_range.mp target
  · split at target
    · rw [List.mem_singleton.mp target]
      assumption
    · cases target

theorem nodes_of_single (single : ¬ (call.op.fanOut?.isSome ∧ call.chan = allChans)) :
    call.nodes topo = topo.chanNodes call.dir call.chan := by
  unfold nodes targets
  rw [if_neg single]
  split
  · simp
  · exact (if_neg ‹_›).symm

theorem nodes_belowBoardChild : ∀ node ∈ call.nodes topo, node.BelowBoardChild := by
  intro node mem
  obtain ⟨c, -, mem⟩ := List.mem_flatMap.mp mem
  exact Topology.chanNodes_belowBoardChild node mem

end ChanCall

section Calls

variable {α β : Type} {dev : Device} {fuel : Nat} {collab : Collaborators} {topo : Topology}
  {dir : Dir} {K : Event → Prop} {trace : List Event}

/-- From `trace`, `prog` adds only events that `K` admits, whichever way it ends. -/
def AddsFrom (K : Event → Prop) (prog : UsrpM α) (trace : List Event) : Prop :=
  ∃ ext, (∀ e ∈ ext, K e) ∧ finalTrace (prog trace) = trace ++ ext

theorem Adds.addsFrom {prog : UsrpM α} (adds : Adds K prog) (trace : List Event) :
    AddsFrom K prog trace :=
  adds trace

theorem AddsFrom.bind {prog : UsrpM α} {f : α → UsrpM β} (first : AddsFrom K prog trace)
    (rest : ∀ a ext, prog trace = .ok a (trace ++ ext) → (∀ e ∈ ext, K e) →
      AddsFrom K (f a) (trace ++ ext)) :
    AddsFrom K (prog >>= f) trace := by
  obtain ⟨ext, kept, ran⟩ := first
  cases ranFirst : prog trace with
  | ok a mid =>
      simp only [ranFirst, finalTrace] at ran
      subst ran
      obtain ⟨ext', kept', ran'⟩ := rest a ext ranFirst kept
      refine ⟨ext ++ ext', fun e mem => (List.mem_append.mp mem).elim (kept e) (kept' e), ?_⟩
      rw [run_bind_of_ok ranFirst, ran', List.append_assoc]
  | error e mid =>
      simp only [ranFirst, finalTrace] at ran
      exact ⟨ext, kept, by rw [run_bind_of_error ranFirst]; exact ran⟩

theorem AddsFrom.mono {K' : Event → Prop} (weaker : ∀ e, K e → K' e) {prog : UsrpM α}
    (adds : AddsFrom K prog trace) : AddsFrom K' prog trace :=
  let ⟨ext, kept, ran⟩ := adds
  ⟨ext, fun e mem => weaker e (kept e mem), ran⟩

theorem ChanOp.run_of_fanOut {op : ChanOp dir} {fanOut : FanOutOp dir}
    (fans : op.fanOut? = some fanOut) (chan : Nat) :
    op.run dev fuel collab chan = fanOut.run dev fuel chan := by
  cases op <;> simp only [ChanOp.fanOut?, reduceCtorEq, Option.some.injEq] at fans <;>
    (subst fans; rfl)

/-- Tuning helpers that write only below the subdevice and DSP nodes they are handed. -/
structure Collaborators.TunesInPlace (collab : Collaborators) : Prop where
  tune : ∀ dir subdevNode dspNode tuneRequest, Adds (Event.WritesBelow [dspNode, subdevNode])
    (collab.tuneSubdevAndDsp dir subdevNode dspNode tuneRequest)
  derive : ∀ dir subdevNode dspNode, Adds (Event.WritesBelow [dspNode, subdevNode])
    (collab.deriveFreqFromSubdevAndDsp dir subdevNode dspNode)

/-- The methods that go through the channel's gain group. -/
def ChanOp.UsesGainGroup {dir : Dir} : ChanOp dir → Prop
  | .setGain _ _ | .getGain _ | .getGainRange _ | .getGainNames => True
  | _ => False

theorem doSampRateWarningMessage_confined {rate actual : Float} {xx : String}
    (warned : ∀ w, K (.warning w)) : Confined K (doSampRateWarningMessage rate actual xx) := by
  unfold doSampRateWarningMessage
  split
  exacts [record_confined (warned _), pure_confined ()]

theorem doTuneFreqWarningMessage_confined {target actual : Float} {xx : String}
    (warned : ∀ w, K (.warning w)) : Confined K (doTuneFreqWarningMessage target actual xx) := by
  unfold doTuneFreqWarningMessage
  split
  exacts [record_confined (warned _), pure_confined ()]

variable {chan : Nat}

/-- The events of a call on `chan` keep the layout shown. -/
theorem belowBoardChild_of_kept {ext : List Event}
    (kept : ∀ e ∈ ext, e.WritesBelow (topo.chanNodes dir chan)) :
    ∀ e ∈ ext, e.BelowBoardChild :=
  fun e mem => (kept e mem).belowBoardChild Topology.chanNodes_belowBoardChild

/-- A `for` loop whose bound keeps reading `bound` under an invariant, and each of whose calls
below the bound adds only events that `K` admits and that keep the invariant, adds only such
events, however it ends. -/
theorem forLoop_addsFrom {Inv : List Event → Prop} {boundProg : UsrpM Nat}
    {call : Nat → UsrpM Unit} {bound : Nat} (getsKept : ∀ e, e.IsGet → K e)
    (closed : ∀ trace ext, Inv trace → (∀ e ∈ ext, K e) → Inv (trace ++ ext))
    (bounds : ∀ trace, Inv trace → ReadsTo boundProg trace bound)
    (calls : ∀ trace c, Inv trace → c < bound → AddsFrom K (call c) trace) :
    ∀ fuel i trace, Inv trace → AddsFrom K (forLoop boundProg (fun c _ => call c) fuel i ()) trace
  | 0, _, trace, _ => throw_adds.addsFrom trace
  | fuel + 1, i, trace, holds => by
      have reads := bounds trace holds
      have boundAdds : AddsFrom K boundProg trace :=
        let ⟨ext, gets, ranBound⟩ := reads
        ⟨ext, fun e mem => getsKept e (gets e mem), by rw [ranBound]; rfl⟩
      simp only [forLoop]
      refine boundAdds.bind fun b ext ran kept => ?_
      obtain rfl := reads.eq_of_ok ran
      have holds' := closed _ _ holds kept
      split
      · exact (calls _ i holds' ‹_›).bind fun _ _ _ kept' =>
          forLoop_addsFrom getsKept closed bounds calls fuel (i + 1) _ (closed _ _ holds' kept')
      · exact (pure_confined _).adds.addsFrom _

/-- A write to a property of the node an accessor returned, when that node is one of
`nodes`, is a write below `nodes`. -/
theorem setAt_addsFrom {nodes : List PropPath} {acc : UsrpM PropPath}
    (reads : Confined Event.IsGet acc)
    (owned : ∀ node ext, acc trace = .ok node (trace ++ ext) → node ∈ nodes) (key : WaxKey)
    (val : WaxObj) :
    AddsFrom (Event.WritesBelow nodes) (acc >>= fun node => setProp dev (node ++ [key]) val)
      trace :=
  ((reads.mono fun _ => Event.writesBelow_of_isGet).adds.addsFrom trace).bind fun node ext ran _ =>
    (setProp_confined ⟨node, owned node ext ran, List.prefix_append _ _⟩).adds.addsFrom _

variable (steady : Always Event.BelowBoardChild (ShowsDsps dev topo dir) trace)
  (enough : topo.mboardNames.length < fuel)
include steady enough

theorem dsp_owned {node : PropPath} {trace' : List Event}
    (ran : dsp dev fuel dir chan trace = .ok node trace') : node ∈ topo.chanNodes dir chan := by
  obtain ⟨inRange, rfl⟩ := dsp_ok (steady.mono fun _ => Event.belowBoardChild_of_isGet) enough ran
  exact Topology.mem_chanNodes.mpr ⟨inRange, .inl rfl⟩

theorem subdev_owned {node : PropPath} {trace' : List Event}
    (ran : subdev dev fuel dir chan trace = .ok node trace') :
    node ∈ topo.chanNodes dir chan := by
  obtain ⟨inRange, rfl⟩ := subdev_ok ((steady.mono fun _ => Event.belowBoardChild_of_isGet).imp
    fun _ shows => shows.toShows) enough ran
  exact Topology.mem_chanNodes.mpr ⟨inRange, .inr rfl⟩

/-- The single-channel branch of a setter that fans out writes only below the channel's
DSP. -/
theorem FanOutOp.single_addsFrom (op : FanOutOp dir) :
    AddsFrom (Event.WritesBelow (topo.chanNodes dir chan)) (op.single dev fuel chan) trace := by
  have getsKept : ∀ e : Event, e.IsGet → e.WritesBelow (topo.chanNodes dir chan) :=
    fun _ => Event.writesBelow_of_isGet
  cases op with
  | setRate rate =>
      simp only [FanOutOp.single, setRateChan]
      refine ((dsp_confined getsKept).adds.addsFrom trace).bind fun node ext ran _ => ?_
      refine ((setProp_confined (K := Event.WritesBelow (topo.chanNodes dir chan))
        ⟨node, dsp_owned steady enough ran, List.prefix_append _ _⟩).adds.addsFrom _).bind
        fun _ _ _ _ => ?_
      exact ((((dsp_confined getsKept).bind fun _ => getAs_confined getsKept).bind fun _ =>
        doSampRateWarningMessage_confined fun _ => trivial)).adds.addsFrom _
  | issueStreamCmd streamCmd =>
      simp only [FanOutOp.single, issueStreamCmdChan]
      exact setAt_addsFrom (dsp_confined fun _ get => get)
        (fun _ _ ran => dsp_owned steady enough ran) _ _

/-- Given `ALL_CHANS`, a setter that fans out writes only below the DSPs of its side's
channels, however the loop ends. -/
theorem FanOutOp.allChans_addsFrom (op : FanOutOp dir) :
    AddsFrom (Event.WritesBelow ((List.range (topo.numChannels dir)).flatMap (topo.chanNodes dir)))
      (op.run dev fuel allChans) trace := by
  have sideBelow : ∀ node ∈ (List.range (topo.numChannels dir)).flatMap (topo.chanNodes dir),
      node.BelowBoardChild := fun node mem =>
    let ⟨_, _, mem⟩ := List.mem_flatMap.mp mem
    Topology.chanNodes_belowBoardChild node mem
  rw [FanOutOp.run_allChans, forEachChan]
  refine (forLoop_addsFrom (fun _ => Event.writesBelow_of_isGet)
    (fun _ _ holds kept => holds.extend fun e mem => (kept e mem).belowBoardChild sideBelow)
    (fun _ holds => getNumChannels_readsTo ((holds.mono fun _ => Event.belowBoardChild_of_isGet).imp
      fun _ shows => shows.toShows) enough)
    (fun _ c holds inRange => (op.single_addsFrom holds enough).mono fun _ =>
      Event.WritesBelow.mono fun node mem =>
        List.mem_flatMap.mpr ⟨c, List.mem_range.mpr inRange, mem⟩)
    fuel 0 trace steady).bind fun _ _ _ _ => (pure_confined ()).adds.addsFrom _

variable (tunes : collab.TunesInPlace)
include tunes

/-- `get_rx_freq` hands the derivation helper the channel's own nodes. -/
theorem getFreq_addsFrom :
    AddsFrom (Event.WritesBelow (topo.chanNodes dir chan)) (getFreq dev fuel collab dir chan)
      trace := by
  have getsKept : ∀ e : Event, e.IsGet → e.WritesBelow (topo.chanNodes dir chan) :=
    fun _ => Event.writesBelow_of_isGet
  unfold getFreq
  refine ((subdev_confined getsKept).adds.addsFrom trace).bind fun sn ext ran kept => ?_
  refine ((dsp_confined getsKept).adds.addsFrom _).bind fun dn ext' ran' _ => ?_
  have subdevMem := subdev_owned steady enough ran
  have dspMem := dsp_owned (steady.extend (belowBoardChild_of_kept kept)) enough ran'
  exact ((tunes.derive dir sn dn).mono fun _ => Event.WritesBelow.mono
    (List.cons_subset.mpr ⟨dspMem, List.cons_subset.mpr ⟨subdevMem, List.nil_subset _⟩⟩)).addsFrom _

/-- `set_rx_freq` hands the tuning helper, and then the derivation helper, the channel's own
nodes. -/
theorem setFreq_addsFrom (tuneRequest : TuneRequest) :
    AddsFrom (Event.WritesBelow (topo.chanNodes dir chan))
      (setFreq dev fuel collab dir tuneRequest chan) trace := by
  have getsKept : ∀ e : Event, e.IsGet → e.WritesBelow (topo.chanNodes dir chan) :=
    fun _ => Event.writesBelow_of_isGet
  unfold setFreq
  refine ((subdev_confined getsKept).adds.addsFrom trace).bind fun sn ext ran kept => ?_
  have steady' := steady.extend (belowBoardChild_of_kept kept)
  refine ((dsp_confined getsKept).adds.addsFrom _).bind fun dn ext' ran' kept' => ?_
  have steady'' := steady'.extend (belowBoardChild_of_kept kept')
  have owned : [dn, sn] ⊆ topo.chanNodes dir chan := List.cons_subset.mpr
    ⟨dsp_owned steady' enough ran',
      List.cons_subset.mpr ⟨subdev_owned steady enough ran, List.nil_subset _⟩⟩
  refine (((tunes.tune dir sn dn tuneRequest).mono fun _ => Event.WritesBelow.mono owned).addsFrom
    _).bind fun result ext'' _ kept'' => ?_
  refine (getFreq_addsFrom (steady''.extend (belowBoardChild_of_kept kept'')) enough tunes).bind
    fun actual _ _ _ => ?_
  exact ((doTuneFreqWarningMessage_confined fun _ => trivial).bind fun _ =>
    pure_confined result).adds.addsFrom _

/-- A call that does not fan out, other than through the gain group, writes only below its
channel's DSP and subdevice nodes. -/
theorem ChanOp.run_addsFrom_plain (op : ChanOp dir) (noGain : ¬ op.UsesGainGroup)
    (plain : op.fanOut? = none) :
    AddsFrom (Event.WritesBelow (topo.chanNodes dir chan)) (op.run dev fuel collab chan) trace := by
  have getsKept : ∀ e : Event, e.IsGet → e.WritesBelow (topo.chanNodes dir chan) :=
    fun _ => Event.writesBelow_of_isGet
  have dropped : ∀ {γ : Type} {prog : UsrpM γ}, AddsFrom (Event.WritesBelow (topo.chanNodes dir chan)) prog
      trace → AddsFrom (Event.WritesBelow (topo.chanNodes dir chan)) (dropResult prog) trace :=
    fun adds => adds.bind fun _ _ _ _ => (pure_confined ()).adds.addsFrom _
  cases op with
  | setRate | issueStreamCmd => cases plain
  | getRate =>
      exact dropped (((dsp_confined getsKept).bind fun _ => getAs_confined getsKept).adds.addsFrom _)
  | getFreq => exact dropped (getFreq_addsFrom steady enough tunes)
  | setFreq tuneRequest => exact dropped (setFreq_addsFrom steady enough tunes tuneRequest)
  | getFreqRange =>
      exact dropped (((subdev_confined getsKept).bind fun _ => (getAs_confined getsKept).bind
        fun _ => (dsp_confined getsKept).bind fun _ =>
          (getAs_confined getsKept).bind fun _ => pure_confined _).adds.addsFrom _)
  | setGain | getGain | getGainRange | getGainNames => exact absurd trivial noGain
  | setAntenna ant =>
      exact setAt_addsFrom (subdev_confined fun _ get => get)
        (fun _ _ ran => subdev_owned steady enough ran) _ _
  | setBandwidth bandwidth =>
      exact setAt_addsFrom (subdev_confined fun _ get => get)
        (fun _ _ ran => subdev_owned steady enough ran) _ _
  | getAntenna | getAntennas | getBandwidth | getSensorNames | getSubdevName =>
      exact dropped (((subdev_confined getsKept).bind fun _ => getAs_confined getsKept).adds.addsFrom _)
  | getSensor name =>
      exact dropped (((subdev_confined getsKept).bind fun _ =>
        getBlob_confined getsKept).adds.addsFrom _)
  | getDboardIface =>
      exact dropped (((dboard_confined getsKept).bind fun _ =>
        getBlob_confined getsKept).adds.addsFrom _)

/-- A call other than through the gain group writes only below the nodes of the channels it
acts on. -/
theorem ChanOp.run_addsFrom (op : ChanOp dir) (noGain : ¬ op.UsesGainGroup) :
    AddsFrom (Event.WritesBelow (ChanCall.nodes topo ⟨dir, op, chan⟩))
      (op.run dev fuel collab chan) trace := by
  cases fans : op.fanOut? with
  | none =>
      rw [ChanCall.nodes_of_single (by simp [fans])]
      exact op.run_addsFrom_plain steady enough tunes noGain fans
  | some fanOut =>
      rw [ChanOp.run_of_fanOut fans]
      by_cases all : chan = allChans
      · subst all
        simp only [ChanCall.nodes, ChanCall.targets, fans, Option.isSome_some, and_self, ite_true]
        exact fanOut.allChans_addsFrom steady enough
      · rw [ChanCall.nodes_of_single (by simp [all]), fanOut.run_of_ne all]
        exact fanOut.single_addsFrom steady enough

end Calls

section Layout

theorem Dir.dspProp_injective : Function.Injective Dir.dspProp := by
  intro dir dir' same
  cases dir <;> cases dir' <;> first | rfl | cases same

theorem Dir.dboardProp_injective : Function.Injective Dir.dboardProp := by
  intro dir dir' same
  cases dir <;> cases dir' <;> first | rfl | cases same

/-- Two in-range entries of a list without repeats that read the same are one entry. -/
theorem index_eq_of_getD_eq {α : Type} {l : List α} (nodup : l.Nodup) {i j : Nat} {d : α}
    (hi : i < l.length) (hj : j < l.length) (same : l.getD i d = l.getD j d) : i = j := by
  simp only [List.getD_eq_getElem?_getD, List.getElem?_eq_getElem hi,
    List.getElem?_eq_getElem hj, Option.getD_some] at same
  exact nodup.getElem_inj_iff.mp same

namespace Topology

variable {topo : Topology} {dir d : Dir} {chan c : Nat}

theorem resolve_mem_chanPairs (inRange : chan < topo.numChannels dir) :
    topo.resolve dir chan ∈ topo.chanPairs dir := by
  rw [← map_resolve_range]
  exact List.mem_map_of_mem _ (List.mem_range.mpr inRange)

/-- Two channels in range that resolve to one pair are one channel. -/
theorem eq_of_resolve_eq (inRange : chan < topo.numChannels dir)
    (inRange' : c < topo.numChannels dir) (same : topo.resolve dir chan = topo.resolve dir c) :
    chan = c := by
  obtain ⟨-, -, decomposes⟩ := resolve_of_lt inRange
  obtain ⟨-, -, decomposes'⟩ := resolve_of_lt inRange'
  rw [same] at decomposes
  omega

/-- A layout in which no two channels share a node: the boards have distinct names, and on
each board the DSP names are distinct and cover its channels, and no spec entry repeats. -/
structure Distinct (topo : Topology) : Prop where
  boards : topo.mboardNames.Nodup
  dsps : ∀ dir, ∀ m < topo.mboardNames.length, (topo.dspNames dir m).Nodup
  specs : ∀ dir, ∀ m < topo.mboardNames.length, (topo.subdevSpec dir m).Nodup
  hasDsps : ∀ dir, topo.HasDsps dir

namespace Distinct

variable (distinct : topo.Distinct)
include distinct

theorem eq_of_dspNode_eq (inRange : chan < topo.numChannels dir)
    (inRange' : c < topo.numChannels d)
    (same : topo.dspNode dir (topo.resolve dir chan) = topo.dspNode d (topo.resolve d c)) :
    dir = d ∧ chan = c := by
  simp only [dspNode, List.cons.injEq, WaxKey.named.injEq, PropKey.mboard.injEq, true_and,
    and_true] at same
  obtain ⟨sameBoard, sameSide, sameDsp⟩ := same
  obtain rfl := Dir.dspProp_injective sameSide
  obtain ⟨onBoard, -, -⟩ := resolve_of_lt inRange
  obtain ⟨onBoard', -, -⟩ := resolve_of_lt inRange'
  have board := index_eq_of_getD_eq distinct.boards onBoard onBoard' sameBoard
  rw [board] at sameDsp
  have hasDsp := distinct.hasDsps dir _ (resolve_mem_chanPairs inRange)
  have hasDsp' := distinct.hasDsps dir _ (resolve_mem_chanPairs inRange')
  rw [board] at hasDsp
  have dspIndex := index_eq_of_getD_eq (distinct.dsps dir _ onBoard') hasDsp hasDsp' sameDsp
  exact ⟨rfl, eq_of_resolve_eq inRange inRange' (congrArg₂ MboardChanPair.mk board dspIndex)⟩

theorem eq_of_subdevNode_eq (inRange : chan < topo.numChannels dir)
    (inRange' : c < topo.numChannels d)
    (same : topo.subdevNode dir (topo.resolve dir chan) = topo.subdevNode d (topo.resolve d c)) :
    dir = d ∧ chan = c := by
  simp only [subdevNode, dboardNode, List.cons_append, List.nil_append, List.cons.injEq,
    WaxKey.named.injEq, PropKey.mboard.injEq, true_and, and_true] at same
  obtain ⟨sameBoard, ⟨sameSide, sameDb⟩, sameSd⟩ := same
  obtain rfl := Dir.dboardProp_injective sameSide
  obtain ⟨onBoard, onSpec, -⟩ := resolve_of_lt inRange
  obtain ⟨onBoard', onSpec', -⟩ := resolve_of_lt inRange'
  have board := index_eq_of_getD_eq distinct.boards onBoard onBoard' sameBoard
  rw [board] at sameDb sameSd onSpec
  have entry := index_eq_of_getD_eq (distinct.specs dir _ onBoard') onSpec onSpec'
    (congrArg₂ SubdevSpecPair.mk sameDb sameSd)
  exact ⟨rfl, eq_of_resolve_eq inRange inRange' (congrArg₂ MboardChanPair.mk board entry)⟩

/-- A node of one channel is a prefix of a node of another only when the two channels are
one. -/
theorem eq_of_prefix {node node' : PropPath} (mem : node ∈ topo.chanNodes dir chan)
    (mem' : node' ∈ topo.chanNodes d c) (pre : node <+: node') : dir = d ∧ chan = c := by
  obtain ⟨inRange, rfl | rfl⟩ := mem_chanNodes.mp mem <;>
    obtain ⟨inRange', rfl | rfl⟩ := mem_chanNodes.mp mem'
  · exact distinct.eq_of_dspNode_eq inRange inRange' (pre.eq_of_length (by simp [dspNode]))
  · simp only [dspNode, subdevNode, dboardNode, List.cons_append, List.nil_append,
      List.cons_prefix_cons, WaxKey.named.injEq, PropKey.mboard.injEq] at pre
    cases dir <;> cases d <;> simp [Dir.dspProp, Dir.dboardProp] at pre
  · exact absurd pre.length_le (by simp [dspNode, subdevNode, dboardNode])
  · exact distinct.eq_of_subdevNode_eq inRange inRange'
      (pre.eq_of_length (by simp [subdevNode, dboardNode]))

/-- No path lies below a node of each of two channels. -/
theorem apart {node node' path : PropPath} (other : (dir, chan) ≠ (d, c))
    (mem : node ∈ topo.chanNodes dir chan) (mem' : node' ∈ topo.chanNodes d c)
    (below : node <+: path) : ¬ node' <+: path := fun below' => other <| by
  rcases List.prefix_or_prefix_of_prefix below below' with pre | pre
  · obtain ⟨rfl, rfl⟩ := distinct.eq_of_prefix mem mem' pre
    rfl
  · obtain ⟨rfl, rfl⟩ := distinct.eq_of_prefix mem' mem pre
    rfl

end Distinct

end Topology

end Layout

/-- Where a session leaves the trace: each call is made where the one before stopped,
whether it returned or threw. -/
def runSession (dev : Device) (fuel : Nat) (collab : Collaborators) :
    List ChanCall → List Event → List Event
  | [], trace => trace
  | call :: calls, trace =>
      runSession dev fuel collab calls (finalTrace (call.op.run dev fuel collab call.chan trace))

section Sessions

variable {dev : Device} {fuel : Nat} {collab : Collaborators} {topo : Topology}
  {trace : List Event}

/-- Over a device that keeps its writes, the layout it shows stays shown after any events
that write neither the board list nor a property of a board. -/
theorem Device.Remembers.always_showsDsps_of {K : Event → Prop} (remembers : dev.Remembers)
    (spares : ∀ {path : PropPath}, (path = mboardNamesPath ∨
      ∃ mbName prop, path = mboardPropPath mbName prop) → ∀ val, ¬ K (.set path val))
    {dir : Dir} (shows : ShowsDsps dev topo dir trace) : Always K (ShowsDsps dev topo dir) trace := by
  intro ext kept
  have unwritten : ∀ {path : PropPath}, (path = mboardNamesPath ∨
      ∃ mbName prop, path = mboardPropPath mbName prop) → ∀ val, Event.set path val ∉ ext :=
    fun layout val mem => spares layout val (kept _ mem)
  exact ⟨⟨(remembers.get_append_of_unwritten (unwritten (.inl rfl))).trans shows.names,
    fun m inside => (remembers.get_append_of_unwritten
      (unwritten (.inr ⟨_, _, rfl⟩))).trans (shows.specs m inside)⟩,
    fun m inside => (remembers.get_append_of_unwritten
      (unwritten (.inr ⟨_, _, rfl⟩))).trans (shows.dsps m inside)⟩

/-- Over a device that keeps its writes, the layout it shows stays shown after any writes
below board children. -/
theorem Device.Remembers.always_showsDsps (remembers : dev.Remembers) {dir : Dir}
    (shows : ShowsDsps dev topo dir trace) :
    Always Event.BelowBoardChild (ShowsDsps dev topo dir) trace :=
  remembers.always_showsDsps_of (fun layout _ below => by
    rcases layout with rfl | ⟨_, _, rfl⟩
    exacts [mboardNamesPath_not_belowBoardChild below,
      mboardPropPath_not_belowBoardChild _ _ below]) shows

/-- Every write of a session lands below a node of a channel one of its calls acts on. -/
theorem runSession_footprint
    (stable : ∀ dir, Always Event.BelowBoardChild (ShowsDsps dev topo dir) trace)
    (enough : topo.mboardNames.length < fuel) (tunes : collab.TunesInPlace)
    (calls : List ChanCall) (noGain : ∀ call ∈ calls, ¬ call.op.UsesGainGroup) :
    ∃ ext, runSession dev fuel collab calls trace = trace ++ ext ∧
      ∀ path val, Event.set path val ∈ ext →
        ∃ call ∈ calls, ∃ node ∈ call.nodes topo, node <+: path := by
  induction calls generalizing trace with
  | nil => exact ⟨[], by simp [runSession], by simp⟩
  | cons call calls ih =>
      obtain ⟨ext, kept, ran⟩ := ChanOp.run_addsFrom (stable call.dir) enough tunes call.op
        (noGain call (List.mem_cons_self _ _))
      obtain ⟨ext', ran', wrote⟩ :=
        ih (fun dir => (stable dir).extend fun e mem =>
            (kept e mem).belowBoardChild ChanCall.nodes_belowBoardChild)
          fun call' mem => noGain call' (List.mem_cons_of_mem _ mem)
      refine ⟨ext ++ ext', by rw [runSession, ran, ran', List.append_assoc], fun path val mem => ?_⟩
      rcases List.mem_append.mp mem with mem | mem
      · obtain ⟨node, owned, below⟩ := kept _ mem
        exact ⟨call, List.mem_cons_self _ _, node, owned, below⟩
      · obtain ⟨call', called, rest⟩ := wrote path val mem
        exact ⟨call', List.mem_cons_of_mem _ called, rest⟩

/-- What a session leaves of channel `c` of side `d`. -/
structure SparesChannel (dev : Device) (fuel : Nat) (collab : Collaborators) (topo : Topology)
    (calls : List ChanCall) (d : Dir) (c : Nat) (trace : List Event) : Prop where
  /-- No write of the session lands below the channel's DSP or subdevice node. -/
  untouched : ∃ ext, runSession dev fuel collab calls trace = trace ++ ext ∧
    ∀ node ∈ topo.chanNodes d c, ∀ path val, node <+: path → Event.set path val ∉ ext
  /-- Over a device that keeps its writes, every property there reads as before. -/
  unchanged : dev.Remembers → ∀ node ∈ topo.chanNodes d c, ∀ path, node <+: path →
    dev.get (runSession dev fuel collab calls trace) path = dev.get trace path

/-- Over a device that keeps showing the board layout while channel nodes are written, and
a layout in which no two channels share a node, a session of calls none of which acts on
channel `c` of side `d` (none is on `c`, none fans out over the side's `ALL_CHANS`) and none
of which goes through a gain group writes nothing below `c`'s DSP and subdevice nodes. -/
theorem runSession_sparesChannel
    (stable : ∀ dir, Always Event.BelowBoardChild (ShowsDsps dev topo dir) trace)
    (enough : topo.mboardNames.length < fuel) (tunes : collab.TunesInPlace)
    (distinct : topo.Distinct) {d : Dir} {c : Nat} (calls : List ChanCall)
    (others : ∀ call ∈ calls, ¬ call.op.UsesGainGroup ∧ ¬ (call.dir = d ∧ c ∈ call.targets topo)) :
    SparesChannel dev fuel collab topo calls d c trace := by
  obtain ⟨ext, ran, wrote⟩ := runSession_footprint stable enough tunes calls
    fun call mem => (others call mem).1
  have untouched : ∀ node ∈ topo.chanNodes d c, ∀ path val, node <+: path →
      Event.set path val ∉ ext := by
    intro node mem path val below written
    obtain ⟨call, called, node', owned, below'⟩ := wrote path val written
    obtain ⟨c', target, owned⟩ := List.mem_flatMap.mp owned
    refine distinct.apart (fun same => (others call called).2 ?_) owned mem below' below
    obtain ⟨sameDir, rfl⟩ := Prod.mk.inj_iff.mp same
    exact ⟨sameDir, target⟩
  refine ⟨⟨ext, ran, untouched⟩, fun remembers node mem path below => ?_⟩
  rw [ran]
  exact remembers.get_append_of_unwritten fun val => untouched node mem path val below

end Sessions

/-- Two boards with distinct names, DSP names and spec entries on both sides: board `A` has
two channels a side, board `B` one. -/
def twoSides : Topology where
  mboardNames := ["A", "B"]
  subdevSpec _ m := [[⟨"A", "0"⟩, ⟨"B", "0"⟩], [⟨"A", "0"⟩]].getD m []
  dspNames _ m := [["0", "1"], ["0"]].getD m []

/-- The board names, specs and DSP names of `twoSides`, on both sides, as properties. -/
def twoSidesTree : List (PropPath × WaxObj) :=
  (mboardNamesPath, .names twoSides.mboardNames) ::
    [Dir.rx, Dir.tx].flatMap fun dir => [0, 1].flatMap fun m =>
      [(mboardPropPath (twoSides.mboardNames.getD m "") dir.subdevSpecProp,
          .subdevSpec (twoSides.subdevSpec dir m)),
        (mboardPropPath (twoSides.mboardNames.getD m "") dir.dspNamesProp,
          .names (twoSides.dspNames dir m))]

theorem twoSides_showsDsps (dir : Dir) :
    ShowsDsps (Device.ofStore twoSidesTree) twoSides dir [] := by
  refine ⟨⟨rfl, fun m inside => ?_⟩, fun m inside => ?_⟩ <;>
  · have : m < 2 := inside
    rcases m with _ | _ | m <;> first | omega | cases dir <;> rfl

theorem twoSides_distinct : twoSides.Distinct where
  boards := by decide
  dsps dir m inside := by
    have : m < 2 := inside
    rcases m with _ | _ | m <;> first | omega | cases dir <;> decide
  specs dir m inside := by
    have : m < 2 := inside
    rcases m with _ | _ | m <;> first | omega | cases dir <;> decide
  hasDsps dir := by
    unfold Topology.HasDsps
    cases dir <;> decide

theorem idleCollaborators_tunesInPlace : idleCollaborators.TunesInPlace :=
  ⟨fun _ _ _ _ => (pure_confined _).adds, fun _ _ _ => (pure_confined _).adds⟩

/-- Calls on the other RX channels and on the TX side, every kind of write among them, and
a TX fan-out over `ALL_CHANS`. -/
def twoSidesSession : List ChanCall :=
  [⟨.rx, .setAntenna "RX2", 1⟩, ⟨.tx, .setRate 1000000, 0⟩,
    ⟨.rx, .setFreq ⟨2400000000, ⟨0⟩⟩, 2⟩, ⟨.rx, .issueStreamCmd ⟨1⟩, 1⟩,
    ⟨.rx, .setBandwidth 20000000, 2⟩, ⟨.tx, .setRate 500000, allChans⟩]

theorem runSession_sparesChannel_twoSides :
    (∀ dir, Always Event.BelowBoardChild
        (ShowsDsps (Device.ofStore twoSidesTree) twoSides dir) []) ∧
      twoSides.mboardNames.length < 4 ∧ idleCollaborators.TunesInPlace ∧ twoSides.Distinct ∧
      (∀ call ∈ twoSidesSession, ¬ call.op.UsesGainGroup ∧
        ¬ (call.dir = .rx ∧ 0 ∈ call.targets twoSides)) ∧
      SparesChannel (Device.ofStore twoSidesTree) 4 idleCollaborators twoSides twoSidesSession
        .rx 0 [] := by
  have stable : ∀ dir, Always Event.BelowBoardChild
      (ShowsDsps (Device.ofStore twoSidesTree) twoSides dir) [] :=
    fun dir => (Device.remembers_ofStore twoSidesTree).always_showsDsps (twoSides_showsDsps dir)
  have others : ∀ call ∈ twoSidesSession, ¬ call.op.UsesGainGroup ∧
      ¬ (call.dir = .rx ∧ 0 ∈ call.targets twoSides) := by
    intro call mem
    simp only [twoSidesSession, List.mem_cons, List.mem_singleton, List.not_mem_nil,
      or_false] at mem
    rcases mem with rfl | rfl | rfl | rfl | rfl | rfl <;> exact ⟨id, by decide⟩
  exact ⟨stable, by decide, idleCollaborators_tunesInPlace, twoSides_distinct, others,
    runSession_sparesChannel stable (by decide) idleCollaborators_tunesInPlace twoSides_distinct
      _ others⟩

end UhdHost
