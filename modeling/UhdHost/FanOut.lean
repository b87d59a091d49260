import UhdHost.OutOfRange

/-!
# Fan-outs over all channels

`set_rx_rate`, `set_tx_rate` and `issue_stream_cmd`, given `ALL_CHANS`, call themselves for
each channel in turn, the channel count read again before each call.  The single-channel
branch resolves the channel to its DSP and writes one property of it.

The fan-out is studied on devices on which writing a DSP property changes neither the
board list nor any board's subdev spec or DSP names:
`Always Event.SparesTopology (ShowsDsps ...)`.
Over such a device every single-channel call either raises or ends after exactly its one
write (`EndsWith`), the count stays the same, and the loop runs the calls for channels
`0, ..., N-1` in order until one raises (`forLoop_fansOut`).  Since the channels resolve
board by board (`Topology.map_resolve_range`), the writes hit each DSP of each board once,
in board-major order.
-/

namespace UhdHost

/-- The events after which a device of this module still shows its topology: reads, writes
of a DSP property, and messages. -/
def Event.SparesTopology : Event → Prop
  | .set path _ => ∃ prop, path.getLast? = some (.plain (.dsp prop))
  | _ => True

theorem Event.sparesTopology_of_isGet {e : Event} (get : e.IsGet) : e.SparesTopology := by
  obtain ⟨_, _, rfl⟩ := Event.eq_get_of_isGet get
  trivial

section EndsWith

variable {α β : Type} {dev : Device} {keeps : Event → Prop} {trace : List Event}

/-- Whenever `prog` ends normally from `trace`, it has added events that `keeps` admits,
and `ws` are their writes. -/
def EndsWith (keeps : Event → Prop) (prog : UsrpM α) (trace : List Event)
    (ws : List (PropPath × WaxObj)) : Prop :=
  ∀ a trace', prog trace = .ok a trace' →
    ∃ ext, trace' = trace ++ ext ∧ (∀ e ∈ ext, keeps e) ∧ writes ext = ws

theorem EndsWith.of_pure (a : α) : EndsWith keeps (pure a) trace [] := by
  intro b trace' ran
  cases ran
  exact ⟨[], by simp, by simp, rfl⟩

theorem ReadsThenThrows.endsWith {prog : UsrpM α} {e : UhdError}
    (throws : ReadsThenThrows prog trace e) (ws : List (PropPath × WaxObj)) :
    EndsWith keeps prog trace ws := by
  obtain ⟨ext, -, ran⟩ := throws
  intro a trace' ran'
  rw [ran] at ran'
  cases ran'

theorem ReadsTo.endsWith {prog : UsrpM α} {a : α} (getsKept : ∀ e, e.IsGet → keeps e)
    (reads : ReadsTo prog trace a) : EndsWith keeps prog trace [] := by
  obtain ⟨ext, gets, ran⟩ := reads
  intro b trace' ran'
  rw [ran] at ran'
  cases ran'
  exact ⟨ext, rfl, fun e mem => getsKept e (gets e mem), writes_of_allGets gets⟩

theorem EndsWith.bind {prog : UsrpM α} {f : α → UsrpM β} {ws ws' : List (PropPath × WaxObj)}
    (first : EndsWith keeps prog trace ws)
    (rest : ∀ a ext, prog trace = .ok a (trace ++ ext) → (∀ e ∈ ext, keeps e) →
      EndsWith keeps (f a) (trace ++ ext) ws') :
    EndsWith keeps (prog >>= f) trace (ws ++ ws') := by
  intro b trace' ran
  cases ranFirst : prog trace with
  | ok a mid =>
      rw [run_bind_of_ok ranFirst] at ran
      obtain ⟨ext, rfl, kept, wrote⟩ := first a mid ranFirst
      obtain ⟨ext', rfl, kept', wrote'⟩ := rest a ext ranFirst kept b trace' ran
      exact ⟨ext ++ ext', by simp,
        fun e mem => (List.mem_append.mp mem).elim (kept e) (kept' e),
        by rw [writes_append, wrote, wrote']⟩
  | error e mid =>
      rw [run_bind_of_error ranFirst] at ran
      cases ran

theorem EndsWith.bind_readsTo {prog : UsrpM α} {f : α → UsrpM β} {a : α}
    {ws : List (PropPath × WaxObj)} (getsKept : ∀ e, e.IsGet → keeps e)
    (first : ReadsTo prog trace a)
    (rest : ∀ ext, AllGets ext → EndsWith keeps (f a) (trace ++ ext) ws) :
    EndsWith keeps (prog >>= f) trace ws := by
  obtain ⟨ext, gets, ranFirst⟩ := first
  intro b trace' ran
  rw [run_bind_of_ok ranFirst] at ran
  obtain ⟨ext', rfl, kept, wrote⟩ := rest ext gets b trace' ran
  exact ⟨ext ++ ext', by simp,
    fun e mem => (List.mem_append.mp mem).elim (fun mem => getsKept e (gets e mem)) (kept e),
    by rw [writes_append, writes_of_allGets gets, wrote]; rfl⟩

theorem EndsWith.of_setProp {path : PropPath} {val : WaxObj} (kept : keeps (.set path val)) :
    EndsWith keeps (setProp dev path val) trace [(path, val)] := by
  intro a trace' ran
  unfold setProp at ran
  split at ran
  · cases ran
    exact ⟨[.set path val], rfl, by simpa using kept, rfl⟩
  · cases ran

theorem EndsWith.of_getProp {path : PropPath} (getsKept : ∀ e, e.IsGet → keeps e) :
    EndsWith keeps (getProp dev path) trace [] := by
  intro a trace' ran
  unfold getProp at ran
  split at ran
  · cases ran
    refine ⟨[.get path _], rfl, fun e mem => ?_, rfl⟩
    rw [List.mem_singleton.mp mem]
    exact getsKept _ trivial
  · cases ran

theorem EndsWith.of_getAs [WaxType α] {path : PropPath} (getsKept : ∀ e, e.IsGet → keeps e) :
    EndsWith keeps (getAs dev α path) trace [] := by
  unfold getAs
  refine (EndsWith.of_getProp getsKept).bind fun obj ext _ _ => ?_
  split
  · exact .of_pure _
  · exact (ReadsThenThrows.throw _ _).endsWith _

theorem EndsWith.of_record {event : Event} (kept : keeps event) :
    EndsWith keeps (record event) trace (writes [event]) := by
  intro a trace' ran
  cases ran
  exact ⟨[event], rfl, by simpa using kept, rfl⟩

end EndsWith

/-- One test of a `for` loop whose bound has been read. -/
theorem forLoop_succ_of_bound {α : Type} {boundProg : UsrpM Nat} {body : Nat → α → UsrpM α}
    {trace trace' : List Event} {bound : Nat} (ran : boundProg trace = .ok bound trace')
    (fuel i : Nat) (acc : α) :
    forLoop boundProg body (fuel + 1) i acc trace =
      (if i < bound then body i acc >>= fun acc => forLoop boundProg body fuel (i + 1) acc
        else pure (i, acc)) trace' := by
  simp only [forLoop]
  rw [run_bind_of_ok ran]

/-- A `for` loop whose calls keep an invariant under which its bound keeps reading `bound`:
it either ends normally after every call from index `i` on ran normally, with their writes
in order, or it raises what the call on some index `c` raised, from a trace holding the
writes of the calls before `c`. -/
theorem forLoop_fansOut {keeps : Event → Prop} {Inv : List Event → Prop}
    {boundProg : UsrpM Nat} {call : Nat → UsrpM Unit} {bound : Nat}
    {W : Nat → List (PropPath × WaxObj)}
    (getsKept : ∀ e, e.IsGet → keeps e)
    (closed : ∀ trace ext, Inv trace → (∀ e ∈ ext, keeps e) → Inv (trace ++ ext))
    (bounds : ∀ trace, Inv trace → ReadsTo boundProg trace bound)
    (calls : ∀ trace c, Inv trace → c < bound → EndsWith keeps (call c) trace (W c)) :
    ∀ fuel i trace, Inv trace → i ≤ bound → bound - i < fuel →
      (∀ r trace', forLoop boundProg (fun c _ => call c) fuel i () trace = .ok r trace' →
        (∀ c, i ≤ c → c < bound → ∃ t t', Inv t ∧ call c t = .ok () t') ∧
        ∃ ext, trace' = trace ++ ext ∧ writes ext = (List.range' i (bound - i)).flatMap W) ∧
      (∀ e trace', forLoop boundProg (fun c _ => call c) fuel i () trace = .error e trace' →
        ∃ c, i ≤ c ∧ c < bound ∧ ∃ ext,
          writes ext = (List.range' i (c - i)).flatMap W ∧ call c (trace ++ ext) = .error e trace')
  | 0, _, _, _, _, enough => absurd enough (Nat.not_lt_zero _)
  | fuel + 1, i, trace, holds, upTo, enough => by
      obtain ⟨ext, gets, ranBound⟩ := bounds trace holds
      have holds' := closed _ _ holds fun e mem => getsKept e (gets e mem)
      rw [forLoop_succ_of_bound ranBound]
      by_cases more : i < bound
      · simp only [if_pos more]
        have next := forLoop_fansOut getsKept closed bounds calls fuel (i + 1)
        cases ranCall : call i (trace ++ ext) with
        | ok u mid =>
            cases u
            obtain ⟨ext', rfl, kept, wrote⟩ := calls _ i holds' more () mid ranCall
            obtain ⟨nextOk, nextError⟩ := next _ (closed _ _ holds' kept) more (by omega)
            rw [run_bind_of_ok ranCall]
            refine ⟨fun r trace' ran => ?_, fun e trace' ran => ?_⟩
            · obtain ⟨allOk, ext'', rfl, wrote''⟩ := nextOk r trace' ran
              refine ⟨fun c lo hi => ?_, ext ++ ext' ++ ext'', by simp, ?_⟩
              · rcases Nat.eq_or_lt_of_le lo with rfl | later
                · exact ⟨_, _, holds', ranCall⟩
                · exact allOk c later hi
              · rw [writes_append, writes_append, writes_of_allGets gets, wrote, wrote'',
                  show bound - i = bound - (i + 1) + 1 by omega, List.range'_succ,
                  List.flatMap_cons]
                rfl
            · obtain ⟨c, lo, hi, ext'', wrote'', ranC⟩ :=
                nextError e trace' ran
              refine ⟨c, by omega, hi, ext ++ ext' ++ ext'', ?_, by simpa using ranC⟩
              rw [writes_append, writes_append, writes_of_allGets gets, wrote, wrote'',
                show c - i = c - (i + 1) + 1 by omega, List.range'_succ, List.flatMap_cons]
              rfl
        | error e' mid =>
            rw [run_bind_of_error ranCall]
            refine ⟨fun r trace' ran => (by cases ran), fun e trace' ran => ?_⟩
            cases ran
            exact ⟨i, le_rfl, more, ext, by simp [writes_of_allGets gets], ranCall⟩
      · simp only [if_neg more]
        refine ⟨fun r trace' ran => ?_, fun e trace' ran => (by cases ran)⟩
        cases ran
        exact ⟨fun c lo hi => absurd hi (by omega), ext, rfl,
          by simp [show bound - i = 0 by omega, writes_of_allGets gets]⟩

namespace Topology

variable (topo : Topology) (dir : Dir)

/-- The DSP node of channel `mcp` as `_rx_dsp` and `_tx_dsp` build it. -/
def dspNode (mcp : MboardChanPair) : PropPath :=
  [.named (.device .mboard) (topo.mboardNames.getD mcp.mboard ""),
    .named (.mboard dir.dspProp) ((topo.dspNames dir mcp.mboard).getD mcp.chan "")]

/-- Every channel of side `dir` has a DSP: board `m` lists at least `s_m` DSP names. -/
def HasDsps : Prop :=
  ∀ mcp ∈ topo.chanPairs dir, mcp.chan < (topo.dspNames dir mcp.mboard).length

end Topology

/-- The setters that fan out over `ALL_CHANS` on side `dir`: `set_rx_rate` and
`set_tx_rate`, and `issue_stream_cmd` on the RX side. -/
inductive FanOutOp : Dir → Type where
  | setRate {dir : Dir} (rate : Float) : FanOutOp dir
  | issueStreamCmd (streamCmd : Blob) : FanOutOp .rx

section FanOutOps

variable (dev : Device) (fuel : Nat)

/-- The setter on channel `chan`, `ALL_CHANS` included. -/
def FanOutOp.run {dir : Dir} : FanOutOp dir → Nat → UsrpM Unit
  | .setRate rate, chan => UhdHost.setRate dev fuel dir rate chan
  | .issueStreamCmd streamCmd, chan => UhdHost.issueStreamCmd dev fuel streamCmd chan

/-- The setter's single-channel branch. -/
def FanOutOp.single {dir : Dir} : FanOutOp dir → Nat → UsrpM Unit
  | .setRate rate => setRateChan dev fuel dir rate
  | .issueStreamCmd streamCmd => issueStreamCmdChan dev fuel streamCmd

end FanOutOps

/-- The one write of the single-channel branch, to the DSP at `dspNode`. -/
def FanOutOp.write {dir : Dir} : FanOutOp dir → PropPath → PropPath × WaxObj
  | .setRate rate, dspNode => (dspNode ++ [.plain (.dsp .hostRate)], .double rate)
  | .issueStreamCmd streamCmd, dspNode =>
      (dspNode ++ [.plain (.dsp .streamCmd)], .blob .streamCmd streamCmd)

section Channels

variable {dev : Device} {fuel : Nat} {topo : Topology} {dir : Dir} {trace : List Event}

theorem dsp_readsTo (steady : Always Event.IsGet (ShowsDsps dev topo dir) trace)
    (enough : topo.mboardNames.length < fuel) {chan : Nat} (inRange : chan < topo.numChannels dir)
    (hasDsp : (topo.resolve dir chan).chan <
      (topo.dspNames dir (topo.resolve dir chan).mboard).length) :
    ReadsTo (dsp dev fuel dir chan) trace (topo.dspNode dir (topo.resolve dir chan)) := by
  obtain ⟨onBoard, -, -⟩ := Topology.resolve_of_lt inRange
  have node : topo.dspNode dir (topo.resolve dir chan) =
      [.named (.device .mboard) topo.mboardNames[(topo.resolve dir chan).mboard]] ++
        [.named (.mboard dir.dspProp)
          (topo.dspNames dir (topo.resolve dir chan).mboard)[(topo.resolve dir chan).chan]] := by
    simp [Topology.dspNode, onBoard, hasDsp]
  rw [node]
  exact (chanToMcp_readsTo (steady.imp fun _ shows => shows.toShows) enough chan).bind
    fun _ reads => (mboardNode_readsTo (steady.extend reads).now.names onBoard).bind
    fun _ reads' => (getAs_readsTo (((steady.extend reads).extend reads').now.dsps _ onBoard)
      rfl).bind
    fun _ reads'' => (mboardNode_readsTo
      (((steady.extend reads).extend reads').extend reads'').now.names onBoard).bind
    fun _ _ => (vectorAt_readsTo hasDsp _).bind fun _ _ => .pure _ _

theorem dsp_readsThenThrows_of_noDsp (steady : Always Event.IsGet (ShowsDsps dev topo dir) trace)
    (enough : topo.mboardNames.length < fuel) {chan : Nat} (inRange : chan < topo.numChannels dir)
    (noDsp : (topo.dspNames dir (topo.resolve dir chan).mboard).length ≤
      (topo.resolve dir chan).chan) :
    ReadsThenThrows (dsp dev fuel dir chan) trace .outOfRange := by
  obtain ⟨onBoard, -, -⟩ := Topology.resolve_of_lt inRange
  exact (chanToMcp_readsTo (steady.imp fun _ shows => shows.toShows) enough chan).bind_throws
    fun _ reads => (mboardNode_readsTo (steady.extend reads).now.names onBoard).bind_throws
    fun _ reads' => (getAs_readsTo (((steady.extend reads).extend reads').now.dsps _ onBoard)
      rfl).bind_throws
    fun _ reads'' => (mboardNode_readsTo
      (((steady.extend reads).extend reads').extend reads'').now.names onBoard).bind_throws
    fun _ _ => (vectorAt_readsThenThrows noDsp _).bind

/-- The DSP resolution, in range, either reads to the DSP node or throws. -/
theorem dsp_endsWith (steady : Always Event.IsGet (ShowsDsps dev topo dir) trace)
    (enough : topo.mboardNames.length < fuel) {chan : Nat}
    (inRange : chan < topo.numChannels dir) :
    EndsWith Event.SparesTopology (dsp dev fuel dir chan) trace [] := by
  by_cases hasDsp : (topo.resolve dir chan).chan <
      (topo.dspNames dir (topo.resolve dir chan).mboard).length
  · exact (dsp_readsTo steady enough inRange hasDsp).endsWith
      fun _ get => Event.sparesTopology_of_isGet get
  · exact (dsp_readsThenThrows_of_noDsp steady enough inRange (by omega)).endsWith _

/-- The read-back and warning of `set_rx_rate` and `set_tx_rate` write nothing. -/
theorem rateReadBack_endsWith (steady : Always Event.SparesTopology (ShowsDsps dev topo dir) trace)
    (enough : topo.mboardNames.length < fuel) {chan : Nat} (inRange : chan < topo.numChannels dir)
    (rate : Float) :
    EndsWith Event.SparesTopology (getRate dev fuel dir chan >>= fun actual =>
      doSampRateWarningMessage rate actual dir.label) trace [] := by
  have getsKept : ∀ e : Event, e.IsGet → e.SparesTopology := fun _ get =>
    Event.sparesTopology_of_isGet get
  refine ((dsp_endsWith (steady.mono getsKept) enough inRange).bind fun _ _ _ _ =>
    EndsWith.of_getAs getsKept).bind fun _ _ _ _ => ?_
  unfold doSampRateWarningMessage
  split
  · exact EndsWith.of_record trivial
  · exact .of_pure _

/-- The single-channel branch on a channel in range writes its one property of the
channel's DSP, and ends normally only if the channel's board lists a DSP for it. -/
theorem single_endsWith (steady : Always Event.SparesTopology (ShowsDsps dev topo dir) trace)
    (enough : topo.mboardNames.length < fuel) (op : FanOutOp dir) {chan : Nat}
    (inRange : chan < topo.numChannels dir) :
    EndsWith Event.SparesTopology (op.single dev fuel chan) trace
        [op.write (topo.dspNode dir (topo.resolve dir chan))] ∧
      ∀ t', op.single dev fuel chan trace = .ok () t' →
        (topo.resolve dir chan).chan <
          (topo.dspNames dir (topo.resolve dir chan).mboard).length := by
  have getsKept : ∀ e : Event, e.IsGet → e.SparesTopology := fun _ get =>
    Event.sparesTopology_of_isGet get
  have reading := steady.mono getsKept
  by_cases hasDsp : (topo.resolve dir chan).chan <
      (topo.dspNames dir (topo.resolve dir chan).mboard).length
  · refine ⟨?_, fun _ _ => hasDsp⟩
    cases op with
    | setRate rate =>
        refine EndsWith.bind_readsTo getsKept (dsp_readsTo reading enough inRange hasDsp)
          fun ext gets => ?_
        have steady' := steady.extend fun e mem => getsKept e (gets e mem)
        simpa only [List.append_nil] using
          (EndsWith.of_setProp ⟨.hostRate, List.getLast?_concat _⟩).bind fun _ _ _ kept =>
            rateReadBack_endsWith (steady'.extend kept) enough inRange rate
    | issueStreamCmd streamCmd =>
        exact EndsWith.bind_readsTo getsKept (dsp_readsTo reading enough inRange hasDsp)
          fun _ _ => EndsWith.of_setProp ⟨.streamCmd, List.getLast?_concat _⟩
  · have throws : ReadsThenThrows (op.single dev fuel chan) trace .outOfRange := by
      cases op <;> exact (dsp_readsThenThrows_of_noDsp reading enough inRange (by omega)).bind
    refine ⟨throws.endsWith _, fun t' ran => ?_⟩
    obtain ⟨ext, -, ranThrows⟩ := throws
    rw [ranThrows] at ran
    cases ran

theorem FanOutOp.run_of_ne (op : FanOutOp dir) {chan : Nat} (notAll : chan ≠ allChans) :
    op.run dev fuel chan = op.single dev fuel chan := by
  cases op <;> simp [FanOutOp.run, FanOutOp.single, UhdHost.setRate, UhdHost.issueStreamCmd, notAll]

theorem FanOutOp.run_allChans (op : FanOutOp dir) :
    op.run dev fuel allChans = forEachChan dev fuel dir (op.single dev fuel) := by
  cases op <;> simp [FanOutOp.run, FanOutOp.single, UhdHost.setRate, UhdHost.issueStreamCmd]

/-- A loop run for its effects only ends normally when the loop does. -/
theorem discard_ok {β : Type} {prog : UsrpM β} {trace' : List Event}
    (ran : (prog >>= fun _ => pure ()) trace = .ok () trace') : ∃ r, prog trace = .ok r trace' := by
  cases ranProg : prog trace with
  | ok r mid => rw [run_bind_of_ok ranProg] at ran; cases ran; exact ⟨r, rfl⟩
  | error e mid => rw [run_bind_of_error ranProg] at ran; cases ran

/-- A loop run for its effects only raises what the loop raises. -/
theorem discard_error {β : Type} {prog : UsrpM β} {e : UhdError} {trace' : List Event}
    (ran : (prog >>= fun _ => pure ()) trace = .error e trace') : prog trace = .error e trace' := by
  cases ranProg : prog trace with
  | ok r mid => rw [run_bind_of_ok ranProg] at ran; cases ran
  | error e' mid => rw [run_bind_of_error ranProg] at ran; cases ran; rfl

theorem flatMap_range_eq_map_take {c : Nat}
    (upTo : c ≤ topo.numChannels dir) (g : MboardChanPair → PropPath × WaxObj) :
    (List.range' 0 c).flatMap (fun c => [g (topo.resolve dir c)]) =
      ((topo.chanPairs dir).take c).map g := by
  rw [← Topology.map_resolve_range, ← List.map_take, List.take_range, Nat.min_eq_left upTo,
    List.map_map, List.map_eq_flatMap, List.range_eq_range']
  rfl

end Channels

/-- What the setter `op` does given `ALL_CHANS`, over a device that shows `topo` after
`trace`: a single channel's call makes its one write to the channel's DSP; the fan-out
ends normally after these writes for every channel, each once, board by board, every
board listing a DSP for each of its channels; or it raises what the single-channel branch
raised on some channel `c`, from a trace holding the writes of the channels before `c`. -/
structure FansOut (dev : Device) (fuel : Nat) (topo : Topology) (dir : Dir) (op : FanOutOp dir)
    (trace : List Event) : Prop where
  single : ∀ chan, chan < topo.numChannels dir → chan ≠ allChans →
    ∀ trace', op.run dev fuel chan trace = .ok () trace' →
      ∃ ext, trace' = trace ++ ext ∧ writes ext = [op.write (topo.dspNode dir (topo.resolve dir chan))]
  ok : ∀ trace', op.run dev fuel allChans trace = .ok () trace' →
    topo.HasDsps dir ∧ ∃ ext, trace' = trace ++ ext ∧
      writes ext = (topo.chanPairs dir).map fun mcp => op.write (topo.dspNode dir mcp)
  error : ∀ e trace', op.run dev fuel allChans trace = .error e trace' →
    ∃ chan < topo.numChannels dir, ∃ ext,
      writes ext = ((topo.chanPairs dir).take chan).map (fun mcp => op.write (topo.dspNode dir mcp)) ∧
      op.single dev fuel chan (trace ++ ext) = .error e trace'

theorem fanOut_writes_each_channel_once {dev : Device} {fuel : Nat} {topo : Topology} {dir : Dir}
    {trace : List Event} (steady : Always Event.SparesTopology (ShowsDsps dev topo dir) trace)
    (enough : topo.mboardNames.length < fuel) (enoughChans : topo.numChannels dir < fuel)
    (op : FanOutOp dir) : FansOut dev fuel topo dir op trace := by
  have getsKept : ∀ e : Event, e.IsGet → e.SparesTopology := fun _ get =>
    Event.sparesTopology_of_isGet get
  obtain ⟨loopOk, loopError⟩ := forLoop_fansOut getsKept (fun _ _ holds kept => holds.extend kept)
    (fun _ holds => getNumChannels_readsTo ((holds.mono getsKept).imp fun _ shows => shows.toShows)
      enough)
    (fun _ _ holds inRange => (single_endsWith holds enough op inRange).1) fuel 0 trace steady
    (Nat.zero_le _) (by omega)
  refine ⟨fun chan inRange notAll trace' ran => ?_, fun trace' ran => ?_, fun e trace' ran => ?_⟩
  · rw [op.run_of_ne notAll] at ran
    obtain ⟨ext, rfl, -, wrote⟩ := (single_endsWith steady enough op inRange).1 () trace' ran
    exact ⟨ext, rfl, wrote⟩
  · rw [op.run_allChans] at ran
    obtain ⟨r, ranLoop⟩ := discard_ok ran
    obtain ⟨allOk, ext, rfl, wrote⟩ := loopOk r trace' ranLoop
    refine ⟨fun mcp mem => ?_, ext, rfl, ?_⟩
    · rw [← Topology.map_resolve_range] at mem
      obtain ⟨chan, inRange, rfl⟩ := List.mem_map.mp mem
      obtain ⟨t, t', holds, ranChan⟩ := allOk chan (Nat.zero_le _) (List.mem_range.mp inRange)
      exact (single_endsWith holds enough op (List.mem_range.mp inRange)).2 t' ranChan
    · rw [wrote, Nat.sub_zero,
        flatMap_range_eq_map_take le_rfl fun mcp => op.write (topo.dspNode dir mcp),
        List.take_of_length_le]
      simp [← Topology.map_resolve_range]
  · rw [op.run_allChans] at ran
    obtain ⟨chan, -, inRange, ext, wrote, ranChan⟩ := loopError e trace' (discard_error ran)
    refine ⟨chan, inRange, ext, ?_, ranChan⟩
    rw [wrote, Nat.sub_zero]
    exact flatMap_range_eq_map_take inRange.le fun mcp => op.write (topo.dspNode dir mcp)

theorem fanOut_writes_each_channel_once_threeBoards :
    Always Event.SparesTopology (ShowsDsps (Device.ofTree threeBoardsTree) threeBoards .rx) [] ∧
      threeBoards.mboardNames.length < 7 ∧ threeBoards.numChannels .rx < 7 ∧
      FansOut (Device.ofTree threeBoardsTree) 7 threeBoards .rx (.issueStreamCmd ⟨0⟩) [] ∧
      FansOut (Device.ofTree threeBoardsTree) 7 threeBoards .rx (.setRate 1000000) [] ∧
      (∃ trace', (FanOutOp.issueStreamCmd ⟨0⟩).run (Device.ofTree threeBoardsTree) 7 allChans [] =
        .ok () trace') ∧
      ∃ e trace', (FanOutOp.setRate 1000000 : FanOutOp .rx).run (Device.ofTree threeBoardsTree) 7
        allChans [] = .error e trace' :=
  have steady : Always Event.SparesTopology
      (ShowsDsps (Device.ofTree threeBoardsTree) threeBoards .rx) [] :=
    always_ofTree_dsps threeBoards_showsDsps []
  ⟨steady, by decide, by decide, fanOut_writes_each_channel_once steady (by decide) (by decide) _,
    fanOut_writes_each_channel_once steady (by decide) (by decide) _, ⟨_, rfl⟩, ⟨_, _, rfl⟩⟩

end UhdHost
