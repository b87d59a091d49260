import UhdHost.ChannelIsolation
import UhdHost.RateReadBack

/-!
# The channel settings over a store

Four properties are the facade's own to write on a channel: the DSP's host rate
(`set_rx_rate`) and stream command (`issue_stream_cmd`), and the subdevice's antenna
(`set_rx_antenna`) and bandwidth (`set_rx_bandwidth`).  Over a device that keeps its writes
and takes every write (a store), and a layout in which no two channels share a node, the
facade is a register file indexed by side, channel and setting (`Settings`).  A setter on a
channel in range writes its one register, and the setters that fan out write theirs on every
channel of their side when given `ALL_CHANS` (`ChanCall.targets`); a call past the last
channel, and every getter, writes none (`Settings.step`).  The getters of the rate, antenna
and bandwidth return the register as `as<T>()` reads it (`readAs`).

One call is one step of the file (`ChanOp.run_writes`, then `Refines.step`), and induction
over the calls lifts the step to whole sessions (`refines_runSession`).  On a store
every single-channel call of a fan-out ends normally (`FanOutOp.single_ok`), so the fan-out
loop runs to its end (`forLoop_runsAll`).  The methods that hand over to the tuning helpers or
the gain group are left out, since what those write is the collaborators' own.
-/

namespace UhdHost

/-- The settings the facade writes on a channel itself. -/
inductive ChanSetting where
  | hostRate | streamCmd | antenna | bandwidth
deriving DecidableEq, Repr

/-- The property key of a setting. -/
def ChanSetting.key : ChanSetting → WaxKey
  | .hostRate => .plain (.dsp .hostRate)
  | .streamCmd => .plain (.dsp .streamCmd)
  | .antenna => .plain (.subdev .antenna)
  | .bandwidth => .plain (.subdev .bandwidth)

/-- Whether a setting is a property of the channel's DSP, or else of its subdevice. -/
def ChanSetting.onDsp : ChanSetting → Bool
  | .hostRate | .streamCmd => true
  | .antenna | .bandwidth => false

theorem ChanSetting.key_injective : Function.Injective ChanSetting.key := by
  intro s s' same
  cases s <;> cases s' <;> first | rfl | cases same

/-- Where the setting of channel `chan` lives: below the node its setter resolves. -/
def Topology.settingPath (topo : Topology) (dir : Dir) (chan : Nat) (s : ChanSetting) :
    PropPath :=
  (if s.onDsp then topo.dspNode dir (topo.resolve dir chan)
    else topo.subdevNode dir (topo.resolve dir chan)) ++ [s.key]

theorem Topology.settingPath_belowBoardChild (topo : Topology) (dir : Dir) (chan : Nat)
    (s : ChanSetting) : (topo.settingPath dir chan s).BelowBoardChild := by
  unfold settingPath
  split
  · exact ⟨_, _, _, _, rfl⟩
  · exact ⟨_, _, _, _, rfl⟩

/-- Distinct channels in range, or distinct settings, live at distinct paths. -/
theorem Topology.Distinct.eq_of_settingPath_eq {topo : Topology} (distinct : topo.Distinct)
    {dir d : Dir} {chan c : Nat} {s s' : ChanSetting} (inRange : chan < topo.numChannels dir)
    (inRange' : c < topo.numChannels d) (same : topo.settingPath dir chan s = topo.settingPath d c s') :
    dir = d ∧ chan = c ∧ s = s' := by
  obtain ⟨nodes, keys⟩ := List.append_inj' same rfl
  obtain rfl := ChanSetting.key_injective (List.singleton_inj.mp keys)
  cases onDsp : s.onDsp <;> simp only [onDsp, Bool.false_eq_true, if_true, if_false] at nodes
  · obtain ⟨rfl, rfl⟩ := distinct.eq_of_subdevNode_eq inRange inRange' nodes
    exact ⟨rfl, rfl, rfl⟩
  · obtain ⟨rfl, rfl⟩ := distinct.eq_of_dspNode_eq inRange inRange' nodes
    exact ⟨rfl, rfl, rfl⟩

/-- The register file: what each setting of each channel of each side reads as. -/
abbrev Settings := Dir → Nat → ChanSetting → Except String WaxObj

/-- The registers a device shows after `trace`. -/
def Device.settings (dev : Device) (topo : Topology) (trace : List Event) : Settings :=
  fun dir chan s => dev.get trace (topo.settingPath dir chan s)

/-- What a call writes on its channel, when it is the setter of a setting. -/
def ChanOp.setting {dir : Dir} : ChanOp dir → Option (ChanSetting × WaxObj)
  | .setRate rate => some (.hostRate, .double rate)
  | .issueStreamCmd streamCmd => some (.streamCmd, .blob .streamCmd streamCmd)
  | .setAntenna ant => some (.antenna, .string ant)
  | .setBandwidth bandwidth => some (.bandwidth, .double bandwidth)
  | _ => none

/-- The methods that hand over to a collaborator: the tuning helpers or the gain group. -/
def ChanOp.UsesCollaborator {dir : Dir} : ChanOp dir → Prop
  | .getFreq | .setFreq _ | .setGain _ _ | .getGain _ | .getGainRange _ | .getGainNames => True
  | _ => False

/-- The writes of a call, in order: its setting on each channel it acts on. -/
def ChanCall.registerWrites (topo : Topology) (call : ChanCall) : List (PropPath × WaxObj) :=
  (call.targets topo).flatMap fun c =>
    (call.op.setting.map fun w => (topo.settingPath call.dir c w.1, w.2)).toList

theorem ChanCall.registerWrites_of_single {topo : Topology} {call : ChanCall}
    (single : ¬ (call.op.fanOut?.isSome ∧ call.chan = allChans)) :
    call.registerWrites topo = if call.chan < topo.numChannels call.dir then
      (call.op.setting.map fun w => (topo.settingPath call.dir call.chan w.1, w.2)).toList
      else [] := by
  unfold registerWrites targets
  rw [if_neg single]
  split <;> simp

theorem ChanCall.registerWrites_of_none {topo : Topology} {call : ChanCall}
    (written : call.op.setting = none) : call.registerWrites topo = [] := by
  simp [registerWrites, written]

theorem ChanCall.mem_registerWrites {topo : Topology} {call : ChanCall} {s₀ : ChanSetting}
    {val : WaxObj} (written : call.op.setting = some (s₀, val)) {w : PropPath × WaxObj} :
    w ∈ call.registerWrites topo ↔ ∃ c ∈ call.targets topo, w = (topo.settingPath call.dir c s₀, val) := by
  simp only [registerWrites, written, Option.map_some', Option.toList_some, List.mem_flatMap,
    List.mem_singleton]

/-- One call on the register file: a setter writes its register on each channel it acts on;
any other call leaves the file as it was. -/
def Settings.step (topo : Topology) (σ : Settings) (call : ChanCall) : Settings :=
  match call.op.setting with
  | some (s, val) => fun dir chan s' =>
      if dir = call.dir ∧ chan ∈ call.targets topo ∧ s' = s then .ok val else σ dir chan s'
  | none => σ

/-- After `trace`, the device holds the registers `σ` on every channel in range. -/
def Refines (dev : Device) (topo : Topology) (trace : List Event) (σ : Settings) : Prop :=
  ∀ dir chan s, chan < topo.numChannels dir →
    dev.get trace (topo.settingPath dir chan s) = σ dir chan s

theorem refines_settings (dev : Device) (topo : Topology) (trace : List Event) :
    Refines dev topo trace (dev.settings topo trace) :=
  fun _ _ _ _ => rfl

/-- What `tree[path].as<T>()` makes of the device's answer. -/
def readAs (α : Type) [WaxType α] : Except String WaxObj → Except UhdError α
  | .ok obj => match WaxType.cast? obj with
    | some val => .ok val
    | none => .error .badCast
  | .error what => .error (.device what)

section Steps

variable {α : Type} {dev : Device} {fuel : Nat} {collab : Collaborators} {topo : Topology}
  {dir : Dir} {trace : List Event}

theorem getAs_readsOut [WaxType α] {path : PropPath} {answer : Except String WaxObj}
    (answers : dev.get trace path = answer) : ReadsOut (getAs dev α path) trace (readAs α answer) := by
  cases answer with
  | error what =>
      exact ⟨[], by simp [AllGets], by simp [getAs, run_bind_of_error (getProp_run_error answers)]⟩
  | ok obj =>
      cases holds : (WaxType.cast? obj : Option α) with
      | some val =>
          simp only [readAs, holds, ReadsOut]
          exact getAs_readsTo answers holds
      | none =>
          simp only [readAs, holds, ReadsOut]
          exact ⟨[.get path obj], by simp [AllGets, Event.IsGet],
            by simp [getAs, run_bind_of_ok (getProp_run answers), holds]⟩

/-- A run that stops wherever `acc` stops, when `acc` only reads and never returns. -/
theorem bind_of_never {β γ : Type} {acc : UsrpM β} {f : β → UsrpM γ}
    (reads : Confined Event.IsGet acc) (never : ∀ b trace', acc trace ≠ .ok b trace') :
    ∃ ext, AllGets ext ∧ finalTrace ((acc >>= f) trace) = trace ++ ext := by
  obtain ⟨ext, gets, ran⟩ := reads.adds trace
  cases ranAcc : acc trace with
  | ok b mid => exact absurd ranAcc (never b mid)
  | error e mid =>
      rw [ranAcc] at ran
      exact ⟨ext, gets, by rw [run_bind_of_error ranAcc]; exact ran⟩

/-- On a device that takes every write, a write to a property of the node an accessor
returns is that one write when the channel is in range, and none past the last channel. -/
theorem setAt_writes {acc : UsrpM PropPath} {node : PropPath} {inRange : Prop} [Decidable inRange]
    (reads : Confined Event.IsGet acc) (owned : ∀ n trace', acc trace = .ok n trace' → inRange)
    (found : inRange → ReadsTo acc trace node)
    (takes : ∀ trace path val, dev.set trace path val = .ok ()) (key : WaxKey) (val : WaxObj) :
    ∃ ext, finalTrace ((acc >>= fun n => setProp dev (n ++ [key]) val) trace) = trace ++ ext ∧
      writes ext = if inRange then [(node ++ [key], val)] else [] := by
  by_cases inside : inRange
  · obtain ⟨ext, gets, ran⟩ := found inside
    refine ⟨ext ++ [.set (node ++ [key]) val], ?_, ?_⟩
    · rw [run_bind_of_ok ran, setProp_run (takes _ _ _), List.append_assoc]
      rfl
    · rw [writes_append, writes_of_allGets gets, if_pos inside]
      rfl
  · obtain ⟨ext, gets, ran⟩ := bind_of_never reads fun n trace' ran => inside (owned n trace' ran)
    exact ⟨ext, ran, by rw [writes_of_allGets gets, if_neg inside]⟩

/-- On a store, a read of a property of the node an accessor reads to returns what the
store held there before the accessor's reads. -/
theorem getAt_readsOut [WaxType α] (remembers : dev.Remembers) {acc : UsrpM PropPath}
    {node : PropPath} (reads : ReadsTo acc trace node) (key : WaxKey) :
    ReadsOut (acc >>= fun n => getAs dev α (n ++ [key])) trace
      (readAs α (dev.get trace (node ++ [key]))) :=
  reads.bindOut fun _ gets =>
    getAs_readsOut (remembers.get_append_of_unwritten fun _ mem => gets _ mem)

variable {chan : Nat}

/-- What a call of the facade's own that does not fan out writes, from a trace where a device
that takes every write shows the layout: a setter on a channel in range writes its setting
once, and nothing else writes. -/
theorem ChanOp.run_writes_plain (takes : ∀ trace path val, dev.set trace path val = .ok ())
    (shows : Always Event.IsGet (Shows dev topo dir) trace)
    (enough : topo.mboardNames.length < fuel) (op : ChanOp dir) (direct : ¬ op.UsesCollaborator)
    (plain : op.fanOut? = none) :
    ∃ ext, finalTrace (op.run dev fuel collab chan trace) = trace ++ ext ∧
      writes ext = if chan < topo.numChannels dir then
        (op.setting.map fun w => (topo.settingPath dir chan w.1, w.2)).toList else [] := by
  have getsKept : ∀ e : Event, e.IsGet → e.IsGet := fun _ get => get
  have subdevOwned : ∀ n trace', subdev dev fuel dir chan trace = .ok n trace' →
      chan < topo.numChannels dir := fun _ _ ran => (subdev_ok shows enough ran).1
  have readsOnly : ∀ {β : Type} {prog : UsrpM β}, Confined Event.IsGet prog →
      op.setting = none → ∃ ext, finalTrace (dropResult prog trace) = trace ++ ext ∧
        writes ext = if chan < topo.numChannels dir then
          (op.setting.map fun w => (topo.settingPath dir chan w.1, w.2)).toList else [] := by
    intro β prog confined none
    obtain ⟨ext, gets, ran⟩ := (confined.bind fun _ => pure_confined ()).adds trace
    exact ⟨ext, ran, by rw [writes_of_allGets gets, none]; simp⟩
  cases op with
  | setRate | issueStreamCmd => cases plain
  | setAntenna ant =>
      have wrote := setAt_writes (subdev_confined getsKept) subdevOwned
        (fun inRange => subdev_readsTo shows enough inRange) takes (.plain (.subdev .antenna))
        (.string ant)
      exact wrote
  | setBandwidth bandwidth =>
      have wrote := setAt_writes (subdev_confined getsKept) subdevOwned
        (fun inRange => subdev_readsTo shows enough inRange) takes (.plain (.subdev .bandwidth))
        (.double bandwidth)
      exact wrote
  | getFreq | setFreq | setGain | getGain | getGainRange | getGainNames =>
      exact absurd trivial direct
  | getRate => exact readsOnly ((dsp_confined getsKept).bind fun _ => getAs_confined getsKept) rfl
  | getFreqRange =>
      exact readsOnly ((subdev_confined getsKept).bind fun _ =>
        (getAs_confined getsKept).bind fun _ => (dsp_confined getsKept).bind fun _ =>
          (getAs_confined getsKept).bind fun _ => pure_confined _) rfl
  | getAntenna | getAntennas | getBandwidth | getSensorNames | getSubdevName =>
      exact readsOnly ((subdev_confined getsKept).bind fun _ => getAs_confined getsKept) rfl
  | getSensor name =>
      exact readsOnly ((subdev_confined getsKept).bind fun _ => getBlob_confined getsKept) rfl
  | getDboardIface =>
      exact readsOnly ((dboard_confined getsKept).bind fun _ => getBlob_confined getsKept) rfl

end Steps

section AllChans

variable {dev : Device} {fuel : Nat} {collab : Collaborators} {topo : Topology} {dir : Dir}
  {trace : List Event}

/-- A `for` loop each of whose calls ends normally under an invariant that its events keep,
and whose bound keeps reading `bound`, ends normally after the calls from index `i` on, with
their writes in order. -/
theorem forLoop_runsAll {keeps : Event → Prop} {Inv : List Event → Prop}
    {boundProg : UsrpM Nat} {call : Nat → UsrpM Unit} {bound : Nat}
    {W : Nat → List (PropPath × WaxObj)} (getsKept : ∀ e, e.IsGet → keeps e)
    (closed : ∀ trace ext, Inv trace → (∀ e ∈ ext, keeps e) → Inv (trace ++ ext))
    (bounds : ∀ trace, Inv trace → ReadsTo boundProg trace bound)
    (calls : ∀ trace c, Inv trace → c < bound → ∃ ext, call c trace = .ok () (trace ++ ext) ∧
      (∀ e ∈ ext, keeps e) ∧ writes ext = W c) :
    ∀ fuel i trace, Inv trace → i ≤ bound → bound - i < fuel →
      ∃ ext, forLoop boundProg (fun c _ => call c) fuel i () trace = .ok (bound, ()) (trace ++ ext) ∧
        writes ext = (List.range' i (bound - i)).flatMap W
  | 0, _, _, _, _, enough => absurd enough (Nat.not_lt_zero _)
  | fuel + 1, i, trace, holds, upTo, enough => by
      obtain ⟨ext, gets, ranBound⟩ := bounds trace holds
      have holds' := closed _ _ holds fun e mem => getsKept e (gets e mem)
      rw [forLoop_succ_of_bound ranBound]
      by_cases more : i < bound
      · obtain ⟨ext', ranCall, kept, wrote⟩ := calls _ i holds' more
        obtain ⟨ext'', ranRest, wrote''⟩ := forLoop_runsAll getsKept closed bounds calls fuel
          (i + 1) _ (closed _ _ holds' kept) more (by omega)
        refine ⟨ext ++ ext' ++ ext'', ?_, ?_⟩
        · simp only [if_pos more, run_bind_of_ok ranCall]
          rw [ranRest]
          simp
        · rw [writes_append, writes_append, writes_of_allGets gets, wrote, wrote'',
            show bound - i = bound - (i + 1) + 1 by omega, List.range'_succ, List.flatMap_cons]
          rfl
      · obtain rfl : i = bound := by omega
        exact ⟨ext, by simp, by simp [writes_of_allGets gets]⟩

/-- On a store that takes every write, the single-channel branch of a setter that fans out
ends normally on every channel in range whose board lists a DSP for it: the rate read back
is the rate just written. -/
theorem FanOutOp.single_ok (remembers : dev.Remembers)
    (takes : ∀ trace path val, dev.set trace path val = .ok ())
    (steady : Always Event.SparesTopology (ShowsDsps dev topo dir) trace)
    (enough : topo.mboardNames.length < fuel) (op : FanOutOp dir) {chan : Nat}
    (inRange : chan < topo.numChannels dir)
    (hasDsp : (topo.resolve dir chan).chan <
      (topo.dspNames dir (topo.resolve dir chan).mboard).length) :
    ∃ trace', op.single dev fuel chan trace = .ok () trace' := by
  have getsKept : ∀ e : Event, e.IsGet → e.SparesTopology := fun _ get =>
    Event.sparesTopology_of_isGet get
  obtain ⟨reads, gets, ran⟩ := dsp_readsTo (steady.mono getsKept) enough inRange hasDsp
  cases op with
  | issueStreamCmd streamCmd =>
      exact ⟨_, by rw [FanOutOp.single, issueStreamCmdChan, run_bind_of_ok ran,
        setProp_run (takes _ _ _)]⟩
  | setRate rate =>
      let path := topo.dspNode dir (topo.resolve dir chan) ++ [.plain (.dsp .hostRate)]
      have steady' : Always Event.SparesTopology (ShowsDsps dev topo dir)
          (trace ++ (reads ++ [.set path (.double rate)])) := steady.extend fun e mem =>
        (List.mem_append.mp mem).elim (fun mem => getsKept e (gets e mem)) fun mem => by
          rw [List.mem_singleton.mp mem]
          exact ⟨.hostRate, List.getLast?_concat _⟩
      have readBack : ReadsOut (UhdHost.getRate dev fuel dir chan)
          (trace ++ (reads ++ [.set path (.double rate)]))
          (readAs Float (dev.get (trace ++ (reads ++ [.set path (.double rate)])) path)) :=
        getAt_readsOut remembers (dsp_readsTo (steady'.mono getsKept) enough inRange hasDsp) _
      rw [← List.append_assoc, remembers.readBack] at readBack
      obtain ⟨reads', -, ranGet⟩ := readBack
      simp only [FanOutOp.single, setRateChan]
      rw [run_bind_of_ok ran, run_bind_of_ok (setProp_run (takes _ _ _)), run_bind_of_ok ranGet]
      unfold doSampRateWarningMessage
      split
      · exact ⟨_, rfl⟩
      · exact ⟨_, rfl⟩

/-- On a store that takes every write and shows the layout, with a DSP for every channel and
fuel for every channel, a setter given `ALL_CHANS` ends normally after writing its setting on
each channel of its side once, channel by channel. -/
theorem FanOutOp.allChans_writes (remembers : dev.Remembers)
    (takes : ∀ trace path val, dev.set trace path val = .ok ())
    (steady : Always Event.SparesTopology (ShowsDsps dev topo dir) trace)
    (hasDsps : topo.HasDsps dir) (enough : topo.mboardNames.length < fuel)
    (enoughChans : topo.numChannels dir < fuel) (op : FanOutOp dir) :
    ∃ ext, op.run dev fuel allChans trace = .ok () (trace ++ ext) ∧
      writes ext = (List.range (topo.numChannels dir)).map fun c =>
        op.write (topo.dspNode dir (topo.resolve dir c)) := by
  have getsKept : ∀ e : Event, e.IsGet → e.SparesTopology := fun _ get =>
    Event.sparesTopology_of_isGet get
  obtain ⟨ext, ran, wrote⟩ := forLoop_runsAll getsKept (fun _ _ holds kept => holds.extend kept)
    (fun _ holds => getNumChannels_readsTo ((holds.mono getsKept).imp fun _ shows =>
      shows.toShows) enough)
    (fun _ _ holds inRange => by
      obtain ⟨_, ran⟩ := op.single_ok remembers takes holds enough inRange
        (hasDsps _ (Topology.resolve_mem_chanPairs inRange))
      obtain ⟨ext, rfl, kept, wrote⟩ := (single_endsWith holds enough op inRange).1 () _ ran
      exact ⟨ext, ran, kept, wrote⟩)
    fuel 0 trace steady (Nat.zero_le _) (by omega)
  refine ⟨ext, ?_, ?_⟩
  · rw [FanOutOp.run_allChans, forEachChan, run_bind_of_ok ran]
    rfl
  · rw [wrote, Nat.sub_zero, ← List.range_eq_range', List.map_eq_flatMap]

/-- On a store that takes every write and shows the layout, with a DSP for every channel and
fuel for every channel, a setter that fans out writes its setting on every channel of its side
given `ALL_CHANS`, on its channel when in range, and nowhere past the last channel. -/
theorem FanOutOp.run_writes (remembers : dev.Remembers)
    (takes : ∀ trace path val, dev.set trace path val = .ok ())
    (steady : Always Event.SparesTopology (ShowsDsps dev topo dir) trace)
    (hasDsps : topo.HasDsps dir) (enough : topo.mboardNames.length < fuel)
    (enoughChans : topo.numChannels dir < fuel) (op : FanOutOp dir) (chan : Nat) :
    ∃ ext, finalTrace (op.run dev fuel chan trace) = trace ++ ext ∧
      writes ext = (if chan = allChans then List.range (topo.numChannels dir)
        else if chan < topo.numChannels dir then [chan] else []).map fun c =>
          op.write (topo.dspNode dir (topo.resolve dir c)) := by
  by_cases all : chan = allChans
  · obtain rfl := all
    obtain ⟨ext, ran, wrote⟩ := op.allChans_writes remembers takes steady hasDsps enough enoughChans
    exact ⟨ext, by rw [ran]; rfl, by rw [if_pos rfl, wrote]⟩
  rw [if_neg all, op.run_of_ne all]
  by_cases inRange : chan < topo.numChannels dir
  · obtain ⟨_, ran⟩ := op.single_ok remembers takes steady enough inRange
      (hasDsps _ (Topology.resolve_mem_chanPairs inRange))
    obtain ⟨ext, rfl, -, wrote⟩ := (single_endsWith steady enough op inRange).1 () _ ran
    exact ⟨ext, by rw [ran]; rfl, by rw [if_pos inRange, wrote]; rfl⟩
  · have throws : ReadsThenThrows (op.single dev fuel chan) trace .outOfRange := by
      cases op <;> exact (accessors_readThenThrow ((steady.mono fun _ =>
        Event.sparesTopology_of_isGet).imp fun _ shows => shows.toShows) enough (by omega)).1.bind
    obtain ⟨ext, gets, ran⟩ := throws
    exact ⟨ext, by rw [ran]; rfl, by rw [if_neg inRange, writes_of_allGets gets]; rfl⟩

theorem ChanOp.setting_of_fanOut {op : ChanOp dir} {fanOut : FanOutOp dir}
    (fans : op.fanOut? = some fanOut) (chan : Nat) :
    op.setting.map (fun w => (topo.settingPath dir chan w.1, w.2)) =
      some (fanOut.write (topo.dspNode dir (topo.resolve dir chan))) := by
  cases op <;> simp only [ChanOp.fanOut?, reduceCtorEq, Option.some.injEq] at fans <;>
    (subst fans; rfl)

/-- A device that keeps its writes keeps showing the layout while DSP properties are
written. -/
theorem Device.Remembers.always_showsDsps_sparing (remembers : dev.Remembers)
    (shows : ShowsDsps dev topo dir trace) :
    Always Event.SparesTopology (ShowsDsps dev topo dir) trace :=
  remembers.always_showsDsps_of (fun layout _ ⟨_, last⟩ => by
    rcases layout with rfl | ⟨_, _, rfl⟩ <;> simp [mboardNamesPath, mboardPropPath] at last) shows

/-- What one call of the facade's own writes, from a trace where a store that takes every
write shows the layout, with fuel for every channel: its setting on each channel it acts on,
and nothing else. -/
theorem ChanOp.run_writes (remembers : dev.Remembers)
    (takes : ∀ trace path val, dev.set trace path val = .ok ())
    (steady : Always Event.SparesTopology (ShowsDsps dev topo dir) trace)
    (hasDsps : topo.HasDsps dir) (enough : topo.mboardNames.length < fuel)
    (enoughChans : topo.numChannels dir < fuel) (op : ChanOp dir) (direct : ¬ op.UsesCollaborator)
    (chan : Nat) :
    ∃ ext, finalTrace (op.run dev fuel collab chan trace) = trace ++ ext ∧
      writes ext = ChanCall.registerWrites topo ⟨dir, op, chan⟩ := by
  cases fans : op.fanOut? with
  | some fanOut =>
      obtain ⟨ext, ran, wrote⟩ :=
        fanOut.run_writes remembers takes steady hasDsps enough enoughChans chan
      refine ⟨ext, by rw [ChanOp.run_of_fanOut fans]; exact ran, ?_⟩
      simp only [wrote, ChanCall.registerWrites, ChanCall.targets, fans, Option.isSome_some,
        true_and, ChanOp.setting_of_fanOut fans, Option.toList_some, List.map_eq_flatMap]
  | none =>
      rw [ChanCall.registerWrites_of_single (by simp [fans])]
      exact op.run_writes_plain takes ((steady.mono fun _ => Event.sparesTopology_of_isGet).imp
        fun _ shows => shows.toShows) enough direct fans

end AllChans

section Sessions

variable {dev : Device} {fuel : Nat} {collab : Collaborators} {topo : Topology}
  {trace : List Event}

theorem belowBoardChild_of_writes {ext : List Event}
    (below : ∀ w ∈ writes ext, w.1.BelowBoardChild) : ∀ e ∈ ext, e.BelowBoardChild := by
  intro e mem
  cases e with
  | set path val => exact below (path, val) (mem_writes.mpr mem)
  | _ => trivial

theorem ChanCall.belowBoardChild_of_mem_registerWrites {call : ChanCall}
    {w : PropPath × WaxObj} (mem : w ∈ call.registerWrites topo) : w.1.BelowBoardChild := by
  cases written : call.op.setting with
  | none =>
      rw [registerWrites_of_none written] at mem
      cases mem
  | some setting =>
      obtain ⟨c, -, rfl⟩ := (mem_registerWrites written).mp mem
      exact Topology.settingPath_belowBoardChild _ _ _ _

/-- What a setter's writes hold at a setting of a channel in range: its value where it acts,
nothing elsewhere. -/
theorem ChanCall.lastWrite_registerWrites (distinct : topo.Distinct) {call : ChanCall}
    {s₀ : ChanSetting} {val : WaxObj} (written : call.op.setting = some (s₀, val)) {dir : Dir}
    {chan : Nat} {s : ChanSetting} (inRange : chan < topo.numChannels dir) :
    lastWrite (call.registerWrites topo) (topo.settingPath dir chan s) =
      if dir = call.dir ∧ chan ∈ call.targets topo ∧ s = s₀ then some val else none := by
  have mem : ∀ {w}, w ∈ call.registerWrites topo ↔
      ∃ c ∈ call.targets topo, w = (topo.settingPath call.dir c s₀, val) :=
    mem_registerWrites written
  split
  · rename_i same
    obtain ⟨rfl, target, rfl⟩ := same
    exact lastWrite_eq_of_values (fun w written => by obtain ⟨c, -, rfl⟩ := mem.mp written; rfl)
      (List.mem_map.mpr ⟨_, mem.mpr ⟨chan, target, rfl⟩, rfl⟩)
  · rename_i differ
    refine lastWrite_eq_none fun written => differ ?_
    obtain ⟨w, written, samePath⟩ := List.mem_map.mp written
    obtain ⟨c, target, rfl⟩ := mem.mp written
    obtain ⟨rfl, rfl, rfl⟩ :=
      distinct.eq_of_settingPath_eq (lt_of_mem_targets target) inRange samePath
    exact ⟨rfl, target, rfl⟩

/-- A call whose writes are `ChanCall.registerWrites` is one step of the register file. -/
theorem Refines.step (remembers : dev.Remembers) (distinct : topo.Distinct) {σ : Settings}
    (refines : Refines dev topo trace σ) {call : ChanCall} {ext : List Event}
    (wrote : writes ext = call.registerWrites topo) :
    Refines dev topo (trace ++ ext) (Settings.step topo σ call) := by
  intro dir chan s inRange
  rw [remembers.get_append, refines dir chan s inRange, wrote]
  unfold Settings.step
  cases written : call.op.setting with
  | none =>
      rw [ChanCall.registerWrites_of_none written]
      rfl
  | some setting =>
      obtain ⟨s₀, val⟩ := setting
      rw [ChanCall.lastWrite_registerWrites distinct written inRange]
      by_cases same : dir = call.dir ∧ chan ∈ call.targets topo ∧ s = s₀ <;> simp [same]

/-- A session of the facade's own calls, over a store that takes every write and shows the
layout, keeps the layout shown and moves the registers as the file does. -/
theorem refines_runSession (remembers : dev.Remembers)
    (takes : ∀ trace path val, dev.set trace path val = .ok ()) (distinct : topo.Distinct)
    (enough : topo.mboardNames.length < fuel) (enoughChans : ∀ dir, topo.numChannels dir < fuel) :
    ∀ (calls : List ChanCall) {trace : List Event} {σ : Settings},
      (∀ dir, ShowsDsps dev topo dir trace) → Refines dev topo trace σ →
      (∀ call ∈ calls, ¬ call.op.UsesCollaborator) →
      (∀ dir, ShowsDsps dev topo dir (runSession dev fuel collab calls trace)) ∧
        Refines dev topo (runSession dev fuel collab calls trace)
          (calls.foldl (Settings.step topo) σ)
  | [], _, _, shows, refines, _ => ⟨shows, refines⟩
  | call :: calls, trace, σ, shows, refines, direct => by
      have ran : ∃ ext, finalTrace (call.op.run dev fuel collab call.chan trace) = trace ++ ext ∧
          writes ext = _ :=
        ChanOp.run_writes remembers takes (remembers.always_showsDsps_sparing (shows call.dir))
          (distinct.hasDsps call.dir) enough (enoughChans call.dir) call.op
          (direct call (List.mem_cons_self _ _)) call.chan
      obtain ⟨ext, ran, wrote⟩ := ran
      have below : ∀ e ∈ ext, e.BelowBoardChild := belowBoardChild_of_writes fun w mem =>
        ChanCall.belowBoardChild_of_mem_registerWrites (wrote ▸ mem)
      rw [runSession, ran, List.foldl_cons]
      exact refines_runSession remembers takes distinct enough enoughChans calls
        (fun dir => ((remembers.always_showsDsps (shows dir)).extend below).now)
        (refines.step remembers distinct wrote) fun call' mem =>
          direct call' (List.mem_cons_of_mem _ mem)

/-- On a store that shows the layout and holds the registers `σ`, the getters of the rate,
antenna and bandwidth of a channel in range return its registers. -/
theorem Refines.reads (remembers : dev.Remembers) (distinct : topo.Distinct) {dir : Dir}
    (shows : ShowsDsps dev topo dir trace) (enough : topo.mboardNames.length < fuel)
    {σ : Settings} (refines : Refines dev topo trace σ) {chan : Nat}
    (inRange : chan < topo.numChannels dir) :
    ReadsOut (getRate dev fuel dir chan) trace (readAs Float (σ dir chan .hostRate)) ∧
      ReadsOut (getAntenna dev fuel dir chan) trace (readAs String (σ dir chan .antenna)) ∧
      ReadsOut (getBandwidth dev fuel dir chan) trace (readAs Float (σ dir chan .bandwidth)) := by
  have steady := (remembers.always_showsDsps shows).mono fun _ => Event.belowBoardChild_of_isGet
  have dspReads := dsp_readsTo steady enough inRange
    (distinct.hasDsps dir _ (Topology.resolve_mem_chanPairs inRange))
  have subdevReads := subdev_readsTo (steady.imp fun _ s => s.toShows) enough inRange
  rw [← refines dir chan .hostRate inRange, ← refines dir chan .antenna inRange,
    ← refines dir chan .bandwidth inRange]
  exact ⟨getAt_readsOut remembers dspReads _, getAt_readsOut remembers subdevReads _,
    getAt_readsOut remembers subdevReads _⟩

/-- What a session of the facade's own channel calls does over a store, read through the
register file. -/
structure RefinesSettings (dev : Device) (fuel : Nat) (collab : Collaborators)
    (topo : Topology) (calls : List ChanCall) (trace : List Event) (σ : Settings) : Prop where
  /-- After the session the store holds, on every channel in range, the registers of the
  same calls run on the file. -/
  settings : Refines dev topo (runSession dev fuel collab calls trace)
    (calls.foldl (Settings.step topo) σ)
  /-- Then `get_rx_rate`, `get_rx_antenna` and `get_rx_bandwidth`, and their TX twins, return
  the channel's registers. -/
  reads : ∀ dir chan, chan < topo.numChannels dir →
    ReadsOut (getRate dev fuel dir chan) (runSession dev fuel collab calls trace)
        (readAs Float (calls.foldl (Settings.step topo) σ dir chan .hostRate)) ∧
      ReadsOut (getAntenna dev fuel dir chan) (runSession dev fuel collab calls trace)
        (readAs String (calls.foldl (Settings.step topo) σ dir chan .antenna)) ∧
      ReadsOut (getBandwidth dev fuel dir chan) (runSession dev fuel collab calls trace)
        (readAs Float (calls.foldl (Settings.step topo) σ dir chan .bandwidth))

/-- Over a store that takes every write and shows a layout in which no two channels share a
node, with fuel for every board and channel, a session of the facade's own channel calls
(none handed to the tuning helpers or the gain group) acts on the channel settings as the
register file does: a setter writes its one register on its channel when in range, and on
every channel of its side when it fans out over `ALL_CHANS`; every other call writes none;
and the getters read the registers back. -/
theorem runSession_refinesSettings (remembers : dev.Remembers)
    (takes : ∀ trace path val, dev.set trace path val = .ok ())
    (shows : ∀ dir, ShowsDsps dev topo dir trace) (distinct : topo.Distinct)
    (enough : topo.mboardNames.length < fuel) (enoughChans : ∀ dir, topo.numChannels dir < fuel)
    {σ : Settings} (refines : Refines dev topo trace σ) (calls : List ChanCall)
    (direct : ∀ call ∈ calls, ¬ call.op.UsesCollaborator) :
    RefinesSettings dev fuel collab topo calls trace σ := by
  obtain ⟨shows', refines'⟩ :=
    refines_runSession remembers takes distinct enough enoughChans calls shows refines direct
  exact ⟨refines', fun dir chan inRange =>
    refines'.reads remembers distinct (shows' dir) enough inRange⟩

end Sessions

/-- Setters on single channels and over `ALL_CHANS` on both sides, a setter past the last
channel, a getter, and a second write of one register. -/
def twoSidesSetters : List ChanCall :=
  [⟨.rx, .setRate 1000000, 1⟩, ⟨.tx, .setAntenna "TX/RX", 0⟩, ⟨.tx, .setRate 500000, allChans⟩,
    ⟨.rx, .issueStreamCmd ⟨1⟩, allChans⟩, ⟨.rx, .setBandwidth 20000000, 7⟩,
    ⟨.rx, .getAntenna, 0⟩, ⟨.rx, .setRate 2000000, 1⟩]

theorem runSession_refinesSettings_twoSides :
    (Device.ofStore twoSidesTree).Remembers ∧
      (∀ trace path val, (Device.ofStore twoSidesTree).set trace path val = .ok ()) ∧
      (∀ dir, ShowsDsps (Device.ofStore twoSidesTree) twoSides dir []) ∧ twoSides.Distinct ∧
      twoSides.mboardNames.length < 4 ∧ (∀ dir, twoSides.numChannels dir < 4) ∧
      Refines (Device.ofStore twoSidesTree) twoSides []
        ((Device.ofStore twoSidesTree).settings twoSides []) ∧
      (∀ call ∈ twoSidesSetters, ¬ call.op.UsesCollaborator) ∧
      RefinesSettings (Device.ofStore twoSidesTree) 4 idleCollaborators twoSides twoSidesSetters
        [] ((Device.ofStore twoSidesTree).settings twoSides []) := by
  have enoughChans : ∀ dir, twoSides.numChannels dir < 4 := by
    intro dir
    cases dir <;> decide
  have direct : ∀ call ∈ twoSidesSetters, ¬ call.op.UsesCollaborator := by
    intro call mem
    simp only [twoSidesSetters, List.mem_cons, List.mem_singleton, List.not_mem_nil,
      or_false] at mem
    rcases mem with rfl | rfl | rfl | rfl | rfl | rfl | rfl <;> exact id
  exact ⟨Device.remembers_ofStore _, fun _ _ _ => rfl, twoSides_showsDsps, twoSides_distinct,
    by decide, enoughChans, refines_settings _ _ _, direct,
    runSession_refinesSettings (Device.remembers_ofStore _) (fun _ _ _ => rfl) twoSides_showsDsps
      twoSides_distinct (by decide) enoughChans (refines_settings _ _ _) _ direct⟩

end UhdHost
