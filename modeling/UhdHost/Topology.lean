import UhdHost.MultiUsrp

/-!
# Topologies, and the reads that resolve boards

The facade stores no board layout: every method reads the board names, and a board's
subdev spec or DSP names, from the device again.  A `Topology` is what those reads
return, and `Shows dev topo dir trace` says that the device returns it after `trace`.
The results about channels are about devices that keep showing one topology while the
facade runs: `Always keeps P trace` says that `P` holds after every extension of `trace`
by events that `keeps` admits.

Over such a device the board helpers of the facade only read, and return what the
topology says; a `for` loop that only reads folds its body over the indices up to the
bound it reads (`forLoop_readsTo`).
-/

namespace UhdHost

section Always

variable {keeps keeps' : Event → Prop} {P : List Event → Prop} {trace : List Event}

/-- `P` holds after `trace` extended by any events that `keeps` admits. -/
def Always (keeps : Event → Prop) (P : List Event → Prop) (trace : List Event) : Prop :=
  ∀ ext, (∀ e ∈ ext, keeps e) → P (trace ++ ext)

theorem Always.now (always : Always keeps P trace) : P trace := by
  simpa using always [] (by simp)

theorem Always.extend (always : Always keeps P trace) {ext : List Event}
    (kept : ∀ e ∈ ext, keeps e) : Always keeps P (trace ++ ext) := by
  intro ext' kept'
  rw [List.append_assoc]
  exact always _ fun e mem => (List.mem_append.mp mem).elim (kept e) (kept' e)

theorem Always.mono (weaker : ∀ e, keeps' e → keeps e) (always : Always keeps P trace) :
    Always keeps' P trace :=
  fun ext kept => always ext fun e mem => weaker e (kept e mem)

theorem Always.imp {Q : List Event → Prop} (implies : ∀ trace, P trace → Q trace)
    (always : Always keeps P trace) : Always keeps Q trace :=
  fun ext kept => implies _ (always ext kept)

end Always

/-- What the device shows of its boards: their names, and per board and side its subdev
spec and the names of its DSPs.  Boards are numbered by their place in the name list. -/
structure Topology where
  mboardNames : List String
  subdevSpec : Dir → Nat → SubdevSpec
  dspNames : Dir → Nat → List String

namespace Topology

variable (topo : Topology) (dir : Dir)

/-- The number of channels of board `m` on side `dir`: the size of its subdev spec. -/
def chanCount (m : Nat) : Nat := (topo.subdevSpec dir m).length

/-- The channels of the boards before `m`. -/
def chansBefore : Nat → Nat
  | 0 => 0
  | m + 1 => chansBefore m + topo.chanCount dir m

/-- All channels of side `dir`: the value `get_rx_num_channels` and `get_tx_num_channels`
compute. -/
def numChannels : Nat := topo.chansBefore dir topo.mboardNames.length

@[simp] theorem chansBefore_zero : topo.chansBefore dir 0 = 0 := rfl

theorem chansBefore_succ (m : Nat) :
    topo.chansBefore dir (m + 1) = topo.chansBefore dir m + topo.chanCount dir m := rfl

theorem chansBefore_mono {m m' : Nat} (le : m ≤ m') :
    topo.chansBefore dir m ≤ topo.chansBefore dir m' := by
  induction le with
  | refl => exact le_rfl
  | step _ ih => rw [chansBefore_succ]; omega

end Topology

/-- After `trace`, the device shows `topo`'s board names and each board's `dir` subdev
spec. -/
structure Shows (dev : Device) (topo : Topology) (dir : Dir) (trace : List Event) : Prop where
  names : dev.get trace mboardNamesPath = .ok (.names topo.mboardNames)
  specs : ∀ m (inside : m < topo.mboardNames.length),
    dev.get trace (mboardPropPath topo.mboardNames[m] dir.subdevSpecProp) =
      .ok (.subdevSpec (topo.subdevSpec dir m))

/-- After `trace`, the device also shows each board's `dir` DSP names. -/
structure ShowsDsps (dev : Device) (topo : Topology) (dir : Dir) (trace : List Event)
    extends Shows dev topo dir trace : Prop where
  dsps : ∀ m (inside : m < topo.mboardNames.length),
    dev.get trace (mboardPropPath topo.mboardNames[m] dir.dspNamesProp) =
      .ok (.names (topo.dspNames dir m))

/-- A device whose properties are the entries of `tree` and never change: a read of a
path missing from it fails, and every write is taken and forgotten. -/
def Device.ofTree (tree : List (PropPath × WaxObj)) : Device where
  get _ path := match tree.find? (·.1 = path) with
    | some entry => .ok entry.2
    | none => .error "no such property"
  set _ _ _ := .ok ()

section OfTree

variable {tree : List (PropPath × WaxObj)} {topo : Topology} {dir : Dir} {keeps : Event → Prop}

/-- A device that never changes shows what it shows after any events. -/
theorem always_ofTree (shows : Shows (Device.ofTree tree) topo dir [])
    (trace : List Event) : Always keeps (Shows (Device.ofTree tree) topo dir) trace :=
  fun _ _ => ⟨shows.names, shows.specs⟩

theorem always_ofTree_dsps (shows : ShowsDsps (Device.ofTree tree) topo dir [])
    (trace : List Event) : Always keeps (ShowsDsps (Device.ofTree tree) topo dir) trace :=
  fun _ _ => ⟨⟨shows.names, shows.specs⟩, shows.dsps⟩

end OfTree

section Reads

variable {α : Type} {dev : Device} {topo : Topology} {dir : Dir} {trace : List Event}

section Names

variable {names : List String}
  (showsNames : dev.get trace mboardNamesPath = .ok (.names names))
include showsNames

theorem getNumMboards_readsTo : ReadsTo (getNumMboards dev) trace names.length :=
  (getAs_readsTo showsNames rfl).bind fun _ _ => .pure _ _

theorem mboardNode_readsTo {m : Nat} (inside : m < names.length) :
    ReadsTo (mboardNode dev m) trace [.named (.device .mboard) names[m]] :=
  (getAs_readsTo showsNames rfl).bind fun _ _ =>
    (vectorAt_readsTo inside _).bind fun _ _ => .pure _ _

/-- `_mboard(m)` past the last board: `names.at(m)` throws. -/
theorem mboardNode_readsThenThrows {m : Nat} (outside : names.length ≤ m) :
    ReadsThenThrows (mboardNode dev m) trace .outOfRange :=
  (getAs_readsTo showsNames rfl).bind_throws fun _ _ =>
    (vectorAt_readsThenThrows outside _).bind

end Names

theorem getSubdevSpec_readsTo (steady : Always Event.IsGet (Shows dev topo dir) trace) {m : Nat}
    (inside : m < topo.mboardNames.length) :
    ReadsTo (getSubdevSpec dev dir m) trace (topo.subdevSpec dir m) :=
  (mboardNode_readsTo steady.now.names inside).bind fun _ reads =>
    getAs_readsTo ((steady.extend reads).now.specs m inside) rfl

theorem getSubdevSpec_readsThenThrows (shows : Shows dev topo dir trace) {m : Nat}
    (outside : topo.mboardNames.length ≤ m) :
    ReadsThenThrows (getSubdevSpec dev dir m) trace .outOfRange :=
  (mboardNode_readsThenThrows shows.names outside).bind

/-- The fold of a read-only loop body over the indices from `i` up to the bound. -/
def foldFrom (step : Nat → α → α) (i count : Nat) (acc : α) : α :=
  (List.range' i count).foldl (fun acc j => step j acc) acc

/-- A `for` loop whose body always ends normally, from traces where its bound keeps reading
`bound`: it leaves at index `max i bound` with its body folded over the indices it passed,
and what `proj` picks out of the events it added is what the passed indices contribute,
in order. -/
theorem forLoop_total {β : Type} {keeps : Event → Prop} {proj : Event → Option β}
    {P : List Event → Prop} {boundProg : UsrpM Nat} {body : Nat → α → UsrpM α} {bound : Nat}
    (step : Nat → α → α) (V : Nat → List β)
    (getsKept : ∀ e, e.IsGet → keeps e ∧ proj e = none)
    (closed : ∀ trace ext, P trace → (∀ e ∈ ext, keeps e) → P (trace ++ ext))
    (bounds : ∀ trace, P trace → ReadsTo boundProg trace bound)
    (steps : ∀ trace i acc, P trace → i < bound → ∃ ext, (∀ e ∈ ext, keeps e) ∧
      ext.filterMap proj = V i ∧ body i acc trace = .ok (step i acc) (trace ++ ext)) :
    ∀ fuel i acc trace, P trace → bound - i < fuel →
      ∃ ext, (∀ e ∈ ext, keeps e) ∧ ext.filterMap proj = (List.range' i (bound - i)).flatMap V ∧
        forLoop boundProg body fuel i acc trace =
          .ok (max i bound, foldFrom step i (bound - i) acc) (trace ++ ext)
  | 0, _, _, _, _, enough => absurd enough (Nat.not_lt_zero _)
  | fuel + 1, i, acc, trace, holds, enough => by
      obtain ⟨ext, gets, ranBound⟩ := bounds trace holds
      have keptGets : ∀ e ∈ ext, keeps e := fun e mem => (getsKept e (gets e mem)).1
      have quiet : ext.filterMap proj = [] :=
        List.filterMap_eq_nil_iff.mpr fun e mem => (getsKept e (gets e mem)).2
      simp only [forLoop]
      rw [run_bind_of_ok ranBound]
      by_cases more : i < bound
      · obtain ⟨ext', kept', out', ranBody⟩ := steps _ i acc (closed _ _ holds keptGets) more
        obtain ⟨ext'', kept'', out'', ranRest⟩ := forLoop_total step V getsKept closed bounds
          steps fuel (i + 1) (step i acc) _ (closed _ _ (closed _ _ holds keptGets) kept')
          (by omega)
        refine ⟨ext ++ ext' ++ ext'', ?_, ?_, ?_⟩
        · intro e mem
          simp only [List.mem_append] at mem
          rcases mem with (mem | mem) | mem
          exacts [keptGets e mem, kept' e mem, kept'' e mem]
        · rw [List.filterMap_append, List.filterMap_append, quiet, out', out'',
            show bound - i = bound - (i + 1) + 1 by omega, List.range'_succ, List.flatMap_cons]
          rfl
        · simp only [if_pos more]
          rw [run_bind_of_ok ranBody, ranRest, foldFrom, foldFrom,
            show bound - i = bound - (i + 1) + 1 by omega, List.range'_succ, List.foldl_cons,
            show max (i + 1) bound = max i bound by omega]
          simp only [List.append_assoc]
      · refine ⟨ext, keptGets, by simp [quiet, show bound - i = 0 by omega], ?_⟩
        simp only [if_neg more, foldFrom, show bound - i = 0 by omega, List.range'_zero,
          List.foldl_nil, show max i bound = i by omega]
        rfl

/-- A `for` loop that only reads, from a trace where its bound keeps reading `bound`:
it leaves at index `max i bound` with its body folded over the indices it passed. -/
theorem forLoop_readsTo {P : List Event → Prop} {boundProg : UsrpM Nat}
    {body : Nat → α → UsrpM α} {bound : Nat} (step : Nat → α → α)
    (closed : ∀ trace ext, P trace → AllGets ext → P (trace ++ ext))
    (bounds : ∀ trace, P trace → ReadsTo boundProg trace bound)
    (steps : ∀ trace i acc, P trace → i < bound → ReadsTo (body i acc) trace (step i acc))
    (fuel i : Nat) (acc : α) (trace : List Event) (holds : P trace) (enough : bound - i < fuel) :
    ReadsTo (forLoop boundProg body fuel i acc) trace
      (max i bound, foldFrom step i (bound - i) acc) := by
  obtain ⟨ext, gets, -, ran⟩ := forLoop_total step (fun _ => [])
    (fun e get => (⟨get, rfl⟩ : e.IsGet ∧ (none : Option Unit) = none)) closed bounds
    (fun trace i acc holds inRange => by
      obtain ⟨ext, gets, ran⟩ := steps trace i acc holds inRange
      exact ⟨ext, gets, by simp, ran⟩) fuel i acc trace holds enough
  exact ⟨ext, gets, ran⟩

theorem foldFrom_chanCount (count base : Nat) :
    foldFrom (fun m (sum : Nat) => sum + topo.chanCount dir m) 0 count base =
      base + topo.chansBefore dir count := by
  unfold foldFrom
  rw [← List.range_eq_range']
  induction count generalizing base with
  | zero => rfl
  | succ count ih => simp [List.range_succ, ih, Topology.chansBefore_succ, Nat.add_assoc]

/-- `get_rx_num_channels` and `get_tx_num_channels` add up the boards' spec sizes. -/
theorem getNumChannels_readsTo (steady : Always Event.IsGet (Shows dev topo dir) trace)
    {fuel : Nat} (enough : topo.mboardNames.length < fuel) :
    ReadsTo (getNumChannels dev fuel dir) trace (topo.numChannels dir) := by
  unfold getNumChannels
  refine (forLoop_readsTo (P := Always Event.IsGet (Shows dev topo dir))
    (fun m (sum : Nat) => sum + topo.chanCount dir m) (fun _ _ steady reads => steady.extend reads)
    (fun _ steady => getNumMboards_readsTo steady.now.names)
    (fun _ m _ steady inside => ?_) fuel 0 0 trace steady (by omega)).bind fun _ _ => ?_
  · exact (getSubdevSpec_readsTo steady inside).bind fun _ _ => .pure _ _
  · simp only [foldFrom_chanCount, Nat.sub_zero, Nat.zero_add]
    exact .pure _ _

end Reads

end UhdHost
