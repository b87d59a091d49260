import UhdHost.BoardFanOut

/-!
# The channel map follows the live subdev spec

The facade caches no board layout: `get_rx_num_channels` and `rx_chan_to_mcp` read every
board's subdev spec again on each call.  So over a device that keeps what is written to it
(`Device.Remembers`), a `set_rx_subdev_spec` that ends normally renumbers the channels of
the very next call: they are counted and resolved over the topology with the new spec in
place of the written boards' (`SpecTakesEffect`).
-/

namespace UhdHost

section Store

/-- The value last written to `path` among the writes `ws`, if any. -/
def lastWrite (ws : List (PropPath × WaxObj)) (path : PropPath) : Option WaxObj :=
  (ws.reverse.find? fun w => w.1 = path).map Prod.snd

variable {ws : List (PropPath × WaxObj)} {path : PropPath}

@[simp] theorem lastWrite_nil (path : PropPath) : lastWrite [] path = none := rfl

@[simp] theorem lastWrite_append_self (val : WaxObj) :
    lastWrite (ws ++ [(path, val)]) path = some val := by
  simp [lastWrite]

theorem lastWrite_append_of_ne {other : PropPath} (ne : other ≠ path) (val : WaxObj) :
    lastWrite (ws ++ [(other, val)]) path = lastWrite ws path := by
  simp [lastWrite, ne]

theorem lastWrite_eq_none (unwritten : path ∉ ws.map Prod.fst) : lastWrite ws path = none := by
  simp only [lastWrite, Option.map_eq_none', List.find?_eq_none, List.mem_reverse,
    decide_eq_true_eq]
  exact fun w mem same => unwritten (List.mem_map.mpr ⟨w, mem, same⟩)

theorem lastWrite_eq_of_values {val : WaxObj} (values : ∀ w ∈ ws, w.2 = val)
    (written : path ∈ ws.map Prod.fst) : lastWrite ws path = some val := by
  obtain ⟨w, mem, rfl⟩ := List.mem_map.mp written
  have present : (ws.reverse.find? fun w' => w'.1 = w.1).isSome :=
    List.find?_isSome.mpr ⟨w, List.mem_reverse.mpr mem, by simp⟩
  obtain ⟨found, last⟩ := Option.isSome_iff_exists.mp present
  rw [lastWrite, last, Option.map_some',
    values found (List.mem_reverse.mp (List.mem_of_find?_eq_some last))]

theorem mem_writes {ext : List Event} {w : PropPath × WaxObj} :
    w ∈ writes ext ↔ Event.set w.1 w.2 ∈ ext := by
  induction ext with
  | nil => simp [writes]
  | cons e ext ih => cases e <;> simp [writes, ih, Prod.ext_iff, eq_comm]

end Store

/-- A device that keeps what is written to it: a read of a path just written returns the
written value, and any other event leaves what a read of a path returns as it was. -/
structure Device.Remembers (dev : Device) : Prop where
  readBack : ∀ trace path val, dev.get (trace ++ [.set path val]) path = .ok val
  frame : ∀ trace e path, (∀ val, e ≠ .set path val) →
    dev.get (trace ++ [e]) path = dev.get trace path

/-- A device whose properties start as the entries of `tree` and then hold what was last
written to them; every write is taken. -/
def Device.ofStore (tree : List (PropPath × WaxObj)) : Device where
  get trace path := (lastWrite (writes trace) path).elim ((Device.ofTree tree).get [] path) .ok
  set _ _ _ := .ok ()

theorem Device.remembers_ofStore (tree : List (PropPath × WaxObj)) :
    (Device.ofStore tree).Remembers where
  readBack _ _ _ := by simp [Device.ofStore, writes_append, writes]
  frame trace e path other := by
    cases e with
    | set written val =>
        have ne : written ≠ path := fun same => other val (by rw [same])
        simp [Device.ofStore, writes_append, writes, lastWrite_append_of_ne ne]
    | _ => simp [Device.ofStore, writes_append, writes]

namespace Device.Remembers

variable {dev : Device} (remembers : dev.Remembers)
include remembers

/-- A read after `ext` returns what `ext` last wrote to the path, or else what it returned
before `ext`. -/
theorem get_append (trace ext : List Event) (path : PropPath) :
    dev.get (trace ++ ext) path = (lastWrite (writes ext) path).elim (dev.get trace path) .ok := by
  induction ext using List.reverseRecOn with
  | nil => simp [writes]
  | append_singleton ext e ih =>
      rw [← List.append_assoc, writes_append]
      cases e with
      | set written val =>
          by_cases same : written = path
          · subst same
            rw [remembers.readBack]
            simp [writes]
          · rw [remembers.frame _ _ _ (by simp [same]), ih]
            simp [writes, lastWrite_append_of_ne same]
      | _ => simpa [writes] using (remembers.frame _ _ _ (by simp)).trans ih

theorem get_append_of_unwritten {trace ext : List Event} {path : PropPath}
    (unwritten : ∀ val, Event.set path val ∉ ext) :
    dev.get (trace ++ ext) path = dev.get trace path := by
  rw [remembers.get_append, lastWrite_eq_none]
  · rfl
  · simpa [mem_writes] using unwritten

theorem always_shows {topo : Topology} {dir : Dir} {trace : List Event}
    (shows : Shows dev topo dir trace) : Always Event.IsGet (Shows dev topo dir) trace := by
  intro ext reads
  have unwritten : ∀ path val, Event.set path val ∉ ext := fun _ _ mem => reads _ mem
  exact ⟨(remembers.get_append_of_unwritten (unwritten _)).trans shows.names,
    fun m inside =>
      (remembers.get_append_of_unwritten (unwritten _)).trans (shows.specs m inside)⟩

theorem always_listsBoards {names : List String} {prop : MboardProp} {trace : List Event}
    (listed : ListsBoards dev names trace) :
    Always (Event.KeepsBoards prop) (ListsBoards dev names) trace := fun ext kept => by
  rw [ListsBoards, remembers.get_append_of_unwritten fun _ mem => by cases kept _ mem]
  exact listed

end Device.Remembers

namespace Topology

/-- `topo` with the `dir` subdev spec of each board `m` replaced by `specs m`. -/
def withSpecs (topo : Topology) (dir : Dir) (specs : Nat → SubdevSpec) : Topology :=
  { topo with subdevSpec := fun side m => if side = dir then specs m else topo.subdevSpec side m }

@[simp] theorem withSpecs_mboardNames (topo : Topology) (dir : Dir) (specs : Nat → SubdevSpec) :
    (topo.withSpecs dir specs).mboardNames = topo.mboardNames := rfl

@[simp] theorem withSpecs_subdevSpec (topo : Topology) (dir : Dir) (specs : Nat → SubdevSpec)
    (m : Nat) : (topo.withSpecs dir specs).subdevSpec dir m = specs m := if_pos rfl

end Topology

/-- After `trace`, the channel-indexed calls see `topo`: the reads they make return it, and
the channel count and the channel map are computed over it. -/
structure SeesTopology (dev : Device) (fuel : Nat) (topo : Topology) (dir : Dir)
    (trace : List Event) : Prop where
  shows : Always Event.IsGet (Shows dev topo dir) trace
  count : ReadsTo (getNumChannels dev fuel dir) trace (topo.numChannels dir)
  resolves : ∀ chan, ReadsTo (chanToMcp dev fuel dir chan) trace (topo.resolve dir chan)

section Specs

variable {dev : Device} {fuel : Nat} {topo : Topology} {dir : Dir} {trace : List Event}

theorem SeesTopology.of_always (steady : Always Event.IsGet (Shows dev topo dir) trace)
    (enough : topo.mboardNames.length < fuel) : SeesTopology dev fuel topo dir trace :=
  ⟨steady, getNumChannels_readsTo steady enough, chanToMcp_readsTo steady enough⟩

/-- After writes that leave the board list alone, a remembering device shows each board's
spec as last written, or as before where none was. -/
theorem Device.Remembers.seesTopology (remembers : dev.Remembers)
    (shows : Shows dev topo dir trace) (enough : topo.mboardNames.length < fuel)
    {ext : List Event} (namesKept : mboardNamesPath ∉ (writes ext).map Prod.fst)
    {specs : Nat → SubdevSpec} (written : ∀ m (inside : m < topo.mboardNames.length),
      (lastWrite (writes ext) (mboardPropPath topo.mboardNames[m] dir.subdevSpecProp)).getD
        (.subdevSpec (topo.subdevSpec dir m)) = .subdevSpec (specs m)) :
    SeesTopology dev fuel (topo.withSpecs dir specs) dir (trace ++ ext) := by
  refine .of_always (remembers.always_shows ⟨?_, fun m inside => ?_⟩) enough
  · rw [remembers.get_append, lastWrite_eq_none namesKept]
    exact shows.names
  · simp only [Topology.withSpecs_mboardNames, Topology.withSpecs_subdevSpec] at inside ⊢
    rw [remembers.get_append, shows.specs m inside, ← written m inside]
    cases lastWrite (writes ext) _ <;> rfl

theorem mboardNamesPath_not_mem_boardWrites (names : List String) (prop : MboardProp)
    (val : WaxObj) : mboardNamesPath ∉ (boardWrites names prop val).map Prod.fst := by
  simp [boardWrites, mboardNamesPath, mboardPropPath]

end Specs

/-- What a `set_rx_subdev_spec` (or `set_tx_subdev_spec`) that ends normally leaves for the
next channel-indexed call. -/
structure SpecTakesEffect (dev : Device) (fuel : Nat) (topo : Topology) (dir : Dir)
    (spec : SubdevSpec) (trace : List Event) : Prop where
  /-- Set on one board, the spec replaces that board's, and no other. -/
  single : ∀ m < topo.mboardNames.length, m ≠ allMboards → ∀ trace',
    setSubdevSpec dev fuel dir spec m trace = .ok () trace' →
      SeesTopology dev fuel (topo.withSpecs dir (Function.update (topo.subdevSpec dir) m spec))
        dir trace'
  /-- Set on all boards, the spec replaces every board's. -/
  all : ∀ trace', setSubdevSpec dev fuel dir spec allMboards trace = .ok () trace' →
    SeesTopology dev fuel (topo.withSpecs dir fun _ => spec) dir trace'

/-- Over a device that keeps what is written to it and whose boards have distinct names, the
channel count and the channel map of the next call follow the subdev spec just set. -/
theorem setSubdevSpec_takesEffect {dev : Device} {fuel : Nat} {topo : Topology} {dir : Dir}
    {trace : List Event} (remembers : dev.Remembers) (shows : Shows dev topo dir trace)
    (distinct : topo.mboardNames.Nodup) (enough : topo.mboardNames.length < fuel)
    (spec : SubdevSpec) : SpecTakesEffect dev fuel topo dir spec trace := by
  have listed : Always (Event.KeepsBoards dir.subdevSpecProp) (ListsBoards dev topo.mboardNames)
      trace := remembers.always_listsBoards shows.names
  refine ⟨fun m inside notAll trace' ran => ?_, fun trace' ran => ?_⟩
  · rw [setSubdevSpec, setMboardProp, if_pos notAll] at ran
    obtain ⟨ext, rfl, -, wrote⟩ := mboardSet_endsWith listed inside _ () trace' ran
    refine remembers.seesTopology shows enough (by simp [wrote, mboardNamesPath, mboardPropPath])
      fun k inside' => ?_
    by_cases same : k = m
    · subst same
      simp [wrote, inside, lastWrite]
    · rw [wrote, lastWrite_eq_none, Function.update_noteq same]
      · rfl
      · simp [mboardPropPath, inside, distinct.getElem_inj_iff, same]
  · rw [setSubdevSpec, setMboardProp, if_neg (not_not.mpr rfl)] at ran
    obtain ⟨ext, rfl, wrote⟩ := (forEachMboard_mboardSet listed enough _).1 trace' ran
    have values : ∀ w ∈ boardWrites topo.mboardNames dir.subdevSpecProp (.subdevSpec spec),
        w.2 = .subdevSpec spec := by simp [boardWrites]
    refine remembers.seesTopology shows enough
      (by rw [wrote]; exact mboardNamesPath_not_mem_boardWrites _ _ _) fun k inside => ?_
    rw [wrote, lastWrite_eq_of_values values]
    · rfl
    · simp only [boardWrites, List.map_map, List.mem_map, List.mem_range]
      exact ⟨k, inside, by simp [inside]⟩

theorem setSubdevSpec_takesEffect_threeBoards :
    (Device.ofStore threeBoardsTree).Remembers ∧
      Shows (Device.ofStore threeBoardsTree) threeBoards .rx [] ∧
      threeBoards.mboardNames.Nodup ∧ threeBoards.mboardNames.length < 4 ∧
      SpecTakesEffect (Device.ofStore threeBoardsTree) 4 threeBoards .rx [⟨"A", "0"⟩] [] := by
  have shows : Shows (Device.ofStore threeBoardsTree) threeBoards .rx [] :=
    ⟨rfl, fun m inside => by
      have : m < 3 := inside
      rcases m with _ | _ | _ | m
      · rfl
      · rfl
      · rfl
      · omega⟩
  exact ⟨Device.remembers_ofStore _, shows, by decide, by decide,
    setSubdevSpec_takesEffect (Device.remembers_ofStore _) shows (by decide) (by decide) _⟩

end UhdHost
