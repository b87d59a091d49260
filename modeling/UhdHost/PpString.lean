import UhdHost.PrettyPrint

/-!
# What `get_pp_string` prints

`get_pp_string` prints the device's name and each board's name, then the RX section, then
the TX section.  Over a device that keeps showing what it reads, the whole call only reads,
and its outcome is the header followed by the two sections' outcomes (`PrintsDevice`): it
throws `std::out_of_range` exactly at the first section whose loops visit a channel past the
last, and, when on each side all boards have the same number of channels, it lists every
channel of each side once, in order.
-/

namespace UhdHost

namespace Topology

variable (topo : Topology) (named : PropPath → String)

/-- The lines before the channel sections: the device's, then one per board with the name
`named` gives the board's node. -/
def ppHeader (devName : String) : String :=
  foldFrom (fun m buff => buff ++ "  Mboard " ++ toString m ++ ": " ++
      named [.named (.device .mboard) (topo.mboardNames.getD m "")] ++ "\n") 0
    topo.mboardNames.length
    ((if topo.mboardNames.length > 1 then "Multi" else "Single") ++ " USRP:\n" ++
      "  Device: " ++ devName ++ "\n")

/-- What a channel section comes to after `buff`: the entries of the channels its loops
visit, or `std::out_of_range` when one of them is past the last channel. -/
def ppSection (dir : Dir) (buff : String) : Except UhdError String :=
  if ∀ chan ∈ topo.ppChans dir, chan < topo.numChannels dir then
    .ok (((topo.ppChans dir).map (topo.ppLine dir named)).foldl (· ++ ·) buff)
  else .error .outOfRange

/-- The entries of every channel of side `dir` after `buff`, in order. -/
def ppAll (dir : Dir) (buff : String) : String :=
  ((List.range (topo.numChannels dir)).map (topo.ppLine dir named)).foldl (· ++ ·) buff

theorem ppSection_of_uniform {dir : Dir}
    (uniform : ∀ m < topo.mboardNames.length, topo.chanCount dir m = topo.chanCount dir 0)
    (buff : String) : topo.ppSection named dir buff = .ok (topo.ppAll named dir buff) := by
  simp [ppSection, ppAll, ppChans_of_uniform uniform]

end Topology

/-- After `trace`, the device shows all that `get_pp_string` reads: both sides' boards and
names, its own name `devName`, and each board's name, the name `named` gives its node. -/
structure ShowsPp (dev : Device) (topo : Topology) (named : PropPath → String)
    (devName : String) (trace : List Event) : Prop where
  rx : ShowsNames dev topo .rx named trace
  tx : ShowsNames dev topo .tx named trace
  deviceName : dev.get trace [.plain (.device .name)] = .ok (.string devName)
  boardName : ∀ m (inside : m < topo.mboardNames.length),
    dev.get trace (mboardPropPath topo.mboardNames[m] .name) =
      .ok (.string (named [.named (.device .mboard) topo.mboardNames[m]]))

/-- What `get_pp_string` does from `trace`. -/
structure PrintsDevice (dev : Device) (fuel : Nat) (topo : Topology) (named : PropPath → String)
    (devName : String) (trace : List Event) : Prop where
  /-- It reads only; it prints the header, then the RX section, then the TX section, and
  throws `std::out_of_range` at the first section whose loops visit a channel past the
  last. -/
  outcome : ReadsOut (getPpString dev fuel) trace
    (topo.ppSection named .rx (topo.ppHeader named devName) >>= topo.ppSection named .tx)
  /-- When on each side all boards have the same number of channels, it lists every channel
  of each side once, in order. -/
  uniform :
    (∀ dir, ∀ m < topo.mboardNames.length, topo.chanCount dir m = topo.chanCount dir 0) →
    ReadsTo (getPpString dev fuel) trace
      (topo.ppAll named .tx (topo.ppAll named .rx (topo.ppHeader named devName)))

/-- The first part of `get_pp_string`: the device line, then the loop over the boards. -/
def ppHead (dev : Device) (fuel : Nat) : UsrpM (Nat × String) := do
  let numMboards ← getNumMboards dev
  let devName ← getAs dev String [.plain (.device .name)]
  forLoop (getNumMboards dev) (fun m buff => do
      pure (buff ++ "  Mboard " ++ toString m ++ ": " ++ (← getMboardName dev m) ++ "\n"))
    fuel 0 ((if numMboards > 1 then "Multi" else "Single") ++ " USRP:\n" ++
      "  Device: " ++ devName ++ "\n")

theorem getPpString_eq_head (dev : Device) (fuel : Nat) :
    getPpString dev fuel = (ppHead dev fuel >>= fun head =>
      ppChannels dev fuel .rx head.2 >>= ppChannels dev fuel .tx) := by
  simp only [getPpString, ppHead, bind_assoc]

section Header

variable {dev : Device} {topo : Topology} {named : PropPath → String} {devName : String}
  {trace : List Event}

theorem getMboardName_readsTo (steady : Always Event.IsGet (ShowsPp dev topo named devName) trace)
    {m : Nat} (inside : m < topo.mboardNames.length) :
    ReadsTo (getMboardName dev m) trace
      (named [.named (.device .mboard) (topo.mboardNames.getD m "")]) := by
  simp only [List.getD_eq_getElem?_getD, List.getElem?_eq_getElem inside, Option.getD_some]
  exact (mboardNode_readsTo steady.now.rx.names inside).bind fun _ reads =>
    getAs_readsTo ((steady.extend reads).now.boardName m inside) rfl

/-- The first part prints the device line and a line per board. -/
theorem ppHead_readsTo (steady : Always Event.IsGet (ShowsPp dev topo named devName) trace)
    {fuel : Nat} (enough : topo.mboardNames.length < fuel) :
    ReadsTo (ppHead dev fuel) trace
      (max 0 topo.mboardNames.length, topo.ppHeader named devName) := by
  refine (getNumMboards_readsTo steady.now.rx.names).bind fun _ reads =>
    (getAs_readsTo (steady.extend reads).now.deviceName rfl).bind fun _ reads' => ?_
  refine forLoop_readsTo (P := Always Event.IsGet (ShowsPp dev topo named devName))
    (fun m buff => buff ++ "  Mboard " ++ toString m ++ ": " ++
      named [.named (.device .mboard) (topo.mboardNames.getD m "")] ++ "\n")
    (fun _ _ holds gets => holds.extend gets)
    (fun _ holds => getNumMboards_readsTo holds.now.rx.names)
    (fun _ _ _ holds inside => ?_) fuel 0 _ _ ((steady.extend reads).extend reads') (by omega)
  exact (getMboardName_readsTo holds inside).bind fun _ _ => .pure _ _

end Header

/-- Over a device that keeps showing what `get_pp_string` reads, with a DSP for each channel
and enough fuel for its loops, `get_pp_string` prints the header and then the channels its
RX and its TX loops visit, throwing `std::out_of_range` exactly when they visit a channel
past the last; when all boards of a side have the same number of channels, that side lists
every channel once, in order. -/
theorem getPpString_printsDevice {dev : Device} {fuel : Nat} {topo : Topology}
    {named : PropPath → String} {devName : String} {trace : List Event}
    (steady : Always Event.IsGet (ShowsPp dev topo named devName) trace)
    (hasDsps : ∀ dir, topo.HasDsps dir) (enough : topo.mboardNames.length < fuel)
    (enoughChans :
      ∀ dir, ∀ m < topo.mboardNames.length, (m + 1) * topo.chanCount dir m < fuel) :
    PrintsDevice dev fuel topo named devName trace := by
  have outcome : ReadsOut (getPpString dev fuel) trace
      (topo.ppSection named .rx (topo.ppHeader named devName) >>= topo.ppSection named .tx) := by
    rw [getPpString_eq_head]
    exact (ppHead_readsTo steady enough).bindOut fun _ reads =>
      (ppChannels_readsOut ((steady.extend reads).imp fun _ shows => shows.rx) (hasDsps .rx)
        enough (enoughChans .rx) _).bind fun _ ext _ reads' =>
      ppChannels_readsOut (((steady.extend reads).extend reads').imp fun _ shows => shows.tx)
        (hasDsps .tx) enough (enoughChans .tx) _
  refine ⟨outcome, fun uniform => ?_⟩
  rw [Topology.ppSection_of_uniform _ _ (uniform .rx)] at outcome
  change ReadsOut _ _ (topo.ppSection named .tx _) at outcome
  rw [Topology.ppSection_of_uniform _ _ (uniform .tx)] at outcome
  exact outcome

theorem Device.ofTree_append_get {tree extra : List (PropPath × WaxObj)} {trace : List Event}
    {path : PropPath} {val : WaxObj} (found : (Device.ofTree tree).get trace path = .ok val) :
    (Device.ofTree (tree ++ extra)).get trace path = .ok val := by
  dsimp only [Device.ofTree] at found ⊢
  rw [List.find?_append]
  cases hit : tree.find? (·.1 = path) with
  | none => simp [hit] at found
  | some entry => simpa [hit] using found

theorem ShowsNames.ofTree_append {tree extra : List (PropPath × WaxObj)} {topo : Topology}
    {dir : Dir} {named : PropPath → String} {trace : List Event}
    (shows : ShowsNames (Device.ofTree tree) topo dir named trace) :
    ShowsNames (Device.ofTree (tree ++ extra)) topo dir named trace :=
  ⟨⟨⟨Device.ofTree_append_get shows.names, fun m inside =>
      Device.ofTree_append_get (shows.specs m inside)⟩,
    fun m inside => Device.ofTree_append_get (shows.dsps m inside)⟩,
    fun chan inRange => Device.ofTree_append_get (shows.dspName chan inRange),
    fun chan inRange => Device.ofTree_append_get (shows.dboardName chan inRange),
    fun chan inRange => Device.ofTree_append_get (shows.subdevName chan inRange)⟩

theorem always_ofTree_pp {tree : List (PropPath × WaxObj)} {topo : Topology}
    {named : PropPath → String} {devName : String}
    (shows : ShowsPp (Device.ofTree tree) topo named devName []) (trace : List Event) :
    Always Event.IsGet (ShowsPp (Device.ofTree tree) topo named devName) trace :=
  fun ext kept => ⟨always_ofTree_names shows.rx trace ext kept,
    always_ofTree_names shows.tx trace ext kept, shows.deviceName, shows.boardName⟩

/-- `namedTree`, with each board's TX DSP names as well. -/
def ppTree (topo : Topology) : List (PropPath × WaxObj) :=
  namedTree topo ++ (List.range topo.mboardNames.length).map fun m =>
    (mboardPropPath (topo.mboardNames.getD m "") .txDspNames, .names (topo.dspNames .tx m))

theorem getPpString_printsDevice_oneThree :
    Always Event.IsGet (ShowsPp (Device.ofTree (ppTree oneThree)) oneThree leafName "usrp") [] ∧
      (∀ dir, oneThree.HasDsps dir) ∧ oneThree.mboardNames.length < 8 ∧
      (∀ dir, ∀ m < oneThree.mboardNames.length, (m + 1) * oneThree.chanCount dir m < 8) ∧
      PrintsDevice (Device.ofTree (ppTree oneThree)) 8 oneThree leafName "usrp" [] := by
  have boards : ∀ m < oneThree.mboardNames.length, m = 0 ∨ m = 1 := fun m inside => by
    have : m < 2 := inside
    omega
  have noTx : oneThree.numChannels .tx = 0 := rfl
  have tx : ShowsNames (Device.ofTree (ppTree oneThree)) oneThree .tx leafName [] := by
    refine ⟨⟨⟨rfl, fun m inside => ?_⟩, fun m inside => ?_⟩, fun chan inRange => ?_,
      fun chan inRange => ?_, fun chan inRange => ?_⟩
    all_goals first
      | rcases boards m inside with rfl | rfl <;> rfl
      | exact absurd inRange (by omega)
  have shows : ShowsPp (Device.ofTree (ppTree oneThree)) oneThree leafName "usrp" [] :=
    ⟨oneThree_showsNames.ofTree_append, tx, rfl, fun m inside => by
      rcases boards m inside with rfl | rfl <;> rfl⟩
  have hasDsps : ∀ dir, oneThree.HasDsps dir := fun dir => by
    cases dir <;> (unfold Topology.HasDsps; decide)
  have enoughChans : ∀ dir, ∀ m < oneThree.mboardNames.length,
      (m + 1) * oneThree.chanCount dir m < 8 := fun dir => by
    cases dir <;> decide
  exact ⟨always_ofTree_pp shows [], hasDsps, by decide, enoughChans,
    getPpString_printsDevice (always_ofTree_pp shows []) hasDsps (by decide) enoughChans⟩

end UhdHost
