import UhdHost.DboardRegistry
import Mathlib.Logic.Function.Basic

/-!
# The daughterboard manager

`manager::manager` resolves the RX and the TX id, puts both GPIO banks in a known state,
and then makes one driver instance per subdevice name.  When both ids resolve to the same
constructor, one instance per name serves both directions (the transceiver case);
otherwise the RX names and the TX names get instances of their own.  Every instance is
filed behind a `subdev_proxy` that forwards to the handlers of one direction.
-/

namespace UhdHost

/-- `interface::gpio_bank_t` -/
inductive GpioBank where
  | gpioRxBank
  | gpioTxBank
deriving DecidableEq, Repr

/-- A call the manager makes on the daughterboard interface. -/
inductive IfaceCall where
  | setGpioDdr (bank : GpioBank) (value mask : UInt16)
  | writeGpio (bank : GpioBank) (value mask : UInt16)
  | setAtrReg (bank : GpioBank) (field0 field1 field2 : UInt16)
deriving DecidableEq, Repr

/-- The pin set-up of `manager::manager`: all pins inputs, outputs zero, then automatic
switching off, on both banks. -/
def gpioInit : List IfaceCall :=
  [.setGpioDdr .gpioRxBank 0x0000 0xffff, .setGpioDdr .gpioTxBank 0x0000 0xffff,
    .writeGpio .gpioRxBank 0x0000 0xffff, .writeGpio .gpioTxBank 0x0000 0xffff,
    .setAtrReg .gpioRxBank 0x0000 0x0000 0x0000, .setAtrReg .gpioTxBank 0x0000 0x0000 0x0000]

/-- `subdev_proxy::type_t` -/
inductive ProxyType where
  | rxType
  | txType
deriving DecidableEq, Repr

/-- `subdev_proxy`: the driver instance it wraps, as its position among the instances the
manager made, and the direction it forwards to. -/
structure SubdevProxy where
  subdev : Nat
  type : ProxyType
deriving DecidableEq, Repr

/-- A constructed `manager`: the calls it made on the interface, the driver instances in the
order they were made (constructor and the name passed in `ctor_args_t`), and the proxy
dictionaries `_rx_dboards` and `_tx_dboards`. -/
structure Manager where
  ifaceCalls : List IfaceCall
  subdevs : List (DboardCtor × String)
  rxDboards : Dict String SubdevProxy
  txDboards : Dict String SubdevProxy
deriving DecidableEq, Repr

namespace Manager

/-- The manager once the pins are set up and before any instance is made. -/
def start : Manager := ⟨gpioInit, [], .empty, .empty⟩

/-- One pass of the transceiver loop: one instance for `name`, behind an RX and a TX proxy. -/
def addXcvr (ctor : DboardCtor) (m : Manager) (name : String) : Manager :=
  { m with
    subdevs := m.subdevs ++ [(ctor, name)]
    rxDboards := m.rxDboards.set name ⟨m.subdevs.length, .rxType⟩
    txDboards := m.txDboards.set name ⟨m.subdevs.length, .txType⟩ }

/-- One pass of the separate RX loop (`rxType`) or TX loop (`txType`): one instance for
`name`, behind a proxy of that direction. -/
def addSubdev (type : ProxyType) (ctor : DboardCtor) (m : Manager) (name : String) : Manager :=
  match type with
  | .rxType =>
      { m with
        subdevs := m.subdevs ++ [(ctor, name)]
        rxDboards := m.rxDboards.set name ⟨m.subdevs.length, .rxType⟩ }
  | .txType =>
      { m with
        subdevs := m.subdevs ++ [(ctor, name)]
        txDboards := m.txDboards.set name ⟨m.subdevs.length, .txType⟩ }

/-- The transceiver branch. -/
def xcvrSubdevs (ctor : DboardCtor) (names : List String) : Manager :=
  names.foldl (addXcvr ctor) start

/-- The separate branch: the RX loop, then the TX loop. -/
def separateSubdevs (rxCtor : DboardCtor) (rxNames : List String) (txCtor : DboardCtor)
    (txNames : List String) : Manager :=
  txNames.foldl (addSubdev .txType txCtor) (rxNames.foldl (addSubdev .rxType rxCtor) start)

/-- `get_rx_subdev_names` -/
def getRxSubdevNames (m : Manager) : List String := m.rxDboards.getKeys

/-- `get_tx_subdev_names` -/
def getTxSubdevNames (m : Manager) : List String := m.txDboards.getKeys

/-- `get_rx_subdev` and `get_tx_subdev`: `has_key`, then `operator[]` of the present key. -/
def getSubdev (dboards : Dict String SubdevProxy) (xx subdevName : String) :
    Except UhdError SubdevProxy :=
  match dboards.find? subdevName with
  | none => .error (.invalidArgument ("Unknown " ++ xx ++ " subdev name " ++ subdevName))
  | some proxy => .ok proxy

/-- `get_rx_subdev` -/
def getRxSubdev (m : Manager) (subdevName : String) : Except UhdError SubdevProxy :=
  getSubdev m.rxDboards "rx" subdevName

/-- `get_tx_subdev` -/
def getTxSubdev (m : Manager) (subdevName : String) : Except UhdError SubdevProxy :=
  getSubdev m.txDboards "tx" subdevName

end Manager

/-- `manager::manager` after `register_internal_dboards`: resolve both ids (each lookup
journaled), set up the pins, and make the subdevices.  Reading `ctor_to_names_map` goes
through the non-const `operator[]`. -/
def makeManager (rxDboardId txDboardId : DboardId) (r : Registry) :
    Except UhdError Manager × Registry :=
  let r := r.resolve rxDboardId
  match getDboardCtor r rxDboardId "rx" with
  | .error e => (.error e, r)
  | .ok rxCtor =>
      let r := r.resolve txDboardId
      match getDboardCtor r txDboardId "tx" with
      | .error e => (.error e, r)
      | .ok txCtor =>
          if rxCtor = txCtor then
            let names := r.ctorToNamesMap.index rxCtor
            (.ok (Manager.xcvrSubdevs rxCtor names.1), { r with ctorToNamesMap := names.2 })
          else
            let rxNames := r.ctorToNamesMap.index rxCtor
            let txNames := rxNames.2.index txCtor
            (.ok (Manager.separateSubdevs rxCtor rxNames.1 txCtor txNames.1),
              { r with ctorToNamesMap := txNames.2 })

/-- `manager::manager(rx_dboard_id, tx_dboard_id, dboard_interface)` -/
def manager (fuel : Nat) (rxDboardId txDboardId : DboardId) (r : Registry) :
    Option (Except UhdError Manager × Registry) :=
  (registerInternalDboards fuel r).map (makeManager rxDboardId txDboardId)

/-- What `dboard::base` offers a proxy: the RX and TX handlers of a driver, over the state of
one instance. -/
structure DboardBase (State Key Val : Type) where
  rxGet : State → Key → Val
  rxSet : State → Key → Val → State
  txGet : State → Key → Val
  txSet : State → Key → Val → State

namespace SubdevProxy

variable {State Key Val : Type}

/-- `subdev_proxy::get`, given the states of all instances. -/
def get (base : DboardBase State Key Val) (instances : Nat → State) (proxy : SubdevProxy)
    (key : Key) : Val :=
  match proxy.type with
  | .rxType => base.rxGet (instances proxy.subdev) key
  | .txType => base.txGet (instances proxy.subdev) key

/-- `subdev_proxy::set`: only the wrapped instance changes. -/
def set (base : DboardBase State Key Val) (instances : Nat → State) (proxy : SubdevProxy)
    (key : Key) (val : Val) : Nat → State :=
  Function.update instances proxy.subdev
    (match proxy.type with
      | .rxType => base.rxSet (instances proxy.subdev) key val
      | .txType => base.txSet (instances proxy.subdev) key val)

theorem get_of_rxType (base : DboardBase State Key Val) (instances : Nat → State)
    {proxy : SubdevProxy} (rx : proxy.type = .rxType) (key : Key) :
    proxy.get base instances key = base.rxGet (instances proxy.subdev) key := by
  simp [get, rx]

theorem set_of_rxType (base : DboardBase State Key Val) (instances : Nat → State)
    {proxy : SubdevProxy} (rx : proxy.type = .rxType) (key : Key) (val : Val) :
    proxy.set base instances key val =
      Function.update instances proxy.subdev (base.rxSet (instances proxy.subdev) key val) := by
  simp [set, rx]

theorem get_of_txType (base : DboardBase State Key Val) (instances : Nat → State)
    {proxy : SubdevProxy} (tx : proxy.type = .txType) (key : Key) :
    proxy.get base instances key = base.txGet (instances proxy.subdev) key := by
  simp [get, tx]

theorem set_of_txType (base : DboardBase State Key Val) (instances : Nat → State)
    {proxy : SubdevProxy} (tx : proxy.type = .txType) (key : Key) (val : Val) :
    proxy.set base instances key val =
      Function.update instances proxy.subdev (base.txSet (instances proxy.subdev) key val) := by
  simp [set, tx]

/-- A set through a proxy leaves every other instance as it was. -/
theorem set_apply_of_ne (base : DboardBase State Key Val) (instances : Nat → State)
    (proxy : SubdevProxy) (key : Key) (val : Val) {other : Nat} (ne : other ≠ proxy.subdev) :
    proxy.set base instances key val other = instances other :=
  Function.update_noteq ne _ _

end SubdevProxy

namespace Manager

/-- Every proxy filed in `dboards` forwards in direction `type` to an instance that `ctor`
made for the name the proxy is filed under. -/
def Wraps (subdevs : List (DboardCtor × String)) (dboards : Dict String SubdevProxy)
    (type : ProxyType) (ctor : DboardCtor) : Prop :=
  ∀ name proxy, dboards.find? name = some proxy →
    proxy.type = type ∧ subdevs[proxy.subdev]? = some (ctor, name)

private theorem getElem?_append_of_eq_some {α : Type} {l l' : List α} {i : Nat} {x : α}
    (h : l[i]? = some x) : (l ++ l')[i]? = some x := by
  rw [List.getElem?_append_left (List.getElem?_eq_some_iff.mp h).1, h]

/-- Making one more instance keeps what the proxies already filed wrap. -/
theorem Wraps.append {subdevs : List (DboardCtor × String)} {dboards type ctor}
    (wraps : Wraps subdevs dboards type ctor) (made : DboardCtor × String) :
    Wraps (subdevs ++ [made]) dboards type ctor := fun name proxy found =>
  let ⟨typed, made⟩ := wraps name proxy found
  ⟨typed, getElem?_append_of_eq_some made⟩

/-- Filing a proxy to the instance just made for `name` keeps the dictionary wrapping. -/
theorem Wraps.set {subdevs : List (DboardCtor × String)} {dboards type ctor}
    (wraps : Wraps subdevs dboards type ctor) (name : String) :
    Wraps (subdevs ++ [(ctor, name)]) (dboards.set name ⟨subdevs.length, type⟩) type ctor := by
  intro other proxy found
  rw [Dict.find?_set] at found
  split at found
  · cases found; simp_all
  · exact (wraps.append (ctor, name)) other proxy found

theorem wraps_empty (subdevs : List (DboardCtor × String)) (type ctor) :
    Wraps subdevs .empty type ctor := by
  simp [Wraps]

/-- The TX dictionary of the transceiver branch files, under each name, a TX proxy to the
instance the RX proxy of that name wraps. -/
def TxMirrorsRx (m : Manager) : Prop :=
  ∀ name, m.txDboards.find? name = (m.rxDboards.find? name).map fun proxy => ⟨proxy.subdev, .txType⟩

theorem xcvrSubdevs_spec (ctor : DboardCtor) (names : List String) :
    Wraps (xcvrSubdevs ctor names).subdevs (xcvrSubdevs ctor names).rxDboards .rxType ctor ∧
      Wraps (xcvrSubdevs ctor names).subdevs (xcvrSubdevs ctor names).txDboards .txType ctor ∧
      TxMirrorsRx (xcvrSubdevs ctor names) := by
  suffices step : ∀ (names : List String) (m : Manager),
      Wraps m.subdevs m.rxDboards .rxType ctor ∧ Wraps m.subdevs m.txDboards .txType ctor ∧
        TxMirrorsRx m →
      let m' := names.foldl (addXcvr ctor) m
      Wraps m'.subdevs m'.rxDboards .rxType ctor ∧ Wraps m'.subdevs m'.txDboards .txType ctor ∧
        TxMirrorsRx m' from
    step names start ⟨wraps_empty _ _ _, wraps_empty _ _ _, fun _ => rfl⟩
  intro names
  induction names with
  | nil => exact fun _ inv => inv
  | cons name names ih =>
      rintro m ⟨rxWraps, txWraps, mirrors⟩
      apply ih
      refine ⟨rxWraps.set name, txWraps.set name, fun other => ?_⟩
      simp only [addXcvr, Dict.find?_set]
      split
      · rfl
      · exact mirrors other

theorem separateSubdevs_spec (rxCtor : DboardCtor) (rxNames : List String)
    (txCtor : DboardCtor) (txNames : List String) :
    let m := separateSubdevs rxCtor rxNames txCtor txNames
    Wraps m.subdevs m.rxDboards .rxType rxCtor ∧ Wraps m.subdevs m.txDboards .txType txCtor := by
  have rxLoop : ∀ (names : List String) (m : Manager),
      Wraps m.subdevs m.rxDboards .rxType rxCtor → m.txDboards = .empty →
      let m' := names.foldl (addSubdev .rxType rxCtor) m
      Wraps m'.subdevs m'.rxDboards .rxType rxCtor ∧ m'.txDboards = .empty := by
    intro names
    induction names with
    | nil => exact fun _ wraps empty => ⟨wraps, empty⟩
    | cons name names ih => exact fun m wraps empty => ih _ (wraps.set name) empty
  have txLoop : ∀ (names : List String) (m : Manager),
      Wraps m.subdevs m.rxDboards .rxType rxCtor → Wraps m.subdevs m.txDboards .txType txCtor →
      let m' := names.foldl (addSubdev .txType txCtor) m
      Wraps m'.subdevs m'.rxDboards .rxType rxCtor ∧
        Wraps m'.subdevs m'.txDboards .txType txCtor := by
    intro names
    induction names with
    | nil => exact fun _ rxWraps txWraps => ⟨rxWraps, txWraps⟩
    | cons name names ih =>
        exact fun m rxWraps txWraps => ih _ (rxWraps.append (txCtor, name)) (txWraps.set name)
  obtain ⟨rxWraps, txEmpty⟩ := rxLoop rxNames start (wraps_empty _ _ _) rfl
  exact txLoop txNames _ rxWraps (txEmpty ▸ wraps_empty _ _ _)

/-- A loop that assigns each name in one dictionary lists the names by first occurrence. -/
theorem getKeys_foldl (proj : Manager → Dict String SubdevProxy)
    (step : Manager → String → Manager)
    (assigns : ∀ m name, (proj (step m name)).getKeys = Dict.insertKey (proj m).getKeys name)
    (names : List String) (m : Manager) :
    (proj (names.foldl step m)).getKeys = names.foldl Dict.insertKey (proj m).getKeys := by
  induction names generalizing m with
  | nil => rfl
  | cons name names ih => rw [List.foldl_cons, ih, assigns, List.foldl_cons]

theorem getKeys_xcvrSubdevs (ctor : DboardCtor) (names : List String) :
    (xcvrSubdevs ctor names).getRxSubdevNames = names.eraseDups ∧
      (xcvrSubdevs ctor names).getTxSubdevNames = names.eraseDups := by
  constructor
  · rw [getRxSubdevNames, xcvrSubdevs,
      getKeys_foldl rxDboards _ (fun m name => Dict.getKeys_set_eq_insertKey _ name _),
      ← Dict.foldl_insertKey_eq_eraseDups]
    rfl
  · rw [getTxSubdevNames, xcvrSubdevs,
      getKeys_foldl txDboards _ (fun m name => Dict.getKeys_set_eq_insertKey _ name _),
      ← Dict.foldl_insertKey_eq_eraseDups]
    rfl

theorem getKeys_separateSubdevs (rxCtor : DboardCtor) (rxNames : List String)
    (txCtor : DboardCtor) (txNames : List String) :
    (separateSubdevs rxCtor rxNames txCtor txNames).getRxSubdevNames = rxNames.eraseDups ∧
      (separateSubdevs rxCtor rxNames txCtor txNames).getTxSubdevNames = txNames.eraseDups := by
  have txKeeps : ∀ (names : List String) (m : Manager),
      (names.foldl (addSubdev .txType txCtor) m).rxDboards = m.rxDboards := by
    intro names
    induction names with
    | nil => exact fun _ => rfl
    | cons name names ih => exact fun m => ih _
  have rxKeeps : ∀ (names : List String) (m : Manager),
      (names.foldl (addSubdev .rxType rxCtor) m).txDboards = m.txDboards := by
    intro names
    induction names with
    | nil => exact fun _ => rfl
    | cons name names ih => exact fun m => ih _
  constructor
  · rw [getRxSubdevNames, separateSubdevs, txKeeps,
      getKeys_foldl rxDboards _ (fun m name => Dict.getKeys_set_eq_insertKey _ name _),
      ← Dict.foldl_insertKey_eq_eraseDups]
    rfl
  · rw [getTxSubdevNames, separateSubdevs,
      getKeys_foldl txDboards _ (fun m name => Dict.getKeys_set_eq_insertKey _ name _), rxKeeps,
      ← Dict.foldl_insertKey_eq_eraseDups]
    rfl

end Manager

end UhdHost
