import UhdHost.DboardManager

/-!
# Runs of the daughterboard registry

A process makes registrations and constructs managers in any order.  With enough call
budget every such run from the initial state is the seeding of the internal boards
followed by what each operation does itself (`runOps_initial`).  The lookups of
`get_dboard_ctor`, the subdevices a manager files and the sharing of driver instances are
all read off that form.
-/

namespace UhdHost

/-- An operation on the process-wide registry. -/
inductive RegistryOp where
  /-- a call of `manager::register_subdevs` -/
  | register (id : DboardId) (ctor : DboardCtor) (names : List String)
  /-- the construction of a `manager` -/
  | construct (rxDboardId txDboardId : DboardId)
deriving DecidableEq, Repr

namespace RegistryOp

/-- One operation, as the code runs it. -/
def run (fuel : Nat) (r : Registry) : RegistryOp → Option Registry
  | .register id ctor names => registerSubdevs fuel id ctor names r
  | .construct rxDboardId txDboardId => (manager fuel rxDboardId txDboardId r).map Prod.snd

/-- What an operation does itself on a seeded registry. -/
def own (r : Registry) : RegistryOp → Registry
  | .register id ctor names => r.write id ctor names
  | .construct rxDboardId txDboardId => (makeManager rxDboardId txDboardId r).2

/-- The registrations among a sequence of operations, in order. -/
def registrations : List RegistryOp → List (DboardId × DboardCtor × List String)
  | [] => []
  | .register id ctor names :: ops => (id, ctor, names) :: registrations ops
  | .construct _ _ :: ops => registrations ops

end RegistryOp

/-- Operations in order from `r`, as the code runs them. -/
def runOps (fuel : Nat) (r : Registry) : List RegistryOp → Option Registry
  | [] => some r
  | op :: ops => (op.run fuel r).bind fun r => runOps fuel r ops

/-- One registration, seen from `id`: a registration of `id` replaces what was found. -/
def lastCtorStep (id : DboardId) (found : Option DboardCtor)
    (reg : DboardId × DboardCtor × List String) : Option DboardCtor :=
  if reg.1 = id then some reg.2.1 else found

/-- The constructor of the last registration of `id` among `regs`. -/
def lastCtor (regs : List (DboardId × DboardCtor × List String)) (id : DboardId) :
    Option DboardCtor :=
  regs.foldl (lastCtorStep id) none

section Latch

@[simp] theorem writeAll_called (r : Registry) regs : (r.writeAll regs).called = r.called := by
  induction regs generalizing r with
  | nil => rfl
  | cons reg regs ih => exact (ih _).trans (Registry.write_called ..)

@[simp] theorem ensureSeeded_called (r : Registry) : r.ensureSeeded.called = true := by
  unfold Registry.ensureSeeded Registry.seed
  split <;> simp_all

theorem ensureSeeded_of_called {r : Registry} (latched : r.called = true) : r.ensureSeeded = r := by
  simp [Registry.ensureSeeded, latched]

/-- A manager construction changes the registry only by journaling its lookups and by the
insertions `operator[]` may make into `ctor_to_names_map`. -/
theorem makeManager_registry (rxDboardId txDboardId : DboardId) (r : Registry) :
    ∃ journal names, (makeManager rxDboardId txDboardId r).2 =
      { r with journal := journal, ctorToNamesMap := names } ∧
      r.ctorToNamesMap.getKeys ⊆ names.getKeys := by
  unfold makeManager
  dsimp only
  split
  · exact ⟨_, _, rfl, List.Subset.refl _⟩
  · split
    · exact ⟨_, _, rfl, List.Subset.refl _⟩
    · split
      · exact ⟨_, _, rfl, Dict.getKeys_subset_index _ _⟩
      · exact ⟨_, _, rfl, (Dict.getKeys_subset_index _ _).trans (Dict.getKeys_subset_index _ _)⟩

@[simp] theorem makeManager_called (rxDboardId txDboardId : DboardId) (r : Registry) :
    (makeManager rxDboardId txDboardId r).2.called = r.called := by
  obtain ⟨_, _, shape, -⟩ := makeManager_registry rxDboardId txDboardId r
  rw [shape]

@[simp] theorem own_called (r : Registry) (op : RegistryOp) : (op.own r).called = r.called := by
  cases op <;> simp [RegistryOp.own]

theorem RegistryOp.run_eq {fuel : Nat} (enough : 4 ≤ fuel) (r : Registry) (op : RegistryOp) :
    op.run fuel r = some (op.own r.ensureSeeded) := by
  cases op with
  | register id ctor names => exact registerSubdevs_eq enough
  | construct rxDboardId txDboardId =>
      simp [RegistryOp.run, RegistryOp.own, manager,
        registerInternalDboards_eq (by omega : 3 ≤ fuel)]

theorem runOps_eq {fuel : Nat} (enough : 4 ≤ fuel) (r : Registry) (ops : List RegistryOp) :
    runOps fuel r ops = some (ops.foldl (fun r op => op.own r.ensureSeeded) r) := by
  induction ops generalizing r with
  | nil => rfl
  | cons op ops ih => simp [runOps, RegistryOp.run_eq enough, ih]

theorem foldl_own_of_called {r : Registry} (latched : r.called = true) (ops : List RegistryOp) :
    ops.foldl (fun r op => op.own r.ensureSeeded) r = ops.foldl RegistryOp.own r := by
  induction ops generalizing r with
  | nil => rfl
  | cons op ops ih =>
      simp only [List.foldl_cons, ensureSeeded_of_called latched]
      exact ih (by simpa using latched)

/-- With enough budget, a run from the initial state seeds once, in its first operation,
and then does what each operation does itself. -/
theorem runOps_initial {fuel : Nat} (enough : 4 ≤ fuel) {ops : List RegistryOp}
    (nonempty : ops ≠ []) :
    runOps fuel Registry.initial ops = some (ops.foldl RegistryOp.own Registry.initial.seed) := by
  obtain ⟨op, ops, rfl⟩ := List.exists_cons_of_ne_nil nonempty
  rw [runOps_eq enough, List.foldl_cons, List.foldl_cons,
    foldl_own_of_called (by simp [Registry.seed])]
  rfl

end Latch

section Lookups

/-- The id dictionary after a list of writes. -/
theorem writeAll_idToCtorMap (r : Registry) regs :
    (r.writeAll regs).idToCtorMap =
      regs.foldl (fun d reg => d.set reg.1 reg.2.1) r.idToCtorMap := by
  induction regs generalizing r with
  | nil => rfl
  | cons reg regs ih => exact ih _

@[simp] theorem makeManager_idToCtorMap (rxDboardId txDboardId : DboardId) (r : Registry) :
    (makeManager rxDboardId txDboardId r).2.idToCtorMap = r.idToCtorMap := by
  obtain ⟨_, _, shape, -⟩ := makeManager_registry rxDboardId txDboardId r
  rw [shape]

theorem foldl_own_idToCtorMap (r : Registry) (ops : List RegistryOp) :
    (ops.foldl RegistryOp.own r).idToCtorMap =
      (RegistryOp.registrations ops).foldl (fun d reg => d.set reg.1 reg.2.1) r.idToCtorMap := by
  induction ops generalizing r with
  | nil => rfl
  | cons op ops ih =>
      cases op <;> simp [RegistryOp.own, RegistryOp.registrations, ih, Registry.write]

theorem foldl_lastCtorStep (regs : List (DboardId × DboardCtor × List String)) (id : DboardId)
    (found : Option DboardCtor) :
    regs.foldl (lastCtorStep id) found = (lastCtor regs id).or found := by
  induction regs generalizing found with
  | nil => simp [lastCtor]
  | cons reg regs ih =>
      rw [lastCtor, List.foldl_cons, List.foldl_cons, ih, ih (lastCtorStep id none reg)]
      by_cases same : reg.1 = id <;> simp [lastCtorStep, same, Option.or_assoc]

theorem find?_foldl_set (regs : List (DboardId × DboardCtor × List String))
    (d : Dict DboardId DboardCtor) (id : DboardId) :
    (regs.foldl (fun d reg => d.set reg.1 reg.2.1) d).find? id =
      (lastCtor regs id).or (d.find? id) := by
  rw [← foldl_lastCtorStep]
  induction regs generalizing d with
  | nil => rfl
  | cons reg regs ih =>
      rw [List.foldl_cons, ih, Dict.find?_set, List.foldl_cons]
      by_cases same : reg.1 = id
      · simp [lastCtorStep, same]
      · simp [lastCtorStep, same, Ne.symm same]

theorem isSome_lastCtor (regs : List (DboardId × DboardCtor × List String)) (id : DboardId) :
    (lastCtor regs id).isSome ↔ id ∈ regs.map Prod.fst := by
  induction regs using List.reverseRecOn with
  | nil => simp [lastCtor]
  | append_singleton regs reg ih =>
      rw [lastCtor, List.foldl_append, ← lastCtor, List.foldl_cons, List.foldl_nil]
      by_cases same : reg.1 = id
      · simp [lastCtorStep, same]
      · simp [lastCtorStep, same, Ne.symm same, ih]

/-- The seeded run of a sequence of operations. -/
def seededRun (ops : List RegistryOp) : Registry :=
  ops.foldl RegistryOp.own Registry.initial.seed

theorem find?_seededRun (ops : List RegistryOp) (id : DboardId) :
    (seededRun ops).idToCtorMap.find? id =
      (lastCtor (RegistryOp.registrations ops) id).or (lastCtor internalDboards id) := by
  rw [seededRun, foldl_own_idToCtorMap, find?_foldl_set, Registry.seed, writeAll_idToCtorMap,
    find?_foldl_set]
  simp [Registry.initial]

theorem mem_getKeys_seededRun (ops : List RegistryOp) (id : DboardId) :
    id ∈ (seededRun ops).idToCtorMap.getKeys ↔
      id ∈ (RegistryOp.registrations ops).map Prod.fst ∨ id ∈ internalDboards.map Prod.fst := by
  rw [← Dict.find?_isSome_iff, find?_seededRun, ← isSome_lastCtor, ← isSome_lastCtor]
  cases lastCtor (RegistryOp.registrations ops) id <;> simp

theorem getDboardCtor_eq_error_iff (r : Registry) (id : DboardId) (xxType : String) :
    getDboardCtor r id xxType = .error (unknownDboardId xxType id) ↔
      id ∉ r.idToCtorMap.getKeys := by
  rw [← Dict.find?_eq_none_iff]
  unfold getDboardCtor
  split <;> simp_all

/-- The seeding writes the internal boards first, and later operations only append. -/
theorem journal_seededRun (ops : List RegistryOp) :
    internalDboards.map (fun reg => RegistryEvent.registered reg.1 reg.2.1 reg.2.2) <+:
      (seededRun ops).journal := by
  have appends : ∀ (r : Registry) (op : RegistryOp), r.journal <+: (op.own r).journal := by
    intro r op
    cases op with
    | register id ctor names => exact List.prefix_append _ _
    | construct rxDboardId txDboardId =>
        unfold RegistryOp.own makeManager
        dsimp only
        split
        · exact List.prefix_append _ _
        · split
          · exact (List.prefix_append _ _).trans (List.prefix_append _ _)
          · split <;> exact (List.prefix_append _ _).trans (List.prefix_append _ _)
  have seeded : (Registry.initial.seed).journal =
      internalDboards.map fun reg => RegistryEvent.registered reg.1 reg.2.1 reg.2.2 := rfl
  rw [seededRun, ← seeded]
  generalize Registry.initial.seed = r
  induction ops generalizing r with
  | nil => exact List.prefix_refl _
  | cons op ops ih => exact (appends r op).trans (ih _)

theorem registrations_append (ops ops' : List RegistryOp) :
    RegistryOp.registrations (ops ++ ops') =
      RegistryOp.registrations ops ++ RegistryOp.registrations ops' := by
  induction ops with
  | nil => rfl
  | cons op ops ih => cases op <;> simp [RegistryOp.registrations, ih]

/-- What the registry holds after the operations `ops`, run from the initial state: the
seeding followed by the operations' own effects, a journal that starts with the internal
registrations, each id mapped to the constructor of its last external registration or else
of its last internal one, no other keys, and `get_dboard_ctor` failing exactly for the ids
never registered. -/
structure Registry.AfterRun (r : Registry) (ops : List RegistryOp) : Prop where
  seeded_then_own : r = ops.foldl RegistryOp.own Registry.initial.seed
  journal_starts :
    internalDboards.map (fun reg => RegistryEvent.registered reg.1 reg.2.1 reg.2.2) <+: r.journal
  find?_eq : ∀ id, r.idToCtorMap.find? id =
    (lastCtor (RegistryOp.registrations ops) id).or (lastCtor internalDboards id)
  mem_keys : ∀ id, id ∈ r.idToCtorMap.getKeys ↔
    id ∈ (RegistryOp.registrations ops).map Prod.fst ∨ id ∈ internalDboards.map Prod.fst
  unknown_iff : ∀ id xxType, getDboardCtor r id xxType = .error (unknownDboardId xxType id) ↔
    id ∉ (RegistryOp.registrations ops).map Prod.fst ∧ id ∉ internalDboards.map Prod.fst

theorem seededRun_afterRun (ops : List RegistryOp) : (seededRun ops).AfterRun ops where
  seeded_then_own := rfl
  journal_starts := journal_seededRun ops
  find?_eq := find?_seededRun ops
  mem_keys := mem_getKeys_seededRun ops
  unknown_iff id xxType := by
    rw [getDboardCtor_eq_error_iff, mem_getKeys_seededRun]
    tauto

/-- A non-empty run of registrations and manager constructions from the initial state, with
enough call budget, terminates in a registry as `Registry.AfterRun` describes, and every
shorter prefix of the run had no key the whole run lacks. -/
theorem registry_run_law {fuel : Nat} (enough : 4 ≤ fuel) {ops : List RegistryOp}
    (nonempty : ops ≠ []) :
    ∃ r, runOps fuel Registry.initial ops = some r ∧ r.AfterRun ops ∧
      ∀ k r', runOps fuel Registry.initial (ops.take k) = some r' →
        r'.idToCtorMap.getKeys ⊆ r.idToCtorMap.getKeys := by
  refine ⟨seededRun ops, runOps_initial enough nonempty, seededRun_afterRun ops, ?_⟩
  intro k r' prefixRun id mem
  by_cases empty : ops.take k = []
  · rw [empty] at prefixRun
    cases prefixRun
    simp [Registry.initial] at mem
  · rw [runOps_initial enough empty] at prefixRun
    cases prefixRun
    rw [← seededRun, mem_getKeys_seededRun] at mem
    rw [mem_getKeys_seededRun, ← List.take_append_drop k ops, registrations_append,
      List.map_append, List.mem_append]
    tauto

theorem registry_run_law_register_then_construct :
    (4 ≤ 4 ∧ [RegistryOp.register 7 (.external 1) ["x"], .construct 7 idBasicTx] ≠ []) ∧
    ∃ r, runOps 4 Registry.initial [.register 7 (.external 1) ["x"], .construct 7 idBasicTx] =
        some r ∧ r.AfterRun [.register 7 (.external 1) ["x"], .construct 7 idBasicTx] ∧
      ∀ k r', runOps 4 Registry.initial
          ([RegistryOp.register 7 (.external 1) ["x"], .construct 7 idBasicTx].take k) = some r' →
        r'.idToCtorMap.getKeys ⊆ r.idToCtorMap.getKeys :=
  ⟨⟨by decide, by simp⟩, registry_run_law (by decide) (by simp)⟩

end Lookups

section Reachable

/-- Every constructor an id is filed under has an entry in `ctor_to_names_map`, so the
manager's `ctor_to_names_map[ctor]` never inserts. -/
def Registry.Consistent (r : Registry) : Prop :=
  ∀ id ctor, r.idToCtorMap.find? id = some ctor → ctor ∈ r.ctorToNamesMap.getKeys

theorem Registry.Consistent.write {r : Registry} (consistent : r.Consistent) id ctor names :
    (r.write id ctor names).Consistent := by
  intro other found lookup
  simp only [Registry.write, Dict.find?_set, Dict.mem_getKeys_set] at lookup ⊢
  split at lookup
  · cases lookup
    exact Or.inl rfl
  · exact Or.inr (consistent _ _ lookup)

theorem Registry.Consistent.writeAll {r : Registry} (consistent : r.Consistent) regs :
    (r.writeAll regs).Consistent := by
  induction regs generalizing r with
  | nil => exact consistent
  | cons reg regs ih => exact ih (consistent.write reg.1 reg.2.1 reg.2.2)

theorem Registry.Consistent.ensureSeeded {r : Registry} (consistent : r.Consistent) :
    r.ensureSeeded.Consistent := by
  unfold Registry.ensureSeeded Registry.seed
  split
  · exact consistent
  · exact Registry.Consistent.writeAll (r := { r with called := true })
      (fun id ctor => consistent id ctor) _

theorem Registry.Consistent.own {r : Registry} (consistent : r.Consistent) (op : RegistryOp) :
    (op.own r).Consistent := by
  cases op with
  | register id ctor names => exact consistent.write id ctor names
  | construct rxDboardId txDboardId =>
      obtain ⟨_, names, shape, grows⟩ := makeManager_registry rxDboardId txDboardId r
      simp only [RegistryOp.own, shape]
      exact fun id ctor found => grows (consistent id ctor found)

theorem consistent_initial : Registry.initial.Consistent := by
  simp [Registry.Consistent, Registry.initial]

/-- Every registry a run reaches is consistent. -/
theorem consistent_of_reachable {fuel : Nat} (enough : 4 ≤ fuel) {ops : List RegistryOp}
    {r : Registry} (reachable : runOps fuel Registry.initial ops = some r) : r.Consistent := by
  rw [runOps_eq enough] at reachable
  cases reachable
  suffices step : ∀ (ops : List RegistryOp) (r : Registry), r.Consistent →
      (ops.foldl (fun r op => op.own r.ensureSeeded) r).Consistent from
    step ops _ consistent_initial
  intro ops
  induction ops with
  | nil => exact fun _ consistent => consistent
  | cons op ops ih => exact fun _ consistent => ih _ (consistent.ensureSeeded.own op)

theorem find?_of_getDboardCtor {r : Registry} {id : DboardId} {xxType : String}
    {ctor : DboardCtor} (resolves : getDboardCtor r id xxType = .ok ctor) :
    r.idToCtorMap.find? id = some ctor := by
  unfold getDboardCtor at resolves
  split at resolves <;> simp_all

/-- On a consistent registry where both ids resolve, a construction journals the two
lookups, inserts nothing, and makes the subdevices of the branch the constructors pick. -/
theorem makeManager_of_resolves {r : Registry} (consistent : r.Consistent)
    {rxDboardId txDboardId : DboardId} {rxCtor txCtor : DboardCtor}
    (rxResolves : getDboardCtor r rxDboardId "rx" = .ok rxCtor)
    (txResolves : getDboardCtor r txDboardId "tx" = .ok txCtor) :
    ∃ rxNames txNames, r.ctorToNamesMap.find? rxCtor = some rxNames ∧
      r.ctorToNamesMap.find? txCtor = some txNames ∧
      makeManager rxDboardId txDboardId r =
        (.ok (if rxCtor = txCtor then Manager.xcvrSubdevs rxCtor rxNames
          else Manager.separateSubdevs rxCtor rxNames txCtor txNames),
          (r.resolve rxDboardId).resolve txDboardId) := by
  have rxFound := find?_of_getDboardCtor rxResolves
  have txFound := find?_of_getDboardCtor txResolves
  obtain ⟨rxNames, rxNamed⟩ := Option.isSome_iff_exists.mp
    ((Dict.find?_isSome_iff _ _).mpr (consistent _ _ rxFound))
  obtain ⟨txNames, txNamed⟩ := Option.isSome_iff_exists.mp
    ((Dict.find?_isSome_iff _ _).mpr (consistent _ _ txFound))
  refine ⟨rxNames, txNames, rxNamed, txNamed, ?_⟩
  simp only [makeManager, getDboardCtor_resolve, rxResolves, txResolves]
  split
  · subst rxCtor
    simp [Dict.index_of_find? rxNamed]
    rw [rxNamed] at txNamed
    cases txNamed
    rfl
  · simp [Dict.index_of_find? rxNamed, Dict.index_of_find? txNamed, *]
    rfl

/-- On a reachable registry where both ids resolve once the internal boards are seeded,
`manager::manager` seeds them, returns the manager of `makeManager_of_resolves`, and leaves
the seeded registry as it was, but for the journal. -/
theorem manager_of_reachable {fuel : Nat} (enough : 4 ≤ fuel) {ops : List RegistryOp}
    {r : Registry} (reachable : runOps fuel Registry.initial ops = some r)
    {rxDboardId txDboardId : DboardId} {rxCtor txCtor : DboardCtor}
    (rxResolves : getDboardCtor r.ensureSeeded rxDboardId "rx" = .ok rxCtor)
    (txResolves : getDboardCtor r.ensureSeeded txDboardId "tx" = .ok txCtor) :
    ∃ rxNames txNames, r.ensureSeeded.ctorToNamesMap.find? rxCtor = some rxNames ∧
      r.ensureSeeded.ctorToNamesMap.find? txCtor = some txNames ∧
      manager fuel rxDboardId txDboardId r =
        some (.ok (if rxCtor = txCtor then Manager.xcvrSubdevs rxCtor rxNames
          else Manager.separateSubdevs rxCtor rxNames txCtor txNames),
          (r.ensureSeeded.resolve rxDboardId).resolve txDboardId) := by
  obtain ⟨rxNames, txNames, rxNamed, txNamed, made⟩ :=
    makeManager_of_resolves (consistent_of_reachable enough reachable).ensureSeeded rxResolves
      txResolves
  refine ⟨rxNames, txNames, rxNamed, txNamed, ?_⟩
  rw [manager, registerInternalDboards_eq (by omega), Option.map_some', made]

end Reachable

section Filing

/-- A lookup in a dictionary whose keys are `names` by first occurrence succeeds exactly for
those names, and otherwise throws `invalid_argument` naming the string. -/
theorem Manager.getSubdev_law {dboards : Dict String SubdevProxy} {names : List String}
    (keys : dboards.getKeys = names.eraseDups) (xx name : String) :
    ((∃ proxy, Manager.getSubdev dboards xx name = .ok proxy) ↔ name ∈ names) ∧
      (name ∉ names → Manager.getSubdev dboards xx name =
        .error (.invalidArgument ("Unknown " ++ xx ++ " subdev name " ++ name))) := by
  rw [← Dict.mem_eraseDups_iff, ← keys, ← Dict.find?_isSome_iff]
  unfold Manager.getSubdev
  split <;> simp_all

/-- What a constructed manager files: the names of each side by first occurrence, lookups
that succeed exactly for those names, and proxies that forward to the handlers of their own
side on an instance made for their name by that side's constructor. -/
structure Manager.FilesSubdevs (m : Manager) (rxCtor : DboardCtor) (rxNames : List String)
    (txCtor : DboardCtor) (txNames : List String) : Prop where
  rxNames_eq : m.getRxSubdevNames = rxNames.eraseDups
  txNames_eq : m.getTxSubdevNames = txNames.eraseDups
  rx_lookup : ∀ name, (∃ proxy, m.getRxSubdev name = .ok proxy) ↔ name ∈ rxNames
  rx_unknown : ∀ name, name ∉ rxNames →
    m.getRxSubdev name = .error (.invalidArgument ("Unknown rx subdev name " ++ name))
  tx_lookup : ∀ name, (∃ proxy, m.getTxSubdev name = .ok proxy) ↔ name ∈ txNames
  tx_unknown : ∀ name, name ∉ txNames →
    m.getTxSubdev name = .error (.invalidArgument ("Unknown tx subdev name " ++ name))
  rx_wraps : Manager.Wraps m.subdevs m.rxDboards .rxType rxCtor
  tx_wraps : Manager.Wraps m.subdevs m.txDboards .txType txCtor
  rx_forwards : ∀ name proxy, m.rxDboards.find? name = some proxy →
    ∀ {State Key Val : Type} (base : DboardBase State Key Val) (instances : Nat → State)
      (key : Key), proxy.get base instances key = base.rxGet (instances proxy.subdev) key ∧
      ∀ val, proxy.set base instances key val =
        Function.update instances proxy.subdev (base.rxSet (instances proxy.subdev) key val)
  tx_forwards : ∀ name proxy, m.txDboards.find? name = some proxy →
    ∀ {State Key Val : Type} (base : DboardBase State Key Val) (instances : Nat → State)
      (key : Key), proxy.get base instances key = base.txGet (instances proxy.subdev) key ∧
      ∀ val, proxy.set base instances key val =
        Function.update instances proxy.subdev (base.txSet (instances proxy.subdev) key val)

theorem Manager.filesSubdevs_of {m : Manager} {rxCtor txCtor : DboardCtor}
    {rxNames txNames : List String} (rxKeys : m.getRxSubdevNames = rxNames.eraseDups)
    (txKeys : m.getTxSubdevNames = txNames.eraseDups)
    (rxWraps : Manager.Wraps m.subdevs m.rxDboards .rxType rxCtor)
    (txWraps : Manager.Wraps m.subdevs m.txDboards .txType txCtor) :
    m.FilesSubdevs rxCtor rxNames txCtor txNames where
  rxNames_eq := rxKeys
  txNames_eq := txKeys
  rx_lookup name := (Manager.getSubdev_law rxKeys "rx" name).1
  rx_unknown name := (Manager.getSubdev_law rxKeys "rx" name).2
  tx_lookup name := (Manager.getSubdev_law txKeys "tx" name).1
  tx_unknown name := (Manager.getSubdev_law txKeys "tx" name).2
  rx_wraps := rxWraps
  tx_wraps := txWraps
  rx_forwards name proxy found _ _ _ base instances key :=
    ⟨SubdevProxy.get_of_rxType base instances (rxWraps name proxy found).1 key,
      SubdevProxy.set_of_rxType base instances (rxWraps name proxy found).1 key⟩
  tx_forwards name proxy found _ _ _ base instances key :=
    ⟨SubdevProxy.get_of_txType base instances (txWraps name proxy found).1 key,
      SubdevProxy.set_of_txType base instances (txWraps name proxy found).1 key⟩

theorem Manager.filesSubdevs_xcvr (ctor : DboardCtor) (names : List String) :
    (Manager.xcvrSubdevs ctor names).FilesSubdevs ctor names ctor names :=
  let ⟨rxWraps, txWraps, _⟩ := Manager.xcvrSubdevs_spec ctor names
  let ⟨rxKeys, txKeys⟩ := Manager.getKeys_xcvrSubdevs ctor names
  Manager.filesSubdevs_of rxKeys txKeys rxWraps txWraps

theorem Manager.filesSubdevs_separate (rxCtor : DboardCtor) (rxNames : List String)
    (txCtor : DboardCtor) (txNames : List String) :
    (Manager.separateSubdevs rxCtor rxNames txCtor txNames).FilesSubdevs
      rxCtor rxNames txCtor txNames :=
  let ⟨rxWraps, txWraps⟩ := Manager.separateSubdevs_spec rxCtor rxNames txCtor txNames
  let ⟨rxKeys, txKeys⟩ := Manager.getKeys_separateSubdevs rxCtor rxNames txCtor txNames
  Manager.filesSubdevs_of rxKeys txKeys rxWraps txWraps

/-- On a reachable registry with both ids resolved after the seeding, `manager::manager`
makes a manager that files the subdevices of both constructors, the shared one when they are
the same. -/
theorem manager_made_of_reachable {fuel : Nat} (enough : 4 ≤ fuel)
    {ops : List RegistryOp} {r : Registry} (reachable : runOps fuel Registry.initial ops = some r)
    {rxDboardId txDboardId : DboardId} {rxCtor txCtor : DboardCtor}
    (rxResolves : getDboardCtor r.ensureSeeded rxDboardId "rx" = .ok rxCtor)
    (txResolves : getDboardCtor r.ensureSeeded txDboardId "tx" = .ok txCtor) :
    ∃ m rxNames txNames,
      manager fuel rxDboardId txDboardId r =
        some (.ok m, (r.ensureSeeded.resolve rxDboardId).resolve txDboardId) ∧
      r.ensureSeeded.ctorToNamesMap.find? rxCtor = some rxNames ∧
      r.ensureSeeded.ctorToNamesMap.find? txCtor = some txNames ∧
      m.FilesSubdevs rxCtor rxNames txCtor txNames ∧
      (rxCtor = txCtor → m = Manager.xcvrSubdevs rxCtor rxNames) := by
  obtain ⟨rxNames, txNames, rxNamed, txNamed, made⟩ :=
    manager_of_reachable enough reachable rxResolves txResolves
  refine ⟨_, rxNames, txNames, made, rxNamed, txNamed, ?_, fun same => if_pos same⟩
  split
  · subst txCtor
    rw [rxNamed] at txNamed
    cases txNamed
    exact Manager.filesSubdevs_xcvr rxCtor rxNames
  · exact Manager.filesSubdevs_separate rxCtor rxNames txCtor txNames

/-- A transceiver board's registration, as the comment above `register_internal_dboards`
asks of xcvr type boards: one constructor, filed under the board's RX id and its TX id. -/
def xcvrBoardOps : List RegistryOp :=
  [.register 0x0040 (.external 0) ["0"], .register 0x0041 (.external 0) ["0"]]

/-- A transceiver board files its one constructor under two ids, so a manager for its RX id
and its TX id takes the transceiver branch: its RX and TX proxies for `"0"` wrap the same
instance although the two ids differ. -/
theorem manager_shares_instance_across_ids :
    ∃ r m, runOps 4 Registry.initial xcvrBoardOps = some r ∧
      manager 4 0x0040 0x0041 r = some (.ok m, (r.ensureSeeded.resolve 0x0040).resolve 0x0041) ∧
      (0x0040 : DboardId) ≠ 0x0041 ∧
      m.rxDboards.find? "0" = some ⟨0, .rxType⟩ ∧ m.txDboards.find? "0" = some ⟨0, .txType⟩ :=
  ⟨_, _, rfl, rfl, by decide, by decide, by decide⟩

/-- In a manager built on a reachable registry, the RX and TX proxies filed under one name
wrap the same instance exactly when the two ids resolve, after the seeding, to the same
constructor; with different constructors every RX proxy wraps an instance no TX proxy
wraps, so a write through an RX proxy leaves the instance behind every TX proxy
unchanged. -/
theorem manager_shares_instance_iff_same_ctor {fuel : Nat} (enough : 4 ≤ fuel)
    {ops : List RegistryOp} {r : Registry} (reachable : runOps fuel Registry.initial ops = some r)
    {rxDboardId txDboardId : DboardId} {rxCtor txCtor : DboardCtor}
    (rxResolves : getDboardCtor r.ensureSeeded rxDboardId "rx" = .ok rxCtor)
    (txResolves : getDboardCtor r.ensureSeeded txDboardId "tx" = .ok txCtor) :
    ∃ m, manager fuel rxDboardId txDboardId r =
        some (.ok m, (r.ensureSeeded.resolve rxDboardId).resolve txDboardId) ∧
      (∀ name rxProxy txProxy, m.rxDboards.find? name = some rxProxy →
        m.txDboards.find? name = some txProxy → (rxProxy.subdev = txProxy.subdev ↔ rxCtor = txCtor)) ∧
      (rxCtor ≠ txCtor → ∀ name rxProxy name' txProxy, m.rxDboards.find? name = some rxProxy →
        m.txDboards.find? name' = some txProxy → rxProxy.subdev ≠ txProxy.subdev ∧
          ∀ {State Key Val : Type} (base : DboardBase State Key Val) (instances : Nat → State)
            (key : Key) (val : Val),
            rxProxy.set base instances key val txProxy.subdev = instances txProxy.subdev) := by
  obtain ⟨m, rxNames, txNames, made, -, -, files, xcvr⟩ :=
    manager_made_of_reachable enough reachable rxResolves txResolves
  have distinct : ∀ name rxProxy name' txProxy, m.rxDboards.find? name = some rxProxy →
      m.txDboards.find? name' = some txProxy → rxProxy.subdev = txProxy.subdev →
      rxCtor = txCtor := by
    intro name rxProxy name' txProxy rxFound txFound same
    have rxMade := (files.rx_wraps name rxProxy rxFound).2
    rw [same, (files.tx_wraps name' txProxy txFound).2] at rxMade
    cases rxMade
    rfl
  refine ⟨m, made, fun name rxProxy txProxy rxFound txFound =>
    ⟨distinct _ _ _ _ rxFound txFound, fun same => ?_⟩,
    fun differ name rxProxy name' txProxy rxFound txFound =>
      have apart := fun same => differ (distinct _ _ _ _ rxFound txFound same)
      ⟨apart, fun base instances key val =>
        SubdevProxy.set_apply_of_ne base instances rxProxy key val (Ne.symm apart)⟩⟩
  rw [xcvr same] at rxFound txFound
  rw [(Manager.xcvrSubdevs_spec rxCtor rxNames).2.2 name, rxFound] at txFound
  cases txFound
  rfl

theorem manager_shares_instance_iff_same_ctor_basic :
    (4 ≤ 4 ∧ runOps 4 Registry.initial [] = some Registry.initial ∧
      getDboardCtor Registry.initial.ensureSeeded idBasicRx "rx" = .ok .basicRxMake ∧
      getDboardCtor Registry.initial.ensureSeeded idBasicTx "tx" = .ok .basicTxMake ∧
      ∃ m, manager 4 idBasicRx idBasicTx Registry.initial =
          some (.ok m, (Registry.initial.ensureSeeded.resolve idBasicRx).resolve idBasicTx) ∧
        (∀ name rxProxy txProxy, m.rxDboards.find? name = some rxProxy →
          m.txDboards.find? name = some txProxy →
            (rxProxy.subdev = txProxy.subdev ↔ DboardCtor.basicRxMake = .basicTxMake)) ∧
        (DboardCtor.basicRxMake ≠ .basicTxMake → ∀ name rxProxy name' txProxy,
          m.rxDboards.find? name = some rxProxy → m.txDboards.find? name' = some txProxy →
          rxProxy.subdev ≠ txProxy.subdev ∧
            ∀ {State Key Val : Type} (base : DboardBase State Key Val) (instances : Nat → State)
              (key : Key) (val : Val),
              rxProxy.set base instances key val txProxy.subdev = instances txProxy.subdev)) ∧
    (4 ≤ 4 ∧ runOps 4 Registry.initial xcvrBoardOps = some (seededRun xcvrBoardOps) ∧
      getDboardCtor (seededRun xcvrBoardOps).ensureSeeded 0x0040 "rx" = .ok (.external 0) ∧
      getDboardCtor (seededRun xcvrBoardOps).ensureSeeded 0x0041 "tx" = .ok (.external 0) ∧
      ∃ m, manager 4 0x0040 0x0041 (seededRun xcvrBoardOps) =
          some (.ok m, ((seededRun xcvrBoardOps).ensureSeeded.resolve 0x0040).resolve 0x0041) ∧
        (∀ name rxProxy txProxy, m.rxDboards.find? name = some rxProxy →
          m.txDboards.find? name = some txProxy →
            (rxProxy.subdev = txProxy.subdev ↔ DboardCtor.external 0 = .external 0)) ∧
        (DboardCtor.external 0 ≠ .external 0 → ∀ name rxProxy name' txProxy,
          m.rxDboards.find? name = some rxProxy → m.txDboards.find? name' = some txProxy →
          rxProxy.subdev ≠ txProxy.subdev ∧
            ∀ {State Key Val : Type} (base : DboardBase State Key Val) (instances : Nat → State)
              (key : Key) (val : Val),
              rxProxy.set base instances key val txProxy.subdev = instances txProxy.subdev)) := by
  have first : runOps 4 Registry.initial [] = some Registry.initial := rfl
  have xcvr : runOps 4 Registry.initial xcvrBoardOps = some (seededRun xcvrBoardOps) := rfl
  exact ⟨⟨by decide, first, rfl, rfl,
      manager_shares_instance_iff_same_ctor (by decide) first rfl rfl⟩,
    ⟨by decide, xcvr, rfl, rfl, manager_shares_instance_iff_same_ctor (by decide) xcvr rfl rfl⟩⟩

/-- `ctor_to_names_map[id_to_ctor_map[id]]`: the names a manager iterates for `id`. -/
def Registry.subdevNames (r : Registry) (id : DboardId) : Option (List String) :=
  (r.idToCtorMap.find? id).bind r.ctorToNamesMap.find?

/-- The names passed by the last registration of `id` in a journal. -/
def lastRegisteredNames (journal : List RegistryEvent) (id : DboardId) : Option (List String) :=
  journal.foldl (fun found event =>
    match event with
    | .registered other _ names => if other = id then some names else found
    | .resolved _ => found) none

/-- The names are filed per constructor: once the internal boards are seeded, `ID_NONE`,
whose last registration passed `["ab"]`, iterates the names `["a", "b", "ab"]` that the
later registration of `ID_BASIC_RX` gave the shared `basic_rx::make`. -/
theorem subdevNames_none_after_seeding :
    ∃ r, runOps 4 Registry.initial [.register idBasicTx .basicTxMake [""]] = some r ∧
      lastRegisteredNames r.journal idNone = some ["ab"] ∧
      r.subdevNames idNone = some ["a", "b", "ab"] :=
  ⟨_, rfl, by decide, by decide⟩

end Filing

end UhdHost
