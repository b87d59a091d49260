import UhdHost.Basic

/-!
# The daughterboard registry

`manager::register_subdevs` files an id under a constructor, and the constructor under its
subdevice names, in two process-wide dictionaries.  Before its own write it calls
`register_internal_dboards`, which seeds the built-in boards by calling `register_subdevs`
four times; a static latch, set before those calls, makes the nested calls return at once.

The mutual recursion is modelled with a budget of nested calls (`fuel`).  Four levels are
always enough, and `registerSubdevs_eq` shows that the recursive code then computes
`Registry.register`: seed unless the latch is set, then write.
-/

namespace UhdHost

/-- `dboard_id_t`: the 16-bit id a daughterboard reports. -/
abbrev DboardId := UInt16

/-- Modelled from the spec: `ID_NONE` is declared in a header that is not among the
sources, and the spec calls ids opaque integers; it keeps the value of that header. -/
def idNone : DboardId := 0xffff

/-- Modelled from the spec: `ID_BASIC_TX`, from dboards.hpp. -/
def idBasicTx : DboardId := 0x0000

/-- Modelled from the spec: `ID_BASIC_RX`, from dboards.hpp. -/
def idBasicRx : DboardId := 0x0001

/-- `manager::dboard_ctor_t`: a pointer to a driver's `make` function, compared by address. -/
inductive DboardCtor where
  /-- `&basic_tx::make` -/
  | basicTxMake
  /-- `&basic_rx::make` -/
  | basicRxMake
  /-- the `make` of a driver registered from outside this file -/
  | external (address : Nat)
deriving DecidableEq, Repr

/-- One write of `register_subdevs` or one call of `get_dboard_ctor`. -/
inductive RegistryEvent where
  | registered (id : DboardId) (ctor : DboardCtor) (names : List String)
  | resolved (id : DboardId)
deriving DecidableEq, Repr

/-- The process-wide state of manager.cpp: the latch `called` of `register_internal_dboards`,
`id_to_ctor_map`, `ctor_to_names_map`, and a journal of the writes and lookups made so far,
kept for the proofs only. -/
structure Registry where
  called : Bool
  idToCtorMap : Dict DboardId DboardCtor
  ctorToNamesMap : Dict DboardCtor (List String)
  journal : List RegistryEvent
deriving DecidableEq, Repr

namespace Registry

def initial : Registry := ⟨false, .empty, .empty, []⟩

/-- The two assignments of `register_subdevs`. -/
def write (r : Registry) (id : DboardId) (ctor : DboardCtor) (names : List String) :
    Registry :=
  { r with
    idToCtorMap := r.idToCtorMap.set id ctor
    ctorToNamesMap := r.ctorToNamesMap.set ctor names
    journal := r.journal ++ [.registered id ctor names] }

/-- The journal entry of a call of `get_dboard_ctor`. -/
def resolve (r : Registry) (id : DboardId) : Registry :=
  { r with journal := r.journal ++ [.resolved id] }

@[simp] theorem write_called (r : Registry) id ctor names :
    (r.write id ctor names).called = r.called := rfl
@[simp] theorem resolve_called (r : Registry) id : (r.resolve id).called = r.called := rfl
@[simp] theorem resolve_idToCtorMap (r : Registry) id :
    (r.resolve id).idToCtorMap = r.idToCtorMap := rfl
@[simp] theorem resolve_ctorToNamesMap (r : Registry) id :
    (r.resolve id).ctorToNamesMap = r.ctorToNamesMap := rfl

end Registry

/-- The registrations of `register_internal_dboards`, in order. -/
def internalDboards : List (DboardId × DboardCtor × List String) :=
  [(idNone, .basicTxMake, [""]), (idNone, .basicRxMake, ["ab"]),
    (idBasicTx, .basicTxMake, [""]), (idBasicRx, .basicRxMake, ["a", "b", "ab"])]

/-- Apply the writes of a list of registrations in order. -/
def Registry.writeAll (r : Registry) (regs : List (DboardId × DboardCtor × List String)) :
    Registry :=
  regs.foldl (fun r reg => r.write reg.1 reg.2.1 reg.2.2) r

/-- What `register_internal_dboards` does the one time it runs: set the latch, then
register the internal boards. -/
def Registry.seed (r : Registry) : Registry :=
  { r with called := true }.writeAll internalDboards

/-- The effect of `register_internal_dboards` on any state. -/
def Registry.ensureSeeded (r : Registry) : Registry :=
  if r.called then r else r.seed

/-- `register_subdevs` with the latch unrolled. -/
def Registry.register (r : Registry) (id : DboardId) (ctor : DboardCtor)
    (names : List String) : Registry :=
  r.ensureSeeded.write id ctor names

mutual

/-- `register_internal_dboards`; `fuel` bounds the depth of nested calls. -/
def registerInternalDboards : Nat → Registry → Option Registry
  | 0, _ => none
  | fuel + 1, r =>
      if r.called then some r else do
        let r := { r with called := true }
        let r ← registerSubdevs fuel idNone .basicTxMake [""] r
        let r ← registerSubdevs fuel idNone .basicRxMake ["ab"] r
        let r ← registerSubdevs fuel idBasicTx .basicTxMake [""] r
        registerSubdevs fuel idBasicRx .basicRxMake ["a", "b", "ab"] r

/-- `manager::register_subdevs` -/
def registerSubdevs : Nat → DboardId → DboardCtor → List String → Registry → Option Registry
  | 0, _, _, _, _ => none
  | fuel + 1, id, ctor, names, r =>
      (registerInternalDboards fuel r).map fun r => r.write id ctor names

end

/-- The exception `get_dboard_ctor` throws for an id without a constructor. -/
def unknownDboardId (xxType : String) (dboardId : DboardId) : UhdError :=
  .runtimeError ("Unknown " ++ xxType ++ " dboard id: " ++ hex04 dboardId.toNat)

/-- `get_dboard_ctor` -/
def getDboardCtor (r : Registry) (dboardId : DboardId) (xxType : String) :
    Except UhdError DboardCtor :=
  match r.idToCtorMap.find? dboardId with
  | none => .error (unknownDboardId xxType dboardId)
  | some ctor => .ok ctor

/-- A lookup ignores what the journal records. -/
@[simp] theorem getDboardCtor_resolve (r : Registry) (resolved id : DboardId) (xxType : String) :
    getDboardCtor (r.resolve resolved) id xxType = getDboardCtor r id xxType := rfl

section Latch

variable {r : Registry} {id : DboardId} {ctor : DboardCtor} {names : List String}

theorem registerInternalDboards_of_called (fuel : Nat) (latched : r.called = true) :
    registerInternalDboards (fuel + 1) r = some r := by
  simp [registerInternalDboards, latched]

/-- A nested call finds the latch set and only writes. -/
theorem registerSubdevs_of_called (fuel : Nat) (latched : r.called = true) :
    registerSubdevs (fuel + 2) id ctor names r = some (r.write id ctor names) := by
  simp [registerSubdevs, registerInternalDboards_of_called fuel latched]

theorem registerInternalDboards_of_not_called (fuel : Nat) (fresh : r.called = false) :
    registerInternalDboards (fuel + 3) r = some r.seed := by
  simp only [registerInternalDboards, fresh, Bool.false_eq_true, if_false]
  simp [registerSubdevs_of_called, Option.bind, Registry.seed, Registry.writeAll,
    internalDboards]

/-- Three levels of calls are enough for `register_internal_dboards`. -/
theorem registerInternalDboards_eq {fuel : Nat} (enough : 3 ≤ fuel) :
    registerInternalDboards fuel r = some r.ensureSeeded := by
  obtain ⟨fuel, rfl⟩ : ∃ k, fuel = k + 3 := ⟨fuel - 3, by omega⟩
  cases latched : r.called
  · simp [registerInternalDboards_of_not_called fuel latched, Registry.ensureSeeded, latched]
  · simp [registerInternalDboards_of_called (fuel + 2) latched, Registry.ensureSeeded, latched]

/-- Four levels of calls are enough for `register_subdevs`, and it seeds at most once
before its own write. -/
theorem registerSubdevs_eq {fuel : Nat} (enough : 4 ≤ fuel) :
    registerSubdevs fuel id ctor names r = some (r.register id ctor names) := by
  obtain ⟨fuel, rfl⟩ : ∃ k, fuel = k + 1 := ⟨fuel - 1, by omega⟩
  simp [registerSubdevs, registerInternalDboards_eq (by omega : 3 ≤ fuel), Registry.register]

end Latch

end UhdHost
