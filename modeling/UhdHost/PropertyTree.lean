import UhdHost.Basic
import Mathlib.Algebra.Order.Ring.Rat

/-!
# The property tree and the device behind it

The multi-board facade reaches all hardware through `wax` property objects: a key, or a
`named_prop_t` pair of a key and a name, selects a child node, and a leaf is read with
`as<T>()` or assigned.  The device answering these accesses is outside the sources.  It is
modelled as any function of the events so far: a read of one property may answer
differently later in a run (the clocks run), and a write may fail or change what later reads
return.

The facade runs in `UsrpM`, whose state is the trace of events so far; an exception keeps
the trace, as a C++ throw keeps the effects already made.
-/

namespace UhdHost

/-- Modelled from the spec: `DEVICE_PROP_*` of device_props.hpp, not among the sources; the
spec lists the key families in its section 6. -/
inductive DeviceProp where
  | name | mboard | mboardNames
deriving DecidableEq, Repr

/-- Modelled from the spec: `MBOARD_PROP_*` of mboard_props.hpp. -/
inductive MboardProp where
  | name | clockRate | timeNow | timePps | rxSubdevSpec | txSubdevSpec | rxDspNames
  | txDspNames | rxDsp | txDsp | rxDboard | txDboard | clockConfig | sensor | sensorNames | iface
deriving DecidableEq, Repr

/-- Modelled from the spec: `DSP_PROP_*` of dsp_props.hpp. -/
inductive DspProp where
  | name | hostRate | codecRate | streamCmd
deriving DecidableEq, Repr

/-- Modelled from the spec: `DBOARD_PROP_*` of dboard_props.hpp. -/
inductive DboardProp where
  | name | subdev | dboardIface | gainGroup
deriving DecidableEq, Repr

/-- Modelled from the spec: `SUBDEV_PROP_*` of subdev_props.hpp. -/
inductive SubdevProp where
  | name | freqRange | antenna | antennaNames | bandwidth | sensor | sensorNames
deriving DecidableEq, Repr

/-- A property enumerator of one of the five families. -/
inductive PropKey where
  | device (prop : DeviceProp)
  | mboard (prop : MboardProp)
  | dsp (prop : DspProp)
  | dboard (prop : DboardProp)
  | subdev (prop : SubdevProp)
deriving DecidableEq, Repr

/-- What indexes a `wax::obj`: a bare enumerator, or a `named_prop_t`. -/
inductive WaxKey where
  | plain (key : PropKey)
  | named (key : PropKey) (name : String)
deriving DecidableEq, Repr

/-- The keys from the device root to a node. -/
abbrev PropPath := List WaxKey

/-- Modelled from the spec: `time_spec_t` is declared outside the sources, and the spec
calls a time value an arbitrary-precision instant of whole and fractional seconds.  Seconds,
as a rational number. -/
abbrev TimeSpec := ℚ

/-- `subdev_spec_pair_t`: a daughterboard slot and a subdevice on it. -/
structure SubdevSpecPair where
  dbName : String
  sdName : String
deriving DecidableEq, Repr

/-- `subdev_spec_t`: one board's channels, in channel order. -/
abbrev SubdevSpec := List SubdevSpecPair

/-- `freq_range_t`, of which the facade reads the two ends. -/
structure FreqRange where
  start : Float
  stop : Float

/-- A value of a type the facade only passes along (`stream_cmd_t`, `clock_config_t`,
`sensor_value_t`, `tune_result_t`, `gain_range_t`, interface and gain-group handles): its
contents are outside the sources and no modelled code reads them. -/
structure Blob where
  contents : Nat
deriving DecidableEq, Repr

/-- `tune_request_t`: the facade reads the target frequency and hands the rest to the
tuning code. -/
structure TuneRequest where
  targetFreq : Float
  policy : Blob

/-- The pass-along types, as runtime type tags. -/
inductive BlobType where
  | streamCmd | clockConfig | sensorValue | mboardIface | dboardIface | gainGroup
deriving DecidableEq, Repr

/-- The contents of a `wax::obj`; the constructor is the runtime type `as<T>()` checks. -/
inductive WaxObj where
  | names (val : List String)
  | string (val : String)
  | double (val : Float)
  | timeSpec (val : TimeSpec)
  | subdevSpec (val : SubdevSpec)
  | freqRange (val : FreqRange)
  | blob (type : BlobType) (val : Blob)

/-- `wax::obj::as<T>()`: the value, when the object holds a `T`. -/
class WaxType (α : Type) where
  cast? : WaxObj → Option α

instance : WaxType (List String) := ⟨fun | .names val => some val | _ => none⟩
instance : WaxType String := ⟨fun | .string val => some val | _ => none⟩
instance : WaxType Float := ⟨fun | .double val => some val | _ => none⟩
instance : WaxType TimeSpec := ⟨fun | .timeSpec val => some val | _ => none⟩
instance : WaxType SubdevSpec := ⟨fun | .subdevSpec val => some val | _ => none⟩
instance : WaxType FreqRange := ⟨fun | .freqRange val => some val | _ => none⟩

/-- `as<T>()` for a pass-along type `T`. -/
def WaxObj.blob? (type : BlobType) : WaxObj → Option Blob
  | .blob type' val => if type' = type then some val else none
  | _ => none

/-- A warning printed with `UHD_MSG(warning)`, with the values it formats. -/
inductive Warning where
  | sampRate (xx : String) (target actual : Float)
  | tuneFreq (xx : String) (target actual : Float)
  | timeDeviation (board : Nat) (time0 timeBoard : TimeSpec)

/-- What the facade does that the device or the operator sees. -/
inductive Event where
  /-- a read of a property, and what it returned -/
  | get (path : PropPath) (val : WaxObj)
  /-- a write of a property that the device took -/
  | set (path : PropPath) (val : WaxObj)
  /-- `UHD_MSG(status)` -/
  | status (text : String)
  /-- `UHD_MSG(warning)` -/
  | warning (w : Warning)
  /-- `boost::this_thread::sleep` -/
  | sleep (seconds : Nat)

def Event.IsGet : Event → Prop
  | .get _ _ => True
  | _ => False

theorem Event.eq_get_of_isGet {e : Event} (get : e.IsGet) : ∃ path val, e = .get path val := by
  cases e <;> first | exact ⟨_, _, rfl⟩ | exact (get : False).elim

/-- The writes of a trace, in order. -/
def writes : List Event → List (PropPath × WaxObj)
  | [] => []
  | .set path val :: events => (path, val) :: writes events
  | _ :: events => writes events

/-- The device behind the tree: what a read returns and whether a write is taken, given the
events so far; an error is the device's own failure for that property. -/
structure Device where
  get : List Event → PropPath → Except String WaxObj
  set : List Event → PropPath → WaxObj → Except String Unit

/-- The facade's computations: the trace so far, and exceptions that keep it. -/
abbrev UsrpM := EStateM UhdError (List Event)

section Primitives

variable (dev : Device) {α : Type}

/-- A read through the tree; the device's failure becomes `UhdError.device`. -/
def getProp (path : PropPath) : UsrpM WaxObj := fun trace =>
  match dev.get trace path with
  | .ok val => .ok val (trace ++ [.get path val])
  | .error what => .error (.device what) trace

/-- `tree[path].as<T>()` -/
def getAs (α : Type) [WaxType α] (path : PropPath) : UsrpM α := do
  match WaxType.cast? (← getProp dev path) with
  | some val => pure val
  | none => throw .badCast

/-- `tree[path].as<T>()` for a pass-along type `T`. -/
def getBlob (type : BlobType) (path : PropPath) : UsrpM Blob := do
  match (← getProp dev path).blob? type with
  | some val => pure val
  | none => throw .badCast

/-- `tree[path] = val` -/
def setProp (path : PropPath) (val : WaxObj) : UsrpM Unit := fun trace =>
  match dev.set trace path val with
  | .ok () => .ok () (trace ++ [.set path val])
  | .error what => .error (.device what) trace

/-- A message or a sleep. -/
def record (event : Event) : UsrpM Unit := fun trace => .ok () (trace ++ [event])

/-- `std::vector::at` -/
def vectorAt (xs : List α) (i : Nat) : UsrpM α :=
  match xs[i]? with
  | some x => pure x
  | none => throw .outOfRange

/-- `for (size_t i = start; i < bound(); i++) acc = body(i, acc);`: the bound is evaluated
again before every test, and `fuel` bounds the number of tests.  The index at exit and the
accumulator. -/
def forLoop (bound : UsrpM Nat) (body : Nat → α → UsrpM α) : Nat → Nat → α → UsrpM (Nat × α)
  | 0, _, _ => throw .fuelExhausted
  | fuel + 1, i, acc => do
      if i < (← bound) then
        let acc ← body i acc
        forLoop bound body fuel (i + 1) acc
      else pure (i, acc)

end Primitives

section Run

variable {α β : Type} {dev : Device}

@[simp] theorem run_pure (a : α) (trace : List Event) :
    (pure a : UsrpM α) trace = .ok a trace := rfl

@[simp] theorem run_throw (e : UhdError) (trace : List Event) :
    (throw e : UsrpM α) trace = .error e trace := rfl

theorem run_bind_of_ok {x : UsrpM α} {f : α → UsrpM β} {trace trace' : List Event} {a : α}
    (ran : x trace = .ok a trace') : (x >>= f) trace = f a trace' := by
  show EStateM.bind x f trace = _
  simp [EStateM.bind, ran]

theorem run_bind_of_error {x : UsrpM α} {f : α → UsrpM β} {trace trace' : List Event}
    {e : UhdError} (ran : x trace = .error e trace') : (x >>= f) trace = .error e trace' := by
  show EStateM.bind x f trace = _
  simp [EStateM.bind, ran]

/-- All events of `ext` are reads. -/
def AllGets (ext : List Event) : Prop := ∀ e ∈ ext, e.IsGet

theorem AllGets.append {ext ext' : List Event} (reads : AllGets ext) (reads' : AllGets ext') :
    AllGets (ext ++ ext') := by
  intro e mem
  rcases List.mem_append.mp mem with mem | mem
  exacts [reads e mem, reads' e mem]

theorem writes_append (events events' : List Event) :
    writes (events ++ events') = writes events ++ writes events' := by
  induction events with
  | nil => rfl
  | cons e events ih => cases e <;> simp [writes, ih]

theorem writes_of_allGets {ext : List Event} (reads : AllGets ext) : writes ext = [] := by
  induction ext with
  | nil => rfl
  | cons e ext ih =>
      obtain ⟨_, _, rfl⟩ := Event.eq_get_of_isGet (reads e (List.mem_cons_self _ _))
      exact ih fun e' mem => reads e' (List.mem_cons_of_mem _ mem)

/-- From `trace`, `prog` ends normally with `a` after reading only. -/
def ReadsTo (prog : UsrpM α) (trace : List Event) (a : α) : Prop :=
  ∃ ext, AllGets ext ∧ prog trace = .ok a (trace ++ ext)

/-- From `trace`, `prog` throws `e` after reading only: it wrote nothing. -/
def ReadsThenThrows (prog : UsrpM α) (trace : List Event) (e : UhdError) : Prop :=
  ∃ ext, AllGets ext ∧ prog trace = .error e (trace ++ ext)

theorem ReadsTo.pure (a : α) (trace : List Event) : ReadsTo (pure a) trace a :=
  ⟨[], by simp [AllGets], by simp⟩

theorem ReadsThenThrows.throw (e : UhdError) (trace : List Event) :
    ReadsThenThrows (throw e : UsrpM α) trace e :=
  ⟨[], by simp [AllGets], by simp⟩

theorem ReadsTo.bind {prog : UsrpM α} {f : α → UsrpM β} {trace : List Event} {a : α} {b : β}
    (first : ReadsTo prog trace a)
    (rest : ∀ ext, AllGets ext → ReadsTo (f a) (trace ++ ext) b) :
    ReadsTo (prog >>= f) trace b := by
  obtain ⟨ext, reads, ran⟩ := first
  obtain ⟨ext', reads', ran'⟩ := rest ext reads
  exact ⟨ext ++ ext', reads.append reads', by rw [run_bind_of_ok ran, ran', List.append_assoc]⟩

theorem ReadsTo.bind_throws {prog : UsrpM α} {f : α → UsrpM β} {trace : List Event} {a : α}
    {e : UhdError} (first : ReadsTo prog trace a)
    (rest : ∀ ext, AllGets ext → ReadsThenThrows (f a) (trace ++ ext) e) :
    ReadsThenThrows (prog >>= f) trace e := by
  obtain ⟨ext, reads, ran⟩ := first
  obtain ⟨ext', reads', ran'⟩ := rest ext reads
  exact ⟨ext ++ ext', reads.append reads', by rw [run_bind_of_ok ran, ran', List.append_assoc]⟩

theorem ReadsThenThrows.bind {prog : UsrpM α} {f : α → UsrpM β} {trace : List Event}
    {e : UhdError} (first : ReadsThenThrows prog trace e) :
    ReadsThenThrows (prog >>= f) trace e := by
  obtain ⟨ext, reads, ran⟩ := first
  exact ⟨ext, reads, run_bind_of_error ran⟩

theorem getProp_run {trace : List Event} {path : PropPath} {val : WaxObj}
    (answers : dev.get trace path = .ok val) :
    getProp dev path trace = .ok val (trace ++ [.get path val]) := by
  simp [getProp, answers]

theorem getProp_run_error {trace : List Event} {path : PropPath} {what : String}
    (fails : dev.get trace path = .error what) :
    getProp dev path trace = .error (.device what) trace := by
  simp [getProp, fails]

theorem getAs_run [WaxType α] {trace : List Event} {path : PropPath} {obj : WaxObj} {val : α}
    (answers : dev.get trace path = .ok obj) (holds : WaxType.cast? obj = some val) :
    getAs dev α path trace = .ok val (trace ++ [.get path obj]) := by
  unfold getAs
  rw [run_bind_of_ok (getProp_run answers)]
  simp [holds]

theorem getAs_readsTo [WaxType α] {trace : List Event} {path : PropPath} {obj : WaxObj} {val : α}
    (answers : dev.get trace path = .ok obj) (holds : WaxType.cast? obj = some val) :
    ReadsTo (getAs dev α path) trace val :=
  ⟨[.get path obj], by simp [AllGets, Event.IsGet], getAs_run answers holds⟩

theorem vectorAt_readsTo {xs : List α} {i : Nat} (inside : i < xs.length) (trace : List Event) :
    ReadsTo (vectorAt xs i) trace xs[i] := by
  simp only [vectorAt, List.getElem?_eq_getElem inside]
  exact ReadsTo.pure _ _

theorem vectorAt_readsThenThrows {xs : List α} {i : Nat} (outside : xs.length ≤ i)
    (trace : List Event) : ReadsThenThrows (vectorAt xs i) trace .outOfRange := by
  simp only [vectorAt, List.getElem?_eq_none outside]
  exact ReadsThenThrows.throw _ _

end Run

end UhdHost
