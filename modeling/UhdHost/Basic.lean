import Mathlib.Data.List.Nodup

/-!
# Dictionaries and exceptions shared by the host library

`uhd::dict` keeps its entries in one list in insertion order: assigning through the
non-const `operator[]` overwrites the value of a present key in place and appends a new
key at the end, and `get_keys` lists the keys in that order.  The daughterboard registry
and the daughterboard manager keep every table in such a dictionary.

The exceptions are those the two source files throw or let through.
-/

namespace UhdHost

/-- Modelled from the spec: `uhd::dict` (types/dict.hpp) is not among the sources; the spec
says its keys come back in insertion order.  The entries, in insertion order. -/
structure Dict (Key Val : Type) where
  entries : List (Key × Val)
deriving DecidableEq, Repr

namespace Dict

variable {Key Val : Type}

def empty : Dict Key Val := ⟨[]⟩

/-- `get_keys` -/
def getKeys (d : Dict Key Val) : List Key :=
  d.entries.map Prod.fst

@[simp] theorem getKeys_empty : (empty : Dict Key Val).getKeys = [] := rfl

variable [DecidableEq Key]

/-- The value `operator[]` returns for a present key: that of the first entry with the key. -/
def find? (d : Dict Key Val) (key : Key) : Option Val :=
  (d.entries.find? fun entry => entry.1 = key).map Prod.snd

/-- Assignment through `operator[]`: the first entry with the key is overwritten, and a
missing key is appended with the value. -/
def setEntries : List (Key × Val) → Key → Val → List (Key × Val)
  | [], key, val => [(key, val)]
  | (k, v) :: rest, key, val =>
      if k = key then (key, val) :: rest else (k, v) :: setEntries rest key val

/-- `d[key] = val` -/
def set (d : Dict Key Val) (key : Key) (val : Val) : Dict Key Val :=
  ⟨setEntries d.entries key val⟩

/-- The non-const `operator[]` read: a missing key is first inserted with `Val()`. -/
def index [Inhabited Val] (d : Dict Key Val) (key : Key) : Val × Dict Key Val :=
  match d.find? key with
  | some val => (val, d)
  | none => (default, d.set key default)

@[simp] theorem find?_empty (key : Key) : (empty : Dict Key Val).find? key = none := rfl

theorem find?_eq_none_iff (d : Dict Key Val) (key : Key) :
    d.find? key = none ↔ key ∉ d.getKeys := by
  simp only [find?, getKeys, Option.map_eq_none', List.find?_eq_none, decide_eq_true_eq,
    List.mem_map, not_exists, not_and]

theorem find?_isSome_iff (d : Dict Key Val) (key : Key) :
    (d.find? key).isSome ↔ key ∈ d.getKeys := by
  rw [← not_iff_not, ← find?_eq_none_iff]
  cases d.find? key <;> simp

private theorem setEntries_find? (entries : List (Key × Val)) (key other : Key) (val : Val) :
    ((setEntries entries key val).find? fun entry => entry.1 = other).map Prod.snd =
      if other = key then some val
      else (entries.find? fun entry => entry.1 = other).map Prod.snd := by
  induction entries with
  | nil => by_cases h : other = key <;> simp [setEntries, h, eq_comm]
  | cons entry rest ih =>
      obtain ⟨k, v⟩ := entry
      by_cases hk : k = key
      · subst hk; by_cases h : other = k <;> simp [setEntries, h, eq_comm]
      · by_cases h : k = other
        · subst h; simp [setEntries, hk, Ne.symm hk]
        · simp [setEntries, hk, h, ih]

@[simp] theorem find?_set (d : Dict Key Val) (key other : Key) (val : Val) :
    (d.set key val).find? other = if other = key then some val else d.find? other :=
  setEntries_find? d.entries key other val

private theorem setEntries_keys (entries : List (Key × Val)) (key : Key) (val : Val) :
    (setEntries entries key val).map Prod.fst =
      if key ∈ entries.map Prod.fst then entries.map Prod.fst
      else entries.map Prod.fst ++ [key] := by
  induction entries with
  | nil => simp [setEntries]
  | cons entry rest ih =>
      obtain ⟨k, v⟩ := entry
      by_cases hk : k = key
      · subst hk; simp [setEntries]
      · by_cases hmem : key ∈ rest.map Prod.fst <;>
          simp_all [setEntries, Ne.symm hk]

/-- Assignment keeps the position of a present key and appends a new one. -/
theorem getKeys_set (d : Dict Key Val) (key : Key) (val : Val) :
    (d.set key val).getKeys = if key ∈ d.getKeys then d.getKeys else d.getKeys ++ [key] :=
  setEntries_keys d.entries key val

@[simp] theorem mem_getKeys_set (d : Dict Key Val) (key other : Key) (val : Val) :
    other ∈ (d.set key val).getKeys ↔ other = key ∨ other ∈ d.getKeys := by
  rw [getKeys_set]
  by_cases h : key ∈ d.getKeys
  · simp only [h, if_true]
    constructor
    · exact Or.inr
    · rintro (rfl | hother) <;> assumption
  · simp [h, or_comm]

/-- The key list after assigning `key`: unchanged if present, else `key` appended. -/
def insertKey (keys : List Key) (key : Key) : List Key :=
  if key ∈ keys then keys else keys ++ [key]

theorem getKeys_set_eq_insertKey (d : Dict Key Val) (key : Key) (val : Val) :
    (d.set key val).getKeys = insertKey d.getKeys key :=
  getKeys_set d key val

theorem mem_foldl_insertKey (names keys : List Key) (key : Key) :
    key ∈ names.foldl insertKey keys ↔ key ∈ keys ∨ key ∈ names := by
  induction names generalizing keys with
  | nil => simp
  | cons name names ih =>
      rw [List.foldl_cons, ih]
      by_cases h : name ∈ keys <;> by_cases same : key = name <;> simp_all [insertKey]

/-- Assigning a list of keys in turn lists them by first occurrence: core's `eraseDups`. -/
theorem foldl_insertKey_eq_eraseDups (names : List Key) :
    names.foldl insertKey [] = names.eraseDups := by
  suffices loop : ∀ (names done : List Key),
      names.foldl insertKey done.reverse = List.eraseDups.loop names done from
    loop names []
  intro names
  induction names with
  | nil => intro done; rfl
  | cons name names ih =>
      intro done
      by_cases h : name ∈ done
      · simp [List.eraseDups.loop, insertKey, h, List.elem_eq_true_of_mem h, ih]
      · have fresh : List.elem name done = false := by simpa using h
        simp [List.eraseDups.loop, insertKey, h, fresh, ← ih]

theorem mem_eraseDups_iff (names : List Key) (key : Key) : key ∈ names.eraseDups ↔ key ∈ names := by
  rw [← foldl_insertKey_eq_eraseDups, mem_foldl_insertKey]
  simp

theorem getKeys_subset_index [Inhabited Val] (d : Dict Key Val) (key : Key) :
    d.getKeys ⊆ (d.index key).2.getKeys := by
  unfold index
  split
  · exact List.Subset.refl _
  · intro other mem
    exact (mem_getKeys_set _ _ _ _).mpr (Or.inr mem)

/-- A read through `operator[]` of a present key leaves the dictionary as it was. -/
theorem index_of_find? [Inhabited Val] {d : Dict Key Val} {key : Key} {val : Val}
    (h : d.find? key = some val) : d.index key = (val, d) := by
  simp [index, h]

end Dict

/-- The exceptions the modelled code raises or lets through.  `device` is any failure the
device behind the property tree reports; `fuelExhausted` is not a C++ exception: it is
where the model stops a loop that has run more iterations than its budget. -/
inductive UhdError where
  /-- `std::runtime_error` and `uhd::runtime_error` -/
  | runtimeError (what : String)
  /-- `std::invalid_argument` -/
  | invalidArgument (what : String)
  /-- `std::out_of_range`, thrown by `std::vector::at` -/
  | outOfRange
  /-- a property read with `as<T>` for a type it does not hold -/
  | badCast
  /-- a failure reported by the device for one of its properties -/
  | device (what : String)
  | fuelExhausted
deriving DecidableEq, Repr

/-- `boost::format("0x%04x")` of an unsigned value: lowercase hexadecimal digits, padded
with zeros to four. -/
def hex04 (value : Nat) : String :=
  let digits := Nat.toDigits 16 value
  "0x" ++ String.mk (List.replicate (4 - digits.length) '0' ++ digits)

example : hex04 0xffff = "0xffff" ∧ hex04 0x1 = "0x0001" := by decide

end UhdHost
