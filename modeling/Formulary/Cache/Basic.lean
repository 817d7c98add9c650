/-!
# Cache/Basic — a bounded cache that builds what it lacks

A cache maps keys to slots, the most recently requested first. A request for a key without a slot
makes an empty one, and the least recently requested slot gives way if there is no room. The value is
built while its slot waits in the cache: a build that succeeds fills its own slot, one that fails
takes it out again. Slots have serial numbers, so that a build whose slot has gone meanwhile leaves a
newer slot for its key alone. Four counters tell what happened.
-/

namespace Formulary

/-- A limit on the number of slots. -/
abbrev Capacity := { n : Nat // 0 < n }

/-- A limit from a number; zero is none. -/
def Capacity.ofNat? (n : Nat) : Option Capacity :=
  if h : 0 < n then some ⟨n, h⟩ else none

/-- A place for a value that is built or being built. -/
structure Slot (V : Type) where
  serial : Nat
  value? : Option V

/-- What a cache has counted, and how many slots it holds. -/
structure CacheStats where
  hits : Nat
  /-- Builds started, with those that failed. -/
  misses : Nat
  evictions : Nat
  entries : Nat
deriving DecidableEq, Repr

/-- A cache of values by key. Its counters are natural numbers and do not wrap; machine counters of 64
bits start again from zero after 2^64 events. -/
structure Cache (K V : Type) where
  /-- How many slots there may be; no limit if absent. -/
  capacity : Option Capacity
  /-- The slots, the most recently requested first. -/
  slots : List (K × Slot V)
  nextSerial : Nat
  hits : Nat
  misses : Nat
  evictions : Nat

namespace Cache

variable {K V : Type}

/-- The empty cache. -/
def empty (capacity : Option Capacity) : Cache K V :=
  ⟨capacity, [], 0, 0, 0, 0⟩

/-- The counters. -/
def stats (c : Cache K V) : CacheStats :=
  ⟨c.hits, c.misses, c.evictions, c.slots.length⟩

/-- How many slots there are. -/
def size (c : Cache K V) : Nat :=
  c.slots.length

/-- The keys, the most recently requested first. -/
def keys (c : Cache K V) : List K :=
  c.slots.map (·.1)

/-- Whether there is no room for one more slot. -/
def isFull (c : Cache K V) : Bool :=
  match c.capacity with
  | some limit => limit.val ≤ c.slots.length
  | none => false

/-- The cache without slots. The counters stay. -/
def clear (c : Cache K V) : Cache K V :=
  { c with slots := [] }

/-- Counts a request that found its value. -/
def countHit (c : Cache K V) : Cache K V :=
  { c with hits := c.hits + 1 }

/-- Counts a build. -/
def countMiss (c : Cache K V) : Cache K V :=
  { c with misses := c.misses + 1 }

variable [DecidableEq K]

/-- The slot of a key. -/
def slot? (c : Cache K V) (key : K) : Option (Slot V) :=
  (c.slots.find? (·.1 = key)).map (·.2)

/-- Whether a key has a built value. -/
def contains (c : Cache K V) (key : K) : Bool :=
  ((c.slot? key).bind (·.value?)).isSome

/-- The cache with the slot of a key in front. -/
def touch (c : Cache K V) (key : K) (slot : Slot V) : Cache K V :=
  { c with slots := (key, slot) :: c.slots.filter (·.1 ≠ key) }

/-- The cache with a new slot for a key in front. Without room the last slot gives way. -/
def addSlot (c : Cache K V) (key : K) : Cache K V :=
  let slot : Slot V := ⟨c.nextSerial, none⟩
  if c.isFull then
    { c with
      slots := (key, slot) :: c.slots.dropLast
      nextSerial := c.nextSerial + 1
      evictions := c.evictions + 1 }
  else
    { c with
      slots := (key, slot) :: c.slots
      nextSerial := c.nextSerial + 1 }

/-- Requests a key: its slot, made if need be, and the cache after that. -/
def request (c : Cache K V) (key : K) : Slot V × Cache K V :=
  match c.slot? key with
  | some slot => (slot, c.touch key slot)
  | none => (⟨c.nextSerial, none⟩, c.addSlot key)

/-- Puts a value into the slot of a key with a serial number, if it is still there and empty. -/
def fill (c : Cache K V) (key : K) (serial : Nat) (value : V) : Cache K V :=
  { c with
    slots := c.slots.map fun (k, slot) =>
      if k = key ∧ slot.serial = serial ∧ slot.value?.isNone then (k, ⟨serial, some value⟩)
      else (k, slot) }

/-- Takes out the slot of a key with a serial number, if it is still there and empty. -/
def discard (c : Cache K V) (key : K) (serial : Nat) : Cache K V :=
  { c with
    slots := c.slots.filter fun (k, slot) =>
      !(k = key ∧ slot.serial = serial ∧ slot.value?.isNone) }

/-- The value of a key, built if it is not there. The build may itself use the cache. -/
def getOrBuild {m : Type → Type} [Monad m] {E : Type} (key : K)
    (build : ExceptT E (StateT (Cache K V) m) V) : ExceptT E (StateT (Cache K V) m) V :=
  ExceptT.mk do
    let slot ← modifyGet (·.request key)
    match slot.value? with
    | some value =>
      modify countHit
      pure (.ok value)
    | none =>
      modify countMiss
      match ← build.run with
      | .ok value =>
        modify (·.fill key slot.serial value)
        pure (.ok value)
      | .error error =>
        modify (·.discard key slot.serial)
        pure (.error error)

end Cache

end Formulary
