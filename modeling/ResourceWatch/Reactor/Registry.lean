import ResourceWatch.Reactor.Identity
import ResourceWatch.Reactor.Memo
import ResourceWatch.Reactor.Queue
import ResourceWatch.Reactor.Throttling

/-!
What is kept about resources between their events. A resource is known by its identity, and keeps its
memory until it is forgotten.
-/

namespace ResourceWatch

/-- An event that waits to be handled. -/
structure Job where
  /-- How many events were queued before it. -/
  number : Nat
  uid : Text
  event : Event

/-- A job under way and what it waits for. -/
structure Handling where
  job : Job
  stage : Throttling.Stage

/-- Everything kept about one resource. -/
structure Memory where
  memo : Memo := {}
  /-- Whether the resource was first seen in a listing. -/
  noticedByListing : Bool := false
  throttler : Throttler := {}
  /-- What handlers keep beside the memo. -/
  state : List (Text × Json) := []
  queue : Queue Job Handling := {}

structure Registry where
  /-- Every memory that was ever made; its place in the list is its slot. -/
  memories : List Memory := []
  /-- The slots of the resources that are remembered. -/
  slots : List (Text × Nat) := []

/-- What a recall comes to. -/
structure Recall where
  registry : Registry
  slot : Except Failure Nat
  /-- Whether the template was copied, or was tried to be. -/
  duplicated : Bool := false

namespace Registry

/-- The number of resources that are remembered. -/
def size (registry : Registry) : Nat :=
  registry.slots.length

/-- Keeps a memory in a new slot, for no resource. -/
def keep (registry : Registry) (memory : Memory) : Registry × Nat :=
  ({ registry with memories := registry.memories ++ [memory] }, registry.memories.length)

def update (registry : Registry) (slot : Nat) (change : Memory → Memory) : Registry :=
  { registry with memories := registry.memories.modify slot change }

/-- The memory of a resource, which is made when the resource is first seen: its memo is a copy of
the template. -/
def recalledUid (registry : Registry) (cells : Cells) (uid : Text) (template : Option Template)
    (noticedByListing : Bool) : Recall :=
  match registry.slots.lookup uid with
  | some slot => ⟨registry, .ok slot, false⟩
  | none =>
    match (template.map (Template.duplicate cells)).getD (.ok {}) with
    | .error failure => ⟨registry, .error failure, template.isSome⟩
    | .ok memo =>
      let (registry, slot) := registry.keep { memo, noticedByListing }
      ⟨{ registry with slots := registry.slots ++ [(uid, slot)] }, .ok slot, template.isSome⟩

def recalled (registry : Registry) (cells : Cells) (object : Object)
    (template : Option Template) (noticedByListing : Bool) : Recall :=
  match object.identity with
  | .error failure => ⟨registry, .error failure, false⟩
  | .ok uid => registry.recalledUid cells uid template noticedByListing

def forgetUid (registry : Registry) (uid : Text) : Registry :=
  { registry with slots := registry.slots.filter (·.1 ≠ uid) }

/-- Forgets a resource; one that is not known is ignored. -/
def forget (registry : Registry) (object : Object) : Except Failure Registry :=
  object.identity.map registry.forgetUid

def has (registry : Registry) (object : Object) : Except Failure Bool :=
  object.identity.map fun uid => (registry.slots.lookup uid).isSome

end Registry

end ResourceWatch
