import GattRpc.Envelope.Inbound

/-! # Outstanding requests

Ids are handed out from one on. A request with a callback is outstanding from its registration
until its response arrives, it is too old, or all requests are cancelled; then its callback is
settled, at most once. The table of outstanding requests is in strictly increasing order of ids, so
it never holds two requests of one id. Times are in milliseconds. -/

namespace GattRpc

/-- What becomes of callbacks when all requests are cancelled. -/
inductive CancelPolicy
  | notify
  | drop
deriving DecidableEq, Repr

/-- Who is told of a response. A callback that panics does so after it was told. -/
structure Callback where
  token : Nat
  panics : Bool := false
deriving DecidableEq, Repr

/-- What a callback is told. -/
inductive Outcome
  | answered (r : Response)
  | failed (e : RpcError)
deriving DecidableEq

/-- A callback that was told an outcome of its request. -/
structure Settlement where
  callback : Callback
  request : Request
  outcome : Outcome
deriving DecidableEq

/-- An outstanding request. -/
structure Pending where
  request : Request
  callback : Callback
  since : Nat
deriving DecidableEq

namespace Pending

def id (p : Pending) : RequestId := p.request.id

def settle (p : Pending) (o : Outcome) : Settlement := ⟨p.callback, p.request, o⟩

/-- Runs the callback of a request, which is told an outcome, and tells whether it came back. A panic
of the callback goes no further. -/
def invoke (p : Pending) (o : Outcome) : Settlement × Bool := (p.settle o, !p.callback.panics)

@[simp] theorem invoke_fst (p : Pending) (o : Outcome) : (p.invoke o).1 = p.settle o := rfl

/-- How long the request has been outstanding. A clock that went back makes it zero. -/
def age (p : Pending) (now : Nat) : Nat := now - p.since

/-- Puts a request into a table, in place of one with its id. -/
def insert (p : Pending) : List Pending → List Pending
  | [] => [p]
  | q :: rest =>
    if p.id < q.id then p :: q :: rest
    else if p.id = q.id then p :: rest
    else q :: insert p rest

theorem mem_insert {p q : Pending} {table : List Pending} (h : q ∈ p.insert table) :
    q = p ∨ q ∈ table := by
  induction table with
  | nil => simpa [insert] using h
  | cons r rest ih =>
    unfold insert at h
    split at h
    · simpa using h
    · split at h
      · rcases List.mem_cons.mp h with h | h
        · exact .inl h
        · exact .inr (List.mem_cons_of_mem _ h)
      · rcases List.mem_cons.mp h with h | h
        · exact .inr (h ▸ List.mem_cons_self ..)
        · rcases ih h with h | h
          · exact .inl h
          · exact .inr (List.mem_cons_of_mem _ h)

/-- The ids of a table increase strictly. -/
def Ascending (table : List Pending) : Prop := table.Pairwise fun p q => p.id < q.id

theorem Ascending.nil : Ascending [] := List.Pairwise.nil

theorem Ascending.insert {table : List Pending} (h : Ascending table) (p : Pending) :
    Ascending (p.insert table) := by
  induction table with
  | nil => simp [Pending.insert, Ascending]
  | cons q rest ih =>
    obtain ⟨hq, hrest⟩ := List.pairwise_cons.mp h
    unfold Pending.insert
    split
    · next hlt =>
      refine List.pairwise_cons.mpr ⟨fun r hr => ?_, h⟩
      rcases List.mem_cons.mp hr with rfl | hr
      · exact hlt
      · exact UInt64.lt_trans hlt (hq r hr)
    · next hnlt =>
      split
      · next heq => exact List.pairwise_cons.mpr ⟨fun r hr => heq ▸ hq r hr, hrest⟩
      · next hne =>
        refine List.pairwise_cons.mpr ⟨fun r hr => ?_, ih hrest⟩
        rcases mem_insert hr with rfl | hr
        · exact UInt64.lt_of_le_of_ne (UInt64.not_lt.mp hnlt) (Ne.symm hne)
        · exact hq r hr

theorem Ascending.filter {table : List Pending} (h : Ascending table) (keep : Pending → Bool) :
    Ascending (table.filter keep) :=
  List.Pairwise.filter keep h

end Pending

/-- The order in which a table gives up its requests when it is emptied at once. Nothing is known of
it, but that it gives up each request once, and goes by the ids alone. -/
structure Drain where
  order : List Pending → List Pending
  perm : ∀ table, (order table).Perm table
  keyed : ∀ {f : Pending → Pending}, (∀ p, (f p).id = p.id) → ∀ table,
    order (table.map f) = (order table).map f

/-- The order of the ids. -/
def Drain.ascending : Drain := ⟨id, fun _ => .refl _, fun _ _ => rfl⟩

/-- What the delivery of a response came to. -/
inductive Delivery
  | delivered
  | panicked
  | orphan
deriving DecidableEq, Repr

structure Correlator where
  policy : CancelPolicy := .notify
  nextId : RequestId := 1
  outstanding : List Pending := []
  ascending : Pending.Ascending outstanding := by exact Pending.Ascending.nil
deriving DecidableEq

/-- Requests that are no longer outstanding, and what their callbacks were told. -/
structure Release where
  count : Nat
  settled : List Settlement
  discarded : List Callback
deriving DecidableEq

namespace Correlator

/-- The outstanding request with this id. -/
def find? (c : Correlator) (id : RequestId) : Option Pending :=
  c.outstanding.find? fun p => p.id = id

/-- Builds the request with the next id. -/
def prepare (c : Correlator) (method : String) (params : Json) : Correlator × Request :=
  ({ c with nextId := c.nextId + 1 }, .new c.nextId method params)

/-- Makes a request outstanding from now on. It takes the place of one with its id. -/
def insert (c : Correlator) (p : Pending) : Correlator :=
  { c with outstanding := p.insert c.outstanding, ascending := c.ascending.insert p }

/-- Records a request that was sent. Without a callback there is nothing to record. Gives the
callback that lost its place. -/
def register (c : Correlator) (now : Nat) (request : Request) :
    Option Callback → Correlator × Option Callback
  | none => (c, none)
  | some callback => (c.insert ⟨request, callback, now⟩, (c.find? request.id).map Pending.callback)

/-- Keeps only the requests that pass a test. -/
def filter (c : Correlator) (keep : Pending → Bool) : Correlator :=
  { c with outstanding := c.outstanding.filter keep, ascending := c.ascending.filter keep }

/-- Hands a response to the request with its id, if one is outstanding. -/
def dispatch (c : Correlator) (r : Response) : Correlator × Option Settlement :=
  match c.find? r.id with
  | none => (c, none)
  | some p => (c.filter fun q => q.id ≠ r.id, some (p.invoke (.answered r)).1)

/-- How the delivery of a response went, once its callback is back. -/
def delivery (c : Correlator) (r : Response) : Delivery :=
  match c.find? r.id with
  | none => .orphan
  | some p => if (p.invoke (.answered r)).2 then .delivered else .panicked

/-- Fails the requests of at least a given age, in the order of their ids. -/
def expire (c : Correlator) (now timeout : Nat) : Correlator × List Settlement :=
  (c.filter fun p => !(timeout ≤ p.age now),
    (c.outstanding.filter fun p => timeout ≤ p.age now).map fun p =>
      (p.invoke (.failed (.timedOut p.id))).1)

/-- Releases every request, in the order in which the table gives them up. -/
def cancelAll (c : Correlator) (reason : CloseReason) (drain : Drain := .ascending) :
    Correlator × Release :=
  let drained := drain.order c.outstanding
  let empty := { c with outstanding := [], ascending := Pending.Ascending.nil }
  match c.policy with
  | .notify =>
    (empty, ⟨drained.length,
      drained.map fun p => (p.invoke (.failed (.cancelled reason))).1, []⟩)
  | .drop => (empty, ⟨drained.length, [], drained.map Pending.callback⟩)

/-- How many requests are outstanding. -/
def count (c : Correlator) : Nat := c.outstanding.length

end Correlator

end GattRpc
