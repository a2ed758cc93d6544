import GattRpc.Session.EventChannel

/-! # What a channel accepts, and what is received

The connection offers events to the channel, and the receiver takes one after the other until it
goes away. Each event that is accepted is received or waits, in order, as long as there is a
receiver (`EventChannel.balance`). So what the length of the queue decides about an event can be
told from what was accepted and received before (`EventChannel.accepted_offer`). -/

namespace GattRpc

namespace EventChannel

/-- What is done with a channel. -/
inductive Use
  | offer (e : Event)
  | receive
  | close
deriving DecidableEq

@[simp] def Use.offered? : Use → Option Event
  | offer e => some e
  | receive | close => none

/-- The events that are offered. -/
def offered (us : List Use) : List Event := us.filterMap Use.offered?

/-- Takes the first event that waits, if there is one. -/
def receive (c : EventChannel) : EventChannel × Option Event :=
  ({ c with waiting := c.waiting.tail }, c.waiting.head?)

def use (c : EventChannel) : Use → EventChannel
  | .offer e => c.offer e
  | .receive => c.receive.1
  | .close => c.close

def after (c : EventChannel) (us : List Use) : EventChannel := us.foldl use c

/-- What is put at the end of the channel. -/
def added (c : EventChannel) : Use → List Event
  | .offer e => (c.offer e).waiting.drop c.waiting.length
  | .receive | .close => []

/-- What is handed to the receiver. -/
def handed (c : EventChannel) : Use → List Event
  | .receive => c.receive.2.toList
  | .offer _ | .close => []

def accepted (c : EventChannel) : List Use → List Event
  | [] => []
  | u :: us => c.added u ++ (c.use u).accepted us

def received (c : EventChannel) : List Use → List Event
  | [] => []
  | u :: us => c.handed u ++ (c.use u).received us

variable {c : EventChannel} {u : Use} {us vs : List Use} {e : Event}

theorem after_append : c.after (us ++ vs) = (c.after us).after vs := List.foldl_append

theorem offered_append : offered (us ++ vs) = offered us ++ offered vs := List.filterMap_append

theorem offered_offers (es : List Event) : offered (es.map .offer) = es := by
  rw [offered, List.filterMap_map]
  exact List.filterMap_some

theorem accepted_append : c.accepted (us ++ vs) = c.accepted us ++ (c.after us).accepted vs := by
  induction us generalizing c with
  | nil => rfl
  | cons u us ih =>
    rw [List.cons_append, accepted, accepted, ih, List.append_assoc]
    rfl

theorem received_append : c.received (us ++ vs) = c.received us ++ (c.after us).received vs := by
  induction us generalizing c with
  | nil => rfl
  | cons u us ih =>
    rw [List.cons_append, received, received, ih, List.append_assoc]
    rfl

theorem received_offers (es : List Event) : c.received (es.map .offer) = [] := by
  induction es generalizing c with
  | nil => rfl
  | cons e es ih => exact ih

theorem added_offer :
    c.added (.offer e) = if c.isOpen = true ∧ c.waiting.length < capacity then [e] else [] := by
  rw [added, offer]
  simp only [Bool.and_eq_true, decide_eq_true_eq]
  split
  · exact List.drop_left
  · exact List.drop_length

theorem added_sublist : (c.added u).Sublist u.offered?.toList := by
  cases u with
  | offer e =>
    rw [added_offer]
    split
    · exact .refl _
    · exact List.nil_sublist _
  | receive | close => exact List.nil_sublist _

/-- Only events that are offered are accepted, each of them once, in the same order. -/
theorem accepted_sublist : (c.accepted us).Sublist (offered us) := by
  induction us generalizing c with
  | nil => exact .refl _
  | cons u us ih =>
    have whole : offered (u :: us) = u.offered?.toList ++ offered us := by
      cases u <;> rfl
    rw [whole]
    exact added_sublist.append ih

theorem isOpen_after : (c.after us).isOpen = true ↔ c.isOpen = true ∧ .close ∉ us := by
  induction us generalizing c with
  | nil => simp [after]
  | cons u us ih =>
    rw [show c.after (u :: us) = (c.use u).after us from rfl, ih]
    cases u with
    | offer e =>
      have same : (c.offer e).isOpen = c.isOpen := by
        unfold offer
        split <;> rfl
      simp [use, same]
    | receive => simp [use, receive]
    | close => simp [use, close]

/-- What one use adds to what waits, or takes from it. -/
theorem balance_use (other : u ≠ .close) :
    c.waiting ++ c.added u = c.handed u ++ (c.use u).waiting := by
  cases u with
  | offer e =>
    rw [added_offer, use, offer]
    simp only [Bool.and_eq_true, decide_eq_true_eq]
    split
    · rfl
    · exact List.append_nil _
  | receive =>
    obtain ⟨waiting, isOpen⟩ := c
    cases waiting with
    | nil => rfl
    | cons e es => exact List.append_nil _
  | close => exact (other rfl).elim

/-- As long as there is a receiver, what is accepted is received or waits. -/
theorem balance (heard : .close ∉ us) :
    c.waiting ++ c.accepted us = c.received us ++ (c.after us).waiting := by
  induction us generalizing c with
  | nil => exact List.append_nil _
  | cons u us ih =>
    rw [List.mem_cons, not_or] at heard
    rw [accepted, received, ← List.append_assoc, balance_use (Ne.symm heard.1), List.append_assoc,
      List.append_assoc, ih heard.2]
    rfl

/-- Nothing is received once the receiver is gone. -/
theorem received_close : c.close.received us = [] := by
  induction us with
  | nil => rfl
  | cons u us ih => cases u <;> exact ih

/-- What is received waited before or was accepted, and comes in order. -/
theorem received_prefix : c.received us <+: c.waiting ++ c.accepted us := by
  induction us generalizing c with
  | nil => exact List.nil_prefix
  | cons u us ih =>
    by_cases other : u = .close
    · rw [other, received, handed, use, received_close]
      exact List.nil_prefix
    · rw [received, accepted, ← List.append_assoc, balance_use other, List.append_assoc]
      exact (List.prefix_append_right_inj _).2 ih

/-- An event is accepted if there is a receiver, and fewer events than the capacity are left for it
to receive. -/
theorem accepted_offer :
    ({} : EventChannel).accepted (us ++ [.offer e]) = ({} : EventChannel).accepted us ++
      if .close ∉ us ∧ (({} : EventChannel).accepted us).length <
        (({} : EventChannel).received us).length + capacity then [e] else [] := by
  have isOpen : (({} : EventChannel).after us).isOpen = true ↔ .close ∉ us := by
    simp [isOpen_after]
  rw [accepted_append, accepted, accepted, List.append_nil, added_offer]
  by_cases heard : .close ∈ us
  · simp [isOpen, heard]
  · have count := congrArg List.length (balance (c := {}) heard)
    simp only [List.nil_append, List.length_append] at count
    simp [isOpen, heard, count]

/-- To take all that waits is to receive as often as something waits. -/
theorem drain_eq : c.drain =
    (c.after (.replicate c.waiting.length .receive),
      c.received (.replicate c.waiting.length .receive)) := by
  obtain ⟨waiting, isOpen⟩ := c
  induction waiting with
  | nil => rfl
  | cons e es ih =>
    obtain ⟨left, taken⟩ := Prod.mk.inj ih
    exact Prod.ext left (congrArg (e :: ·) taken)

end EventChannel

end GattRpc
