import GattRpc.Proofs.Connection.Reactions
import Mathlib.Data.List.Chain

/-! # The course of the link calls

A connection that is never asked to connect calls nothing. Otherwise it connects the link, looks for
the service and, if it is to be notified, subscribes to the poll signal; a step that fails is
followed by the end. Then it reads and writes the two characteristics that it found, any number of
times, and at the end it disconnects. `Stage` relates what has been called so far to the state of a
connection that awaits a stimulus. -/

namespace GattRpc

/-- One state may follow another. -/
inductive Moves : ConnectionState → ConnectionState → Prop
  | connect : Moves .disconnected .connecting
  | discover : Moves .connecting .discovering
  | open : Moves .discovering .ready
  | close {s : ConnectionState} (unclosed : s ≠ .closed) : Moves s .closed

/-- How far a connection has come in a state. -/
def ConnectionState.rank : ConnectionState → Nat
  | disconnected => 0
  | connecting => 1
  | discovering => 2
  | ready => 3
  | closed => 4

theorem Moves.rank_lt {s s' : ConnectionState} (m : Moves s s') : s.rank < s'.rank := by
  cases m with
  | connect | discover | «open» => decide
  | close unclosed =>
    cases s with
    | closed => exact (unclosed rfl).elim
    | disconnected | connecting | discovering | ready => decide

/-- The states that are entered one after the other on the way from one state to another. -/
def Travels (s : ConnectionState) (ss : List ConnectionState) (s' : ConnectionState) : Prop :=
  List.IsChain Moves (s :: ss) ∧ ss.getLastD s = s'

namespace Travels

variable {s s' s'' : ConnectionState} {ss ts : List ConnectionState}

theorem refl : Travels s [] s := ⟨.singleton s, rfl⟩

theorem move (m : Moves s s') : Travels s [s'] s' := ⟨.cons_cons m (.singleton s'), rfl⟩

theorem trans (first : Travels s ss s') (rest : Travels s' ts s'') : Travels s (ss ++ ts) s'' := by
  induction ss generalizing s with
  | nil =>
    obtain rfl : s = s' := first.2
    exact rest
  | cons a ss ih =>
    obtain ⟨chain, last⟩ := first
    obtain ⟨m, chain⟩ := List.isChain_cons_cons.1 chain
    rw [List.getLastD_cons] at last
    obtain ⟨chain, last⟩ := ih ⟨chain, last⟩
    refine ⟨.cons_cons m chain, ?_⟩
    rw [List.cons_append, List.getLastD_cons]
    exact last

/-- No state is entered after the last one. -/
theorem of_closed (t : Travels .closed ss s') : ss = [] ∧ s' = .closed := by
  cases ss with
  | nil => exact ⟨rfl, t.2.symm⟩
  | cons a ss =>
    cases (List.isChain_cons_cons.1 t.1).1 with
    | close unclosed => exact (unclosed rfl).elim

/-- No state is entered twice. -/
theorem nodup (t : Travels s ss s') : (s :: ss).Nodup := by
  have ranks : ((s :: ss).map ConnectionState.rank).IsChain (· < ·) :=
    (List.isChain_map _).2 (t.1.imp fun _ _ => Moves.rank_lt)
  refine (List.pairwise_map.1 (List.isChain_iff_pairwise.1 ranks)).imp ?_
  rintro a _ lt rfl
  exact Nat.lt_irrefl _ lt

end Travels

/-- The steps that make a connection ready, when all succeed. -/
inductive Handshake : PollMode → Channel → List Exchange → Prop
  | notify {peer : String} {services : List Service} {channel : Channel}
    (usable : Connection.resolve services = .ok channel) :
    Handshake .notify channel
      [⟨.connect, .ok peer⟩, ⟨.discover, .ok services⟩, ⟨.subscribe channel.pollSignal, .ok ()⟩]
  | interval {peer : String} {services : List Service} {channel : Channel} {period : Nat}
    (usable : Connection.resolve services = .ok channel) :
    Handshake (.interval period) channel [⟨.connect, .ok peer⟩, ⟨.discover, .ok services⟩]

/-- The steps towards it, when the last one fails or what it gives cannot be used. -/
inductive Setback : PollMode → List Exchange → Prop
  | connect {mode : PollMode} {e : LinkError} : Setback mode [⟨.connect, .error e⟩]
  | discover {mode : PollMode} {peer : String} {e : LinkError} :
    Setback mode [⟨.connect, .ok peer⟩, ⟨.discover, .error e⟩]
  | unusable {mode : PollMode} {peer : String} {services : List Service} {e : LinkError}
    (unusable : Connection.resolve services = .error e) :
    Setback mode [⟨.connect, .ok peer⟩, ⟨.discover, .ok services⟩]
  | subscribe {peer : String} {services : List Service} {channel : Channel} {e : LinkError}
    (usable : Connection.resolve services = .ok channel) :
    Setback .notify
      [⟨.connect, .ok peer⟩, ⟨.discover, .ok services⟩, ⟨.subscribe channel.pollSignal, .error e⟩]

/-- What may be called once a connection is ready. -/
inductive Transfer (mode : PollMode) (channel : Channel) : LinkCall → Prop
  | write {data : List UInt8} : Transfer mode channel (.write channel.inbox data)
  | read : Transfer mode channel (.read channel.inbox)
  | poll (timed : mode ≠ .notify) : Transfer mode channel (.read channel.pollSignal)

/-- All that is called in the life of a connection. -/
inductive Course (mode : PollMode) : List Exchange → Prop
  | unconnected : Course mode []
  | failed {xs : List Exchange} {r : Except LinkError Unit} (setback : Setback mode xs) :
    Course mode (xs ++ [⟨.disconnect, r⟩])
  | served {channel : Channel} {xs ys : List Exchange} {r : Except LinkError Unit}
    (handshake : Handshake mode channel xs) (transfers : ∀ y ∈ ys, Transfer mode channel y.call) :
    Course mode (xs ++ ys ++ [⟨.disconnect, r⟩])

/-- What has been called in a state, and the characteristics that are in use then. -/
inductive Stage (mode : PollMode) : List Exchange → ConnectionState → Option Channel → Prop
  | untried : Stage mode [] .disconnected none
  | serving {channel : Channel} {xs ys : List Exchange} (handshake : Handshake mode channel xs)
    (transfers : ∀ y ∈ ys, Transfer mode channel y.call) :
    Stage mode (xs ++ ys) .ready (some channel)
  | ended {xs : List Exchange} (course : Course mode xs) : Stage mode xs .closed none

namespace Stage

variable {mode : PollMode} {xs : List Exchange} {state : ConnectionState} {inUse : Option Channel}

theorem of_disconnected (s : Stage mode xs .disconnected inUse) : xs = [] ∧ inUse = none := by
  cases s
  exact ⟨rfl, rfl⟩

theorem of_closed (s : Stage mode xs .closed inUse) : Course mode xs ∧ inUse = none := by
  cases s with
  | ended course => exact ⟨course, rfl⟩

theorem of_inUse {channel : Channel} (s : Stage mode xs state inUse)
    (some : inUse = some channel) : state = .ready := by
  cases s with
  | serving => rfl
  | untried | ended => cases some

theorem transfer {channel : Channel} {y : Exchange} (s : Stage mode xs state (some channel))
    (t : Transfer mode channel y.call) : Stage mode (xs ++ [y]) state (some channel) := by
  cases s with
  | serving handshake transfers =>
    rw [List.append_assoc]
    refine .serving handshake fun z hz => ?_
    rcases List.mem_append.1 hz with hz | hz
    · exact transfers z hz
    · rw [List.mem_singleton.1 hz]
      exact t

/-- Hanging up ends every stage. -/
theorem hangUp (s : Stage mode xs state inUse) (tried : state ≠ .disconnected)
    (unclosed : state ≠ .closed) (r : Except LinkError Unit) :
    Stage mode (xs ++ [⟨.disconnect, r⟩]) .closed none := by
  cases s with
  | untried => exact (tried rfl).elim
  | serving handshake transfers => exact .ended (.served handshake transfers)
  | ended => exact (unclosed rfl).elim

/-- What has been called is the beginning of a whole course. -/
theorem exists_course (s : Stage mode xs state inUse) :
    ∃ course, Course mode course ∧ xs <+: course := by
  cases s with
  | untried => exact ⟨[], .unconnected, List.prefix_rfl⟩
  | serving handshake transfers =>
    exact ⟨_, .served (r := .ok ()) handshake transfers, List.prefix_append ..⟩
  | ended course => exact ⟨xs, course, List.prefix_rfl⟩

end Stage

end GattRpc
