import GattRpc.Proofs.Connection.Connecting
import GattRpc.Proofs.Session.Outcomes

/-! # Calls to connect

However many calls to connect there are, and whenever they are begun, the link is connected for one
of them at most. Each returns what the task replies to its command (`Session.Run.connects`). -/

namespace GattRpc

open Connection

/-- A session in which calls to connect return what came of connecting. -/
structure Session.Connects (options : Options) (j : Journal) (s : Session Unit) : Prop where
  connecting : Connecting options j.history s.engine.standing
  returns : ∀ n, (n, .connect) ∈ j.began → ∀ res, (n, res) ∈ s.finished ↔
    res = .connected ∧ (n, .connect (.ok ())) ∈ j.history.replies ∨
      ∃ e, res = .failed e ∧ (n, .connect (.error e)) ∈ j.history.replies

namespace Session.Run

variable {options : Options} {j : Journal} {s : Session Unit} {n : Nat}

theorem finished_of_reply (mode : options.pollMode ≠ .interval 0) (run : Session.Run options j s)
    {r : Except RpcError Unit} (began : (n, .connect) ∈ j.began)
    (reply : (n, .connect r) ∈ j.history.replies) :
    ∃ res, (n, res) ∈ s.finished ∧ (Output.reply n (.connect r)).Gives n .connect res := by
  cases run.attends mode began reply with
  | @returned res entry gives =>
    have mem : (n, res) ∈ (s.entry n).2 := by simp [entry]
    exact ⟨res, (List.mem_filter.1 mem).1, gives⟩
  | settled wants | waits wants => cases wants

/-- What comes of every call to connect. -/
theorem connects (mode : options.pollMode ≠ .interval 0) (run : Session.Run options j s) :
    s.Connects options j where
  connecting := run.task.connecting mode
  returns n began res := by
    constructor
    · intro finished
      obtain ⟨call, began', returns⟩ := (run.reported mode).finished n res finished
      obtain rfl : call = .connect := congrArg Prod.snd
        (List.inj_on_of_nodup_map run.numbered.distinct began' began rfl)
      cases returns with
      | connected reply => exact .inl ⟨rfl, reply⟩
      | unconnected reply => exact .inr ⟨_, rfl, reply⟩
    · rintro (⟨rfl, reply⟩ | ⟨e, rfl, reply⟩)
      · obtain ⟨res, finished, gives⟩ := run.finished_of_reply mode began reply
        cases gives
        exact finished
      · obtain ⟨res, finished, gives⟩ := run.finished_of_reply mode began reply
        cases gives with
        | unconnected => exact finished

end Session.Run

/-! ### Calls that race -/

namespace Session

/-- A session in which two calls to connect have returned. -/
def pairConnected : Session Unit :=
  { ready {} with made := 2, finished := [(0, .connected), (1, .connected)] }

/-- The peripheral has other characteristics of the same UUIDs, and another RPC service. -/
theorem Run.pairConnected : ∃ j, Session.Run {} j .pairConnected ∧
    j.history.calls = [.connect, .discover, .subscribe sampleChannel.pollSignal] := by
  let services : List Service :=
    [⟨⟨0⟩, []⟩,
      ⟨rpcService, [sampleChannel.inbox, ⟨inboxUuid, 3⟩, sampleChannel.pollSignal,
        ⟨pollSignalUuid, 4⟩]⟩,
      ⟨rpcService, []⟩]
  have opened : Session.Run {} [] { engine := Engine.new () {} 0 } := .start rfl
  have queued := opened.queue .connect rfl rfl rfl (hasRoom_of_empty rfl)
  have queued := queued.queue .connect rfl rfl rfl (by decide)
  have connecting := queued.step <| .serve (x := .command 0 .connect) rfl <|
    show Standing.Step _ (.take (.command 0 .connect) :: [
      .tell (.shown { state := .connecting }), .tell (.event (.stateChanged .connecting)),
      .call .connect]) _ from .take trivial
  rw [proceed_public rfl rfl] at connecting
  have discovering := connecting.step <| .answer rfl <|
    show Standing.Step _ (.answer .connect ⟨0, .ok "peer"⟩ :: [
      .tell (.shown { state := .connecting, peer := some "peer" }),
      .tell (.shown { state := .discovering, peer := some "peer" }),
      .tell (.event (.stateChanged .discovering)), .call .discover]) _ from .answer _
  rw [proceed_public rfl rfl] at discovering
  have subscribing := discovering.step <| .answer rfl <|
    show Standing.Step _ (.answer .discover ⟨0, .ok services⟩ :: [
      .call (.subscribe sampleChannel.pollSignal)]) _ from .answer _
  rw [proceed_public rfl rfl] at subscribing
  have connected := subscribing.step <| .answer rfl <|
    show Standing.Step _ (.answer (.subscribe sampleChannel.pollSignal) ⟨0, .ok ()⟩ :: [
      .tell (.shown { state := .ready, peer := some "peer" }),
      .tell (.event (.stateChanged .ready)), .tell (.reply 0 (.connect (.ok ())))])
      (.idle (Session.ready {}).engine.connection) from .answer _
  have both := connected.step (.serve (x := .command 1 .connect) rfl (.take trivial))
  exact ⟨_, both, rfl⟩

/-- Two calls to connect race, and a third one comes after the connection is closed. -/
theorem Run.connects_closed : ∃ j s, Session.Run {} j s ∧
    s.finished = [(0, .connected), (1, .connected), (2, .closed), (3, .failed (.notReady .closed))] ∧
      j.history.calls =
        [.connect, .discover, .subscribe sampleChannel.pollSignal, .disconnect] ∧
          s.Connects {} j := by
  obtain ⟨j, connected, calls⟩ := Run.pairConnected
  have queued := connected.queue .close rfl rfl rfl (hasRoom_of_empty rfl)
  have closing := queued.step (.serve (x := .command 2 .close) rfl (.take trivial))
  have closed := closing.step (.answer (l := .disconnect) (a := ⟨0, .ok ()⟩) rfl (.answer _))
  have late := (closed.queue .connect rfl rfl rfl (hasRoom_of_empty rfl)).step
    (.serve (x := .command 3 .connect) rfl (.take trivial))
  refine ⟨_, _, late, rfl, ?_, late.connects (by decide)⟩
  simp only [Journal.history_append, History.calls_append, calls]
  rfl

end Session

end GattRpc
