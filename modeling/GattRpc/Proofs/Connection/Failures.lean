import GattRpc.Proofs.Connection.Receipts
import GattRpc.Proofs.Connection.Turns

/-! # With what a task lets callers down

A command fails because the connection is not ready for it, because the link failed, or because the
service of the peripheral cannot be used. A request that was sent fails because it took too long or
because the connection was closed. A task gives no other errors. -/

namespace GattRpc

open Connection History

/-- The errors of a request that was not sent. -/
inductive RpcError.Unsent : RpcError → Prop
  | notReady {state : ConnectionState} : Unsent (.notReady state)
  | transport {e : LinkError} : Unsent (.transport e)

/-- The errors of a connection that was not established. -/
inductive RpcError.Unconnected : RpcError → Prop
  | unsent {e : RpcError} (unsent : e.Unsent) : Unconnected e
  | configuration {message : String} : Unconnected (.configuration message)

/-- If the reply is an error, it is one that the command may fail with. -/
def Reply.Founded : Reply → Prop
  | connect r => ∀ e, r = .error e → e.Unconnected
  | send r => ∀ e, r = .error e → e.Unsent
  | close => True

/-- A request was answered, took too long, or was cancelled. -/
inductive Outcome.Founded (id : RequestId) : Outcome → Prop
  | answered {r : Response} : Founded id (.answered r)
  | timedOut : Founded id (.failed (.timedOut id))
  | cancelled {reason : CloseReason} : Founded id (.failed (.cancelled reason))

variable {options : Options} {u : Option Stimulus} {c c' : Connection} {h : History}
  {x : Stimulus} {t : Standing} {n : Nat}

namespace Connection

theorem FindsService.founded {r : Except RpcError Unit} (f : c.FindsService h r c') :
    Reply.Founded (.connect r) := by
  cases f with
  | lost | unpolled =>
    rintro e ⟨⟩
    exact .unsent .transport
  | unusable =>
    rintro e ⟨⟩
    exact .configuration
  | found => exact nofun

theorem Establishes.founded {r : Except RpcError Unit} (s : c.Establishes h r c') :
    Reply.Founded (.connect r) := by
  cases s with
  | already => exact nofun
  | refused =>
    rintro e ⟨⟩
    exact .unsent .notReady
  | unreachable =>
    rintro e ⟨⟩
    exact .unsent .transport
  | connected state result finds => exact finds.founded

theorem Sends.founded {method : String} {params : Json} {callback : Option Callback}
    {r : Except RpcError RequestId} (s : c.Sends method params callback h r c') :
    Reply.Founded (.send r) := by
  cases s with
  | refused =>
    rintro e ⟨⟩
    exact .notReady
  | failed =>
    rintro e ⟨⟩
    exact .transport
  | written => exact nofun

theorem Reacts.founded (r : c.Reacts x h c') : ∀ y ∈ h.replies, y.2.Founded := by
  have reply {g : History} {n : Nat} {y : Reply} (none : g.replies = [])
      (founded : y.Founded) : ∀ z ∈ History.replies (g ++ [.tell (.reply n y)]), z.2.Founded := by
    rw [replies_append, none]
    exact List.forall_mem_singleton.2 founded
  cases r with
  | connect establishes => exact reply establishes.quiet.replies establishes.founded
  | send sends => exact reply sends.quiet_tail.2.2 sends.founded
  | close shuts => exact reply shuts.quiet.replies (y := .close) trivial
  | clientsGone shuts | linkLost shuts =>
    rw [shuts.quiet.replies]
    exact nofun
  | poll inUse polls =>
    rw [polls.quiet.replies]
    exact nofun
  | sweep limited =>
    rw [quiet_expiry.replies]
    exact nofun
  | unlimited => exact nofun

/-- A reply that a task gives is founded, whether or not the task polls with a pause. -/
theorem Run.reply_founded (run : Run options h t) {y : Reply} (reply : .reply n y ∈ h.outputs) :
    y.Founded := by
  obtain ⟨before, after, rfl⟩ := List.append_of_mem (mem_of_mem_outputs reply)
  obtain ⟨g, x, c, part, -, -, -, ⟨more, later, d, -, reacts, -⟩ | neutral⟩ := run.told
  · exact reacts.founded (n, y) (List.mem_filterMap.2 ⟨.tell (.reply n y), by simp, rfl⟩)
  · exact neutral.elim

/-- A callback is told nothing but what became of its request. -/
theorem Deeds.outcome_founded (d : Deeds options u h c) {y : Settlement}
    (told : .settled y ∈ h.outputs) : y.outcome.Founded y.request.id := by
  obtain ⟨before, after, rfl⟩ := List.append_of_mem (mem_of_mem_outputs told)
  have here : before ++ [.tell (.settled y)] <+: before ++ .tell (.settled y) :: after :=
    ⟨after, by simp⟩
  rcases d.fair.of_prefix here with ⟨p, r, -, -, rfl⟩ | timedOut | ⟨reason, cancelled⟩
  · exact .answered
  · rw [timedOut]
    exact .timedOut
  · rw [cancelled]
    exact .cancelled

end Connection

end GattRpc
