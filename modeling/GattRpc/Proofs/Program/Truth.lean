import GattRpc.Proofs.Program.Course

/-! # What the end of an errand tells

Whatever decides an errand, its link is left disconnected, and its exit code is zero just if what
was asked for has come about (`Errand.Course.truthful`). -/

namespace GattRpc

open Dialogue

/-- The end of an errand is true to its course. -/
structure Errand.Truthful (e : Errand) (j : Journal) (finish : Finish) : Prop where
  /-- A link that was connected has been disconnected once. -/
  released : .connect ∈ j.history.calls → j.history.calls.count .disconnect = 1
  /-- A call succeeds just if the link granted every step of connecting, the params can be read, and
  a response of code 0 was dispatched while the request waited for it. -/
  call : ∀ method params, e.task = .call method params →
    (finish.code = 0 ↔ j.history.Connected e.settings.options ∧
      ∃ v, readParams params = .ok v ∧
        ∃ r, j.history.Meets e.settings.options (.new 1 method v) r ∧ r.code = 0)
  /-- The result of the response is printed between the notifications. -/
  printed : ∀ method params v r, e.task = .call method params → finish.code = 0 →
    readParams params = .ok v → j.history.Meets e.settings.options (.new 1 method v) r →
      ∃ before after, j.lines = before ++ after ∧
        finish = .ofLines (before ++ (r.result.getD .null).prettyText :: after) none
  /-- To notify succeeds just if the link granted every step of connecting, the params can be read,
  and the link accepted the frame of the request. -/
  notify : ∀ method params, e.task = .notify method params →
    (finish.code = 0 ↔ j.history.Connected e.settings.options ∧
      ∃ v, readParams params = .ok v ∧
        ∃ ch, ⟨.write ch (Frame.encode (Request.new 1 method v).document), .ok ()⟩ ∈
          j.history.exchanges)
  /-- Either has then written one frame. -/
  lone : ∀ method params make, e.task.Requests method params make → finish.code = 0 →
    ∃ v, readParams params = .ok v ∧
      j.history.frames = [Frame.encode (Request.new 1 method v).document]

theorem Finish.code_ofLines {lines : List String} {mishap : Option Mishap} :
    (Finish.ofLines lines mishap).code = 0 ↔ mishap = none := by
  cases mishap with
  | none => exact iff_of_true rfl rfl
  | some m => exact iff_of_false (fun zero => absurd (show (1 : UInt32) = 0 from zero) (by decide)) nofun

namespace Errand

variable {e : Errand} {j : Journal} {finish : Finish} {s : Session Unit} {connected : Prop}

theorem Closed.released (k : e.Closed j s connected) (called : .connect ∈ j.history.calls) :
    j.history.calls.count .disconnect = 1 :=
  k.run.count_disconnect e.settings.pollMode_ne_zero k.closed called

section

variable {method : String} {v : Json} {res : CallResult} {r : Response} {d : Dialogue Unit}

/-- Only a response of code 0 is no mishap, and its result is printed. -/
theorem conclude_answered_of_success (success : r.code = 0) :
    d.conclude (.answered r) = (none, d.print (r.result.getD .null).prettyText) := by
  simp [conclude, Response.toResult, Response.isSuccess, success]

theorem conclude_answered (d : Dialogue Unit) :
    (d.conclude (.answered r)).1 = none ↔ r.code = 0 := by
  by_cases success : r.code = 0
  · rw [conclude_answered_of_success success]
    exact iff_of_true rfl success
  · simp [conclude, Response.toResult, Response.isSuccess, success]

/-- The only call for a response ends without mishap just if a response of code 0 met it. -/
theorem Closed.call_iff (k : e.Closed j s connected) (lone : j.requests = [(1, .call method v)])
    (returned : (1, res) ∈ s.finished) : (d.conclude res).1 = none ↔
      ∃ r, j.history.Meets e.settings.options (.new 1 method v) r ∧ r.code = 0 := by
  have met (r : Response) := k.run.lone_answered_iff (r := r) lone
  constructor
  · intro none
    have began := Session.Run.began_of_lone lone
    cases k.run.returns e.settings.pollMode_ne_zero began returned with
    | @answered _ _ x r => exact ⟨r, (met r).1 returned, (conclude_answered d).1 none⟩
    | uncalled | failed | dropped => cases none
  · rintro ⟨r, meets, success⟩
    rw [k.run.finished_unique returned ((met r).2 meets)]
    exact (conclude_answered d).2 success

/-- The only call to send ends without mishap just if the link accepted its frame. -/
theorem Closed.notify_iff (k : e.Closed j s connected)
    (lone : j.requests = [(1, .send method v none)]) (returned : (1, res) ∈ s.finished) :
    (d.conclude res).1 = none ↔
      ∃ ch, ⟨.write ch (Frame.encode (Request.new 1 method v).document), .ok ()⟩ ∈
        j.history.exchanges := by
  rw [← k.run.lone_sent_iff lone]
  constructor
  · intro none
    have began := Session.Run.began_of_lone lone
    cases k.run.returns e.settings.pollMode_ne_zero began returned with
    | @sent _ _ _ id => exact ⟨id, returned⟩
    | unsent => cases none
  · rintro ⟨id, sent⟩
    rw [k.run.finished_unique returned sent]
    rfl

end

/-- What is known of an errand that made its request and ended without mishap. -/
structure Succeeded (e : Errand) (j : Journal) (finish : Finish) (make : Json → ClientCall)
    (v : Json) (s : Session Unit) (res : CallResult) (d : Dialogue Unit) (after : List String) :
    Prop where
  closed : e.Closed j s True
  lone : j.requests = [(1, make v)]
  returned : (1, res) ∈ s.finished
  unharmed : (d.conclude res).1 = none
  lines : j.lines = d.lines ++ after
  finish : finish = .ofLines ((d.conclude res).2.lines ++ after) none

theorem Account.succeeded {method : String} {params : Option String} {make : Json → ClientCall}
    (account : e.Account j finish) (requests : e.task.Requests method params make)
    (success : finish.code = 0) :
    ∃ v s res d after, readParams params = .ok v ∧ e.Succeeded j finish make v s res d after := by
  cases account with
  | unopened => cases success
  | unconnected | unreadable => cases Finish.code_ofLines.1 success
  | asked closed requests' readable lone returned lines =>
    have unharmed := Finish.code_ofLines.1 success
    obtain ⟨rfl, rfl, rfl⟩ := requests'.unique requests
    rw [unharmed]
    exact ⟨_, _, _, _, _, readable, closed, lone, returned, unharmed, lines, rfl⟩
  | listened closed task =>
    rw [task] at requests
    cases requests

/-- An errand succeeds just if its link granted every step of connecting, its params can be read,
and its request ends without mishap. -/
theorem Account.code_iff {method : String} {params : Option String} {make : Json → ClientCall}
    {P : Json → Prop} (account : e.Account j finish)
    (requests : e.task.Requests method params make)
    (ends : ∀ {s : Session Unit} {v : Json} {res : CallResult} {d : Dialogue Unit},
      e.Closed j s True → j.requests = [(1, make v)] → (1, res) ∈ s.finished →
        ((d.conclude res).1 = none ↔ P v)) :
    finish.code = 0 ↔ j.history.Connected e.settings.options ∧
      ∃ v, readParams params = .ok v ∧ P v := by
  constructor
  · intro success
    obtain ⟨v, s, res, d, after, readable, k⟩ := account.succeeded requests success
    exact ⟨k.closed.connected.2 trivial, v, readable, (ends k.closed k.lone k.returned).1 k.unharmed⟩
  · rintro ⟨connected, v, readable, holds⟩
    cases account with
    | unopened none => exact (History.not_connected_nil (none ▸ connected)).elim
    | unconnected closed => exact (closed.connected.1 connected).elim
    | unreadable closed requests' unreadable =>
      obtain ⟨rfl, rfl, rfl⟩ := requests'.unique requests
      rw [readable] at unreadable
      cases unreadable
    | asked closed requests' readable' lone returned lines =>
      obtain ⟨rfl, rfl, rfl⟩ := requests'.unique requests
      rw [readable] at readable'
      cases readable'
      exact Finish.code_ofLines.2 ((ends closed lone returned).2 holds)
    | listened => rfl

/-- A request that ended without mishap was sent. -/
theorem Succeeded.sent {method : String} {params : Option String} {make : Json → ClientCall}
    {v : Json} {res : CallResult} {d : Dialogue Unit} {after : List String}
    (k : e.Succeeded j finish make v s res d after)
    (requests : e.task.Requests method params make) : ∃ id, (1, .ok id) ∈ j.history.sends := by
  have run := k.closed.run
  have began := Session.Run.began_of_lone k.lone
  have unharmed := k.unharmed
  have returns := run.returns e.settings.pollMode_ne_zero began k.returned
  generalize e.task = task at requests
  cases requests with
  | call =>
    cases returns with
    | @answered _ _ x r => exact ⟨r.id, run.sent_of_answered began k.returned⟩
    | uncalled | failed | dropped => cases unharmed
  | notify =>
    cases returns with
    | @sent _ _ _ id => exact ⟨id, (run.sent.1 k.returned).1⟩
    | unsent => cases unharmed

theorem Succeeded.frames {method : String} {params : Option String} {make : Json → ClientCall}
    {v : Json} {res : CallResult} {d : Dialogue Unit} {after : List String}
    (k : e.Succeeded j finish make v s res d after)
    (requests : e.task.Requests method params make) :
    j.history.frames = [Frame.encode (Request.new 1 method v).document] := by
  obtain ⟨id, sent⟩ := k.sent requests
  obtain ⟨-, -, method', params', callback, ch, command, frames, -⟩ :=
    k.closed.run.lone_sent k.lone sent
  generalize e.task = task at requests
  cases requests <;> cases command <;> exact frames

theorem Course.truthful (course : e.Course j finish) : e.Truthful j finish where
  released called := by
    cases course.account with
    | unopened none =>
      rw [none] at called
      cases called
    | unconnected closed | unreadable closed | asked closed | listened closed =>
      exact closed.released called
  call method params task := course.account.code_iff (.of_call task) Closed.call_iff
  printed method params v r task success readable meets := by
    obtain ⟨v', s, res, d, after, readable', k⟩ := course.account.succeeded (.of_call task) success
    rw [readable] at readable'
    cases readable'
    obtain rfl : res = .answered r := k.closed.run.finished_unique k.returned
      ((k.closed.run.lone_answered_iff k.lone).2 meets)
    have answered := conclude_answered_of_success (d := d) ((conclude_answered d).1 k.unharmed)
    refine ⟨d.lines, after, k.lines, ?_⟩
    rw [k.finish, answered]
    exact congrArg (Finish.ofLines · none) (List.append_assoc ..)
  notify method params task := course.account.code_iff (.of_notify task) Closed.notify_iff
  lone method params make requests success := by
    obtain ⟨v, s, res, d, after, readable, k⟩ := course.account.succeeded requests success
    exact ⟨v, readable, k.frames requests⟩

end Errand

end GattRpc
