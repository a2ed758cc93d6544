import GattRpc.Program
import GattRpc.Proofs.Session.Once
import GattRpc.Proofs.Settings.Running

/-! # Courses of an errand

A program asks one thing after the other: it connects, makes the request of its task, and closes the
connection. While it waits, the task of its session does what it likes, time passes, and events are
heard. `Errand.Course` is any course that this may take, whatever the link answers and when, with
what is printed at its end. What can be said of each is put together in `Errand.Course.account`. -/

namespace GattRpc

/-- What is printed of the events that are read. -/
def Record.lines : Record → List String
  | eventsRead es => es.filterMap Dialogue.line?
  | _ => []

/-- What was printed of the events that were read. -/
def Journal.lines (j : Journal) : List String := j.flatMap Record.lines

/-- The task makes a request with these params, by this call with their value. -/
inductive Task.Requests : Task → String → Option String → (Json → ClientCall) → Prop
  | call {method : String} {params : Option String} :
    Requests (.call method params) method params (.call method)
  | notify {method : String} {params : Option String} :
    Requests (.notify method params) method params fun v => .send method v none

namespace Dialogue

/-- A dialogue goes on while nothing is asked. -/
inductive Goes : Dialogue Unit → Journal → Dialogue Unit → Prop
  | refl {d : Dialogue Unit} : Goes d [] d
  | passes {d d' : Dialogue Unit} {j more : Journal} {s : Session Unit} (goes : Goes d j d')
    (step : d'.session.Step more s) (passing : ∀ x ∈ more, x.Passes) :
    Goes d (j ++ more) { d' with session := s }
  | hears {d d' : Dialogue Unit} {j : Journal} (goes : Goes d j d') :
    Goes d (j ++ [.eventsRead d'.session.channel.drain.2]) d'.hear

/-- A call is made, and the dialogue goes on until that has returned. -/
inductive Asks (call : ClientCall) (d : Dialogue Unit) (r : CallResult) :
    Journal → Dialogue Unit → Prop
  | intro {more : Journal} {d' : Dialogue Unit}
    (goes : Goes { d with session := d.session.begin call } more d')
    (returned : (d.session.made, r) ∈ d'.session.finished) :
    Asks call d r (.began d.session.made call ::
      (d.session.refusal? call).toList.map (.refused d.session.made) ++ more) d'

/-- A task is carried out on a connection. Listening may end at any time. -/
inductive Performs (d : Dialogue Unit) : Task → Journal → Option Mishap → Dialogue Unit → Prop
  | unreadable {task : Task} {method : String} {params : Option String} {make : Json → ClientCall}
    {e : Mishap} (requests : task.Requests method params make)
    (unreadable : readParams params = .error e) : Performs d task [] (some e) d
  | asks {task : Task} {method : String} {params : Option String} {make : Json → ClientCall}
    {v : Json} {r : CallResult} {j : Journal} {d' : Dialogue Unit}
    (requests : task.Requests method params make) (readable : readParams params = .ok v)
    (asks : Asks (make v) d r j d') : Performs d task j (d'.conclude r).1 (d'.conclude r).2
  | listens {j : Journal} {d' : Dialogue Unit} (goes : Goes d j d') : Performs d .listen j none d'

end Dialogue

open Dialogue in
/-- The courses that an errand may take, and how each ends. A link whose session cannot be made is
left alone. -/
inductive Errand.Course (e : Errand) : Journal → Finish → Prop
  | unopened (unopened : Session.open? () e.settings.options = none) : Course e [] .crashed
  | unconnected {s : Session Unit} {err : RpcError} {j : Journal} {d : Dialogue Unit}
    (opened : Session.open? () e.settings.options = some s)
    (connects : Asks .connect { session := s } (.failed err) j d) :
    Course e j (.ofLines d.lines (some (.rpc err)))
  | connected {s : Session Unit} {r r' : CallResult} {j more last : Journal}
    {d d' d'' : Dialogue Unit} {mishap : Option Mishap}
    (opened : Session.open? () e.settings.options = some s)
    (connects : Asks .connect { session := s } r j d) (success : ∀ err, r ≠ .failed err)
    (performs : Performs d e.task more mishap d') (closes : Asks .close d' r' last d'') :
    Course e (j ++ more ++ last) (.ofLines d''.lines mishap)

variable {options : Options} {i j more : Journal} {d d' : Dialogue Unit} {call : ClientCall}
  {r : CallResult} {mishap : Option Mishap}

namespace Journal

@[simp] theorem lines_append : lines (i ++ j) = lines i ++ lines j := List.flatMap_append

@[simp] theorem lines_act {h : History} : lines (h.map .act) = [] :=
  List.flatMap_eq_nil_iff.2 (by simp [Record.lines])

/-- Neither to connect nor to close is a request. -/
theorem requests_eq {k n m : Nat} (request : (call.command n).isRequest = true)
    (began : j.began = [(k, .connect), (n, call), (m, .close)]) : j.requests = [(n, call)] := by
  rw [requests, began, List.filter_cons_of_neg Bool.false_ne_true, List.filter_cons,
    if_pos request]
  rfl

end Journal

/-! ### What goes on while nothing is asked -/

/-- A step at which nothing is asked. -/
theorem Session.Step.passes {s s' : Session Unit} (step : s.Step more s')
    (passing : ∀ x ∈ more, x.Passes) :
    s.Keeps s' ∧ s'.made = s.made ∧ more.began = [] ∧ more.lines = [] := by
  cases step with
  | begin | dropClient | readEvents | dropEvents => exact (passing _ List.mem_cons_self).elim
  | enter | wait => exact ⟨.of_eq rfl rfl, rfl, rfl, rfl⟩
  | serve | answer => exact ⟨keeps_proceed, proceed_eq.2, Journal.began_act, Journal.lines_act⟩

namespace Dialogue

/-- A journal of a dialogue, whose client is there. -/
structure Reached (options : Options) (j : Journal) (d : Dialogue Unit) : Prop where
  run : Session.Run options j d.session
  held : d.session.held = true

namespace Goes

theorem made (goes : Goes d j d') : d'.session.made = d.session.made := by
  induction goes with
  | refl => rfl
  | passes goes step passing ih => exact (step.passes passing).2.1.trans ih
  | hears goes ih => exact ih

theorem keeps (goes : Goes d j d') : d.session.Keeps d'.session := by
  induction goes with
  | refl => exact .refl
  | passes goes step passing ih => exact ih.trans (step.passes passing).1
  | hears goes ih => exact ih.trans (.of_eq rfl rfl)

theorem began (goes : Goes d j d') : j.began = [] := by
  induction goes with
  | refl => rfl
  | passes goes step passing ih => rw [Journal.began_append, ih, (step.passes passing).2.2.1]; rfl
  | hears goes ih => rw [Journal.began_append, ih]; rfl

/-- What is heard is printed. -/
theorem lines (goes : Goes d j d') : d'.lines = d.lines ++ j.lines := by
  induction goes with
  | refl => exact (List.append_nil _).symm
  | passes goes step passing ih =>
    rw [Journal.lines_append, (step.passes passing).2.2.2, List.append_nil]
    exact ih
  | @hears d' j goes ih =>
    have printed : d'.hear.lines = d'.lines ++ d'.session.channel.drain.2.filterMap line? := rfl
    have heard : Journal.lines [.eventsRead d'.session.channel.drain.2] =
        d'.session.channel.drain.2.filterMap line? := List.append_nil _
    rw [Journal.lines_append, heard, printed, ih, List.append_assoc]

theorem reached (goes : Goes d more d') (k : Reached options j d) :
    Reached options (j ++ more) d' := by
  refine ⟨?_, goes.keeps.held.trans k.held⟩
  induction goes with
  | refl => rw [List.append_nil]; exact k.run
  | passes goes step passing ih => rw [← List.append_assoc]; exact ih.step step
  | hears goes ih => rw [← List.append_assoc]; exact ih.step .readEvents

end Goes

/-! ### Calls -/

/-- What a call that has returned brought about. -/
structure Asked (call : ClientCall) (d : Dialogue Unit) (r : CallResult) (j : Journal)
    (d' : Dialogue Unit) : Prop where
  made : d'.session.made = d.session.made + 1
  began : j.began = [(d.session.made, call)]
  returned : (d.session.made, r) ∈ d'.session.finished
  keeps : d.session.Keeps d'.session
  lines : d'.lines = d.lines ++ j.lines

theorem Asks.asked (asks : Asks call d r j d') : Asked call d r j d' := by
  cases asks with
  | @intro more _ goes returned =>
    refine ⟨?_, ?_, returned, (Session.keeps_begin call).trans goes.keeps, ?_⟩
    · exact goes.made.trans (Session.begin_eq call).1
    · rw [Journal.began_append, goes.began]
      cases d.session.refusal? call <;> rfl
    · rw [goes.lines, Journal.lines_append]
      cases d.session.refusal? call <;> rfl

theorem Asks.reached (asks : Asks call d r more d') (k : Reached options j d) :
    Reached options (j ++ more) d' := by
  cases asks with
  | @intro more _ goes =>
    have begun : Reached options _ { d with session := d.session.begin call } :=
      ⟨k.run.step (.begin call k.held), (Session.keeps_begin call).held.trans k.held⟩
    rw [← List.append_assoc]
    exact goes.reached begun

theorem session_conclude {L : Type} {d : Dialogue L} : (d.conclude r).2.session = d.session := by
  cases r with
  | answered response =>
    unfold conclude
    dsimp only
    split <;> rfl
  | connected | sent | closed | failed => rfl

theorem Reached.start {s : Session Unit} (opened : Session.open? () options = some s) :
    Reached options [] { session := s } ∧ s.made = 0 := by
  have run := Session.Run.start opened
  obtain rfl := Session.eq_of_open? opened
  exact ⟨⟨run, rfl⟩, rfl⟩

theorem Reached.conclude (k : Reached options j d) : Reached options j (d.conclude r).2 := by
  refine ⟨?_, ?_⟩ <;> rw [session_conclude]
  · exact k.run
  · exact k.held

theorem Performs.reached {task : Task} (performs : Performs d task more mishap d')
    (k : Reached options j d) : Reached options (j ++ more) d' := by
  cases performs with
  | unreadable => rw [List.append_nil]; exact k
  | asks requests readable asks => exact (asks.reached k).conclude
  | listens goes => exact goes.reached k

theorem Performs.keeps {task : Task} (performs : Performs d task j mishap d') :
    d.session.Keeps d'.session := by
  cases performs with
  | unreadable => exact .refl
  | asks requests readable asks => rw [session_conclude]; exact asks.asked.keeps
  | listens goes => exact goes.keeps

end Dialogue

theorem Task.Requests.of_call {task : Task} {method : String} {params : Option String}
    (is : task = .call method params) : task.Requests method params (.call method) := is ▸ .call

theorem Task.Requests.of_notify {task : Task} {method : String} {params : Option String}
    (is : task = .notify method params) :
    task.Requests method params fun v => .send method v none := is ▸ .notify

theorem Task.Requests.unique {task : Task} {method method' : String}
    {params params' : Option String} {make make' : Json → ClientCall}
    (requests : task.Requests method params make) (other : task.Requests method' params' make') :
    method = method' ∧ params = params' ∧ make = make' := by
  cases requests <;> cases other <;> exact ⟨rfl, rfl, rfl⟩

theorem Task.Requests.isRequest {task : Task} {method : String} {params : Option String}
    {make : Json → ClientCall} (requests : task.Requests method params make) (n : Nat) (v : Json) :
    ((make v).command n).isRequest = true := by
  cases requests <;> rfl

/-! ### Whole courses -/

namespace Errand

variable {e : Errand} {finish : Finish}

open Dialogue

/-- What is left when a session was made: the connection is closed, and whether its link has granted
every step of connecting. -/
structure Closed (e : Errand) (j : Journal) (s : Session Unit) (connected : Prop) : Prop where
  run : Session.Run e.settings.options j s
  closed : s.engine.connection.state = .closed
  connected : j.history.Connected e.settings.options ↔ connected

/-- What became of an errand. -/
inductive Account (e : Errand) (j : Journal) : Finish → Prop
  | unopened (none : j = []) : Account e j .crashed
  | unconnected {s : Session Unit} {err : RpcError} (closed : e.Closed j s False) :
    Account e j (.ofLines j.lines (some (.rpc err)))
  | unreadable {s : Session Unit} {method : String} {params : Option String}
    {make : Json → ClientCall} {m : Mishap} (closed : e.Closed j s True)
    (requests : e.task.Requests method params make) (unreadable : readParams params = .error m) :
    Account e j (.ofLines j.lines (some m))
  | asked {s : Session Unit} {method : String} {params : Option String}
    {make : Json → ClientCall} {v : Json} {r : CallResult} {d : Dialogue Unit}
    {after : List String} (closed : e.Closed j s True)
    (requests : e.task.Requests method params make) (readable : readParams params = .ok v)
    (lone : j.requests = [(1, make v)]) (returned : (1, r) ∈ s.finished)
    (lines : j.lines = d.lines ++ after) :
    Account e j (.ofLines ((d.conclude r).2.lines ++ after) (d.conclude r).1)
  | listened {s : Session Unit} (closed : e.Closed j s True) (task : e.task = .listen) :
    Account e j (.ofLines j.lines none)

/-- A dialogue that began with connecting and ended with closing. -/
theorem Closed.of_close {m : Nat} {r' : CallResult} {between : List (Nat × ClientCall)}
    (k : Reached e.settings.options j d)
    (began : j.began = (0, .connect) :: (between ++ [(m, .close)]))
    {rest : List (Nat × Command)} (first : j.queued = (0, .connect) :: rest)
    (connected : (0, r) ∈ d.session.finished) (success : ∀ err, r ≠ .failed err)
    (closed : (m, r') ∈ d.session.finished) : e.Closed j d.session True := by
  have mode := e.settings.pollMode_ne_zero
  refine ⟨k.run, k.run.closed_of_close mode ?_ closed, ?_⟩
  · rw [began]
    simp
  · have called : (0, .connect) ∈ j.began := began ▸ List.mem_cons_self
    rcases k.run.first_connects mode k.held called first connected with ⟨-, granted⟩ | ⟨⟨err, is⟩, -⟩
    · exact iff_of_true granted trivial
    · exact (success err is).elim

theorem Course.account (course : e.Course j finish) : e.Account j finish := by
  cases course with
  | unopened => exact .unopened rfl
  | @unconnected s err _ d opened connects =>
    obtain ⟨begins, zero⟩ := Reached.start opened
    have k : Reached e.settings.options j d := connects.reached begins
    have first := connects.asked
    have mode := e.settings.pollMode_ne_zero
    have called : (s.made, .connect) ∈ j.began := first.began ▸ List.mem_cons_self
    have queued := k.run.queued_of_only mode first.began first.returned
    obtain ⟨is, -⟩ | ⟨-, refused, closed⟩ :=
      k.run.first_connects mode k.held called queued first.returned
    · cases is
    · rw [show d.lines = j.lines from first.lines]
      exact .unconnected ⟨k.run, closed, iff_of_false refused id⟩
  | @connected s r r' j more last d d' d'' mishap opened connects success performs closes =>
    obtain ⟨begins, zero⟩ := Reached.start opened
    have k : Reached e.settings.options j d := connects.reached begins
    have k' := performs.reached k
    have k'' := closes.reached k'
    have first := connects.asked
    have final := closes.asked
    have made : d.session.made = 1 := first.made.trans (congrArg (· + 1) zero)
    have began : (j ++ more ++ last).began =
        (0, .connect) :: (more.began ++ [(d'.session.made, .close)]) := by
      rw [Journal.began_append, Journal.began_append, first.began, final.began, ← zero]
      rfl
    have returned : (0, r) ∈ d''.session.finished :=
      (performs.keeps.trans final.keeps).finished.subset (zero ▸ first.returned)
    -- Nothing else was called before the call to connect had returned.
    have queued : (j ++ more ++ last).queued =
        (0, .connect) :: (more.queued ++ last.queued) := by
      rw [Journal.queued_append, Journal.queued_append,
        k.run.queued_of_only e.settings.pollMode_ne_zero first.began first.returned, zero,
        List.append_assoc]
      rfl
    have closed := Closed.of_close k'' began queued returned success final.returned
    have printed : d''.lines = d'.lines ++ last.lines := final.lines
    have heard : d.lines = j.lines := first.lines
    generalize task : e.task = asked at performs
    cases performs with
    | unreadable requests unreadable =>
      have lines : d''.lines = (j ++ [] ++ last).lines := by simp [printed, heard]
      rw [lines]
      exact .unreadable closed (task ▸ requests) unreadable
    | @asks _ method params make v r' _ d₁ requests readable asks =>
      have second := asks.asked
      rw [printed]
      refine .asked closed (task ▸ requests) readable ?_ ?_ ?_
      · rw [second.began, made] at began
        exact Journal.requests_eq (requests.isRequest 1 v) began
      · refine final.keeps.finished.subset ?_
        rw [session_conclude]
        exact made ▸ second.returned
      · simp [second.lines, heard]
    | listens goes =>
      have lines : d''.lines = (j ++ more ++ last).lines := by simp [printed, heard, goes.lines]
      rw [lines]
      exact .listened closed task

end Errand

end GattRpc
