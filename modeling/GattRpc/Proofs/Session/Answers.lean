import GattRpc.Proofs.Connection.Answers
import GattRpc.Proofs.Connection.Callbacks
import GattRpc.Proofs.Session.Returns

/-! # Calls return their own responses

A call for a response runs until its callback is told or dropped, or its command is refused. So it
returns the response that is routed while its own request waits, whatever else is called meanwhile
and in whatever order responses come (`Session.Run.returnsOwn`). -/

namespace GattRpc

open Connection

/-- Nothing more will be told to the call of this number. -/
def Spent (j : Journal) (out : List Output) (n : Nat) : Prop :=
  (∃ e, (n, e) ∈ j.refused) ∨ ∃ o ∈ out, o.Concludes n

namespace Session

variable {L : Type}

/-- What the task told was noted by the calls that it concerns. -/
structure Noted (j : Journal) (out : List Output) (s : Session L) : Prop where
  running : ∀ a ∈ s.running, (a.number, a.call) ∈ j.began
  told : ∀ n r, (n, .answered r) ∈ s.finished → ∃ x, .settled x ∈ out ∧ x.outcome = .answered r ∧
    x.callback.token = n
  answered : ∀ before x r method params, before ++ [.settled x] <+: out →
    x.outcome = .answered r → (x.callback.token, .call method params) ∈ j.began →
      (x.callback.token, .answered r) ∈ s.finished ∨ Spent j before x.callback.token

/-- A call for a response runs until nothing more will be told to it. -/
def Live (j : Journal) (out : List Output) (s : Session L) : Prop :=
  ∀ n method params, (n, .call method params) ∈ j.began →
    (∃ a ∈ s.running, a.number = n) ∨ Spent j out n

/-- A call returns a response if and only if that was routed while its request waited for it. -/
structure ReturnsOwn (options : Options) (j : Journal) (s : Session L) : Prop where
  answering : Answering options j.history
  returned : ∀ n method params r, (n, .call method params) ∈ j.began →
    ((n, .answered r) ∈ s.finished ↔ ∃ ms m before p,
      j.history.Routes options ms m before (.settled (p.settle (.answered r))) ∧
        Inbound.classify m = .response r ∧ before.Waits p ∧ p.id = r.id ∧
          p.callback.token = n ∧ p.request = .new p.id method params)

end Session

variable {L : Type} {options : Options} {j more : Journal} {s s' : Session L}
  {out out' : List Output} {o : Output} {n : Nat} {r : CallResult}

namespace Spent

theorem append (spent : Spent j out n) : Spent (j ++ more) out n := by
  rcases spent with ⟨e, he⟩ | told
  · rw [Spent, Journal.refused_append]
    exact .inl ⟨e, List.mem_append_left _ he⟩
  · exact .inr told

theorem tells (spent : Spent j out n) : Spent j (out ++ out') n := by
  rcases spent with refused | ⟨o, ho, concludes⟩
  · exact .inl refused
  · exact .inr ⟨o, List.mem_append_left _ ho, concludes⟩

theorem of_concludes (concludes : o.Concludes n) : Spent j (out ++ [o]) n :=
  .inr ⟨o, List.mem_append_right _ List.mem_cons_self, concludes⟩

end Spent

namespace Session

/-! ### Taking note -/

theorem wantsResponse_of_call {a : RunningCall} {method : String} {params : Json}
    (is : a.call = .call method params) : a.wantsResponse = true := by
  rw [RunningCall.wantsResponse, is]

theorem number_of_runningCall? {d : Callback} {a : RunningCall}
    (found : s.runningCall? d = some a) : a.number = d.token := by
  have is := List.find?_some found
  rw [Bool.and_eq_true, decide_eq_true_eq] at is
  exact is.1

namespace Live

theorem tells (l : Live j out s)
    (running : ∀ a ∈ s.running, ∃ b ∈ s'.running, b.number = a.number) :
    Live j (out ++ out') s' := by
  intro n method params began
  rcases l n method params began with ⟨a, ha, rfl⟩ | spent
  · exact .inl (running a ha)
  · exact .inr spent.tells

theorem finish (l : Live j out s) (concludes : o.Concludes n) :
    Live j (out ++ [o]) (s.finish n r) := by
  intro m method params began
  rcases l m method params began with ⟨a, ha, rfl⟩ | spent
  · by_cases same : a.number = n
    · rw [same]
      exact .inr (.of_concludes concludes)
    · exact .inl ⟨a, List.mem_filter.2 ⟨ha, decide_eq_true same⟩, rfl⟩
  · exact .inr spent.tells

end Live

namespace Noted

theorem tells {rs : List (Nat × CallResult)} (k : Noted j out s)
    (running : ∀ a ∈ s'.running, (a.number, a.call) ∈ j.began)
    (finished : s'.finished = s.finished ++ rs)
    (told : ∀ n r, (n, .answered r) ∈ rs → ∃ x, o = .settled x ∧ x.outcome = .answered r ∧
      x.callback.token = n)
    (answered : ∀ x r method params, o = .settled x → x.outcome = .answered r →
      (x.callback.token, .call method params) ∈ j.began →
        (x.callback.token, .answered r) ∈ s'.finished ∨ Spent j out x.callback.token) :
    Noted j (out ++ [o]) s' where
  running := running
  told n r hr := by
    rw [finished] at hr
    rcases List.mem_append.1 hr with hr | hr
    · obtain ⟨x, hx, outcome, token⟩ := k.told n r hr
      exact ⟨x, List.mem_append_left _ hx, outcome, token⟩
    · obtain ⟨x, rfl, outcome, token⟩ := told n r hr
      exact ⟨x, List.mem_append_right _ List.mem_cons_self, outcome, token⟩
  answered before x r method params early outcome began := by
    rcases List.prefix_concat_iff.1 early with whole | early
    · obtain ⟨rfl, last⟩ := List.append_inj' whole rfl
      cases last
      exact answered x r method params rfl outcome began
    · rcases k.answered before x r method params early outcome began with done | spent
      · rw [finished]
        exact .inl (List.mem_append_left _ done)
      · exact .inr spent

/-- What is told to nobody who waits for a response, and ends no call with one. -/
theorem passes {rs : List (Nat × CallResult)} (k : Noted j out s)
    (running : ∀ a ∈ s'.running, (a.number, a.call) ∈ j.began)
    (finished : s'.finished = s.finished ++ rs) (failed : ∀ n r, (n, .answered r) ∉ rs)
    (other : ∀ x, o ≠ .settled x) : Noted j (out ++ [o]) s' :=
  k.tells running finished (fun n r hr => (failed n r hr).elim)
    fun x _ _ _ is => (other x is).elim

theorem ignores (k : Noted j out s) (running : ∀ a ∈ s'.running, (a.number, a.call) ∈ j.began)
    (finished : s'.finished = s.finished) (other : ∀ x, o ≠ .settled x) :
    Noted j (out ++ [o]) s' :=
  k.passes running (finished.trans (List.append_nil _).symm) (fun _ _ => List.not_mem_nil) other

theorem finish (k : Noted j out s) (failed : ∀ y, r ≠ .answered y) (other : ∀ x, o ≠ .settled x) :
    Noted j (out ++ [o]) (s.finish n r) := by
  refine k.passes (fun a ha => k.running a (List.mem_of_mem_filter ha)) rfl (fun m y hy => ?_) other
  cases List.mem_singleton.1 hy
  exact failed y rfl

theorem settle {x : Settlement} (k : Noted j out s) (l : Live j out s)
    (distinct : (j.began.map Prod.fst).Nodup) :
    Noted j (out ++ [.settled x]) (s.note (.settled x)) ∧
      Live j (out ++ [.settled x]) (s.note (.settled x)) := by
  cases found : s.runningCall? x.callback with
  | none =>
    simp only [note, found]
    refine ⟨k.tells k.running (List.append_nil _).symm (fun _ _ mem => by cases mem) ?_,
      l.tells fun a ha => ⟨a, ha, rfl⟩⟩
    rintro _ r method params ⟨⟩ - began
    -- A call that still wants the response would have been found.
    rcases l _ method params began with ⟨a, ha, number⟩ | spent
    · have began' := k.running a ha
      rw [number] at began'
      have same : a.call = .call method params := congrArg Prod.snd
        (List.inj_on_of_nodup_map distinct began' began rfl)
      refine absurd found (Option.ne_none_iff_exists'.2 ?_)
      refine Option.isSome_iff_exists.1 (List.find?_isSome.2 ⟨a, ha, ?_⟩)
      rw [number, wantsResponse_of_call same, decide_eq_true rfl]
      rfl
    · exact .inr spent
  | some a =>
    have number := number_of_runningCall? found
    have running {r : CallResult} : ∀ b ∈ (s.finish a.number r).running,
        (b.number, b.call) ∈ j.began :=
      fun b hb => k.running b (List.mem_of_mem_filter hb)
    cases outcome : x.outcome with
    | answered y =>
      simp only [note, found, outcome]
      refine ⟨k.tells running rfl (fun m r hr => ?_) ?_, l.finish number.symm⟩
      · cases List.mem_singleton.1 hr
        exact ⟨x, rfl, outcome, number.symm⟩
      · rintro _ r method params ⟨⟩ outcome' -
        rw [outcome] at outcome'
        cases outcome'
        rw [← number]
        exact .inl (List.mem_append_right _ List.mem_cons_self)
    | failed e =>
      simp only [note, found, outcome]
      refine ⟨k.tells running rfl (fun m r hr => ?_) ?_, l.finish number.symm⟩
      · cases List.mem_singleton.1 hr
      · rintro _ r method params ⟨⟩ outcome' -
        rw [outcome] at outcome'
        cases outcome'

theorem discard {d : Callback} (k : Noted j out s) (l : Live j out s) :
    Noted j (out ++ [.discarded d]) (s.note (.discarded d)) ∧
      Live j (out ++ [.discarded d]) (s.note (.discarded d)) := by
  have passes : Noted j (out ++ [.discarded d]) s ∧ Live j (out ++ [.discarded d]) s :=
    ⟨k.ignores k.running rfl (by simp), l.tells fun a ha => ⟨a, ha, rfl⟩⟩
  cases found : s.runningCall? d with
  | none =>
    simp only [note, found]
    exact passes
  | some a =>
    have number := number_of_runningCall? found
    obtain ⟨number', call, stage⟩ := a
    cases stage with
    | room | reply =>
      simp only [note, found]
      exact passes
    | response =>
      simp only [note, found]
      exact ⟨k.finish (by simp) (by simp), l.finish number.symm⟩

theorem accept {id : RequestId} (k : Noted j out s) (l : Live j out s)
    (distinct : (j.began.map Prod.fst).Nodup) :
    Noted j (out ++ [.reply n (.send (.ok id))]) (s.note (.reply n (.send (.ok id)))) ∧
      Live j (out ++ [.reply n (.send (.ok id))]) (s.note (.reply n (.send (.ok id)))) := by
  cases found : s.running.find? fun a => a.number = n with
  | none =>
    simp only [note, found]
    exact ⟨k.ignores k.running rfl (by simp), l.tells fun a ha => ⟨a, ha, rfl⟩⟩
  | some a =>
    have number : a.number = n := by simpa using List.find?_some found
    have began := k.running a (List.mem_of_find?_eq_some found)
    cases wants : a.wantsResponse with
    | true =>
      simp only [note, found, wants, if_true]
      refine ⟨k.ignores (fun b hb => ?_) rfl (by simp), l.tells fun b hb => ?_⟩
      · obtain ⟨b', hb', number, call⟩ := mem_await hb
        rw [← number, ← call]
        exact k.running b' hb'
      · obtain ⟨b', hb', number, -⟩ := await_mem hb
        exact ⟨b', hb', number⟩
    | false =>
      simp only [note, found, wants, Bool.false_eq_true, if_false]
      refine ⟨k.finish (by simp) (by simp), fun m method params began' => ?_⟩
      rcases l m method params began' with ⟨b, hb, rfl⟩ | spent
      · by_cases same : b.number = n
        · rw [number, ← same] at began
          have is : a.call = .call method params := congrArg Prod.snd
            (List.inj_on_of_nodup_map distinct began began' rfl)
          rw [wantsResponse_of_call is] at wants
          cases wants
        · exact .inl ⟨b, List.mem_filter.2 ⟨hb, decide_eq_true same⟩, rfl⟩
      · exact .inr spent.tells

theorem note (k : Noted j out s) (l : Live j out s) (distinct : (j.began.map Prod.fst).Nodup)
    (o : Output) : Noted j (out ++ [o]) (s.note o) ∧ Live j (out ++ [o]) (s.note o) := by
  cases o with
  | shown | event =>
    exact ⟨k.ignores k.running rfl (by simp), l.tells fun a ha => ⟨a, ha, rfl⟩⟩
  | settled x => exact k.settle l distinct
  | discarded d => exact k.discard l
  | reply n y =>
    cases y with
    | connect r =>
      refine ⟨k.finish (fun y => ?_) (by simp), l.finish rfl⟩
      cases r <;> simp
    | close => exact ⟨k.finish (by simp) (by simp), l.finish rfl⟩
    | send r =>
      cases r with
      | ok id => exact k.accept l distinct
      | error e => exact ⟨k.finish (by simp) (by simp), l.finish rfl⟩

theorem notes (k : Noted j out s) (l : Live j out s) (distinct : (j.began.map Prod.fst).Nodup)
    (out' : List Output) :
    Noted j (out ++ out') (out'.foldl Session.note s) ∧
      Live j (out ++ out') (out'.foldl Session.note s) := by
  induction out' generalizing out s with
  | nil =>
    rw [List.append_nil]
    exact ⟨k, l⟩
  | cons o out' ih =>
    obtain ⟨k, l⟩ := k.note l distinct o
    rw [List.append_cons]
    exact ih k l

end Noted

/-! ### Steps -/

/-- The calls of a session have noted what its task told. -/
structure Kept (j : Journal) (s : Session L) : Prop where
  noted : Noted j j.history.outputs s
  live : s.engine.ended = false → Live j j.history.outputs s

/-- What happened has to do with no callback that was told something before. -/
theorem Noted.append (k : Noted j out s)
    (old : ∀ x call, .settled x ∈ out → (x.callback.token, call) ∈ (j ++ more).began →
      (x.callback.token, call) ∈ j.began) : Noted (j ++ more) out s where
  running a ha := Journal.mem_began_append (k.running a ha)
  told := k.told
  answered before x r method params early outcome began := by
    have told : .settled x ∈ out := early.subset (List.mem_append_right _ List.mem_cons_self)
    rcases k.answered before x r method params early outcome (old x _ told began) with done | spent
    · exact .inl done
    · exact .inr spent.append

theorem Noted.congr (k : Noted j out s) (running : s'.running = s.running)
    (finished : s'.finished = s.finished) : Noted j out s' where
  running := by rw [running]; exact k.running
  told := by rw [finished]; exact k.told
  answered := by rw [finished]; exact k.answered

theorem Live.append (l : Live j out s)
    (old : ∀ n call, (n, call) ∈ (j ++ more).began → (n, call) ∈ j.began) :
    Live (j ++ more) out s := by
  intro n method params began
  rcases l n method params (old n _ began) with running | spent
  · exact .inl running
  · exact .inr spent.append

theorem Noted.endOrphans (k : Noted j out s) : Noted j out s.endOrphans := by
  unfold Session.endOrphans
  split
  next =>
    refine ⟨nofun, fun n r hr => ?_, fun before x r method params early outcome began => ?_⟩
    · rcases List.mem_append.1 hr with hr | hr
      · exact k.told n r hr
      · obtain ⟨a, -, is⟩ := List.mem_map.1 hr
        have result : s.orphaned a = .answered r := congrArg Prod.snd is
        unfold orphaned at result
        split at result
        all_goals cases result
    · rcases k.answered before x r method params early outcome began with done | spent
      · exact .inl (List.mem_append_left _ done)
      · exact .inr spent
  next => exact k

namespace Kept

theorem endOrphans (k : Noted j j.history.outputs s)
    (live : s.engine.ended = false → Live j j.history.outputs s) : Kept j s.endOrphans := by
  refine ⟨k.endOrphans, fun running => ?_⟩
  rw [endOrphans_eq.1] at running
  rw [Session.endOrphans, running]
  exact live running

theorem same (k : Kept j s) (history : more.history = []) (began : more.began = [])
    (running : s'.running = s.running) (finished : s'.finished = s.finished)
    (ended : s'.engine.ended = s.engine.ended) : Kept (j ++ more) s' := by
  have outputs : (j ++ more).history.outputs = j.history.outputs := by
    rw [Journal.history_append, history, List.append_nil]
  have old {b : Nat × ClientCall} (hb : b ∈ (j ++ more).began) : b ∈ j.began := by
    rwa [Journal.began_append, began, List.append_nil] at hb
  refine ⟨?_, fun unended => ?_⟩
  · rw [outputs]
    exact (k.noted.append fun _ _ _ => old).congr running finished
  · rw [outputs]
    intro n method params began
    rw [running]
    exact (k.live (ended ▸ unended)).append (fun _ _ => old) n method params began

theorem proceed {queue : List (Nat × Command)} {acts : History} {t : Standing} (k : Kept j s)
    (distinct : (j.began.map Prod.fst).Nodup) (running : s.engine.ended = false)
    (began : more.began = []) (outputs : more.history.outputs = acts.outputs) :
    Kept (j ++ more) (s.proceed queue acts t) := by
  have told : (j ++ more).history.outputs = j.history.outputs ++ acts.outputs := by
    rw [Journal.history_append, History.outputs_append, outputs]
  have began : (j ++ more).began = j.began := by
    rw [Journal.began_append, began, List.append_nil]
  have old {b : Nat × ClientCall} (hb : b ∈ (j ++ more).began) : b ∈ j.began := by
    rwa [began] at hb
  have noted : Noted (j ++ more) j.history.outputs
      { s with engine := { s.engine with queue }.follow t } :=
    (k.noted.append fun _ _ _ => old).congr rfl rfl
  have live : Live (j ++ more) j.history.outputs
      { s with engine := { s.engine with queue }.follow t } :=
    (k.live running).append fun _ _ => old
  obtain ⟨noted, live⟩ := noted.notes live (by rwa [began]) acts.outputs
  rw [← told] at noted live
  exact endOrphans noted fun _ => live

/-- A call that runs waits for something else. -/
theorem await {stage : CallStage} (k : Kept j s) : Kept j (s.await n stage) := by
  refine ⟨⟨fun a ha => ?_, k.noted.told, k.noted.answered⟩, fun running m method params began => ?_⟩
  · obtain ⟨b, hb, number, call⟩ := mem_await ha
    rw [← number, ← call]
    exact k.noted.running b hb
  · rcases k.live running m method params began with ⟨b, hb, is⟩ | spent
    · obtain ⟨a, ha, number, -⟩ := await_mem hb
      exact .inl ⟨a, ha, number.trans is⟩
    · exact .inr spent

/-- A call is to queue its command, and runs from now on. -/
theorem submit {call : ClientCall} (k : Noted j j.history.outputs s)
    (began : (n, call) ∈ j.began)
    (live : s.engine.ended = false → ∀ m method params, (m, .call method params) ∈ j.began →
      m = n ∨ (∃ a ∈ s.running, a.number = m) ∨ Spent j j.history.outputs m) :
    Kept j (s.submit n call) := by
  refine endOrphans ⟨fun a ha => ?_, k.told, k.answered⟩ fun running m method params hm => ?_
  · rcases List.mem_append.1 ha with ha | ha
    · exact k.running a ha
    · cases List.mem_singleton.1 ha
      exact began
  · rcases live running m method params hm with rfl | ⟨a, ha, number⟩ | spent
    · exact .inl ⟨_, List.mem_append_right _ List.mem_cons_self, rfl⟩
    · exact .inl ⟨a, List.mem_append_left _ ha, number⟩
    · exact .inr spent

theorem refuse {e : RpcError} (k : Noted j j.history.outputs s) (refused : (n, e) ∈ j.refused)
    (live : s.engine.ended = false → ∀ m method params, (m, .call method params) ∈ j.began →
      m = n ∨ (∃ a ∈ s.running, a.number = m) ∨ Spent j j.history.outputs m) :
    Kept j (s.finish n (.failed e)) := by
  refine ⟨⟨fun a ha => k.running a (List.mem_of_mem_filter ha), fun m r hr => ?_, ?_⟩, ?_⟩
  · rcases List.mem_append.1 hr with hr | hr
    · exact k.told m r hr
    · cases List.mem_singleton.1 hr
  · intro before x r method params early outcome began
    rcases k.answered before x r method params early outcome began with done | spent
    · exact .inl (List.mem_append_left _ done)
    · exact .inr spent
  · intro running m method params began
    by_cases same : m = n
    · rw [same]
      exact .inr (.inl ⟨e, refused⟩)
    · rcases live running m method params began with own | ⟨a, ha, rfl⟩ | spent
      · exact (same own).elim
      · exact .inl ⟨a, List.mem_filter.2 ⟨ha, decide_eq_true same⟩, rfl⟩
      · exact .inr spent

theorem begin (k : Kept j s)
    (old : ∀ x, .settled x ∈ j.history.outputs → x.callback.token < s.made) (call : ClientCall) :
    Kept (j ++ .began s.made call :: (s.refusal? call).toList.map (.refused s.made))
      (s.begin call) := by
  obtain ⟨history, began, refused⟩ := s.records_begin call
  generalize Record.began s.made call :: (s.refusal? call).toList.map (.refused s.made) = more at *
  have history : (j ++ more).history = j.history := by
    rw [Journal.history_append, history, List.append_nil]
  have began : (j ++ more).began = j.began ++ [(s.made, call)] := by
    rw [Journal.began_append, began]
  have refused {e : RpcError} (refusal : s.refusal? call = some e) :
      (s.made, e) ∈ (j ++ more).refused := by
    rw [Journal.refused_append, refused, refusal]
    exact List.mem_append_right _ List.mem_cons_self
  have own : (s.made, call) ∈ (j ++ more).began := by
    rw [began]
    exact List.mem_append_right _ List.mem_cons_self
  have noted : Noted (j ++ more) (j ++ more).history.outputs { s with made := s.made + 1 } := by
    rw [history]
    refine (k.noted.append fun x call' hx hb => ?_).congr rfl rfl
    rw [began] at hb
    rcases List.mem_append.1 hb with hb | hb
    · exact hb
    · -- The number of the new call is none that was told something.
      have same := congrArg Prod.fst (List.mem_singleton.1 hb)
      exact (Nat.ne_of_lt (old x hx) same).elim
  have live : s.engine.ended = false → ∀ m method params,
      (m, .call method params) ∈ (j ++ more).began →
        m = s.made ∨ (∃ a ∈ s.running, a.number = m) ∨
          Spent (j ++ more) (j ++ more).history.outputs m := by
    intro running m method params hm
    rw [began] at hm
    rw [history]
    rcases List.mem_append.1 hm with hm | hm
    · rcases k.live running m method params hm with runs | spent
      · exact .inr (.inl runs)
      · exact .inr (.inr spent.append)
    · exact .inl (congrArg Prod.fst (List.mem_singleton.1 hm))
  rcases s.begin_cases call with ⟨-, is⟩ | ⟨e, refusal, -, is⟩
  · rw [is]
    exact submit noted own live
  · rw [is]
    exact refuse noted (refused refusal) live

end Kept

namespace Run

variable {s : Session Unit}

theorem token_lt (run : Session.Run options j s) {x : Settlement}
    (told : .settled x ∈ j.history.outputs) : x.callback.token < s.made := by
  obtain ⟨u, d⟩ := run.task.exists_deeds
  obtain ⟨n, method, params, asked⟩ := d.asked (List.mem_filterMap.2
    ⟨_, History.mem_of_mem_outputs told, rfl⟩)
  rw [run.ticketed.own n method params _ asked]
  obtain ⟨call, began, -⟩ := run.numbered.ordered n _ (List.mem_append_left _ asked)
  exact run.numbered.begun n call began

theorem kept (run : Session.Run options j s) : Kept j s := by
  induction run with
  | start opened =>
    obtain rfl := eq_of_open? opened
    exact ⟨⟨nofun, nofun, by simp [Journal.history, History.outputs]⟩, fun _ => nofun⟩
  | @step j more s s' run step ih =>
    cases step with
    | begin call held => exact ih.begin (fun x => run.token_lt) call
    | @enter r =>
      have k : Kept (j ++ [.queued r.number r.command])
          { s with engine.queue := s.engine.queue ++ [(r.number, r.command)] } :=
        ih.same rfl rfl rfl rfl rfl
      exact k.await
    | dropClient | readEvents | dropEvents | wait => exact ih.same rfl rfl rfl rfl rfl
    | serve offers step =>
      refine ih.proceed run.numbered.distinct (Engine.running_of_step step) Journal.began_act ?_
      rw [Journal.history_act]
      rfl
    | answer time step =>
      refine ih.proceed run.numbered.distinct (Engine.running_of_step step) Journal.began_act ?_
      rw [Journal.history_act]
      rfl

/-- What a callback is told concludes its call, so nothing did before. -/
theorem not_spent (run : Session.Run options j s) {before : History} {x : Settlement}
    (told : before ++ [.tell (.settled x)] <+: j.history) :
    ¬ Spent j before.outputs x.callback.token := by
  obtain ⟨u, d⟩ := run.task.exists_deeds
  rintro (⟨e, refused⟩ | ⟨o, ho, concludes⟩)
  · have mem : .tell (.settled x) ∈ j.history :=
      told.subset (List.mem_append_right _ List.mem_cons_self)
    obtain ⟨n, method, params, asked⟩ := d.asked (List.mem_filterMap.2 ⟨_, mem, rfl⟩)
    rw [run.ticketed.own n method params _ asked] at refused
    have queued : n ∈ (s.orders j).map Prod.fst :=
      List.mem_map.2 ⟨_, List.mem_append_left _ asked, rfl⟩
    exact run.numbered.apart queued (List.mem_map_of_mem refused)
  · exact d.last run.ticketed told ho concludes

/-- A request that waits is that of the call whose number its callback carries. -/
theorem request_eq (run : Session.Run options j s) {before : History} {p : Pending}
    {method : String} {params : Json} (early : before <+: j.history) (waits : before.Waits p)
    (began : (p.callback.token, .call method params) ∈ j.began) :
    p.request = .new p.id method params := by
  obtain ⟨f, g, rfl, registers, -⟩ := waits.exists_registers
  obtain ⟨n, method', params', asked, is⟩ := registers.asked
  have asked : (n, .send method' params' (some p.callback)) ∈ j.history.commands := by
    obtain ⟨later, early⟩ := early
    rw [← early, History.commands_append, History.commands_append]
    exact List.mem_append_left _ (List.mem_append_left _ asked)
  rw [run.ticketed.own n method' params' _ asked] at began
  obtain ⟨call, began', command⟩ := run.numbered.ordered n _ (List.mem_append_left _ asked)
  have same : call = .call method params := congrArg Prod.snd
    (List.inj_on_of_nodup_map run.numbered.distinct began' began rfl)
  rw [same] at command
  injection command with sameMethod sameParams
  rw [sameMethod, sameParams] at is
  exact is

/-- Each call returns the response to its own request, and no other. -/
theorem returnsOwn (run : Session.Run options j s) : ReturnsOwn options j s := by
  obtain ⟨u, d⟩ := run.task.exists_deeds
  have answering : Answering options j.history := d.answering
  refine ⟨answering, fun n method params r began => ⟨fun finished => ?_, ?_⟩⟩
  · obtain ⟨x, told, outcome, rfl⟩ := run.kept.noted.told n r finished
    obtain ⟨before, after, split⟩ := List.append_of_mem (History.mem_of_mem_outputs told)
    have told : before ++ [.tell (.settled x)] <+: j.history := ⟨after, by simp [split]⟩
    -- Only a message makes the outcome a response.
    rcases answering.settled before x told with ⟨ms, m, routes⟩ | timedOut | ⟨reason, cancelled⟩
    · obtain ⟨p, r', is, waits, same, rfl⟩ := (answering.answered ms m before _ x routes).1 rfl
      cases outcome
      have early := (List.prefix_append _ _).trans told
      exact ⟨ms, m, before, p, routes, is, waits, same, rfl, run.request_eq early waits began⟩
    · rw [timedOut] at outcome
      cases outcome
    · rw [cancelled] at outcome
      cases outcome
  · rintro ⟨ms, m, before, p, routes, is, waits, same, rfl, request⟩
    have noted : before.outputs ++ [.settled (p.settle (.answered r))] <+: j.history.outputs := by
      obtain ⟨after, whole⟩ := routes.told
      refine ⟨History.outputs after, ?_⟩
      rw [← whole, History.outputs_append, History.outputs_append]
      rfl
    rcases run.kept.noted.answered _ _ r method params noted rfl began with done | spent
    · exact done
    · exact (run.not_spent routes.told spent).elim

end Run

/-! ### A call that is answered -/

/-- A call is made, its request is written, and its response is read. -/
theorem Run.returnsOwn_answered : ∃ j s, Session.Run (sampleOptions 64) j s ∧
    (1, .call "ping" .null) ∈ j.began ∧
    (1, .answered (.success 1 (.string "pong"))) ∈ s.finished ∧
    ReturnsOwn (sampleOptions 64) j s := by
  obtain ⟨j, connected, -⟩ := Run.ready (sampleOptions 64) (by decide) rfl
  have queued := connected.queue (.call "ping" .null) rfl rfl rfl (hasRoom_of_empty rfl)
  have writing := queued.step
    (.serve (x := .command 1 (.send "ping" .null (some { token := 1 }))) rfl (.take trivial))
  have written := writing.step
    (.answer (l := .write sampleChannel.inbox (Frame.encode (Request.new 1 "ping" .null).document))
      (a := ⟨0, .ok ()⟩) rfl (.answer _))
  have reading := written.step
    (.serve (x := .poll (.signal [0, 0, 0, 1])) rfl (.take ⟨rfl, rfl⟩))
  have answered := reading.step
    (.answer (l := .read sampleChannel.inbox)
      (a := ⟨0, .ok (Frame.encode (Response.success 1 (.string "pong")).document)⟩) rfl (.answer _))
  refine ⟨_, _, answered, ?_, by decide +kernel, answered.returnsOwn⟩
  refine Journal.mem_began_append (Journal.mem_began_append (Journal.mem_began_append
    (Journal.mem_began_append ?_)))
  rw [Journal.began_append]
  exact List.mem_append_right _ List.mem_cons_self

end Session

end GattRpc
