import GattRpc.Proofs.Connection.LinkCalls
import GattRpc.Proofs.Connection.Snapshot

/-! # One stimulus at a time

A task that takes a stimulus was idle before, and all that it does until it takes the next one it
does on this one (`Connection.Run.turn`). If the link has still to answer a call, or the task has
crashed, then it has spared requests and bytes so far. -/

namespace GattRpc

/-- The task is made to go on. -/
def Act.Prompts : Act → Prop
  | take _ | answer _ _ => True
  | call _ | tell _ => False

namespace Progress

variable {α : Type} {p q : Progress α} {h h' : History}

/-- The calls of `h` are answered, and `q` is left to be done. -/
inductive Reaches : Progress α → History → Progress α → Prop
  | here {p : Progress α} : Reaches p [] p
  | answered {c : Connection} {out : List Output} {l : LinkCall}
    {resume : LinkAnswer l → Progress α} {h : History} {q : Progress α} (a : LinkAnswer l)
    (rest : Reaches (resume a) h q) :
    Reaches (.waiting c out l resume) (out.map .tell ++ .call l :: .answer l a :: h) q

namespace Reaches

theorem answer {c : Connection} {out : List Output} {l : LinkCall}
    {resume : LinkAnswer l → Progress α} (r : p.Reaches h (.waiting c out l resume))
    (a : LinkAnswer l) : p.Reaches (h ++ (out.map .tell ++ [.call l, .answer l a])) (resume a) := by
  generalize left : Progress.waiting c out l resume = q at r
  induction r with
  | here =>
    subst left
    exact .answered a .here
  | answered b rest ih => simpa using answered b (ih left)

theorem ends {a : α} {c : Connection} {out : List Output} (r : p.Reaches h (.done a c out)) :
    p.Ends (h ++ out.map .tell) a c := by
  generalize left : Progress.done a c out = q at r
  induction r with
  | here =>
    subst left
    exact .done
  | answered b rest ih => simpa using Ends.waiting b (ih left)

/-- What is guaranteed is so at any point that is reached. -/
theorem guarantees {K : Pausing} {post : α → History → Connection → Prop} (r : p.Reaches h' q)
    (g : p.Guarantees K post h) : q.Guarantees K post (h ++ h') := by
  induction r generalizing h with
  | here => rwa [List.append_nil]
  | answered b rest ih => simpa using ih (g.2 b)

end Reaches

theorem not_prompts {p : Progress Unit} : ∀ a ∈ p.acts, ¬ a.Prompts := by
  have told (out : List Output) : ∀ a ∈ out.map Act.tell, ¬ a.Prompts := by
    simp [Act.Prompts]
  cases p with
  | done v c out | crashed c out => exact told out
  | waiting c out l resume =>
    exact List.forall_mem_append.2 ⟨told out, List.forall_mem_singleton.2 id⟩

theorem take_not_mem_acts {p : Progress Unit} {x : Stimulus} : .take x ∉ p.acts :=
  fun taken => not_prompts _ taken trivial

end Progress

/-- A command to send. -/
def Stimulus.Sends : Stimulus → Prop
  | command _ (.send _ _ _) => True
  | command _ _ | clientsGone | linkLost | poll _ | sweep _ => False

namespace Standing

variable {t t' : Standing} {x : Stimulus} {g rest : History}

/-- A stimulus is the first thing in a step, and the task was idle before. -/
theorem Step.take_first (step : t.Step (g ++ .take x :: rest) t') :
    g = [] ∧ ∃ c, t = .idle c ∧ c.Awaits x ∧ rest = (Connection.handle x c).acts ∧
      t' = (Connection.handle x c).standing.after x := by
  generalize acts : g ++ .take x :: rest = done at step
  have later {b : Act} {p : Progress Unit} (is : g ++ .take x :: rest = b :: p.acts) : g = [] := by
    cases g with
    | nil => rfl
    | cons b' g =>
      have taken : .take x ∈ p.acts := by
        rw [← (List.cons.inj is).2]
        exact List.mem_append_right _ List.mem_cons_self
      exact (Progress.take_not_mem_acts taken).elim
  cases step with
  | @take c y awaits =>
    obtain rfl := later acts
    cases acts
    exact ⟨rfl, c, rfl, awaits, rfl, rfl⟩
  | answer a =>
    obtain rfl := later acts
    cases acts

end Standing

namespace Standing.Step

variable {t t' t'' : Standing} {a : Act} {acts acts' : History}

theorem prompted (step : t.Step acts t') :
    ∃ a rest, acts = a :: rest ∧ a.Prompts ∧ ∀ b ∈ rest, ¬ b.Prompts := by
  cases step with
  | take => exact ⟨_, _, rfl, trivial, Progress.not_prompts⟩
  | answer => exact ⟨_, _, rfl, trivial, Progress.not_prompts⟩

/-- What prompts a task determines what it does. -/
theorem determined (step : t.Step (a :: acts) t') (step' : t.Step (a :: acts') t'') :
    acts = acts' ∧ t' = t'' := by
  cases step with
  | take =>
    cases step'
    exact ⟨rfl, rfl⟩
  | answer =>
    cases step'
    exact ⟨rfl, rfl⟩

end Standing.Step

theorem History.eq_of_prompts {g g' rest rest' : History} {a a' : Act}
    (is : g ++ a :: rest = g' ++ a' :: rest') (prompts : a.Prompts) (prompts' : a'.Prompts)
    (last : ∀ b ∈ rest, ¬ b.Prompts) (last' : ∀ b ∈ rest', ¬ b.Prompts) :
    g = g' ∧ a = a' ∧ rest = rest' := by
  rcases List.append_eq_append_iff.1 is with ⟨as, rfl, split⟩ | ⟨as, rfl, split⟩
  · cases as with
    | nil =>
      cases split
      exact ⟨(List.append_nil _).symm, rfl, rfl⟩
    | cons b as =>
      cases split
      exact (last a' (List.mem_append_right _ List.mem_cons_self) prompts').elim
  · cases as with
    | nil =>
      cases split
      exact ⟨List.append_nil _, rfl, rfl⟩
    | cons b as =>
      cases split
      exact (last' a (List.mem_append_right _ List.mem_cons_self) prompts).elim

theorem History.exists_last_take {h : History} (started : h ≠ [])
    (head : ∀ a ∈ h.head?, ∃ x, a = .take x) :
    ∃ g x part, h = g ++ .take x :: part ∧ ∀ y, .take y ∉ part := by
  induction h using List.reverseRecOn with
  | nil => exact (started rfl).elim
  | append_singleton h a ih =>
    by_cases taken : ∃ x, a = .take x
    · obtain ⟨x, rfl⟩ := taken
      exact ⟨h, x, [], rfl, fun _ => List.not_mem_nil⟩
    · cases h with
      | nil => exact (taken (head a rfl)).elim
      | cons b h =>
        obtain ⟨g, x, part, is, untaken⟩ := ih (List.cons_ne_nil b h) head
        refine ⟨g, x, part ++ [a], by rw [is]; simp, fun y hy => ?_⟩
        rcases List.mem_append.1 hy with hy | hy
        · exact untaken y hy
        · exact taken ⟨y, (List.mem_singleton.1 hy).symm⟩

theorem History.exists_first_take (h : History) :
    (∀ y, .take y ∉ h) ∨ ∃ own y later, h = own ++ .take y :: later ∧ ∀ z, .take z ∉ own := by
  induction h with
  | nil => exact .inl fun _ => List.not_mem_nil
  | cons a h ih =>
    by_cases taken : ∃ x, a = .take x
    · obtain ⟨x, rfl⟩ := taken
      exact .inr ⟨[], x, h, rfl, fun _ => List.not_mem_nil⟩
    · have other (y : Stimulus) : .take y ≠ a := fun is => taken ⟨y, is.symm⟩
      rcases ih with untaken | ⟨own, y, later, rfl, untaken⟩
      · exact .inl fun y hy => (List.mem_cons.1 hy).elim (other y) (untaken y)
      · exact .inr ⟨a :: own, y, later, rfl, fun z hz =>
          (List.mem_cons.1 hz).elim (other z) (untaken z)⟩

namespace Connection

open Activity

variable {options : Options} {c c' c₀ : Connection} {g h part rest : History} {x : Stimulus}
  {t t' : Standing}

/-! ### What a reaction has done when it pauses -/

/-- Since `g`, when the connection was `c₀`, requests and bytes were spared, and no frame was
written on a stimulus that is not to send. -/
def Unmoved (x : Stimulus) (g : History) (c₀ : Connection) (h : History) (c : Connection) : Prop :=
  ∃ part, h = g ++ part ∧ c₀.Spares part c ∧ (¬ x.Sends → part.frames = [])

/-- A reaction pauses, or crashes because it is to poll without a pause, before it has done anything
with requests or bytes. -/
def Hesitates (x : Stimulus) (g : History) (c₀ : Connection) : Pausing := fun l h c =>
  Unmoved x g c₀ h c ∧ (l = none → c₀.options.pollMode = .interval 0)

/-- How a request to send begins. -/
inductive BeginsToSend (c : Connection) (method : String) (params : Json) : History → Prop
  | writing {ch : Characteristic} {request : Request} (state : c.state = .ready)
    (is : request = .new c.correlator.nextId method params) :
    c.BeginsToSend method params [.call (.write ch (Frame.encode request.document))]
  | failing {ch : Characteristic} {request : Request} {e : LinkError} (state : c.state = .ready)
    (is : request = .new c.correlator.nextId method params)
    (a : LinkAnswer (.write ch (Frame.encode request.document))) (result : a.result = .error e)
    (fatal : e.isFatal = true) :
    c.BeginsToSend method params
      [.call (.write ch (Frame.encode request.document)), .answer _ a,
        .tell (.shown (c.prepared.blame e).status), .call .disconnect]

section Guarantees

variable {α β : Type} {K : Pausing} {reason : CloseReason} {e : LinkError}

/-- An activity goes on whatever it has come to. -/
theorem guarantees_then {y : Activity α} {f : α → Activity β}
    (first : y.Guarantees K (fun _ _ _ => True) h c)
    (next : ∀ a h c, (f a).Guarantees K (fun _ _ _ => True) h c) :
    (y >>= f).Guarantees K (fun _ _ _ => True) h c :=
  first.bind fun a h c _ => next a h c

/-- To close calls the link at most once, to disconnect it. -/
theorem guarantees_shutdown (hangUp : c.state ≠ .disconnected → c.state ≠ .closed →
    K (some .disconnect) (h ++ [.call .disconnect]) c.detached) :
    (shutdown reason).Guarantees K (fun _ _ _ => True) h c := by
  have closing {h : History} {c : Connection} :
      Guarantees K (fun _ _ _ => True)
        (do releaseAll reason; transition .closed; emit (.closed reason)) h c := by
    simp only [releaseAll, transition, emit, bind_assoc, guarantees_get_bind,
      guarantees_modify_bind, guarantees_report_bind, guarantees_tell_bind, guarantees_tell]
  refine guarantees_get_bind.2 ?_
  split
  next => exact guarantees_pure.2 trivial
  next unclosed =>
    refine guarantees_modify_bind.2 ?_
    split
    next tried => exact guarantees_call_bind.2 ⟨hangUp tried unclosed, fun _ => closing⟩
    next => exact closing

theorem guarantees_noteLinkError (hangUp : e.isFatal = true → c.state ≠ .disconnected →
    c.state ≠ .closed → K (some .disconnect)
      (h ++ [.tell (.shown (c.blame e).status), .call .disconnect]) (c.blame e).detached) :
    (noteLinkError e).Guarantees K (fun _ _ _ => True) h c := by
  refine guarantees_report_bind.2 ?_
  split
  next fatal =>
    refine guarantees_shutdown fun tried unclosed => ?_
    rw [List.append_assoc]
    exact hangUp fatal tried unclosed
  next => exact guarantees_pure.2 trivial

theorem guarantees_drop {ds : List Callback} {a : α} :
    Guarantees K (fun _ _ _ => True) (do tell (ds.map .discarded); return a) h c :=
  guarantees_tell_bind.2 (guarantees_pure.2 trivial)

end Guarantees

namespace Unmoved

variable {K : Pausing} {α : Type} {reason : CloseReason} {e : LinkError}

theorem refl : Unmoved x h c h c :=
  ⟨[], (List.append_nil h).symm, { neutral := List.forall_mem_nil _ }, fun _ => rfl⟩

theorem spares (k : Unmoved x g c₀ h c) (s : c.Spares part c')
    (unwritten : ¬ x.Sends → part.frames = []) : Unmoved x g c₀ (h ++ part) c' := by
  obtain ⟨earlier, rfl, spared, before⟩ := k
  refine ⟨earlier ++ part, List.append_assoc .., spared.trans s, fun other => ?_⟩
  rw [History.frames_append, before other, unwritten other]
  rfl

theorem silent (k : Unmoved x g c₀ h c) (s : c.Spares [] c') : Unmoved x g c₀ h c' := by
  simpa using k.spares s fun _ => rfl

theorem calls {l : LinkCall} (k : Unmoved x g c₀ h c) (unwritten : History.frames [.call l] = []) :
    Hesitates x g c₀ (some l) (h ++ [.call l]) c :=
  ⟨k.spares (.call unwritten) fun _ => unwritten, nofun⟩

theorem blame (k : Unmoved x g c₀ h c) :
    Unmoved x g c₀ (h ++ [.tell (.shown (c.blame e).status)]) (c.blame e) :=
  k.spares (.shows { neutral := List.forall_mem_nil _ }) fun _ => rfl

theorem shutdown (k : Unmoved x g c₀ h c) :
    (shutdown reason).Guarantees (Hesitates x g c₀) (fun _ _ _ => True) h c := by
  refine guarantees_shutdown fun _ _ => ?_
  have k : Unmoved x g c₀ h c.detached := k.silent { neutral := List.forall_mem_nil _ }
  exact k.calls rfl

theorem noteLinkError (k : Unmoved x g c₀ h c) :
    (noteLinkError e).Guarantees (Hesitates x g c₀) (fun _ _ _ => True) h c := by
  refine guarantees_noteLinkError fun _ _ _ => ?_
  have k : Unmoved x g c₀ _ (c.blame e).detached :=
    k.blame.silent { neutral := List.forall_mem_nil _ }
  rw [List.append_cons]
  exact k.calls rfl

theorem failConnecting_bind (k : Unmoved x g c₀ h c) :
    (failConnecting e >>= fun r => pure (.error r : Except RpcError Unit)).Guarantees
      (Hesitates x g c₀) (fun _ _ _ => True) h c := by
  have failed : (failConnecting e).Guarantees (Hesitates x g c₀) (fun _ _ _ => True) h c :=
    guarantees_report_bind.2 (k.blame.shutdown.bind fun _ _ _ _ => guarantees_pure.2 trivial)
  exact failed.bind fun _ _ _ _ => guarantees_pure.2 trivial

theorem linked (k : Unmoved x g c₀ h c) (peer : String) (connecting : c.state = .connecting) :
    Unmoved x g c₀
      (h ++ [.tell (.shown { c.status with peer := some peer })] ++
        [.tell (.shown (c.linked peer).status), .tell (.event (.stateChanged .discovering))])
      (c.linked peer) :=
  (k.spares (.peer peer) fun _ => rfl).spares
    (.enters .connecting .discovering connecting (by decide)) fun _ => rfl

theorem startPolling {channel : Channel} (k : Unmoved x g c₀ h c) :
    (startPolling channel).Guarantees (Hesitates x g c₀) (fun _ => Unmoved x g c₀) h c := by
  refine guarantees_get_bind.2 ?_
  split
  next =>
    refine guarantees_call_bind.2 ⟨k.calls rfl, fun a => guarantees_pure.2 ?_⟩
    exact k.spares (.exchange rfl trivial) fun _ => rfl
  next zero =>
    refine guarantees_crash.2 ⟨k, fun _ => ?_⟩
    obtain ⟨part, -, spared, -⟩ := k
    rw [← spared.options]
    exact zero
  next => exact guarantees_pure.2 k

theorem establish (k : Unmoved x g c₀ h c) :
    establish.Guarantees (Hesitates x g c₀) (fun _ _ _ => True) h c := by
  refine guarantees_get_bind.2 ?_
  split
  next => exact guarantees_pure.2 trivial
  next untried =>
    have k : Unmoved x g c₀ _ (c.enter .connecting) :=
      k.spares (.enters .disconnected .connecting untried (by decide)) fun _ => rfl
    refine guarantees_transition_bind.2 (guarantees_call_bind.2 ⟨k.calls rfl, fun a => ?_⟩)
    have k := k.spares (.exchange (a := a) rfl trivial) fun _ => rfl
    split
    next => exact k.failConnecting_bind
    next peer connected =>
      have k := k.linked peer rfl
      refine guarantees_modify_bind.2 (guarantees_report_bind.2 (guarantees_transition_bind.2 ?_))
      refine guarantees_call_bind.2 ⟨k.calls rfl, fun a' => ?_⟩
      have k := k.spares (.exchange (a := a') rfl trivial) fun _ => rfl
      split
      next => exact k.failConnecting_bind
      next services found =>
        split
        next =>
          refine guarantees_report_bind.2 ?_
          exact k.blame.shutdown.bind fun _ _ _ _ => guarantees_pure.2 trivial
        next channel usable =>
          refine k.startPolling.bind fun r h c' k => ?_
          cases r with
          | error e => exact k.failConnecting_bind
          | ok =>
            exact guarantees_modify_bind.2 (guarantees_transition_bind.2 (guarantees_pure.2 trivial))
  next => exact guarantees_pure.2 trivial

theorem send {method : String} {params : Json} {callback : Option Callback}
    (k : Unmoved x g c₀ h c) (sends : x.Sends) :
    (send method params callback).Guarantees (Hesitates x g c₀) (fun _ _ _ => True) h c := by
  refine guarantees_get_bind.2 ?_
  split
  next channel _ state =>
    have k := k.spares (.write channel.inbox
      (Frame.encode (Request.new c.correlator.nextId method params).document))
      fun other => (other sends).elim
    refine guarantees_modify_bind.2 (guarantees_call_bind.2 ⟨⟨k, nofun⟩, fun a => ?_⟩)
    split
    next e result =>
      have k := k.spares (.answer (a := a) ⟨e, result⟩) fun _ => rfl
      rw [List.append_assoc] at k
      exact k.noteLinkError.bind fun _ _ _ _ => guarantees_drop
    next =>
      simp only [guarantees_get_bind, guarantees_modify_bind, guarantees_tell_bind,
        guarantees_bind_of_done reportOutstanding_eq]
      exact guarantees_pure.2 trivial
  next => exact guarantees_drop

theorem signal {channel : Channel} {payload : List UInt8} (k : Unmoved x g c₀ h c) :
    (signal channel payload).Guarantees (Hesitates x g c₀) (fun _ _ _ => True) h c := by
  refine guarantees_modify_bind.2 ?_
  have k : Unmoved x g c₀ h (c.counted payload) := k.silent { neutral := List.forall_mem_nil _ }
  split
  next =>
    refine guarantees_call_bind.2 ⟨k.calls rfl, fun a => ?_⟩
    split
    next =>
      simp only [receive, guarantees_get_bind, guarantees_modify_bind, guarantees_tell_bind]
      exact guarantees_routeAll.bind fun _ _ _ _ => guarantees_of_done reportOutstanding_eq trivial
    next e result =>
      exact (k.spares (.exchange (a := a) rfl fun _ => ⟨e, result⟩) fun _ => rfl).noteLinkError
  next => exact guarantees_pure.2 trivial

theorem poll {channel : Channel} {tick : PollTick} (k : Unmoved x g c₀ h c)
    (apart : channel.pollSignal.uuid ≠ inboxUuid) :
    (poll channel tick).Guarantees (Hesitates x g c₀) (fun _ _ _ => True) h c := by
  cases tick with
  | signal payload => exact k.signal
  | due =>
    refine guarantees_call_bind.2 ⟨k.calls rfl, fun a => ?_⟩
    have k := k.spares (.exchange (a := a) rfl fun same => (apart same).elim) fun _ => rfl
    split
    next => exact k.signal
    next => exact k.noteLinkError
  | ended => exact k.shutdown

end Unmoved

theorem Resting.hesitates (r : Resting options h c) (awaits : c.Awaits x) :
    (Connection.handle x).Guarantees (Hesitates x (h ++ [.take x]) c) (fun _ _ _ => True)
      (h ++ [.take x]) c := by
  have k : Unmoved x (h ++ [.take x]) c (h ++ [.take x]) c := .refl
  refine guarantees_then ?_ fun _ _ _ => guarantees_modify.2 trivial
  refine guarantees_get_bind.2 ?_
  cases x with
  | command n cmd =>
    cases cmd with
    | connect => exact k.establish.bind fun _ _ _ _ => guarantees_tell.2 trivial
    | send => exact (k.send trivial).bind fun _ _ _ _ => guarantees_tell.2 trivial
    | close => exact k.shutdown.bind fun _ _ _ _ => guarantees_tell.2 trivial
  | clientsGone => exact k.shutdown
  | linkLost =>
    simp only [show c.watching = true from awaits, if_true]
    exact k.shutdown
  | poll tick =>
    cases inUse : c.channel with
    | some channel =>
      have stage := r.steady.stage
      rw [inUse] at stage
      refine k.poll ?_
      rw [(uuids_of_stage stage).2]
      decide
    | none => exact guarantees_pure.2 trivial
  | sweep now =>
    simp only [show c.sweeping = true from awaits, if_true]
    refine guarantees_get_bind.2 ?_
    split
    next => exact guarantees_pure.2 trivial
    next =>
      refine guarantees_modify_bind.2 (guarantees_tell_bind.2 ?_)
      split
      next => exact guarantees_pure.2 trivial
      next => exact guarantees_of_done reportOutstanding_eq trivial

/-- A send that pauses has written its frame, and it may be closing because that failed. -/
theorem guarantees_send {n : Nat} {method : String} {params : Json} {callback : Option Callback} :
    (handle (.command n (.send method params callback))).Guarantees
      (fun _ h' _ => ∃ part, h' = h ++ part ∧ c.BeginsToSend method params part)
      (fun _ _ _ => True) h c := by
  refine guarantees_then ?_ fun _ _ _ => guarantees_modify.2 trivial
  refine guarantees_get_bind.2 ?_
  refine guarantees_then ?_ fun _ _ _ => guarantees_tell.2 trivial
  refine guarantees_get_bind.2 ?_
  split
  next channel _ state =>
    refine guarantees_modify_bind.2 (guarantees_call_bind.2
      ⟨⟨_, rfl, .writing state rfl⟩, fun a => ?_⟩)
    split
    next e result =>
      refine guarantees_then ?_ fun _ _ _ => guarantees_drop
      refine guarantees_noteLinkError fun fatal _ _ => ?_
      exact ⟨_, List.append_assoc .., .failing state rfl a result fatal⟩
    next =>
      simp only [guarantees_get_bind, guarantees_modify_bind, guarantees_tell_bind,
        guarantees_bind_of_done reportOutstanding_eq]
      exact guarantees_pure.2 trivial
  next => exact guarantees_drop

/-! ### Turns -/

/-- A task has come so far since its connection took a stimulus. -/
inductive Turn (c : Connection) (x : Stimulus) : History → Standing → Prop
  | amid {h : History} {q : Progress Unit} {t : Standing} (reaches : (handle x c).Reaches h q)
    (stands : t = q.standing ∨ t = q.standing.after x) : c.Turn x (h ++ q.acts) t
  | past {own later : History} {y : Stimulus} {d : Connection} {t : Standing}
    (reacts : c.Reacts x own d) : c.Turn x (own ++ .take y :: later) t

/-- The reaction to a stimulus has not come to its end. -/
structure Pauses (c : Connection) (x : Stimulus) (part : History) (t : Standing) : Prop where
  stands : t.isCalling = true ∨ c.options.pollMode = .interval 0
  spares : c.Spares part t.connection
  unwritten : ¬ x.Sends → part.frames = []
  sending : ∀ n method params callback, x = .command n (.send method params callback) →
    c.BeginsToSend method params part

namespace Turn

theorem step {acts : History} (k : c.Turn x rest t) (awaits : c.Awaits x) (step : t.Step acts t') :
    c.Turn x (rest ++ acts) t' := by
  cases k with
  | past reacts =>
    rw [List.append_assoc, List.cons_append]
    exact .past reacts
  | @amid h q _ reaches stands =>
    cases q with
    | done u d out =>
      obtain ⟨d', reacts, -⟩ := reacts_of_ends awaits reaches.ends
      cases step with
      | take awaits' => exact .past reacts
      | answer a =>
        have calling := congrArg Standing.isCalling <| stands.resolve_right fun is => by
          cases x <;> cases is
        cases calling
    | waiting d out l resume =>
      obtain rfl : t = .calling d l resume := stands.elim id id
      cases step with
      | answer a =>
        have next := Turn.amid (x := x) (reaches.answer a) (.inl rfl)
        simpa [Progress.acts] using next
    | crashed d out =>
      obtain rfl : t = .ended d := stands.elim id id
      cases step

end Turn

namespace Run

theorem exists_turn (run : Run options h t) (is : h = g ++ .take x :: rest) :
    ∃ c, Run options g (.idle c) ∧ c.Awaits x ∧ c.Turn x rest t := by
  induction run generalizing rest with
  | start => simp at is
  | @step h acts t t' run step ih =>
    have now (as : History) (before : g = h ++ as) (taken : acts = as ++ .take x :: rest) :
        ∃ c, Run options g (.idle c) ∧ c.Awaits x ∧ c.Turn x rest t' := by
      subst taken
      obtain ⟨rfl, c, rfl, awaits, rfl, rfl⟩ := step.take_first
      rw [List.append_nil] at before
      subst before
      exact ⟨c, run, awaits, .amid .here (.inr rfl)⟩
    rcases List.append_eq_append_iff.1 is with ⟨as, before, taken⟩ | ⟨bs, before, taken⟩
    · exact now as before taken
    · cases bs with
      | nil => exact now [] (by simpa using before.symm) taken.symm
      | cons b bs =>
        cases taken
        obtain ⟨c, run, awaits, turn⟩ := ih before
        exact ⟨c, run, awaits, turn.step awaits step⟩

theorem eq_start (run : Run options h t) (none : h = []) : t = .idle (.new options) := by
  cases run with
  | start => rfl
  | step run step => cases step <;> simp at none

/-- Where a task stands is determined by what was done. -/
theorem unique (run : Run options h t) (run' : Run options h t') : t = t' := by
  induction run generalizing t' with
  | start => exact (run'.eq_start rfl).symm
  | @step h acts t t₁ run step ih =>
    obtain ⟨a, rest, rfl, prompts, last⟩ := step.prompted
    generalize is : h ++ a :: rest = k at run'
    cases run' with
    | start => simp at is
    | step run' step' =>
      obtain ⟨a', rest', rfl, prompts', last'⟩ := step'.prompted
      obtain ⟨rfl, rfl, rfl⟩ := History.eq_of_prompts is prompts prompts' last last'
      obtain rfl := ih run'
      exact (step.determined step').2

/-- A run that begins like another goes on from where that one stands. -/
theorem path_from {more : History} (whole : Run options (h ++ more) t') (run : Run options h t) :
    t.Path more t' := by
  generalize is : h ++ more = k at whole
  induction whole generalizing more with
  | start =>
    obtain ⟨rfl, rfl⟩ := List.append_eq_nil_iff.1 is
    obtain rfl := run.eq_start rfl
    exact .refl
  | @step k acts t₁ t₂ before step ih =>
    rcases List.append_eq_append_iff.1 is with ⟨as, rfl, rfl⟩ | ⟨as, rfl, rfl⟩
    · exact .step (ih rfl) step
    · obtain ⟨a, rest, same, prompts, last⟩ := step.prompted
      cases as with
      | nil =>
        rw [List.append_nil] at run
        obtain rfl := before.unique run
        exact .step .refl step
      | cons b as =>
        -- The other run has been prompted in the same way, so it has done all of this step.
        obtain ⟨rfl, rfl⟩ := List.cons.inj same
        generalize is : k ++ b :: as = h at run
        cases run with
        | start => simp at is
        | step run' step' =>
          obtain ⟨a', rest', rfl, prompts', last'⟩ := step'.prompted
          obtain ⟨rfl, rfl, rfl⟩ := History.eq_of_prompts is prompts prompts'
            (fun c hc => last c (List.mem_append_left _ hc)) last'
          obtain rfl := before.unique run'
          obtain ⟨all, rfl⟩ := step.determined step'
          obtain rfl : more = [] := by simpa using all
          exact .refl

/-- A task that is idle is at rest. -/
theorem at_rest (run : Run options h (.idle c)) : Resting options h c := run.performs

/-- A reaction has come to its end, or it pauses. -/
theorem amid {q : Progress Unit} (before : Run options g (.idle c)) (awaits : c.Awaits x)
    (reaches : (handle x c).Reaches h q) (stands : t = q.standing ∨ t = q.standing.after x) :
    (∃ d, c.Reacts x (h ++ q.acts) d ∧
      (t = .idle d.rested ∨ t = (Standing.idle d.rested).after x)) ∨
    c.Pauses x (h ++ q.acts) t := by
  have hesitates := reaches.guarantees (before.at_rest.hesitates awaits)
  have cut {l : Option LinkCall} {d : Connection} (waits : t.isCalling = true ∨ l = none)
      (connection : t.connection = d)
      (paused : Hesitates x (g ++ [.take x]) c l (g ++ [.take x] ++ (h ++ q.acts)) d)
      (sending : ∀ n method params callback, x = .command n (.send method params callback) →
        ∃ part, g ++ [.take x] ++ (h ++ q.acts) = g ++ [.take x] ++ part ∧
          c.BeginsToSend method params part) : c.Pauses x (h ++ q.acts) t := by
    obtain ⟨⟨part, same, spares, unwritten⟩, zero⟩ := paused
    obtain rfl := List.append_cancel_left same
    refine ⟨waits.imp id zero, connection ▸ spares, unwritten, ?_⟩
    intro n method params callback is
    obtain ⟨part, same, begins⟩ := sending n method params callback is
    rw [List.append_cancel_left same]
    exact begins
  cases q with
  | done u d out =>
    obtain ⟨d', reacts, rfl⟩ := reacts_of_ends awaits reaches.ends
    exact .inl ⟨d', reacts, stands⟩
  | waiting d out l resume =>
    obtain rfl : t = .calling d l resume := stands.elim id id
    have acts : g ++ [.take x] ++ (h ++ (Progress.waiting d out l resume).acts) =
        g ++ [.take x] ++ h ++ out.map .tell ++ [.call l] := by simp [Progress.acts]
    refine .inr (cut (l := some l) (d := d) (.inl rfl) rfl ?_ fun n method params cb is => ?_)
    · rw [acts]
      exact hesitates.1
    · subst is
      rw [acts]
      exact (reaches.guarantees guarantees_send).1
  | crashed d out =>
    obtain rfl : t = .ended d := stands.elim id id
    have acts : g ++ [.take x] ++ (h ++ (Progress.crashed (α := Unit) d out).acts) =
        g ++ [.take x] ++ h ++ out.map .tell := by simp [Progress.acts]
    refine .inr (cut (l := none) (d := d) (.inr rfl) rfl ?_ fun n method params cb is => ?_)
    · rw [acts]
      exact hesitates
    · subst is
      rw [acts]
      exact reaches.guarantees guarantees_send

/-- A task takes a stimulus when it is idle, and reacts to it before it takes the next one. -/
theorem turn (run : Run options (g ++ .take x :: rest) t) :
    ∃ c, Run options g (.idle c) ∧ c.Awaits x ∧
      ((∃ own later d, rest = own ++ later ∧ c.Reacts x own d ∧
        ∀ a ∈ later.head?, ∃ y, a = .take y) ∨ c.Pauses x rest t) := by
  obtain ⟨c, before, awaits, turn⟩ := run.exists_turn rfl
  refine ⟨c, before, awaits, ?_⟩
  cases turn with
  | @past own later y d _ reacts => exact .inl ⟨own, .take y :: later, d, rfl, reacts, by simp⟩
  | amid reaches stands =>
    rcases before.amid awaits reaches stands with ⟨d, reacts, -⟩ | paused
    · exact .inl ⟨_, [], d, (List.append_nil _).symm, reacts, fun _ first => by cases first⟩
    · exact .inr paused

/-- A command is carried out, after which a stimulus is awaited again, unless the link has still to
answer. -/
theorem carriedOut {n : Nat} {cmd : Command} (mode : options.pollMode ≠ .interval 0)
    (run : Run options (g ++ .take (.command n cmd) :: rest) t) :
    ∃ c, Run options g (.idle c) ∧
      ((∃ own later d, rest = own ++ later ∧ c.Reacts (.command n cmd) own d ∧
        Run options (g ++ .take (.command n cmd) :: own) (.idle d.rested)) ∨
      t.isCalling = true ∧ c.Pauses (.command n cmd) rest t) := by
  have halt {own : History} {t : Standing} (untaken : ∀ y, .take y ∉ own)
      (run : Run options (g ++ .take (.command n cmd) :: own) t) :
      ∃ c, Run options g (.idle c) ∧ ((∃ d, c.Reacts (.command n cmd) own d ∧
        t = .idle d.rested) ∨ t.isCalling = true ∧ c.Pauses (.command n cmd) own t) := by
    obtain ⟨c, before, awaits, turn⟩ := run.exists_turn rfl
    refine ⟨c, before, ?_⟩
    cases turn with
    | past reacts => exact (untaken _ (List.mem_append_right _ List.mem_cons_self)).elim
    | amid reaches stands =>
      rcases before.amid awaits reaches stands with ⟨d, reacts, stands⟩ | paused
      · exact .inl ⟨d, reacts, stands.elim id id⟩
      · refine .inr ⟨paused.stands.resolve_right ?_, paused⟩
        rw [before.at_rest.steady.configured]
        exact mode
  rcases rest.exists_first_take with untaken | ⟨own, y, later, rfl, untaken⟩
  · obtain ⟨c, before, ⟨d, reacts, rfl⟩ | paused⟩ := halt untaken run
    · exact ⟨c, before, .inl ⟨rest, [], d, (List.append_nil _).symm, reacts, run⟩⟩
    · exact ⟨c, before, .inr paused⟩
  · rw [← List.cons_append, ← List.append_assoc] at run
    obtain ⟨c', idle, -⟩ := run.exists_turn rfl
    obtain ⟨c, before, ⟨d, reacts, stands⟩ | ⟨calling, -⟩⟩ := halt untaken idle
    · exact ⟨c, before, .inl ⟨own, _, d, rfl, reacts, stands ▸ idle⟩⟩
    · cases calling

/-- What a task does begins with a stimulus. -/
theorem head (run : Run options h t) : ∀ a ∈ h.head?, ∃ x, a = .take x := by
  induction run with
  | start => exact fun _ first => by cases first
  | @step h acts t t' run step ih =>
    cases h with
    | nil =>
      rw [run.eq_start rfl] at step
      cases step with
      | take awaits => exact fun a ha => ⟨_, (Option.some.inj ha).symm⟩
    | cons a h => exact ih

/-- What holds at the start and is kept by each turn, finished or not, holds along a run. -/
theorem by_turns {P : History → Prop} (start : P [])
    (turn : ∀ {g rest : History} {c : Connection} {x : Stimulus}, P g → Run options g (.idle c) →
      c.Awaits x → ((∃ d, c.Reacts x rest d) ∨ ∃ t, c.Pauses x rest t) → P (g ++ .take x :: rest))
    (run : Run options h t) : P h := by
  induction length : h.length using Nat.strong_induction_on generalizing h t with
  | _ n ih =>
    by_cases none : h = []
    · rwa [none]
    · obtain ⟨g, x, rest, rfl, untaken⟩ := History.exists_last_take none run.head
      obtain ⟨c, before, awaits, finished⟩ := run.turn
      have shorter : g.length < n := by
        rw [← length, List.length_append, List.length_cons]
        omega
      refine turn (ih _ shorter before rfl) before awaits ?_
      rcases finished with ⟨own, later, d, rfl, reacts, next⟩ | paused
      · cases later with
        | nil =>
          rw [List.append_nil]
          exact .inl ⟨d, reacts⟩
        | cons a later =>
          obtain ⟨y, rfl⟩ := next a rfl
          exact (untaken y (List.mem_append_right _ List.mem_cons_self)).elim
      · exact .inr ⟨t, paused⟩

/-- All that is told is told in a turn. If the turn is not over, it has to do neither with requests
nor with bytes. -/
theorem told {before after : History} {o : Output}
    (run : Run options (before ++ .tell o :: after) t) :
    ∃ g x c part, before = g ++ .take x :: part ∧ Run options g (.idle c) ∧ c.Awaits x ∧
      ((∃ more later d, after = more ++ later ∧ c.Reacts x (part ++ .tell o :: more) d ∧
        ∀ a ∈ later.head?, ∃ y, a = .take y) ∨ (Act.tell o).Neutral) := by
  have started : before ≠ [] := by
    rintro rfl
    obtain ⟨x, is⟩ := run.head _ rfl
    cases is
  have head : ∀ a ∈ before.head?, ∃ x, a = .take x := by
    intro a ha
    refine run.head a ?_
    rw [List.head?_append, ha]
    rfl
  obtain ⟨g, x, part, rfl, untaken⟩ := History.exists_last_take started head
  rw [List.append_assoc, List.cons_append] at run
  obtain ⟨c, before, awaits, ⟨own, later, d, split, reacts, next⟩ | paused⟩ := run.turn
  · refine ⟨g, x, c, part, rfl, before, awaits, .inl ?_⟩
    rcases List.append_eq_append_iff.1 split with ⟨more, own_eq, rest⟩ | ⟨more, part_eq, rest⟩
    · cases more with
      | nil =>
        have rest : later = .tell o :: after := rest.symm
        obtain ⟨y, is⟩ := next (.tell o) (by rw [rest]; rfl)
        cases is
      | cons a more =>
        cases rest
        exact ⟨more, later, d, rfl, own_eq ▸ reacts, next⟩
    · cases more with
      | nil =>
        have rest : later = .tell o :: after := rest
        obtain ⟨y, is⟩ := next (.tell o) (by rw [rest]; rfl)
        cases is
      | cons a more =>
        obtain ⟨y, rfl⟩ := next a (by rw [rest]; rfl)
        refine (untaken y ?_).elim
        rw [part_eq]
        exact List.mem_append_right _ List.mem_cons_self
  · refine ⟨g, x, c, part, rfl, before, awaits, .inr ?_⟩
    exact paused.spares.neutral _ (List.mem_append_right _ List.mem_cons_self)

end Run

end Connection

end GattRpc
