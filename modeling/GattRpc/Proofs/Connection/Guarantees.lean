import GattRpc.Proofs.Connection.Runs

/-! # What an activity guarantees

`x.Guarantees K post h c`: begun in `c` after `h`, whatever the link answers, `K` holds of the
history and the connection at each call that `x` makes and where it crashes, and `post` holds at its
end. A task whose reactions guarantee this keeps it along every run (`Connection.Run.keeps`), also
one that crashes. -/

namespace GattRpc

/-- What is to hold where an activity pauses: at a call, or where it crashes for want of one. -/
abbrev Pausing := Option LinkCall → History → Connection → Prop

namespace Progress

variable {α β : Type} {K : Pausing} {post post' : α → History → Connection → Prop}

def Guarantees (K : Pausing) (post : α → History → Connection → Prop) : History → Progress α → Prop
  | h, done a c out => post a (h ++ out.map .tell) c
  | h, waiting c out l resume =>
    K (some l) (h ++ out.map .tell ++ [.call l]) c ∧
      ∀ answer,
        (resume answer).Guarantees K post (h ++ out.map .tell ++ [.call l, .answer l answer])
  | h, crashed c out => K none (h ++ out.map .tell) c

theorem guarantees_after {p : Progress α} {out : List Output} {h : History} :
    (p.after out).Guarantees K post h ↔ p.Guarantees K post (h ++ out.map .tell) := by
  cases p <;> simp [after, Guarantees]

theorem guarantees_bind {p : Progress α} {f : α → Connection → Progress β} {h : History}
    {post : β → History → Connection → Prop} :
    (p.bind f).Guarantees K post h ↔
      p.Guarantees K (fun a h c => (f a c).Guarantees K post h) h := by
  induction p generalizing h with
  | done a c out => exact guarantees_after
  | waiting c out l resume ih => simp only [Progress.bind, Guarantees, ih]
  | crashed => exact Iff.rfl

theorem Guarantees.mono {p : Progress α} {h : History} (g : p.Guarantees K post h)
    (weaker : ∀ a h c, post a h c → post' a h c) : p.Guarantees K post' h := by
  induction p generalizing h with
  | done a c out => exact weaker _ _ _ g
  | waiting c out l resume ih => exact ⟨g.1, fun answer => ih answer (g.2 answer)⟩
  | crashed => exact g

/-- What holds at the end may be concluded from what is known of every end. -/
theorem Guarantees.at_ends {p : Progress α} {h : History} (g : p.Guarantees K post h)
    (known : ∀ h' a c, p.Ends h' a c → post a (h ++ h') c → post' a (h ++ h') c) :
    p.Guarantees K post' h := by
  induction p generalizing h with
  | done a c out => exact known _ _ _ .done g
  | waiting c out l resume ih =>
    refine ⟨g.1, fun answer => ih answer (g.2 answer) fun h' a c ends => ?_⟩
    simpa using known _ _ _ (.waiting answer ends)
  | crashed => exact g

end Progress

namespace Activity

variable {α β : Type} {K : Pausing} {post : α → History → Connection → Prop}
  {c : Connection} {h : History}

def Guarantees (K : Pausing) (post : α → History → Connection → Prop) (x : Activity α)
    (h : History) (c : Connection) : Prop :=
  (x c).Guarantees K post h

theorem guarantees_pure {a : α} : Guarantees K post (pure a) h c ↔ post a h c := by
  rw [Guarantees, show (pure a : Activity α) c = .done a c [] from rfl, Progress.Guarantees,
    List.map_nil, List.append_nil]

theorem guarantees_crash : Guarantees K post crash h c ↔ K none h c := by
  rw [Guarantees, show (crash : Activity α) c = .crashed c [] from rfl, Progress.Guarantees,
    List.map_nil, List.append_nil]

theorem guarantees_bind {x : Activity α} {f : α → Activity β}
    {post : β → History → Connection → Prop} :
    (x >>= f).Guarantees K post h c ↔ x.Guarantees K (fun a => (f a).Guarantees K post) h c :=
  Progress.guarantees_bind

/-- What is done without a call. -/
theorem guarantees_of_done {x : Activity α} {a : α} {c' : Connection} {out : List Output}
    (done : x c = .done a c' out) (holds : post a (h ++ out.map .tell) c') :
    x.Guarantees K post h c := by
  rw [Guarantees, done]
  exact holds

theorem guarantees_bind_of_done {x : Activity α} {f : α → Activity β} {a : α} {c' : Connection}
    {out : List Output} {post : β → History → Connection → Prop} (done : x c = .done a c' out) :
    (x >>= f).Guarantees K post h c ↔ (f a).Guarantees K post (h ++ out.map .tell) c' := by
  rw [guarantees_bind, Guarantees, done]
  exact Iff.rfl

theorem guarantees_modify {g : Connection → Connection}
    {post : Unit → History → Connection → Prop} :
    (modify g).Guarantees K post h c ↔ post () h (g c) := by
  rw [Guarantees, show modify g c = .done () (g c) [] from rfl, Progress.Guarantees,
    List.map_nil, List.append_nil]

theorem guarantees_report {g : LinkStatus → LinkStatus}
    {post : Unit → History → Connection → Prop} :
    (report g).Guarantees K post h c ↔
      post () (h ++ [.tell (.shown (g c.status))]) { c with status := g c.status } := Iff.rfl

theorem guarantees_tell {out : List Output} {post : Unit → History → Connection → Prop} :
    (tell out).Guarantees K post h c ↔ post () (h ++ out.map .tell) c := Iff.rfl

theorem guarantees_call {l : LinkCall} {post : LinkAnswer l → History → Connection → Prop} :
    (call l).Guarantees K post h c ↔
      K (some l) (h ++ [.call l]) c ∧ ∀ a, post a (h ++ [.call l, .answer l a]) c := by
  simp [Guarantees, call, Progress.Guarantees]

theorem guarantees_get_bind {f : Connection → Activity α} :
    (get >>= f).Guarantees K post h c ↔ (f c).Guarantees K post h c := by
  rw [guarantees_bind, Guarantees, show get c = .done c c [] from rfl, Progress.Guarantees,
    List.map_nil, List.append_nil]

theorem guarantees_modify_bind {g : Connection → Connection} {f : Unit → Activity α} :
    (modify g >>= f).Guarantees K post h c ↔ (f ()).Guarantees K post h (g c) := by
  rw [guarantees_bind, guarantees_modify]

theorem guarantees_report_bind {g : LinkStatus → LinkStatus} {f : Unit → Activity α} :
    (report g >>= f).Guarantees K post h c ↔
      (f ()).Guarantees K post (h ++ [.tell (.shown (g c.status))])
        { c with status := g c.status } := by
  rw [guarantees_bind, guarantees_report]

theorem guarantees_tell_bind {out : List Output} {f : Unit → Activity α} :
    (tell out >>= f).Guarantees K post h c ↔ (f ()).Guarantees K post (h ++ out.map .tell) c := by
  rw [guarantees_bind, guarantees_tell]

theorem guarantees_call_bind {l : LinkCall} {f : LinkAnswer l → Activity α} :
    (call l >>= f).Guarantees K post h c ↔
      K (some l) (h ++ [.call l]) c ∧
        ∀ a, (f a).Guarantees K post (h ++ [.call l, .answer l a]) c := by
  rw [guarantees_bind, guarantees_call]

theorem Guarantees.mono {x : Activity α} {post' : α → History → Connection → Prop}
    (g : x.Guarantees K post h c) (weaker : ∀ a h c, post a h c → post' a h c) :
    x.Guarantees K post' h c :=
  Progress.Guarantees.mono g weaker

theorem Guarantees.bind {x : Activity α} {f : α → Activity β}
    {post' : β → History → Connection → Prop} (g : x.Guarantees K post h c)
    (next : ∀ a h c, post a h c → (f a).Guarantees K post' h c) :
    (x >>= f).Guarantees K post' h c :=
  guarantees_bind.2 (g.mono next)

end Activity

/-! ### Runs -/

variable {J : History → Connection → Prop} {K : Pausing} {options : Options} {h : History}
  {t : Standing}

/-- `J` where a stimulus is awaited, and after the last client is gone; `K` where an answer is
awaited, which will lead on to where `J` holds; and `K` after a crash. -/
def Standing.Keeps (J : History → Connection → Prop) (K : Pausing) (h : History) : Standing → Prop
  | .idle c => J h c
  | .calling c l resume =>
    K (some l) h c ∧ ∀ a, (resume a).Guarantees K (fun _ => J) (h ++ [.answer l a])
  | .ended c => J h c ∨ K none h c

theorem Standing.Keeps.after {x : Stimulus} (k : t.Keeps J K h) : (t.after x).Keeps J K h := by
  cases t with
  | idle c =>
    cases x with
    | clientsGone => exact .inl k
    | command | linkLost | poll | sweep => exact k
  | calling c l resume => exact k
  | ended c => exact k

theorem Progress.Guarantees.keeps {p : Progress Unit}
    (g : p.Guarantees K (fun _ => J) h) : p.standing.Keeps J K (h ++ p.acts) := by
  cases p with
  | done a c out => exact g
  | waiting c out l resume =>
    refine ⟨by simpa [acts] using g.1, fun a => ?_⟩
    simpa [acts] using g.2 a
  | crashed c out => exact .inr g

/-- What every reaction guarantees is kept along a run. -/
theorem Connection.Run.keeps (start : J [] (.new options))
    (reacts : ∀ {h c x}, J h c → c.Awaits x →
      (Connection.handle x).Guarantees K (fun _ => J) (h ++ [.take x]) c)
    (run : Run options h t) : t.Keeps J K h := by
  induction run with
  | start => exact start
  | @step h acts t t' run step ih =>
    cases step with
    | @take c x awaits =>
      rw [List.append_cons]
      exact (reacts ih awaits).keeps.after
    | @answer c l resume a =>
      rw [List.append_cons]
      exact (ih.2 a).keeps

end GattRpc
