import GattRpc.Proofs.Connection.Answers
import GattRpc.Proofs.Connection.Snapshot

/-! # When the reason for closing can be seen

What others see is the status that was shown last, and a reason that they can see once they see ever
after (`Connection.Deeds.visible`). A connection that closes shows its reason before it lets go of
any callback, so who looks for the reason then finds it, however soon or late
(`History.Each.of_reason`). -/

namespace GattRpc

open Connection History

/-- A reason that could be seen before is shown. -/
def Act.Steadfast (before : History) : Act → Prop
  | tell (.shown s) =>
    ∀ reason, before.status.closeReason = some reason → s.closeReason = some reason
  | take _ | call _ | answer _ _ | tell _ => True

/-- What others see of a connection is its status, and no reason is ever taken back. -/
structure Visible (h : History) (c : Connection) : Prop where
  status : h.status = c.status
  steadfast : Each Act.Steadfast [] h

variable {options : Options} {u : Option Stimulus} {c c' : Connection} {g h : History}
  {reason : CloseReason}

namespace History

theorem status_append : status (g ++ h) = h.statuses.getLastD g.status := by
  rw [status, statuses_append, status]
  cases h.statuses using List.reverseRecOn <;> simp [List.getLastD_eq_getLast?]

/-- What is shown is told. -/
theorem statuses_outputs : History.statuses (h.outputs.map .tell) = h.statuses := by
  induction h with
  | nil => rfl
  | cons a h ih =>
    cases a with
    | tell o =>
      rw [statuses_cons, ← ih]
      exact statuses_cons _ _
    | take | call | answer => exact ih

/-- Nothing is shown. -/
theorem status_append_of_unshown (unshown : h.statuses = []) : status (g ++ h) = status g := by
  rw [status_append, unshown]
  rfl

theorem Each.mono {P Q : History → Act → Prop} (each : Each P g h)
    (imp : ∀ before a, P before a → Q before a) : Each Q g h := by
  induction h generalizing g with
  | nil => trivial
  | cons a h ih => exact ⟨imp g a each.1, ih each.2⟩

/-- All that is shown has the same reason, if any could be seen before. -/
theorem Each.steadfast {set : Option CloseReason}
    (before : g.status.closeReason = none ∨ g.status.closeReason = set)
    (same : ∀ s ∈ h.statuses, s.closeReason = set) : Each Act.Steadfast g h := by
  induction h generalizing g with
  | nil => trivial
  | cons a h ih =>
    rw [statuses_cons, List.forall_mem_append] at same
    obtain ⟨now, later⟩ := same
    have unshown (none : a.shown? = none) : status (g ++ [a]) = status g := by
      refine status_append_of_unshown ?_
      rw [statuses_cons, none]
      rfl
    cases a with
    | take | call | answer => exact ⟨trivial, ih (unshown rfl ▸ before) later⟩
    | tell o =>
      cases o with
      | shown s =>
        have now : s.closeReason = set := now s List.mem_cons_self
        refine ⟨fun reason seen => ?_, ih (.inr ?_) later⟩
        · rcases before with none | is
          · rw [none] at seen
            cases seen
          · rw [now, ← is, seen]
        · rwa [status_append]
      | event | settled | discarded | reply => exact ⟨trivial, ih (unshown rfl ▸ before) later⟩

/-- Who sees a reason sees it ever after. -/
theorem Each.reason_stays (each : Each Act.Steadfast g h)
    (seen : g.status.closeReason = some reason) :
    (g ++ h).status.closeReason = some reason ∧ ∀ s ∈ h.statuses, s.closeReason = some reason := by
  induction h generalizing g with
  | nil =>
    rw [List.append_nil]
    exact ⟨seen, nofun⟩
  | cons a h ih =>
    rw [List.append_cons, statuses_cons, List.forall_mem_append]
    have now : ∀ s ∈ a.shown?.toList, s.closeReason = some reason := by
      intro s hs
      have is : a = .tell (.shown s) := by
        unfold Act.shown? at hs
        split at hs
        · rw [List.mem_singleton.1 hs]
        · cases hs
      subst is
      exact each.1 reason seen
    have next : (g ++ [a]).status.closeReason = some reason := by
      rw [status_append, statuses_cons, statuses_nil, List.append_nil]
      cases shown : a.shown? with
      | none => exact seen
      | some s => exact now s (by rw [shown]; exact List.mem_singleton_self s)
    obtain ⟨then_, later⟩ := ih each.2 next
    exact ⟨then_, now, later⟩

/-- Whatever comes once a reason can be seen finds it. -/
theorem Each.of_reason {P : History → Act → Prop} (each : Each Act.Steadfast g h)
    (seen : g.status.closeReason = some reason)
    (all : ∀ a ∈ h, ∀ before : History, before.status.closeReason = some reason → P before a) :
    Each P g h := by
  induction h generalizing g with
  | nil => trivial
  | cons a h ih =>
    obtain ⟨first, rest⟩ := List.forall_mem_cons.1 all
    refine ⟨first g seen, ih each.2 ?_ rest⟩
    exact (Each.reason_stays (h := [a]) ⟨each.1, trivial⟩ seen).1

end History

/-! ### Deeds -/

namespace Visible

/-- What is shown has the reason that is left, which is the one before if there was one. -/
theorem shows (v : Visible g c) (status : h.statuses.getLastD c.status = c'.status)
    (before : c.status.closeReason = none ∨ c.status.closeReason = c'.status.closeReason)
    (same : ∀ s ∈ h.statuses, s.closeReason = c'.status.closeReason) : Visible (g ++ h) c' where
  status := by rw [status_append, v.status, status]
  steadfast := by
    refine each_append.2 ⟨v.steadfast, ?_⟩
    rw [List.nil_append]
    exact .steadfast (v.status ▸ before) same

theorem tells (v : Visible g c) (unshown : ∀ a ∈ h, a.shown? = none) : Visible (g ++ h) c := by
  have none : h.statuses = [] := List.filterMap_eq_nil_iff.2 unshown
  refine v.shows ?_ (.inr rfl) ?_ <;> rw [none]
  · rfl
  · exact nofun

/-- The status is shown once, and its reason is the one before. -/
theorem reports (told : History) (v : Visible g c) (quiet : ∀ a ∈ h, a.shown? = none)
    (rest : ∀ a ∈ told, a.shown? = none)
    (same : c'.status.closeReason = c.status.closeReason) :
    Visible (g ++ (h ++ .tell (.shown c'.status) :: told)) c' := by
  have shown : History.statuses (h ++ .tell (.shown c'.status) :: told) = [c'.status] := by
    rw [statuses_append, statuses_cons, show h.statuses = [] from List.filterMap_eq_nil_iff.2 quiet,
      show told.statuses = [] from List.filterMap_eq_nil_iff.2 rest]
    rfl
  refine v.shows ?_ (.inr same.symm) ?_ <;> rw [shown]
  · rfl
  · exact List.forall_mem_singleton.2 rfl

end Visible

theorem Connection.statuses_farewell :
    History.statuses ((c.farewell reason).map .tell) =
      [{ c.status with closeReason := some reason }, (c.emptied reason).status,
        (c.closed reason).status] := by
  have released : History.statuses ((c.released reason).map .tell) = [] :=
    List.filterMap_eq_nil_iff.2 (forall_released (fun _ => rfl) fun _ => rfl)
  rw [farewell, List.map_cons, List.map_append, statuses_cons, statuses_append, released]
  rfl

theorem Connection.Deeds.visible (d : Deeds options u h c) : Visible h c := by
  induction d with
  | start => exact ⟨rfl, trivial⟩
  | takes x deeds ih => exact ih.tells (List.forall_mem_singleton.2 rfl)
  | spares deeds k ih =>
    refine ih.shows k.status (.inr k.closeReason.symm) fun s hs => ?_
    rw [k.closeReason, k.reasons s hs]
  | closes reason deeds unclosed ih =>
    have unset := deeds.agrees.closeReason
    rw [iff_false_right unclosed, Option.not_isSome_iff_eq_none] at unset
    refine ih.shows ?_ (.inl unset) ?_ <;> rw [statuses_farewell]
    · rfl
    · refine List.forall_mem_cons.2 ⟨rfl, List.forall_mem_cons.2 ⟨rfl, ?_⟩⟩
      exact List.forall_mem_singleton.2 rfl
  | @receives u g h c c' ch chunk deeds ready inbox a result delivers ih =>
    have routed := delivers.forall_told (P := fun a => a.shown? = none) (fun _ _ => rfl)
      (fun _ => rfl) fun _ _ => rfl
    have same : c'.tallied.status.closeReason = c.status.closeReason := by
      rw [delivers.eq]
      rfl
    refine ih.reports [] (h := .answer (.read ch) a :: _) ?_ nofun same
    exact List.forall_mem_cons.2 ⟨rfl, List.forall_mem_append.2 ⟨by simp, routed⟩⟩
  | @expires u h c timeout now deeds limited ih =>
    have silent {xs : List Settlement} : ∀ a ∈ (xs.map Output.settled).map Act.tell,
        a.shown? = none := by simp
    by_cases none : (c.correlator.expire now timeout).2.isEmpty = true
    · rw [(expired_of_none none).1, (expired_of_none none).2]
      exact ⟨(ih.tells silent).status, (ih.tells silent).steadfast⟩
    · rw [(expired_of_some none).1, (expired_of_some none).2, List.map_append]
      exact ih.reports [] silent nofun rfl
  | @registers h c n method params callback request ch deeds ready is a result ih =>
    refine ih.reports [_] (h := .take _ :: .call _ :: .answer _ a :: _) ?_
      (List.forall_mem_singleton.2 rfl) rfl
    simp
  | refuses e deeds ih => exact ih.tells (forall_dropped (fun _ => rfl) rfl)
  | replies deeds answers other ih => exact ih.tells (List.forall_mem_singleton.2 rfl)
  | rests deeds other ih => exact ih

namespace Connection.Run

variable {t : Standing} {early late : History}

/-- What others see is the status of the connection. -/
theorem seen (run : Run options h t) : h.status = t.connection.status := by
  obtain ⟨u, d⟩ := run.exists_deeds
  exact d.visible.status

theorem seen_stays (run : Run options h t) (first : early <+: late) (whole : late <+: h)
    (seen : early.status.closeReason = some reason) : late.status.closeReason = some reason := by
  obtain ⟨u, d⟩ := run.exists_deeds
  obtain ⟨more, rfl⟩ := first
  obtain ⟨rest, rfl⟩ := whole
  exact ((each_append.1 (each_append.1 d.visible.steadfast).1).2.reason_stays seen).1

end Connection.Run

end GattRpc
