import HostLink.Proofs.Session.Run

/-!
# HostLink.Proofs.Session.Trace

What a journal tells of the link. Three events do: somebody was let in, the channel was hung up, a
frame came in; an event that is none of them is *silent*. Reading a journal with the link in mind
(`Journal.linkAfter`) gives nothing when it makes no sense: a runtime let in on top of another, an
end without a connection, a frame without a link. Over a lawful channel every path of moves makes
sense, and says truly where the link stands (`Path.linkAfter`).
-/

namespace HostLink

/-- Whether an event tells of the link. -/
def Event.ofLink {η : Type} : Event η → Bool
  | .letIn _ => true
  | .hungUp _ _ => true
  | .received _ => true
  | _ => false

namespace Journal

variable {η : Type}

/-- Nothing is told of the link. -/
def Silent (j : Journal η) : Prop := ∀ e ∈ j, e.ofLink = false

/-- Nobody was let in. -/
def Lonely (j : Journal η) : Prop := ∀ kept, .letIn kept ∉ j

@[simp] theorem silent_nil : Silent ([] : Journal η) := by simp [Silent]

@[simp] theorem silent_cons {e : Event η} {j : Journal η} :
    Silent (e :: j) ↔ e.ofLink = false ∧ Silent j := by
  simp [Silent]

@[simp] theorem silent_append {j j' : Journal η} : Silent (j ++ j') ↔ Silent j ∧ Silent j' := by
  simp [Silent, or_imp, forall_and]

@[simp] theorem silent_reverse {j : Journal η} : Silent j.reverse ↔ Silent j := by
  simp [Silent]

theorem Quiet.silent {j : Journal η} (quiet : j.Quiet) : j.Silent := by
  intro e mem
  have quiet := quiet e mem
  cases e with
  | letIn _ => cases quiet
  | hungUp _ _ => cases quiet
  | received _ => cases quiet
  | _ => rfl

@[simp] theorem lonely_nil : Lonely ([] : Journal η) := by simp [Lonely]

@[simp] theorem lonely_cons {e : Event η} {j : Journal η} :
    Lonely (e :: j) ↔ (∀ kept, e ≠ .letIn kept) ∧ Lonely j := by
  simp [Lonely, forall_and, eq_comm]

@[simp] theorem lonely_append {j j' : Journal η} : Lonely (j ++ j') ↔ Lonely j ∧ Lonely j' := by
  simp [Lonely, forall_and]

theorem Silent.lonely {j : Journal η} (silent : j.Silent) : j.Lonely :=
  fun _ mem => nomatch silent _ mem

/-- Whether the link is up after a journal, if the journal makes sense. -/
def linkAfter (up : Bool) : Journal η → Option Bool
  | [] => some up
  | .letIn _ :: es => if up then none else linkAfter true es
  | .hungUp _ _ :: es => if up then linkAfter false es else none
  | .received _ :: es => if up then linkAfter true es else none
  | _ :: es => linkAfter up es

theorem linkAfter_silent {e : Event η} (silent : e.ofLink = false) (up : Bool) (es : Journal η) :
    linkAfter up (e :: es) = linkAfter up es := by
  cases e <;> first | rfl | cases silent

theorem linkAfter_append (up : Bool) (es fs : Journal η) :
    linkAfter up (es ++ fs) = (linkAfter up es).bind fun up => linkAfter up fs := by
  induction es generalizing up with
  | nil => rfl
  | cons e es ih =>
    cases e with
    | letIn kept => cases up <;> simp [linkAfter, ih]
    | hungUp cause kept => cases up <;> simp [linkAfter, ih]
    | received f => cases up <;> simp [linkAfter, ih]
    | _ => simp [linkAfter, ih]

theorem Silent.linkAfter {es : Journal η} (silent : es.Silent) (up : Bool) :
    es.linkAfter up = some up := by
  induction es with
  | nil => rfl
  | cons e es ih =>
    obtain ⟨first, rest⟩ := silent_cons.mp silent
    rw [linkAfter_silent first, ih rest]

/-- When nobody is let in, a link that is down stays down, and no frame comes in. -/
theorem Lonely.down {es : Journal η} (lonely : es.Lonely) {up : Bool}
    (link : es.linkAfter false = some up) : up = false ∧ ∀ f, .received f ∉ es := by
  induction es with
  | nil => cases link; simp
  | cons e es ih =>
    obtain ⟨other, rest⟩ := lonely_cons.mp lonely
    cases e with
    | letIn kept => exact absurd rfl (other kept)
    | hungUp cause kept => cases link
    | received f => cases link
    | _ => simpa using ih rest link

/-- Somebody who was let in while the link had been up came after an end. -/
theorem ended_of_not_lonely {es : Journal η} (came : ¬ es.Lonely) {up : Bool}
    (link : es.linkAfter true = some up) :
    ∃ before cause kept after, es = before ++ .hungUp cause kept :: after ∧ ¬ Lonely after := by
  induction es with
  | nil => exact absurd lonely_nil came
  | cons e es ih =>
    have later (other : ∀ kept, e ≠ .letIn kept) (link : linkAfter true es = some up) :
        ∃ before cause kept after, e :: es = before ++ .hungUp cause kept :: after ∧
          ¬ Lonely after := by
      have came : ¬ Lonely es := fun rest => came (lonely_cons.mpr ⟨other, rest⟩)
      obtain ⟨before, cause, kept, after, eq, rest⟩ := ih came link
      exact ⟨e :: before, cause, kept, after, by rw [eq, List.cons_append], rest⟩
    cases e with
    | letIn kept => cases link
    | hungUp cause kept =>
      exact ⟨[], cause, kept, es, rfl, fun rest => came (lonely_cons.mpr ⟨by simp, rest⟩)⟩
    | _ => exact later (by simp) link

end Journal

namespace Session

variable {κ η : Type}

theorem told_silent (e : Lifecycle) (s : Session κ η) : (s.told e).Silent := by
  intro event mem
  obtain ⟨r, -, rfl⟩ := List.mem_map.mp mem
  rfl

theorem Quietly.journal {s t : Session κ η} (h : Quietly s t) :
    ∃ es : Journal η, es.Silent ∧ t.journal = s.journal ++ es := by
  obtain ⟨es, past, quiet⟩ := h
  exact ⟨es.reverse, Journal.silent_reverse.mpr quiet.silent, journal_append es past⟩

theorem Entered.journal {s t : Session κ η} (h : Entered s t) :
    ∃ after : Journal η, after.Silent ∧ t.journal = s.journal ++ .letIn s.memory :: after := by
  obtain ⟨es, quiet, past⟩ := h.past
  refine ⟨(es ++ s.told .connected).reverse, ?_, by simp [Session.journal, past]⟩
  simp [quiet.silent, told_silent]

variable [Channel κ]

theorem Ended.journal {cause : Cause} {s t : Session κ η} (h : Ended cause s t) :
    ∃ before after : Journal η, before.Silent ∧ after.Silent ∧
      t.journal = s.journal ++ (before ++ .hungUp cause s.memory :: after) := by
  obtain ⟨es, fs, gs, quietE, quietF, quietG, past⟩ := h.past
  refine ⟨(fs ++ (s.told cause.lifecycle ++ gs)).reverse, es.reverse, ?_, ?_,
    by simp [Session.journal, past]⟩
  · simp [quietF.silent, quietG.silent, told_silent]
  · simp [quietE.silent]

/-- What a move adds to the journal. Only a newcomer on a link that is down is let in. -/
theorem Kind.journal {s t : Session κ η} (kind : Kind s t) (sound : s.Sound) :
    ∃ es : Journal η, t.journal = s.journal ++ es ∧
      es.linkAfter s.status.isUp = some t.status.isUp ∧
      (es.Lonely ∨ s.status.isUp = false ∧ Entered s t) := by
  cases kind with
  | quiet calm _ =>
    obtain ⟨es, silent, journal⟩ := calm.quiet.journal
    exact ⟨es, journal, by rw [silent.linkAfter, calm.isUp], .inl silent.lonely⟩
  | @heard f u heard calm =>
    obtain ⟨es, silent, journal⟩ := calm.quiet.journal
    have taken : u.journal = s.journal ++ [.received f] := journal_append [.received f] heard.past
    refine ⟨.received f :: es, by simp [journal, taken], ?_, .inl (by simp [silent.lonely])⟩
    rw [sound.tuned heard.tuned, calm.isUp, heard.isUp, sound.tuned heard.tuned]
    simpa [Journal.linkAfter] using silent.linkAfter true
  | @left f u heard up ended =>
    obtain ⟨before, after, silentB, silentA, journal⟩ := ended.journal
    have taken : u.expecting.journal = s.journal ++ [.received f, .notice .remoteReconnecting] :=
      journal_append [.notice .remoteReconnecting, .received f] (congrArg _ heard.past)
    refine ⟨.received f :: .notice .remoteReconnecting ::
      (before ++ .hungUp .expected u.expecting.memory :: after),
      by simp [journal, taken], ?_, .inl ?_⟩
    · rw [sound.tuned heard.tuned, ended.isUp]
      simp [Journal.linkAfter, Journal.linkAfter_append, silentB.linkAfter, silentA.linkAfter]
    · simp [silentB.lonely, silentA.lonely]
  | entered down entered =>
    obtain ⟨after, silent, journal⟩ := entered.journal
    refine ⟨.letIn s.memory :: after, journal, ?_, .inr ⟨down, entered⟩⟩
    rw [down, entered.isUp]
    simpa [Journal.linkAfter] using silent.linkAfter true
  | ended expected up ended =>
    obtain ⟨before, after, silentB, silentA, journal⟩ := ended.journal
    refine ⟨_, journal, ?_, .inl (by simp [silentB.lonely, silentA.lonely])⟩
    rw [up, ended.isUp]
    simp [Journal.linkAfter, Journal.linkAfter_append, silentB.linkAfter, silentA.linkAfter]

variable [Host η] [LawfulChannel κ]

/-- Along a path, the journal says where the link stands. -/
theorem Path.linkAfter {s t : Session κ η} (path : Path s t) (sound : s.Sound) :
    ∃ es : Journal η, t.journal = s.journal ++ es ∧
      es.linkAfter s.status.isUp = some t.status.isUp := by
  induction path with
  | refl => exact ⟨[], by simp, rfl⟩
  | tail path move ih =>
    obtain ⟨es, journal, link⟩ := ih
    obtain ⟨fs, journal', link', -⟩ := move.kind.journal (Path.sound path sound)
    refine ⟨es ++ fs, by rw [journal', journal, List.append_assoc], ?_⟩
    rw [Journal.linkAfter_append, link]
    exact link'

end Session

end HostLink
