/-
Journals of runs. A journal is the list of what an action did with its surroundings, in order: the commands it asked
with their answers, the listeners it told with their replies, and the records it wrote itself. Surroundings are any
stateful channel and any observers; all of them may fail, and all of them share one state.

`Happens` says that a journal leads from one state to another: every deed in it ends there as the journal says.
Surroundings that are `journaled` keep the journal as a part of the state, out of reach of the channel and the
observers, and leave the events of those out; `happens_journaled` says that nothing else changes.
-/
import Mathlib.Tactic
import DebugFind.Scenario

namespace DebugFind

open Scenario

variable {σ α β : Type}

/-! ## Equations of actions -/

namespace Action

theorem bind_eq_iff {act : Action σ α} {f : α → Action σ β} {s t : σ} {r : Except Failure β} {es : List Event} :
    (act >>= f) s = ⟨r, t, es⟩ ↔
      (∃ e, r = .error e ∧ act s = ⟨.error e, t, es⟩) ∨
        ∃ a m es₁ es₂, act s = ⟨.ok a, m, es₁⟩ ∧ f a m = ⟨r, t, es₂⟩ ∧ es = es₁ ++ es₂ := by
  rcases ho : act s with ⟨x, m, es₁⟩
  cases x with
  | error e =>
    have hr : (act s).result = .error e := by rw [ho]
    rw [bind_error hr, ho]
    constructor
    · intro h
      cases h
      exact Or.inl ⟨e, rfl, rfl⟩
    · rintro (⟨e', rfl, h⟩ | ⟨a, m', _, _, h, _⟩)
      · cases h
        rfl
      · injection h with h1
        cases h1
  | ok a =>
    have hr : (act s).result = .ok a := by rw [ho]
    rw [bind_ok hr, ho]
    constructor
    · intro h
      injection h with h1 h2 h3
      exact Or.inr ⟨a, m, es₁, (f a m).events, rfl, by rw [← h1, ← h2], h3.symm⟩
    · rintro (⟨e', _, h⟩ | ⟨a', m', es₁', es₂, h, hf, rfl⟩)
      · injection h with h1
        cases h1
      · injection h with h1 h2 h3
        cases h1
        subst h2 h3
        rw [hf]

theorem onFailure_log_eq_iff {act : Action σ α} {level : Level} {logger : Logger} {message : String} {s t : σ}
    {r : Except Failure α} {es : List Event} :
    act.onFailure (fun _ => log level logger message) s = ⟨r, t, es⟩ ↔
      (∃ a, r = .ok a ∧ act s = ⟨.ok a, t, es⟩) ∨
        ∃ e es₁, r = .error e ∧ act s = ⟨.error e, t, es₁⟩ ∧ es = es₁ ++ [.logged ⟨level, logger, message⟩] := by
  rcases ho : act s with ⟨x, m, es₁⟩
  cases x with
  | ok a =>
    have hrun : act.onFailure (fun _ => log level logger message) s = ⟨.ok a, m, es₁⟩ := by simp [onFailure, ho]
    rw [hrun]
    constructor
    · intro h
      cases h
      exact Or.inl ⟨a, rfl, rfl⟩
    · rintro (⟨a', rfl, h⟩ | ⟨e, _, _, h, _⟩)
      · cases h
        rfl
      · cases h
  | error e =>
    have hrun : act.onFailure (fun _ => log level logger message) s =
        ⟨.error e, m, es₁ ++ [.logged ⟨level, logger, message⟩]⟩ := by simp [onFailure, ho, log, emit, Except.bind]
    rw [hrun]
    constructor
    · intro h
      cases h
      exact Or.inr ⟨e, es₁, rfl, rfl, rfl⟩
    · rintro (⟨a, _, h⟩ | ⟨e', es₁', rfl, h, rfl⟩)
      · cases h
      · cases h
        rfl

theorem under_eq_iff {ρ : Type} {act : Action σ α} {p q : ρ} {s t : σ} {r : Except Failure α} {es : List Event} :
    act.under (p, s) = ⟨r, (q, t), es⟩ ↔ act s = ⟨r, t, es⟩ ∧ q = p := by
  rcases ho : act s with ⟨x, m, es₁⟩
  simp only [under, ho, Outcome.mk.injEq, Prod.mk.injEq]
  constructor
  · rintro ⟨h1, ⟨h2, h3⟩, h4⟩
    exact ⟨⟨h1, h3, h4⟩, h2.symm⟩
  · rintro ⟨⟨h1, h2, h3⟩, h4⟩
    exact ⟨h1, ⟨h4.symm, h2⟩, h3⟩

theorem under_pure {ρ : Type} (a : α) : (pure a : Action σ α).under = (pure a : Action (ρ × σ) α) := rfl

theorem under_bind {ρ : Type} (act : Action σ α) (f : α → Action σ β) :
    ((act >>= f).under : Action (ρ × σ) β) = act.under >>= fun a => (f a).under := by
  funext ⟨q, s⟩
  rcases ho : act s with ⟨x, m, es⟩
  cases x <;> simp [under, bind, andThen, next, ho]

end Action

/-! ## Journals -/

/-- one thing that a run does -/
inductive Deed where
  /-- a command was sent, and this came back -/
  | asked (command : String) (answer : Except Failure CommandOutput)
  /-- the listener of a sweep was told of an answer -/
  | told (address : Int) (response : ProbeResponse) (reply : Except Failure Unit)
  /-- those who wait for transitions were told of one -/
  | announced (transition : Transition) (reply : Except Failure Unit)
  /-- a record was written -/
  | noted (record : Record)

namespace Deed

/-- the command that was sent -/
def command? : Deed → Option String
  | .asked command _ => some command
  | _ => none

/-- the answer that came back -/
def answer? : Deed → Option (Except Failure CommandOutput)
  | .asked _ answer => some answer
  | _ => none

/-- the failure that came back from outside -/
def failure? : Deed → Option Failure
  | .asked _ (.error e) | .told _ _ (.error e) | .announced _ (.error e) => some e
  | _ => none

/-- the record that was written -/
def record? : Deed → Option Record
  | .noted record => some record
  | _ => none

/-- the transition that was announced -/
def transition? : Deed → Option Transition
  | .announced transition _ => some transition
  | _ => none

/-- whether others than the log are concerned -/
def isOutward (d : Deed) : Bool := d.record?.isNone

theorem eq_noted {d : Deed} (h : ¬ d.isOutward) : ∃ record, d = .noted record := by
  cases d with
  | noted record => exact ⟨record, rfl⟩
  | _ => exact absurd rfl h

end Deed

/-- what a run did, in order -/
abbrev Journal := List Deed

namespace Journal

/-- the commands that were sent -/
def commands (j : Journal) : List String := j.filterMap Deed.command?

/-- the answers that came back -/
def answers (j : Journal) : List (Except Failure CommandOutput) := j.filterMap Deed.answer?

/-- the records that were written -/
def records (j : Journal) : List Record := j.filterMap Deed.record?

/-- the transitions that were announced -/
def transitions (j : Journal) : List Transition := j.filterMap Deed.transition?

/-- the journal without the records -/
def outward (j : Journal) : Journal := j.filter Deed.isOutward

@[simp] theorem commands_cons (d : Deed) (j : Journal) : commands (d :: j) = d.command?.toList ++ commands j := by
  cases h : d.command? <;> simp [commands, h]

@[simp] theorem outward_cons (d : Deed) (j : Journal) :
    outward (d :: j) = if d.isOutward then d :: outward j else outward j := List.filter_cons

@[simp] theorem commands_append (j k : Journal) : commands (j ++ k) = commands j ++ commands k :=
  List.filterMap_append

@[simp] theorem answers_append (j k : Journal) : answers (j ++ k) = answers j ++ answers k := List.filterMap_append

@[simp] theorem transitions_append (j k : Journal) : transitions (j ++ k) = transitions j ++ transitions k :=
  List.filterMap_append

@[simp] theorem outward_append (j k : Journal) : outward (j ++ k) = outward j ++ outward k := List.filter_append ..

theorem filterMap_outward {γ : Type} {pick : Deed → Option γ} (h : ∀ record, pick (.noted record) = none)
    (j : Journal) :
    (outward j).filterMap pick = j.filterMap pick := by
  induction j with
  | nil => rfl
  | cons d j ih =>
    by_cases hd : d.isOutward
    · rw [outward_cons, if_pos hd, List.filterMap_cons, List.filterMap_cons, ih]
    · obtain ⟨record, rfl⟩ := Deed.eq_noted hd
      rw [outward_cons, if_neg hd, ih, List.filterMap_cons, h]

@[simp] theorem transitions_outward (j : Journal) : transitions (outward j) = transitions j :=
  filterMap_outward (fun _ => rfl) j

@[simp] theorem commands_outward (j : Journal) : commands (outward j) = commands j := filterMap_outward (fun _ => rfl) j

@[simp] theorem answers_outward (j : Journal) : answers (outward j) = answers j := filterMap_outward (fun _ => rfl) j

/-- every command has its answer -/
theorem length_answers (j : Journal) : (answers j).length = (commands j).length := by
  induction j with
  | nil => rfl
  | cons d j ih =>
    cases d with
    | asked command answer => exact congrArg (· + 1) ih
    | _ => exact ih

end Journal

/-! ## Surroundings -/

/-- what a run has to do with -/
structure Surroundings (σ : Type) where
  channel : Channel σ
  observers : Observers σ := {}

namespace Surroundings

variable (u : Surroundings σ)

/-- tells the listener, if there is one -/
def tell (address : Int) (response : ProbeResponse) : Action σ Unit :=
  match u.observers.onProbe with
  | some tell => tell address response
  | none => pure ()

/-- announces a transition, if anyone waits for it -/
def announce (transition : Transition) : Action σ Unit :=
  match u.observers.onTransition with
  | some tell => tell transition
  | none => pure ()

/-- an action whose end is written down; its own events are left out -/
def writeDown (deed : Except Failure α → Deed) (act : Action σ α) : Action (Journal × σ) α := fun (j, s) =>
  let o := act s
  ⟨o.result, (j ++ [deed o.result], o.world), []⟩

/-- the surroundings that keep a journal -/
def journaled : Surroundings (Journal × σ) where
  channel := ⟨fun command => writeDown (.asked command) (u.channel.execute command)⟩
  observers :=
    ⟨some fun transition => writeDown (.announced transition) (u.announce transition),
      some fun address response => writeDown (.told address response) (u.tell address response)⟩

end Surroundings

/-! ## What happens -/

section Happens

variable (u : Surroundings σ)

/-- a deed leads from one state to another, with events, and ends as it says -/
def Deed.Happens : Deed → σ → σ → List Event → Prop
  | .asked command answer, s, t, es => u.channel.execute command s = ⟨answer, t, es⟩
  | .told address response reply, s, t, es => u.tell address response s = ⟨reply, t, es⟩
  | .announced transition reply, s, t, es => u.announce transition s = ⟨reply, t, es⟩
  | .noted record, s, t, es => t = s ∧ es = [.logged record]

/-- a journal leads from one state to another, with events -/
def Happens : Journal → σ → σ → List Event → Prop
  | [], s, t, es => t = s ∧ es = []
  | d :: j, s, t, es => ∃ m es₁ es₂, d.Happens u s m es₁ ∧ Happens j m t es₂ ∧ es = es₁ ++ es₂

variable {u}

theorem happens_singleton {d : Deed} {s t : σ} {es : List Event} : Happens u [d] s t es ↔ d.Happens u s t es := by
  constructor
  · rintro ⟨m, es₁, es₂, h, ⟨rfl, rfl⟩, rfl⟩
    simpa using h
  · intro h
    exact ⟨t, es, [], h, ⟨rfl, rfl⟩, by simp⟩

theorem happens_append {j k : Journal} {s t : σ} {es : List Event} :
    Happens u (j ++ k) s t es ↔ ∃ m es₁ es₂, Happens u j s m es₁ ∧ Happens u k m t es₂ ∧ es = es₁ ++ es₂ := by
  induction j generalizing s es with
  | nil =>
    constructor
    · intro h
      exact ⟨s, [], es, ⟨rfl, rfl⟩, h, rfl⟩
    · rintro ⟨m, es₁, es₂, ⟨rfl, rfl⟩, h, rfl⟩
      exact h
  | cons d j ih =>
    constructor
    · rintro ⟨m, es₁, es₂, hd, h, rfl⟩
      obtain ⟨m', es₃, es₄, hj, hk, rfl⟩ := ih.1 h
      exact ⟨m', es₁ ++ es₃, es₄, ⟨m, es₁, es₃, hd, hj, rfl⟩, hk, by simp⟩
    · rintro ⟨m', es₃, es₄, ⟨m, es₁, es₂, hd, hj, rfl⟩, hk, rfl⟩
      exact ⟨m, es₁, es₂ ++ es₄, hd, ih.2 ⟨m', es₂, es₄, hj, hk, rfl⟩, by simp⟩

/-- what is so of every deed that happens is so of all that happens -/
theorem forall_of_happens {P : Deed → Prop} (h : ∀ d s t es, d.Happens u s t es → P d) {j : Journal} {s t : σ}
    {es : List Event} (hj : Happens u j s t es) : ∀ d ∈ j, P d := by
  induction j generalizing s es with
  | nil => exact fun d hd => absurd hd List.not_mem_nil
  | cons d j ih =>
    obtain ⟨m, es₁, es₂, hd, hj, rfl⟩ := hj
    exact List.forall_mem_cons.2 ⟨h d s m es₁ hd, ih hj⟩

/-- the records of a journal have no part in where it leads -/
theorem happens_outward {j : Journal} {s t : σ} :
    (∃ es, Happens u (Journal.outward j) s t es) ↔ ∃ es, Happens u j s t es := by
  induction j generalizing s with
  | nil => rfl
  | cons d j ih =>
    by_cases hd : d.isOutward
    · rw [Journal.outward_cons, if_pos hd]
      constructor
      · rintro ⟨es, m, es₁, es₂, h, hj, rfl⟩
        obtain ⟨es', hj'⟩ := ih.1 ⟨es₂, hj⟩
        exact ⟨_, m, es₁, es', h, hj', rfl⟩
      · rintro ⟨es, m, es₁, es₂, h, hj, rfl⟩
        obtain ⟨es', hj'⟩ := ih.2 ⟨es₂, hj⟩
        exact ⟨_, m, es₁, es', h, hj', rfl⟩
    · obtain ⟨record, rfl⟩ := Deed.eq_noted hd
      rw [Journal.outward_cons, if_neg hd, ih]
      constructor
      · rintro ⟨es, h⟩
        exact ⟨.logged record :: es, s, [.logged record], es, ⟨rfl, rfl⟩, h, rfl⟩
      · rintro ⟨es, m, es₁, es₂, ⟨rfl, rfl⟩, h, rfl⟩
        exact ⟨es₂, h⟩

theorem Surroundings.writeDown_eq_iff {deed : Except Failure α → Deed} {act : Action σ α} {j : Journal} {s : σ}
    {w : Journal × σ} {r : Except Failure α} {es : List Event} :
    writeDown deed act (j, s) = ⟨r, w, es⟩ ↔ ∃ t es', act s = ⟨r, t, es'⟩ ∧ w = (j ++ [deed r], t) ∧ es = [] := by
  rcases ho : act s with ⟨r', t, es'⟩
  simp only [writeDown, ho, Outcome.mk.injEq]
  constructor
  · rintro ⟨rfl, rfl, rfl⟩
    exact ⟨t, es', ⟨rfl, rfl, rfl⟩, rfl, rfl⟩
  · rintro ⟨t', es'', ⟨rfl, rfl, rfl⟩, rfl, rfl⟩
    exact ⟨rfl, rfl, rfl⟩

theorem Deed.happens_journaled {d : Deed} {j : Journal} {s : σ} {w : Journal × σ} {es : List Event}
    (hd : d.isOutward) :
    d.Happens u.journaled (j, s) w es ↔ ∃ t es', d.Happens u s t es' ∧ w = (j ++ [d], t) ∧ es = [] := by
  cases d with
  | noted record => cases hd
  | _ => exact Surroundings.writeDown_eq_iff

/-- keeping a journal adds what was done to it, and leaves only the records of the run itself among the events -/
theorem happens_journaled {d j : Journal} {s : σ} {w : Journal × σ} {es : List Event} :
    Happens u.journaled d (j, s) w es ↔
      ∃ t es', Happens u d s t es' ∧ w = (j ++ Journal.outward d, t) ∧ es = (Journal.records d).map .logged := by
  induction d generalizing j s es with
  | nil =>
    constructor
    · rintro ⟨rfl, rfl⟩
      exact ⟨s, [], ⟨rfl, rfl⟩, by simp [Journal.outward], rfl⟩
    · rintro ⟨t, es', ⟨rfl, rfl⟩, rfl, rfl⟩
      exact ⟨by simp [Journal.outward], rfl⟩
  | cons deed d ih =>
    by_cases hd : deed.isOutward
    · have hrec : Journal.records (deed :: d) = Journal.records d := by
        cases deed <;> first | rfl | cases hd
      rw [Journal.outward_cons, if_pos hd, hrec]
      constructor
      · rintro ⟨m, es₁, es₂, h₁, h₂, rfl⟩
        obtain ⟨t₁, es₁', h₁', rfl, rfl⟩ := (Deed.happens_journaled hd).1 h₁
        obtain ⟨t₂, es₂', h₂', rfl, rfl⟩ := ih.1 h₂
        exact ⟨t₂, es₁' ++ es₂', ⟨t₁, es₁', es₂', h₁', h₂', rfl⟩, by simp, rfl⟩
      · rintro ⟨t₂, es', ⟨t₁, es₁', es₂', h₁', h₂', rfl⟩, rfl, rfl⟩
        exact ⟨(j ++ [deed], t₁), [], _, (Deed.happens_journaled hd).2 ⟨t₁, es₁', h₁', rfl, rfl⟩,
          ih.2 ⟨t₂, es₂', h₂', by simp, rfl⟩, rfl⟩
    · obtain ⟨record, rfl⟩ := Deed.eq_noted hd
      rw [Journal.outward_cons, if_neg hd]
      constructor
      · rintro ⟨m, es₁, es₂, ⟨rfl, rfl⟩, h₂, rfl⟩
        obtain ⟨t, es', h', rfl, rfl⟩ := ih.1 h₂
        exact ⟨t, .logged record :: es', ⟨s, [.logged record], es', ⟨rfl, rfl⟩, h', rfl⟩, rfl, rfl⟩
      · rintro ⟨t, es', ⟨m, es₁, es₂, ⟨rfl, rfl⟩, h', rfl⟩, rfl, rfl⟩
        exact ⟨(j, m), [.logged record], _, ⟨rfl, rfl⟩, ih.2 ⟨t, es₂, h', rfl, rfl⟩, rfl⟩

end Happens

end DebugFind
