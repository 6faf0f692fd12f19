/-
Courses: all that an action may do and end with, whatever its surroundings. A `Course` holds of a journal and a result
if the action may have that journal and then that result. `Follows` says that an action has a course: it ends with a
result, in a state and with events, exactly if a journal of the course with that result leads there. So a course
leaves nothing open, and what an action does is known from its course and from how its surroundings answer.

- `Follows.bind`, `follows_ofExcept`, `follows_log`, `follows_execute`, `follows_tell` and `Follows.onFailure` give
  the course of an action from the courses of its parts.
- `FollowsFrom` is the same for actions that change the progress of a run as well. Progress is no part of a course: it
  is what the announcements of a journal make of it (`Progress.after`).
- `Follows.journaled`, `FollowsFrom.journaled`: over journaled surroundings an action ends with the same result and
  leads to the same state, and the journal kept is one of its course. What a course says is so said of what was really
  sent.
-/
import DebugFind.Proofs.Journal

namespace DebugFind

open Scenario

variable {σ α β : Type}

/-- the journals that an action may have, each with the result it ends with -/
abbrev Course (α : Type) := Journal → Except Failure α → Prop

namespace Course

/-- nothing is done -/
def still (x : Except Failure α) : Course α := fun j r => j = [] ∧ r = x

/-- one thing is done, and what comes back is the result -/
def single (deed : Except Failure α → Deed) : Course α := fun j r => j = [deed r]

/-- a record is written -/
def note (record : Record) : Course Unit := fun j r => j = [.noted record] ∧ r = .ok ()

/-- one course after another, if the first ends well -/
def andThen (T : Course α) (U : α → Course β) : Course β := fun j r =>
  (∃ e, r = .error e ∧ T j (.error e)) ∨ ∃ a j₁ j₂, j = j₁ ++ j₂ ∧ T j₁ (.ok a) ∧ U a j₂ r

/-- the same course, and a record after a failure -/
def orNote (T : Course α) (record : Record) : Course α := fun j r =>
  (∃ a, r = .ok a ∧ T j (.ok a)) ∨ ∃ e k, r = .error e ∧ T k (.error e) ∧ j = k ++ [.noted record]

theorem andThen_ok_iff {T : Course α} {U : α → Course β} {j : Journal} {b : β} :
    T.andThen U j (.ok b) ↔ ∃ a j₁ j₂, j = j₁ ++ j₂ ∧ T j₁ (.ok a) ∧ U a j₂ (.ok b) := by
  simp [andThen]

theorem still_ok_andThen_iff {a : α} {U : α → Course β} {j : Journal} {r : Except Failure β} :
    (still (.ok a)).andThen U j r ↔ U a j r := by
  constructor
  · rintro (⟨e, _, _, h⟩ | ⟨_, _, k, rfl, ⟨rfl, h⟩, hk⟩)
    · cases h
    · cases h
      exact hk
  · intro h
    exact Or.inr ⟨a, [], j, rfl, ⟨rfl, rfl⟩, h⟩

theorem still_error_andThen_iff {e : Failure} {U : α → Course β} {j : Journal} {r : Except Failure β} :
    (still (.error e)).andThen U j r ↔ j = [] ∧ r = .error e := by
  constructor
  · rintro (⟨_, rfl, rfl, h⟩ | ⟨_, _, _, _, ⟨_, h⟩, _⟩)
    · cases h
      exact ⟨rfl, rfl⟩
    · cases h
  · rintro ⟨rfl, rfl⟩
    exact Or.inl ⟨e, rfl, rfl, rfl⟩

theorem note_andThen_iff {record : Record} {U : Unit → Course β} {j : Journal} {r : Except Failure β} :
    (note record).andThen U j r ↔ ∃ k, j = .noted record :: k ∧ U () k r := by
  constructor
  · rintro (⟨e, _, _, h⟩ | ⟨_, _, k, rfl, ⟨rfl, _⟩, hk⟩)
    · cases h
    · exact ⟨k, rfl, hk⟩
  · rintro ⟨k, rfl, hk⟩
    exact Or.inr ⟨(), _, k, rfl, ⟨rfl, rfl⟩, hk⟩

/-- nothing of a kind is done -/
def Without {γ : Type} (pick : Deed → Option γ) (T : Course α) : Prop := ∀ j r, T j r → j.filterMap pick = []

section Without

variable {γ : Type} {pick : Deed → Option γ} {T : Course α}

theorem without_still (x : Except Failure α) : (still x).Without pick := by
  rintro j r ⟨rfl, -⟩
  rfl

theorem Without.andThen {U : α → Course β} (hT : T.Without pick) (hU : ∀ a, (U a).Without pick) :
    (T.andThen U).Without pick := by
  rintro j r (⟨e, -, h⟩ | ⟨a, j₁, j₂, rfl, h₁, h₂⟩)
  · exact hT j _ h
  · rw [List.filterMap_append, hT j₁ _ h₁, hU a j₂ _ h₂]
    rfl

end Without

end Course

/-! ## Actions with a course -/

/-- an action ends exactly as a journal of its course leads -/
def Follows (u : Surroundings σ) (act : Action σ α) (T : Course α) : Prop :=
  ∀ s r t es, act s = ⟨r, t, es⟩ ↔ ∃ j, T j r ∧ Happens u j s t es

section Follows

variable {u : Surroundings σ} {act : Action σ α} {T : Course α}

theorem Follows.congr {T' : Course α} (h : Follows u act T) (hT : ∀ j r, T j r ↔ T' j r) : Follows u act T' := by
  intro s r t es
  simp only [h s r t es, hT]

theorem follows_ofExcept (x : Except Failure α) : Follows u (Action.ofExcept x) (.still x) := by
  intro s r t es
  constructor
  · intro h
    cases h
    exact ⟨[], ⟨rfl, rfl⟩, rfl, rfl⟩
  · rintro ⟨_, ⟨rfl, rfl⟩, rfl, rfl⟩
    rfl

theorem follows_pure (a : α) : Follows u (pure a : Action σ α) (.still (.ok a)) := follows_ofExcept (.ok a)

theorem follows_log (level : Level) (logger : Logger) (message : String) :
    Follows u (Action.log level logger message) (.note ⟨level, logger, message⟩) := by
  intro s r t es
  constructor
  · intro h
    cases h
    exact ⟨_, ⟨rfl, rfl⟩, happens_singleton.2 ⟨rfl, rfl⟩⟩
  · rintro ⟨_, ⟨rfl, rfl⟩, h⟩
    obtain ⟨rfl, rfl⟩ := happens_singleton.1 h
    rfl

theorem follows_single {deed : Except Failure α → Deed}
    (h : ∀ s r t es, act s = ⟨r, t, es⟩ ↔ (deed r).Happens u s t es) : Follows u act (.single deed) := by
  intro s r t es
  rw [h s r t es]
  constructor
  · intro hd
    exact ⟨[deed r], rfl, happens_singleton.2 hd⟩
  · rintro ⟨_, rfl, hh⟩
    exact happens_singleton.1 hh

theorem follows_execute (command : String) :
    Follows u (u.channel.execute command) (.single (.asked command)) := follows_single fun _ _ _ _ => Iff.rfl

theorem follows_tell (address : Int) (response : ProbeResponse) :
    Follows u (u.tell address response) (.single (.told address response)) := follows_single fun _ _ _ _ => Iff.rfl

theorem Follows.bind {f : α → Action σ β} {U : α → Course β} (h : Follows u act T) (hf : ∀ a, Follows u (f a) (U a)) :
    Follows u (act >>= f) (T.andThen U) := by
  intro s r t es
  rw [Action.bind_eq_iff]
  constructor
  · rintro (⟨e, rfl, he⟩ | ⟨a, m, es₁, es₂, ha, hb, rfl⟩)
    · obtain ⟨j, hj, hh⟩ := (h _ _ _ _).1 he
      exact ⟨j, Or.inl ⟨e, rfl, hj⟩, hh⟩
    · obtain ⟨j₁, hj₁, hh₁⟩ := (h _ _ _ _).1 ha
      obtain ⟨j₂, hj₂, hh₂⟩ := (hf a _ _ _ _).1 hb
      exact ⟨j₁ ++ j₂, Or.inr ⟨a, j₁, j₂, rfl, hj₁, hj₂⟩, happens_append.2 ⟨m, es₁, es₂, hh₁, hh₂, rfl⟩⟩
  · rintro ⟨j, ⟨e, rfl, hj⟩ | ⟨a, j₁, j₂, rfl, hj₁, hj₂⟩, hh⟩
    · exact Or.inl ⟨e, rfl, (h _ _ _ _).2 ⟨j, hj, hh⟩⟩
    · obtain ⟨m, es₁, es₂, hh₁, hh₂, rfl⟩ := happens_append.1 hh
      exact Or.inr ⟨a, m, es₁, es₂, (h _ _ _ _).2 ⟨j₁, hj₁, hh₁⟩, (hf a _ _ _ _).2 ⟨j₂, hj₂, hh₂⟩, rfl⟩

theorem Follows.onFailure (h : Follows u act T) {level : Level} {logger : Logger} {message : String} :
    Follows u (act.onFailure fun _ => Action.log level logger message) (T.orNote ⟨level, logger, message⟩) := by
  intro s r t es
  rw [Action.onFailure_log_eq_iff]
  constructor
  · rintro (⟨a, rfl, ha⟩ | ⟨e, es₁, rfl, he, rfl⟩)
    · obtain ⟨j, hj, hh⟩ := (h _ _ _ _).1 ha
      exact ⟨j, Or.inl ⟨a, rfl, hj⟩, hh⟩
    · obtain ⟨k, hk, hh⟩ := (h _ _ _ _).1 he
      exact ⟨_, Or.inr ⟨e, k, rfl, hk, rfl⟩,
        happens_append.2 ⟨t, es₁, _, hh, happens_singleton.2 ⟨rfl, rfl⟩, rfl⟩⟩
  · rintro ⟨j, ⟨a, rfl, hj⟩ | ⟨e, k, rfl, hk, rfl⟩, hh⟩
    · exact Or.inl ⟨a, rfl, (h _ _ _ _).2 ⟨j, hj, hh⟩⟩
    · obtain ⟨m, es₁, es₂, hh₁, hh₂, rfl⟩ := happens_append.1 hh
      obtain ⟨rfl, rfl⟩ := happens_singleton.1 hh₂
      exact Or.inr ⟨e, es₁, rfl, (h _ _ _ _).2 ⟨k, hk, hh₁⟩, rfl⟩

/-- over journaled surroundings an action ends as it does anyway, and the journal that is kept is one of its course -/
theorem Follows.journaled {act' : Action (Journal × σ) α} (h : Follows u act T) (h' : Follows u.journaled act' T)
    (j : Journal) (s : σ) :
    ∃ d, T d (act s).result ∧ (act' (j, s)).result = (act s).result ∧
      (act' (j, s)).world = (j ++ Journal.outward d, (act s).world) ∧
      (act' (j, s)).events = (Journal.records d).map .logged ∧ Happens u d s (act s).world (act s).events := by
  obtain ⟨d, hd, hh⟩ := (h s _ _ _).1 rfl
  have hrun := (h' (j, s) _ _ _).2 ⟨d, hd, happens_journaled.2 ⟨_, _, hh, rfl, rfl⟩⟩
  exact ⟨d, hd, by rw [hrun], by rw [hrun], by rw [hrun], hh⟩

end Follows

/-! ## Actions that change the progress of a run -/

namespace Scenario.Progress

/-- one more transition -/
def extend (p : Progress) (t : Transition) : Progress := ⟨t.stage, p.transitions ++ [t]⟩

/-- the progress after what a journal announces -/
def after (p : Progress) (j : Journal) : Progress := (Journal.transitions j).foldl extend p

@[simp] theorem after_append (p : Progress) (j k : Journal) : p.after (j ++ k) = (p.after j).after k := by
  simp [after, List.foldl_append]

theorem transitions_after (p : Progress) (j : Journal) : (p.after j).transitions = p.transitions ++ j.transitions := by
  unfold after
  induction Journal.transitions j generalizing p with
  | nil => simp
  | cons t ts ih => simp [ih, extend]

theorem after_of_quiet {p : Progress} {j : Journal} (h : j.filterMap Deed.transition? = []) : p.after j = p := by
  simp [after, Journal.transitions, h]

end Scenario.Progress

/-- an action that starts with a certain progress ends exactly as a journal of its course leads -/
def FollowsFrom (u : Surroundings σ) (p : Progress) (act : Action (Progress × σ) α) (T : Course α) : Prop :=
  ∀ s r q t es, act (p, s) = ⟨r, (q, t), es⟩ ↔ ∃ j, T j r ∧ q = p.after j ∧ Happens u j s t es

section FollowsFrom

variable {u : Surroundings σ} {p : Progress} {act : Action (Progress × σ) α} {T : Course α}

theorem FollowsFrom.congr {T' : Course α} (h : FollowsFrom u p act T) (hT : ∀ j r, T j r ↔ T' j r) :
    FollowsFrom u p act T' := by
  intro s r q t es
  simp only [h s r q t es, hT]

theorem Follows.under {act : Action σ α} (h : Follows u act T) (hq : T.Without Deed.transition?) :
    FollowsFrom u p act.under T := by
  intro s r q t es
  rw [Action.under_eq_iff, h s r t es]
  constructor
  · rintro ⟨⟨j, hj, hh⟩, rfl⟩
    exact ⟨j, hj, (Progress.after_of_quiet (hq j r hj)).symm, hh⟩
  · rintro ⟨j, hj, rfl, hh⟩
    exact ⟨⟨j, hj, hh⟩, Progress.after_of_quiet (hq j r hj)⟩

theorem followsFrom_ofExcept (x : Except Failure α) : FollowsFrom u p (Action.ofExcept x) (.still x) := by
  intro s r q t es
  constructor
  · intro h
    cases h
    exact ⟨[], ⟨rfl, rfl⟩, rfl, rfl, rfl⟩
  · rintro ⟨_, ⟨rfl, rfl⟩, rfl, rfl, rfl⟩
    rfl

/-- the second part has to follow its course only from where the first one may have led -/
theorem FollowsFrom.bind {f : α → Action (Progress × σ) β} {U : α → Course β} (h : FollowsFrom u p act T)
    (hf : ∀ a j, T j (.ok a) → FollowsFrom u (p.after j) (f a) (U a)) :
    FollowsFrom u p (act >>= f) (T.andThen U) := by
  intro s r q t es
  rw [Action.bind_eq_iff]
  constructor
  · rintro (⟨e, rfl, he⟩ | ⟨a, ⟨p₁, m⟩, es₁, es₂, ha, hb, rfl⟩)
    · obtain ⟨j, hj, hq, hh⟩ := (h _ _ _ _ _).1 he
      exact ⟨j, Or.inl ⟨e, rfl, hj⟩, hq, hh⟩
    · obtain ⟨j₁, hj₁, rfl, hh₁⟩ := (h _ _ _ _ _).1 ha
      obtain ⟨j₂, hj₂, rfl, hh₂⟩ := (hf a j₁ hj₁ _ _ _ _ _).1 hb
      exact ⟨j₁ ++ j₂, Or.inr ⟨a, j₁, j₂, rfl, hj₁, hj₂⟩, (Progress.after_append ..).symm,
        happens_append.2 ⟨m, es₁, es₂, hh₁, hh₂, rfl⟩⟩
  · rintro ⟨j, ⟨e, rfl, hj⟩ | ⟨a, j₁, j₂, rfl, hj₁, hj₂⟩, rfl, hh⟩
    · exact Or.inl ⟨e, rfl, (h _ _ _ _ _).2 ⟨j, hj, rfl, hh⟩⟩
    · obtain ⟨m, es₁, es₂, hh₁, hh₂, rfl⟩ := happens_append.1 hh
      refine Or.inr ⟨a, (p.after j₁, m), es₁, es₂, (h _ _ _ _ _).2 ⟨j₁, hj₁, rfl, hh₁⟩, ?_, rfl⟩
      rw [Progress.after_append]
      exact (hf a j₁ hj₁ _ _ _ _ _).2 ⟨j₂, hj₂, rfl, hh₂⟩

/-- over journaled surroundings an action ends as it does anyway, with the same progress -/
theorem FollowsFrom.journaled {act' : Action (Progress × Journal × σ) α} (h : FollowsFrom u p act T)
    (h' : FollowsFrom u.journaled p act' T) (j : Journal) (s : σ) :
    ∃ d, T d (act (p, s)).result ∧ (act' (p, j, s)).result = (act (p, s)).result ∧
      (act (p, s)).world.1 = p.after d ∧
      (act' (p, j, s)).world = (p.after d, j ++ Journal.outward d, (act (p, s)).world.2) ∧
      Happens u d s (act (p, s)).world.2 (act (p, s)).events := by
  obtain ⟨d, hd, hp, hh⟩ := (h s _ _ _ _).1 rfl
  have hrun := (h' (j, s) _ _ _ _).2 ⟨d, hd, rfl, happens_journaled.2 ⟨_, _, hh, rfl, rfl⟩⟩
  exact ⟨d, hd, by rw [hrun], hp, by rw [hrun], hh⟩

end FollowsFrom

end DebugFind
