/-
Actions: computations that may fail, that carry the state of the surroundings along, and whose observable events are part
of the result. A failure keeps the state and the events up to it, so what happened before a failure can be told as exactly
as what happens in a success. The events of a sequence are those of its parts in order (`bind_ok`, `bind_error`).
-/
import DebugFind.Event
import DebugFind.Failure

namespace DebugFind

/-- what an action ends with -/
structure Outcome (σ α : Type) where
  result : Except Failure α
  world : σ
  events : List Event

/-- a computation over surroundings of type `σ` -/
def Action (σ α : Type) : Type := σ → Outcome σ α

namespace Action

variable {σ ρ α β : Type}

def run (act : Action σ α) (s : σ) : Outcome σ α := act s

/-- gives a value and does nothing -/
def done (a : α) : Action σ α := fun s => ⟨.ok a, s, []⟩

/-- what follows an outcome, if it is a success -/
def next (o : Outcome σ α) (f : α → Action σ β) : Outcome σ β :=
  match o.result with
  | .ok a => let p := f a o.world; ⟨p.result, p.world, o.events ++ p.events⟩
  | .error e => ⟨.error e, o.world, o.events⟩

/-- one action after another -/
def andThen (act : Action σ α) (f : α → Action σ β) : Action σ β := fun s => next (act s) f

instance : Monad (Action σ) where
  pure := done
  bind := andThen

def fail (e : Failure) : Action σ α := fun s => ⟨.error e, s, []⟩

def emit (e : Event) : Action σ Unit := fun s => ⟨.ok (), s, [e]⟩

/-- events in a row -/
def emitAll (es : List Event) : Action σ Unit := fun s => ⟨.ok (), s, es⟩

def log (level : Level) (logger : Logger) (message : String) : Action σ Unit :=
  emit (.logged ⟨level, logger, message⟩)

def state : Action σ σ := fun s => ⟨.ok s, s, []⟩

def change (f : σ → σ) : Action σ Unit := fun s => ⟨.ok (), f s, []⟩

/-- a computation without effect -/
def ofExcept (x : Except Failure α) : Action σ α := fun s => ⟨x, s, []⟩

/-- writing of a number -/
def ofNumeral (x : Except Numeral.Error α) : Action σ α := ofExcept (Failure.ofNumeral x)

/-- does something more if the action fails, which still fails -/
def onFailure (act : Action σ α) (extra : Failure → Action σ Unit) : Action σ α := fun s =>
  let o := act s
  match o.result with
  | .ok _ => o
  | .error e => let p := extra e o.world; ⟨p.result.bind fun _ => .error e, p.world, o.events ++ p.events⟩

/-- gives the result of an action as a value, failed or not -/
def attempt (act : Action σ α) : Action σ (Except Failure α) := fun s =>
  let o := act s
  ⟨.ok o.result, o.world, o.events⟩

/-- the action with a further part of the surroundings that it leaves alone -/
def under (act : Action σ α) : Action (ρ × σ) α := fun s =>
  let o := act s.2
  ⟨o.result, (s.1, o.world), o.events⟩

/-- runs an action with a state of its own, and gives its result with the state it ended in -/
def within (start : ρ) (act : Action (ρ × σ) α) : Action σ (Except Failure α × ρ) := fun s =>
  let o := act (start, s)
  ⟨.ok (o.result, o.world.1), o.world.2, o.events⟩

/-! ## Laws -/

theorem bind_ok {act : Action σ α} {f : α → Action σ β} {s : σ} {a : α} (h : (act s).result = .ok a) :
    (act >>= f) s =
      ⟨(f a (act s).world).result, (f a (act s).world).world, (act s).events ++ (f a (act s).world).events⟩ := by
  show next (act s) f = _
  simp [next, h]

theorem bind_error {act : Action σ α} {f : α → Action σ β} {s : σ} {e : Failure} (h : (act s).result = .error e) :
    (act >>= f) s = ⟨.error e, (act s).world, (act s).events⟩ := by
  show next (act s) f = _
  simp [next, h]

theorem done_map (act : Action σ α) : id <$> act = act := by
  funext s
  show next (act s) done = act s
  cases h : (act s).result <;> simp [next, done, h] <;> (cases ho : act s; simp_all)

theorem done_bind (a : α) (f : α → Action σ β) : (pure a >>= f) = f a := by
  funext s
  show next (done a s) f = f a s
  simp [next, done]

theorem bind_bind {γ : Type} (act : Action σ α) (f : α → Action σ β) (g : β → Action σ γ) :
    (act >>= f >>= g) = act >>= fun a => f a >>= g := by
  funext s
  show next (next (act s) f) g = next (act s) fun a => f a >>= g
  cases h : (act s).result with
  | error e => simp [next, h]
  | ok a =>
    simp only [next, h]
    show _ = (let p := next (f a (act s).world) g; (⟨p.result, p.world, (act s).events ++ p.events⟩ : Outcome σ _))
    cases h' : (f a (act s).world).result <;> simp [next, h']

instance : LawfulMonad (Action σ) := LawfulMonad.mk' (Action σ) done_map done_bind bind_bind

end Action

end DebugFind
