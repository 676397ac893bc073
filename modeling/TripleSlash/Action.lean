import TripleSlash.Event
import TripleSlash.Files

/-! Actions on a world, which is anything that shows files. An action leaves a result, the
events it went through and the world as it is afterwards; what happened before a failure
has happened. -/
namespace TripleSlash

/-- A world with files. -/
class HasFiles (W : Type) where
  files : W → Files

structure Outcome (W ε α : Type) where
  result : Except ε α
  events : List Event
  world : W

namespace Outcome

variable {W ε α : Type}

/-- The same outcome with more events in front of its own. -/
def after (o : Outcome W ε α) (events : List Event) : Outcome W ε α :=
  { o with events := events ++ o.events }

@[simp] theorem result_after (o : Outcome W ε α) (events : List Event) :
    (o.after events).result = o.result := rfl

@[simp] theorem events_after (o : Outcome W ε α) (events : List Event) :
    (o.after events).events = events ++ o.events := rfl

@[simp] theorem after_nil (o : Outcome W ε α) : o.after [] = o := rfl

@[simp] theorem after_after (o : Outcome W ε α) (first next : List Event) :
    (o.after next).after first = o.after (first ++ next) := by
  simp only [after, List.append_assoc]

end Outcome

def Action (W ε α : Type) := W → Outcome W ε α

namespace Action

variable {W ε δ α β : Type}

def run (a : Action W ε α) (w : W) : Outcome W ε α := a w

def bind (a : Action W ε α) (f : α → Action W ε β) : Action W ε β := fun w =>
  match (a w).result with
  | .error e => ⟨.error e, (a w).events, (a w).world⟩
  | .ok value =>
    let next := f value (a w).world
    { next with events := (a w).events ++ next.events }

instance : Monad (Action W ε) where
  pure value := fun w => ⟨.ok value, [], w⟩
  bind := bind

theorem bind_of_ok {a : Action W ε α} {w : W} {value : α} (done : (a w).result = .ok value)
    (f : α → Action W ε β) :
    (a >>= f) w =
      { f value (a w).world with events := (a w).events ++ (f value (a w).world).events } := by
  simp only [Bind.bind, bind, done]

theorem bind_of_error {a : Action W ε α} {w : W} {e : ε} (failed : (a w).result = .error e)
    (f : α → Action W ε β) : (a >>= f) w = ⟨.error e, (a w).events, (a w).world⟩ := by
  simp only [Bind.bind, bind, failed]

/-- What follows a step that succeeds comes after the events of that step. -/
theorem bind_after {a : Action W ε α} {w : W} {value : α} (done : (a w).result = .ok value)
    (f : α → Action W ε β) : (a >>= f) w = (f value (a w).world).after (a w).events :=
  bind_of_ok done f

/-- A value that is worked on afterwards comes with the same events. -/
theorem bind_pure_eq (a : Action W ε α) (f : α → β) (w : W) :
    (a >>= fun value => pure (f value)) w = ⟨(a w).result.map f, (a w).events, (a w).world⟩ := by
  cases result : (a w).result with
  | error e => rw [bind_of_error result]; rfl
  | ok value =>
    rw [bind_of_ok result]
    simp [pure, Except.map]

theorem discard_eq (a : Action W ε α) (w : W) :
    discard a w = ⟨(a w).result.map fun _ => (), (a w).events, (a w).world⟩ :=
  bind_pure_eq a (fun _ => ()) w

def fail (e : ε) : Action W ε α := fun w => ⟨.error e, [], w⟩

def ofExcept (r : Except ε α) : Action W ε α := fun w => ⟨r, [], w⟩

def emit (events : List Event) : Action W ε Unit := fun w => ⟨.ok (), events, w⟩

def files [HasFiles W] : Action W ε Files := fun w => ⟨.ok (HasFiles.files w), [], w⟩

theorem emit_bind (events : List Event) (f : Unit → Action W ε β) (w : W) :
    (emit events >>= f) w = (f () w).after events := bind_after rfl f

theorem files_bind [HasFiles W] (f : Files → Action W ε β) (w : W) :
    (files >>= f) w = f (HasFiles.files w) w := bind_after rfl f

theorem ofExcept_bind_ok {r : Except ε α} {value : α} (done : r = .ok value)
    (f : α → Action W ε β) (w : W) : (ofExcept r >>= f) w = f value w := bind_after done f

def mapError (a : Action W ε α) (f : ε → δ) : Action W δ α := fun w =>
  ⟨(a w).result.mapError f, (a w).events, (a w).world⟩

/-- The result as a value, which never fails. -/
def attempt (a : Action W ε α) : Action W δ (Except ε α) := fun w =>
  ⟨.ok (a w).result, (a w).events, (a w).world⟩

/-- The result together with the events on the way to it. -/
def listen (a : Action W ε α) : Action W ε (α × List Event) := fun w =>
  ⟨(a w).result.map fun value => (value, (a w).events), (a w).events, (a w).world⟩

/-- A change of the world that may fail. -/
def change (f : W → Except ε α × W) : Action W ε α := fun w => ⟨(f w).1, [], (f w).2⟩

theorem change_bind_ok {change : W → Except ε α × W} {rename : ε → δ} {f : α → Action W δ β}
    {w world : W} {value : α} (changed : change w = (.ok value, world)) :
    ((Action.change change).mapError rename >>= f) w = f value world := by
  have done : ((Action.change change).mapError rename w).result = .ok value :=
    congrArg (fun result => result.1.mapError rename) changed
  rw [bind_after done]
  exact congrArg (f value) (congrArg Prod.snd changed)

theorem change_bind_error {change : W → Except ε α × W} {rename : ε → δ} {f : α → Action W δ β}
    {w world : W} {cause : ε} (changed : change w = (.error cause, world)) :
    ((Action.change change).mapError rename >>= f) w = ⟨.error (rename cause), [], world⟩ := by
  have stopped : ((Action.change change).mapError rename w).result = .error (rename cause) :=
    congrArg (fun result => result.1.mapError rename) changed
  rw [bind_of_error stopped]
  exact congrArg (Outcome.mk _ _) (congrArg Prod.snd changed)

/-- Runs `last` at the end, come what may. -/
def ending (a : Action W ε α) (last : W → W) : Action W ε α := fun w =>
  ⟨(a w).result, (a w).events, last (a w).world⟩

/-- From whichever world it starts, the action leaves only events of this kind. -/
def EmitsOnly (a : Action W ε α) (kind : Event → Bool) : Prop :=
  ∀ w, ∀ event ∈ (a w).events, kind event = true

section EmitsOnly
variable {kind : Event → Bool}

theorem EmitsOnly.pure (value : α) : (Pure.pure value : Action W ε α).EmitsOnly kind :=
  fun _ _ h => absurd h List.not_mem_nil

theorem EmitsOnly.fail (e : ε) : (fail e : Action W ε α).EmitsOnly kind :=
  fun _ _ h => absurd h List.not_mem_nil

theorem EmitsOnly.ofExcept (r : Except ε α) : (ofExcept r : Action W ε α).EmitsOnly kind :=
  fun _ _ h => absurd h List.not_mem_nil

theorem EmitsOnly.files [HasFiles W] : (files : Action W ε Files).EmitsOnly kind :=
  fun _ _ h => absurd h List.not_mem_nil

theorem EmitsOnly.change (f : W → Except ε α × W) : (change f).EmitsOnly kind :=
  fun _ _ h => absurd h List.not_mem_nil

theorem EmitsOnly.emit {events : List Event} (only : ∀ event ∈ events, kind event = true) :
    (emit events : Action W ε Unit).EmitsOnly kind :=
  fun _ => only

theorem EmitsOnly.mapError {a : Action W ε α} (only : a.EmitsOnly kind) (f : ε → δ) :
    (a.mapError f).EmitsOnly kind := only

theorem EmitsOnly.ending {a : Action W ε α} (only : a.EmitsOnly kind) (last : W → W) :
    (a.ending last).EmitsOnly kind := only

theorem EmitsOnly.bind {a : Action W ε α} {f : α → Action W ε β} (first : a.EmitsOnly kind)
    (next : ∀ value, (f value).EmitsOnly kind) : (a >>= f).EmitsOnly kind := by
  intro w event h
  simp only [Bind.bind, Action.bind] at h
  cases result : (a w).result with
  | error e =>
    simp only [result] at h
    exact first w event h
  | ok value =>
    simp only [result, List.mem_append] at h
    exact h.elim (first w event) (next value _ event)

theorem EmitsOnly.mono {other : Event → Bool} {a : Action W ε α} (only : a.EmitsOnly kind)
    (implies : ∀ event, kind event = true → other event = true) : a.EmitsOnly other :=
  fun w event h => implies event (only w event h)

theorem EmitsOnly.discard {a : Action W ε α} (only : a.EmitsOnly kind) :
    (discard a).EmitsOnly kind :=
  .bind only fun _ => .pure _

/-- What follows a check may rely on what the check gave. -/
theorem EmitsOnly.ofExcept_bind {r : Except ε α} {f : α → Action W ε β}
    (next : ∀ value, r = .ok value → (f value).EmitsOnly kind) :
    (Action.ofExcept r >>= f).EmitsOnly kind := by
  intro w event h
  cases r with
  | error e =>
    rw [bind_of_error rfl] at h
    exact absurd h List.not_mem_nil
  | ok value =>
    rw [ofExcept_bind_ok rfl] at h
    exact next value rfl w event h

end EmitsOnly

end Action
end TripleSlash
