import Cartography.Host.Stage

/-!
# Scripts

A script is what an operation does, step by step: requests to the host, entries for the journal
and calls of callbacks, with what comes next depending on the answers. It is data, so that an
operation can be reasoned about apart from any host.
-/

namespace Cartography

/-- A script that ends with a value or a failure. -/
inductive Script (α : Type)
  | finish (result : Except Failure α)
  | ask (r : Request) (next : Except Failure Value → Script α)
  | note (path : String) (entry : Entry) (next : Script α)
  | call (listener : Listener) (next : Except Failure Unit → Script α)

namespace Script

variable {α β : Type}

/-- The script that only fails. -/
def fail (failure : Failure) : Script α := .finish (.error failure)

/-- A script goes on with the value of another one; a failure ends both. -/
def bind : Script α → (α → Script β) → Script β
  | .finish (.ok a), f => f a
  | .finish (.error failure), _ => .finish (.error failure)
  | .ask r next, f => .ask r fun reply => (next reply).bind f
  | .note path entry next, f => .note path entry (next.bind f)
  | .call listener next, f => .call listener fun reply => (next reply).bind f

instance : Monad Script where
  pure a := .finish (.ok a)
  bind := bind

/-- A script that is given outright. -/
def ofExcept (result : Except Failure α) : Script α := .finish result

/-- One request. -/
def request (r : Request) : Script Value := .ask r .finish

/-- One entry for the journal. -/
def log (path : String) (entry : Entry) : Script Unit := .note path entry (.finish (.ok ()))

/-- A callback without a payload. -/
def callBack (listener : Listener) : Script Unit := .call listener .finish

/-- A script with a last part that is run however the script ends. -/
def ensuring (last : Script Unit) : Script α → Script α
  | .finish result => last.bind fun _ => .finish result
  | .ask r next => .ask r fun reply => ensuring last (next reply)
  | .note path entry next => .note path entry (ensuring last next)
  | .call listener next => .call listener fun reply => ensuring last (next reply)

/-- A script for each item, in turn. -/
def forEach : List α → (α → Script Unit) → Script Unit
  | [], _ => .finish (.ok ())
  | a :: rest, f => (f a).bind fun _ => forEach rest f

/-- A script is run with a host, from a stage to the next. -/
def run {σ : Type} (host : Host σ) : Script α → Stage σ → Except Failure α × Stage σ
  | .finish result, stage => (result, stage)
  | .ask r next, stage =>
      let (reply, stage) := stage.perform host r
      (next reply).run host stage
  | .note path entry next, stage => next.run host (stage.written path entry)
  | .call listener next, stage =>
      let (reply, stage) := stage.notify .null listener
      (next reply).run host stage

theorem run_bind {σ : Type} (host : Host σ) (script : Script α) (f : α → Script β)
    (stage : Stage σ) :
    (script.bind f).run host stage =
      match script.run host stage with
      | (.ok a, stage) => (f a).run host stage
      | (.error failure, stage) => (.error failure, stage) := by
  induction script generalizing stage with
  | finish result => cases result <;> rfl
  | ask r next ih => exact ih _ _
  | note path entry next ih => exact ih _
  | call listener next ih => exact ih _ _

end Script

end Cartography
