import Mathlib.Data.List.Basic

/-! Coroutines of a cooperative event loop: syntax and the run of one slice.
A slice runs without interruption until the coroutine awaits or ends. What other
tasks and the outside do meanwhile reaches it only through the shared state. -/
namespace RoborockPlus.Async

/-- What a program brings along: its shared state, the events its history records,
its exceptions, what it awaits and receives, its coroutines and its outside inputs. -/
structure Signature where
  State : Type
  Event : Type
  Exn : Type
  Request : Type
  Reply : Type
  Call : Type
  Stimulus : Type

/-- `poll body r` is the loop `while True: body; await r`, left when the body has a result. -/
inductive Co (L : Signature) : Type → Type 1
  | ret {α : Type} (value : α) : Co L α
  | throw {α : Type} (error : L.Exn) : Co L α
  | act {α : Type} (f : L.State → α × L.State) : Co L α
  | emit (event : L.Event) : Co L Unit
  | spawn (call : L.Call) : Co L ℕ
  | cancel (task : ℕ) : Co L Unit
  | await (request : L.Request) : Co L L.Reply
  | bind {α β : Type} (first : Co L β) (next : β → Co L α) : Co L α
  | attempt {α : Type} (body : Co L α) (handler : L.Exn → Co L α) : Co L α
  | poll {α : Type} (body : Co L (Option α)) (request : L.Request) : Co L α

/-- One entry of the history. Every entry but an outside input belongs to one task. -/
inductive Item (L : Signature)
  | outside (input : L.Stimulus)
  | started (task : ℕ) (call : L.Call)
  | spawned (task child : ℕ) (call : L.Call)
  | event (task : ℕ) (event : L.Event)
  | waiting (task : ℕ) (request : L.Request)
  | resumed (task : ℕ) (answer : Except L.Exn L.Reply)
  | finished (task : ℕ)
  | failed (task : ℕ) (error : L.Exn)

/-- What an assertion sees: the shared state and the history, newest entry first. -/
structure Point (L : Signature) where
  state : L.State
  history : List (Item L)

structure Conf (L : Signature) extends Point L where
  next : ℕ
  ready : List (ℕ × L.Call)
  cancelled : List ℕ

inductive Out (L : Signature) (α : Type) : Type 1
  | done (value : α)
  | failed (error : L.Exn)
  | wait (request : L.Request) (rest : Except L.Exn L.Reply → Co L α)

variable {L : Signature} {α β : Type}

instance : Monad (Co L) where
  pure := .ret
  bind := .bind

namespace Co

def get : Co L L.State := .act fun s => (s,s)

def modify (f : L.State → L.State) : Co L Unit := .act fun s => ((),f s)

def give : Except L.Exn L.Reply → Co L L.Reply
  | .ok value => .ret value
  | .error error => .throw error

def guarded (body : Co L α) (cleanup : Co L Unit) : Co L α :=
  .bind (.attempt body fun error => .bind cleanup fun _ => .throw error)
    fun value => .bind cleanup fun _ => .ret value

def again (body : Co L (Option α)) (request : L.Request) : Option α → Co L α
  | some value => .ret value
  | none => .bind (.await request) fun _ => .poll body request

end Co

def Point.push (p : Point L) (item : Item L) : Point L := {p with history := item :: p.history}

@[simp] theorem Point.push_history (p : Point L) (item : Item L) :
    (p.push item).history = item :: p.history := rfl

def Conf.push (c : Conf L) (item : Item L) : Conf L := {c with history := item :: c.history}

/-- One slice of the task `t`. It is total: a loop whose body has no result waits
before it starts over. -/
def Co.run (t : ℕ) {α : Type} : Co L α → Conf L → Out L α × Conf L
  | .ret value, c => (.done value,c)
  | .throw error, c => (.failed error,c)
  | .act f, c => (.done (f c.state).1,{c with state := (f c.state).2})
  | .emit event, c => (.done (),c.push (.event t event))
  | .spawn call, c =>
    (.done c.next,{c.push (.spawned t c.next call) with
      next := c.next+1, ready := c.ready ++ [(c.next,call)]})
  | .cancel task, c => (.done (),{c with cancelled := task :: c.cancelled})
  | .await request, c => (.wait request .give,c)
  | .bind first next, c =>
    match first.run t c with
    | (.done value,c) => (next value).run t c
    | (.failed error,c) => (.failed error,c)
    | (.wait request rest,c) => (.wait request fun answer => .bind (rest answer) next,c)
  | .attempt body handler, c =>
    match body.run t c with
    | (.done value,c) => (.done value,c)
    | (.failed error,c) => (handler error).run t c
    | (.wait request rest,c) => (.wait request fun answer => .attempt (rest answer) handler,c)
  | .poll body request, c =>
    match body.run t c with
    | (.done (some value),c) => (.done value,c)
    | (.done none,c) => (.wait request fun answer => .bind (.give answer) fun _ => .poll body request,c)
    | (.failed error,c) => (.failed error,c)
    | (.wait inner rest,c) => (.wait inner fun answer => .bind (rest answer) (.again body request),c)

end RoborockPlus.Async
