import PhpCompletion.Client

/-!
# Background requests

A client answers background requests on a pool of workers. A call checks the offset at once (a
bad one fails the call itself and makes no request), is refused at once by a pool that was shut
down, and otherwise queues the request. The request's future is then pending until a free
worker takes it, running while the worker's query is under way, and finished with the query's
answer or failure; a pending future may instead be cancelled, by the caller or by the pool's
shutdown. A running or finished future cannot be cancelled.

The call then attaches its receiver to the future and returns. The receiver is given the
future's outcome once, when the future is done: at once if it already is, else when it gets
done. A refused call gives its receiver the refusal itself, before it returns, and its future
holds that refusal.

A run is any interleaving of calls, of their returns, of the workers' steps, of cancellations,
of new settings and of the shutdown (`Background.Event`); `Background.step` takes one event and
`Background.run` a list of them.
-/

namespace PhpCompletion

/-- Where the future of a background request stands. -/
inductive FutureState where
  /-- Waiting in the pool's queue. -/
  | pending
  /-- Taken by a worker, its query under way. -/
  | running
  /-- Done with an answer or a failure: the query's, or the refusal of a pool that was shut
  down. -/
  | finished (result : Except Fault (List Suggestion))
  /-- Cancelled before any worker took it. -/
  | cancelled

namespace FutureState

/-- What the receiver of a done future is given: the suggestions, or the failure, a cancelled
future's being the cancellation; nothing while the future is not done. -/
def outcome : FutureState → Option (Except Fault (List Suggestion))
  | .finished r => some r
  | .cancelled => some (.error (.cancelled Text.empty))
  | _ => none

def isRunning : FutureState → Bool
  | .running => true
  | _ => false

end FutureState

/-- A background request: what it asks, its future, and whether the call that made it has
returned, its receiver then waiting on the future or already given the outcome. -/
structure Request where
  source : Text
  offset : Json
  state : FutureState
  handed : Bool

/-- A client with its pool of workers: the host its queries run in, its requests by number,
and every outcome given to a receiver, in order, with the number of its request. -/
structure Background where
  client : Client
  host : Host
  requests : List Request
  given : List (Nat × Except Fault (List Suggestion))

/-- One event of a run. -/
inductive Background.Event where
  /-- A call asks for the suggestions at an offset of a source text. -/
  | ask (source : Text) (offset : Json)
  /-- The call that made a request attaches its receiver to the future, and returns. -/
  | attach (i : Nat)
  /-- The caller cancels a request. -/
  | cancel (i : Nat)
  /-- A free worker takes a request from the queue. -/
  | start (i : Nat)
  /-- The worker of a request ends its query. -/
  | finish (i : Nat)
  /-- The client takes new settings. -/
  | configure (s : Settings)
  /-- The pool is shut down, and its waiting requests cancelled. -/
  | shutdown

namespace Background

def init (c : Client) (h : Host) : Background := ⟨c, h, [], []⟩

def busy (b : Background) : Nat := (b.requests.filter fun r => r.state.isRunning).length

def givenTo (b : Background) (i : Nat) : List (Except Fault (List Suggestion)) :=
  (b.given.filter fun g => g.1 == i).map Prod.snd

def giveNow (i : Nat) (s : FutureState) : List (Nat × Except Fault (List Suggestion)) :=
  s.outcome.toList.map fun o => (i, o)

/-- Move a request's future on; a receiver that waits on it is given the outcome when the
future is done. -/
def settle (b : Background) (i : Nat) (s : FutureState) : Background :=
  match b.requests[i]? with
  | none => b
  | some r =>
      { b with requests := b.requests.set i { r with state := s }
               given := if r.handed then b.given ++ giveNow i s else b.given }

/-- A call: the offset is checked first; a pool that was shut down refuses the request, whose
receiver is given the refusal at once; otherwise the request waits in the queue. The request's
number is returned. -/
def ask (b : Background) (source : Text) (offset : Json) : Except Fault Nat × Background :=
  match Offset.check source offset with
  | .error f => (.error f, b)
  | .ok _ =>
      let i := b.requests.length
      if b.client.accepting then
        (.ok i, { b with requests := b.requests ++ [⟨source, offset, .pending, false⟩] })
      else
        let refusal : Except Fault (List Suggestion) := .error (.service .workerStopped)
        (.ok i, { b with requests := b.requests ++ [⟨source, offset, .finished refusal, true⟩]
                         given := b.given ++ [(i, refusal)] })

/-- The call that made a request attaches its receiver: a future already done gives it the
outcome at once. -/
def attach (b : Background) (i : Nat) : Background :=
  match b.requests[i]? with
  | some r =>
      if r.handed then b
      else { b with requests := b.requests.set i { r with handed := true }
                    given := b.given ++ giveNow i r.state }
  | none => b

def cancel (b : Background) (i : Nat) : Bool × Background :=
  match (b.requests[i]?).map Request.state with
  | some .pending => (true, b.settle i .cancelled)
  | some .cancelled => (true, b)
  | _ => (false, b)

def start (b : Background) (i : Nat) : Background :=
  match (b.requests[i]?).map Request.state with
  | some .pending => if b.busy < b.client.workers then b.settle i .running else b
  | _ => b

def finish (b : Background) (i : Nat) : Background :=
  match b.requests[i]? with
  | some ⟨src, off, .running, _⟩ =>
      let (r, h) := b.client.query Client.workerRoom b.host src off
      { b with host := h }.settle i (.finished r)
  | _ => b

/-- Shut the pool down: no request is taken any more, and every pending request is
cancelled. -/
def shutdown (b : Background) : Background :=
  (List.range b.requests.length).foldl (fun b i => (b.cancel i).2) { b with client := b.client.stop }

def step (b : Background) : Event → Background
  | .ask src off => (b.ask src off).2
  | .attach i => b.attach i
  | .cancel i => (b.cancel i).2
  | .start i => b.start i
  | .finish i => b.finish i
  | .configure s => { b with client := b.client.applySettings s }
  | .shutdown => b.shutdown

def run (b : Background) (evs : List Event) : Background := evs.foldl step b

@[simp] theorem run_nil (b : Background) : b.run [] = b := rfl

@[simp] theorem run_append_singleton (b : Background) (evs : List Event) (ev : Event) :
    b.run (evs ++ [ev]) = (b.run evs).step ev := by
  simp [run, List.foldl_append]

end Background

end PhpCompletion
