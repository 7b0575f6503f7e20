import Workflow.Config.Basic
import Workflow.Definition.Validation
import Workflow.Engine.Thread
import Workflow.Event.Bus
import Workflow.Registry
import Workflow.Text.Quoted

/-!
# The engine

An engine holds what its runs share: configuration, registered workflows, the control of its runs,
the event bus, a clock, and the host. It answers the requests of a run, at once or later.

## Main definitions

* `Workflow.Engine` — the engine.
* `Workflow.Engine.register` — a workflow is checked and registered.
* `Workflow.Engine.control` — pausing, resuming and cancelling.
* `Workflow.Engine.poll`, `Workflow.Engine.repoll` — the answer to a request.
-/

namespace Workflow

/-- An engine with a host. -/
structure Engine (σ : Type) where
  config : Config
  registry : Registry
  runs : Control
  bus : Bus Event
  /-- The time in milliseconds. -/
  now : Nat
  /-- What its identifiers have in common: they differ in their last digits. -/
  idBase : Nat
  /-- How many identifiers were given out. -/
  issued : Nat
  /-- When the runs and steps that go on have started. -/
  started : List ((RunId × String) × Nat)
  host : Host σ
  hostState : σ
  /-- Branches that nothing waits for any more. -/
  detached : List (Thread BranchResult)

/-- The answer to a request: given, or to be waited for; or the host crashes. -/
inductive Polled (r : Request) where
  | answered (a : r.Answer)
  | blocked (b : Blocked r)
  | crashed (report : String)

namespace Engine

variable {σ : Type}

/-- An engine that has run nothing. -/
def initial (config : Config) (host : Host σ) (hostState : σ) (idBase : Nat) : Engine σ where
  config := config
  registry := .empty
  runs := .initial
  bus := .ofCapacity config.eventCapacity
  now := 0
  idBase := idBase
  issued := 0
  started := []
  host := host
  hostState := hostState
  detached := []

/-- The identifier that is given out after `n` others. -/
def idAfter (idBase n : Nat) : RunId := .ofNat (idBase + n + 1)

/-- Gives out an identifier. -/
def freshId (e : Engine σ) : RunId × Engine σ :=
  (idAfter e.idBase e.issued, { e with issued := e.issued + 1 })

/-! ### Events -/

/-- The time that has passed since a run or a step has started. -/
def elapsed (e : Engine σ) (run : RunId) (path : String) : Nat :=
  match e.started.find? fun s => s.1 = (run, path) with
  | some (_, t) => e.now - t
  | none => 0

/-- The engine with the start of a run or a step noted. -/
def noteStart (e : Engine σ) (run : RunId) (path : String) : Engine σ :=
  { e with started := ((run, path), e.now) :: e.started.filter fun s => s.1 ≠ (run, path) }

/-- The engine with a run or a step no longer noted. -/
def noteEnd (e : Engine σ) (run : RunId) (path : String) : Engine σ :=
  { e with started := e.started.filter fun s => s.1 ≠ (run, path) }

/-- The engine with an event on its bus as it stands. -/
def emit (e : Engine σ) (event : Event) : Engine σ := { e with bus := e.bus.publish event }

/-- The engine with an event on its bus; what ends is told how long it took. -/
def publish (e : Engine σ) (event : Event) : Engine σ :=
  match event with
  | .started run _ _ => (e.noteStart run "").emit event
  | .stepStarted run p _ _ => (e.noteStart run p.path).emit event
  | .stepCompleted run p name result _ =>
    (e.emit (.stepCompleted run p name result (e.elapsed run p.path))).noteEnd run p.path
  | .stepFailed run p _ _ => (e.emit event).noteEnd run p.path
  | .completed run i _ n results =>
    (e.emit (.completed run i (e.elapsed run "") n results)).noteEnd run ""
  | .failed run _ _ => (e.emit event).noteEnd run ""
  | _ => e.emit event

/-! ### Registering and control -/

/-- Registers a workflow at a time: one without an identifier is given one, and the times of its
creation and change are noted; what is not accepted is not registered. -/
def register (e : Engine σ) (time : Timestamp) (d : Definition) :
    Except DefinitionError (String × Engine σ) :=
  let (id, e) := if Text.allBlank d.id then
      let (r, e) := e.freshId
      (r.text, e)
    else (d.id, e)
  let d := { d with id := id, createdAt := d.createdAt.or (some time), updatedAt := some time }
  match d.validate with
  | .ok d => .ok (id, { e with registry := e.registry.put d })
  | .error err => .error err

/-- Pauses, resumes or cancels. -/
def control (e : Engine σ) : ControlRequest → Except ControlError Unit × Engine σ
  | .pause =>
    match e.runs.pause with
    | .ok (c, event) => (.ok (), { e with runs := c }.publish event)
    | .error err => (.error err, e)
  | .resume =>
    match e.runs.resume with
    | .ok (c, event) => (.ok (), { e with runs := c }.publish event)
    | .error err => (.error err, e)
  | .cancel => (.ok (), { e with runs := e.runs.cancel })

/-! ### Answers -/

/-- The report of a crash. -/
def crashReport (e : Engine σ) (message : String) : String :=
  "task " ++ Decimal.natText e.issued ++ " panicked with message " ++ Text.quoted message

/-- Goes through the reply of a host as far as time allows. -/
def followReply (call : ActionCall) : Reply → Engine σ → Polled (.perform call) × Engine σ
  | .answer r, e => (.answered r, e)
  | .after ms rest, e =>
    if ms = 0 then followReply call rest e else (.blocked (.host (e.now + ms) rest), e)
  | .control c rest, e =>
    let (r, e) := e.control c
    followReply call (rest r) e
  | .crash message, e => (.crashed (e.crashReport message), e)

/-- Publishes what a script has logged. -/
def publishLog (e : Engine σ) (s : ScriptRequest) (log : List (LogLevel × String)) : Engine σ :=
  log.foldl (fun e (level, message) =>
    e.publish (.scriptLog s.run s.location.forEvents level message)) e

/-- The answer to a request when it is made. -/
def poll (e : Engine σ) : (r : Request) → Polled r × Engine σ
  | .boundary =>
    match e.runs.boundary with
    | .passes => (.answered true, e)
    | .waits => (.blocked .boundary, e)
    | .ends => (.answered false, e)
  | .attempt _ => (.answered (), e)
  | .publish event => (.answered (), e.publish event)
  | .perform call =>
    let (s, reply) := e.host.perform e.hostState call
    followReply call reply { e with hostState := s }
  | .evaluate s =>
    match e.host.evaluate s with
    | .ended log r => (.answered r, e.publishLog s log)
    | .hangs =>
      if e.runs.isCancelled s.token then (.answered (.error .cancelled), e)
      else (.blocked (.script (s.limit.map (e.now + ·))), e)
  | .sleep token ms =>
    if e.runs.isCancelled token then (.answered false, e)
    else if ms = 0 then (.answered true, e)
    else (.blocked (.sleep (e.now + ms)), e)
  | .isCancelled token => (.answered (e.runs.isCancelled token), e)
  | .recordProgress index env => (.answered (), { e with runs := e.runs.recordProgress index env })
  | .recordEnvironment env => (.answered (), { e with runs := e.runs.recordEnvironment env })
  | .lookup id => (.answered (e.registry.get? id), e)
  | .freshId =>
    let (r, e) := e.freshId
    (.answered r, e)
  | .begin identity totalSteps env =>
    match e.runs.begin identity totalSteps env with
    | .ok (token, c) => (.answered (.ok token), { e with runs := c })
    | .error err => (.answered (.error err), e)
  | .finish outcome =>
    let (state, c) := e.runs.finish outcome
    (.answered (state, c.progress.currentStep), { e with runs := c })

/-- The answer to a request that was waited for. -/
def repoll (e : Engine σ) {r : Request} : Blocked r → Polled r × Engine σ
  | .boundary => e.poll .boundary
  | @Blocked.sleep token _ deadline =>
    if e.runs.isCancelled token then (.answered false, e)
    else if deadline ≤ e.now then (.answered true, e)
    else (.blocked (.sleep deadline), e)
  | @Blocked.script s deadline =>
    if e.runs.isCancelled s.token then (.answered (.error .cancelled), e)
    else if deadline.any (· ≤ e.now) then (.answered (.error (.timedOut (s.limit.getD 0))), e)
    else (.blocked (.script deadline), e)
  | @Blocked.host call deadline rest =>
    if deadline ≤ e.now then followReply call rest e else (.blocked (.host deadline rest), e)

end Engine

end Workflow
