import DebugServer.Session.Basic

/-!
# Controlling the debuggee

Breakpoints, and the commands that let threads go on, stop them or end the program. A thread that
is told to go on or to pause loses its retained stop, whatever the engine answers.
-/

namespace DebugServer.Session

variable {σ : Type}

def finishConfiguration (engine : Engine σ) (s : Session σ) : Reply × Session σ :=
  if s.phase ≠ .configuring then (.refuse .configurationDone, s)
  else if s.program.isNone then (.refuse .notLaunched, s)
  else
    let (started, state) :=
      if s.stopAtEntry then engine.step mainThread .entry s.engine
      else engine.resume mainThread s.engine
    let s := { s with engine := state }
    match started with
    | .ok () => (.done, { s with reached := .running })
    | .error e => (.refuse (.entryFailed e), s)

def releaseStop (s : Session σ) (thread : ThreadId) : Session σ :=
  s.withTables (s.live.tables.release thread)

def resume (engine : Engine σ) (s : Session σ) (a : ThreadArguments) : Reply × Session σ :=
  if s.program.isNone then (.refuse .notLaunched, s)
  else
    let s := s.releaseStop a.thread
    let (resumed, state) := engine.resume a.thread s.engine
    (match resumed with
      | .ok () => .body (.continued ⟨false⟩)
      | .error e => .refuse (.continueFailed a.thread e),
     { s with engine := state })

def step (engine : Engine σ) (reason : StopReason) (s : Session σ) (a : ThreadArguments) :
    Reply × Session σ :=
  if s.program.isNone then (.refuse .notLaunched, s)
  else
    let s := s.releaseStop a.thread
    let (stepped, state) := engine.step a.thread reason s.engine
    (match stepped with
      | .ok () => .done
      | .error e => .refuse (.stepFailed a.thread e),
     { s with engine := state })

def pause (engine : Engine σ) (s : Session σ) (a : ThreadArguments) : Reply × Session σ :=
  if s.program.isNone then (.refuse .notLaunched, s)
  else
    let s := s.releaseStop a.thread
    let (willStop, state) := engine.interrupt a.thread .pause s.engine
    (if willStop then .done else .refuse (.pauseFailed a.thread), { s with engine := state })

def threads (engine : Engine σ) (s : Session σ) : Reply × Session σ :=
  if s.program.isNone then (.refuse .notLaunched, s)
  else
    let (threads, state) := engine.threads s.engine
    (.body (.threads ⟨threads.map fun t => ⟨t.id, t.name⟩⟩), { s with engine := state })

/-- Exactly `n` results: further ones are dropped, missing ones are invalid. -/
def fitResults (n : Nat) (results : List ResolvedBreakpoint) : List ResolvedBreakpoint :=
  results.take n ++ List.replicate (n - results.length) .invalid

/-- Asks the engine for breakpoints and reports one result for each request. -/
def resolve (engine : Engine σ) (s : Session σ) (target : BreakpointTarget)
    (requests : List BreakpointRequest) : Reply × Session σ :=
  let (results, state) := engine.setBreakpoints target requests s.engine
  let s := { s with engine := state }
  let reply : Reply :=
    .body (.breakpoints ⟨s.translator.reports (fitResults requests.length results)⟩)
  if results.length = requests.length then (reply, s)
  else
    (reply, s.log (Log.session .warn "engine returned a mismatched breakpoint count"
      [("requested", .number requests.length), ("resolved", .number results.length)]))

def setBreakpoints (engine : Engine σ) (s : Session σ) (a : SetBreakpointsArguments) :
    Reply × Session σ :=
  match a.source.path, s.program with
  | none, _ => (.refuse .missingSource, s)
  | some _, none => (.refuse .notLaunched, s)
  | some path, some program =>
    s.resolve engine (s.translator.target path program) (s.translator.lineRequests a)

def setFunctionBreakpoints (engine : Engine σ) (s : Session σ)
    (a : SetFunctionBreakpointsArguments) : Reply × Session σ :=
  if s.program.isNone then (.refuse .notLaunched, s)
  else s.resolve engine .all (Translator.functionRequests a.breakpoints)

/-- Asks the debuggee to end, if there is one; this always succeeds. -/
def terminate (engine : Engine σ) (s : Session σ) : Session σ :=
  if s.program.isNone then s
  else
    let s := s.log (Log.session .info "terminating debuggee" [])
    { s with engine := engine.terminate s.engine }

end DebugServer.Session
