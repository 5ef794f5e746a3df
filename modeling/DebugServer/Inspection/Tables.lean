import DebugServer.Inspection.VariableTable

/-!
# What a stopped program offers for inspection

The last stop of each thread is retained until the client lets the thread go on. Every stop
invalidates the handles of all frames and variables, because they were read from a state that is
over.
-/

namespace DebugServer

/-- The retained stops, at most one for each thread. -/
structure RetainedStops where
  stops : List StopEvent
deriving Inhabited

namespace RetainedStops

def empty : RetainedStops :=
  ⟨[]⟩

def size (r : RetainedStops) : Nat :=
  r.stops.length

def get? (r : RetainedStops) (thread : ThreadId) : Option StopEvent :=
  r.stops.find? (·.thread = thread)

def release (r : RetainedStops) (thread : ThreadId) : RetainedStops :=
  ⟨r.stops.filter (·.thread ≠ thread)⟩

/-- Retains a stop in place of an earlier one of the same thread. -/
def retain (r : RetainedStops) (stop : StopEvent) : RetainedStops :=
  ⟨stop :: (r.release stop.thread).stops⟩

end RetainedStops

structure Tables where
  frames : HandleTable Frame
  values : VariableTable
  stops : RetainedStops
deriving Inhabited

namespace Tables

def empty (limits : TextLimits) : Tables :=
  ⟨.empty, .empty limits, .empty⟩

def purge (t : Tables) : Tables :=
  { t with frames := t.frames.purge, values := t.values.purge }

def recordStop (t : Tables) (stop : StopEvent) : Tables :=
  { t.purge with stops := t.stops.retain stop }

def retained? (t : Tables) (thread : ThreadId) : Option (StopEvent × Epoch) :=
  (t.stops.get? thread).map fun stop => (stop, t.frames.epoch)

def release (t : Tables) (thread : ThreadId) : Tables :=
  { t with stops := t.stops.release thread }

/-- Invalidates all handles and lets all stops go. -/
def clear (t : Tables) : Tables :=
  { t.purge with stops := .empty }

/-- Reads frames of a retained stop. A read that another thread's stop overtakes invalidates every
handle on the way. -/
def readFrames (t : Tables) (stop : StopEvent) (first last : Nat) : List Frame × Tables :=
  let frames := stop.stack.window first last
  match stop.stack.overtaken with
  | 0 => (frames, t)
  | n + 1 =>
    let stop := { stop with stack := { stop.stack with overtaken := n } }
    (frames, { t.purge with stops := t.stops.retain stop })

end Tables

end DebugServer
