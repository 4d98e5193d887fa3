import TokenAuthority.Pipeline.Basic

/-!
# Layers

The layers that surround every route: the logger brackets a request, the boundary turns failures
into answers, the meter counts, and the safety net turns panics into failures. Their order matters;
`global` has it. A marker is a layer that only notes that it was passed.
-/

namespace TokenAuthority.Pipeline

/-- Logs that a request starts and, unless a panic gets this far, that it is complete. -/
def logger : Middleware := fun next context state =>
  match next context (state.log (.requestStarted context.subject)) with
  | (.panic panic, after) => (.panic panic, after)
  | (outcome, after) =>
      (outcome, after.log (.requestCompleted context.subject after.recorded))

/-- Logs a failure once and answers with its envelope. A failure that is to stop the service is
passed on, with its status recorded. -/
def boundary (table : StatusTable) : Middleware := fun next context state =>
  match next context state with
  | (.failure failure, after) =>
      let after := after.log (Log.Event.ofFailure failure)
      if failure.isShutdown then (.failure failure, after.record (table.status failure.kind))
      else answered (respondFailure table failure after)
  | passed => passed

def meter : Middleware := fun next context state =>
  match next context (state.count Counters.enter) with
  | (.failure failure, after) =>
      (.failure failure, (after.count Counters.countError).count Counters.leave)
  | (outcome, after) => (outcome, after.count Counters.leave)

def safetyNet : Middleware := fun next context state =>
  match next context state with
  | (.panic panic, after) =>
      (.failure (.panic panic.message panic.trace), after.count Counters.countPanic)
  | passed => passed

/-- The layers of every route, outermost first. -/
def global (table : StatusTable) : List Middleware :=
  [logger, boundary table, meter, safetyNet]

/-! ## Markers -/

def leavingNote (name : String) (recorded : Http.Status) : Outcome → Option String
  | .response response =>
      some (name ++ " out " ++ Nat.repr response.status.code ++ " " ++ Nat.repr recorded.code)
  | .failure failure =>
      some (name ++ " out " ++ failure.kind.name ++ " " ++ Nat.repr recorded.code)
  | .panic _ => none

def marker (name : String) : Middleware := fun next context state =>
  let (outcome, after) :=
    next context (state.note (name ++ " in " ++ Nat.repr state.recorded.code))
  match leavingNote name after.recorded outcome with
  | some words => (outcome, after.note words)
  | none => (outcome, after)

end TokenAuthority.Pipeline
