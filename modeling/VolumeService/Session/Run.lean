import VolumeService.Session.DriverSteps
import VolumeService.Session.LockSteps
import VolumeService.Session.TableSteps
import VolumeService.Session.VolumeSteps

/-! # Running a session

`execute` does one command: the step is performed, what it made is kept or let go, the list of
volumes is described if the step is about one, nodes that nobody holds are reclaimed, and the
trace of the step becomes part of the answer.  A step that cannot be performed leaves the
session as it was. -/

namespace VolumeService.Session

/-- What a step about the log does. -/
def performLog (s : Session) : LogStep → Response
  | .log level text => (s.modifyWorld (·.emit { level, text })).respond .done
  | .setThreshold level =>
    (s.modifyWorld fun w => { w with log := { w.log with threshold := level } }).respond .done
  | .threshold => s.respond (.level s.world.log.threshold)
  | .setSink sink =>
    (s.modifyWorld fun w => { w with log := { w.log with sink := some sink } }).respond .done

/-- What a step does. -/
def perform (s : Session) : Step → Option Response
  | .node step => s.performNode step
  | .driver step => s.performDriver step
  | .volume step => s.performVolume step
  | .table step => s.performTable step
  | .label step => s.performLabel step
  | .log step => some (s.performLog step)
  | .lock origin steps => some (s.respond (.lock (useLock origin steps)))

/-- The list of volumes that belongs to the answer of a step. -/
def listing (s : Session) (step : Step) (result : Result) :
    Option (List (Option VolumeId × String)) :=
  match step, result with
  | _, .panic _ => none
  | .table step, _ => s.listed? step
  | _, _ => none

/-- The records of a trace that reached a sink, each with its sink. -/
def delivered (trace : List Event) : List (Log.Record × Log.Sink) :=
  trace.filterMap fun
    | .record record (some sink) => some (record, sink)
    | _ => none

/-- The calls of drivers in a trace. -/
def driverCalls (trace : List Event) : List Event :=
  trace.filter fun
    | .record _ _ => false
    | _ => true

theorem driverCalls_append (first second : List Event) :
    driverCalls (first ++ second) = driverCalls first ++ driverCalls second :=
  List.filter_append ..

/-- Does a command and answers it. -/
def execute (s : Session) (command : Command) : Answer × Session :=
  match s.perform command.step with
  | none => ({ result := .bad }, s)
  | some response =>
    let kept := response.session.keepOrLetGo command.label response.made
    let trace := kept.world.trace
    let after := (kept.modifyWorld ({ · with trace := [] })).settle
    ({ result := response.result
       records := delivered trace
       calls := driverCalls trace
       volumes := response.session.listing command.step response.result }, after)

/-- Does commands one after the other. -/
def run (s : Session) : List Command → List Answer × Session
  | [] => ([], s)
  | command :: rest =>
    let first := s.execute command
    let more := first.2.run rest
    (first.1 :: more.1, more.2)

end VolumeService.Session
