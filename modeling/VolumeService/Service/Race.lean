import VolumeService.Service.Basic

/-! # Workers racing on the shared service

Any number of workers mount and unmount one device through the shared service; a schedule
says whose call is next.

* **Rounds.** A worker goes through rounds.  In each it mounts the device without a name, and
  in some it then unmounts the volume by its name, with its own handle still in hand.
* **Calls are indivisible,** because each is one critical section; the schedule may put calls
  of other workers between any two.
* **Handles** are let go at the end of the round. -/

namespace VolumeService

/-- What one call of a worker brought; a mounted volume stands with the id read off it. -/
inductive RaceEvent where
  | mounted (v : VolumeHandle) (id : Option VolumeId)
  | unmounted (mine got : VolumeHandle)
  | failed (outcome : Outcome Reply)

/-- The volume that a call mounted, with its id. -/
def RaceEvent.mount? : RaceEvent → Option (VolumeHandle × Option VolumeId)
  | .mounted v id => some (v, id)
  | _ => none

/-- A worker: for each round left whether it unmounts, the volume in hand, and its history. -/
structure Worker where
  rounds : List Bool
  inHand : Option VolumeHandle := none
  history : List RaceEvent := []

/-- Workers on one device of one service. -/
structure Race (σ : Type) where
  device : NodeId
  service : Service
  world : World σ
  workers : List Worker

namespace Race

variable {σ : Type} [DriverModel σ]

/-- A worker unmounts the volume in its hand by name and lets go of all handles. -/
def unmountStep (r : Race σ) (i : Nat) (worker : Worker) (v : VolumeHandle) : Race σ :=
  match r.service.call r.world (.unmount v.name) with
  | (.value (.volume (.ok got)), service, world) =>
    { r with
      service
      world := (world.release got).release v
      workers := r.workers.set i
        { worker with inHand := none, history := worker.history ++ [.unmounted v got] } }
  | (outcome, service, world) =>
    { r with
      service
      world := world.release v
      workers := r.workers.set i
        { worker with inHand := none, history := worker.history ++ [.failed outcome] } }

/-- A worker mounts the device and keeps the handle if it is going to unmount. -/
def mountStep (r : Race σ) (i : Nat) (worker : Worker) (unmounts : Bool) (rounds : List Bool) :
    Race σ :=
  match r.service.call r.world (.mount r.device none) with
  | (.value (.volume (.ok v)), service, world) =>
    { r with
      service
      world := if unmounts then world else world.release v
      workers := r.workers.set i
        { rounds
          inHand := if unmounts then some v else none
          history := worker.history ++ [.mounted v (world.idOf v)] } }
  | (outcome, service, world) =>
    { r with
      service
      world
      workers := r.workers.set i
        { rounds, history := worker.history ++ [.failed outcome] } }

/-- The next call of a worker; nothing when the worker is done. -/
def step (r : Race σ) (i : Nat) : Race σ :=
  match r.workers[i]? with
  | none => r
  | some worker =>
    match worker.inHand, worker.rounds with
    | some v, _ => r.unmountStep i worker v
    | none, unmounts :: rounds => r.mountStep i worker unmounts rounds
    | none, [] => r

/-- Runs a schedule. -/
def run (r : Race σ) (schedule : List Nat) : Race σ := schedule.foldl step r

/-- The schedule that lets the workers finish one after the other. -/
def oneByOne (workers calls : Nat) : List Nat :=
  (List.range workers).flatMap fun i => List.replicate calls i

omit [DriverModel σ] in
/-- The first panic that a worker met, if any did. -/
def panic? (r : Race σ) : Option Panic :=
  (r.workers.flatMap Worker.history).findSome? fun
    | .failed (.panic p) => some p
    | _ => none

omit [DriverModel σ] in
/-- All volumes that workers mounted, worker by worker. -/
def mounts (r : Race σ) : List (VolumeHandle × Option VolumeId) :=
  r.workers.flatMap fun worker => worker.history.filterMap RaceEvent.mount?

omit [DriverModel σ] in
/-- The names of all volumes that workers mounted, in byte order. -/
def names (r : Race σ) : List String :=
  (r.mounts.map fun mount => mount.1.name).mergeSort fun a b => !decide (Name.Before b a)

end Race

end VolumeService
