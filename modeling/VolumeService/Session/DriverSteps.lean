import VolumeService.Session.NodeSteps

/-! # What the steps about drivers and registries do

Drivers and registries are made and changed here.  Questions about drivers go to a registry
under a label, or as requests to a mount table or the shared service. -/

namespace VolumeService.Session

/-- The response to a driver that was searched for. -/
def respondDriver? (s : Session) : Option DriverHandle → Response
  | some driver => s.respond (.text driver.name)
  | none => s.respond .absent

/-- The response to a driver that was to be registered. -/
def respondRegistered (s : Session) : Except RegistryError Unit → Response
  | .ok () => s.respond .done
  | .error cause => { session := s, result := .registryError cause }

/-- The response to a reply that is about drivers. -/
def respondDriverReply (s : Session) : Outcome Reply → Response
  | .value (.driver driver) => s.respondDriver? driver
  | .value (.drivers list) => s.respond (.texts (list.map DriverHandle.name))
  | .panic p => { session := s, result := .panic p }
  | _ => { session := s, result := .unfinished }

/-- Has a table or the service answer a question about drivers. -/
def askDrivers (s : Session) (source : TableRef) (request : Request) : Option Response :=
  (s.target? source).bind fun target =>
    (s.system.request target request).map fun answer =>
      { s with system := answer.2 }.respondDriverReply answer.1

/-- The registry that a reference means, if it means a registry. -/
def sourceRegistry? (s : Session) : TableRef → Option Registry
  | .label label => s.registry? label
  | .service => none

/-- What a step about drivers and registries does. -/
def performDriver (s : Session) : DriverStep → Option Response
  | .newDriver name format identify mount effects =>
    match mount.mapNodes? s.node?, effects.mapM (Effect.mapNodes? s.dir? s.node?) with
    | some mount, some effects =>
      let driver : ScriptedDriver := { format, identify, mount, effects }
      some
        { session := s.modifyWorld (·.pushDriver driver)
          result := .value .done
          made := some (.driver (s.world.driverHandleFor name)) }
    | _, _ => none
  | .tune driver identify mount =>
    match s.driver? driver, mount.mapM (MountRule.mapNodes? s.node?) with
    | some d, some mount =>
      let change (state : ScriptedDriver) : ScriptedDriver :=
        { state with
          identify := identify.getD state.identify
          mount := mount.getD state.mount }
      some ((s.modifyWorld fun w =>
        { w with drivers := w.drivers.modify d.cell.index change }).respond .done)
    | _, _ => none
  | .newRegistry drivers =>
    (drivers.mapM s.driver?).map fun drivers =>
      let call := Registry.empty.registerAll s.world drivers
      { session := s.modifyWorld fun _ => call.2.2
        result := .value (.registered call.1)
        made := some (.registry call.2.1) }
  | .register registry driver =>
    match s.registry? registry, s.driver? driver with
    | some r, some d =>
      let call := r.register s.world d
      let s := (s.modifyWorld fun _ => call.2.2).keep registry (.registry call.2.1)
      some (s.respondRegistered call.1)
    | _, _ => none
  | .find source name =>
    match s.sourceRegistry? source with
    | some r => some (s.respondDriver? (r.find? name))
    | none => s.askDrivers source (.findDriver name)
  | .identify source device =>
    (s.node? device).bind fun device =>
      match s.sourceRegistry? source with
      | some r =>
        let call := s.world.identifyFirst device r.drivers
        some ((s.modifyWorld fun _ => call.2).respondDriver? call.1)
      | none => s.askDrivers source (.identify device)
  | .names source =>
    match s.sourceRegistry? source with
    | some r => some (s.respond (.texts r.names))
    | none => s.askDrivers source .drivers

end VolumeService.Session
