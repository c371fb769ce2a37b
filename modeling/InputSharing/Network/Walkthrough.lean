import InputSharing.Network.Schedule

/-!
# A walk through relaying

Three nodes share one hub.  The desk asks the laptop to borrow the mouse of the
tablet, the mouse moves a little, and the mouse is given back.
`Walkthrough.report` tells what came of it, line by line.
-/

namespace InputSharing.Walkthrough

def desk : DeviceId := ⟨"desk"⟩

def laptop : DeviceId := ⟨"laptop"⟩

def tablet : DeviceId := ⟨"tablet"⟩

def mouse : Device := ⟨⟨"tablet-mouse"⟩, "Tablet Mouse", TypeMask.mouse⟩

def keyboard : Device := ⟨⟨"tablet-kbd"⟩, "Tablet Keyboard", TypeMask.keyboard⟩

def movement (distance : Int32) : InputEvent :=
  { handle := mouse.handle
    eventClass := EventClass.relative
    code := 0
    value := distance
    whenUs := 0 }

def start : Schedule :=
  let setups : List NodeSetup :=
    [{ device := desk }, { device := laptop }, { device := tablet, devices := [mouse, keyboard] }]
  ({ network := setups.foldl Network.spawn { clock := 0 } } : Schedule).settle

def ask (ticket : Ticket) (request : Request) (schedule : Schedule) : Schedule :=
  (schedule.change fun network =>
    network.call desk ticket (.relayed laptop tablet request)).settle

def borrowed : Schedule :=
  ask 1 (.startByType TypeMask.mouse) (ask 0 .prepare start)

def moved : Schedule :=
  let events := [movement 3, movement 5, movement (-2)]
  (borrowed.change fun network => (network.emit tablet events).2).settle

def returned : Schedule :=
  ask 3 .unprepare (ask 2 (.stopByType TypeMask.mouse) moved)

def outcome : Except SharingError Grant → String
  | .error error => "refused, " ++ error.message
  | .ok (.types granted) => "granted " ++ granted.display
  | .ok (.handles granted) =>
      "granted " ++ ", ".intercalate (granted.toList.map HandleId.text)
  | .ok .done | .ok (.allowList _) => "done"

def report : List String :=
  let calls := returned.network.completions.map fun ending =>
    "desk: call " ++ toString ending.ticket ++ " " ++ outcome ending.result
  let injected :=
    (moved.network.nodes[laptop]?.map fun node => node.injector.injected.length).getD 0
  let states :=
    match moved.network.sink? tablet with
    | .error error => [error.message]
    | .ok sink => sink.tracker.marks.toList.map fun (handle, state) =>
        "tablet: " ++ handle.text ++ " was " ++ state.name
  ("laptop: " ++ toString injected ++ " events injected") :: states ++ calls

end InputSharing.Walkthrough
