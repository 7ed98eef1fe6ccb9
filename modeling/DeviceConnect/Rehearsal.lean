import DeviceConnect.Host

/-! A host whose devices act by a plan: which addresses a listing shows, which links an address
opens, what each link answers. -/
namespace DeviceConnect

inductive LinkPlan where
  | fails (error : TransportError)
  /-- The first answers in turn; after them the device, if there is one, answers for itself. -/
  | answers (replies : List (Except TransportError Response)) (device : Option DeviceHello)

structure RehearsedLink where
  replies : List (Except TransportError Response)
  device : Option DeviceHello

structure Rehearsal where
  rounds : List (List Address)
  ignoresFilter : Bool
  /-- The links each address opens in turn, by its canonical text; the last one repeats. -/
  devices : List (String × List LinkPlan)

namespace Rehearsal

def takeTurn {α} : List α → Option (α × List α)
  | [] => none
  | [x] => some (x, [x])
  | x :: rest => some (x, rest)

def answer (device : DeviceHello) : Command → Response
  | .hello _ => .hello device
  | .ping => .pong
  | .reset | .resetToBootloader => .ack .ok

def list (filter : Option Transport) (r : Rehearsal) : List Address × Rehearsal :=
  match takeTurn r.rounds with
  | none => ([], r)
  | some (found, rounds) =>
    let shown := found.filter fun a => r.ignoresFilter || filter.isNone || a.transport = filter
    (shown, { r with rounds })

def nextPlan (text : String) :
    List (String × List LinkPlan) → Option (LinkPlan × List (String × List LinkPlan))
  | [] => none
  | (address, plans) :: rest =>
    if address = text then
      (takeTurn plans).map fun (plan, plans) => (plan, (address, plans) :: rest)
    else (nextPlan text rest).map fun (plan, devices) => (plan, (address, plans) :: devices)

def openLink (address : Address) (r : Rehearsal) :
    Except TransportError RehearsedLink × Rehearsal :=
  match nextPlan address.format r.devices with
  | none => (.error (.openFailed address.format "no such device"), r)
  | some (.fails e, devices) => (.error e, { r with devices })
  | some (.answers replies device, devices) => (.ok ⟨replies, device⟩, { r with devices })

def respond (link : RehearsedLink) (command : Command) :
    Except TransportError Response × RehearsedLink :=
  match link.replies with
  | reply :: rest => (reply, { link with replies := rest })
  | [] => match link.device with
    | some device => (.ok (answer device command), link)
    | none => (.error .timeout, link)

/-- Closing and waiting leave no mark, and time stands still. -/
def host : Host Rehearsal RehearsedLink where
  enumerate := list
  openLink := openLink
  request link command r :=
    let (reply, link) := respond link command
    (reply, link, r)
  close _ r := r
  wait _ r := r
  now _ := 0

end Rehearsal
end DeviceConnect
