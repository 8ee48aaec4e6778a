import ForwardingProxy.Output.Sink

/-!
Contract: hosts and sinks that fail on purpose.

Owns: `FaultInjection.HostFault` and `FaultInjection.SinkFault`, for runs of a generation pass whose
surroundings break.
-/

namespace ForwardingProxy.FaultInjection

/-- How a host differs from the table it answers from. -/
inductive HostFault where
  /-- Looking for marked declarations breaks off. -/
  | markedStated
  /-- Looking for marked declarations breaks off and names the marker. -/
  | markedNamed
  /-- Looking for marked declarations breaks off without a reason. -/
  | markedUnstated
  /-- One declaration is listed that does not exist. -/
  | listsUnknown
  /-- Every declaration is listed for every marker. -/
  | listsAll
  /-- Every name is found at a declaration that does not exist. -/
  | findsUnknown
  /-- Resolving a path breaks off and names the path. -/
  | resolving
deriving DecidableEq, Repr

/-- The host of a table with a fault. -/
def HostFault.host (fault : HostFault) (table : SymbolTable) : Host :=
  let sound := table.host
  let size := table.declarations.length
  match fault with
  | .markedStated => { sound with marked := fun _ => .error (.stated "host exploded") }
  | .markedNamed =>
      { sound with marked := fun marker => .error (.stated ("host exploded on " ++ marker)) }
  | .markedUnstated => { sound with marked := fun _ => .error .unstated }
  | .listsUnknown => { sound with marked := fun _ => .ok [size] }
  | .listsAll => { sound with marked := fun _ => .ok (List.range size) }
  | .findsUnknown => { sound with find? := fun _ => .ok (some (size + 3)) }
  | .resolving =>
      { sound with
        resolve? := fun _ path =>
          .error (.stated ("cannot resolve <" ++ Name.join path ++ ">")) }

/-- When a sink fails. -/
inductive SinkFault where
  | onCreate
  | onFinish
  /-- On the append after that many; finishing fails too. -/
  | afterAppends (count : Nat)
deriving DecidableEq, Repr

/-- Where nothing more can be written. -/
def full : Failure := .file (.other "disk full")

/-- What comes of reading an empty text. -/
def cutOff : Failure := .json ⟨.endInValue, ⟨1, 0⟩⟩

/-- The sink with that fault; it keeps no text and counts appends. -/
def SinkFault.sink (fault : SinkFault) : Output.Sink (StateM Nat) where
  create := fun _ _ => pure (if fault = .onCreate then .error full else .ok ())
  append := fun _ => do
    let count ← get
    set (count + 1)
    match fault with
    | .afterAppends limit => pure (if count < limit then .ok () else .error full)
    | .onCreate | .onFinish => pure (.ok ())
  finish := pure (.error cutOff)

end ForwardingProxy.FaultInjection
