/- Calls on an open oscilloscope as data. -/

import Oscilloscope.Scope.Acquisition
import Oscilloscope.Scope.Settings

set_option autoImplicit false
set_option relaxedAutoImplicit false

namespace Oscilloscope

inductive Call
  | start
  | requestStop
  | tick
  | refresh
  | shadow
  | model
  | channel (index : Nat)
  | echo (bytes : Bytes)
  | getValue (key : Key) (index : Option Nat)
  | setValue (key : Key) (index : Option Nat) (value : Value)
  | listValues (key : Key) (index : Option Nat)

inductive Answer
  | done
  | phase (p : Phase)
  | snapshot (s : Snapshot)
  | model (m : Model)
  | channel (c : Channel)
  | bytes (bs : Bytes)
  | value (v : Value)

variable {σ : Type} [Transport σ]

def Call.perform (handle : Handle) : Call → Work σ Answer
  | .start => do Scope.start handle; return .done
  | .requestStop => do Scope.requestStop; return .done
  | .tick => return .phase (← Scope.tick handle)
  | .refresh => return .snapshot (← Scope.refresh handle)
  | .shadow => return .snapshot (← get).shadow
  | .model => return .model (← Scope.model handle)
  | .channel index => return .channel (← Scope.channel handle index)
  | .echo bytes => return .bytes (← Scope.echo handle bytes)
  | .getValue key index => return .value (← Scope.getValue handle key index)
  | .setValue key index value => do Scope.setValue handle key index value; return .done
  | .listValues key index => return .value (← Scope.listValues handle key index)

def Call.after (handle : Handle) (call : Call) (scope : Scope σ) : Scope σ :=
  match call.perform handle scope with
  | .ok _ scope => scope
  | .error _ scope => scope

def Call.run (handle : Handle) (calls : List Call) (scope : Scope σ) : Scope σ :=
  calls.foldl (fun scope call => call.after handle scope) scope

end Oscilloscope
