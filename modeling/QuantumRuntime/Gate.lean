import QuantumRuntime.Failure.Decoding
import QuantumRuntime.Scalar

/-
  This file defines the gates that a backend can be asked to
  apply to one qubit. Gates on several qubits are controlled
  forms of these.

  Key definitions include:
    * `GateKind`
    * `Gate`
    * `Gate.ofName`
    * `Gate.adjoint`
    * `Gate.IsDiagonal`
    * `Gate.IsBitFlip`
    * `Gate.text`
-/

namespace QuantumRuntime

------------------------------------------------------------
-- Kinds of gate
------------------------------------------------------------

/- A gate without its angle. -/
inductive GateKind where
  | i | x | y | z | h
  | s | sdg | t | tdg | sx | sxdg
  | rx | ry | rz | r1
deriving DecidableEq, Repr

namespace GateKind

/- The name of a kind of gate. -/
def name : GateKind → String
  | i => "i"
  | x => "x"
  | y => "y"
  | z => "z"
  | h => "h"
  | s => "s"
  | sdg => "sdg"
  | t => "t"
  | tdg => "tdg"
  | sx => "sx"
  | sxdg => "sxdg"
  | rx => "rx"
  | ry => "ry"
  | rz => "rz"
  | r1 => "r1"

end GateKind

------------------------------------------------------------
-- Gates
------------------------------------------------------------

/-
  A gate on one qubit. `sdg`, `tdg` and `sxdg` are the inverses
  of `s`, `t` and `sx`; the last four turn by an angle.
-/
inductive Gate (R : Type) where
  | i | x | y | z | h
  | s | sdg | t | tdg | sx | sxdg
  | rx (angle : R)
  | ry (angle : R)
  | rz (angle : R)
  | r1 (angle : R)
deriving DecidableEq, BEq, Repr

namespace Gate

variable {R : Type}

/- The kind of a gate. -/
def kind : Gate R → GateKind
  | i => .i
  | x => .x
  | y => .y
  | z => .z
  | h => .h
  | s => .s
  | sdg => .sdg
  | t => .t
  | tdg => .tdg
  | sx => .sx
  | sxdg => .sxdg
  | rx _ => .rx
  | ry _ => .ry
  | rz _ => .rz
  | r1 _ => .r1

/- The name of a gate, which leaves out the angle. -/
def name
    (g : Gate R) : String :=
  g.kind.name

/- The angle of a gate that has one. -/
def parameter : Gate R → Option R
  | rx angle => some angle
  | ry angle => some angle
  | rz angle => some angle
  | r1 angle => some angle
  | _ => none

/- The text of a gate: its name, with the angle in brackets. -/
def text
    [Scalar R]
    (g : Gate R) : String :=
  match g.parameter with
  | none => g.name
  | some angle => g.name ++ "(" ++ Scalar.text angle ++ ")"

/- The inverse of a gate. -/
def adjoint
    [Neg R] : Gate R → Gate R
  | s => sdg
  | sdg => s
  | t => tdg
  | tdg => t
  | sx => sxdg
  | sxdg => sx
  | rx angle => rx (-angle)
  | ry angle => ry (-angle)
  | rz angle => rz (-angle)
  | r1 angle => r1 (-angle)
  | g => g

/- A diagonal gate changes phases only. -/
def IsDiagonal : Gate R → Prop
  | i | z | s | sdg | t | tdg | rz _ | r1 _ => True
  | _ => False

instance
    (g : Gate R) :
    Decidable g.IsDiagonal := by
  cases g <;> unfold IsDiagonal <;> infer_instance

/- A bit flip exchanges the two basis states up to phases. -/
def IsBitFlip : Gate R → Prop
  | x | y => True
  | _ => False

instance
    (g : Gate R) :
    Decidable g.IsBitFlip := by
  cases g <;> unfold IsBitFlip <;> infer_instance

------------------------------------------------------------
-- Reading a gate
------------------------------------------------------------

/- A gate without an angle takes no parameter. -/
private def fixed
    (name : String)
    (angles : List R)
    (g : Gate R) : Except DecodingError (Gate R) :=
  match angles with
  | [] => .ok g
  | _ => .error (.parameterCount name 0 angles.length)

/- A rotation takes its angle as the only parameter. -/
private def rotation
    (name : String)
    (angles : List R)
    (turn : R → Gate R) : Except DecodingError (Gate R) :=
  match angles with
  | [angle] => .ok (turn angle)
  | _ => .error (.parameterCount name 1 angles.length)

/-
  The gate with a name and a list of parameters. An inverse may
  also be named by its gate and the ending `__adj`.
-/
def ofName
    (name : String)
    (angles : List R) : Except DecodingError (Gate R) :=
  match name with
  | "i" => fixed name angles i
  | "x" => fixed name angles x
  | "y" => fixed name angles y
  | "z" => fixed name angles z
  | "h" => fixed name angles h
  | "s" => fixed name angles s
  | "sdg" | "s__adj" => fixed name angles sdg
  | "t" => fixed name angles t
  | "tdg" | "t__adj" => fixed name angles tdg
  | "sx" => fixed name angles sx
  | "sxdg" | "sx__adj" => fixed name angles sxdg
  | "rx" => rotation name angles rx
  | "ry" => rotation name angles ry
  | "rz" => rotation name angles rz
  | "r1" => rotation name angles r1
  | _ => .error (.unknownGate name)

end Gate

end QuantumRuntime
