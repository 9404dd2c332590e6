/-!
Devices that a model runs on.
-/

namespace CodeIndex

inductive Device where
  | cuda
  | mps
  | cpu
  deriving DecidableEq, Repr

namespace Device

def name : Device → String
  | .cuda => "cuda"
  | .mps => "mps"
  | .cpu => "cpu"

/-- The best device of those that are there; a processor always is. -/
def best (cuda mps : Bool) : Device :=
  if cuda then .cuda else if mps then .mps else .cpu

end Device

end CodeIndex
