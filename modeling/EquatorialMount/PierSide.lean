/-!
# Sides of the pier

A German mount carries its tube on the east or on the west side of the pier.  Going over to the other side turns the
camera by half a turn against the sky, so each angle taken before a flip has to be corrected after it.
-/

namespace EquatorialMount

inductive PierSide
  | east
  | west
  | unknown
deriving Repr, DecidableEq

namespace PierSide

def name : PierSide → String
  | east => "east"
  | west => "west"
  | unknown => "unknown"

def ofName? (s : String) : Option PierSide := [east, west, unknown].find? (·.name == s)

def isKnown (side : PierSide) : Bool := side ≠ unknown

/-- Whether a mount on this side is flipped against the side it was calibrated on.  With either side unknown there is
nothing to tell a flip by, and none is assumed. -/
def flippedFrom (side calibration : PierSide) : Bool :=
  side.isKnown && calibration.isKnown && side ≠ calibration

end PierSide

end EquatorialMount
