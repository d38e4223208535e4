import EquatorialMount.CommandLine.Session
import EquatorialMount.Proofs.Binary64.Bounds

/-!
# Binary64 over a library of functions

What the sine, the cosine and their inverses give is up to the library that a program is linked with, and nothing can be
proved of it here.  So the library is made a parameter: `WithLibrary lib` is binary64 with the functions of `lib`, and
the program itself runs over the native ones (`CommandLine.session_eq_run_iff`).  What such functions are documented to
do, as far as it is needed, is `Library.Accurate`.
-/

namespace EquatorialMount

/-- The functions that a library provides. -/
structure Library where
  sin : Float → Float
  cos : Float → Float
  asin : Float → Float
  atan2 : Float → Float → Float
  ceil : Float → Float

namespace Library

/-- The functions that a program is linked with. -/
def native : Library := ⟨Float.sin, Float.cos, Float.asin, Float.atan2, Float.ceil⟩

open Float64 (AtMost AtLeast ofFloat?_parts)
open Scalar

/-- The functions keep to their ranges: sine and cosine are at most one and not both below a half, the inverses are
finite where they are defined and stay below two and four, and rounding up gives the least whole number that is not
below.  Functions that are correct to a few binary digits do so. -/
structure Accurate (lib : Library) : Prop where
  sin_atMost {x : Float} (hx : isFinite x = true) : AtMost 0 (lib.sin x)
  cos_atMost {x : Float} (hx : isFinite x = true) : AtMost 0 (lib.cos x)
  /-- The squares of sine and cosine add to one. -/
  sin_or_cos {x : Float} (hx : isFinite x = true) : AtLeast (-1) (lib.sin x) ∨ AtLeast (-1) (lib.cos x)
  asin_atMost {x : Float} (hx : isFinite x = true) (hlow : -one ≤ x) (hhigh : x ≤ one) : AtMost 1 (lib.asin x)
  atan2_atMost {y x : Float} (hy : isFinite y = true) (hx : isFinite x = true) : AtMost 2 (lib.atan2 y x)
  isFinite_ceil {x : Float} (hx : isFinite x = true) : isFinite (lib.ceil x) = true
  le_ceil {x : Float} (hx : isFinite x = true) : x ≤ lib.ceil x
  ceil_le {x : Float} {n : Nat} (hx : isFinite x = true) (h : x ≤ ofNat n) : lib.ceil x ≤ ofNat n

/-- Functions that are right at quarter turns, and elsewhere constant. -/
def quarterTurns : Library where
  sin x := if x = 1.5707963267948966 then 1 else if x = 3.141592653589793 then 1.2246467991473532e-16 else 0
  cos x := if x = 1.5707963267948966 then 6.123233995736766e-17 else if x = 3.141592653589793 then -1 else 1
  asin x := if x = 1 then 1.5707963267948966 else 0
  atan2 _ _ := 0
  ceil x := x

theorem quarterTurns_accurate : quarterTurns.Accurate where
  sin_atMost _ := by
    unfold quarterTurns
    dsimp only
    split
    · exact .of_parts (by decide +kernel)
    · split <;> exact .of_parts (by decide +kernel)
  cos_atMost _ := by
    unfold quarterTurns
    dsimp only
    split
    · exact .of_parts (by decide +kernel)
    · split <;> exact .of_parts (by decide +kernel)
  sin_or_cos _ := by
    unfold quarterTurns
    dsimp only
    split
    · exact .inl (.of_parts (by decide +kernel))
    · split <;> exact .inr (.of_parts (by decide +kernel))
  asin_atMost _ _ _ := by
    unfold quarterTurns
    dsimp only
    split <;> exact .of_parts (by decide +kernel)
  atan2_atMost _ _ := .of_parts (x := 0) (by decide +kernel)
  isFinite_ceil hx := hx
  le_ceil hx := (Binary64.le_iff_value (ofFloat?_parts hx) (ofFloat?_parts hx)).2 le_rfl
  ceil_le _ h := h

end Library

/-- Binary64 numbers with the functions of a library. -/
def WithLibrary (_ : Library) : Type := Float

namespace WithLibrary

variable (lib : Library)

instance : Trig (WithLibrary lib) where
  toScalar := { (inferInstance : Scalar Float) with ceil := lib.ceil }
  sqrt := Float.sqrt
  sin := lib.sin
  cos := lib.cos
  asin := lib.asin
  atan2 := lib.atan2
  hypot := Float64.hypot
  radiansPerDegree := (Trig.radiansPerDegree : Float)
  degreesPerRadian := (Trig.degreesPerRadian : Float)

instance : NumberReading (WithLibrary lib) := inferInstanceAs (NumberReading Float)

instance : DecidableEq (WithLibrary lib) := inferInstanceAs (DecidableEq Float)

/-- The format of the files, which no function of a library has a part in. -/
def yaml (order : SetOrder Float) : DocumentFormat (WithLibrary lib) := DocumentFormat.yaml order

end WithLibrary

namespace CommandLine

/-- What a command line asks to be run, if it asks for a run. -/
def requested? {α : Type} [NumberReading α] (arguments : List String) : Option (Request α) :=
  match (ofArguments arguments : Except UsageError (Asked α)) with
  | .ok (.run request _) => some request
  | _ => none

/-- The run that a session makes over a library, if it makes one. -/
def runWith? (lib : Library) (order : SetOrder Float) (standard : Path) (arguments : List String) (disk : Disk) :
    Option (Run (WithLibrary lib)) :=
  (requested? arguments).map fun request => Run.ofRequest (WithLibrary.yaml lib order) disk standard request

/-- The program makes the run over its native library. -/
theorem session_eq_run_iff {order : SetOrder Float} {standard : Path} {arguments : List String} {disk : Disk}
    {r : Run Float} :
    session order standard arguments disk = .run r ↔ runWith? .native order standard arguments disk = some r := by
  have hrun : (runWith? .native order standard arguments disk : Option (Run Float)) = (requested? arguments).map
      fun request => Run.ofRequest (α := Float) (.yaml order) disk standard request := rfl
  show _ ↔ (_ : Option (Run Float)) = _
  rw [hrun]
  unfold session requested?
  split <;> rename_i harguments <;> simp [harguments]

end CommandLine

end EquatorialMount
