import Mathlib.Data.List.Basic
import Mathlib.Data.Rat.Defs
import EquatorialMount.Rotator.Controller

/-!
# Who hears of a side

A notification goes over the register as it was when it began.  Its listeners may change the register meanwhile, and
that changes who is registered afterwards but not who is told: all up to the first that fails, in order and once for
each registration, with the converter up to date before the first of them (`sideChanged_of_quiet`).  Where a listener
reports a side itself, a notification has others within it, and the moments of the whole are those of all of them.
-/

namespace EquatorialMount

variable {α σ ι : Type}

namespace Reaction

def fails : Reaction ι → Bool
  | fail => true
  | _ => false

/-- What a reaction makes of the register. -/
def edit [BEq ι] : List ι → Reaction ι → List ι
  | register, add l => register ++ [l]
  | register, remove l => register.erase l
  | register, _ => register

end Reaction

namespace Controller

/-- The controller that has handed a side to a listener. -/
def tell (l : ι) (side : PierSide) (c : Controller α σ ι) : Controller α σ ι :=
  { c with delivered := c.delivered ++ [(l, side)] }

variable [BEq ι]

section Steps

variable (report : PierSide → Controller α σ ι → Outcome (NotificationError ι) (Controller α σ ι) Unit) (l : ι)

theorem react_report (side : PierSide) (rest : List (Reaction ι)) (c : Controller α σ ι) :
    react report l (.report side :: rest) c =
      match report side c with
      | (.ok (), d) => react report l rest d
      | (.error e, d) => (.error e, d) := rfl

theorem deliver_cons (behaviour : Behaviour ι) (side : PierSide) (rest : List ι) (c : Controller α σ ι) :
    deliver behaviour report side (l :: rest) c =
      match react report l (behaviour c.delivered l side) (c.tell l side) with
      | (.ok (), d) => deliver behaviour report side rest d
      | (.error e, d) => (.error e, d) := rfl

end Steps

/-! ### Moments -/

/-- A moment of a notification, before one of its listeners is told or after all of them: the side that is passed on,
who has still to be told of it, and the controller as it is then. -/
structure Moment (α σ ι : Type) where
  side : PierSide
  waiting : List ι
  state : Controller α σ ι

section Moments

variable (behaviour : Behaviour ι)
  (report : PierSide → Controller α σ ι → Outcome (NotificationError ι) (Controller α σ ι) Unit)
  (within : PierSide → Controller α σ ι → List (Moment α σ ι))

/-- The moments of the reports among some reactions; `within` says which moments a report has. -/
def momentsOfReact (l : ι) : List (Reaction ι) → Controller α σ ι → List (Moment α σ ι)
  | [], _ => []
  | .add m :: rest, c => momentsOfReact l rest (c.addListener m)
  | .remove m :: rest, c => momentsOfReact l rest (c.removeListener m)
  | .report side :: rest, c =>
    within side c ++
      match report side c with
      | (.ok (), d) => momentsOfReact l rest d
      | (.error _, _) => []
  | .fail :: _, _ => []

def momentsOfDeliver (side : PierSide) : List ι → Controller α σ ι → List (Moment α σ ι)
  | [], c => [⟨side, [], c⟩]
  | l :: rest, c =>
    ⟨side, l :: rest, c⟩ :: (momentsOfReact report within l (behaviour c.delivered l side) (c.tell l side) ++
      match react report l (behaviour c.delivered l side) (c.tell l side) with
      | (.ok (), d) => momentsOfDeliver side rest d
      | (.error _, _) => [])

end Moments

/-- The moments of a notification, those of the reports from within it among them, up to its end or its error. -/
def moments (behaviour : Behaviour ι) : Nat → PierSide → Controller α σ ι → List (Moment α σ ι)
  | 0, _, _ => []
  | depth + 1, side, c =>
    momentsOfDeliver behaviour (sideChanged behaviour depth) (moments behaviour depth) side c.listeners
      (c.setConverter (·.reportSide side))

/-! ### Listeners that report nothing -/

section Quiet

variable (report : PierSide → Controller α σ ι → Outcome (NotificationError ι) (Controller α σ ι) Unit)
  (within : PierSide → Controller α σ ι → List (Moment α σ ι)) {reactions : List (Reaction ι)}

/-- The controller whose register some reactions have edited, up to the first failure. -/
def edited (reactions : List (Reaction ι)) (c : Controller α σ ι) : Controller α σ ι :=
  { c with listeners := (reactions.takeWhile (!·.fails)).foldl Reaction.edit c.listeners }

private theorem react_of_quiet (hquiet : ∀ side, .report side ∉ reactions) (l : ι) (c : Controller α σ ι) :
    (react report l reactions c).2 = c.edited reactions ∧
      (.fail ∉ reactions ∧ (react report l reactions c).1 = .ok () ∨
        .fail ∈ reactions ∧ (react report l reactions c).1 = .error (.listener l)) := by
  induction reactions generalizing c with
  | nil => exact ⟨rfl, .inl ⟨List.not_mem_nil, rfl⟩⟩
  | cons reaction rest ih =>
    have hrest : ∀ side, .report side ∉ rest := fun side h => hquiet side (List.mem_cons_of_mem _ h)
    cases reaction with
    | add m => simpa [react, edited, Reaction.fails, Reaction.edit, addListener] using ih hrest (c.addListener m)
    | remove m =>
      simpa [react, edited, Reaction.fails, Reaction.edit, removeListener] using ih hrest (c.removeListener m)
    | report side => exact absurd List.mem_cons_self (hquiet side)
    | fail => exact ⟨rfl, .inr ⟨List.mem_cons_self, rfl⟩⟩

private theorem momentsOfReact_of_quiet (hquiet : ∀ side, .report side ∉ reactions) (l : ι) (c : Controller α σ ι) :
    momentsOfReact report within l reactions c = [] := by
  induction reactions generalizing c with
  | nil => rfl
  | cons reaction rest ih =>
    have hrest : ∀ side, .report side ∉ rest := fun side h => hquiet side (List.mem_cons_of_mem _ h)
    cases reaction with
    | add m => exact ih hrest (c.addListener m)
    | remove m => exact ih hrest (c.removeListener m)
    | report side => exact absurd List.mem_cons_self (hquiet side)
    | fail => rfl

end Quiet

variable (behaviour : Behaviour ι) (side : PierSide)

/-- The reactions of listeners that are told of a side in turn, each up to its failure if it fails, after what has been
told before. -/
def carriedOut : List (ι × PierSide) → List ι → List (Reaction ι)
  | _, [] => []
  | told, l :: rest => (behaviour told l side).takeWhile (!·.fails) ++ carriedOut (told ++ [(l, side)]) rest

/-- No listener fails when they are told of a side in turn. -/
def NoneFails : List (ι × PierSide) → List ι → Prop
  | _, [] => True
  | told, l :: rest => .fail ∉ behaviour told l side ∧ NoneFails (told ++ [(l, side)]) rest

/-- The controller after some listeners have been told of a side, each of them once and in turn, and the register has
been edited by what they did. -/
def afterTelling (heard : List ι) (c : Controller α σ ι) : Controller α σ ι :=
  { c with
    delivered := c.delivered ++ heard.map (·, side)
    listeners := (carriedOut behaviour side c.delivered heard).foldl Reaction.edit c.listeners }

private theorem afterTelling_nil (c : Controller α σ ι) : c.afterTelling behaviour side [] = c := by
  simp [afterTelling, carriedOut]

private theorem afterTelling_cons (l : ι) (heard : List ι) (c : Controller α σ ι) :
    c.afterTelling behaviour side (l :: heard) =
      ((c.tell l side).edited (behaviour c.delivered l side)).afterTelling behaviour side heard := by
  simp [afterTelling, carriedOut, edited, tell]

/-- How telling some listeners of a side ends: all have heard of it, or the last that heard of it fails and the rest
wait in vain. -/
inductive Ends (told : List (ι × PierSide)) : List ι → List ι → Except (NotificationError ι) Unit → Prop
  | done {heard : List ι} (h : NoneFails behaviour side told heard) : Ends told heard [] (.ok ())
  | failed (before : List ι) {l : ι} {waiting : List ι} (h : NoneFails behaviour side told before)
      (hl : .fail ∈ behaviour (told ++ before.map (·, side)) l side) :
      Ends told (before ++ [l]) waiting (.error (.listener l))

variable {behaviour side}

omit [BEq ι] in
theorem Ends.cons {told : List (ι × PierSide)} {l : ι} {heard waiting : List ι}
    {answer : Except (NotificationError ι) Unit} (hl : .fail ∉ behaviour told l side)
    (h : Ends behaviour side (told ++ [(l, side)]) heard waiting answer) :
    Ends behaviour side told (l :: heard) waiting answer := by
  cases h with
  | done h => exact .done ⟨hl, h⟩
  | failed before h hfail => exact .failed (l :: _) ⟨hl, h⟩ (by simpa using hfail)

private theorem deliver_of_quiet
    (report : PierSide → Controller α σ ι → Outcome (NotificationError ι) (Controller α σ ι) Unit)
    (within : PierSide → Controller α σ ι → List (Moment α σ ι)) {listeners : List ι}
    (hquiet : ∀ told, ∀ l ∈ listeners, ∀ now, .report now ∉ behaviour told l side) (c : Controller α σ ι) :
    ∃ heard waiting, listeners = heard ++ waiting ∧
      (deliver behaviour report side listeners c).2 = c.afterTelling behaviour side heard ∧
      Ends behaviour side c.delivered heard waiting (deliver behaviour report side listeners c).1 ∧
      ∀ before l after, heard = before ++ l :: after →
        ⟨side, l :: (after ++ waiting), c.afterTelling behaviour side before⟩ ∈
          momentsOfDeliver behaviour report within side listeners c := by
  induction listeners generalizing c with
  | nil => exact ⟨[], [], rfl, (afterTelling_nil ..).symm, .done trivial, by simp⟩
  | cons l rest ih =>
    have hl := hquiet c.delivered l List.mem_cons_self
    have hmoments := momentsOfReact_of_quiet report within hl l (c.tell l side)
    -- the rest is told by the controller as the reactions of the first have left it, unless they end with a failure
    obtain ⟨hstate, ⟨hfail, hanswer⟩ | ⟨hfail, hanswer⟩⟩ := react_of_quiet report hl l (c.tell l side)
    · have hreact : react report l (behaviour c.delivered l side) (c.tell l side) = (.ok (), _) :=
        Prod.ext hanswer hstate
      obtain ⟨heard, waiting, rfl, hafter, hends, hrest⟩ :=
        ih (fun told l h => hquiet told l (List.mem_cons_of_mem _ h))
          ((c.tell l side).edited (behaviour c.delivered l side))
      refine ⟨l :: heard, waiting, rfl, ?_⟩
      simp only [deliver_cons, momentsOfDeliver, hreact, hmoments, List.nil_append]
      refine ⟨hafter.trans (afterTelling_cons ..).symm, .cons hfail hends, fun before m after hsplit => ?_⟩
      obtain ⟨rfl, h⟩ | ⟨earlier, rfl, h⟩ := List.cons_eq_append_iff.1 hsplit
      · obtain ⟨rfl, rfl⟩ := List.cons.inj h
        rw [afterTelling_nil]
        exact List.mem_cons_self
      · rw [afterTelling_cons]
        exact List.mem_cons_of_mem _ (hrest earlier m after h)
    · have hreact : react report l (behaviour c.delivered l side) (c.tell l side) = (.error _, _) :=
        Prod.ext hanswer hstate
      refine ⟨[l], rest, rfl, ?_⟩
      simp only [deliver_cons, momentsOfDeliver, hreact, hmoments, List.nil_append]
      refine ⟨?_, .failed [] trivial (by simpa using hfail), fun before m after hsplit => ?_⟩
      · rw [afterTelling_cons, afterTelling_nil]
        rfl
      · obtain ⟨rfl, h⟩ | ⟨earlier, -, h⟩ := List.cons_eq_append_iff.1 hsplit
        · obtain ⟨rfl, rfl⟩ := List.cons.inj h
          rw [afterTelling_nil]
          exact List.mem_cons_self
        · simp at h

/-- The converter takes the side, then the listeners registered before are told of it in turn, once for each
registration, until one fails: whoever they add is not told, whoever they take out is.  The register is left as their
changes make it, one after the other, and the converter keeps the side if a listener fails too.  When a listener has
its turn, all of this has been done for the converter and for those before it, and nothing else. -/
theorem sideChanged_of_quiet {c : Controller α σ ι}
    (hquiet : ∀ told, ∀ l ∈ c.listeners, ∀ now, .report now ∉ behaviour told l side) (depth : Nat) :
    ∃ heard waiting, c.listeners = heard ++ waiting ∧
      (c.sideChanged behaviour (depth + 1) side).2 =
        { c with
          converter := c.converter.reportSide side
          listeners := (carriedOut behaviour side c.delivered heard).foldl Reaction.edit c.listeners
          delivered := c.delivered ++ heard.map (·, side) } ∧
      Ends behaviour side c.delivered heard waiting (c.sideChanged behaviour (depth + 1) side).1 ∧
      ∀ before l after, heard = before ++ l :: after →
        ⟨side, l :: (after ++ waiting), (c.setConverter (·.reportSide side)).afterTelling behaviour side before⟩ ∈
          moments behaviour (depth + 1) side c :=
  deliver_of_quiet (sideChanged behaviour depth) (moments behaviour depth) hquiet (c.setConverter (·.reportSide side))

/-- Listener 0 gives its place to 4, 1 takes out 2, and 2 adds 5 and fails. -/
def crowd : Behaviour Nat := fun _ l _ =>
  match l with
  | 0 => [.remove 0, .add 4]
  | 1 => [.remove 2]
  | 2 => [.add 5, .fail]
  | _ => []

/-- In the east, with a listener that is registered twice. -/
def crowded : Controller ℚ Unit Nat := ⟨⟨⟨0, false, .east, .unknown, .east⟩, ()⟩, [0, 1, 0, 2, 3], []⟩

/-- Listener 2 has been taken out when its turn comes, and 3 never has its turn. -/
theorem sideChanged_of_quiet_crowd :
    crowded.sideChanged crowd 1 .west = (.error (.listener 2),
        ⟨⟨⟨0, true, .east, .unknown, .west⟩, ()⟩, [1, 3, 4, 4, 5],
          [(0, .west), (1, .west), (0, .west), (2, .west)]⟩) ∧
      Ends crowd .west [] [0, 1, 0, 2] [3] (.error (.listener 2)) ∧
      ⟨.west, [2, 3], ⟨⟨⟨0, true, .east, .unknown, .west⟩, ()⟩, [1, 3, 4, 4],
        [(0, .west), (1, .west), (0, .west)]⟩⟩ ∈ moments crowd 1 .west crowded := by
  have hquiet : ∀ told, ∀ l ∈ crowded.listeners, ∀ now, .report now ∉ crowd told l .west := by
    intro told l hl now
    simp only [crowded, List.mem_cons, List.not_mem_nil, or_false] at hl
    obtain rfl | rfl | rfl | rfl | rfl := hl <;> simp [crowd]
  obtain ⟨heard, waiting, hlist, hstate, hends, hturns⟩ := sideChanged_of_quiet hquiet 0
  have hanswer : (crowded.sideChanged crowd 1 .west).1 = .error (.listener 2) := rfl
  have hdelivered : heard.map (·, .west) = [(0, PierSide.west), (1, .west), (0, .west), (2, .west)] :=
    (congrArg delivered hstate).symm
  obtain rfl : heard = [0, 1, 0, 2] :=
    List.map_injective_iff.2 (fun _ _ h => congrArg Prod.fst h) hdelivered
  obtain rfl : [3] = waiting := List.append_cancel_left (show [0, 1, 0, 2] ++ [3] = [0, 1, 0, 2] ++ waiting from hlist)
  exact ⟨Prod.ext hanswer hstate, hanswer ▸ hends, hturns [0, 1, 0] 2 [] rfl⟩

end Controller

end EquatorialMount
