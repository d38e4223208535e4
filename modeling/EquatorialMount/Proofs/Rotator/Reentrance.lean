import EquatorialMount.Proofs.Rotator.Notification

/-!
# Sides that are reported from within

A listener that reports a side while it is told of one starts a notification of its own, and that ends before the outer
one goes on.  So whoever is registered behind it hears of the new side first and of the old one after it, and is left
with a side the mount is no longer on (`sideChanged_back`).  What holds is that nobody who stays registered misses
the side the mount ends up on, and that the mount is on that side already when anyone is told for the last time
(`sideChanged_lastTurn`).  The reason is that a stretch of a notification in which nobody tells a listener anything
leaves the mount where it is, and that stretches follow one another (`Stretch.trans`).
-/

namespace EquatorialMount

variable {α σ ι : Type}

/-- The last side that was handed to a listener. -/
def LastTold (l : ι) (side : PierSide) (told : List (ι × PierSide)) : Prop :=
  ∃ before after, told = before ++ (l, side) :: after ∧ ∀ e ∈ after, e.1 ≠ l

namespace LastTold

variable {l : ι} {side side' : PierSide} {told : List (ι × PierSide)}

theorem unique (h : LastTold l side told) (h' : LastTold l side' told) : side = side' := by
  obtain ⟨before, after, rfl, hafter⟩ := h
  obtain ⟨before', after', heq, hafter'⟩ := h'
  -- if one of the two came later, the other would not be the last
  obtain ⟨between, -, h⟩ | ⟨between, -, h⟩ := List.append_eq_append_iff.1 heq
  · cases between with
    | nil => exact congrArg Prod.snd (List.head_eq_of_cons_eq h)
    | cons e rest =>
      rw [List.tail_eq_of_cons_eq h] at hafter
      exact absurd rfl (hafter (l, side') (List.mem_append_right _ List.mem_cons_self))
  · cases between with
    | nil => exact (congrArg Prod.snd (List.head_eq_of_cons_eq h)).symm
    | cons e rest =>
      rw [List.tail_eq_of_cons_eq h] at hafter'
      exact absurd rfl (hafter' (l, side) (List.mem_append_right _ List.mem_cons_self))

theorem after (h : LastTold l side told) (earlier : List (ι × PierSide)) : LastTold l side (earlier ++ told) := by
  obtain ⟨before, after, rfl, hafter⟩ := h
  exact ⟨earlier ++ before, after, (List.append_assoc ..).symm, hafter⟩

theorem before (h : LastTold l side told) {later : List (ι × PierSide)} (hlater : ∀ e ∈ later, e.1 ≠ l) :
    LastTold l side (told ++ later) := by
  obtain ⟨before, after, rfl, hafter⟩ := h
  refine ⟨before, after ++ later, by simp, fun e he => ?_⟩
  obtain he | he := List.mem_append.1 he
  · exact hafter e he
  · exact hlater e he

end LastTold

namespace Controller

/-! ### Stretches -/

/-- It is the listener's turn to be told. -/
def Moment.IsTurnOf (l : ι) (m : Moment α σ ι) : Prop := m.waiting.head? = some l

/-- A listener has a last turn among some moments: it is told the last side then, and the mount is on this side
already. -/
def HasLastTurn (l : ι) (ms : List (Moment α σ ι)) (told : List (ι × PierSide)) (mountSide : PierSide) : Prop :=
  ∃ earlier m later, ms = earlier ++ m :: later ∧ m.IsTurnOf l ∧ (∀ n ∈ later, ¬n.IsTurnOf l) ∧
    LastTold l m.side told ∧ m.state.converter.mountSide = mountSide

/-- A listener has no turn among some moments and is not told anything. -/
def IsLeftOut (l : ι) (ms : List (Moment α σ ι)) (told : List (ι × PierSide)) : Prop :=
  (∀ m ∈ ms, ¬m.IsTurnOf l) ∧ ∀ e ∈ told, e.1 ≠ l

/-- A stretch of a notification from one state to another, with its moments and what is told in it.  The listener is
told of the side the mount ends up on if that is a new one, and the mount does not move after the listener's last
turn, nor without one. -/
structure Stretch (l : ι) (c d : Controller α σ ι) (ms : List (Moment α σ ι)) (told : List (ι × PierSide)) : Prop where
  delivered_eq : d.delivered = c.delivered ++ told
  heard : (l, d.converter.mountSide) ∈ told ∨ d.converter.mountSide = c.converter.mountSide
  last : HasLastTurn l ms told d.converter.mountSide ∨
    IsLeftOut l ms told ∧ d.converter.mountSide = c.converter.mountSide

namespace Stretch

variable {l : ι} {c d e : Controller α σ ι} {ms ns : List (Moment α σ ι)} {told told' : List (ι × PierSide)}

/-- Nothing is told. -/
private theorem silent (hdelivered : d.delivered = c.delivered) (hmount : d.converter.mountSide = c.converter.mountSide)
    (hms : ∀ m ∈ ms, ¬m.IsTurnOf l) : Stretch l c d ms [] :=
  ⟨hdelivered.trans (List.append_nil _).symm, .inr hmount, .inr ⟨⟨hms, fun _ h => absurd h List.not_mem_nil⟩, hmount⟩⟩

theorem trans (h : Stretch l c d ms told) (h' : Stretch l d e ns told') :
    Stretch l c e (ms ++ ns) (told ++ told') := by
  refine ⟨by rw [h'.delivered_eq, h.delivered_eq, List.append_assoc], ?_, ?_⟩
  · obtain hheard | hmount := h'.heard
    · exact .inl (List.mem_append_right _ hheard)
    · rw [hmount]
      exact h.heard.imp_left (List.mem_append_left _)
  · -- the last turn is in the second stretch, or in the first and the mount stays where it was then
    obtain ⟨earlier, m, later, rfl, hm, hlater, hlast, hmount⟩ | ⟨⟨hnone, hnothing⟩, hmount⟩ := h'.last
    · exact .inl ⟨ms ++ earlier, m, later, (List.append_assoc ..).symm, hm, hlater, hlast.after _, hmount⟩
    · rw [hmount]
      obtain ⟨earlier, m, later, rfl, hm, hlater, hlast, hmount⟩ | ⟨⟨hnone', hnothing'⟩, hmount⟩ := h.last
      · refine .inl ⟨earlier, m, later ++ ns, by simp, hm, fun n hn => ?_, hlast.before hnothing, hmount⟩
        exact (List.mem_append.1 hn).elim (hlater n) (hnone n)
      · refine .inr ⟨⟨fun n hn => ?_, fun x hx => ?_⟩, hmount⟩
        · exact (List.mem_append.1 hn).elim (hnone' n) (hnone n)
        · exact (List.mem_append.1 hx).elim (hnothing' x) (hnothing x)

/-- One listener is told. -/
theorem tell (l x : ι) (side : PierSide) (rest : List ι) (c : Controller α σ ι) :
    Stretch l c (c.tell x side) [⟨side, x :: rest, c⟩] [(x, side)] := by
  refine ⟨rfl, .inr rfl, ?_⟩
  by_cases h : x = l
  · subst h
    exact .inl ⟨[], _, [], rfl, rfl, by simp, ⟨[], [], rfl, by simp⟩, rfl⟩
  · refine .inr ⟨⟨fun m hm hturn => ?_, fun e he => ?_⟩, rfl⟩
    · rw [List.mem_singleton.1 hm] at hturn
      exact h (Option.some.inj hturn)
    · rw [List.mem_singleton.1 he]
      exact h

end Stretch

/-! ### Notifications -/

section Notifications

variable [BEq ι] {l : ι}
  {report : PierSide → Controller α σ ι → Outcome (NotificationError ι) (Controller α σ ι) Unit}
  {within : PierSide → Controller α σ ι → List (Moment α σ ι)}
  (hreport : ∀ side c d, report side c = (.ok (), d) → (∀ m ∈ within side c, l ∈ m.state.listeners) →
    ∃ told, Stretch l c d (within side c) told)

include hreport

private theorem react_stretch (x : ι) {reactions : List (Reaction ι)} {c d : Controller α σ ι}
    (hok : react report x reactions c = (.ok (), d))
    (hl : ∀ m ∈ momentsOfReact report within x reactions c, l ∈ m.state.listeners) :
    ∃ told, Stretch l c d (momentsOfReact report within x reactions c) told := by
  induction reactions generalizing c with
  | nil =>
    cases hok
    exact ⟨[], .silent rfl rfl (by simp [momentsOfReact])⟩
  | cons reaction rest ih =>
    cases reaction with
    | add y =>
      obtain ⟨told, h⟩ := ih (c := c.addListener y) hok hl
      exact ⟨told, ⟨h.delivered_eq, h.heard, h.last⟩⟩
    | remove y =>
      obtain ⟨told, h⟩ := ih (c := c.removeListener y) hok hl
      exact ⟨told, ⟨h.delivered_eq, h.heard, h.last⟩⟩
    | fail => cases hok
    | report side =>
      rw [react_report] at hok
      simp only [momentsOfReact] at hl ⊢
      cases hreported : report side c with
      | mk answer e =>
        rw [hreported] at hok hl
        cases answer with
        | error _ => cases hok
        | ok _ =>
          obtain ⟨told, h⟩ := hreport side c e hreported fun m hm => hl m (List.mem_append_left _ hm)
          obtain ⟨told', h'⟩ := ih hok fun m hm => hl m (List.mem_append_right _ hm)
          exact ⟨told ++ told', h.trans h'⟩

private theorem deliver_stretch (behaviour : Behaviour ι) (side : PierSide) {listeners : List ι}
    {c d : Controller α σ ι} (hok : deliver behaviour report side listeners c = (.ok (), d))
    (hl : ∀ m ∈ momentsOfDeliver behaviour report within side listeners c, l ∈ m.state.listeners) :
    ∃ told, Stretch l c d (momentsOfDeliver behaviour report within side listeners c) told ∧
      ∀ x ∈ listeners, (x, side) ∈ told := by
  induction listeners generalizing c with
  | nil =>
    cases hok
    exact ⟨[], .silent rfl rfl (by simp [momentsOfDeliver, Moment.IsTurnOf]), by simp⟩
  | cons x rest ih =>
    rw [deliver_cons] at hok
    simp only [momentsOfDeliver] at hl ⊢
    cases hreacted : react report x (behaviour c.delivered x side) (c.tell x side) with
    | mk answer e =>
      rw [hreacted] at hok hl
      cases answer with
      | error _ => cases hok
      | ok _ =>
        have hl := fun m hm => hl m (List.mem_cons_of_mem _ hm)
        obtain ⟨told, h⟩ := react_stretch hreport x hreacted fun m hm => hl m (List.mem_append_left _ hm)
        obtain ⟨told', h', hrest⟩ := ih hok fun m hm => hl m (List.mem_append_right _ hm)
        refine ⟨[(x, side)] ++ (told ++ told'), (Stretch.tell l x side rest c).trans (h.trans h'), fun y hy => ?_⟩
        obtain rfl | hy := List.mem_cons.1 hy
        · exact List.mem_append_left _ List.mem_cons_self
        · exact List.mem_append_right _ (List.mem_append_right _ (hrest y hy))

end Notifications

variable [BEq ι] {behaviour : Behaviour ι} {l : ι}

private theorem exists_moment_at_start (behaviour : Behaviour ι)
    (report : PierSide → Controller α σ ι → Outcome (NotificationError ι) (Controller α σ ι) Unit)
    (within : PierSide → Controller α σ ι → List (Moment α σ ι)) (side : PierSide) (listeners : List ι)
    (c : Controller α σ ι) : ∃ m ∈ momentsOfDeliver behaviour report within side listeners c, m.state = c := by
  cases listeners <;> exact ⟨_, List.mem_cons_self, rfl⟩

/-- The induction is on the depth.  A notification starts with the converter on its side, and hands that to all that
are registered then. -/
private theorem sideChanged_heard {depth : Nat} {side : PierSide} {c d : Controller α σ ι}
    (hok : c.sideChanged behaviour depth side = (.ok (), d))
    (hl : ∀ m ∈ moments behaviour depth side c, l ∈ m.state.listeners) :
    ∃ told, d.delivered = c.delivered ++ told ∧ (l, d.converter.mountSide) ∈ told ∧
      HasLastTurn l (moments behaviour depth side c) told d.converter.mountSide := by
  induction depth generalizing side c d with
  | zero => cases hok
  | succ depth ih =>
    have hreport (side : PierSide) (c d : Controller α σ ι) (hok : c.sideChanged behaviour depth side = (.ok (), d))
        (hl : ∀ m ∈ moments behaviour depth side c, l ∈ m.state.listeners) :
        ∃ told, Stretch l c d (moments behaviour depth side c) told := by
      obtain ⟨told, hdelivered, hheard, hlast⟩ := ih hok hl
      exact ⟨told, hdelivered, .inl hheard, .inl hlast⟩
    obtain ⟨told, h, hall⟩ := deliver_stretch hreport behaviour side hok hl
    have hregistered : l ∈ c.listeners := by
      obtain ⟨m, hm, hstate⟩ := exists_moment_at_start behaviour (sideChanged behaviour depth) (moments behaviour depth)
        side c.listeners (c.setConverter (·.reportSide side))
      have hmember := hl m hm
      rw [hstate] at hmember
      exact hmember
    have htold : (l, side) ∈ told := hall l hregistered
    refine ⟨told, h.delivered_eq, ?_, ?_⟩
    · obtain hheard | hmount := h.heard
      · exact hheard
      · rw [hmount]
        exact htold
    · obtain hlast | ⟨⟨-, hnothing⟩, -⟩ := h.last
      · exact hlast
      · exact absurd rfl (hnothing _ htold)

/-- Where nobody fails, a listener that is registered all the while is told of the side that the mount ends up on.  The
mount is on that side already when it is the listener's turn for the last time; so this is the last side the listener
is told exactly if it is told the side then that the mount is on. -/
theorem sideChanged_lastTurn {depth : Nat} {side : PierSide} {c d : Controller α σ ι}
    (hok : c.sideChanged behaviour depth side = (.ok (), d))
    (hl : ∀ m ∈ moments behaviour depth side c, l ∈ m.state.listeners) :
    (∃ told, d.delivered = c.delivered ++ told ∧ (l, d.converter.mountSide) ∈ told) ∧
    ∃ earlier m later, moments behaviour depth side c = earlier ++ m :: later ∧ m.waiting.head? = some l ∧
      (∀ n ∈ later, n.waiting.head? ≠ some l) ∧ m.state.converter.mountSide = d.converter.mountSide ∧
      LastTold l m.side d.delivered ∧
      (LastTold l d.converter.mountSide d.delivered ↔ m.side = m.state.converter.mountSide) := by
  obtain ⟨told, hdelivered, hheard, earlier, m, later, hmoments, hm, hlater, hlast, hmount⟩ := sideChanged_heard hok hl
  have hlast : LastTold l m.side d.delivered := hdelivered ▸ hlast.after _
  refine ⟨⟨told, hdelivered, hheard⟩, earlier, m, later, hmoments, hm, hlater, hmount, hlast, ?_⟩
  rw [hmount]
  exact ⟨fun h => hlast.unique h, fun h => h ▸ hlast⟩

/-- Listener 0 sends the mount back to the east. -/
def back : Behaviour Nat := fun _ l side => if l = 0 ∧ side ≠ .east then [.report .east] else []

/-- In the east, with these listeners. -/
def eastern (listeners : List Nat) : Controller ℚ Unit Nat :=
  ⟨⟨⟨0, false, .east, .unknown, .east⟩, ()⟩, listeners, []⟩

/-- In front of listener 0, listener 1 is told of the west when the mount is there, and of the east after that. -/
theorem sideChanged_lastTurn_front : ∃ d,
    (eastern [1, 0]).sideChanged back 2 .west = (.ok (), d) ∧
      (∀ m ∈ moments back 2 .west (eastern [1, 0]), 1 ∈ m.state.listeners) ∧
      d.delivered = [(1, .west), (0, .west), (1, .east), (0, .east)] ∧ d.converter.mountSide = .east ∧
      ∃ m ∈ moments back 2 .west (eastern [1, 0]), m.waiting.head? = some 1 ∧ m.side = .east ∧
        m.state.converter.mountSide = .east ∧ LastTold 1 d.converter.mountSide d.delivered := by
  have hok : (eastern [1, 0]).sideChanged back 2 .west = (.ok (), _) := rfl
  have hl : ∀ m ∈ moments back 2 .west (eastern [1, 0]), 1 ∈ m.state.listeners := by decide
  obtain ⟨-, earlier, m, later, hmoments, hm, -, hmount, hlast, hiff⟩ := sideChanged_lastTurn hok hl
  have hside : m.side = .east :=
    hlast.unique ⟨[(1, .west), (0, .west)], [(0, .east)], rfl, by simp⟩
  exact ⟨_, hok, hl, rfl, rfl, m, hmoments ▸ List.mem_append_right _ List.mem_cons_self, hm, hside, hmount,
    hiff.2 (hside.trans hmount.symm)⟩

/-- Listener 1 stays registered behind listener 0, hears of the east while the mount is sent there, and of the west
after that. -/
theorem sideChanged_back : ∃ d,
    (eastern [0, 1]).sideChanged back 2 .west = (.ok (), d) ∧
      (∀ m ∈ moments back 2 .west (eastern [0, 1]), m.state.listeners = [0, 1]) ∧
      d.delivered = [(0, .west), (0, .east), (1, .east), (1, .west)] ∧ d.converter.mountSide = .east ∧
      LastTold 1 .west d.delivered ∧ ¬LastTold 1 d.converter.mountSide d.delivered := by
  have hlast : LastTold 1 PierSide.west [(0, .west), (0, .east), (1, .east), (1, .west)] :=
    ⟨[(0, .west), (0, .east), (1, .east)], [], rfl, by simp⟩
  refine ⟨_, rfl, by decide, rfl, rfl, hlast, fun h => ?_⟩
  cases hlast.unique h

end Controller

end EquatorialMount
