import EquatorialMount.Document.Content
import EquatorialMount.Outcome
import EquatorialMount.Proofs.Document.View

/-!
# What is read has its keys apart

Whatever the text, each mapping of a document that is read from it has every key once: its entries are put in one
after the other, and a key that is there already gets the later value.  This holds of every collection of the table,
since a collection is filled in as a whole and never touched again (`separated_of_ofText`).
-/

namespace EquatorialMount

open Entries

variable {α : Type} [NumberReading α]

/-- No key of the collection comes up twice. -/
def Collection.Separated : Collection α → Prop
  | .map entries => Distinct entries
  | _ => True

/-- The document refers to its table, where no key comes up twice in any collection. -/
structure Document.Separated (d : Document α) : Prop where
  content : ∃ held, d.content = .leaf held
  collections : ∀ c ∈ d.collections, c.Separated

namespace Construction

/-- The collections that are filled in so far have their keys apart. -/
def Separated (s : Construction α) : Prop := ∀ c ∈ s.collections, c.Separated

theorem Separated.setIfInBounds {s : Construction α} {c : Collection α} (hs : s.Separated) (hc : c.Separated)
    (n : Nat) : Separated { s with collections := s.collections.setIfInBounds n c } := fun c' hc' =>
  (Array.mem_or_eq_of_mem_setIfInBounds hc').elim (hs c') fun h => h ▸ hc

theorem Separated.push {s : Construction α} {c : Collection α} (hs : s.Separated) (hc : c.Separated) :
    Separated { s with collections := s.collections.push c } := fun c' hc' =>
  (Array.mem_push.1 hc').elim (hs c') fun h => h ▸ hc

/-- What a step answers has a property, and it keeps the keys of collections apart. -/
def Yields {β : Type} (Q : β → Prop) (x : Constructing α β) : Prop :=
  ∀ s r s', x.run s = .ok (r, s') → s.Separated → s'.Separated ∧ Q r

/-! ### Steps in general -/

section Steps

variable {β γ : Type} {Q : β → Prop} {R : γ → Prop}

theorem Yields.pure {b : β} (h : Q b) : Yields Q (Pure.pure b : Constructing α β) := by
  intro s r s' hrun hs
  cases hrun
  exact ⟨hs, h⟩

theorem Yields.bind {x : Constructing α β} {f : β → Constructing α γ} (hx : Yields Q x)
    (hf : ∀ b, Q b → Yields R (f b)) : Yields R (x >>= f) := by
  intro s r s' hrun hs
  rw [StateT.run_bind] at hrun
  obtain ⟨⟨b, between⟩, hfirst, hrun⟩ := exists_of_bind_eq_ok hrun
  obtain ⟨hbetween, hb⟩ := hx s b between hfirst hs
  exact hf b hb between r s' hrun hbetween

/-- A step without a state of its own leaves that of the construction. -/
private theorem Yields.lift (x : Except DocumentError β) : Yields (fun _ => True) (liftM x : Constructing α β) := by
  intro s r s' hrun hs
  cases x with
  | error e => cases hrun
  | ok b =>
    cases hrun
    exact ⟨hs, trivial⟩

private theorem Yields.of_get : Yields (fun _ => True) (get : Constructing α (Construction α)) := by
  intro s r s' hrun hs
  cases hrun
  exact ⟨hs, trivial⟩

private theorem Yields.of_modifyGet {f : Construction α → β × Construction α}
    (h : ∀ s, s.Separated → (f s).2.Separated) :
    Yields (fun _ => True) (modifyGet f : Constructing α β) := by
  intro s r s' hrun hs
  have hf : f s = (r, s') := Except.ok.inj hrun
  have hs' := h s hs
  rw [hf] at hs'
  exact ⟨hs', trivial⟩

private theorem Yields.of_modify {f : Construction α → Construction α} (h : ∀ s, s.Separated → (f s).Separated) :
    Yields (fun _ => True) (modify f : Constructing α PUnit) := .of_modifyGet h

theorem Yields.foldlM {ι : Type} {f : β → ι → Constructing α β} (hf : ∀ b i, Q b → Yields Q (f b i)) {b : β} (hb : Q b)
    (items : List ι) : Yields Q (items.foldlM f b) := by
  induction items generalizing b with
  | nil => exact .pure hb
  | cons i rest ih =>
    rw [List.foldlM_cons]
    exact (hf b i hb).bind fun _ => ih

theorem Yields.mapM {ι : Type} {f : ι → Constructing α β} (hf : ∀ i, Yields (fun _ => True) (f i)) (items : List ι) :
    Yields (fun _ => True) (items.mapM f) := by
  induction items with
  | nil => exact .pure trivial
  | cons i rest ih =>
    rw [List.mapM_cons]
    exact (hf i).bind fun _ _ => ih.bind fun _ _ => .pure trivial

private theorem Yields.forIn {ι : Type} {f : ι → PUnit → Constructing α (ForInStep PUnit)}
    (hf : ∀ i, Yields (· = .yield ⟨⟩) (f i ⟨⟩)) (items : List ι) : Yields (fun _ => True) (ForIn.forIn items ⟨⟩ f) := by
  induction items with
  | nil => exact .pure trivial
  | cons i rest ih =>
    rw [List.forIn_cons]
    refine (hf i).bind fun r hr => ?_
    rw [hr]
    exact ih

end Steps

/-! ### The steps of a construction -/

section Reading

variable [Scalar α]

private theorem make_yields (n : Nat) : Yields (fun _ => True) (make n : Constructing α (Held α)) := by
  refine Yields.of_get.bind fun s _ => ?_
  split
  · exact .pure trivial
  · simp only [pure_bind]
    split
    · refine Yields.bind (.of_modify fun _ hs => hs) fun _ _ => ?_
      exact Yields.bind (.of_modify fun _ hs => hs) fun _ _ => .pure trivial
    · refine Yields.bind (.lift _) fun _ _ => ?_
      exact Yields.bind (.of_modify fun _ hs => hs) fun _ _ => .pure trivial

private theorem makeKey_yields (n : Nat) : Yields (fun _ => True) (makeKey n : Constructing α (Leaf α)) := by
  refine (make_yields n).bind fun held _ => ?_
  cases held with
  | leaf l => exact .pure trivial
  | collection _ => exact .lift _

/-- Entries that are put in one after the other have their keys apart. -/
private theorem makeEntries_yields (mergeFuel n : Nat) :
    Yields Distinct (makeEntries mergeFuel n : Constructing α (List (Leaf α × Held α))) := by
  refine Yields.of_get.bind fun s _ => (Yields.lift _).bind fun nodes _ => ?_
  refine Yields.bind (.of_modify fun _ hs => hs) fun _ _ => ?_
  refine Yields.foldlM (fun sum entry hsum => ?_) List.Pairwise.nil _
  exact (makeKey_yields _).bind fun key _ => (make_yields _).bind fun value _ => .pure (Distinct.put hsum)

private theorem makePair_yields (n : Nat) : Yields (fun _ => True) (makePair n : Constructing α (Held α)) := by
  refine Yields.of_get.bind fun s _ => ?_
  split
  · refine (make_yields _).bind fun key _ => (make_yields _).bind fun value _ => ?_
    exact .of_modifyGet fun _ hs => hs.push trivial
  · exact .lift _

private theorem collectionOf_yields (order : SetOrder α) (mergeFuel n : Nat) :
    Yields Collection.Separated (collectionOf order mergeFuel n : Constructing α (Collection α)) := by
  refine Yields.of_get.bind fun s _ => ?_
  dsimp only
  split
  · exact (Yields.mapM make_yields _).bind fun _ _ => .pure trivial
  · exact (Yields.mapM makePair_yields _).bind fun _ _ => .pure trivial
  · exact (makeEntries_yields mergeFuel n).bind fun _ hentries => .pure hentries
  · exact (makeEntries_yields mergeFuel n).bind fun _ _ => .pure trivial
  · intro s r s' hrun
    cases hrun

private theorem fillIn_yields (order : SetOrder α) (mergeFuel rounds : Nat) :
    Yields (fun _ => True) (fillIn order mergeFuel rounds : Constructing α Unit) := by
  induction rounds with
  | zero => exact .pure trivial
  | succ rounds ih =>
    refine Yields.of_get.bind fun s _ => ?_
    dsimp only
    split
    · exact .pure trivial
    · refine Yields.bind (.of_modify fun _ hs => hs) fun _ _ => ?_
      refine (Yields.forIn (fun n => ?_) _).bind fun _ _ => ih
      refine (collectionOf_yields order mergeFuel n).bind fun c hc => ?_
      exact Yields.bind (.of_modify fun _ hs => hs.setIfInBounds hc n) fun _ _ => .pure rfl

private theorem ofRoot_yields (order : SetOrder α) (root : Nat) :
    Yields (fun _ => True) (ofRoot order root : Constructing α (Held α)) :=
  (make_yields root).bind fun _ _ =>
    Yields.of_get.bind fun _ _ => (fillIn_yields order _ _).bind fun _ _ => .pure trivial

end Reading

end Construction

namespace Document

private theorem separated_nothing : (nothing : Document α).Separated :=
  ⟨⟨_, rfl⟩, fun _ hc => absurd hc (Array.not_mem_empty _)⟩

theorem Separated.distinct {d : Document α} (h : d.Separated) {entries : List (Leaf α × Value α)}
    (hentries : d.entries? = some entries) : Distinct entries := by
  obtain ⟨content, collections⟩ := d
  obtain ⟨held, rfl⟩ := h.content
  cases held with
  | leaf l => cases hentries
  | collection n =>
    obtain ⟨own, hn, rfl⟩ := entries?_collection.1 hentries
    have hown : Distinct own := h.collections _ (Array.mem_of_getElem? hn)
    exact hown.of_keys (by rw [List.map_map]; rfl)

/-- What a key has is in the same table. -/
theorem Separated.entryOrNothing {d : Document α} (h : d.Separated) (key : Atom α) :
    (d.entryOrNothing key).Separated := by
  obtain ⟨content, collections⟩ := d
  obtain ⟨held, rfl⟩ := h.content
  unfold Document.entryOrNothing entry?
  split
  next shown hview =>
    obtain ⟨entries, hentries, rfl⟩ := entries_of_view hview
    cases held with
    | leaf l => cases hentries
    | collection n =>
      obtain ⟨own, -, rfl⟩ := entries?_collection.1 hentries
      cases hget : get? key _ with
      | none => exact separated_nothing
      | some found =>
        obtain ⟨k, hmem⟩ := mem_of_get? hget
        simp only [List.map_map, List.mem_map] at hmem
        obtain ⟨e, -, he⟩ := hmem
        cases he
        exact ⟨⟨_, rfl⟩, h.collections⟩
  next => exact separated_nothing

variable [Scalar α]

/-- Whatever is read has its keys apart. -/
theorem separated_of_ofText {order : SetOrder α} {text : String} {d : Document α} (h : ofText order text = .ok d) :
    d.Separated := by
  unfold ofText at h
  obtain ⟨graph?, -, h⟩ := exists_of_bind_eq_ok h
  cases graph? with
  | none =>
    cases h
    exact separated_nothing
  | some g =>
    obtain ⟨⟨held, s⟩, hrun, h⟩ := exists_of_bind_eq_ok h
    cases h
    refine ⟨⟨held, rfl⟩, (Construction.ofRoot_yields order g.root _ _ _ hrun fun c hc => ?_).1⟩
    obtain ⟨node, -, rfl⟩ := Array.mem_map.1 hc
    trivial

end Document

end EquatorialMount
