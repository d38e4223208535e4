import EquatorialMount.Document.Content
import EquatorialMount.Proofs.Document.View

/-!
# The order of sets

While a document is read nothing depends on the order in which its sets are gone through.  So a text is refused for the
same reason in every order, or else it is read as one document, but for the order of the members of its sets
(`Document.ofText_eq_rearranged`).  Whatever consists of items consists of the same ones then, and of as many
(`Document.members?_rearranged`).
-/

namespace EquatorialMount

variable {α : Type} {order : SetOrder α}

/-- A collection whose members are in the order they are written in, with its members in another order. -/
def Collection.rearranged (order : SetOrder α) : Collection α → Collection α
  | .set members => .set (order.arrange members)
  | other => other

/-- A document whose sets are in the order they are written in, with its sets in another order. -/
def Document.rearranged (order : SetOrder α) (d : Document α) : Document α :=
  { d with collections := d.collections.map (·.rearranged order) }

namespace Construction

def rearranged (order : SetOrder α) (s : Construction α) : Construction α :=
  { s with collections := s.collections.map (·.rearranged order) }

/-- From the state that is rearranged one step answers as another does, and the states that they leave correspond. -/
def Mirrors (order : SetOrder α) {β : Type} (x y : Constructing α β) : Prop :=
  ∀ s, y.run (s.rearranged order) = (x.run s).map fun (b, s') => (b, s'.rearranged order)

/-! ### Steps in general -/

section Steps

variable {β γ : Type}

private theorem Mirrors.pure (b : β) : Mirrors order (Pure.pure b : Constructing α β) (Pure.pure b) := fun _ => rfl

private theorem Mirrors.bind {x y : Constructing α β} {f g : β → Constructing α γ} (hxy : Mirrors order x y)
    (hfg : ∀ b, Mirrors order (f b) (g b)) : Mirrors order (x >>= f) (y >>= g) := by
  intro s
  rw [StateT.run_bind, StateT.run_bind, hxy s]
  cases x.run s with
  | error e => rfl
  | ok r => exact hfg r.1 r.2

/-- A step without a state of its own leaves that of the construction. -/
private theorem Mirrors.lift (x : Except DocumentError β) : Mirrors order (liftM x : Constructing α β) (liftM x) := by
  intro s
  cases x <;> rfl

/-- What is asked of the state has to do without the order of sets. -/
private theorem Mirrors.get_bind {f g : Construction α → Constructing α β}
    (h : ∀ s, Mirrors order (f s) (g (s.rearranged order))) : Mirrors order (get >>= f) (get >>= g) := fun s => h s s

private theorem Mirrors.of_modifyGet {f g : Construction α → β × Construction α}
    (h : ∀ s, g (s.rearranged order) = ((f s).1, (f s).2.rearranged order)) :
    Mirrors order (modifyGet f : Constructing α β) (modifyGet g) := fun s => congrArg Except.ok (h s)

private theorem Mirrors.of_modify {f g : Construction α → Construction α}
    (h : ∀ s, g (s.rearranged order) = (f s).rearranged order) :
    Mirrors order (modify f : Constructing α PUnit) (modify g) :=
  .of_modifyGet fun s => Prod.ext rfl (h s)

private theorem Mirrors.foldlM {ι : Type} {f : β → ι → Constructing α β} (hf : ∀ b i, Mirrors order (f b i) (f b i))
    (items : List ι) (b : β) : Mirrors order (items.foldlM f b) (items.foldlM f b) := by
  induction items generalizing b with
  | nil => exact .pure b
  | cons i rest ih =>
    rw [List.foldlM_cons]
    exact (hf b i).bind ih

private theorem Mirrors.mapM {ι : Type} {f : ι → Constructing α β} (hf : ∀ i, Mirrors order (f i) (f i))
    (items : List ι) : Mirrors order (items.mapM f) (items.mapM f) := by
  induction items with
  | nil => exact .pure []
  | cons i rest ih =>
    rw [List.mapM_cons]
    exact (hf i).bind fun _ => ih.bind fun _ => .pure _

private theorem Mirrors.forIn {ι : Type} {f g : ι → PUnit → Constructing α (ForInStep PUnit)}
    (hfg : ∀ i, Mirrors order (f i ⟨⟩) (g i ⟨⟩)) (items : List ι) :
    Mirrors order (ForIn.forIn items ⟨⟩ f) (ForIn.forIn items ⟨⟩ g) := by
  induction items with
  | nil => exact .pure _
  | cons i rest ih =>
    rw [List.forIn_cons, List.forIn_cons]
    refine (hfg i).bind fun r => ?_
    cases r with
    | done => exact .pure _
    | yield => exact ih

end Steps

/-! ### The steps of a construction -/

section Reading

variable [Scalar α] [NumberReading α]

private theorem make_mirrors (n : Nat) : Mirrors order (make n : Constructing α (Held α)) (make n) := by
  refine .get_bind fun s => ?_
  dsimp only [rearranged]
  split
  · exact .pure _
  · simp only [pure_bind]
    split
    · refine Mirrors.bind (.of_modify fun _ => rfl) fun _ => ?_
      exact Mirrors.bind (.of_modify fun _ => rfl) fun _ => .pure _
    · refine Mirrors.bind (.lift _) fun _ => ?_
      exact Mirrors.bind (.of_modify fun _ => rfl) fun _ => .pure _

private theorem makeKey_mirrors (n : Nat) : Mirrors order (makeKey n : Constructing α (Leaf α)) (makeKey n) := by
  refine (make_mirrors n).bind fun held => ?_
  cases held with
  | leaf l => exact .pure l
  | collection _ => exact .lift _

private theorem makeEntries_mirrors (mergeFuel n : Nat) :
    Mirrors order (makeEntries mergeFuel n : Constructing α (List (Leaf α × Held α))) (makeEntries mergeFuel n) := by
  refine .get_bind fun s => Mirrors.bind (.lift _) fun nodes => Mirrors.bind (.of_modify fun _ => rfl) fun _ => ?_
  refine .foldlM (fun sum entry => ?_) _ _
  exact (makeKey_mirrors _).bind fun _ => (make_mirrors _).bind fun _ => .pure _

private theorem makePair_mirrors (n : Nat) : Mirrors order (makePair n : Constructing α (Held α)) (makePair n) := by
  refine .get_bind fun s => ?_
  dsimp only [rearranged]
  split
  · refine (make_mirrors _).bind fun key => (make_mirrors _).bind fun value => .of_modifyGet fun s => ?_
    simp [rearranged, Collection.rearranged]
  · exact .lift _

/-- Only a set is another collection in another order. -/
private theorem collectionOf_eq_map (order : SetOrder α) (mergeFuel n : Nat) :
    collectionOf order mergeFuel n = (·.rearranged order) <$> collectionOf .asWritten mergeFuel n := by
  unfold collectionOf
  rw [map_bind]
  refine bind_congr fun s => ?_
  dsimp only
  split <;> simp only [map_bind, map_pure, Collection.rearranged, SetOrder.asWritten, id] <;> rfl

private theorem collectionOf_mirrors (mergeFuel n : Nat) :
    Mirrors order (collectionOf .asWritten mergeFuel n : Constructing α (Collection α))
      (collectionOf .asWritten mergeFuel n) := by
  refine .get_bind fun s => ?_
  dsimp only [rearranged]
  split
  · exact (Mirrors.mapM make_mirrors _).bind fun _ => .pure _
  · exact (Mirrors.mapM makePair_mirrors _).bind fun _ => .pure _
  · exact (makeEntries_mirrors mergeFuel n).bind fun _ => .pure _
  · exact (makeEntries_mirrors mergeFuel n).bind fun _ => .pure _
  · exact .lift _

private theorem fillIn_mirrors (mergeFuel rounds : Nat) :
    Mirrors order (fillIn .asWritten mergeFuel rounds : Constructing α Unit) (fillIn order mergeFuel rounds) := by
  induction rounds with
  | zero => exact .pure _
  | succ rounds ih =>
    refine .get_bind fun s => ?_
    dsimp only [rearranged]
    split
    · exact .pure _
    · refine Mirrors.bind (.of_modify fun _ => rfl) fun _ => ?_
      refine (Mirrors.forIn (fun n => ?_) _).bind fun _ => ih
      rw [collectionOf_eq_map order, bind_map_left]
      refine (collectionOf_mirrors mergeFuel n).bind fun c => ?_
      refine Mirrors.bind (.of_modify fun s => ?_) fun _ => .pure _
      simp [rearranged, Array.map_setIfInBounds]

private theorem ofRoot_mirrors (order : SetOrder α) (root : Nat) :
    Mirrors order (ofRoot .asWritten root : Constructing α (Held α)) (ofRoot order root) :=
  (make_mirrors root).bind fun _ => .get_bind fun _ => (fillIn_mirrors _ _).bind fun _ => .pure _

end Reading

end Construction

namespace Document

private theorem rearranged_ofAtom (a : Atom α) : (ofAtom a).rearranged order = ofAtom a := by
  simp [rearranged, ofAtom]

section Reading

variable [Scalar α] [NumberReading α]

private theorem ofGraph_eq_rearranged (g : NodeGraph) :
    ofGraph order g = (ofGraph .asWritten g).map (rearranged order) := by
  have hstart : (Construction.ofNodes g.nodes).rearranged order = Construction.ofNodes g.nodes := by
    simp [Construction.rearranged, Construction.ofNodes, Collection.rearranged]
  have hrun := Construction.ofRoot_mirrors order g.root (Construction.ofNodes g.nodes)
  rw [hstart] at hrun
  unfold ofGraph
  rw [hrun]
  cases (Construction.ofRoot .asWritten g.root : Construction.Constructing α _).run (.ofNodes g.nodes) <;> rfl

/-- In any order a text is read as the same document, but for the order of its sets. -/
theorem ofText_eq_rearranged (order : SetOrder α) (text : String) :
    ofText order text = (ofText .asWritten text).map (rearranged order) := by
  unfold ofText
  cases NodeGraph.ofTokens? (TokenStream.ofText text) with
  | error e => rfl
  | ok graph? =>
    cases graph? with
    | none => exact congrArg Except.ok (rearranged_ofAtom .null).symm
    | some g => exact ofGraph_eq_rearranged g

end Reading

/-! ### What a document consists of -/

section Members

variable {collections : Array (Collection α)} {n : Nat}

private theorem map_rearranged_ofAtom (atoms : List (Atom α)) :
    (atoms.map ofAtom).map (rearranged order) = atoms.map ofAtom := by
  rw [List.map_map]
  exact List.map_congr_left fun a _ => rearranged_ofAtom a

private theorem members?_of_entries {d : Document α} {entries : List (Leaf α × Value α)}
    (h : d.entries? = some entries) : d.members? = some ((entries.map (·.1.atom)).map ofAtom) := by
  unfold members?
  rw [view_of_entries h]
  simp only [List.map_map]
  rfl

private theorem members?_of_missing (h : collections[n]? = none) :
    (⟨.leaf (.collection n), collections⟩ : Document α).members? = none := by
  simp [members?, view, entries?, h, Atom.members?]

private theorem members?_of_list {items : List (Held α)} (h : collections[n]? = some (.list items)) :
    (⟨.leaf (.collection n), collections⟩ : Document α).members? =
      some (items.map fun held => ⟨.leaf held, collections⟩) := by
  simp [members?, view, entries?, h, holding]

private theorem members?_of_set {members : List (Leaf α)} (h : collections[n]? = some (.set members)) :
    (⟨.leaf (.collection n), collections⟩ : Document α).members? = some ((members.map (·.atom)).map ofAtom) := by
  simp [members?, view, entries?, h]

end Members

/-- What consists of items consists of the same ones in every order of sets. -/
theorem members?_rearranged (order : SetOrder α) (d : Document α) :
    Option.Rel (fun items items' => items'.Perm (items.map (rearranged order))) d.members?
      (d.rearranged order).members? := by
  obtain ⟨content, collections⟩ := d
  cases content with
  | map entries =>
    rw [members?_of_entries rfl, members?_of_entries rfl]
    exact .some (.of_eq (map_rearranged_ofAtom _).symm)
  | leaf held =>
    cases held with
    | leaf l =>
      show Option.Rel _ (l.atom.members?.map (·.map ofAtom)) (l.atom.members?.map (·.map ofAtom))
      cases l.atom.members? with
      | none => exact .none
      | some atoms => exact .some (.of_eq (map_rearranged_ofAtom atoms).symm)
    | collection n =>
      have hsame : (collections.map (·.rearranged order))[n]? = collections[n]?.map (·.rearranged order) :=
        Array.getElem?_map
      cases hn : collections[n]? with
      | none =>
        rw [members?_of_missing hn, rearranged, members?_of_missing (by rw [hsame, hn]; rfl)]
        exact .none
      | some c =>
        rw [hn] at hsame
        cases c with
        | list items =>
          rw [members?_of_list hn, rearranged, members?_of_list hsame]
          refine .some (.of_eq ?_)
          rw [List.map_map]
          rfl
        | map entries =>
          rw [members?_of_entries (entries?_collection.2 ⟨entries, hn, rfl⟩), rearranged,
            members?_of_entries (entries?_collection.2 ⟨entries, hsame, rfl⟩)]
          exact .some (.of_eq (map_rearranged_ofAtom _).symm)
        | set members =>
          rw [members?_of_set hn, rearranged, members?_of_set hsame]
          refine .some ?_
          rw [map_rearranged_ofAtom]
          exact ((order.perm members).map _).map _

end Document

end EquatorialMount
