import ChatGateway.Report.Tree
import ChatGateway.Proofs.Report.Order

/-!
# The leaves of a tree of broken rules

`Tree.fieldErrors` reports what is broken at the leaves of a tree.  A leaf is found by the
way to it (`Node.Leaf`), and if no name and no index stands twice at one place
(`Node.Distinct`), a way leads to one leaf only.  So the reports on the place that a way
leads to are those of its leaf (`Node.filter_flatten`), and a tree that has been put into
another order is reported alike (`Node.Reordered`): sorting orders the places, and keeps
the order at each of them.
-/

namespace ChatGateway.Report

/-! ## Leaves -/

/-- `path` leads to the leaf with `violations`. -/
inductive Node.Leaf : Node → Location → List Violation → Prop where
  | errors (violations : List Violation) : Leaf (.errors violations) [] violations
  | field {nodes : List (String × Node)} {name : String} {node : Node} {path : Location}
      {violations : List Violation} (hmem : (name, node) ∈ nodes)
      (hleaf : Leaf node path violations) :
      Leaf (.inside (.fields nodes)) (.name name :: path) violations
  | item {trees : List (Nat × Tree)} {index : Nat} {tree : Tree} {path : Location}
      {violations : List Violation} (hmem : (index, tree) ∈ trees)
      (hleaf : Leaf (.inside tree) path violations) :
      Leaf (.items trees) (.index index :: path) violations

/-- No structure has a field twice, and no list an item. -/
inductive Node.Distinct : Node → Prop where
  | errors (violations : List Violation) : Distinct (.errors violations)
  | fields {nodes : List (String × Node)} (hnames : (nodes.map Prod.fst).Nodup)
      (hnodes : ∀ field ∈ nodes, Distinct field.2) : Distinct (.inside (.fields nodes))
  | items {trees : List (Nat × Tree)} (hindexes : (trees.map Prod.fst).Nodup)
      (htrees : ∀ item ∈ trees, Distinct (.inside item.2)) : Distinct (.items trees)

/-- One node is the other with the fields of its structures, and the items of its lists,
in another order. -/
inductive Node.Reordered : Node → Node → Prop where
  | errors (violations : List Violation) : Reordered (.errors violations) (.errors violations)
  | fields {nodes nodes' : List (String × Node)} {pairs : List (String × Node × Node)}
      (hpairs : ∀ pair ∈ pairs, Reordered pair.2.1 pair.2.2)
      (hnodes : nodes.Perm (pairs.map fun pair => (pair.1, pair.2.1)))
      (hnodes' : nodes'.Perm (pairs.map fun pair => (pair.1, pair.2.2))) :
      Reordered (.inside (.fields nodes)) (.inside (.fields nodes'))
  | items {trees trees' : List (Nat × Tree)} {pairs : List (Nat × Tree × Tree)}
      (hpairs : ∀ pair ∈ pairs, Reordered (.inside pair.2.1) (.inside pair.2.2))
      (htrees : trees.Perm (pairs.map fun pair => (pair.1, pair.2.1)))
      (htrees' : trees'.Perm (pairs.map fun pair => (pair.1, pair.2.2))) :
      Reordered (.items trees) (.items trees')

/-! ## Reports and leaves -/

theorem Node.flattenFields_eq_flatMap (loc : Location) (nodes : List (String × Node)) :
    Node.flattenFields loc nodes =
      nodes.flatMap fun field => field.2.flatten (loc ++ [.name field.1]) := by
  induction nodes with
  | nil => rfl
  | cons field nodes ih => rw [Node.flattenFields, ih, List.flatMap_cons]

theorem Tree.flattenItems_eq_flatMap (loc : Location) (trees : List (Nat × Tree)) :
    Tree.flattenItems loc trees =
      trees.flatMap fun item => (Node.inside item.2).flatten (loc ++ [.index item.1]) := by
  induction trees with
  | nil => rfl
  | cons item trees ih => rw [Tree.flattenItems, ih, List.flatMap_cons, Node.flatten]

/-- A report made at `loc` is on a place that the way to some leaf leads to from there. -/
def Node.Reports (node : Node) (loc : Location) (e : FieldError) : Prop :=
  ∃ path violations, node.Leaf path violations ∧
    e ∈ violations.map (Violation.report (loc ++ path))

mutual

theorem Node.reports_of_mem_flatten {loc : Location} {e : FieldError} :
    ∀ {node : Node}, e ∈ node.flatten loc → node.Reports loc e
  | .errors violations, h => ⟨[], violations, .errors violations, by simpa [Node.flatten] using h⟩
  | .inside (.fields nodes), h => by
      obtain ⟨field, hmem, path, violations, hleaf, hreport⟩ := reports_of_mem_flattenFields h
      exact ⟨_, violations, .field hmem hleaf, by simpa using hreport⟩
  | .items trees, h => by
      obtain ⟨item, hmem, path, violations, hleaf, hreport⟩ := reports_of_mem_flattenItems h
      exact ⟨_, violations, .item hmem hleaf, by simpa using hreport⟩

theorem Node.reports_of_mem_flattenFields {loc : Location} {e : FieldError} :
    ∀ {nodes : List (String × Node)}, e ∈ Node.flattenFields loc nodes →
      ∃ field ∈ nodes, field.2.Reports (loc ++ [.name field.1]) e
  | (name, node) :: nodes, h => by
      rcases List.mem_append.mp h with h | h
      · exact ⟨(name, node), List.mem_cons_self, reports_of_mem_flatten h⟩
      · obtain ⟨field, hmem, hreports⟩ := reports_of_mem_flattenFields h
        exact ⟨field, List.mem_cons_of_mem _ hmem, hreports⟩

theorem Node.reports_of_mem_flattenItems {loc : Location} {e : FieldError} :
    ∀ {trees : List (Nat × Tree)}, e ∈ Tree.flattenItems loc trees →
      ∃ item ∈ trees, (Node.inside item.2).Reports (loc ++ [.index item.1]) e
  | (index, tree) :: trees, h => by
      rcases List.mem_append.mp h with h | h
      · exact ⟨(index, tree), List.mem_cons_self, reports_of_mem_flatten h⟩
      · obtain ⟨item, hmem, hreports⟩ := reports_of_mem_flattenItems h
        exact ⟨item, List.mem_cons_of_mem _ hmem, hreports⟩

end

theorem Node.Reports.exists_loc_eq {node : Node} {loc : Location} {e : FieldError}
    (h : node.Reports loc e) : ∃ path, e.loc = loc ++ path := by
  obtain ⟨path, violations, -, hreport⟩ := h
  obtain ⟨v, -, rfl⟩ := List.mem_map.mp hreport
  exact ⟨path, rfl⟩

/-- Nothing below one segment is reported below another one. -/
theorem Node.filter_flatten_of_ne {s s' : Segment} (h : s' ≠ s) (node : Node)
    (loc path : Location) :
    (node.flatten (loc ++ [s'])).filter (FieldError.isAt (loc ++ s :: path)) = [] := by
  refine List.filter_eq_nil_iff.mpr fun e he hat => ?_
  obtain ⟨path', hloc⟩ := (Node.reports_of_mem_flatten he).exists_loc_eq
  rw [FieldError.isAt, decide_eq_true_eq, hloc, List.append_assoc, List.append_cancel_left_eq]
    at hat
  exact h (List.cons.inj hat).1

/-- Of lists under distinct keys that are put together, a filter leaves what it leaves of
the one under a key if it leaves nothing of those under others. -/
theorem filter_flatMap_of_mem {κ α β : Type} {f : κ × α → List β} {p : β → Bool}
    {entries : List (κ × α)} {entry : κ × α} (hkeys : (entries.map Prod.fst).Nodup)
    (hmem : entry ∈ entries) (hothers : ∀ other, other.1 ≠ entry.1 → (f other).filter p = []) :
    (entries.flatMap f).filter p = (f entry).filter p := by
  obtain ⟨before, after, rfl⟩ := List.append_of_mem hmem
  have hnone (others : List (κ × α)) (h : ∀ other ∈ others, other.1 ≠ entry.1) :
      others.flatMap (fun other => (f other).filter p) = [] :=
    List.flatMap_eq_nil_iff.mpr fun other hother => hothers other (h other hother)
  rw [List.map_append, List.map_cons, List.nodup_middle, List.nodup_cons, List.mem_append,
    not_or] at hkeys
  obtain ⟨⟨hbefore, hafter⟩, -⟩ := hkeys
  rw [List.filter_flatMap, List.flatMap_append, List.flatMap_cons,
    hnone before fun other hother heq => hbefore (heq ▸ List.mem_map_of_mem hother),
    hnone after fun other hother heq => hafter (heq ▸ List.mem_map_of_mem hother),
    List.nil_append, List.append_nil]

/-- **The reports on a place** are those of the leaf that the way to it leads to. -/
theorem Node.filter_flatten {node : Node} {path : Location} {violations : List Violation}
    (hleaf : node.Leaf path violations) (hdistinct : node.Distinct) (loc : Location) :
    (node.flatten loc).filter (FieldError.isAt (loc ++ path)) =
      violations.map (Violation.report (loc ++ path)) := by
  induction hleaf generalizing loc with
  | errors violations =>
      rw [List.append_nil, Node.flatten]
      refine List.filter_eq_self.mpr fun e he => ?_
      obtain ⟨v, -, rfl⟩ := List.mem_map.mp he
      simp [FieldError.isAt, Violation.report]
  | @field nodes name node path violations hmem hleaf ih =>
      cases hdistinct with
      | fields hnames hnodes =>
          rw [Node.flatten, Tree.flatten, Node.flattenFields_eq_flatMap,
            filter_flatMap_of_mem hnames hmem fun other hother =>
              Node.filter_flatten_of_ne (mt Segment.name.inj hother) _ _ _,
            List.append_cons]
          exact ih (hnodes _ hmem) (loc ++ [.name name])
  | @item trees index tree path violations hmem hleaf ih =>
      cases hdistinct with
      | items hindexes htrees =>
          rw [Node.flatten, Tree.flattenItems_eq_flatMap,
            filter_flatMap_of_mem hindexes hmem fun other hother =>
              Node.filter_flatten_of_ne (mt Segment.index.inj hother) _ _ _,
            List.append_cons]
          exact ih (htrees _ hmem) (loc ++ [.index index])

/-! ## Trees in another order -/

theorem Node.leaf_fields_iff {nodes : List (String × Node)} {way : Location}
    {violations : List Violation} :
    (Node.inside (.fields nodes)).Leaf way violations ↔
      ∃ field ∈ nodes, ∃ path, way = .name field.1 :: path ∧ field.2.Leaf path violations := by
  constructor
  · intro h
    cases h with
    | field hmem hleaf => exact ⟨_, hmem, _, rfl, hleaf⟩
  · rintro ⟨field, hmem, path, rfl, hleaf⟩
    exact .field hmem hleaf

theorem Node.leaf_items_iff {trees : List (Nat × Tree)} {way : Location}
    {violations : List Violation} :
    (Node.items trees).Leaf way violations ↔
      ∃ item ∈ trees, ∃ path, way = .index item.1 :: path ∧
        (Node.inside item.2).Leaf path violations := by
  constructor
  · intro h
    cases h with
    | item hmem hleaf => exact ⟨_, hmem, _, rfl, hleaf⟩
  · rintro ⟨item, hmem, path, rfl, hleaf⟩
    exact .item hmem hleaf

/-- Another order has the same leaves. -/
theorem Node.Reordered.leaf_iff {node node' : Node} (h : node.Reordered node') {path : Location}
    {violations : List Violation} : node.Leaf path violations ↔ node'.Leaf path violations := by
  induction h generalizing path with
  | errors violations => rfl
  | fields _ hnodes hnodes' ih =>
      simp only [Node.leaf_fields_iff, hnodes.mem_iff, hnodes'.mem_iff, List.mem_map,
        exists_exists_and_eq_and]
      exact exists_congr fun pair => and_congr_right fun hpair => exists_congr fun path =>
        and_congr_right fun _ => ih pair hpair
  | items _ htrees htrees' ih =>
      simp only [Node.leaf_items_iff, htrees.mem_iff, htrees'.mem_iff, List.mem_map,
        exists_exists_and_eq_and]
      exact exists_congr fun pair => and_congr_right fun hpair => exists_congr fun path =>
        and_congr_right fun _ => ih pair hpair

theorem Node.Reordered.distinct {node node' : Node} (h : node.Reordered node')
    (hdistinct : node.Distinct) : node'.Distinct := by
  induction h with
  | errors violations => exact hdistinct
  | fields _ hnodes hnodes' ih =>
      cases hdistinct with
      | fields hnames hdistinct =>
          refine .fields ?_ ?_
          · rw [(hnodes.map _).nodup_iff, List.map_map] at hnames
            rw [(hnodes'.map _).nodup_iff, List.map_map]
            exact hnames
          · intro field hfield
            obtain ⟨pair, hpair, rfl⟩ := List.mem_map.mp (hnodes'.subset hfield)
            exact ih pair hpair (hdistinct _ (hnodes.symm.subset (List.mem_map_of_mem hpair)))
  | items _ htrees htrees' ih =>
      cases hdistinct with
      | items hindexes hdistinct =>
          refine .items ?_ ?_
          · rw [(htrees.map _).nodup_iff, List.map_map] at hindexes
            rw [(htrees'.map _).nodup_iff, List.map_map]
            exact hindexes
          · intro item hitem
            obtain ⟨pair, hpair, rfl⟩ := List.mem_map.mp (htrees'.subset hitem)
            exact ih pair hpair (hdistinct _ (htrees.symm.subset (List.mem_map_of_mem hpair)))

/-- The reports on each place are the same in another order: those of the one leaf there,
or none. -/
theorem Node.Reordered.filter_flatten_eq {node node' : Node} (h : node.Reordered node')
    (hdistinct : node.Distinct) (loc place : Location) :
    (node.flatten loc).filter (FieldError.isAt place) =
      (node'.flatten loc).filter (FieldError.isAt place) := by
  by_cases hleaf : ∃ path violations, node.Leaf path violations ∧ place = loc ++ path
  · obtain ⟨path, violations, hleaf, rfl⟩ := hleaf
    rw [Node.filter_flatten hleaf hdistinct,
      Node.filter_flatten (h.leaf_iff.mp hleaf) (h.distinct hdistinct)]
  · have hnone (other : Node) (hsame : ∀ path violations, other.Leaf path violations →
        node.Leaf path violations) :
        (other.flatten loc).filter (FieldError.isAt place) = [] := by
      refine List.filter_eq_nil_iff.mpr fun e he hat => hleaf ?_
      obtain ⟨path, violations, hother, hreport⟩ := Node.reports_of_mem_flatten he
      obtain ⟨v, -, rfl⟩ := List.mem_map.mp hreport
      exact ⟨path, violations, hsame _ _ hother, (of_decide_eq_true hat).symm⟩
    rw [hnone node fun _ _ => id, hnone node' fun _ _ => h.leaf_iff.mpr]

/-! ## The reports on a tree -/

/-- **What is reported of a tree** in which no structure has a field twice, and no list an
item.  The reports on the place that the way to a leaf leads to are those of what is broken
there, in their order, and there are no others; the places come in order; and another order
of the fields and items makes no difference. -/
theorem Tree.reports_leaves (t : Tree) (hdistinct : (Node.inside t).Distinct) :
    (∀ path violations, (Node.inside t).Leaf path violations →
      t.fieldErrors.filter (FieldError.isAt (.name "body" :: path)) =
        violations.map fun v => ⟨.name "body" :: path, v.message.getD v.code, v.code⟩) ∧
    (∀ e ∈ t.fieldErrors, ∃ path violations, (Node.inside t).Leaf path violations ∧
      e.loc = .name "body" :: path) ∧
    (t.fieldErrors.Pairwise fun a b =>
      a.loc = b.loc ∨ List.Lex Segment.Before a.loc b.loc) ∧
    ∀ t', (Node.inside t).Reordered (.inside t') → t'.fieldErrors = t.fieldErrors := by
  refine ⟨fun path violations hleaf => ?leaves, fun e he => ?others, ?sorted, fun t' h => ?same⟩
  case leaves =>
    rw [fieldErrors, FieldError.filter_sort]
    exact Node.filter_flatten hleaf hdistinct Location.body
  case others =>
    have hmem : e ∈ (Node.inside t).flatten Location.body := (FieldError.sort_perm _).subset he
    obtain ⟨path, violations, hleaf, hreport⟩ := Node.reports_of_mem_flatten hmem
    obtain ⟨v, -, rfl⟩ := List.mem_map.mp hreport
    exact ⟨path, violations, hleaf, rfl⟩
  case sorted => exact (FieldError.sort_pairwise _).imp Location.eq_or_lex_of_le
  case same =>
    exact FieldError.sort_congr fun loc => (h.filter_flatten_eq hdistinct Location.body loc).symm

/-- An item with two broken rules at one field. -/
def sampleItem : Tree := .fields [
  ("role", .errors [{ code := "role" }, { code := "length", message := some "too short" }])]

/-- A list with a faulty item, and a faulty field beside it. -/
def sampleTree : Tree := .fields [
  ("messages", .items [(1, sampleItem)]), ("model", .errors [{ code := "model" }])]

/-- The sample with its fields in the other order. -/
def swappedTree : Tree := .fields [
  ("model", .errors [{ code := "model" }]), ("messages", .items [(1, sampleItem)])]

/-- The place of the faulty field in the list. -/
def samplePlace : Location := [.name "body", .name "messages", .index 1, .name "role"]

theorem leaf_sampleTree : (Node.inside sampleTree).Leaf
    [.name "messages", .index 1, .name "role"]
    [{ code := "role" }, { code := "length", message := some "too short" }] :=
  .field List.mem_cons_self (.item List.mem_cons_self (.field List.mem_cons_self (.errors _)))

theorem distinct_sampleTree : (Node.inside sampleTree).Distinct := by
  have hitem : (Node.inside sampleItem).Distinct :=
    .fields (by decide) (by simpa using Node.Distinct.errors _)
  have hmessages : (Node.items [(1, sampleItem)]).Distinct :=
    .items (by decide) (by simpa using hitem)
  exact .fields (by decide) (by simpa using ⟨hmessages, Node.Distinct.errors _⟩)

theorem reordered_sampleTree : (Node.inside sampleTree).Reordered (.inside swappedTree) := by
  have hitem : (Node.inside sampleItem).Reordered (.inside sampleItem) :=
    @Node.Reordered.fields _ _ [("role", _, _)] (by simpa using Node.Reordered.errors _)
      (List.Perm.refl _) (List.Perm.refl _)
  have hmessages : (Node.items [(1, sampleItem)]).Reordered (.items [(1, sampleItem)]) :=
    @Node.Reordered.items _ _ [(1, sampleItem, sampleItem)] (by simpa using hitem)
      (List.Perm.refl _) (List.Perm.refl _)
  exact @Node.Reordered.fields _ _ [("messages", _, _), ("model", _, _)]
    (by simpa using ⟨hmessages, Node.Reordered.errors _⟩) (List.Perm.refl _) (List.Perm.swap _ _ _)

theorem reports_leaves_sample :
    (Node.inside sampleTree).Distinct ∧
      sampleTree.fieldErrors.filter (FieldError.isAt samplePlace) =
        [⟨samplePlace, "role", "role"⟩, ⟨samplePlace, "too short", "length"⟩] ∧
      swappedTree.fieldErrors = sampleTree.fieldErrors := by
  obtain ⟨hleaves, -, -, hsame⟩ := Tree.reports_leaves sampleTree distinct_sampleTree
  exact ⟨distinct_sampleTree, hleaves _ _ leaf_sampleTree, hsame swappedTree reordered_sampleTree⟩

end ChatGateway.Report
