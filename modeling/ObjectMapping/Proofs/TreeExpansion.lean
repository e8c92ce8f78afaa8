import ObjectMapping.Proofs.ValueRoundTrip
import ObjectMapping.Proofs.WrapperMapper

/-!
# Expanding a chain of trees

The catalogue's `Tree` is a label and a list of trees. A tree whose every level but the last
has one child is the simplest instance whose objects nest as deep as one likes, so it shows
how the mapper's limit on nested objects relates to the nesting of what it writes.

* `PlainField`: a property read as its field is, with no adapters.
  `Mapper.readProperty_plain`: such a property is read as the borrowed value of the field.
* `Catalogue.treeChain`, `Catalogue.treeChainValue`: a chain of `n + 1` levels, and the value
  map it expands to, one level of maps and one of arrays for each level of trees.
* `Mapper.expandObject_treeChain`: by induction on the chain, every level is expanded with the
  kept mapper of the tree, one object level deeper each time.
* `Catalogue.treeMapper_fresh`: the mapper a fresh factory of the catalogue builds for the tree
  has the two plain properties the induction needs.
-/
namespace ObjectMapping

/-- A field of a record read as it is: no adapters, a value representation, and an owner check
that passes for every instance of the record. -/
structure PlainField (m : Mapper) (owner : Ty) (p : MappedProperty) (name : String)
    (position : Nat) (t : Ty) : Prop where
  name_eq : p.name = name
  chain_empty : p.chain.isEmpty = true
  value : p.location.property.ops.value.isSome = true
  position_eq : p.location.property.position = position
  ty_eq : p.location.property.ops.ty = t
  owner_ok : ∀ x : Instance, x.ty = owner → m.strategy.checkOwner p.location x = .ok ()

namespace Strategy

/-- The owner check looks at the owner's type only. -/
theorem checkOwner_of_ty (s : Strategy) (loc : Location) {x y : Instance} (h : x.ty = y.ty) :
    s.checkOwner loc x = s.checkOwner loc y := by
  cases s <;> simp [checkOwner, h]

end Strategy

namespace Mapper

/-- A plain field is read as the borrowed value of the field. -/
theorem readProperty_plain {S : Schema} {m : Mapper} {owner : Ty} {p : MappedProperty}
    {name : String} {position : Nat} {t : Ty} (hp : PlainField m owner p name position t)
    {x : Instance} (hx : x.ty = owner) :
    m.readProperty S p x =
      .ok (S.valueOf false t (x.datum.field position) (.part x.identity position)) := by
  obtain ⟨o, ho⟩ := Option.isSome_iff_exists.mp hp.value
  unfold readProperty Strategy.getter Strategy.reference
  simp [hp.chain_empty, hp.owner_ok x hx, bind, Except.bind, ho, pure, Except.pure, hp.position_eq, hp.ty_eq]

end Mapper

namespace Catalogue

/-- A tree of `n + 1` levels, every label `a`, each level but the last with one child. -/
def treeChain : Nat → Datum
  | 0 => .record [.string "a", .list []]
  | n + 1 => .record [.string "a", .list [treeChain n]]

/-- What a tree of `n + 1` levels expands to: each level the map of its label and its
children. -/
def treeChainValue : Nat → Value
  | 0 => .map (.ofEntries [("label", .string "a"), ("children", .array [])])
  | n + 1 => .map (.ofEntries [("label", .string "a"), ("children", .array [treeChainValue n])])

/-- Each level of trees nests a map and an array. -/
theorem treeChainValue_nesting (n : Nat) : (treeChainValue n).nesting = 2 * n + 2 := by
  induction n with
  | zero => rfl
  | succ n ih =>
    simp only [treeChainValue, Value.nesting, Value.nestingEntries, Value.nestingList, ih]
    omega

/-- The expansion has no object left, no float, and distinct keys in every map. -/
theorem treeChainValue_plain (n : Nat) : (treeChainValue n).objects = [] ∧
    (treeChainValue n).hasFloat = false ∧ (treeChainValue n).WellKeyed := by
  induction n with
  | zero => simp [treeChainValue, Value.objects, Value.objectsEntries, Value.objectsList,
      Value.hasFloat, Value.hasFloatEntries, Value.hasFloatList, Value.WellKeyed,
      Value.WellKeyedEntries, Value.WellKeyedList]
  | succ n ih =>
    obtain ⟨hobj, hfl, hwk⟩ := ih
    simp [treeChainValue, Value.objects, Value.objectsEntries, Value.objectsList, hobj,
      Value.hasFloat, Value.hasFloatEntries, Value.hasFloatList, hfl, Value.WellKeyed,
      Value.WellKeyedEntries, Value.WellKeyedList, hwk]

/-- The factory keeps the mapper of the tree, whose two properties read the label and the
children as they are. -/
structure TreeMapper (g : Factory) (m : Mapper) : Prop where
  described : m.descriptor.isSome = true
  ty_eq : m.ops.ty = declared "Tree"
  kept : ∃ d, g.schema.descriptor? (declared "Tree") = some d ∧
    Factory.run (Factory.mapperFor d) g = (.ok m, g)
  record : (g.schema.record? (declared "Tree")).isSome = true
  properties : ∃ label children, m.properties = [label, children] ∧
    PlainField m (declared "Tree") label "label" 0 .string ∧
    PlainField m (declared "Tree") children "children" 1 (.vec (declared "Tree"))

end Catalogue

namespace Mapper

open Catalogue

section Expand

variable {limit depth : Nat} {g g₁ g₂ : Factory}

theorem run_expandProperties_cons {m : Mapper} {x : Instance} {S : Schema} {p : MappedProperty}
    {ps : List MappedProperty} {v w : Value} {rest : List (String × Value)}
    (hread : m.readProperty S p x = .ok v)
    (hvalue : Factory.run (expandValue limit depth v) g = (.ok w, g₁))
    (hrest : Factory.run (expandProperties limit depth m x S ps) g₁ = (.ok rest, g₂)) :
    Factory.run (expandProperties limit depth m x S (p :: ps)) g = (.ok ((p.name, w) :: rest), g₂) := by
  rw [expandProperties]
  simp only [hread]
  rw [Factory.run_bind_ok (Factory.run_pure v g), Factory.run_bind_ok hvalue,
    Factory.run_bind_ok hrest]
  rfl

theorem run_expandValue_array {items ws : List Value}
    (h : Factory.run (expandItems limit depth items) g = (.ok ws, g₁)) :
    Factory.run (expandValue limit depth (.array items)) g = (.ok (.array ws), g₁) := by
  rw [expandValue, Factory.run_bind_ok h]
  rfl

theorem run_expandValue_string (s : String) :
    Factory.run (expandValue limit depth (.string s)) g = (.ok (.string s), g) := by
  rw [expandValue.eq_def]
  rfl

theorem run_expandProperties_nil (m : Mapper) (x : Instance) (S : Schema) :
    Factory.run (expandProperties limit depth m x S []) g = (.ok [], g) := by
  rw [expandProperties]
  rfl

theorem run_expandItems_nil : Factory.run (expandItems limit depth []) g = (.ok [], g) := by
  rw [expandItems]
  rfl

theorem run_expandItems_single {v w : Value}
    (h : Factory.run (expandValue limit depth v) g = (.ok w, g₁)) :
    Factory.run (expandItems limit depth [v]) g = (.ok [w], g₁) := by
  rw [expandItems, Factory.run_bind_ok h, Factory.run_bind_ok run_expandItems_nil]
  rfl

theorem run_expandValue_object (r : ObjectRef) :
    Factory.run (expandValue limit depth (.object r)) g =
      Factory.run (expandNested limit depth r) g := by
  rw [expandValue.eq_def]

end Expand

/-- A tree of `k + 1` levels expands, from any depth that leaves room for its `k` nested
levels, to the maps of its levels, and leaves the factory as it was. -/
theorem expandObject_treeChain {g : Factory} {m : Mapper} (hm : TreeMapper g m) (limit : Nat) :
    ∀ (k depth : Nat) (place : Identity), depth + k ≤ limit →
      Factory.run (expandObject limit depth m ⟨declared "Tree", treeChain k, place⟩) g =
        (.ok (treeChainValue k), g) := by
  obtain ⟨d, hd, hmapper⟩ := hm.kept
  obtain ⟨label, children, hprops, hlabel, hchildren⟩ := hm.properties
  intro k
  induction k with
  | zero =>
    intro depth place _
    rw [expandObject]
    have hty : ((⟨declared "Tree", treeChain 0, place⟩ : Instance).ty != m.ops.ty) = false := by
      simp [hm.ty_eq]
    simp only [hty, Bool.false_eq_true, if_false]
    rw [Factory.run_bind_ok (Factory.run_get g), hprops]
    have hchildren0 : m.readProperty g.schema children ⟨declared "Tree", treeChain 0, place⟩ =
        .ok (.array []) := by
      rw [readProperty_plain hchildren rfl]
      rfl
    rw [Factory.run_bind_ok (run_expandProperties_cons (readProperty_plain hlabel rfl)
      (run_expandValue_string "a")
      (run_expandProperties_cons hchildren0 (run_expandValue_array run_expandItems_nil)
        (run_expandProperties_nil _ _ _)))]
    rw [hlabel.name_eq, hchildren.name_eq]
    rfl
  | succ k ih =>
    intro depth place hk
    rw [expandObject]
    have hty : ((⟨declared "Tree", treeChain (k + 1), place⟩ : Instance).ty != m.ops.ty) = false := by
      simp [hm.ty_eq]
    simp only [hty, Bool.false_eq_true, if_false]
    rw [Factory.run_bind_ok (Factory.run_get g), hprops]
    -- the child is written as a borrowed object of the tree
    obtain ⟨fields, hfields⟩ : ∃ fields, treeChain k = .record fields := by
      cases k <;> exact ⟨_, rfl⟩
    obtain ⟨here, hchild⟩ := Schema.valueOf_record g.schema false (.part (.part place 1) 0)
      hm.record fields
    have hread : m.readProperty g.schema children ⟨declared "Tree", treeChain (k + 1), place⟩ =
        .ok (.array [.object (.mk (declared "Tree") (treeChain k) here false)]) := by
      rw [readProperty_plain hchildren rfl]
      show Except.ok (g.schema.valueOf false (.vec (declared "Tree")) (.list [treeChain k]) _) = _
      rw [Schema.valueOf_list _ _ _ (.inl rfl), Schema.valuesOf_cons, Schema.valuesOf_nil,
        hfields, hchild]
    -- one level down, the child expands as the rest of the chain
    have hnested : Factory.run (expandNested limit depth
        (.mk (declared "Tree") (treeChain k) here false)) g = (.ok (treeChainValue k), g) := by
      rw [expandNested, dif_neg (by omega), Factory.run_bind_ok (Factory.run_get g)]
      simp only [ObjectRef.ty, hd]
      rw [Factory.run_bind_ok hmapper]
      exact ih (depth + 1) here (by omega)
    rw [Factory.run_bind_ok (run_expandProperties_cons (readProperty_plain hlabel rfl)
      (run_expandValue_string "a")
      (run_expandProperties_cons hread
        (run_expandValue_array (run_expandItems_single ((run_expandValue_object _).trans hnested)))
        (run_expandProperties_nil _ _ _)))]
    rw [hlabel.name_eq, hchildren.name_eq]
    rfl

end Mapper

/-- The mapper a lookup gives is kept under the type looked up. -/
theorem Factory.createOrGet_kept {t : Ty} {f f' : Factory} {m : Mapper}
    (h : Factory.run (Factory.createOrGet t) f = (.ok m, f')) : f'.cache.lookup t = some m := by
  rw [Factory.createOrGet_run] at h
  unfold Factory.cachedOrBuild at h
  rw [Factory.run_bind_ok (Factory.run_get f)] at h
  split at h
  · rename_i m₀ hfound
    cases h
    exact hfound
  · rename_i hnone
    obtain ⟨m₁, f₁, hbuild, hrest⟩ := Factory.run_bind_eq_ok h
    rw [Factory.run_bind_ok (Factory.run_modify _ f₁), Factory.run_pure] at hrest
    cases hrest
    have hcache : f₁.cache = f.cache := by
      simpa [hbuild] using Factory.build_cache (f.schema.typeOps t) (descriptorOf f.schema t) f
    have hty : (f.schema.typeOps t).ty = t := rfl
    rw [hty] at hnone
    rw [List.lookup_append, hcache, hnone, hty]
    simp

namespace Catalogue

/-- A fresh factory of the catalogue builds and keeps the mapper of the tree, under the default
limit of nesting. -/
theorem treeMapper_fresh : ∃ m g, Factory.run (Factory.createOrGet (declared "Tree"))
    { schema := schema } = (.ok m, g) ∧ TreeMapper g m ∧ g.config.maxDepth = 64 := by
  -- what the mapper is, read off the build
  have hcheck : ((Factory.run (Factory.createOrGet (declared "Tree")) { schema := schema }).1.toOption.any fun m =>
      m.descriptor.isSome && m.ops.ty == declared "Tree" &&
      m.properties.map (·.name) == ["label", "children"] &&
      m.properties.map (fun p => (p.location.property.position, p.location.property.ops.ty)) ==
        [(0, .string), (1, .vec (declared "Tree"))] &&
      m.properties.all (fun p => p.chain.isEmpty && p.location.property.ops.value.isSome &&
        (m.strategy.checkOwner p.location ⟨declared "Tree", .none, .sizeless⟩).isOk)) = true := by
    decide +kernel
  have hlimit : (Factory.run (Factory.createOrGet (declared "Tree")) { schema := schema }).2.config.maxDepth = 64 := by
    decide +kernel
  obtain ⟨d, hd⟩ := Option.isSome_iff_exists.mp
    (by decide +kernel : (schema.descriptor? (declared "Tree")).isSome = true)
  have hdty : d.ops.ty = declared "Tree" := by
    have h : (schema.descriptor? (declared "Tree")).any (fun d => d.ops.ty == declared "Tree") = true := by
      decide +kernel
    simpa [hd] using h
  obtain ⟨m, g, hrun⟩ := Factory.run_ok_of_isOk (x := Factory.createOrGet (declared "Tree"))
    (f := { schema := schema }) (by decide +kernel)
  rw [hrun] at hcheck hlimit
  have hschema : g.schema = schema := by
    simpa [hrun] using Factory.createOrGet_schema (declared "Tree") { schema := schema }
  simp only [Except.toOption, Option.any_some, Bool.and_eq_true, beq_iff_eq,
    List.all_eq_true] at hcheck
  obtain ⟨⟨⟨⟨hdesc, hty⟩, hnames⟩, hplaces⟩, hplain⟩ := hcheck
  obtain ⟨label, children, hprops⟩ : ∃ a b, m.properties = [a, b] := by
    rcases hps : m.properties with _ | ⟨a, _ | ⟨b, _ | ⟨c, rest⟩⟩⟩ <;> simp [hps] at hnames
    exact ⟨a, b, rfl⟩
  rw [hprops] at hnames hplaces hplain
  simp only [List.map_cons, List.map_nil, List.cons.injEq, Prod.mk.injEq, and_true] at hnames hplaces
  -- each property passes the owner check for every tree, as it does for one
  have hfield : ∀ p ∈ [label, children], p.chain.isEmpty = true ∧
      p.location.property.ops.value.isSome = true ∧
      ∀ x : Instance, x.ty = declared "Tree" → m.strategy.checkOwner p.location x = .ok () := by
    intro p hp
    obtain ⟨⟨hchain, hvalue⟩, hok⟩ := by simpa only [Bool.and_eq_true] using hplain p hp
    refine ⟨hchain, hvalue, fun x hx => ?_⟩
    rw [Strategy.checkOwner_of_ty _ _ (y := ⟨declared "Tree", .none, .sizeless⟩) hx]
    cases hc : m.strategy.checkOwner p.location ⟨declared "Tree", .none, .sizeless⟩ with
    | error e => simp [hc, Except.isOk, Except.toBool] at hok
    | ok u => rfl
  obtain ⟨hc₁, hv₁, ho₁⟩ := hfield label (by simp)
  obtain ⟨hc₂, hv₂, ho₂⟩ := hfield children (by simp)
  refine ⟨m, g, hrun, ⟨hdesc, hty, ⟨d, hschema ▸ hd, ?_⟩, by rw [hschema]; decide +kernel,
    label, children, hprops, ⟨hnames.1, hc₁, hv₁, hplaces.1.1, hplaces.1.2, ho₁⟩,
    ⟨hnames.2, hc₂, hv₂, hplaces.2.1, hplaces.2.2, ho₂⟩⟩, hlimit⟩
  -- the mapper of the tree's descriptor is the one kept
  exact Factory.cachedOrBuild_hit (hdty ▸ Factory.createOrGet_kept hrun) _

end Catalogue

end ObjectMapping
