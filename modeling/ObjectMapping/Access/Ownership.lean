import ObjectMapping.Access

/-!
# What an unfinished instance owns

Raw access builds a record field by field in storage of its own, and keeps one written bit per
field: the properties by number, then the excluded fields after them. The bits are all it knows
of which fields hold a value, and every release of a value goes by them:

* writing a field whose bit is set drops the value it replaces (`Uninit.replaced`); a field
  whose bit is clear is written over without a drop;
* dropping an unfinished instance drops the field of every bit set (`Uninit.dropped`);
* finishing writes the default of every property whose bit is clear and then of every excluded
  field, setting each bit as it goes; when a field has no default it stops, and the instance is
  dropped as it is then (`Uninit.fill`). Otherwise the storage becomes the finished instance.
-/

namespace ObjectMapping

namespace Uninit

/-- The field a written bit stands for, by position and offset: property `i` below the number
of properties, excluded field `i - n` from there on. -/
def fieldOfBit? (d : Descriptor) (i : Nat) : Option (Nat × Option Nat) :=
  if i < d.properties.length then (d.properties[i]?).map fun p => (p.position, p.offset)
  else (d.excluded[i - d.properties.length]?).map fun f => (f.position, f.offset)

/-- Writes a datum to the field at a position and sets a bit. -/
def put (u : Uninit) (bit position : Nat) (x : Datum) : Uninit :=
  { u with
    slots := u.slots.set position (some x)
    written := if u.written.contains bit then u.written else u.written ++ [bit] }

/-- What writing the field at a position drops: the value there, when the bit is set. -/
def replaced (u : Uninit) (bit position : Nat) : List (Option Datum) :=
  if u.written.contains bit then [u.slots.getD position none] else []

/-- What dropping an unfinished instance drops, bit by bit in increasing order: the slot of the
field of every bit set, where the field has an offset. An empty slot stands for memory never
written. -/
def dropped (u : Uninit) : List (Option Datum) :=
  (List.range (fieldCount u.descriptor)).filterMap fun i =>
    if u.written.contains i then
      (fieldOfBit? u.descriptor i).bind fun f => f.2.map fun _ => u.slots.getD f.1 none
    else none

/-- The first loop of finishing, at a property and its number: a property whose bit is clear
takes its default. -/
def fillProperty (S : Schema) (w : Uninit) (ip : Nat × PropertyInfo) :
    Except (MapError × Uninit) Uninit :=
  if w.written.contains ip.1 then pure w
  else
    match ip.2.ops.makeDefault S, ip.2.offset with
    | .ok v, some _ => pure (w.put ip.1 ip.2.position v)
    | .ok _, none =>
      throw (.allocation w.descriptor.typeName "an absent property has no default value", w)
    | .error s, _ =>
      throw (s.toError w.descriptor.typeName "an absent property has no default value", w)

/-- The second loop of finishing, at an excluded field and its number: the field takes its
default, and its bit after the properties' is set. -/
def fillExcluded (S : Schema) (w : Uninit) (kf : Nat × ExcludedField) :
    Except (MapError × Uninit) Uninit :=
  match kf.2.ops.makeDefault S, kf.2.offset with
  | .ok v, some _ => pure (w.put (w.descriptor.properties.length + kf.1) kf.2.position v)
  | .ok _, none => throw (.allocation w.descriptor.typeName "an excluded field has no default value", w)
  | .error s, _ => throw (s.toError w.descriptor.typeName "an excluded field has no default value", w)

/-- Finishing as it runs on the instance: each property whose bit is clear takes its default,
then each excluded field, every write setting the field's bit. The first field without a
default stops it, with the instance as it is then. -/
def fill (S : Schema) (u : Uninit) : Except (MapError × Uninit) Uninit := do
  let d := u.descriptor
  let w ← ((List.range d.properties.length).zip d.properties).foldlM (fillProperty S) u
  ((List.range d.excluded.length).zip d.excluded).foldlM (fillExcluded S) w

end Uninit

end ObjectMapping
