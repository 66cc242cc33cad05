import DomainCompiler.Yaml.Node

/-!
# Parts of values

The value of a document is built site by site: a part is what stands at one site, with the sites
of its members in place of their values. A value is read out of the parts by following the sites.
A collection that contains itself is followed down to a fixed depth only.
-/

namespace DomainCompiler.Yaml

inductive Part where
  /-- A scalar, which may be equal to nothing but itself. -/
  | scalar (value : Value) (alone : Bool)
  | list (items : List Site)
  | pairs (items : List Entry)
  | set (members : List Site)
  | map (entries : List Entry)

/-- The parts by their sites; sites that were not asked for have none. -/
abbrev Parts := Array (Option Part)

namespace Part

/-- The value of the part at the site, where those of its members are known. -/
def value? (known : Site → Option Value) (site : Site) : Part → Option Value
  | .scalar v _ => some v
  | .list items => (items.mapM known).map .list
  | .pairs items => (items.mapM pair).map .list
  | .set members => (members.mapM known).map (.set · site)
  | .map entries => (entries.mapM entry).map .map
where
  entry (e : Entry) : Option (Value × Value) := do
    return (← known e.1, ← known e.2)
  pair (e : Entry) : Option Value :=
    (entry e).map fun p => .list [p.1, p.2]

end Part

namespace Parts

/-- Whether the scalars at two sites are the same key. -/
def sameKey (parts : Parts) (a b : Site) : Bool :=
  match parts[a]?.join, parts[b]?.join with
  | some (.scalar v aloneV), some (.scalar w aloneW) =>
    a == b || (!aloneV && !aloneW && v.sameKey w)
  | _, _ => false

/-- Sets the entry of a key in place, or adds it at the end. -/
def setEntry (parts : Parts) (e : Entry) : List Entry → List Entry
  | [] => [e]
  | (key, value) :: rest =>
    if parts.sameKey key e.1 then (key, e.2) :: rest else (key, value) :: setEntry parts e rest

/-- The entries of a mapping; of a repeated key the first place and the last value count. -/
def distinct (parts : Parts) (entries : List Entry) : List Entry :=
  entries.foldl (fun distinct e => setEntry parts e distinct) []

abbrev Known := Array (Option Value)

namespace Known

def value? (known : Known) (site : Site) : Option Value :=
  known[site]?.join

def count (known : Known) : Nat :=
  known.foldl (fun n v => if v.isSome then n + 1 else n) 0

end Known

/-- The values that are known once those of the members are; settled ones stay. -/
def next (parts : Parts) (settled known : Known) : Known :=
  parts.mapIdx fun site part =>
    match settled.value? site with
    | some v => some v
    | none => part.bind (·.value? known.value? site)

/-- The values of all parts that do not contain themselves; each round settles at least one. -/
def settle (parts : Parts) : Nat → Known → Known
  | 0, known => known
  | rounds + 1, known =>
    let more := parts.next known known
    if more.count == known.count then known else settle parts rounds more

def unrolledDepth : Nat := 32

def unroll (parts : Parts) (settled : Known) : Nat → Known
  | 0 => settled.map fun v => some (v.getD .endless)
  | depth + 1 => parts.next settled (unroll parts settled depth)

/-- The value of the part at the site. -/
def valueAt (parts : Parts) (site : Site) : Value :=
  let settled := parts.settle parts.size (parts.map fun _ => none)
  match settled.value? site with
  | some v => v
  | none => ((parts.unroll settled unrolledDepth).value? site).getD .endless

end Parts

end DomainCompiler.Yaml
