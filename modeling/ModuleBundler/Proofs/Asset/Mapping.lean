import ModuleBundler.Proofs.Asset
import ModuleBundler.Proofs.Graph.Reachability
import ModuleBundler.Proofs.Json.Line
import ModuleBundler.Proofs.Json.Reading
import ModuleBundler.Rendering.ModuleTable

/-!
# Reading mappings back

A mapping is an object of numbers, in which the order of the specifiers is kept. A specifier has one
asset only, so no name is in the object twice and the mapping can be read back from the printed
object, whatever characters the specifiers consist of.

## Main definitions

* `Mapping.Distinct` — no specifier is mapped twice.
* `AssetId.ofJson?`, `Mapping.ofJson?` — the number and the mapping that a value stands for.
* `Mapping.read?` — the mapping that a text writes.

## Main results

* `Mapping.Distinct.insert` — mappings stay distinct when specifiers are mapped.
* `Workshop.WellFormed.distinct` — the mappings of the assets of a graph are distinct.
* `Mapping.ofJson?_toJson`, `Mapping.read?_compact` — a mapping is read back.
-/

namespace ModuleBundler

/-- What is written one by one is read one by one. -/
theorem mapM_map_eq_some {α β : Type} {write : α → β} {read : β → Option α}
    (h : ∀ a, read (write a) = some a) (items : List α) :
    (items.map write).mapM read = some items := by
  have hread : read ∘ write = fun a => pure a := funext h
  rw [List.mapM_map, hread, List.mapM_pure, List.map_id']
  rfl

namespace AssetId

/-- The number that a value stands for. -/
def ofJson? : Json → Option AssetId
  | .integer (.ofNat n) => if n < UInt32.size then some (nth n) else none
  | _ => none

theorem index_lt (id : AssetId) : id.index < UInt32.size :=
  UInt32.toNat_lt_size id.number

theorem nth_index (id : AssetId) : nth id.index = id := by
  simp [nth, index]

theorem ofJson?_integer (id : AssetId) : ofJson? (.integer id.index) = some id := by
  show (if id.index < UInt32.size then some (nth id.index) else none) = some id
  rw [if_pos id.index_lt, nth_index]

theorem readable_integer (id : AssetId) (depth : Nat) :
    Json.Readable depth (.integer id.index) := by
  have hword : id.index < Json.wordLimit := Nat.lt_trans id.index_lt (by decide)
  exact .integer (by omega) (Int.ofNat_lt.mpr hword)

end AssetId

namespace Mapping

variable {mapping : Mapping}

/-- No specifier is mapped twice. -/
def Distinct (mapping : Mapping) : Prop :=
  (mapping.map Prod.fst).Nodup

instance (mapping : Mapping) : Decidable mapping.Distinct :=
  inferInstanceAs (Decidable (mapping.map Prod.fst).Nodup)

theorem Distinct.nil : Distinct [] :=
  List.nodup_nil

theorem Distinct.insert (h : mapping.Distinct) (specifier : String) (id : AssetId) :
    (mapping.insert specifier id).Distinct :=
  Association.nodup_map_fst_put h specifier id

/-- The mapping that a value stands for. -/
def ofJson? : Json → Option Mapping
  | .object members => members.mapM fun (name, value) =>
    (AssetId.ofJson? value).map fun id => (String.ofList name, id)
  | _ => none

/-- A mapping is read off its object. -/
theorem ofJson?_toJson (mapping : Mapping) : ofJson? mapping.toJson = some mapping := by
  refine mapM_map_eq_some (fun (specifier, id) => ?_) mapping
  simp only [AssetId.ofJson?_integer, Option.map_some, String.ofList_toList]

theorem readable_toJson (h : mapping.Distinct) (depth : Nat) :
    Json.Readable (depth + 1) mapping.toJson := by
  refine .object ?_ (List.forall_mem_map.mpr fun entry _ => entry.2.readable_integer depth)
  have hnames : (mapping.map fun entry => (entry.1.toList, Json.integer entry.2.index)).map
      Prod.fst = (mapping.map Prod.fst).map String.toList := by
    rw [List.map_map, List.map_map]
    rfl
  rw [hnames]
  exact h.map fun _ _ => String.toList_injective

/-- The mapping that a text writes. -/
def read? (text : List Char) : Option Mapping :=
  (Json.read? text).bind ofJson?

/-- **A mapping is read back from its line**, whatever its specifiers are. -/
theorem read?_compact (h : mapping.Distinct) : read? mapping.toJson.compact = some mapping := by
  rw [read?, Json.read?_compact (readable_toJson h _), Option.bind_some, ofJson?_toJson]

/-- Quotes and line breaks in a specifier are escaped. -/
example : (toJson [("a\"\n", .nth 1)]).compact = "\x7b\"a\\\"\\n\":1\x7d".toList := by
  decide

end Mapping

namespace Workshop

/-- The mappings of the assets of a graph are distinct. -/
theorem WellFormed.distinct {workshop : Workshop} {entry : Path} {assets : List Asset}
    (h : workshop.WellFormed entry assets) {asset : Asset} (hasset : asset ∈ assets) :
    asset.mapping.Distinct := by
  rw [Mapping.Distinct, h.keys asset hasset]
  exact nodup_eraseDups asset.specifiers

end Workshop

end ModuleBundler
