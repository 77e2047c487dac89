import HttpQuery.Proofs.Compile.Stages
import HttpQuery.Proofs.Text.ByteOrder
import Mathlib.Order.Bounds.Defs

/-! # The maps of a descriptor

A descriptor is assembled from any fields, also from such as no query has: keys may be repeated, and
the lists of keys and values may differ in length. What comes after the shorter list of a pair is
ignored. Of what is left, the value at the last index of a key is kept.

* `indicesOf`: the indices at which parallel lists have a key.
* `KeepsLast`: a map that holds what parallel lists say.
* `Fields.shortened`: fields without the entries after the shorter list of a pair.
* `maps_of_assemble`: the headers and the members of a descriptor. -/

namespace HttpQuery

open Text (utf8Bytes utf8Bytes_lt_iff)

/-! ### Parallel lists -/

/-- **The indices of a key** in parallel lists, below the lengths of both. -/
def indicesOf (keys values : List String) (key : String) : Set Nat :=
  {i | i < values.length ∧ keys[i]? = some key}

/-- **A map that keeps the last value of each key.** It has the keys that stand below the lengths of
both lists, each with the value at its greatest index, and lists them in the order of their bytes.
-/
structure KeepsLast {α : Type} (keys values : List String) (embed : String → α)
    (map : KeyMap α) : Prop where
  mem_keys_iff : ∀ key, key ∈ map.keys ↔ ∃ i, i ∈ indicesOf keys values key
  find?_eq_some_iff : ∀ key value, map.find? key = some value ↔
    ∃ i literal, IsGreatest (indicesOf keys values key) i ∧ values[i]? = some literal ∧
      value = embed literal
  ascending : map.keys.Pairwise fun first second => utf8Bytes first < utf8Bytes second

variable {α : Type} {keys values : List String} {embed : String → α}

/-- The keys of a map are listed in the order of their bytes. -/
theorem KeyMap.pairwise_utf8Bytes_keys (map : KeyMap α) :
    map.keys.Pairwise fun first second => utf8Bytes first < utf8Bytes second :=
  List.pairwise_map.2 (map.sorted.imp utf8Bytes_lt_iff.2)

theorem getElem?_zip_map_eq_some {i : Nat} {key : String} {value : α} :
    (keys.zip (values.map embed))[i]? = some (key, value) ↔
      keys[i]? = some key ∧ ∃ literal, values[i]? = some literal ∧ value = embed literal := by
  rw [List.getElem?_zip_eq_some, List.getElem?_map, Option.map_eq_some_iff]
  simp only [eq_comm]

theorem exists_getElem?_zip_map {i : Nat} {key : String} :
    (∃ value, (keys.zip (values.map embed))[i]? = some (key, value)) ↔
      i ∈ indicesOf keys values key := by
  simp only [getElem?_zip_map_eq_some]
  constructor
  · rintro ⟨value, hkey, literal, hliteral, -⟩
    exact ⟨(List.getElem?_eq_some_iff.1 hliteral).1, hkey⟩
  · rintro ⟨hlt, hkey⟩
    exact ⟨embed values[i], hkey, values[i], List.getElem?_eq_getElem hlt, rfl⟩

/-- **A map built from parallel lists keeps the last value of each key.** -/
theorem keepsLast_ofList (keys values : List String) (embed : String → α) :
    KeepsLast keys values embed (.ofList (keys.zip (values.map embed))) where
  mem_keys_iff key := by
    rw [KeyMap.mem_keys_ofList_iff]
    simp only [List.mem_iff_getElem?]
    rw [exists_comm]
    exact exists_congr fun i => exists_getElem?_zip_map
  find?_eq_some_iff key value := by
    rw [KeyMap.find?_ofList_eq_some_iff]
    refine exists_congr fun i => ⟨?_, ?_⟩
    · rintro ⟨hentry, hlater⟩
      obtain ⟨-, literal, hliteral, hvalue⟩ := getElem?_zip_map_eq_some.1 hentry
      have hi := exists_getElem?_zip_map.1 ⟨value, hentry⟩
      refine ⟨literal, ⟨hi, fun j hj => ?_⟩, hliteral, hvalue⟩
      obtain ⟨other, hother⟩ := exists_getElem?_zip_map.2 hj
      exact not_lt.1 fun hlt => hlater j other hlt hother
    · rintro ⟨literal, ⟨hi, hgreatest⟩, hliteral, hvalue⟩
      have hentry := getElem?_zip_map_eq_some.2 ⟨hi.2, literal, hliteral, hvalue⟩
      refine ⟨hentry, fun j other hlt hother => ?_⟩
      exact hlt.not_ge (hgreatest (exists_getElem?_zip_map.1 ⟨other, hother⟩))
  ascending := KeyMap.pairwise_utf8Bytes_keys _

/-! ### What counts of some fields -/

/-- **Fields without the entries that come after the shorter list** of a pair. -/
def Fields.shortened (fields : Fields) : Fields :=
  let headers := min fields.headerKeys.length fields.headerValues.length
  let members := min fields.jsonKeys.length fields.jsonValues.length
  { fields with
    headerKeys := fields.headerKeys.take headers
    headerValues := fields.headerValues.take headers
    jsonKeys := fields.jsonKeys.take members
    jsonValues := fields.jsonValues.take members }

/-- What comes after the shorter list is ignored. -/
theorem Fields.assemble_shortened (fields : Fields) (offered : Option Json) :
    fields.shortened.assemble offered = fields.assemble offered := by
  have hheaders : fields.shortened.headerKeys.zip fields.shortened.headerValues =
      fields.headerKeys.zip fields.headerValues := List.zip_eq_zip_take_min.symm
  have hmembers : fields.shortened.jsonKeys.zip (fields.shortened.jsonValues.map Json.string) =
      fields.jsonKeys.zip (fields.jsonValues.map Json.string) := by
    rw [List.zip_map_right, List.zip_map_right]
    exact congrArg _ List.zip_eq_zip_take_min.symm
  rw [assemble, hheaders, hmembers]
  rfl

/-- **The headers and the members of a descriptor** are the last values of their keys, whatever the
fields are. Fields that are the same up to the end of the shorter list of each pair have the same
descriptor, or the same fault. -/
theorem maps_of_assemble (fields : Fields) (offered : Option Json) :
    (∀ d, fields.assemble offered = .ok d →
      KeepsLast fields.headerKeys fields.headerValues id d.headers ∧
        KeepsLast fields.jsonKeys fields.jsonValues Json.string d.json) ∧
      ∀ other : Fields, other.shortened = fields.shortened →
        other.assemble offered = fields.assemble offered := by
  refine ⟨fun d h => ⟨?_, ?_⟩, fun other h => ?_⟩
  · rw [Fields.headers_of_assemble h]
    have hheaders := keepsLast_ofList fields.headerKeys fields.headerValues id
    rwa [List.map_id] at hheaders
  · rw [Fields.json_of_assemble h]
    exact keepsLast_ofList fields.jsonKeys fields.jsonValues Json.string
  · rw [← other.assemble_shortened, h, fields.assemble_shortened]

/-- Fields with a key that is repeated, a key that is empty, and a key without a value. -/
def unevenFields : Fields where
  headerKeys := ["a", "", "a", "b"]
  headerValues := ["1", "2", ""]
  jsonKeys := ["k"]
  jsonValues := ["v", "w"]

/-- The last value of `a` is kept though it is empty, and `b` has none. -/
theorem maps_of_assemble_uneven :
    ∃ d, unevenFields.assemble none = .ok d ∧ d.headers.find? "a" = some "" ∧
      "b" ∉ d.headers.keys ∧ d.json.find? "k" = some (.string "v") ∧
      { unevenFields with jsonValues := ["v"] }.assemble none = .ok d := by
  obtain ⟨d, hd⟩ : ∃ d, unevenFields.assemble none = .ok d := ⟨_, rfl⟩
  obtain ⟨hmaps, hothers⟩ := maps_of_assemble unevenFields none
  obtain ⟨hheaders, hmembers⟩ := hmaps d hd
  refine ⟨d, hd, ?_, fun hb => ?_, ?_, (hothers _ rfl).trans hd⟩
  · refine (hheaders.find?_eq_some_iff "a" "").2
      ⟨2, "", ⟨⟨by decide, rfl⟩, fun i hi => ?_⟩, rfl, rfl⟩
    exact Nat.le_of_lt_succ hi.1
  · obtain ⟨i, hlt, hkey⟩ := (hheaders.mem_keys_iff "b").1 hb
    exact absurd hkey ((by decide : ∀ i < 3, unevenFields.headerKeys[i]? ≠ some "b") i hlt)
  · refine (hmembers.find?_eq_some_iff "k" _).2
      ⟨0, "v", ⟨⟨by decide, rfl⟩, fun i hi => ?_⟩, rfl, rfl⟩
    have hlt : i < 1 := (List.getElem?_eq_some_iff.1 hi.2).1
    omega

end HttpQuery
