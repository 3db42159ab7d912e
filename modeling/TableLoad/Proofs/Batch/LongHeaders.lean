import TableLoad.Proofs.Batch.Opening
import TableLoad.Proofs.Batch.Rewriting

/-!
# Headers that grow

A structure may be spelled as the list of its parts, without the names that are
written for it.  A header that a reader accepts can so be shorter than the one a
writer makes of its schema.  Where only the longer one passes the limit of a
frame, a batch that can be read is written again as one that cannot.
-/

set_option autoImplicit false

namespace TableLoad

namespace Json

/-- A structure as the list of its parts. -/
def listing (parts : List (String × Json)) : Json :=
  .array (parts.map Prod.snd)

theorem isSpelling_listing : IsSpelling listing where
  single _ _ := rfl
  pair _ _ _ _ _ := rfl
  levels parts := by rw [listing, openLevels]
  plain parts plain := by rwa [listing, IsPlain]

end Json

/-! ## Types that double -/

namespace DataType

open Json

/-- Maps from maps to maps, each layer twice the layer below. -/
def doubled : (layers : Nat) → DataType
  | 0 => .atom .int true
  | layers + 1 => .map (doubled layers) (doubled layers) true

theorem check_doubled (layers : Nat) : (doubled layers).check = .ok () := by
  induction layers with
  | zero => rfl
  | succ layers ih => simp [doubled, check, ih, bind, Except.bind]

theorem levels_doubled (layers : Nat) :
    openLevels (doubled layers).toJson = 3 * layers + 1 := by
  induction layers with
  | zero => rfl
  | succ layers ih =>
    simp only [doubled, toJson, levels_jsonOf, struct, openLevels, membersLevels, List.map, ih]
    omega

theorem length_doubled (layers : Nat) :
    (doubled layers).toJson.render.length + 50 = 80 * 2 ^ layers := by
  induction layers with
  | zero => decide
  | succ layers ih =>
    simp [doubled, toJson, jsonOf, struct, render, renderMembers, bytesOf, length_words]
    omega

theorem length_listing_doubled (layers : Nat) :
    ((doubled layers).spelled listing).render.length + 18 = 30 * 2 ^ layers := by
  induction layers with
  | zero => decide
  | succ layers ih =>
    simp [doubled, spelled, listing, struct, render, renderItems, renderMembers, bytesOf,
      length_words]
    omega

end DataType

namespace Schema

/-- One column of a type that doubles with every layer. -/
def ofDoubled (layers : Nat) : Schema where
  fields := [(generatedName 0, DataType.doubled layers)]
  wellFormed := by
    have named : generatedName 0 ≠ "" := by decide
    simp [DataType.checkFields, DataType.check_doubled, named, bind, Except.bind]

theorem levels_ofDoubled (layers : Nat) : (ofDoubled layers).openLevels = 3 * layers + 3 := by
  simp [ofDoubled, openLevels, toJson, DataType.fieldsToJson, DataType.levels_doubled,
    Json.ofText, Json.struct, Json.openLevels, Json.itemsLevels, Json.membersLevels]

theorem length_ofDoubled (layers : Nat) :
    (ofDoubled layers).header.length + 22 = 80 * 2 ^ layers := by
  have doubled := DataType.length_doubled layers
  simp [ofDoubled, header, toJson, DataType.fieldsToJson, Json.struct, Json.ofText, Json.render,
    Json.renderItems, Json.renderMembers, Json.length_words, length_firstName]
  omega

theorem length_listing_ofDoubled (layers : Nat) :
    ((ofDoubled layers).headerIn Json.listing).length + 9 = 30 * 2 ^ layers := by
  have doubled := DataType.length_listing_doubled layers
  simp [ofDoubled, headerIn, DataType.spelledFields, Json.listing, Json.ofText, Json.render,
    Json.renderItems, length_firstName] at doubled ⊢
  omega

end Schema

namespace Batch

/-- A batch without rows is read if its header is short in some spelling, and written again
it is refused if the header is long in the one that is written. -/
theorem spelled_batch_outgrown {spell : List (String × Json) → Json}
    (spelling : Json.IsSpelling spell) (schema : Schema)
    (levels : schema.openLevels ≤ DataType.maxOpen)
    (short : (schema.headerIn spell).length ≤ maxFrameBytes)
    (long : maxFrameBytes < schema.header.length) (writable : schema.header.length < 2 ^ 32) :
    ∃ reader written,
      Reader.start (opening (schema.headerIn spell) ++ terminator) = .ok reader ∧
      reader.rows = ([], none) ∧
      serialize id reader.schema defaultBatchSize [] = (.ok 0, written) ∧
      Reader.start written = .error (.headerLength schema.header.length) := by
  have limit : maxFrameBytes = 268435456 := rfl
  have opened : Reader.start (opening (schema.headerIn spell) ++ terminator) =
      .ok { schema, rest := terminator, rowsRead := 0, finished := false } := by
    rw [Reader.start_eq, decodeHeader_opening _ (by omega), if_neg (by omega),
      Schema.ofHeader_headerIn spelling schema levels]
  have written := serialize_written id schema defaultBatchSize [] writable (by simp) (by simp)
    (by simp [frameGroups, groupsFrom])
  refine ⟨_, _, opened, rfl, written, ?_⟩
  rw [batchOf, Reader.start_header schema writable, if_pos long]

/-- Twenty-two layers are read from 126 million bytes and written to 336 million. -/
theorem doubled_batch_outgrown :
    ∃ reader written,
      Reader.start (opening ((Schema.ofDoubled 22).headerIn Json.listing) ++ terminator) =
        .ok reader ∧
      reader.rows = ([], none) ∧
      serialize id reader.schema defaultBatchSize [] = (.ok 0, written) ∧
      Reader.start written = .error (.headerLength 335544298) := by
  have limit : maxFrameBytes = 268435456 := rfl
  have levels := Schema.levels_ofDoubled 22
  have short := Schema.length_listing_ofDoubled 22
  -- Both sizes follow from the number of layers; neither header is computed.
  have size : (Schema.ofDoubled 22).header.length = 335544298 := by
    have sum := Schema.length_ofDoubled 22
    omega
  have outgrown := spelled_batch_outgrown Json.isSpelling_listing (Schema.ofDoubled 22)
    (by rw [levels]; decide) (by omega) (by omega) (by omega)
  rwa [size] at outgrown

end Batch

end TableLoad
