import ModelSync.Proofs.Json.Structure
import ModelSync.Response

/-! Responses against the ways to write them, which leave some choice: what is not there may be
null or absent, an empty list may be absent, other members may be added, and each structure may be
given as a list. A response is read from exactly what it may be written as, at every depth. So what
the library writes of a response that was read is read back as that response. -/
namespace ModelSync

open Decode

/-! ## Ways to write -/

/-- The parts of a location. -/
structure ErrorLocation.Parts (location : ErrorLocation) (json : Json) : Prop where
  line : json.part? "line" 0 = some (.ofUInt32 location.line)
  column : json.part? "column" 1 = some (.ofUInt32 location.column)

/-- The ways to write a location. -/
def ErrorLocation.WrittenAs (location : ErrorLocation) (json : Json) : Prop :=
  Structured 2 json ∧ location.Parts json

/-- A key is written as a string and an index as a whole number, so neither passes for the other. -/
inductive PathSegment.WrittenAs : PathSegment → Json → Prop where
  | key (name : String) : WrittenAs (.key name) (.str name)
  | index (position : Int64) : WrittenAs (.index position) (.num (.ofInt64 position))

/-- The parts of an error. Only the message has to be there. -/
structure ResponseError.Parts (error : ResponseError) (json : Json) : Prop where
  message : json.part? "message" 0 = some (.str error.message)
  locations : Listed ErrorLocation.WrittenAs error.locations (json.part? "locations" 1)
  path : Listed PathSegment.WrittenAs error.path (json.part? "path" 2)
  extensions : Json.given? (json.part? "extensions" 3) = error.extensions

/-- The ways to write an error. -/
def ResponseError.WrittenAs (error : ResponseError) (json : Json) : Prop :=
  Structured 4 json ∧ error.Parts json

/-- The parts of a response with any data, neither of which has to be there. -/
structure Response.Parts (response : Response Json) (json : Json) : Prop where
  data : Json.given? (json.part? "data" 0) = response.data
  errors : Listed ResponseError.WrittenAs response.errors (json.part? "errors" 1)

/-- The ways to write a response with any data. -/
def Response.WrittenAs (response : Response Json) (json : Json) : Prop :=
  Structured 2 json ∧ response.Parts json

/-! ## What is read and what is written -/

variable {json : Json} {part : Option Json} {members : List (String × Json)} {elements : List Json}

namespace ErrorLocation

variable {location : ErrorLocation}

/-- The parts are there if they can be read, whichever is read first. -/
theorem parts_iff_reads :
    location.Parts json ↔
      Reads unsigned32 (json.part? "line" 0) (some location.line) ∧
        Reads unsigned32 (json.part? "column" 1) (some location.column) := by
  rw [reads_unsigned32_iff, reads_unsigned32_iff]
  exact ⟨fun parts => ⟨parts.line, parts.column⟩, fun ⟨line, column⟩ => ⟨line, column⟩⟩

private theorem ofMembers_eq_ok_iff :
    ofMembers members = .ok location ↔ location.Parts (.obj members) := by
  simp only [ofMembers, Except.bind_eq_ok_iff, field_eq_ok_iff, present_eq_ok_iff, parts_iff_reads]
  constructor
  · rintro ⟨_, column, _, line, _, rfl, _, rfl, ⟨⟩⟩
    exact ⟨line, column⟩
  · rintro ⟨line, column⟩
    exact ⟨_, column, _, line, _, rfl, _, rfl, rfl⟩

private theorem ofElements_eq_ok_iff :
    ofElements elements = .ok location ↔ location.Parts (.arr elements) := by
  simp only [ofElements, Except.bind_eq_ok_iff, requiredElement_eq_ok_iff, parts_iff_reads]
  constructor
  · rintro ⟨_, line, _, column, ⟨⟩⟩
    exact ⟨line, column⟩
  · rintro ⟨line, column⟩
    exact ⟨_, line, _, column, rfl⟩

theorem decode_eq_ok_iff : decode json = .ok location ↔ location.WrittenAs json :=
  struct_eq_ok_iff (fun _ => ofMembers_eq_ok_iff) fun _ => ofElements_eq_ok_iff

private theorem reads_all_iff {locations : List ErrorLocation} :
    (∃ read, Reads (list decode) part read ∧ read.getD [] = locations) ↔
      Listed WrittenAs locations part :=
  reads_list_iff fun _ _ => decode_eq_ok_iff

theorem writtenAs_encode (location : ErrorLocation) : location.WrittenAs location.encode :=
  ⟨.object _, Json.part?_ofMembers .., Json.part?_ofMembers ..⟩

end ErrorLocation

namespace PathSegment

variable {segment : PathSegment}

theorem decode_eq_ok_iff : decode json = .ok segment ↔ segment.WrittenAs json := by
  constructor
  · intro done
    match json, done with
    | .str name, done =>
      cases done
      exact .key name
    | .num (.integer value bounded), done =>
      simp only [decode] at done
      split at done
      case isTrue fits =>
        cases done
        have back : (Int64.ofInt value).toInt = value :=
          Int64.toInt_ofInt_of_le bounded.1 (Int.lt_add_one_of_le fits)
        have same : Number.integer value bounded = .ofInt64 (.ofInt value) := by
          simp only [Number.ofInt64, back]
        exact same ▸ .index (.ofInt value)
      case isFalse => cases done
  · rintro (name | position)
    · rfl
    · have fits : position.toInt ≤ greatestIndex := Int.le_of_lt_add_one position.toInt_lt
      simp only [Number.ofInt64, decode, if_pos fits, Int64.ofInt_toInt]

private theorem reads_all_iff {path : List PathSegment} :
    (∃ read, Reads (list decode) part read ∧ read.getD [] = path) ↔
      Listed WrittenAs path part :=
  reads_list_iff fun _ _ => decode_eq_ok_iff

theorem writtenAs_encode (segment : PathSegment) : segment.WrittenAs segment.encode := by
  cases segment with
  | key name => exact .key name
  | index position => exact .index position

end PathSegment

namespace ResponseError

variable {error : ResponseError}

private theorem parts_iff_reads :
    error.Parts json ↔
      ∃ locations path extensions,
        Reads text (json.part? "message" 0) (some error.message) ∧
          Reads (list ErrorLocation.decode) (json.part? "locations" 1) locations ∧
          Reads (list PathSegment.decode) (json.part? "path" 2) path ∧
          Reads (optional value) (json.part? "extensions" 3) extensions ∧
          error = ⟨error.message, locations.getD [], path.getD [], extensions.join⟩ := by
  constructor
  · rintro ⟨message, locations, path, extensions⟩
    obtain ⟨places, locations, places_eq⟩ := ErrorLocation.reads_all_iff.2 locations
    obtain ⟨segments, path, segments_eq⟩ := PathSegment.reads_all_iff.2 path
    obtain ⟨details, extensions, details_eq⟩ := reads_optional_iff.2 extensions
    refine ⟨_, _, _, reads_text_iff.2 message, locations, path, extensions, ?_⟩
    rw [places_eq, segments_eq, details_eq]
  · rintro ⟨_, _, _, message, locations, path, extensions, same⟩
    obtain ⟨-, places_eq, segments_eq, details_eq⟩ := ResponseError.mk.inj same
    exact ⟨reads_text_iff.1 message,
      ErrorLocation.reads_all_iff.1 ⟨_, locations, places_eq.symm⟩,
      PathSegment.reads_all_iff.1 ⟨_, path, segments_eq.symm⟩,
      reads_optional_iff.1 ⟨_, extensions, details_eq.symm⟩⟩

private theorem ofMembers_eq_ok_iff :
    ofMembers members = .ok error ↔ error.Parts (.obj members) := by
  simp only [ofMembers, Except.bind_eq_ok_iff, field_eq_ok_iff, present_eq_ok_iff, parts_iff_reads]
  constructor
  · rintro ⟨_, extensions, _, locations, _, message, _, path, _, rfl, ⟨⟩⟩
    exact ⟨_, _, _, message, locations, path, extensions, rfl⟩
  · rintro ⟨_, _, _, message, locations, path, extensions, same⟩
    exact ⟨_, extensions, _, locations, _, message, _, path, _, rfl, congrArg Except.ok same.symm⟩

private theorem ofElements_eq_ok_iff :
    ofElements elements = .ok error ↔ error.Parts (.arr elements) := by
  simp only [ofElements, Except.bind_eq_ok_iff, requiredElement_eq_ok_iff, element_eq_ok_iff,
    parts_iff_reads]
  constructor
  · rintro ⟨_, message, _, locations, _, path, _, extensions, ⟨⟩⟩
    exact ⟨_, _, _, message, locations, path, extensions, rfl⟩
  · rintro ⟨_, _, _, message, locations, path, extensions, same⟩
    exact ⟨_, message, _, locations, _, path, _, extensions, congrArg Except.ok same.symm⟩

theorem decode_eq_ok_iff : decode json = .ok error ↔ error.WrittenAs json :=
  struct_eq_ok_iff (fun _ => ofMembers_eq_ok_iff) fun _ => ofElements_eq_ok_iff

private theorem reads_all_iff {errors : List ResponseError} :
    (∃ read, Reads (list decode) part read ∧ read.getD [] = errors) ↔
      Listed WrittenAs errors part :=
  reads_list_iff fun _ _ => decode_eq_ok_iff

/-- The details are written last, and hide no other part. -/
theorem part?_encode (error : ResponseError) {name : String} (differs : "extensions" ≠ name)
    (position : Nat) :
    error.encode.part? name position =
      Entries.get? [("path", .arr (error.path.map PathSegment.encode)),
        ("locations", .arr (error.locations.map ErrorLocation.encode)),
        ("message", .str error.message)] name := by
  rw [encode, Json.part?_ofMembers]
  cases error.extensions with
  | none => rfl
  | some details => exact if_neg differs

private theorem part?_encode_extensions (error : ResponseError) (position : Nat) :
    error.encode.part? "extensions" position = error.extensions := by
  rw [encode, Json.part?_ofMembers]
  cases error.extensions <;> rfl

/-- An error that may be written at all may be written in the library's own way: its details are
not null. -/
theorem WrittenAs.encode (written : error.WrittenAs json) : error.WrittenAs error.encode := by
  refine ⟨.object _, ?_, ?_, ?_, ?_⟩
  · exact error.part?_encode (by decide) 0
  · rw [error.part?_encode (by decide) 1]
    exact written.2.locations.map fun location _ _ => location.writtenAs_encode
  · rw [error.part?_encode (by decide) 2]
    exact written.2.path.map fun segment _ _ => segment.writtenAs_encode
  · rw [error.part?_encode_extensions 3, ← written.2.extensions, Json.given?_given?]

end ResponseError

namespace Response

variable {response : Response Json}

private theorem parts_iff_reads :
    response.Parts json ↔
      ∃ data errors,
        Reads (optional value) (json.part? "data" 0) data ∧
          Reads (list ResponseError.decode) (json.part? "errors" 1) errors ∧
          response = ⟨data.join, errors.getD []⟩ := by
  constructor
  · rintro ⟨data, errors⟩
    obtain ⟨payload, data, payload_eq⟩ := reads_optional_iff.2 data
    obtain ⟨faults, errors, faults_eq⟩ := ResponseError.reads_all_iff.2 errors
    refine ⟨_, _, data, errors, ?_⟩
    rw [payload_eq, faults_eq]
  · rintro ⟨_, _, data, errors, rfl⟩
    exact ⟨reads_optional_iff.1 ⟨_, data, rfl⟩,
      ResponseError.reads_all_iff.1 ⟨_, errors, rfl⟩⟩

private theorem ofMembers_eq_ok_iff :
    ofMembers value members = .ok response ↔ response.Parts (.obj members) := by
  simp only [ofMembers, Except.bind_eq_ok_iff, field_eq_ok_iff, parts_iff_reads]
  constructor
  · rintro ⟨_, data, _, errors, ⟨⟩⟩
    exact ⟨_, _, data, errors, rfl⟩
  · rintro ⟨_, _, data, errors, rfl⟩
    exact ⟨_, data, _, errors, rfl⟩

private theorem ofElements_eq_ok_iff :
    ofElements value elements = .ok response ↔ response.Parts (.arr elements) := by
  simp only [ofElements, Except.bind_eq_ok_iff, element_eq_ok_iff, parts_iff_reads]
  constructor
  · rintro ⟨_, data, _, errors, ⟨⟩⟩
    exact ⟨_, _, data, errors, rfl⟩
  · rintro ⟨_, _, data, errors, rfl⟩
    exact ⟨_, data, _, errors, rfl⟩

theorem decode_eq_ok_iff : decode value json = .ok response ↔ response.WrittenAs json :=
  struct_eq_ok_iff (fun _ => ofMembers_eq_ok_iff) fun _ => ofElements_eq_ok_iff

/-- A response that may be written at all may be written in the library's own way. Data that is null
would be lost there, but no response that is read has such data. -/
theorem WrittenAs.encode (written : response.WrittenAs json) :
    response.WrittenAs (response.encode id) := by
  refine ⟨.object _, ?_, ?_⟩
  · have data : (response.encode id).part? "data" 0 = some (response.data.getD .null) := by
      rw [Response.encode, Option.map_id, Json.part?_ofMembers]
      rfl
    rw [data, Json.given?_getD_null, ← written.2.data, Json.given?_given?]
  · rw [Response.encode, Json.part?_ofMembers]
    exact written.2.errors.map fun error _ => ResponseError.WrittenAs.encode

-- Data that is null is written as none is, and not read back.
example : decode value (Response.encode id ⟨some .null, []⟩) = .ok ⟨none, []⟩ := rfl

/-! ## Writing anew -/

/-- A response written anew: what is read of it, in the library's own way. -/
def reencode (json : Json) : Except DecodeError Json := Response.encode id <$> decode value json

private theorem reencode_of_decode (decoded : decode value json = .ok response) :
    reencode json = .ok (response.encode id) := by
  rw [reencode, decoded]
  rfl

theorem decode_encode (written : response.WrittenAs json) :
    decode value (response.encode id) = .ok response :=
  decode_eq_ok_iff.2 written.encode

/-- Only what a response may be written as becomes, written anew, what the library writes of it. -/
theorem reencode_eq_iff {other : Json} (written : response.WrittenAs json) :
    reencode other = .ok (response.encode id) ↔ response.WrittenAs other := by
  refine ⟨fun done => ?_, fun alike => reencode_of_decode (decode_eq_ok_iff.2 alike)⟩
  obtain ⟨read, decoded, same⟩ := Except.map_eq_ok_iff.1 done
  have own : read.WrittenAs other := decode_eq_ok_iff.1 decoded
  -- Both responses are read from the one JSON that is written of them.
  have back : (.ok read : Except DecodeError _) = .ok response :=
    calc
      _ = decode value (read.encode id) := (decode_encode own).symm
      _ = decode value (response.encode id) := congrArg _ same
      _ = .ok response := decode_encode written
  exact Except.ok.inj back ▸ own

/-- A response that was read is read back from what is written of it, which stays as it is when it
is written anew. Whatever the response may be written as is read as that response and becomes the
same JSON: with data or extensions absent or null, with errors, locations or a path absent or empty,
in objects or in lists. An object has no errors if and only if it lists none, and otherwise they are
those listed, one by one. -/
theorem reencoding_read_back (decoded : decode value json = .ok response) :
    decode value (response.encode id) = .ok response ∧
      (reencode json = .ok (response.encode id) ∧
        reencode (response.encode id) = .ok (response.encode id)) ∧
      (∀ other,
        (decode value other = .ok response ↔ response.WrittenAs other) ∧
          (reencode other = .ok (response.encode id) ↔ response.WrittenAs other)) ∧
      ∀ members, json = .obj members →
        Json.given? (Entries.get? members "data") = response.data ∧
          Listed ResponseError.WrittenAs response.errors (Entries.get? members "errors") ∧
          (response.isOk ↔ Entries.get? members "errors" = none ∨
            Entries.get? members "errors" = some (.arr [])) := by
  have written : response.WrittenAs json := decode_eq_ok_iff.1 decoded
  have back : decode value (response.encode id) = .ok response := decode_encode written
  refine ⟨back, ⟨reencode_of_decode decoded, reencode_of_decode back⟩,
    fun other => ⟨decode_eq_ok_iff, reencode_eq_iff written⟩, ?_⟩
  rintro members rfl
  have listed : Listed ResponseError.WrittenAs response.errors (Entries.get? members "errors") :=
    written.2.errors
  exact ⟨written.2.data, listed, List.isEmpty_iff.trans listed.eq_nil_iff⟩

/-- A refusal with two errors, of which one says where it occurred and why. -/
def refusal : Response Json where
  errors := [
    { message := "Not Authorized"
      locations := [⟨2, 3⟩]
      path := [.key "onCreateBlog", .index 0, .key "0"]
      extensions := some (.obj [("errorType", .str "Unauthorized")]) },
    { message := "Gone" }]

/-- The refusal with nulls and with a member too many. -/
def refusalWithNulls : Json :=
  .obj [("data", .null),
    ("errors", .arr [
      .obj [("extensions", .obj [("errorType", .str "Unauthorized")]),
        ("locations", .arr [.obj [("column", .ofUInt32 3), ("line", .ofUInt32 2)]]),
        ("message", .str "Not Authorized"),
        ("path", .arr [.str "onCreateBlog", .num (.ofInt64 0), .str "0"])],
      .obj [("extensions", .null), ("message", .str "Gone"), ("path", .arr [])]]),
    ("took", .ofUInt32 12)]

/-- The refusal without what may be left out, and with an error as a list of its parts. -/
def refusalInLists : Json :=
  .obj [("errors", .arr [
    .arr [.str "Not Authorized", .arr [.arr [.ofUInt32 2, .ofUInt32 3]],
      .arr [.str "onCreateBlog", .num (.ofInt64 0), .str "0"],
      .obj [("errorType", .str "Unauthorized")]],
    .obj [("message", .str "Gone")]])]

theorem refusal_read_back :
    decode value refusalWithNulls = .ok refusal ∧
      decode value (refusal.encode id) = .ok refusal ∧
      reencode refusalWithNulls = .ok (refusal.encode id) ∧
      reencode refusalInLists = .ok (refusal.encode id) := by
  have decoded : decode value refusalWithNulls = .ok refusal := rfl
  obtain ⟨back, ⟨anew, -⟩, alike, -⟩ := reencoding_read_back decoded
  have lists : refusal.WrittenAs refusalInLists := (alike refusalInLists).1.1 rfl
  exact ⟨decoded, back, anew, (alike refusalInLists).2.2 lists⟩

end Response

end ModelSync
