import PipelineServer.Json.Basic

/-!
The shapes that parts of a message must have.

A shape says which values fit. Shapes are built from those of plain values, lists and records, and a
record is an object with named members or a list with one item for each field.
-/

namespace PipelineServer

/-- The values that fit a place in a message. -/
structure Shape where
  fits : Json → Bool

namespace Shape

/-- Every value. -/
def any : Shape := ⟨fun _ => true⟩

def flag : Shape := ⟨fun value => value.bool?.isSome⟩

def text : Shape := ⟨fun value => value.string?.isSome⟩

/-- Integers between two bounds. -/
def bounded (lower upper : Int) : Shape :=
  ⟨fun value => value.integer?.any fun n => lower ≤ n && n ≤ upper⟩

/-- Signed integers of 32 bits. -/
def signed : Shape := bounded (-2147483648) 2147483647

/-- Unsigned integers of 32 bits. -/
def count : Shape := bounded 0 4294967295

/-- One of a few words: the word itself, or an object with the word as the name of its only member
and nothing in it. -/
def word (words : List String) : Shape where
  fits
    | .text value => words.contains value
    | .object members =>
        words.any fun name =>
          members.all (fun m => m.1 == name) && (Json.member? members name).any Json.isNull
    | _ => false

/-- Lists of values of one shape. -/
def list (item : Shape) : Shape := ⟨fun value => value.items?.any fun items => items.all item.fits⟩

/-- Values of either shape. -/
def or (first second : Shape) : Shape := ⟨fun value => first.fits value || second.fits value⟩

/-- Whether a field can be left out. -/
inductive Presence
  /-- Never. -/
  | required
  /-- In an object; also it can be null. -/
  | optional
  /-- In an object and at the end of a list; also it can be null. -/
  | defaulted
deriving DecidableEq, Repr

/-- A field of a record. -/
structure Field where
  name : String
  presence : Presence
  shape : Shape

namespace Field

/-- Whether a value, or its absence, fits a field. -/
def accepts (f : Field) (listed : Bool) : Option Json → Bool
  | none =>
      match f.presence with
      | .required => false
      | .optional => !listed
      | .defaulted => true
  | some .null => f.presence != .required || f.shape.fits .null
  | some value => f.shape.fits value

end Field

/-- Whether the items of a list fit the fields one by one. -/
def fitListed : List Field → List Json → Bool
  | [], items => items.isEmpty
  | f :: fields, [] => f.accepts true none && fitListed fields []
  | f :: fields, item :: items => f.accepts true (some item) && fitListed fields items

/-- Whether the members of an object fit the fields; members of other names do not matter. -/
def fitNamed (fields : List Field) (members : List (String × Json)) : Bool :=
  fields.all fun f => f.accepts false (Json.member? members f.name)

/-- Records with the given fields. -/
def record (fields : List Field) : Shape where
  fits
    | .object members => fitNamed fields members
    | .array items => fitListed fields items
    | _ => false

/-- Records that can only be objects. -/
def namedRecord (fields : List Field) : Shape where
  fits
    | .object members => fitNamed fields members
    | _ => false

end Shape

end PipelineServer
