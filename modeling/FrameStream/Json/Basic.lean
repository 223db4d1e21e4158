import FrameStream.Number.Literal

/-!
# JSON documents and values

A *document* is a JSON text as it is written: literals of numbers, strings in pieces, members in their order with
repetitions, and, where the text breaks off or goes wrong, a cut.  A *value* is what a document means: members
are sorted by their keys, and no key occurs twice.
-/

namespace FrameStream

/-- What is wrong with a text that should hold a value. -/
inductive Fault where
  /-- The text ends inside a value, or where one is due. -/
  | truncated
  /-- The text is not JSON. -/
  | malformed
  /-- The text is JSON, but not what is expected. -/
  | unexpected
  /-- The text could not be read from where it is stored. -/
  | unreadable
  deriving DecidableEq

namespace Json

/-! ### Documents -/

/-- A piece of a string: an octet as it stands, or a UTF-16 unit written with a backslash. -/
inductive Piece where
  | octet (b : UInt8)
  | unit (u : UInt16)
  deriving DecidableEq

mutual

/-- A JSON text from the start of a value; `cut` is where no value can be read. -/
inductive Doc where
  | null
  | bool (b : Bool)
  | number (l : Literal)
  | string (pieces : List Piece)
  | array (items : Items)
  | object (members : Members)
  | cut (f : Fault)

/-- The items of an array, up to its bracket or to where a comma or bracket is missing. -/
inductive Items where
  | closed
  | item (head : Doc) (tail : Items)
  | cut (f : Fault)

/-- The members of an object, up to its brace or to where a key, comma or brace is missing. -/
inductive Members where
  | closed
  | member (key : List Piece) (value : Doc) (tail : Members)
  | cut (f : Fault)

end

deriving instance DecidableEq for Doc, Items, Members

/-- Arrays and objects may be nested this deep. -/
def depthLimit : Nat := 127

/-! ### Values -/

/-- An integer between the least of 64 bits with sign and the greatest of 64 bits without. -/
structure WideInt where
  value : Int
  lower : -0x8000000000000000 ≤ value
  upper : value < 0x10000000000000000
  deriving DecidableEq

inductive Number where
  | integer (i : WideInt)
  | float (x : Finite double)
  deriving DecidableEq

inductive Value where
  | null
  | bool (b : Bool)
  | number (n : Number)
  | string (s : String)
  | array (items : List Value)
  | object (members : List (String × Value))
  deriving Inhabited

/-- The members with one more, which takes the place of a member of the same key. -/
def insertMember (key : String) (value : Value) : List (String × Value) → List (String × Value)
  | [] => [(key, value)]
  | (k, v) :: rest =>
    if key < k then (key, value) :: (k, v) :: rest
    else if key = k then (key, value) :: rest
    else (k, v) :: insertMember key value rest

/-- The value of a member, if the value is an object that has it. -/
def Value.member? (key : String) : Value → Option Value
  | .object members => members.lookup key
  | _ => none

end Json

end FrameStream
