import FrameStream.Json.Printer

/-!
# Reading typed data

Readers of single types, first from values and then from documents.  A record is read from an object, whose members
may come in any order, or from an array, which holds the fields in order; a choice between several forms is an
object with the name of the form as its only key.  A fault is `Fault.unexpected` where the text is JSON but not what
the type asks for.
-/

namespace FrameStream.Json

/-! ### Single values -/

namespace Value

def asText : Value → Except Fault String
  | .string s => .ok s
  | _ => .error .unexpected

def asBool : Value → Except Fault Bool
  | .bool b => .ok b
  | _ => .error .unexpected

/-- An integer from `lower` to `upper`; a number with a point or a power of ten is none. -/
def asInt (lower upper : Int) : Value → Except Fault Int
  | .number (.integer i) => if lower ≤ i.value ∧ i.value ≤ upper then .ok i.value else .error .unexpected
  | _ => .error .unexpected

def asInt64 (v : Value) : Except Fault Int64 :=
  Int64.ofInt <$> v.asInt (-0x8000000000000000) 0x7FFFFFFFFFFFFFFF

def asInt32 (v : Value) : Except Fault Int32 := Int32.ofInt <$> v.asInt (-0x80000000) 0x7FFFFFFF

def asUInt64 (v : Value) : Except Fault UInt64 :=
  (fun i => UInt64.ofNat i.toNat) <$> v.asInt 0 0xFFFFFFFFFFFFFFFF

def asUInt8 (v : Value) : Except Fault UInt8 := (fun i => UInt8.ofNat i.toNat) <$> v.asInt 0 0xFF

/-- A number in double precision. -/
def asDouble : Value → Except Fault (Finite double)
  | .number (.float x) => .ok x
  | .number (.integer i) =>
    match Binary.ofInt double i.value with
    | .finite x => .ok x
    | .infinite _ => .error .unexpected
  | _ => .error .unexpected

/-- A number in single precision.  One that is not an integer has been rounded to double precision before. -/
def asSingle : Value → Except Fault (Binary single)
  | .number (.float x) => .ok (x.convert single)
  | .number (.integer i) => .ok (.ofInt single i.value)
  | _ => .error .unexpected

/-- A value that may be `null`. -/
def asOption (read : Value → Except Fault α) : Value → Except Fault (Option α)
  | .null => .ok none
  | v => some <$> read v

def asList (read : Value → Except Fault α) : Value → Except Fault (List α)
  | .array items => items.mapM read
  | _ => .error .unexpected

/-- The fields of a record by their names.  An array may end before the last field, but holds nothing behind it. -/
def asRecord (names : List String) : Value → Except Fault (List (String × Value))
  | .object members => .ok members
  | .array items => if items.length ≤ names.length then .ok (names.zip items) else .error .unexpected
  | _ => .error .unexpected

end Value

/-! ### Fields of records -/

/-- A field that has to be there. -/
def required (name : String) (read : δ → Except Fault α) (fields : List (String × δ)) : Except Fault α :=
  match fields.lookup name with
  | some d => read d
  | none => .error .unexpected

/-- A field with a value for when it is missing. -/
def defaulted (name : String) (default : α) (read : δ → Except Fault α) (fields : List (String × δ)) :
    Except Fault α :=
  match fields.lookup name with
  | some d => read d
  | none => .ok default

/-! ### Documents -/

namespace Doc

/-- A number, text or truth value, from what it means. -/
def asScalar (read : Value → Except Fault α) (d : Doc) : Except Fault α := d.scalar >>= read

def asText : Doc → Except Fault String := asScalar Value.asText

def asSingle : Doc → Except Fault (Binary single) := asScalar Value.asSingle

/-- A document that may be `null`. -/
def asOption (read : Doc → Except Fault α) : Doc → Except Fault (Option α)
  | .null => .ok none
  | d => some <$> read d

end Doc

/-- A field of a record that may be missing from an object, and may be `null` where it is there. -/
def optional (name : String) (read : Doc → Except Fault α) : List (String × Doc) → Except Fault (Option α) :=
  defaulted name none (Doc.asOption read)

/-- The items, read one by one. -/
def Items.readAll (read : Doc → Except Fault α) : Items → Except Fault (List α)
  | .closed => .ok []
  | .item head tail => do
    let a ← read head
    let as ← tail.readAll read
    .ok (a :: as)
  | .cut f => .error f

def Doc.asList (read : Doc → Except Fault α) : Doc → Except Fault (List α)
  | .array items => items.readAll read
  | d => d.asScalar fun _ => .error .unexpected

mutual

/-- A document that nobody asks for need only follow the grammar. -/
def Doc.skip : Doc → Except Fault Unit
  | .array items => items.skip
  | .object members => members.skip
  | .cut f => .error f
  | _ => .ok ()

def Items.skip : Items → Except Fault Unit
  | .closed => .ok ()
  | .item head tail => do head.skip; tail.skip
  | .cut f => .error f

def Members.skip : Members → Except Fault Unit
  | .closed => .ok ()
  | .member _ value tail => do value.skip; tail.skip
  | .cut f => .error f

end

/-- The members with the given names, each of which may occur once.  Other members are skipped, but their keys have
to be texts. -/
def Members.fields (names : List String) : Members → (before : List (String × Doc)) →
    Except Fault (List (String × Doc))
  | .closed, before => .ok before
  | .member key value tail, before => do
    let key ← pieceText key
    if names.contains key then
      if (before.lookup key).isSome then .error .unexpected
      else tail.fields names ((key, value) :: before)
    else
      value.skip
      tail.fields names before
  | .cut f, _ => .error f

/-- As many items as there are names. -/
def Items.fields : (names : List String) → Items → Except Fault (List (String × Doc))
  | [], .closed => .ok []
  | [], .item _ _ => .error .malformed
  | _ :: _, .closed => .error .unexpected
  | name :: names, .item head tail => ((name, head) :: ·) <$> tail.fields names
  | _, .cut f => .error f

/-- The fields of a record by their names. -/
def Doc.asRecord (names : List String) : Doc → Except Fault (List (String × Doc))
  | .object members => members.fields names []
  | .array items => items.fields names
  | d => d.asScalar fun _ => .error .unexpected

/-- One of several forms: its name, and what belongs to it. -/
def Doc.asChoice : Doc → Except Fault (String × Doc)
  | .object (.member key value .closed) => (·, value) <$> pieceText key
  | .object _ => .error .malformed
  | d => d.asScalar fun _ => .error .unexpected

end FrameStream.Json
