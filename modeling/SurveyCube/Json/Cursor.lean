import SurveyCube.Json.Reader

/-!
# How far a failed reading comes

A stream gives out one byte at a time, and what has been given out is gone.  A
reader that gives up leaves the stream in the middle of a value; who reads on
starts there.

`Cursor` is the place where a reader stands.  A reader may have to look at the
next byte before it knows that it cannot use it, and then this byte is gone as
well.  The other functions say what follows a piece of a document, or where a
reader gives it up:

* in quoted text right behind the byte that is wrong there;
* in a numeral, and between the parts of a list or a record, in front of the
  byte that is wrong there, after a look at it;
* a list or a record that is given up is closed if its closing bracket comes
  next.

`Json.read?` decides what a text means; here nothing is built.
-/

namespace SurveyCube.Json

/-- Where a reader stands. -/
structure Cursor where
  /-- The bytes that have not been used. -/
  rest : Bytes
  /-- The first of them has been looked at. -/
  looked : Bool
  deriving DecidableEq, Repr

namespace Cursor

def unread (cursor : Cursor) : Bytes :=
  if cursor.looked then cursor.rest.drop 1 else cursor.rest

/-- The end of a list that was given up. -/
def closeList (cursor : Cursor) : Cursor :=
  match skipBlanks cursor.rest with
  | 93 :: rest => ⟨rest, false⟩
  | 44 :: rest => ⟨skipBlanks rest, true⟩
  | rest => ⟨rest, true⟩

def closeRecord (cursor : Cursor) : Cursor :=
  match skipBlanks cursor.rest with
  | 125 :: rest => ⟨rest, false⟩
  | rest => ⟨rest, true⟩

end Cursor

/-! ## Quoted text -/

/-- What follows the closing quotation mark, or the place where a reader gives
the text up. -/
def quotedEnd : Bytes → Except Bytes Bytes
  | [] => .error []
  | 34 :: rest => .ok rest
  | 92 :: 117 :: a :: b :: c :: d :: rest =>
      match unit? a b c d with
      | none => .error rest
      | some unit =>
          if isTrailing unit then .error rest
          else if isLeading unit then
            match rest with
            | 92 :: 117 :: a :: b :: c :: d :: rest =>
                match unit? a b c d with
                | none => .error rest
                | some unit => if isTrailing unit then quotedEnd rest else .error rest
            | 92 :: 117 :: _ => .error []
            | 92 :: rest => .error (rest.drop 1)
            | rest => .error (rest.drop 1)
          else quotedEnd rest
  | 92 :: 117 :: _ => .error []
  | 92 :: letter :: rest =>
      if (escaped? letter).isSome then quotedEnd rest else .error rest
  | value :: rest =>
      if value < 32 then .error rest else quotedEnd rest

def quotedText (bytes : Bytes) : Except Cursor (String × Bytes) :=
  match quotedEnd bytes, (pieces? bytes).bind fun (pieces, _) => decode? pieces with
  | .ok rest, some text => .ok (text, rest)
  | .ok rest, none | .error rest, _ => .error ⟨rest, false⟩

/-! ## Words and numerals -/

def wordEnd : Bytes → Bytes → Except Cursor Bytes
  | [], rest => .ok rest
  | _ :: _, [] => .error ⟨[], false⟩
  | expected :: later, byte :: rest =>
      if byte = expected then wordEnd later rest else .error ⟨rest, false⟩

def startsNumeral (bytes : Bytes) : Bool :=
  match bytes with
  | 45 :: _ => true
  | byte :: _ => Decimal.isDigit byte
  | [] => false

/-- Where a numeral without its sign is given up that is not well formed. -/
def numeralFailure (bytes : Bytes) : Cursor :=
  match whole? bytes with
  | none => ⟨bytes.drop 1, bytes.head? = some 48⟩
  | some (_, rest) =>
      match fraction? rest with
      | none => ⟨rest.drop 1, true⟩
      | some (_, rest) => ⟨(exponentSign (rest.drop 1)).2.drop 1, false⟩

/-- What follows the digit with which an exponent gets too large, given the
value of the digits before. -/
def afterExcess : Nat → Bytes → Bytes
  | _, [] => []
  | value, digit :: rest =>
      let next := value * 10 + Decimal.digitValue digit
      if maxExponent < next then rest else afterExcess next rest

/-- Where a numeral beyond the doubles is given up. -/
def excessFailure (numeral : Numeral) (rest : Bytes) : Cursor :=
  match numeral.exponent with
  | some (_, digits) =>
      if maxExponent < Decimal.value digits then ⟨afterExcess 0 (digits ++ rest), false⟩
      else ⟨rest, true⟩
  | none => ⟨rest, true⟩

def numeralEnd (bytes : Bytes) : Except Cursor Bytes :=
  match numeral? bytes with
  | some (numeral, rest) =>
      if numeral.toDatum.readable then .ok rest else .error (excessFailure numeral rest)
  | none => .error (numeralFailure (if bytes.head? = some 45 then bytes.drop 1 else bytes))

/-! ## Values -/

/-- What follows a value that is neither a list nor a record. -/
def scalarEnd : Bytes → Except Cursor Bytes
  | 34 :: rest => (quotedText rest).map Prod.snd
  | 110 :: rest => wordEnd (Text.bytes "ull") rest
  | 116 :: rest => wordEnd (Text.bytes "rue") rest
  | 102 :: rest => wordEnd (Text.bytes "alse") rest
  | bytes => if startsNumeral bytes then numeralEnd bytes else .error ⟨bytes, true⟩

/-- Where a reader stands that wanted some other kind of value.  It has read
all of the value, except for a list or a record. -/
def unwanted (bytes : Bytes) : Cursor :=
  match scalarEnd bytes with
  | .ok rest => ⟨rest, startsNumeral bytes⟩
  | .error cursor => cursor

def colonEnd (bytes : Bytes) : Except Cursor Bytes :=
  match skipBlanks bytes with
  | 58 :: rest => .ok rest
  | rest => .error ⟨rest, true⟩

section Containers

variable (valueEnd : Bytes → Except Cursor Bytes)

/-- What follows the items of a list, given a bound on their number. -/
def itemsEnd : Nat → Bytes → Except Cursor Bytes
  | 0, bytes => .error ⟨bytes, false⟩
  | bound + 1, bytes => do
      match skipBlanks (← valueEnd bytes) with
      | 93 :: rest => return rest
      | 44 :: rest =>
          match skipBlanks rest with
          | [] => .error ⟨[], true⟩
          | 93 :: rest => .error ⟨93 :: rest, true⟩
          | rest => itemsEnd bound rest
      | rest => .error ⟨rest, true⟩

def listEnd (bound : Nat) (bytes : Bytes) : Except Cursor Bytes :=
  match skipBlanks bytes with
  | [] => .error ⟨[], true⟩
  | 93 :: rest => .ok rest
  | rest => itemsEnd valueEnd bound rest

variable {σ : Type} (fieldEnd : σ → String → Bytes → Except Cursor (σ × Bytes))

/-- What follows the fields of a record, after the quotation mark of a name.
The given function says what follows a field after its name, and what it has to
know about the fields before. -/
def fieldsEnd : Nat → σ → Bytes → Except Cursor (σ × Bytes)
  | 0, _, bytes => .error ⟨bytes, false⟩
  | bound + 1, known, bytes => do
      let (name, rest) ← quotedText bytes
      let (known, rest) ← fieldEnd known name rest
      match skipBlanks rest with
      | 125 :: rest => return (known, rest)
      | 44 :: rest =>
          match skipBlanks rest with
          | 34 :: rest => fieldsEnd bound known rest
          | rest => .error ⟨rest, true⟩
      | rest => .error ⟨rest, true⟩

def recordEnd (bound : Nat) (known : σ) (bytes : Bytes) : Except Cursor (σ × Bytes) :=
  match skipBlanks bytes with
  | 125 :: rest => .ok (known, rest)
  | 34 :: rest => fieldsEnd fieldEnd bound known rest
  | rest => .error ⟨rest, true⟩

end Containers

/-- What follows a field with any value, after its name. -/
def anyFieldEnd (valueEnd : Bytes → Except Cursor Bytes) (_known : Unit) (_name : String)
    (bytes : Bytes) : Except Cursor (Unit × Bytes) := do
  return ((), ← valueEnd (← colonEnd bytes))

/-- What follows a value of at most so many levels, given a bound on the length
of its lists. -/
def valueEnd (bound : Nat) : Nat → Bytes → Except Cursor Bytes
  | 0, bytes => scalarEnd (skipBlanks bytes)
  | levels + 1, bytes =>
      match skipBlanks bytes with
      | 91 :: rest =>
          (listEnd (valueEnd bound levels) bound rest).mapError Cursor.closeList
      | 123 :: rest =>
          ((recordEnd (anyFieldEnd (valueEnd bound levels)) bound () rest).map
            Prod.snd).mapError Cursor.closeRecord
      | rest => scalarEnd rest

end SurveyCube.Json
