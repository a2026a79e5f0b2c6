import ImportLint.Document.Fault

/-!
# Shapes of documents

Readers for the parts of a document: texts, flags, counts, lists, optional parts, names out of a fixed list,
and records. A record is written as a table of its fields or as a list of them in order. Fields are read in
the order in which the document gives them, so the first fault of a document is the one that is reported.
-/

namespace ImportLint.Document

/-- Reads a value of type `α` from a part of a document. -/
abbrev Reader (α : Type) := Tree → Except ReadError α

/-- The error for a part of a document that is not `expected`. -/
def Tree.mismatch (expected : String) (t : Tree) : ReadError :=
  match t, t.found? with
  | .broken b, _ => b.error
  | _, some found => .content (.invalidType found expected)
  | _, none => .malformed

namespace Reader

def text : Reader String
  | .text s => .ok s
  | t => .error (t.mismatch "a string")

def flag : Reader Bool
  | .bool b => .ok b
  | t => .error (t.mismatch "a boolean")

def count : Reader Nat
  | .int (.ofNat n) => .ok n
  | .int (.negSucc _) => .error (.content .invalidValue)
  | t => .error (t.mismatch "usize")

def unit : Reader Unit
  | .null => .ok ()
  | t => .error (t.mismatch "unit")

/-- `null` stands for an absent value. -/
def optional {α : Type} (r : Reader α) : Reader (Option α)
  | .null => .ok none
  | .broken (.endedInWord true) => .error .ended
  | t => some <$> r t

/-- Reads the items in order, then asks for the closing bracket. -/
def list {α : Type} (r : Reader α) : Reader (List α)
  | .list items stop => do
    let xs ← items.mapM r
    match stop.break? with
    | none => .ok xs
    | some b => .error b.error
  | t => .error (t.mismatch "a sequence")

/-- Passes over a value of no interest. -/
def anything : Reader Unit := fun t =>
  match t.firstBreak with
  | none => .ok ()
  | some b => .error b.errorPassedOver

/-- One of the names that `parse?` knows; `known` lists them for the message. -/
def named {α : Type} (parse? : String → Option α) (known : List String) (name : String) : Except ReadError α :=
  match parse? name with
  | some a => .ok a
  | none => .error (.content (.unknownVariant name known))

/-- A name out of a list, as a string or as the only key of a table whose value is `null`. -/
def choice {α : Type} (parse? : String → Option α) (known : List String) : Reader α
  | .text s => named parse? known s
  | .broken b => .error b.errorAtName
  | .table ((.text key, value) :: rest) stop => do
    let a ← named parse? known key
    let _ ← unit value
    match rest, stop with
    | [], .closed => .ok a
    | [], .beforeComma b => .error b.error
    | _, _ => .error .malformed
  | .table [] stop =>
    match stop.break? with
    | none => .error .malformed
    | some (.notKey found) => .error (.content (.invalidType found "variant identifier"))
    | some b => .error b.error
  | _ => .error .malformed

end Reader

/-- A field of the record type `α`: its name, further spellings of its name, whether it must be given, and
how its value enters the record. -/
structure Field (α : Type) where
  name : String
  aliases : List String
  required : Bool
  read : α → Reader α

namespace Field

variable {α β : Type}

/-- A field that must be given. -/
def need (name : String) (r : Reader β) (put : β → α → α) : Field α where
  name := name
  aliases := []
  required := true
  read a t := (fun b => put b a) <$> r t

/-- A field that may be left out. -/
def want (name : String) (r : Reader β) (put : β → α → α) : Field α where
  name := name
  aliases := []
  required := false
  read a t := (fun b => put b a) <$> r t

/-- The same field with another spelling of its name. -/
def orNamed (f : Field α) (spelling : String) : Field α :=
  { f with aliases := f.aliases ++ [spelling] }

/-- Every spelling of the name, in the order of the alphabet. -/
def spellings (f : Field α) : List String :=
  (f.name :: f.aliases).mergeSort (fun a b => decide (a ≤ b))

/-- Whether a key names the field. -/
def isNamed (f : Field α) (key : String) : Bool :=
  f.name == key || f.aliases.contains key

end Field

/-- A record type as documents write it. `strict` records take no keys but those of their fields. -/
structure Shape (α : Type) where
  name : String
  fields : List (Field α)
  blank : α
  strict : Bool

namespace Shape

variable {α : Type}

/-- The record as far as it has been read, and the names of the fields given so far. -/
structure Partial (α : Type) where
  value : α
  given : List String

/-- The spellings of all field names, in the order of the fields. -/
def known (s : Shape α) : List String :=
  s.fields.flatMap Field.spellings

/-- Takes in one member of a table: a known field once, an unknown key only if the record is not strict. -/
def readMember (s : Shape α) (p : Partial α) (member : Key × Tree) : Except ReadError (Partial α) :=
  match member with
  | (.unpaired, _) => .error .malformed
  | (.text key, t) =>
    match s.fields.find? fun f => f.isNamed key with
    | some f =>
      if p.given.contains f.name then .error (.content (.duplicateField f.name))
      else (fun a => ⟨a, f.name :: p.given⟩) <$> f.read p.value t
    | none =>
      if s.strict then .error (.content (.unknownField key s.known))
      else (fun _ => p) <$> Reader.anything t

/-- The record once all members are in: the first field that is due and missing is a fault. -/
def finish (s : Shape α) (p : Partial α) : Except ReadError α :=
  match s.fields.find? fun f => f.required && !p.given.contains f.name with
  | some f => .error (.content (.missingField f.name))
  | none => .ok p.value

/-- Reads fields in order from the items of a list. Fields that may be left out may be missing at the end of
the list; a list with more items than fields is malformed, except that a strict record passes over them. -/
def readItems (s : Shape α) (stop : Stop) : List (Field α) → List Tree → α → Except ReadError α
  | [], [], a =>
    match stop.break? with
    | none => .ok a
    | some b => .error b.error
  | [], _ :: _, a => if s.strict then .ok a else .error .malformed
  | f :: fs, [], a =>
    match stop.break? with
    | some b => .error b.error
    | none => if f.required then .error (.content .invalidValue) else s.readItems stop fs [] a
  | f :: fs, t :: ts, a => f.read a t >>= s.readItems stop fs ts

/-- Reads a record from a table of its fields or from a list of them. -/
def reader (s : Shape α) : Reader α
  | .table members stop => do
    let p ← members.foldlM s.readMember ⟨s.blank, []⟩
    match stop.break? with
    | some b => .error b.error
    | none => s.finish p
  | .list items stop => s.readItems stop s.fields items s.blank
  | t => .error (t.mismatch ("struct " ++ s.name))

end Shape

end ImportLint.Document
