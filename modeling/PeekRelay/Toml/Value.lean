/-!
# TOML values

A value does not remember how it was written: an inline table and a table under a header are the
same. Only while a document is read, tables remember how they came to be, because that decides what
may still be added: a table gets at most one header, and dotted keys extend only tables that dotted
keys have made.
-/
namespace PeekRelay.Toml

inductive Value where
  | text (s : String)
  | integer (n : Int)
  | float
  | boolean (b : Bool)
  | dateTime
  | array (items : List Value)
  | table (members : List (String × Value))
  deriving Repr

/-- A table has each key once. -/
abbrev Table := List (String × Value)

namespace Table

def get? (t : Table) (key : String) : Option Value :=
  (t.find? fun member => member.1 = key).map Prod.snd

end Table

/-- Whether a table has a header of its own, is on the way to one, or was made by a dotted key. -/
inductive Origin where
  | header | implied | dotted
  deriving DecidableEq, Repr

/-- An array of tables has a latest element, which takes all that is added. -/
inductive Node where
  | value (v : Value)
  | table (origin : Origin) (members : List (String × Node))
  | tables (latest : List (String × Node)) (earlier : List (List (String × Node)))

abbrev Members := List (String × Node)

/-- The keys of the tables on the way, and the key in the last of them. -/
structure KeyPath where
  path : List String
  key : String

namespace Members

def get? (ms : Members) (key : String) : Option Node :=
  (ms.find? fun m => m.1 = key).map Prod.snd

/-- Puts a node in the place of the one that has the key, or at the end. -/
def put (ms : Members) (key : String) (n : Node) : Members :=
  match ms with
  | [] => [(key, n)]
  | m :: ms => if m.1 = key then (key, n) :: ms else m :: put ms key n

/-- Changes the table at the end of a path. Tables that are missing on the way come to be; a dotted
path does not enter a table with a header. -/
def descend (dotted : Bool) (change : Origin → Members → Option Members) :
    List String → Origin → Members → Option Members
  | [], origin, ms => change origin ms
  | key :: path, _, ms =>
    match ms.get? key with
    | none => do
      let origin := if dotted then Origin.dotted else .implied
      pure (ms.put key (.table origin (← descend dotted change path origin [])))
    | some (.value _) => none
    | some (.table origin inner) => do
      if dotted && origin = .header then none
      else pure (ms.put key (.table origin (← descend dotted change path origin inner)))
    | some (.tables latest earlier) => do
      pure (ms.put key (.tables (← descend dotted change path .header latest) earlier))

def insert (k : KeyPath) (v : Value) : Origin → Members → Option Members :=
  descend true (fun origin ms =>
    if (origin == .dotted) == k.path.isEmpty || (ms.get? k.key).isSome then none
    else some (ms.put k.key (.value v))) k.path

/-- Gives a table its header. -/
def openTable (k : KeyPath) : Members → Option Members :=
  descend false (fun _ ms =>
    match ms.get? k.key with
    | none => some (ms.put k.key (.table .header []))
    | some (.table .implied inner) => some (ms.put k.key (.table .header inner))
    | _ => none) k.path .header

def openElement (k : KeyPath) : Members → Option Members :=
  descend false (fun _ ms =>
    match ms.get? k.key with
    | none => some (ms.put k.key (.tables [] []))
    | some (.tables latest earlier) => some (ms.put k.key (.tables [] (latest :: earlier)))
    | _ => none) k.path .header

end Members

mutual

def Node.toValue : Node → Value
  | .value v => v
  | .table _ members => .table (membersToTable members)
  | .tables latest earlier =>
    .array ((Value.table (membersToTable latest) :: elementsToValues earlier).reverse)

def membersToTable : List (String × Node) → Table
  | [] => []
  | (key, n) :: ms => (key, n.toValue) :: membersToTable ms

def elementsToValues : List (List (String × Node)) → List Value
  | [] => []
  | ms :: rest => .table (membersToTable ms) :: elementsToValues rest

end

end PeekRelay.Toml
