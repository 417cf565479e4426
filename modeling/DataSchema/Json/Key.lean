import DataSchema.Json.Value

/-!
Canonical images of values. Two values are deep-equal when their keys are: numbers compare by
value, and the order of members does not count.
-/
namespace DataSchema

inductive Key where
  | null
  | bool (value : Bool)
  | number (value : Binary64)
  | string (value : String)
  | array (items : List Key)
  | object (members : List (String × Key))
deriving Repr, Inhabited

namespace Key

/-- Kinds from the least to the greatest. -/
def rank : Key → Nat
  | .null => 0
  | .bool _ => 1
  | .number _ => 2
  | .string _ => 3
  | .array _ => 4
  | .object _ => 5

mutual

/-- Lists compare item by item, a proper beginning being less; objects are lists of name and key. -/
def order : Key → Key → Ordering
  | .bool a, .bool b => compare a b
  | .number a, .number b => a.order b
  | .string a, .string b => compare a b
  | .array a, .array b => orderItems a b
  | .object a, .object b => orderMembers a b
  | a, b => compare a.rank b.rank

def orderItems : List Key → List Key → Ordering
  | [], [] => .eq
  | [], _ :: _ => .lt
  | _ :: _, [] => .gt
  | a :: as, b :: bs => (order a b).then (orderItems as bs)

def orderMembers : List (String × Key) → List (String × Key) → Ordering
  | [], [] => .eq
  | [], _ :: _ => .lt
  | _ :: _, [] => .gt
  | (m, a) :: as, (n, b) :: bs =>
    (compare m n).then ((order a b).then (orderMembers as bs))

end

def same (a b : Key) : Bool := order a b == .eq

/-- Inserts a member into a list ordered by name. -/
def insertMember (name : String) (key : Key) : List (String × Key) → List (String × Key)
  | [] => [(name, key)]
  | (n, k) :: rest =>
    match compare name n with
    | .lt => (name, key) :: (n, k) :: rest
    | .eq => (n, key) :: rest
    | .gt => (n, k) :: insertMember name key rest

end Key

namespace Json

mutual

def key : Json → Key
  | .null => .null
  | .bool value => .bool value
  | .number value => .number value.toBinary64
  | .string value => .string value
  | .array items => .array (keys items)
  | .object members => .object (memberKeys members [])

def keys : List Json → List Key
  | [] => []
  | value :: rest => value.key :: keys rest

def memberKeys : Members → List (String × Key) → List (String × Key)
  | [], sorted => sorted
  | (name, value) :: rest, sorted => memberKeys rest (Key.insertMember name value.key sorted)

end

def deepEqual (v w : Json) : Bool := v.key.same w.key

/-- Places of the first value that is deep-equal to an earlier one: the earlier place, then its
own. `seen` holds the earlier keys with their places. -/
def firstRepeatFrom (seen : List (Key × Nat)) (place : Nat) : List Json → Option (Nat × Nat)
  | [] => none
  | value :: rest =>
    let own := value.key
    match seen.find? fun entry => entry.1.same own with
    | some entry => some (entry.2, place)
    | none => firstRepeatFrom (seen ++ [(own, place)]) (place + 1) rest

def firstRepeat (items : List Json) : Option (Nat × Nat) := firstRepeatFrom [] 0 items

/-- The first value that is deep-equal to an earlier one. -/
def repeated? (earlier : List Key) : List Json → Option Json
  | [] => none
  | value :: rest =>
    let own := value.key
    if earlier.any (·.same own) then some value else repeated? (own :: earlier) rest

end Json
end DataSchema
