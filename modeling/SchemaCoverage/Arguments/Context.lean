import SchemaCoverage.Assoc
import SchemaCoverage.Text.Quoted
/-!
Contexts: values that travel with a request and are found by key. A value has an identity, so
that one value may be stored under several keys.
-/
namespace SchemaCoverage.Arguments

/-- The data of a context value. -/
inductive Datum
  | unit
  | flag (value : Bool)
  | integer (value : Int)
  | text (value : String)
deriving Repr, DecidableEq

/-- A context value: data with an identity. -/
structure ContextValue where
  identity : Nat
  datum : Datum
deriving Repr, DecidableEq

namespace ContextValue

/-- Two values are one and the same. -/
def same (a b : ContextValue) : Bool :=
  a.identity == b.identity

/-- The text, if the value is one. -/
def text? (value : ContextValue) : Option String :=
  match value.datum with
  | .text text => some text
  | _ => none

/-- The integer, if the value is one. -/
def integer? (value : ContextValue) : Option Int :=
  match value.datum with
  | .integer integer => some integer
  | _ => none

/-- The truth value, if the value is one. -/
def flag? (value : ContextValue) : Option Bool :=
  match value.datum with
  | .flag flag => some flag
  | _ => none

end ContextValue

/-- Values by key. -/
structure Context where
  values : Assoc String ContextValue
deriving Repr, DecidableEq

namespace Context

/-- Nothing is stored. -/
def empty : Context := ⟨[]⟩

/-- The value of a key. -/
def get? (context : Context) (key : String) : Option ContextValue :=
  context.values.find? key

/-- A value is stored under the key. -/
def contains (context : Context) (key : String) : Bool :=
  (context.get? key).isSome

/-- Stores a value under a key, in place of any other. -/
def insert (context : Context) (key : String) (value : ContextValue) : Context :=
  ⟨context.values.put key value⟩

/-- Stores the value of a key under another key as well, if there is one. -/
def share (context : Context) (key other : String) : Option Context :=
  (context.get? key).map (context.insert other)

/-- The number of keys. -/
def size (context : Context) : Nat :=
  context.values.length

/-- The keys in order. -/
def sortedKeys (context : Context) : List String :=
  context.values.keys.mergeSort fun a b => !(b < a)

/-- The context in words: its keys in order. -/
def render (context : Context) : String :=
  "GraphQLContext \x7b keys: [" ++
    ", ".intercalate (context.sortedKeys.map Text.quote) ++ "] \x7d"

end Context

/-- The contexts of a field: one for the whole request, and perhaps one of its own. -/
structure Environment where
  global : Context
  own : Option Context
deriving Repr, DecidableEq

end SchemaCoverage.Arguments
